/-
# TemplateLookup.Proofs.World.Rewritten -- worlds that differ in what their files hold

Where a walk goes depends on names, links and directories, not on what is in a file. So in two
worlds that differ only in the contents and times of their files, every walk ends at the same
location (`look_rewritten`), and what is found there is the file of the second world
(`fileAt?_rewritten`). Putting a file in the place of another one makes such a pair of worlds
(`rewritten_put`).
-/

import TemplateLookup.Proofs.World.Tree

namespace TemplateLookup

/-- The entry with other content and another time, if it is a file. -/
def Entry.rewritten (f : Bytes → FileTime → Bytes × FileTime) : Entry → Entry
  | .file content time => .file (f content time).1 (f content time).2
  | e => e

theorem Entry.rewritten_id (e : Entry) : e.rewritten Prod.mk = e := by
  cases e <;> rfl

namespace World

/-- The second world is the first one with other files: what the file at each location holds is
told by a function. -/
structure Rewritten (files : Location → Bytes → FileTime → Bytes × FileTime) (w w' : World) :
    Prop where
  entry : ∀ loc, w'.entry? loc = Option.map (Entry.rewritten (files loc)) ( w.entry? loc)
  here : w'.here = w.here
  faults : w'.faults = w.faults

/-- The end of a walk, with other files. -/
def Walk.rewritten (files : Location → Bytes → FileTime → Bytes × FileTime) : Walk → Walk
  | .arrived loc e => .arrived loc (e.rewritten (files loc))
  | ended => ended

section

variable {files : Location → Bytes → FileTime → Bytes × FileTime} {w w' : World}
  (h : Rewritten files w w')

include h

/-! ## Walks -/

theorem descend_rewritten (dir : Location) (segments : List String) :
    w'.descend dir segments = (w.descend dir segments).rewritten files := by
  induction segments generalizing dir with
  | nil => rfl
  | cons s rest ih =>
    have hbarrier := barrier?_congr h.faults dir s
    rcases segment_cases w dir s with ⟨cause, hbar⟩ | ⟨hbar, hs⟩ | ⟨hbar, rfl⟩ | ⟨hbar, hs⟩
    · rw [descend_barred hbar, descend_barred (hbarrier.trans hbar)]
      rfl
    · rw [descend_stays hbar hs, descend_stays (hbarrier.trans hbar) hs]
      exact ih dir
    · rw [descend_back hbar, descend_back (hbarrier.trans hbar)]
      exact ih dir.dropLast
    · -- both worlds have the same kind of entry below the directory
      rw [descend_leading hbar hs, descend_leading (hbarrier.trans hbar) hs, h.entry]
      cases w.entry? (dir ++ [s]) with
      | none => by_cases hrest : rest = [] <;> simp [hrest, Walk.rewritten]
      | some e =>
        cases e with
        | directory => exact ih (dir ++ [s])
        | link target => rfl
        | _ => by_cases hrest : rest = [] <;> simp [hrest, Walk.rewritten, Entry.rewritten]

theorem chase_rewritten (links : Nat) (dir : Location) (segments : List String) :
    w'.chase links dir segments = (w.chase links dir segments).rewritten files := by
  induction links generalizing dir segments with
  | zero =>
    rw [chase, chase, descend_rewritten h]
    cases w.descend dir segments <;> rfl
  | succ links ih =>
    rw [chase, chase, descend_rewritten h]
    cases w.descend dir segments with
    | link holder target rest => exact ih _ _
    | _ => rfl

theorem look_rewritten (p : Path) :
    w'.look p = (w.look p).map fun found => (found.1, found.2.rewritten (files found.1)) := by
  have hwalk : w'.walk p = (w.walk p).rewritten files := by
    rw [walk, walk, startOf, startOf, h.here]
    cases refusal? p with
    | some cause => rfl
    | none => exact chase_rewritten h linkLimit _ p.segments
  rw [look, look, hwalk]
  cases w.walk p <;> rfl

/-! ## Questions about files -/

theorem fileAt?_rewritten {p : Path} {loc : Location} {content : Bytes} {time : FileTime}
    (hlook : w.look p = .ok (loc, .file content time)) :
    w'.fileAt? p = some (files loc content time) := by
  rw [fileAt?, look_rewritten h, hlook]
  rfl

theorem isFile_rewritten (p : Path) : w'.isFile p = w.isFile p := by
  rw [isFile, isFile, fileAt?, fileAt?, look_rewritten h]
  cases w.look p with
  | error cause => rfl
  | ok found =>
    obtain ⟨loc, e⟩ := found
    cases e <;> rfl

theorem faultAt_rewritten (p : Path) : w'.faultAt p = w.faultAt p := by
  rw [faultAt, faultAt, absolute, absolute, h.here, h.faults]

/-- A file that can be read still can, and gives what it holds now. -/
theorem readAt_rewritten {p : Path} {loc : Location} {content bytes : Bytes} {time : FileTime}
    (hlook : w.look p = .ok (loc, .file content time)) (hread : w.readAt p = .ok bytes) :
    w'.readAt p = .ok (files loc content time).1 := by
  have hlook' : w'.look p =
      .ok (loc, .file (files loc content time).1 (files loc content time).2) := by
    rw [look_rewritten h, hlook]
    rfl
  simp only [readAt, contentAt, hlook, readOpened] at hread
  simp only [readAt, contentAt, hlook', readOpened, faultAt_rewritten h]
  split at hread
  · cases hread
  · rename_i hfault
    exact if_neg hfault

end

/-! ## Writing a file -/

/-- A file in the place of another one changes what is there, and nothing else. -/
theorem rewritten_put {w : World} {loc : Location} {content : Bytes} {time : FileTime}
    (hfile : w.entry? loc = some (.file content time)) (content' : Bytes) (time' : FileTime) :
    Rewritten (fun place c t => if place = loc then (content', time') else (c, t)) w
      (w.put loc (.file content' time')) := by
  have hloc : loc ≠ [] := by
    rintro rfl
    cases hfile
  refine ⟨fun place => ?_, rfl, rfl⟩
  by_cases hsame : place = loc
  · subst hsame
    rw [entry?_put_self w _ hloc, hfile]
    simp [Entry.rewritten]
  · rw [entry?_put_of_ne w _ hsame]
    simp only [if_neg hsame]
    cases w.entry? place with
    | none => rfl
    | some e => exact congrArg some (Entry.rewritten_id e).symm

end World

end TemplateLookup
