/-
# TemplateLookup.Proofs.World.Retimed -- worlds that differ in the times of files

Two worlds that differ in times only are worlds that differ in what their files hold
(`Retimed.rewritten`), so every walk ends at the same location, and every question but that for
a time has the same answer (`isReadable_retimed`). Setting the time of a file makes such a pair
of worlds (`retimed_of_setTime`).
-/

import TemplateLookup.Proofs.World.Rewritten
import TemplateLookup.World.Edit

namespace TemplateLookup

/-- The entry with another time, if it is a file. -/
def Entry.retimed (f : FileTime → FileTime) : Entry → Entry
  | .file content time => .file content (f time)
  | e => e

namespace World

/-- The second world is the first one with other times: the time of the file at each location
is told by a function. -/
structure Retimed (times : Location → FileTime → FileTime) (w w' : World) : Prop where
  entry : ∀ loc, w'.entry? loc = Option.map (Entry.retimed (times loc)) ( w.entry? loc)
  here : w'.here = w.here
  faults : w'.faults = w.faults

section

variable {times : Location → FileTime → FileTime} {w w' : World} (h : Retimed times w w')

include h

/-- A file with another time is another file with the same content. -/
theorem Retimed.rewritten : Rewritten (fun loc content time => (content, times loc time)) w w' := by
  refine ⟨fun loc => ?_, h.here, h.faults⟩
  rw [h.entry]
  cases w.entry? loc with
  | none => rfl
  | some e => cases e <;> rfl

/-! ## Questions about files -/

theorem fileAt?_retimed {p : Path} {loc : Location} {content : Bytes} {time : FileTime}
    (hlook : w.look p = .ok (loc, .file content time)) :
    w'.fileAt? p = some (content, times loc time) :=
  fileAt?_rewritten h.rewritten hlook

/-- The time of the file by path is the new one, unless just this question fails. -/
theorem stampAt?_retimed {p : Path} {loc : Location} {content : Bytes} {time : FileTime}
    (hlook : w.look p = .ok (loc, .file content time)) :
    w'.stampAt? p =
      if w.faultAt p = some .pathTime then none else some (times loc time).stamp := by
  rw [stampAt?, faultAt_rewritten h.rewritten, fileAt?_retimed h hlook]
  rfl

theorem isReadable_retimed (p : Path) : w'.isReadable p = w.isReadable p := by
  rw [isReadable, isReadable, isFile_rewritten h.rewritten, faultAt_rewritten h.rewritten]

end

/-! ## Setting a time -/

/-- Setting the time of a file changes the time of this file and nothing else. -/
theorem retimed_of_setTime {w w' : World} {p : Path} {loc : Location} {content : Bytes}
    {time time' : FileTime} (hlook : w.look p = .ok (loc, .file content time))
    (h : w.setTime p time' = .ok w') :
    Retimed (fun place t => if place = loc then time' else t) w w' := by
  have hput := rewritten_put (entry?_of_look hlook) content time'
  rw [setTime, hlook] at h
  cases h
  refine ⟨fun place => ?_, rfl, rfl⟩
  rw [hput.entry]
  by_cases hsame : place = loc
  · subst hsame
    rw [entry?_of_look hlook]
    simp [Entry.rewritten, Entry.retimed]
  · simp only [if_neg hsame]
    cases w.entry? place with
    | none => rfl
    | some e => cases e <;> rfl

end World

end TemplateLookup
