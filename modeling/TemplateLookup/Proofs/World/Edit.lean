/-
# TemplateLookup.Proofs.World.Edit -- changes of files keep the tree

Whatever is made, written, linked or removed, the locations form a tree afterwards if they
did before. A new entry always goes to a place that a walk found: into a directory that is
there, under a name that a file can have (`directory_of_place`), or where a walk found that
only its last name is missing. A path has to come from a text (`Path.IsPlain`).
-/

import TemplateLookup.Proofs.World.Tree
import TemplateLookup.World.Edit

namespace TemplateLookup.World

/-! ## Changes of files -/

section

variable {w : World} {p : Path}

/-- A place is a directory that is there, and a name that a file can have. -/
theorem directory_of_place (hp : p.IsPlain) {dir : Location} {last : String}
    (h : w.place p = .ok (dir, last)) :
    w.entry? dir = some .directory ∧ IsFileName last := by
  rw [place] at h
  split at h
  · cases h
  · rename_i hrefusal
    split at h
    · cases h
    · rename_i found hlast
      have hmem : found ∈ p.segments := List.mem_of_getLast? hlast
      split at h
      · split at h
        · cases h
        · rename_i hback
          split at h
          · cases h
          · rename_i hdir
            split at h
            · cases h
            · rename_i hbar
              cases h
              have hnul := (refusal?_eq_none_iff.mp hrefusal).1 last hmem
              obtain ⟨hempty, hdot, hslash⟩ := hp last hmem
              have hleading := isLeading_of_barrier? hbar (by simp [stays, hempty, hdot]) hback
              exact ⟨Decidable.not_not.mp hdir, hempty, hdot, hback, hslash, hnul, hleading.short⟩
      · cases h
      · cases h
      · cases h
      · cases h

/-- Nothing but the entry is new. -/
theorem eq_put_of_putBelow {dir : Location} {last : String} {e : Entry} {w' : World}
    (h : w.putBelow dir last e = .ok w') : w' = w.put (dir ++ [last]) e := by
  rw [putBelow] at h
  split at h
  · cases h
  · cases h
    rfl

/-- A file is opened for writing where it is, or where only its name is missing. -/
theorem openToWrite_cases {loc : Location} (h : w.openToWrite p = .ok loc) :
    (∃ content time, w.walk p = .arrived loc (.file content time)) ∨
      (w.walk p = .vacant loc ∧ w.entry? loc.dropLast = some .directory) := by
  rw [openToWrite] at h
  split at h
  · rename_i found content time hwalk
    split at h
    · cases h
    · cases h
      exact .inl ⟨content, time, hwalk⟩
  · rename_i found hwalk
    split at h
    · rename_i habove
      split at h
      · cases h
      · cases h
        exact .inr ⟨hwalk, habove⟩
    · cases h
  all_goals cases h

/-- What is written is the beginning of the content; all of it, if nothing was refused. -/
theorem fill_eq (w : World) (p : Path) (loc : Location) (content : Bytes) (time : FileTime) :
    ∃ written, written <+: content ∧
      (w.fill p loc content time).world = w.put loc (.file written time) ∧
      ((w.fill p loc content time).refusal = none → written = content) := by
  rw [fill]
  split
  · rename_i room hfault
    split
    · exact ⟨content, List.prefix_refl content, rfl, fun _ => rfl⟩
    · exact ⟨content.take room, List.take_prefix room content, rfl, nofun⟩
  · exact ⟨content, List.prefix_refl content, rfl, fun _ => rfl⟩

theorem refusedDirectory_world (w : World) (p : Path) (cause : Cause) :
    (w.refusedDirectory p cause).world = w := by
  rw [refusedDirectory]
  split <;> rfl

namespace IsTree

/-! ### Directories -/

theorem makeDirectory (h : w.IsTree) (hp : p.IsPlain) {made : World}
    (hmade : w.makeDirectory p = .ok made) : made.IsTree := by
  rw [World.makeDirectory] at hmade
  split at hmade
  · cases hmade
  · rename_i dir last hplace
    obtain ⟨hdir, hlast⟩ := directory_of_place hp hplace
    split at hmade
    · cases hmade
    · rename_i hfree
      rw [eq_put_of_putBelow hmade]
      exact h.put_unlinked hdir hlast (by simp [hfree]) rfl

theorem ensureDirectory (h : w.IsTree) (hp : p.IsPlain) : (w.ensureDirectory p).world.IsTree := by
  rw [World.ensureDirectory]
  split
  · rename_i made hmade
    exact h.makeDirectory hp hmade
  · exact h
  · rw [refusedDirectory_world]
    exact h

/-- A directory in the working directory that holds something is there already. -/
theorem ensureDirectory_of_child (h : w.IsTree) {s name : String}
    (hs : IsLeading s) (hp : refusal? ⟨.here, [s]⟩ = none) {found : Location × Entry}
    (hlook : w.look ⟨.here, [s, name]⟩ = .ok found) :
    w.ensureDirectory ⟨.here, [s]⟩ = ⟨w, none⟩ := by
  have hwalk : w.chase linkLimit w.here ([s] ++ [name]) = .arrived found.1 found.2 :=
    chase_of_look hlook
  have hhere := h.directory_of_chase hs hwalk
  obtain ⟨stored, hstored⟩ := stored_of_chase hs hwalk
  obtain ⟨middle, hmiddle⟩ := chase_of_append (by simp) hwalk
  have hfound : w.look ⟨.here, [s]⟩ = .ok (middle, .directory) := look_of_chase hp hmiddle
  have hplace : w.place ⟨.here, [s]⟩ = .ok (w.here, s) := by
    have hstay : w.chase linkLimit (w.startOf ⟨.here, [s]⟩) [] = .arrived w.here .directory :=
      chase_of_descend rfl _
    simp only [place, hp, List.getLast?_singleton, List.dropLast_singleton, hstay]
    rw [if_neg hs.ne_back, if_neg (not_not_intro hhere), barrier?_of_chase hwalk]
  have hmade : w.makeDirectory ⟨.here, [s]⟩ = .error .exists := by
    simp only [World.makeDirectory, hplace, hstored]
  simp only [World.ensureDirectory, hmade, refusedDirectory, hfound]

theorem makeDirectoriesFrom (h : w.IsTree) (hp : p.IsPlain) (fuel : Nat) :
    (World.makeDirectoriesFrom fuel w p).world.IsTree := by
  induction fuel generalizing p with
  | zero =>
    rw [World.makeDirectoriesFrom]
    split
    · rename_i made hmade
      exact h.makeDirectory hp hmade
    · exact h
    · rw [refusedDirectory_world]
      exact h
  | succ fuel ih =>
    have habove := ih hp.parent
    rw [World.makeDirectoriesFrom]
    split
    · rename_i made hmade
      exact h.makeDirectory hp hmade
    · dsimp only
      split
      · exact habove
      · exact habove.ensureDirectory hp
    · rw [refusedDirectory_world]
      exact h

theorem makeDirectories (h : w.IsTree) (hp : p.IsPlain) : (w.makeDirectories p).world.IsTree :=
  h.makeDirectoriesFrom hp p.segments.length

/-! ### Files -/

theorem fill (h : w.IsTree) (hp : p.IsPlain) {loc : Location} (hopened : w.openToWrite p = .ok loc)
    (content : Bytes) (time : FileTime) : (w.fill p loc content time).world.IsTree := by
  obtain ⟨written, -, hworld, -⟩ := fill_eq w p loc content time
  rw [hworld]
  rcases openToWrite_cases hopened with ⟨found, foundTime, hwalk⟩ | ⟨hwalk, habove⟩
  · have hlook : w.look p = .ok (loc, .file found foundTime) := by rw [look, hwalk]
    exact h.put_file (entry?_of_look hlook)
  · rw [walk] at hwalk
    split at hwalk
    · cases hwalk
    · rename_i hrefusal
      have hnul := (refusal?_eq_none_iff.mp hrefusal).1
      obtain ⟨hfree, above, name, rfl, hname⟩ :=
        h.chase_vacant (fun s hs => ⟨(hp s hs).2.2, hnul s hs⟩) hwalk
      rw [List.dropLast_concat] at habove
      exact h.put_unlinked habove hname (by simp [hfree]) rfl

theorem writeFile (h : w.IsTree) (hp : p.IsPlain) (content : Bytes) (time : FileTime) :
    (w.writeFile p content time).world.IsTree := by
  rw [World.writeFile]
  split
  · exact h
  · rename_i loc hopened
    exact h.fill hp hopened content time

theorem placeFile (h : w.IsTree) (hp : p.IsPlain) (content : Bytes) (time : FileTime) :
    (w.placeFile p content time).world.IsTree := by
  have habove := h.makeDirectories hp.parent
  rw [World.placeFile]
  split
  · exact habove
  · exact habove.writeFile hp content time

theorem setTime (h : w.IsTree) {time : FileTime} {changed : World}
    (hchanged : w.setTime p time = .ok changed) : changed.IsTree := by
  rw [World.setTime] at hchanged
  split at hchanged
  · rename_i loc content found hlook
    cases hchanged
    exact h.put_file (entry?_of_look hlook)
  · cases hchanged
    exact h
  · cases hchanged

/-! ### Links, removal, the working directory and faults -/

theorem makeLink (h : w.IsTree) (hp : p.IsPlain) {target : String}
    (htarget : '\x00' ∉ target.toList) : (w.makeLink p target).world.IsTree := by
  have habove := h.makeDirectories hp.parent
  rw [World.makeLink]
  split
  · exact habove
  · split
    · exact habove
    · rename_i dir last hplace
      obtain ⟨hdir, hlast⟩ := directory_of_place hp hplace
      split
      · exact habove
      · rename_i hfree
        split
        · exact habove
        · rename_i made hmade
          rw [eq_put_of_putBelow hmade]
          refine habove.put hdir hlast (by simp [hfree]) ?_
          intro other heq
          cases heq
          exact htarget

theorem removeAt (h : w.IsTree) {removed : World} (hremoved : w.removeAt p = .ok removed) :
    removed.IsTree := by
  rw [World.removeAt] at hremoved
  split at hremoved
  · cases hremoved
  · split at hremoved
    · cases hremoved
    · split at hremoved
      · cases hremoved
      · cases hremoved
        exact h.remove _

theorem enter (h : w.IsTree) {entered : World} (hentered : w.enter p = .ok entered) :
    entered.IsTree := by
  rw [World.enter] at hentered
  split at hentered
  · cases hentered
    exact h.congr rfl
  · cases hentered
  · cases hentered

theorem setFault (h : w.IsTree) (p : Path) (fault : Option Fault) : (w.setFault p fault).IsTree := by
  cases fault with
  | none => exact h.congr rfl
  | some f => exact h.congr rfl

end IsTree

end

end TemplateLookup.World
