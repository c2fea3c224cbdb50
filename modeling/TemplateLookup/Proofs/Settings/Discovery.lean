/-
# TemplateLookup.Proofs.Settings.Discovery -- which configuration is found

The configuration is looked for from the working directory, by absolute paths. In a tree the
working directory leads to itself (`resolved_directory`), and an absolute path leads where the
relative one does, unless something other than absence stops the walk (`look_absolute_cases`). So
where the hidden place holds a file, the settings are those that reading its absolute path gives
(`load_hidden`).
-/

import TemplateLookup.Proofs.Locator.Search
import TemplateLookup.Proofs.World.Absolute
import TemplateLookup.Settings.Discovery

namespace TemplateLookup

namespace Settings

/-! ## The hidden place -/

/-- The hidden configuration, from the working directory. -/
def hiddenPlace : Path := ⟨.here, [hiddenDirectory, hiddenFile]⟩

theorem isLeading_hiddenDirectory : World.IsLeading hiddenDirectory :=
  ⟨by decide, by decide, by decide⟩

theorem refusal?_hiddenPlace : World.refusal? hiddenPlace = none := by decide +kernel

variable {w : World}

/-- The working directory of a tree is where the search begins, however it is found. -/
theorem find_workingDirectory (h : w.IsTree) (hhere : w.entry? w.here = some .directory) :
    find w (workingDirectory w) =
      match firstExisting w [w.absolute hiddenPlace, ⟨.root, w.here ++ [openFile]⟩] with
      | .error e => .error (.system e)
      | .ok found => .ok found := by
  have hresolved : w.resolved (workingDirectory w) = workingDirectory w :=
    World.resolved_directory h hhere
  have hplaces : places (workingDirectory w) =
      [w.absolute hiddenPlace, ⟨.root, w.here ++ [openFile]⟩] := by
    simp [places, workingDirectory, Path.child, World.absolute, hiddenPlace, Path.isAbsolute]
  unfold find
  dsimp only
  rw [hresolved, hplaces]
  rcases World.look_stored_directory h hhere with htop | ⟨cause, hcause, htop⟩
  · cases firstExisting w [w.absolute hiddenPlace, ⟨.root, w.here ++ [openFile]⟩] <;>
      simp [workingDirectory, htop]
  · -- a stop that is no absence is no loop either
    simp only [workingDirectory, htop]
    cases cause <;> first | rfl | cases hcause

/-- What is read in the hidden place is what the file there holds. -/
theorem content_of_readAt_hidden (h : w.IsTree) {content bytes : Bytes} {time : FileTime}
    (hfile : w.fileAt? hiddenPlace = some (content, time))
    (hread : w.readAt (w.absolute hiddenPlace) = .ok bytes) :
    bytes = content ∧ w.look (w.absolute hiddenPlace) = w.look hiddenPlace := by
  obtain ⟨loc, hlook⟩ := World.fileAt?_eq_some_iff.mp hfile
  have hhere : w.entry? w.here = some .directory :=
    h.directory_of_chase isLeading_hiddenDirectory (World.chase_of_look hlook)
  rcases World.look_absolute_cases h hhere rfl refusal?_hiddenPlace with hsame | ⟨cause, -, hstop⟩
  · refine ⟨?_, hsame⟩
    rw [World.readAt, World.contentAt, hsame, hlook] at hread
    dsimp only at hread
    rw [World.readOpened] at hread
    split at hread
    · cases hread
    · exact (Except.ok.inj hread).symm
  · rw [World.readAt, World.contentAt, hstop] at hread
    cases hread

section

variable [Encodings] [Yaml.Reader]

/-- Where the hidden place holds a file, the settings are what reading it by its absolute path
gives. -/
theorem load_hidden (h : w.IsTree) {content : Bytes} {time : FileTime}
    (hfile : w.fileAt? hiddenPlace = some (content, time)) (env : Environment) :
    load w env none true = ofFile w env (w.absolute hiddenPlace) := by
  obtain ⟨loc, hlook⟩ := World.fileAt?_eq_some_iff.mp hfile
  have hhere : w.entry? w.here = some .directory :=
    h.directory_of_chase isLeading_hiddenDirectory (World.chase_of_look hlook)
  rw [load, choose, if_pos rfl, find_workingDirectory h hhere, firstExisting, World.exists?]
  rcases World.look_absolute_cases h hhere rfl refusal?_hiddenPlace with hsame | ⟨cause, hcause, hstop⟩
  · rw [hsame, hlook]
  · -- the same stop is met by the question whether the file exists and by opening it
    have hrefused : w.readAt (w.absolute hiddenPlace) =
        .error ⟨cause, some (w.absolute hiddenPlace).toString⟩ := by
      simp only [World.readAt, World.contentAt, hstop]
    simp only [hstop, World.absence, hcause, Bool.false_eq_true, if_false, ofFile, hrefused]

/-- The two reasons for which a file in the hidden place is not accepted. -/
theorem load_hidden_accepted_iff (h : w.IsTree) {content : Bytes} {time : FileTime}
    (hfile : w.fileAt? hiddenPlace = some (content, time)) (env : Environment) :
    (∃ loaded, load w env none true = .ok loaded) ↔
      ∃ bytes, w.readAt (w.absolute hiddenPlace) = .ok bytes ∧
        ∃ settings, ofBytes env bytes = .ok settings := by
  rw [load_hidden h hfile, ofFile]
  cases w.readAt (w.absolute hiddenPlace) with
  | error e => exact iff_of_false (fun ⟨_, h⟩ => nomatch h) nofun
  | ok bytes =>
    simp only [Except.ok.injEq, exists_eq_left']
    cases ofBytes env bytes with
    | error e => exact iff_of_false (fun ⟨_, h⟩ => nomatch h) (fun ⟨_, h⟩ => nomatch h)
    | ok settings => exact iff_of_true ⟨_, rfl⟩ ⟨settings, rfl⟩

end

end Settings

end TemplateLookup
