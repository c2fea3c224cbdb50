/-
# TemplateLookup.Proofs.Settings -- what an accepted configuration says

A configuration is accepted when its kind does not count as false, its roots can be read and its
encoding is known; then it says these three and nothing else (`ofParts_eq_ok_iff`). Of a document
the entries count that are written last, with their references replaced; so the kind that is
asked for is what is written there (`expand_kindIn`), a list or a mapping included.
-/

import TemplateLookup.Proofs.Environment
import TemplateLookup.Settings

namespace TemplateLookup

namespace Data

/-! ## Shapes -/

theorem mapTexts_eq_scalar_iff {f : String → String} {d : Data} :
    (∃ s, d.mapTexts f = .scalar s) ↔ ∃ s, d = .scalar s := by
  cases d with
  | scalar s => cases s <;> simp [mapTexts, text]
  | list items => simp [mapTexts]
  | mapping entries => simp [mapTexts]

theorem kind_mapTexts (f : String → String) (d : Data) : (d.mapTexts f).kind = d.kind := by
  cases d with
  | scalar s => cases s <;> rfl
  | list items => rfl
  | mapping entries => rfl

/-! ## Entries under a name -/

theorem entry?_mapEntries (f : String → String) (name : String) (entries : List (Scalar × Data)) :
    entry? name (mapEntries f entries) = Option.map (mapTexts f) ( entry? name entries) := by
  have hmap : mapEntries f entries = entries.map fun pair => (pair.1, pair.2.mapTexts f) := by
    induction entries with
    | nil => rfl
    | cons pair rest ih => rw [mapEntries, ih, List.map_cons]
  unfold entry?
  rw [hmap, ← List.map_reverse, List.find?_map, Option.map_map, Option.map_map]
  rfl

theorem mem_textsOfEntries {key : Scalar} {d : Data} {entries : List (Scalar × Data)}
    (h : (key, d) ∈ entries) {s : String} (hs : s ∈ d.texts) : s ∈ textsOfEntries entries := by
  induction entries with
  | nil => exact absurd h List.not_mem_nil
  | cons pair rest ih =>
    rw [textsOfEntries, List.mem_append]
    rcases List.mem_cons.mp h with rfl | hrest
    · exact .inl hs
    · exact .inr (ih hrest)

theorem mem_of_entry? {name : String} {entries : List (Scalar × Data)} {d : Data}
    (h : entry? name entries = some d) : ∃ key, (key, d) ∈ entries := by
  obtain ⟨⟨key, value⟩, hfind, rfl⟩ := Option.map_eq_some_iff.mp h
  exact ⟨key, List.mem_reverse.mp (List.mem_of_find?_eq_some hfind)⟩

end Data

/-! ## Values that were checked -/

namespace Settings

variable [Encodings]

/-- Which values are accepted, and what the settings say then. -/
theorem ofParts_eq_ok_iff {loader path encoding : Option Data} {settings : Settings} :
    ofParts loader path encoding = .ok settings ↔
      (loader.getD defaultLoader).isTruthy = true ∧
        settings.loader = loader.getD defaultLoader ∧
        Roots.ofData (path.getD .null) = .ok settings.path ∧
        encodingOf (encoding.getD defaultEncoding) = .ok settings.encoding ∧
        settings.source = none := by
  obtain ⟨kind, roots, name, source⟩ := settings
  unfold ofParts make
  cases Roots.ofData (path.getD .null) with
  | error e => simp
  | ok given =>
    by_cases htrue : (loader.getD defaultLoader).isTruthy = true
    · cases encodingOf (encoding.getD defaultEncoding) with
      | error e => simp [htrue, Except.map]
      | ok known =>
        simp only [htrue, if_true, Except.map, Except.ok.injEq, Settings.mk.injEq, true_and]
        simp only [eq_comm]
    · simp [htrue]

theorem encodingOf_default : encodingOf defaultEncoding = .ok "utf-8" := by
  simp [defaultEncoding, encodingOf, Encodings.knows_utf8]

/-! ## The kind that is asked for -/

/-- The kind that a configuration with these entries names. -/
def kindIn (entries : List (Scalar × Data)) : Data :=
  (Data.entry? "loader" entries).getD defaultLoader

/-- An accepted configuration asks for the kind that it names, its references replaced. -/
theorem expand_kindIn {env : Environment} {entries : List (Scalar × Data)} {settings : Settings}
    (h : ofData env (.mapping entries) = .ok settings) :
    env.expand (kindIn entries) = .ok settings.loader := by
  unfold ofData at h
  split at h
  · simp at h
  rename_i expanded hexpand
  rw [Environment.expand_eq, Environment.needing_eq_ok_iff] at hexpand
  obtain ⟨hset, rfl⟩ := hexpand
  obtain ⟨-, hloader, -⟩ := ofParts_eq_ok_iff.mp h
  rw [hloader, Data.entry?_mapEntries, kindIn]
  cases hentry : Data.entry? "loader" entries with
  | none => rfl
  | some kind =>
    rw [Option.map_some, Option.getD_some, Option.getD_some, Environment.expand_eq,
      Environment.needing_eq_ok_iff]
    obtain ⟨key, hmem⟩ := Data.mem_of_entry? hentry
    refine ⟨fun name hname => hset name ?_, rfl⟩
    obtain ⟨s, hs, hin⟩ := List.mem_flatMap.mp hname
    exact List.mem_flatMap.mpr ⟨s, Data.mem_textsOfEntries hmem hs, hin⟩

end Settings

end TemplateLookup
