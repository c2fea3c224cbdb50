/-
# TemplateLookup.Proofs.Roots -- the two ways to write roots

Roots are written as a list of texts or as one text with commas between them, and what a value
writes are its entries (`Entries`). A value is accepted if it is null or has entries, and the
roots are the entries without the blanks around them (`ofData_eq_ok_iff`). So a list of entries
without commas may as well be written as one text, and what was read from any value at all reads
back as itself, since trimming twice is trimming once (`option_forms_agree`). The top of the file
system is among the roots of a value that is not null only if an entry is blank.
-/

import Mathlib.Data.List.Forall2
import TemplateLookup.Proofs.Text.Blank
import TemplateLookup.Proofs.Text.Pieces
import TemplateLookup.Roots

namespace TemplateLookup.Roots

/-! ## Entries -/

/-- What a value writes, before blanks are dropped. -/
inductive Entries : Data → List String → Prop where
  | text (s : String) : Entries (.text s) (Text.split ',' s)
  | list (names : List String) : Entries (.list (names.map .text)) names

theorem namesOf_map_text (names : List String) : namesOf (names.map .text) = .ok names := by
  induction names with
  | nil => rfl
  | cons name rest ih =>
    rw [List.map_cons]
    show (namesOf (rest.map .text)).map (name :: ·) = _
    rw [ih]
    rfl

theorem eq_map_text_of_namesOf {items : List Data} {names : List String}
    (h : namesOf items = .ok names) : items = names.map .text := by
  induction items generalizing names with
  | nil =>
    cases h
    rfl
  | cons d rest ih =>
    unfold namesOf at h
    split at h
    · rename_i s
      cases hrest : namesOf rest with
      | error e =>
        rw [hrest] at h
        cases h
      | ok more =>
        rw [hrest] at h
        cases h
        rw [ih hrest]
        rfl
    · cases h

/-- Roots are read from null and from what has entries, and from nothing else. -/
theorem ofData_eq_ok_iff {v : Data} {roots : Roots} :
    ofData v = .ok roots ↔
      (v = .null ∧ roots = absolute) ∨ ∃ entries, Entries v entries ∧ roots = ofNames entries := by
  constructor
  · intro h
    unfold ofData at h
    split at h
    · cases h
      exact .inl ⟨rfl, rfl⟩
    · cases h
      exact .inr ⟨_, .text _, rfl⟩
    · rename_i items
      cases hnames : namesOf items with
      | error e =>
        rw [hnames] at h
        cases h
      | ok names =>
        rw [hnames] at h
        cases h
        rw [eq_map_text_of_namesOf hnames]
        exact .inr ⟨names, .list names, rfl⟩
    · cases h
  · rintro (⟨rfl, rfl⟩ | ⟨entries, hentries, rfl⟩)
    · rfl
    · cases hentries with
      | text s => rfl
      | list =>
        show (namesOf (entries.map .text)).map ofNames = _
        rw [namesOf_map_text]
        rfl

/-- The entries of a joined text are its parts. -/
theorem split_joinWith {xs : List String} (hne : xs ≠ []) (h : ∀ x ∈ xs, ',' ∉ x.toList) :
    Text.split ',' (Text.joinWith "," xs) = xs := by
  have hpieces : Text.pieces ',' (Text.joinWith "," xs).toList = xs.map String.toList := by
    rw [Text.toList_joinWith rfl]
    refine Text.pieces_unite (by simpa using hne) ?_
    intro p hp
    obtain ⟨x, hx, rfl⟩ := List.mem_map.mp hp
    exact h x hx
  rw [Text.split, hpieces, List.map_map]
  exact (List.map_congr_left fun x _ => String.ofList_toList).trans (List.map_id xs)

/-! ## Roots of entries -/

section

variable {v : Data} {entries : List String}

theorem trimmed_of_mem_ofNames {root : String} (h : root ∈ (ofNames entries).names) :
    Text.trim root = root := by
  obtain ⟨entry, -, rfl⟩ := List.mem_map.mp h
  exact Text.trim_trim entry

theorem ofData_toData {roots : Roots} (h : ∀ root ∈ roots.names, Text.trim root = root) :
    ofData roots.toData = .ok roots := by
  refine ofData_eq_ok_iff.mpr (.inr ⟨roots.names, .list roots.names, ?_⟩)
  have hnames : roots.names.map Text.trim = roots.names :=
    (List.map_congr_left h).trans (List.map_id _)
  rw [ofNames, hnames]

/-- Every entry is one root, in the place where it was written. -/
theorem forall₂_ofNames (entries : List String) :
    List.Forall₂ Text.IsTrimmed entries (ofNames entries).names := by
  rw [ofNames, List.forall₂_map_right_iff, List.forall₂_same]
  exact fun entry _ => Text.isTrimmed_trim entry

theorem size_ofNames (entries : List String) : (ofNames entries).size = entries.length :=
  List.length_map _

theorem absoluteRoot_mem_ofNames :
    absoluteRoot ∈ (ofNames entries).names ↔
      ∃ entry ∈ entries, ∀ c ∈ entry.toList, Text.isBlank c = true := by
  rw [ofNames, List.mem_map]
  exact exists_congr fun entry => and_congr_right fun _ => Text.trim_eq_empty_iff

theorem Entries.unique {others : List String} (h : Entries v entries) (h' : Entries v others) :
    entries = others := by
  have hinj : Function.Injective Data.text := fun a b hab => Scalar.text.inj (Data.scalar.inj hab)
  generalize hv : v = w at h'
  cases h with
  | text s =>
    cases h' with
    | text t => rw [hinj hv]
    | list => cases hv
  | list =>
    cases h' with
    | text t => cases hv
    | list => exact List.map_injective_iff.mpr hinj (Data.list.inj hv)

end

/-! ## The two forms -/

/-- The roots are what an accepted value asks for. -/
structure AskedBy (v : Data) (roots : Roots) : Prop where
  /-- Reading the roots again changes nothing. -/
  again : ofData roots.toData = .ok roots
  start : ∀ root ∈ roots.names, ∀ c ∈ root.toList.head?, Text.isBlank c = false
  stop : ∀ root ∈ roots.names, ∀ c ∈ root.toList.getLast?, Text.isBlank c = false
  /-- There is one root for each entry, in the same order, without the blanks around the entry. -/
  inOrder : (v = .null ∧ roots = absolute) ∨
    ∃ entries, Entries v entries ∧ List.Forall₂ Text.IsTrimmed entries roots.names
  sizeText : ∀ s, v = .text s → roots.size = s.toList.count ',' + 1
  sizeList : ∀ items, v = .list items → roots.size = items.length
  top : absoluteRoot ∈ roots.names ↔
    v = .null ∨
      ∃ entries, Entries v entries ∧ ∃ entry ∈ entries, ∀ c ∈ entry.toList, Text.isBlank c = true

theorem askedBy_null : AskedBy .null absolute where
  again := rfl
  start := by
    intro root hroot
    rw [List.mem_singleton.mp hroot]
    nofun
  stop := by
    intro root hroot
    rw [List.mem_singleton.mp hroot]
    nofun
  inOrder := .inl ⟨rfl, rfl⟩
  sizeText := nofun
  sizeList := nofun
  top := iff_of_true List.mem_cons_self (.inl rfl)

theorem askedBy_entries {v : Data} {entries : List String} (h : Entries v entries) :
    AskedBy v (ofNames entries) where
  again := ofData_toData fun _ => trimmed_of_mem_ofNames
  start := by
    intro root hroot
    rw [← trimmed_of_mem_ofNames hroot]
    exact (Text.isTrimmed_trim root).start
  stop := by
    intro root hroot
    rw [← trimmed_of_mem_ofNames hroot]
    exact (Text.isTrimmed_trim root).stop
  inOrder := .inr ⟨entries, h, forall₂_ofNames entries⟩
  sizeText := by
    rintro s rfl
    rw [size_ofNames, h.unique (.text s), Text.split, List.length_map, Text.length_pieces]
  sizeList := by
    rintro items rfl
    rw [size_ofNames]
    generalize hv : Data.list items = v at h
    cases h with
    | text s => cases hv
    | list =>
      rw [Data.list.inj hv, List.length_map]
  top := by
    rw [absoluteRoot_mem_ofNames]
    constructor
    · exact fun hblank => .inr ⟨entries, h, hblank⟩
    · rintro (rfl | ⟨others, hothers, hblank⟩)
      · cases h
      · rwa [h.unique hothers]

/-- **The two ways to write roots.** A list of texts without commas and the text that joins them
with commas give the same roots. Whatever is accepted gives one root for each entry, in order and
without the blanks around it. These roots read back as themselves, and the top of the file system
is among them exactly for null and for a blank entry. -/
theorem option_forms_agree :
    (∀ xs : List String, xs ≠ [] → (∀ x ∈ xs, ',' ∉ x.toList) →
      ∃ roots, ofData (.text (Text.joinWith "," xs)) = .ok roots ∧
        ofData (.list (xs.map .text)) = .ok roots) ∧
    ∀ v roots, ofData v = .ok roots → AskedBy v roots := by
  refine ⟨?_, ?_⟩
  · intro xs hne hfree
    have htext : Entries (.text (Text.joinWith "," xs)) xs := by
      have hentries := Entries.text (Text.joinWith "," xs)
      rwa [split_joinWith hne hfree] at hentries
    refine ⟨ofNames xs, ?_, ?_⟩
    · exact ofData_eq_ok_iff.mpr (.inr ⟨xs, htext, rfl⟩)
    · exact ofData_eq_ok_iff.mpr (.inr ⟨xs, .list xs, rfl⟩)
  · intro v roots h
    rcases ofData_eq_ok_iff.mp h with ⟨rfl, rfl⟩ | ⟨entries, hentries, rfl⟩
    · exact askedBy_null
    · exact askedBy_entries hentries

/-- A comma at the end is enough to search from the top of the file system as well. -/
theorem trailing_comma_asks_top :
    ∃ roots, ofData (.text " a ,b b,") = .ok roots ∧ roots.size = 3 ∧
      absoluteRoot ∈ roots.names ∧
      ofData (.list ([" a ", "b b", ""].map .text)) = .ok roots := by
  obtain ⟨roots, htext, hlist⟩ :=
    option_forms_agree.1 [" a ", "b b", ""] (by decide) (by decide)
  have hasked := option_forms_agree.2 _ roots htext
  refine ⟨roots, htext, hasked.sizeText _ rfl, ?_, hlist⟩
  exact hasked.top.mpr (.inr ⟨_, .text _, "", by decide, nofun⟩)

end TemplateLookup.Roots
