/-
# TemplateLookup.Text.Ordered -- sets of names as increasing lists

A set of names is a list that increases strictly in the order of code points.
Putting a name in keeps it so (`increasing_putIn`), so whatever names are put in
order, each comes once and after all smaller ones (`increasing_ordered`).
-/

namespace TemplateLookup.Text

/-- An increasing list with a name put in its place, once. -/
def putIn (name : String) : List String → List String
  | [] => [name]
  | n :: rest =>
    if name < n then name :: n :: rest
    else if name = n then n :: rest
    else n :: putIn name rest

/-- The names of a list in increasing order, each once. -/
def ordered (names : List String) : List String := names.foldr putIn []

theorem mem_putIn {name n : String} {names : List String} :
    n ∈ putIn name names ↔ n = name ∨ n ∈ names := by
  induction names with
  | nil => simp [putIn]
  | cons m rest ih =>
    unfold putIn
    split
    · simp
    · split
      · rename_i h
        subst h
        simp
      · simp only [List.mem_cons, ih]
        exact ⟨fun h => by rcases h with h | h | h <;> simp [h],
          fun h => by rcases h with h | h | h <;> simp [h]⟩

theorem mem_ordered {n : String} {names : List String} : n ∈ ordered names ↔ n ∈ names := by
  induction names with
  | nil => simp [ordered]
  | cons m rest ih =>
    have h : ordered (m :: rest) = putIn m (ordered rest) := rfl
    rw [h, mem_putIn, ih, List.mem_cons]

/-- The names of a list come in increasing order, each once. -/
def Increasing (names : List String) : Prop := names.Pairwise (· < ·)

theorem increasing_putIn (name : String) {names : List String} (h : Increasing names) :
    Increasing (putIn name names) := by
  induction names with
  | nil => exact List.pairwise_singleton _ name
  | cons n rest ih =>
    obtain ⟨hn, hrest⟩ := List.pairwise_cons.mp h
    unfold putIn
    split
    · rename_i hless
      refine List.pairwise_cons.mpr ⟨?_, h⟩
      intro m hm
      rcases List.mem_cons.mp hm with rfl | hm
      · exact hless
      · exact String.lt_trans hless (hn m hm)
    · rename_i hless
      split
      · exact h
      · rename_i hne
        have hmore : n < name := Std.lt_of_le_of_ne (String.not_lt.mp hless) (Ne.symm hne)
        refine List.pairwise_cons.mpr ⟨?_, ih hrest⟩
        intro m hm
        rcases mem_putIn.mp hm with rfl | hm
        · exact hmore
        · exact hn m hm

theorem increasing_ordered (names : List String) : Increasing (ordered names) := by
  induction names with
  | nil => exact List.Pairwise.nil
  | cons n rest ih => exact increasing_putIn n ih

end TemplateLookup.Text
