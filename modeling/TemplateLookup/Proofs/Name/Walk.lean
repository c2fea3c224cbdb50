/-
# TemplateLookup.Proofs.Name.Walk -- what a walk through pieces comes to

A walk is refused exactly when some beginning of it goes back more often than it
went down (`walk_eq_none_iff`). A walk that ends stands on ordinary pieces it met
on the way (`walk_ordinary`), and two changes leave its end alone: taking out a
piece that stays (`walk_skip`), and taking out an ordinary piece together with
the `..` right after it (`walk_turn`).
-/

import TemplateLookup.Name.Stack
import TemplateLookup.Proofs.Text.Pieces

namespace TemplateLookup.Name

/-! ## One piece -/

@[simp] theorem follow_empty (stack : List (List Char)) : follow stack [] = some stack := rfl

/-- A piece that leads down: a segment of its own. -/
def IsOrdinary (piece : List Char) : Prop := staysInDirectory piece = false

instance (piece : List Char) : Decidable (IsOrdinary piece) :=
  inferInstanceAs (Decidable (staysInDirectory piece = false))

theorem isOrdinary_iff (piece : List Char) :
    IsOrdinary piece ↔ piece ≠ [] ∧ piece ≠ ['.'] ∧ piece ≠ ['.', '.'] := by
  simp [IsOrdinary, staysInDirectory, and_assoc]

theorem follow_ordinary {piece : List Char} (h : IsOrdinary piece) (stack : List (List Char)) :
    follow stack piece = some (piece :: stack) := by
  obtain ⟨h0, h1, h2⟩ := (isOrdinary_iff piece).mp h
  simp [follow, h0, h1, h2]

/-- A piece stays, goes back, or leads down. -/
theorem piece_cases (piece : List Char) :
    (piece = [] ∨ piece = ['.']) ∨ piece = ['.', '.'] ∨ IsOrdinary piece := by
  rw [isOrdinary_iff]
  by_cases h0 : piece = []
  · exact .inl (.inl h0)
  · by_cases h1 : piece = ['.']
    · exact .inl (.inr h1)
    · by_cases h2 : piece = ['.', '.']
      · exact .inr (.inl h2)
      · exact .inr (.inr ⟨h0, h1, h2⟩)

theorem follow_stay {piece : List Char} (h : piece = [] ∨ piece = ['.'])
    (stack : List (List Char)) : follow stack piece = some stack := by
  rcases h with rfl | rfl <;> rfl

/-! ## Changes that leave the end alone -/

theorem walk_skip {piece : List Char} (h : piece = [] ∨ piece = ['.'])
    (ps qs : List (List Char)) : walk (ps ++ piece :: qs) = walk (ps ++ qs) := by
  simp only [walk, List.foldlM_append, List.foldlM_cons, follow_stay h]
  rfl

theorem walk_turn {segment : List Char} (h : IsOrdinary segment) (ps qs : List (List Char)) :
    walk (ps ++ segment :: ['.', '.'] :: qs) = walk (ps ++ qs) := by
  simp only [walk, List.foldlM_append, List.foldlM_cons, follow_ordinary h]
  rfl

/-! ## Where a walk ends -/

theorem foldlM_follow_ordinary {ps : List (List Char)} (h : ∀ p ∈ ps, IsOrdinary p)
    (stack : List (List Char)) : ps.foldlM follow stack = some (ps.reverse ++ stack) := by
  induction ps generalizing stack with
  | nil => rfl
  | cons p ps ih =>
    rw [List.foldlM_cons, follow_ordinary (h p List.mem_cons_self)]
    have hrest := ih (fun q hq => h q (List.mem_cons_of_mem p hq)) (p :: stack)
    simpa using hrest

theorem foldlM_follow_mem {ps stack final : List (List Char)}
    (h : ps.foldlM follow stack = some final) :
    ∀ s ∈ final, s ∈ stack ∨ (s ∈ ps ∧ IsOrdinary s) := by
  induction ps generalizing stack with
  | nil =>
    intro s hs
    cases h
    exact .inl hs
  | cons p ps ih =>
    rw [List.foldlM_cons] at h
    intro s hs
    rcases piece_cases p with hp | rfl | hp
    · rw [follow_stay hp] at h
      rcases ih h s hs with hm | ⟨hm, ho⟩
      · exact .inl hm
      · exact .inr ⟨List.mem_cons_of_mem _ hm, ho⟩
    · -- going back only takes away
      cases stack with
      | nil => cases h
      | cons top below =>
        rcases ih h s hs with hm | ⟨hm, ho⟩
        · exact .inl (List.mem_cons_of_mem _ hm)
        · exact .inr ⟨List.mem_cons_of_mem _ hm, ho⟩
    · rw [follow_ordinary hp] at h
      rcases ih h s hs with hm | ⟨hm, ho⟩
      · rcases List.mem_cons.mp hm with rfl | hm
        · exact .inr ⟨List.mem_cons_self, hp⟩
        · exact .inl hm
      · exact .inr ⟨List.mem_cons_of_mem _ hm, ho⟩

/-- A walk ends on ordinary pieces that it met. -/
theorem walk_ordinary {ps stack : List (List Char)} (h : walk ps = some stack) :
    ∀ s ∈ stack, s ∈ ps ∧ IsOrdinary s := by
  intro s hs
  rcases foldlM_follow_mem h s hs with hm | hm
  · exact absurd hm List.not_mem_nil
  · exact hm

/-! ## Climbing above the top -/

/-- How often pieces lead down. -/
def downs (ps : List (List Char)) : Nat := ps.countP (IsOrdinary ·)

/-- How often pieces go back. -/
def ups (ps : List (List Char)) : Nat := ps.count ['.', '.']

/-- Some beginning of the walk goes back more often than it went down. -/
def Climbs (ps : List (List Char)) : Prop := ∃ k, downs (ps.take k) < ups (ps.take k)

theorem foldlM_follow_eq_none_iff (ps stack : List (List Char)) :
    ps.foldlM follow stack = none ↔
      ∃ k, stack.length + downs (ps.take k) < ups (ps.take k) := by
  induction ps generalizing stack with
  | nil => simp [downs, ups]
  | cons p ps ih =>
    -- the empty beginning never goes back, so the first piece can be split off
    have hsplit : (∃ k, stack.length + downs ((p :: ps).take k) < ups ((p :: ps).take k)) ↔
        ∃ k, stack.length + downs (p :: ps.take k) < ups (p :: ps.take k) := by
      constructor
      · rintro ⟨k, hk⟩
        cases k with
        | zero => simp [downs, ups] at hk
        | succ k => exact ⟨k, hk⟩
      · rintro ⟨k, hk⟩
        exact ⟨k + 1, hk⟩
    rw [hsplit, List.foldlM_cons]
    rcases piece_cases p with hp | rfl | hp
    · have hstay : ∀ qs, downs (p :: qs) = downs qs ∧ ups (p :: qs) = ups qs := by
        intro qs
        rcases hp with rfl | rfl <;> simp [downs, ups, IsOrdinary, staysInDirectory]
      rw [follow_stay hp]
      simp only [hstay]
      exact ih stack
    · have hback : ∀ qs, downs (['.', '.'] :: qs) = downs qs ∧
          ups (['.', '.'] :: qs) = ups qs + 1 := by
        intro qs
        simp [downs, ups, IsOrdinary, staysInDirectory]
      simp only [hback]
      -- the walk climbs here when there is nothing to go back from
      cases stack with
      | nil => exact ⟨fun _ => ⟨0, by simp [downs]⟩, fun _ => rfl⟩
      | cons top below =>
        refine (ih below).trans (exists_congr fun k => ?_)
        simp only [List.length_cons]
        omega
    · have hdown : ∀ qs, downs (p :: qs) = downs qs + 1 ∧ ups (p :: qs) = ups qs := by
        intro qs
        have hne := ((isOrdinary_iff p).mp hp).2.2
        simp [downs, ups, hp, hne]
      rw [follow_ordinary hp]
      simp only [hdown]
      refine (ih (p :: stack)).trans (exists_congr fun k => ?_)
      simp only [List.length_cons]
      omega

theorem walk_eq_none_iff (ps : List (List Char)) : walk ps = none ↔ Climbs ps := by
  have h := foldlM_follow_eq_none_iff ps []
  simpa [Climbs, walk] using h

end TemplateLookup.Name
