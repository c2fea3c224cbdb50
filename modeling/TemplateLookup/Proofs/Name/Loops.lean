/-
# TemplateLookup.Proofs.Name.Loops -- what the loops leave behind

A search finds a pattern exactly when the text holds it (`find_eq_none_iff`), and
then the first place of it (`find_eq_some`). So the first two loops end on a text
without their pattern, and the third one, started on such a text, either meets a
`/../` with nothing before it or takes away an ordinary segment (`turn_again`).
Together they follow the walk (`ascend_eq_route`).
-/

import TemplateLookup.Proofs.Name.Shortening

namespace TemplateLookup.Name

open TemplateLookup.Text

/-! ## Searching -/

theorem find_eq_none_iff {pattern : List Char} (hp : pattern ≠ []) (cs : List Char) :
    find pattern cs = none ↔ ¬ pattern <:+: cs := by
  induction cs with
  | nil => simp [find, hp]
  | cons c rest ih =>
    rw [find, List.infix_cons_iff, ← List.isPrefixOf_iff_prefix, not_or]
    by_cases h : pattern.isPrefixOf (c :: rest) = true
    · simp [h]
    · simp only [h, Bool.false_eq_true, if_false, Option.map_eq_none_iff, ih, not_false_eq_true,
        true_and]

/-- What is found is the first occurrence. -/
theorem find_eq_some {pattern cs : List Char} {i : Nat} (hp : pattern ≠ [])
    (h : find pattern cs = some i) :
    pattern <+: cs.drop i ∧ ∀ j < i, ¬ pattern <+: cs.drop j := by
  induction cs generalizing i with
  | nil => simp [find, hp] at h
  | cons c rest ih =>
    rw [find] at h
    by_cases hpre : pattern.isPrefixOf (c :: rest) = true
    · rw [if_pos hpre] at h
      cases h
      exact ⟨List.isPrefixOf_iff_prefix.mp hpre, fun j hj => absurd hj (Nat.not_lt_zero j)⟩
    · rw [if_neg hpre] at h
      obtain ⟨k, hk, rfl⟩ := Option.map_eq_some_iff.mp h
      obtain ⟨hfound, hfirst⟩ := ih hk
      refine ⟨hfound, ?_⟩
      intro j hj
      cases j with
      | zero => exact fun hc => hpre (List.isPrefixOf_iff_prefix.mpr hc)
      | succ j => exact hfirst j (by omega)

theorem lastSlash_eq_none_iff (cs : List Char) : lastSlash cs = none ↔ '/' ∉ cs := by
  induction cs with
  | nil => simp [lastSlash]
  | cons c rest ih =>
    rw [lastSlash, List.mem_cons, not_or, ← ih]
    cases lastSlash rest with
    | some i => simp
    | none => simp [eq_comm]

theorem lastSlash_eq_some {cs : List Char} {i : Nat} (h : lastSlash cs = some i) :
    ∃ before after, cs = before ++ '/' :: after ∧ before.length = i ∧ '/' ∉ after := by
  induction cs generalizing i with
  | nil => cases h
  | cons c rest ih =>
    rw [lastSlash] at h
    cases hl : lastSlash rest with
    | some k =>
      rw [hl] at h
      cases h
      obtain ⟨before, after, rfl, rfl, hafter⟩ := ih hl
      exact ⟨c :: before, after, rfl, rfl, hafter⟩
    | none =>
      rw [hl] at h
      by_cases hc : c = '/'
      · subst hc
        cases h
        exact ⟨[], rest, rfl, rfl, (lastSlash_eq_none_iff rest).mp hl⟩
      · simp [hc] at h

/-! ## Patterns between slashes -/

/-- A segment stands between two slashes exactly when the text holds it with them. -/
theorem mem_inner_iff {segment : List Char} (hs : '/' ∉ segment) (cs : List Char) :
    segment ∈ inner cs ↔ '/' :: (segment ++ ['/']) <:+: cs := by
  constructor
  · intro h
    -- the piece has pieces on both sides, so it is joined with a slash on both sides
    obtain ⟨first, others, hps⟩ := List.exists_cons_of_ne_nil (pieces_ne_nil '/' cs)
    rw [inner, hps, List.tail_cons] at h
    have hne : others ≠ [] := by
      rintro rfl
      exact absurd h List.not_mem_nil
    obtain ⟨left, right, hsplit⟩ := List.append_of_mem h
    have hothers : others = left ++ segment :: (right ++ [others.getLast hne]) := by
      rw [← List.cons_append, ← List.append_assoc, ← hsplit, List.dropLast_concat_getLast]
    refine ⟨unite '/' (first :: left), unite '/' (right ++ [others.getLast hne]), ?_⟩
    have hright : unite '/' (segment :: (right ++ [others.getLast hne])) =
        segment ++ '/' :: unite '/' (right ++ [others.getLast hne]) := by
      rw [← List.singleton_append, unite_append (by simp) (by simp), unite]
    have hcs := unite_pieces '/' cs
    rw [hps, hothers, ← List.cons_append, unite_append (by simp) (by simp), hright] at hcs
    simpa using hcs
  · rintro ⟨before, after, rfl⟩
    have hcs : before ++ '/' :: (segment ++ ['/']) ++ after =
        before ++ '/' :: (segment ++ '/' :: after) := by simp
    rw [hcs, inner_append_slash, pieces_append_sep, pieces_of_not_mem hs, List.singleton_append,
      List.dropLast_cons_of_ne_nil (pieces_ne_nil '/' after)]
    exact List.mem_append_right _ List.mem_cons_self

/-! ## Loops that run until a pattern is gone -/

/-- A loop of shortening steps, each of which makes a text with the pattern shorter,
ends on a text without the pattern. -/
theorem loop_spec {pattern : List Char} (hp : pattern ≠ []) {step : List Char → List Char}
    {loop : Nat → List Char → List Char} (hzero : ∀ cs, loop 0 cs = cs)
    (hstop : ∀ n cs, find pattern cs = none → loop (n + 1) cs = cs)
    (hmore : ∀ n cs, find pattern cs ≠ none → loop (n + 1) cs = loop n (step cs))
    (hshort : ∀ cs, Shortens cs (step cs))
    (hlength : ∀ cs, pattern <:+: cs → (step cs).length < cs.length)
    (n : Nat) (cs : List Char) (hn : cs.length ≤ n) :
    Shortens cs (loop n cs) ∧ ¬ pattern <:+: loop n cs := by
  induction n generalizing cs with
  | zero =>
    rw [hzero]
    refine ⟨Shortens.refl cs, fun hin => hp ?_⟩
    have hle := hin.length_le
    exact List.length_eq_zero_iff.mp (by omega)
  | succ n ih =>
    by_cases hfind : find pattern cs = none
    · rw [hstop n cs hfind]
      exact ⟨Shortens.refl cs, (find_eq_none_iff hp cs).mp hfind⟩
    · have hin : pattern <:+: cs := by
        by_contra hno
        exact hfind ((find_eq_none_iff hp cs).mpr hno)
      have hlt := hlength cs hin
      obtain ⟨hstep, hgone⟩ := ih (step cs) (by omega)
      rw [hmore n cs hfind]
      exact ⟨(hshort cs).trans hstep, hgone⟩

theorem squeeze_spec (cs : List Char) :
    Shortens cs (squeeze cs.length cs) ∧ [] ∉ inner (squeeze cs.length cs) := by
  rw [mem_inner_iff List.not_mem_nil]
  have hshort : ∀ cs, Shortens cs (halveSlashes cs) := fun cs => shortens_halveSlashes cs []
  refine loop_spec (by decide) (fun _ => rfl) ?_ ?_ hshort (fun _ h => length_halveSlashes_lt h)
    cs.length cs (Nat.le_refl _)
  · intro n cs h
    rw [squeeze, h]
  · intro n cs h
    obtain ⟨i, hi⟩ := Option.ne_none_iff_exists'.mp h
    rw [squeeze, hi]

theorem undot_spec (cs : List Char) :
    Shortens cs (undot cs.length cs) ∧ ['.'] ∉ inner (undot cs.length cs) := by
  rw [mem_inner_iff (by decide)]
  have hshort : ∀ cs, Shortens cs (dropDots cs) := fun cs => shortens_dropDots cs []
  refine loop_spec (by decide) (fun _ => rfl) ?_ ?_ hshort (fun _ h => length_dropDots_lt h)
    cs.length cs (Nat.le_refl _)
  · intro n cs h
    rw [undot, h]
  · intro n cs h
    obtain ⟨i, hi⟩ := Option.ne_none_iff_exists'.mp h
    rw [undot, hi]

/-! ## The loop over `..` -/

theorem turn_settled {cs : List Char} (h : turn cs = .settled) : ['.', '.'] ∉ inner cs := by
  rw [mem_inner_iff (by decide), ← find_eq_none_iff (by decide)]
  cases hfind : find "/../".toList cs with
  | none => exact hfind
  | some i =>
    rw [turn, hfind] at h
    cases hlast : lastSlash (cs.take i) <;> simp [hlast] at h

/-- The loop gives up where nothing stands before the first `/../`. -/
theorem turn_climbs {cs : List Char} (h : turn cs = .climbs) :
    ∃ before after, '/' ∉ before ∧ cs = before ++ '/' :: (['.', '.'] ++ '/' :: after) := by
  cases hfind : find "/../".toList cs with
  | none =>
    simp only [turn, hfind] at h
    cases h
  | some i =>
    cases hlast : lastSlash (cs.take i) with
    | some parent =>
      simp only [turn, hfind, hlast] at h
      cases h
    | none =>
      obtain ⟨⟨after, hafter⟩, _⟩ := find_eq_some (by decide) hfind
      refine ⟨cs.take i, after, (lastSlash_eq_none_iff _).mp hlast, ?_⟩
      have hcs := List.take_append_drop i cs
      rw [← hafter] at hcs
      exact hcs.symm

/-- From the slash that the search back finds to the end of the first `..` there is a segment, which
is no `..` itself, and this `..`. -/
theorem parent_spec {cs : List Char} {i parent : Nat} (hfind : find "/../".toList cs = some i)
    (hlast : lastSlash (cs.take i) = some parent) :
    ∃ segment after, '/' ∉ segment ∧ segment ≠ ['.', '.'] ∧
      cs = cs.take parent ++ '/' :: (segment ++ '/' :: (['.', '.'] ++ '/' :: after)) ∧
      cs.drop (i + 3) = '/' :: after := by
  obtain ⟨⟨after, hafter⟩, hfirst⟩ := find_eq_some (by decide) hfind
  obtain ⟨before, segment, htake, hlen, hsegment⟩ := lastSlash_eq_some hlast
  have hcs : cs = before ++ '/' :: (segment ++ '/' :: (['.', '.'] ++ '/' :: after)) := by
    have hparts := List.take_append_drop i cs
    rw [htake, ← hafter] at hparts
    simpa using hparts.symm
  have hi : i = before.length + 1 + segment.length := by
    have hle : i ≤ cs.length := by
      by_contra hgt
      rw [List.drop_eq_nil_of_le (by omega)] at hafter
      cases hafter
    have hlength := congrArg List.length htake
    rw [List.length_take_of_le hle] at hlength
    simp only [List.length_append, List.length_cons] at hlength
    omega
  have hparent : cs.take parent = before := by
    rw [hcs, ← hlen, List.take_left]
  refine ⟨segment, after, hsegment, ?_, ?_, ?_⟩
  · -- otherwise the search would have stopped one segment earlier
    rintro rfl
    refine hfirst before.length (by omega) ⟨['.', '.'] ++ '/' :: after, ?_⟩
    rw [hcs, List.drop_left]
    rfl
  · rw [hparent]
    exact hcs
  · rw [← List.drop_drop, ← hafter]
    rfl

/-- What the loop takes away is the first `..` after a segment that is none itself. -/
theorem turn_again {cs rest : List Char} (h : turn cs = .again rest) :
    ∃ before segment after, '/' ∉ segment ∧ segment ≠ ['.', '.'] ∧
      cs = before ++ '/' :: (segment ++ '/' :: (['.', '.'] ++ '/' :: after)) ∧
      rest = before ++ '/' :: after := by
  cases hfind : find "/../".toList cs with
  | none =>
    simp only [turn, hfind] at h
    cases h
  | some i =>
    cases hlast : lastSlash (cs.take i) with
    | none =>
      simp only [turn, hfind, hlast] at h
      cases h
    | some parent =>
      simp only [turn, hfind, hlast] at h
      injection h with hrest
      obtain ⟨segment, after, hsegment, hne, hcs, hdrop⟩ := parent_spec hfind hlast
      exact ⟨cs.take parent, segment, after, hsegment, hne, hcs, by rw [← hrest, hdrop]⟩

end TemplateLookup.Name
