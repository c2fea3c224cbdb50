/-
# TemplateLookup.Proofs.Name.Shortening -- the loops shorten without changing the walk

The three loops that bring a name into normal form work on substrings. Each of
their steps is a chain of single shortenings: a segment between two slashes
vanishes that stays, or that is ordinary and followed by `..`. `Shortens` says
what all of these have in common: the walk through the text ends in the same
place (`route`), no new piece appears, and the first character and the last piece
are the same. A loop stops when its pattern is gone (`squeeze_spec`,
`undot_spec`), because every step makes the text shorter.
-/

import Mathlib.Data.List.Infix
import TemplateLookup.Proofs.Name.Walk

namespace TemplateLookup.Name

open TemplateLookup.Text

/-! ## The walk through a text of slashes -/

/-- The normal form that the walk through a text without backslashes gives. -/
def route (cs : List Char) : Option (List Char) :=
  (walk (pieces '/' cs)).map (written (pieces '/' cs))

theorem walked_eq_route (cs : List Char) : walked cs = route (forward cs) := rfl

/-- The piece after the last slash. -/
def lastPiece (cs : List Char) : List Char := (pieces '/' cs).getLastD []

/-- The pieces between two slashes. -/
def inner (cs : List Char) : List (List Char) := (pieces '/' cs).tail.dropLast

theorem getLastD_append_pieces (ps : List (List Char)) (ys : List Char) :
    (ps ++ pieces '/' ys).getLastD [] = lastPiece ys := by
  obtain ⟨q, qs, hq⟩ := List.exists_cons_of_ne_nil (pieces_ne_nil '/' ys)
  simp [lastPiece, hq, List.getLastD_eq_getLast?, List.getLast?_append, List.getLast?_cons]

theorem lastPiece_append_slash (xs ys : List Char) :
    lastPiece (xs ++ '/' :: ys) = lastPiece ys := by
  rw [lastPiece, pieces_append_sep, getLastD_append_pieces]

theorem inner_append_slash (xs ys : List Char) :
    inner (xs ++ '/' :: ys) = (pieces '/' xs).tail ++ (pieces '/' ys).dropLast := by
  rw [inner, pieces_append_sep, List.tail_append_of_ne_nil (pieces_ne_nil '/' xs),
    List.dropLast_append_of_ne_nil (pieces_ne_nil '/' ys)]

/-- What follows the last slash decides how the walk is written, besides its end. -/
theorem route_congr {xs ys : List Char} (hw : walk (pieces '/' xs) = walk (pieces '/' ys))
    (hl : staysInDirectory (lastPiece xs) = staysInDirectory (lastPiece ys)) :
    route xs = route ys := by
  have hwritten : written (pieces '/' xs) = written (pieces '/' ys) := by
    funext stack
    simp only [lastPiece] at hl
    simp only [written, hl]
  rw [route, route, hw, hwritten]

/-! ## One shortening -/

/-- A text that another one may become on the way to its normal form. -/
structure Shortens (cs short : List Char) : Prop where
  route_eq : route short = route cs
  sublist : (pieces '/' short).Sublist (pieces '/' cs)
  last_eq : lastPiece short = lastPiece cs
  head_eq : short.head? = cs.head?

theorem Shortens.refl (cs : List Char) : Shortens cs cs := ⟨rfl, List.Sublist.refl _, rfl, rfl⟩

theorem Shortens.trans {cs mid short : List Char} (h : Shortens cs mid)
    (h' : Shortens mid short) : Shortens cs short :=
  ⟨h'.route_eq.trans h.route_eq, h'.sublist.trans h.sublist, h'.last_eq.trans h.last_eq,
    h'.head_eq.trans h.head_eq⟩

theorem head?_append_slash (xs ys zs : List Char) :
    (xs ++ '/' :: ys).head? = (xs ++ '/' :: zs).head? := by
  cases xs <;> rfl

/-- A segment that stays vanishes together with the slash after it. -/
theorem Shortens.skip {segment : List Char} (h : segment = [] ∨ segment = ['.'])
    (xs ys : List Char) :
    Shortens (xs ++ '/' :: (segment ++ '/' :: ys)) (xs ++ '/' :: ys) := by
  have hs : '/' ∉ segment := by rcases h with rfl | rfl <;> decide
  have hlast : lastPiece (xs ++ '/' :: ys) = lastPiece (xs ++ '/' :: (segment ++ '/' :: ys)) := by
    simp only [lastPiece_append_slash]
  refine ⟨route_congr ?_ (by rw [hlast]), ?_, hlast, head?_append_slash ..⟩
  · rw [pieces_append_sep, pieces_append_segment hs, walk_skip h]
  · rw [pieces_append_sep, pieces_append_segment hs]
    exact (List.Sublist.refl _).append (List.sublist_cons_self _ _)

/-- An ordinary segment vanishes together with the `..` after it. -/
theorem Shortens.turn {segment : List Char} (h : IsOrdinary segment) (hs : '/' ∉ segment)
    (xs ys : List Char) :
    Shortens (xs ++ '/' :: (segment ++ '/' :: (['.', '.'] ++ '/' :: ys))) (xs ++ '/' :: ys) := by
  have hlast : lastPiece (xs ++ '/' :: ys) =
      lastPiece (xs ++ '/' :: (segment ++ '/' :: (['.', '.'] ++ '/' :: ys))) := by
    simp only [lastPiece_append_slash]
  have hpieces : pieces '/' (xs ++ '/' :: (segment ++ '/' :: (['.', '.'] ++ '/' :: ys))) =
      pieces '/' xs ++ segment :: ['.', '.'] :: pieces '/' ys := by
    -- the segment and the `..` are neighbours among the pieces
    have hback : '/' ∉ ['.', '.'] := by decide
    rw [pieces_append_segment hs, pieces_append_sep, pieces_of_not_mem hback,
      List.singleton_append]
  refine ⟨route_congr ?_ (by rw [hlast]), ?_, hlast, head?_append_slash ..⟩
  · rw [hpieces, pieces_append_sep, walk_turn h]
  · rw [hpieces, pieces_append_sep]
    refine (List.Sublist.refl _).append ?_
    exact (List.sublist_cons_self _ _).trans (List.sublist_cons_self _ _)

theorem sublist_dropLast {xs ys : List (List Char)} (h : xs.Sublist ys) :
    xs.dropLast.Sublist ys.dropLast := by
  have htail := h.reverse.tail
  rw [List.tail_reverse, List.tail_reverse] at htail
  exact List.reverse_sublist.mp htail

/-- Shortening brings no new piece between two slashes. -/
theorem Shortens.inner_subset {cs short : List Char} (h : Shortens cs short) :
    ∀ p ∈ inner short, p ∈ inner cs :=
  fun _ hp => (sublist_dropLast h.sublist.tail).subset hp

/-! ## Steps of the loops -/

/-- The induction goes over the text that is still to be read, with any text before it. -/
theorem shortens_halveSlashes (cs before : List Char) :
    Shortens (before ++ cs) (before ++ halveSlashes cs) := by
  fun_induction halveSlashes cs generalizing before with
  | case1 rest ih =>
    have hdrop := Shortens.skip (.inl rfl) before rest
    have hrest := ih (before ++ ['/'])
    simp only [List.append_assoc, List.singleton_append] at hrest
    exact hdrop.trans hrest
  | case2 c rest _ ih =>
    have hrest := ih (before ++ [c])
    simpa only [List.append_assoc, List.singleton_append] using hrest
  | case3 => exact Shortens.refl _

theorem shortens_dropDots (cs before : List Char) :
    Shortens (before ++ cs) (before ++ dropDots cs) := by
  fun_induction dropDots cs generalizing before with
  | case1 rest ih =>
    have hdrop := Shortens.skip (.inr rfl) before rest
    have hrest := ih (before ++ ['/'])
    simp only [List.append_assoc, List.singleton_append] at hrest
    exact hdrop.trans hrest
  | case2 c rest _ ih =>
    have hrest := ih (before ++ [c])
    simpa only [List.append_assoc, List.singleton_append] using hrest
  | case3 => exact Shortens.refl _

theorem length_halveSlashes_le (cs : List Char) : (halveSlashes cs).length ≤ cs.length := by
  fun_induction halveSlashes cs with
  | case1 rest ih => simp only [List.length_cons]; omega
  | case2 c rest _ ih => simp only [List.length_cons]; omega
  | case3 => exact Nat.le_refl _

theorem length_dropDots_le (cs : List Char) : (dropDots cs).length ≤ cs.length := by
  fun_induction dropDots cs with
  | case1 rest ih => simp only [List.length_cons]; omega
  | case2 c rest _ ih => simp only [List.length_cons]; omega
  | case3 => exact Nat.le_refl _

theorem length_halveSlashes_lt {cs : List Char} (h : "//".toList <:+: cs) :
    (halveSlashes cs).length < cs.length := by
  fun_induction halveSlashes cs with
  | case1 rest ih =>
    have hle := length_halveSlashes_le rest
    simp only [List.length_cons]
    omega
  | case2 c rest hno ih =>
    rcases List.infix_cons_iff.mp h with ⟨post, hpre⟩ | hrest
    · -- the pattern is not at the front, or the first equation had applied
      cases hpre
      exact absurd rfl (hno post rfl)
    · have hlt := ih hrest
      simp only [List.length_cons]
      omega
  | case3 => exact absurd h (by decide)

theorem length_dropDots_lt {cs : List Char} (h : "/./".toList <:+: cs) :
    (dropDots cs).length < cs.length := by
  fun_induction dropDots cs with
  | case1 rest ih =>
    have hle := length_dropDots_le rest
    simp only [List.length_cons]
    omega
  | case2 c rest hno ih =>
    rcases List.infix_cons_iff.mp h with ⟨post, hpre⟩ | hrest
    · cases hpre
      exact absurd rfl (hno post rfl)
    · have hlt := ih hrest
      simp only [List.length_cons]
      omega
  | case3 => exact absurd h (by decide)

end TemplateLookup.Name
