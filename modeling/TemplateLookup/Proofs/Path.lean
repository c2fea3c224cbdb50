/-
# TemplateLookup.Proofs.Path -- a path and its text

The segments of a path stand between slashes, and the slashes in front of them are its anchor. So
a path whose segments come from a text is read back from its own text (`Path.ofString_toString`),
and two such paths are the same exactly when their texts are (`Path.toString_eq_iff`).
-/

import TemplateLookup.Path
import TemplateLookup.Proofs.Text.Pieces

namespace TemplateLookup.Path

open TemplateLookup.Text

/-! ## Plain paths -/

/-- All segments are segments of some text. -/
def IsPlain (p : Path) : Prop :=
  ∀ s ∈ p.segments, s ≠ "" ∧ s ≠ "." ∧ '/' ∉ s.toList

instance (p : Path) : Decidable p.IsPlain :=
  inferInstanceAs (Decidable (∀ s ∈ p.segments, s ≠ "" ∧ s ≠ "." ∧ '/' ∉ s.toList))

theorem isPlain_ofString (text : String) : (ofString text).IsPlain := by
  intro s hs
  obtain ⟨piece, hpiece, rfl⟩ := List.mem_map.mp hs
  obtain ⟨hmem, hsegment⟩ := List.mem_filter.mp hpiece
  have hshape : piece ≠ [] ∧ piece ≠ ['.'] := by simpa [isSegment] using hsegment
  refine ⟨?_, ?_, ?_⟩
  · exact fun he => hshape.1 (String.ofList_injective he)
  · exact fun he => hshape.2 (String.ofList_injective he)
  · rw [String.toList_ofList]
    exact Text.not_mem_of_mem_pieces hmem

theorem IsPlain.parent {p : Path} (h : p.IsPlain) : p.parent.IsPlain :=
  fun s hs => h s (List.dropLast_subset p.segments hs)

theorem IsPlain.join {p q : Path} (hp : p.IsPlain) (hq : q.IsPlain) : (p.join q).IsPlain := by
  intro s hs
  unfold Path.join at hs
  split at hs
  · rcases List.mem_append.mp hs with hs | hs
    · exact hp s hs
    · exact hq s hs
  · exact hq s hs

/-! ## Slashes in front -/

theorem segmentsOf_slash_cons (cs : List Char) : segmentsOf ('/' :: cs) = segmentsOf cs := by
  unfold segmentsOf
  rw [pieces_sep_cons]
  rfl

/-- The slashes of an anchor add no segment. -/
theorem segmentsOf_slashes (anchor : Anchor) (cs : List Char) :
    segmentsOf (anchor.slashes.toList ++ cs) = segmentsOf cs := by
  cases anchor with
  | here => rfl
  | root => exact segmentsOf_slash_cons cs
  | doubleRoot =>
    show segmentsOf ('/' :: '/' :: cs) = segmentsOf cs
    rw [segmentsOf_slash_cons, segmentsOf_slash_cons]

theorem anchorOf_of_head? {cs : List Char} (h : cs.head? ≠ some '/') : anchorOf cs = .here := by
  unfold anchorOf
  split <;> simp_all

/-- Where no other slash follows them, the slashes in front are those of the anchor. -/
theorem anchorOf_slashes (anchor : Anchor) {cs : List Char} (h : cs.head? ≠ some '/') :
    anchorOf (anchor.slashes.toList ++ cs) = anchor := by
  cases cs with
  | nil => cases anchor <;> rfl
  | cons c rest =>
    have hc : c ≠ '/' := by simpa using h
    cases anchor with
    | here => exact anchorOf_of_head? h
    | root =>
      show anchorOf ('/' :: c :: rest) = .root
      simp [anchorOf, hc]
    | doubleRoot =>
      show anchorOf ('/' :: '/' :: c :: rest) = .doubleRoot
      simp [anchorOf, hc]

/-! ## Segments between slashes -/

section

variable {names : List String} (h : ∀ s ∈ names, s ≠ "" ∧ s ≠ "." ∧ '/' ∉ s.toList)

include h

theorem segmentsOf_joinWith : segmentsOf (joinWith "/" names).toList = names := by
  by_cases hne : names = []
  · subst hne
    rfl
  · have hpieces : pieces '/' (joinWith "/" names).toList = names.map String.toList :=
      pieces_joined rfl hne fun s hs => (h s hs).2.2
    have hkept : (names.map String.toList).filter isSegment = names.map String.toList := by
      rw [List.filter_eq_self]
      intro piece hpiece
      obtain ⟨s, hs, rfl⟩ := List.mem_map.mp hpiece
      obtain ⟨hempty, hdot, -⟩ := h s hs
      have hdot' : s.toList ≠ ['.'] := fun he => hdot (String.toList_inj.mp he)
      simp [isSegment, hempty, hdot']
    unfold segmentsOf
    rw [hpieces, hkept, List.map_map]
    simp

/-- The first segment is not empty and holds no slash, so the text does not begin with one. -/
theorem head?_joinWith : (joinWith "/" names).toList.head? ≠ some '/' := by
  cases names with
  | nil => simp [joinWith]
  | cons first rest =>
    obtain ⟨hempty, -, hslash⟩ := h first List.mem_cons_self
    obtain ⟨c, cs, hfirst⟩ := List.exists_cons_of_ne_nil (mt String.toList_eq_nil_iff.mp hempty)
    have hc : c ≠ '/' := by
      rintro rfl
      apply hslash
      rw [hfirst]
      exact List.mem_cons_self
    rw [toList_joinWith rfl, List.map_cons, hfirst]
    cases rest with
    | nil => simpa [unite] using hc
    | cons second more => simpa [unite] using hc

/-- Joined segments are read as a path from the working directory. -/
theorem ofString_joined : ofString (joinWith "/" names) = ⟨.here, names⟩ := by
  unfold ofString
  rw [anchorOf_of_head? (head?_joinWith h), segmentsOf_joinWith h]

end

/-! ## The text of a path -/

/-- A path is read back from its text. -/
theorem ofString_toString {p : Path} (h : p.IsPlain) : ofString p.toString = p := by
  by_cases hbare : p.anchor = .here ∧ p.segments = []
  · -- a full stop is no segment
    obtain ⟨anchor, segments⟩ := p
    obtain ⟨rfl, rfl⟩ := hbare
    rfl
  · have htext : p.toString.toList = p.anchor.slashes.toList ++ (joinWith "/" p.segments).toList := by
      unfold toString
      rw [if_neg hbare, String.toList_append]
    unfold ofString
    rw [htext, anchorOf_slashes p.anchor (head?_joinWith h), segmentsOf_slashes,
      segmentsOf_joinWith h]

theorem toString_eq_iff {p q : Path} (hp : p.IsPlain) (hq : q.IsPlain) :
    p.toString = q.toString ↔ p = q := by
  constructor
  · intro h
    rw [← ofString_toString hp, h, ofString_toString hq]
  · exact congrArg toString

example : (ofString "//r/./../").toString = "//r/.." := by decide

end TemplateLookup.Path
