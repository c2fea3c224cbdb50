/-
# TemplateLookup.Proofs.Candidate -- candidates stay below their root

The candidate that a root offers for an accepted name is the path of the root
followed by the segments of the name (`candidate_eq`), and each of these segments is
proper: it leads one step down and nowhere else (`isProper_of_mem_segments`). The
root that stands for the top of the file system counts as the path `/`.
-/

import TemplateLookup.Candidate
import TemplateLookup.Name.Accept
import TemplateLookup.Proofs.Name.NormalForm

namespace TemplateLookup

open TemplateLookup.Text

/-! ## Segments of a location -/

namespace Name

/-- The segments of a location. -/
def segments (location : String) : List String :=
  ((pieces '/' location.toList).filter (· ≠ [])).map String.ofList

/-- A segment that leads one step down and nowhere else. -/
structure IsProper (segment : String) : Prop where
  ne_empty : segment ≠ ""
  ne_dot : segment ≠ "."
  ne_back : segment ≠ ".."
  noSlash : '/' ∉ segment.toList
  noBackslash : '\\' ∉ segment.toList

theorem isProper_of_mem_segments {location : String} (h : IsNormal location.toList) :
    ∀ s ∈ segments location, IsProper s := by
  intro s hs
  obtain ⟨piece, hpiece, rfl⟩ := List.mem_map.mp hs
  obtain ⟨hmem, hne⟩ := List.mem_filter.mp hpiece
  have hne : piece ≠ [] := by simpa using hne
  refine ⟨?_, ?_, ?_, ?_, ?_⟩
  · exact fun he => hne (String.ofList_injective he)
  · intro he
    have hdot : piece = ['.'] := String.ofList_injective he
    exact h.noDot (hdot ▸ hmem)
  · intro he
    have hback : piece = ['.', '.'] := String.ofList_injective he
    exact h.noBack (hback ▸ hmem)
  · rw [String.toList_ofList]
    exact not_mem_of_mem_pieces hmem
  · rw [String.toList_ofList]
    exact fun hb => h.noBackslash (subset_of_mem_pieces hmem hb)

/-- A name is accepted when it is not empty and has a normal form. -/
theorem accept_eq_ok_iff {name location : String} :
    accept (some name) = .ok location ↔ name ≠ "" ∧ normal? name = some location := by
  rw [accept]
  by_cases hname : name = ""
  · rw [if_pos hname]
    exact iff_of_false nofun fun h => h.1 hname
  · rw [if_neg hname]
    cases normal? name with
    | none => exact iff_of_false nofun fun h => by cases h.2
    | some found => simp [hname]

theorem isNormal_of_accept {name : Option String} {location : String}
    (h : accept name = .ok location) : IsNormal location.toList := by
  cases name with
  | none => cases h
  | some n => exact isNormal_of_normal? (accept_eq_ok_iff.mp h).2

end Name

/-! ## Reading a location as a path -/

namespace Path

theorem segmentsOf_of_isNormal {location : String} (h : Name.IsNormal location.toList) :
    segmentsOf location.toList = Name.segments location := by
  have hfilter : (pieces '/' location.toList).filter isSegment =
      (pieces '/' location.toList).filter (· ≠ []) := by
    apply List.filter_congr
    intro p hp
    have hdot : p ≠ ['.'] := by
      rintro rfl
      exact h.noDot hp
    simp [isSegment, hdot]
  rw [segmentsOf, hfilter, Name.segments]

theorem anchorOf_of_isNormal {cs : List Char} (h : Name.IsNormal cs) : anchorOf cs = .root := by
  have hslash := h.slash
  cases cs with
  | nil => cases hslash
  | cons c rest =>
    injection hslash with hc
    subst hc
    cases rest with
    | nil => rfl
    | cons d more =>
      by_cases hd : d = '/'
      · -- two slashes at the front would leave a gap between them
        have hgap : [] ∈ Name.inner ('/' :: '/' :: more) := by
          rw [Name.inner, pieces_sep_cons, pieces_sep_cons, List.tail_cons,
            List.dropLast_cons_of_ne_nil (pieces_ne_nil '/' more)]
          exact List.mem_cons_self
        exact absurd (hd ▸ hgap) h.noGap
      · unfold anchorOf
        split <;> simp_all

theorem segmentsOf_dropWhile_slash (cs : List Char) :
    segmentsOf (cs.dropWhile (· = '/')) = segmentsOf cs := by
  induction cs with
  | nil => rfl
  | cons c rest ih =>
    by_cases hc : c = '/'
    · subst hc
      have hskip : segmentsOf ('/' :: rest) = segmentsOf rest := by
        rw [segmentsOf, pieces_sep_cons]
        rfl
      rw [List.dropWhile_cons_of_pos (by simp), ih, hskip]
    · rw [List.dropWhile_cons_of_neg (by simpa using hc)]

theorem anchorOf_dropWhile_slash (cs : List Char) :
    anchorOf (cs.dropWhile (· = '/')) = .here := by
  induction cs with
  | nil => rfl
  | cons c rest ih =>
    by_cases hc : c = '/'
    · rw [List.dropWhile_cons_of_pos (by simpa using hc), ih]
    · rw [List.dropWhile_cons_of_neg (by simpa using hc)]
      unfold anchorOf
      split <;> simp_all

/-- The second path is the first one or leads down from it by proper segments. -/
def IsAtOrBelow (base p : Path) : Prop :=
  p.anchor = base.anchor ∧ ∃ down, p.segments = base.segments ++ down ∧ ∀ s ∈ down, Name.IsProper s

end Path

/-! ## The candidate -/

/-- The path of a root; the top of the file system is the path `/`. -/
def rootPath (root : String) : Path :=
  if root = absoluteRoot then ⟨.root, []⟩ else Path.ofString root

theorem candidate_eq {location : String} (h : Name.IsNormal location.toList) (root : String) :
    candidate root location =
      ⟨(rootPath root).anchor, (rootPath root).segments ++ Name.segments location⟩ := by
  by_cases hr : root = absoluteRoot
  · rw [candidate, if_pos hr, rootPath, if_pos hr, Path.ofString, Path.anchorOf_of_isNormal h,
      Path.segmentsOf_of_isNormal h, List.nil_append]
  · have hread : Path.ofString (withoutSlashes location) = ⟨.here, Name.segments location⟩ := by
      rw [Path.ofString, withoutSlashes, String.toList_ofList, Path.anchorOf_dropWhile_slash,
        Path.segmentsOf_dropWhile_slash, Path.segmentsOf_of_isNormal h]
    rw [candidate, if_neg hr, rootPath, if_neg hr, hread, Path.join_of_relative _ _ rfl]

example : candidate "r/" "/a/b/" = ⟨.here, ["r", "a", "b"]⟩ := by decide

theorem candidate_isAtOrBelow {name : Option String} {location : String}
    (h : Name.accept name = .ok location) (root : String) :
    (rootPath root).IsAtOrBelow (candidate root location) := by
  have hnormal := Name.isNormal_of_accept h
  rw [candidate_eq hnormal]
  exact ⟨rfl, Name.segments location, rfl, Name.isProper_of_mem_segments hnormal⟩

end TemplateLookup
