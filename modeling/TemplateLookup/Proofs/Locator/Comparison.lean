/-
# TemplateLookup.Proofs.Locator.Comparison -- comparing files is comparing roots

Whether a template is overtaken is decided by comparing two paths: the candidate of the root in the
table and the candidate of the root of now. Both end on the segments of the name, so these cancel:
the candidates are the same exactly when the roots are the same path, whatever the name is
(`candidate_eq_candidate_iff`). In the same way two names have the same candidate below one root
exactly when they have the same segments (`candidate_eq_candidate_of_root_iff`). So the check sees a
root only as a path: another spelling of the root of now makes no difference to it, and a root that
is another path is never taken for it (`candidates_compared`).
-/

import TemplateLookup.Proofs.Candidate
import TemplateLookup.Proofs.Locator.Verdict
import TemplateLookup.Proofs.Path

namespace TemplateLookup

/-! ## Roots as paths -/

/-- The text that a root stands for; the top of the file system is written as a slash. -/
def rootText (root : String) : String := if root = absoluteRoot then "/" else root

theorem rootPath_eq_ofString (root : String) : rootPath root = Path.ofString (rootText root) := by
  unfold rootPath rootText
  by_cases hroot : root = absoluteRoot
  · rw [if_pos hroot, if_pos hroot]
    rfl
  · rw [if_neg hroot, if_neg hroot]

theorem isPlain_candidate (root location : String) : (candidate root location).IsPlain := by
  unfold candidate
  split
  · exact Path.isPlain_ofString location
  · exact (Path.isPlain_ofString root).join (Path.isPlain_ofString (withoutSlashes location))

/-! ## Candidates -/

/-- Two roots offer the same candidate for a location exactly when they are the same path. -/
theorem candidate_eq_candidate_iff {location : String} (h : Name.IsNormal location.toList)
    (root other : String) :
    candidate root location = candidate other location ↔ rootPath root = rootPath other := by
  rw [candidate_eq h, candidate_eq h, Path.mk.injEq, List.append_left_inj]
  constructor
  · rintro ⟨hanchor, hsegments⟩
    show Path.mk (rootPath root).anchor (rootPath root).segments = rootPath other
    rw [hanchor, hsegments]
  · intro hroot
    rw [hroot]
    exact ⟨rfl, rfl⟩

/-- A root offers the same candidate for two locations exactly when they have the same segments. -/
theorem candidate_eq_candidate_of_root_iff {location location' : String}
    (h : Name.IsNormal location.toList) (h' : Name.IsNormal location'.toList) (root : String) :
    candidate root location = candidate root location' ↔
      Name.segments location = Name.segments location' := by
  rw [candidate_eq h, candidate_eq h', Path.mk.injEq, List.append_right_inj]
  exact and_iff_right rfl

namespace Locator

/-! ## The check -/

section

variable {w : World} {l : Locator} {table : Provenance} {name : Option String}
  {location current : String} (hname : Name.accept name = .ok location)
  (hcurrent : readableRoot w location l.roots.names = some current)

include hname hcurrent

theorem isStale_eq_hasChanged (table : Provenance) (known : Number.Numeral) :
    isStale w l table name known =
      hasChanged w location (loadedRoot table name current) current known := by
  unfold isStale
  simp only [hname, hcurrent]
  rfl

/-- A root that is the same path as the root of now counts as the root of now. -/
theorem isStale_of_same_root
    (h : rootPath (loadedRoot table name current) = rootPath current) (known : Number.Numeral) :
    isStale w l table name known = isStale w l .empty name known := by
  have hsame : candidate (loadedRoot table name current) location = candidate current location :=
    (candidate_eq_candidate_iff (Name.isNormal_of_accept hname) _ _).mpr h
  have hempty : loadedRoot .empty name current = current := rfl
  rw [isStale_eq_hasChanged hname hcurrent, isStale_eq_hasChanged hname hcurrent, hempty]
  unfold hasChanged
  rw [hsame]

/-- A root that is another path is never taken for the root of now. -/
theorem isStale_of_other_root
    (h : rootPath (loadedRoot table name current) ≠ rootPath current) (known : Number.Numeral) :
    isStale w l table name known ≠ .ok false := by
  intro hfresh
  rw [isStale_eq_hasChanged hname hcurrent, hasChanged_eq_false_iff] at hfresh
  exact h ((candidate_eq_candidate_iff (Name.isNormal_of_accept hname) _ _).mp hfresh.1)

end

/-- **Comparing candidates is comparing roots.** Two roots offer the same candidate for an accepted
name exactly when they are the same path, where the top of the file system is written as a slash;
and it makes no difference whether the candidates are compared as paths or by their texts. A root
offers the same candidate for two accepted names exactly when these have the same segments. So the
check finds a template fresh only if the root in the table is the same path as the root of now, and
then its answer is the one that it gives without the table. -/
theorem candidates_compared {name : Option String} {location : String}
    (hname : Name.accept name = .ok location) :
    (∀ root other,
      (candidate root location = candidate other location ↔
        Path.ofString (rootText root) = Path.ofString (rootText other)) ∧
      ((candidate root location).toString = (candidate other location).toString ↔
        Path.ofString (rootText root) = Path.ofString (rootText other))) ∧
    (∀ again location', Name.accept again = .ok location' → ∀ root,
      (candidate root location = candidate root location' ↔
        Name.segments location = Name.segments location')) ∧
    ∀ w l table known current, readableRoot w location l.roots.names = some current →
      (Path.ofString (rootText (loadedRoot table name current)) = Path.ofString (rootText current) →
        isStale w l table name known = isStale w l .empty name known) ∧
      (Path.ofString (rootText (loadedRoot table name current)) ≠ Path.ofString (rootText current) →
        isStale w l table name known ≠ .ok false) := by
  have hnormal := Name.isNormal_of_accept hname
  simp only [← rootPath_eq_ofString]
  refine ⟨?_, ?_, ?_⟩
  · intro root other
    have hpaths := candidate_eq_candidate_iff hnormal root other
    refine ⟨hpaths, ?_⟩
    rw [Path.toString_eq_iff (isPlain_candidate root location) (isPlain_candidate other location)]
    exact hpaths
  · intro again location' hagain root
    exact candidate_eq_candidate_of_root_iff hnormal (Name.isNormal_of_accept hagain) root
  · intro w l table known current hcurrent
    constructor
    · intro hsame
      exact isStale_of_same_root hname hcurrent hsame known
    · intro hother
      exact isStale_of_other_root hname hcurrent hother known

/-- The root of the file in three spellings: with a full stop, which is the same path and keeps the
template fresh; with a step back, which leads to the same file but is another path; and with two
slashes in front, which is another path as well. -/
theorem filed_compared :
    let known := Number.Numeral.real (FileTime.stamp ⟨5, 0⟩)
    Name.accept (some "x") = .ok "/x" ∧
      readableRoot filed "/x" filing.roots.names = some "/a" ∧
      isStale filed filing ⟨[("x", "///a/.")]⟩ (some "x") known =
        isStale filed filing .empty (some "x") known ∧
      isStale filed filing ⟨[("x", "/a/../a")]⟩ (some "x") known ≠ .ok false ∧
      candidate "//a" "/x" ≠ candidate "/a" "/x" := by
  intro known
  have hname : Name.accept (some "x") = .ok "/x" := rfl
  have hcurrent : readableRoot filed "/x" filing.roots.names = some "/a" := by decide
  obtain ⟨hroots, -, hcheck⟩ := candidates_compared hname
  refine ⟨hname, hcurrent, ?_, ?_, ?_⟩
  · exact (hcheck filed filing ⟨[("x", "///a/.")]⟩ known "/a" hcurrent).1 (by decide)
  · exact (hcheck filed filing ⟨[("x", "/a/../a")]⟩ known "/a" hcurrent).2 (by decide)
  · exact (not_congr (hroots "//a" "/a").1).mpr (by decide)

end Locator

end TemplateLookup
