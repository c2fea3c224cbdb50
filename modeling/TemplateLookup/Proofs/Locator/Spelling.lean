/-
# TemplateLookup.Proofs.Locator.Spelling -- a name counts by its segments

A name can be spelled in many ways: with backslashes, with `.` and `..` on the way, with a
slash at the end. Accepted names whose locations are the same up to one slash at the end
have the same segments (`segments_eq_of_sameUpToSlash`), so every root offers the same
candidate for both (`candidate_congr`). A search over the same candidates finds the same
resource, which only carries the name that was asked for (`searchRoots_renamed`). So all
operations answer alike (`lookups_by_segments`), as far as the table says the same about
both spellings: it is the table alone that tells them apart.
-/

import TemplateLookup.Proofs.Candidate
import TemplateLookup.Proofs.Locator.Usable

namespace TemplateLookup

open TemplateLookup.Text

/-! ## Locations and candidates -/

namespace Name

/-- Two locations are the same up to one slash at the end. -/
def SameUpToSlash (location other : String) : Prop :=
  location = other ∨ location = other.push '/' ∨ other = location.push '/'

theorem segments_push_slash (location : String) :
    segments (location.push '/') = segments location := by
  -- the slash adds one piece, and that is empty
  have hpieces : pieces '/' (location.push '/').toList = pieces '/' location.toList ++ [[]] := by
    rw [String.toList_push, pieces_append_sep, pieces]
  rw [segments, hpieces, List.filter_append, List.map_append]
  simp [segments]

theorem segments_eq_of_sameUpToSlash {location other : String}
    (h : SameUpToSlash location other) : segments location = segments other := by
  rcases h with rfl | rfl | rfl
  · rfl
  · exact segments_push_slash other
  · exact (segments_push_slash location).symm

/-- A slash at the end adds an empty piece, so the walk is the same, and at most its text
gets a slash at the end. -/
theorem walked_append_slash {cs location : List Char} (h : walked cs = some location) :
    walked (cs ++ ['/']) = some location ∨ walked (cs ++ ['/']) = some (location ++ ['/']) := by
  obtain ⟨stack, hwalk, rfl⟩ := Option.map_eq_some_iff.mp h
  have hpieces : pieces '/' (forward (cs ++ ['/'])) = pieces '/' (forward cs) ++ [[]] := by
    rw [forward, List.map_append]
    exact pieces_append_sep (forward cs) []
  have hwalk' : walk (pieces '/' (forward cs) ++ [[]]) = some stack := by
    rw [walk_skip (.inl rfl), List.append_nil]
    exact hwalk
  have hlast : staysInDirectory ((pieces '/' (forward cs) ++ [[]]).getLastD []) = true := by
    simp [staysInDirectory]
  rw [walked, hpieces, hwalk', Option.map_some, written, written, hlast]
  generalize (pieces '/' (forward cs)).getLastD [] = last
  -- only where there are segments, and no slash yet, one is written
  by_cases hstack : stack = []
  · exact .inl (by simp [hstack])
  · cases hstays : staysInDirectory last with
    | true => exact .inl rfl
    | false => exact .inr (by simp [hstack])

/-- A slash may be put at the end of every accepted name. -/
theorem accept_push_slash {name location : String} (h : accept (some name) = .ok location) :
    ∃ other, accept (some (name.push '/')) = .ok other ∧ SameUpToSlash location other := by
  have hwalked := (normal?_eq_some_iff name location).mp (accept_eq_ok_iff.mp h).2
  have hpushed : (name.push '/').toList = name.toList ++ ['/'] := String.toList_push ..
  have hne : name.push '/' ≠ "" := by
    intro he
    rw [he] at hpushed
    simp at hpushed
  have haccept : ∀ other, walked (name.toList ++ ['/']) = some other.toList →
      accept (some (name.push '/')) = .ok other := by
    intro other hother
    refine accept_eq_ok_iff.mpr ⟨hne, (normal?_eq_some_iff _ other).mpr ?_⟩
    rw [hpushed]
    exact hother
  rcases walked_append_slash hwalked with hsame | hslash
  · exact ⟨location, haccept location hsame, .inl rfl⟩
  · refine ⟨location.push '/', haccept _ ?_, .inr (.inr rfl)⟩
    rw [String.toList_push]
    exact hslash

end Name

/-- Roots offer the same candidate for locations with the same segments. -/
theorem candidate_congr {location other : String} (hlocation : Name.IsNormal location.toList)
    (hother : Name.IsNormal other.toList)
    (h : Name.segments location = Name.segments other) (root : String) :
    candidate root location = candidate root other := by
  rw [candidate_eq hlocation, candidate_eq hother, h]

/-! ## Searching the same candidates -/

/-- The resource under another name. -/
def Resource.renamed (r : Resource) (name : String) : Resource := { r with name := name }

section

variable {location other : String}
  (hsame : ∀ root, candidate root location = candidate root other)

include hsame

theorem tryRoot_renamed (w : World) (name again root : String) :
    (tryRoot w again other root).resource? =
      (tryRoot w name location root).resource?.map (·.renamed again) := by
  unfold tryRoot
  rw [hsame root]
  dsimp only
  cases w.isReadable (candidate root other) with
  | false => rfl
  | true =>
    cases w.openedContent (candidate root other) with
    | error e => rfl
    | ok content => cases w.openedStamp (candidate root other) <;> rfl

/-- A search under another name finds the same, under that name. -/
theorem searchRoots_renamed (w : World) (name again : String) (roots : List String) :
    (searchRoots w again other roots).resource =
      (searchRoots w name location roots).resource.map (·.renamed again) := by
  have htrial : (fun root => (tryRoot w again other root).resource?) =
      fun root => (tryRoot w name location root).resource?.map (·.renamed again) :=
    funext fun root => tryRoot_renamed hsame w name again root
  rw [searchRoots_resource, searchRoots_resource, htrial, List.map_findSome?]
  rfl

end

namespace Locator

/-! ## Two spellings of a name -/

/-- Two accepted names whose locations are the same up to one slash at the end have the same
root of now. A look-up of one succeeds exactly when a look-up of the other does, and finds
the same root, path, content and time, whatever the tables are. Where the tables say the same
about both names, they are stale for the same times and have the same time themselves. -/
theorem lookups_by_segments {name again location other : String}
    (hname : Name.accept (some name) = .ok location) (hagain : Name.accept (some again) = .ok other)
    (hslash : Name.SameUpToSlash location other) (w : World) (l : Locator)
    (table table' : Provenance) :
    currentRoot w l (some again) = currentRoot w l (some name) ∧
      (resolve w l table' (some again)).result.toOption =
        (resolve w l table (some name)).result.toOption.map (·.renamed again) ∧
      (table'.root? again = table.root? name →
        (∀ known, isStale w l table' (some again) known = isStale w l table (some name) known) ∧
          lastModified w table' (some again) = lastModified w table (some name)) := by
  have hsame : ∀ root, candidate root location = candidate root other :=
    candidate_congr (Name.isNormal_of_accept hname) (Name.isNormal_of_accept hagain)
      (Name.segments_eq_of_sameUpToSlash hslash)
  have hreadable : readableRoot w location l.roots.names = readableRoot w other l.roots.names :=
    readableRoot_of_isReadable (fun root => by rw [hsame root]) _
  obtain ⟨hcurrent, hresult⟩ := outcomes_of_accept w l table hname
  obtain ⟨hcurrent', hresult'⟩ := outcomes_of_accept w l table' hagain
  refine ⟨?_, ?_, fun hentry => ⟨fun known => ?_, ?_⟩⟩
  · rw [hcurrent, hcurrent', hreadable]
  · rw [hresult, hresult', Option.getD_some, Option.getD_some,
      searchRoots_renamed hsame w name again]
    cases (searchRoots w name location l.roots.names).resource <;> rfl
  · unfold isStale
    rw [hname, hagain]
    dsimp only
    rw [hreadable, Option.getD_some, Option.getD_some, hentry]
    -- the two files that are compared are the same for both spellings
    cases readableRoot w other l.roots.names with
    | none => rfl
    | some current => simp only [hasChanged, hsame]
  · unfold lastModified
    simp only [Option.bind_some, hentry, hname, hagain]
    cases table.root? name with
    | none => rfl
    | some root => simp only [hsame]

/-- A spelling with backslashes, a step back, and a slash at the end finds the file of the
plain name, and is stale exactly when the plain name is. -/
theorem crowded_respelled :
    let entry := Provenance.record .empty "y\\..\\x/." "/c"
    ((resolve crowded tour .empty (some "y\\..\\x/.")).result.toOption.map Resource.path =
        some (candidate "/c" "/x")) ∧
      isStale crowded tour entry (some "y\\..\\x/.") (.int 5) =
        isStale crowded tour (.record .empty "x" "/c") (some "x") (.int 5) := by
  intro entry
  have hname : Name.accept (some "x") = .ok "/x" := rfl
  have hagain : Name.accept (some "y\\..\\x/.") = .ok "/x/" := by decide +kernel
  have hslash : Name.SameUpToSlash "/x" "/x/" := .inr (.inr rfl)
  obtain ⟨-, hfound, -⟩ :=
    lookups_by_segments hname hagain hslash crowded tour .empty .empty
  obtain ⟨-, -, hstale⟩ :=
    lookups_by_segments hname hagain hslash crowded tour (.record .empty "x" "/c") entry
  refine ⟨?_, (hstale rfl).1 (.int 5)⟩
  rw [hfound]
  rfl

/-! ## A slash at the end -/

/-- What is found under a name is found under the name with a slash at the end. -/
theorem resolve_push_slash {w : World} {l : Locator} {table : Provenance} {name : String}
    {r : Resource} (h : (resolve w l table (some name)).result = .ok r) (table' : Provenance) :
    (resolve w l table' (some (name.push '/'))).result = .ok (r.renamed (name.push '/')) := by
  cases hname : Name.accept (some name) with
  | error e => cases h.symm.trans (predicts_of_refused w l table hname).2.1
  | ok location =>
    obtain ⟨other, hother, hslash⟩ := Name.accept_push_slash hname
    have hsame := candidate_congr (Name.isNormal_of_accept hname) (Name.isNormal_of_accept hother)
      (Name.segments_eq_of_sameUpToSlash hslash)
    have hresult := (outcomes_of_accept w l table hname).2
    rw [(outcomes_of_accept w l table' hother).2, Option.getD_some,
      searchRoots_renamed hsame w name]
    rw [h, Option.getD_some] at hresult
    cases hsearch : (searchRoots w name location l.roots.names).resource with
    | none =>
      rw [hsearch] at hresult
      cases hresult
    | some found =>
      rw [hsearch] at hresult
      cases hresult
      rfl

end Locator

end TemplateLookup
