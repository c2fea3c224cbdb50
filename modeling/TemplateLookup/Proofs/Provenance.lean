/-
# TemplateLookup.Proofs.Provenance -- the table as a list of findings

A table only ever changes by recording entries. `recordAll` records a list of them,
and what a name is mapped to afterwards is the root of the last entry for it, or what
it was mapped to before (`root?_recordAll`). The entries that a look-up records are
those it reports: `findings` reads them off the events.
-/

import TemplateLookup.Log.Event
import TemplateLookup.Proofs.Pairs
import TemplateLookup.Provenance

namespace TemplateLookup

namespace Provenance

/-- The table after entries were recorded in order. -/
def recordAll (t : Provenance) (entries : List (String × String)) : Provenance :=
  entries.foldl (fun t entry => t.record entry.1 entry.2) t

theorem recordAll_append (t : Provenance) (xs ys : List (String × String)) :
    t.recordAll (xs ++ ys) = (t.recordAll xs).recordAll ys :=
  List.foldl_append

/-- The last entry for a name counts. -/
theorem root?_recordAll (t : Provenance) (entries : List (String × String)) (name : String) :
    (t.recordAll entries).root? name = (Pairs.fetch name entries.reverse).or (t.root? name) := by
  induction entries generalizing t with
  | nil => rfl
  | cons entry rest ih =>
    obtain ⟨n, root⟩ := entry
    have hlater := ih (t.record n root)
    rw [List.reverse_cons, Pairs.fetch_append, Option.or_assoc]
    refine hlater.trans (congrArg _ ?_)
    rw [Pairs.fetch]
    by_cases hn : n = name
    · subst hn
      rw [if_pos rfl, Option.some_or, root?_record_self]
    · rw [if_neg hn, root?_record_of_ne t root (Ne.symm hn)]
      rfl

theorem root?_recordAll_eq_some {t : Provenance} {entries : List (String × String)}
    {name root : String} (h : (t.recordAll entries).root? name = some root) :
    (name, root) ∈ entries ∨ t.root? name = some root := by
  rw [root?_recordAll] at h
  rcases Option.or_eq_some_iff.mp h with hfetch | ⟨-, hbefore⟩
  · exact .inl (List.mem_reverse.mp (Pairs.mem_of_fetch hfetch))
  · exact .inr hbefore

/-- Entries are never removed. -/
theorem contains_recordAll {t : Provenance} {name : String} (h : t.contains name = true)
    (entries : List (String × String)) : (t.recordAll entries).contains name = true := by
  rw [contains, root?_recordAll, Option.isSome_or]
  rw [contains] at h
  rw [h, Bool.or_true]

end Provenance

/-! ## Findings -/

/-- The entry that an event reports. -/
def Log.Event.entry? : Log.Event → Option (String × String)
  | .found name root => some (name, root)
  | _ => none

/-- The entries that events report, in order. -/
def findings (events : List Log.Event) : List (String × String) :=
  events.filterMap Log.Event.entry?

theorem findings_append (xs ys : List Log.Event) :
    findings (xs ++ ys) = findings xs ++ findings ys :=
  List.filterMap_append

theorem mem_findings_iff {events : List Log.Event} {name root : String} :
    (name, root) ∈ findings events ↔ .found name root ∈ events := by
  rw [findings, List.mem_filterMap]
  constructor
  · rintro ⟨event, hmem, hentry⟩
    cases event <;> cases hentry
    exact hmem
  · intro hmem
    exact ⟨_, hmem, rfl⟩

theorem findings_eq_nil {events : List Log.Event} (h : ∀ name root, .found name root ∉ events) :
    findings events = [] := by
  rw [List.eq_nil_iff_forall_not_mem]
  rintro ⟨name, root⟩ hmem
  exact h name root (mem_findings_iff.mp hmem)

end TemplateLookup
