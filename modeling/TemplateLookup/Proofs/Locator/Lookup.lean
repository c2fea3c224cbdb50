/-
# TemplateLookup.Proofs.Locator.Lookup -- what a look-up leaves behind

A look-up ends in one of two ways (`resolve_outcome`): it found a resource, then the
table has one entry more, for the name that was asked for and the root that supplied
it, and exactly this entry is reported; or it failed, then the table is what it was
and no finding is reported. So the table after a look-up is the table before it with
the reported findings recorded (`Outcome.table_eq`), and a finding can only name a root
of the supplier and an accepted name (`Outcome.offers`).
-/

import TemplateLookup.Proofs.Locator.Search
import TemplateLookup.Proofs.Provenance
import TemplateLookup.Supplier

namespace TemplateLookup

theorem findings_notices (w : World) (name location : String) (roots : List String) :
    findings (searchRoots w name location roots).notices = [] :=
  findings_eq_nil fun n root => found_not_mem_notices w name location roots n root

theorem findings_refusalNotices (e : LookupError) : findings (refusalNotices e) = [] := by
  cases e <;> rfl

namespace Supplier

/-! ## The two ends of a look-up -/

/-- The root supplies the template of an accepted name. -/
def Offers (w : World) (supplier : Supplier) (name root : String) : Prop :=
  ∃ l location r, supplier = .files l ∧ Name.accept (some name) = .ok location ∧
    (searchRoots w name location l.roots.names).resource = some r ∧ r.root = root

/-- How a look-up can end. -/
inductive Outcome (w : World) (supplier : Supplier) (table : Provenance) :
    Option String → Lookup → Prop where
  | found {l : Locator} {name location : String} {r : Resource} {events : List Log.Event}
      (files : supplier = .files l) (accepted : Name.accept (some name) = .ok location)
      (searched : (searchRoots w name location l.roots.names).resource = some r)
      (reported : findings events = [(name, r.root)]) :
      Outcome w supplier table (some name) ⟨.ok r, table.record name r.root, events⟩
  | failed {name : Option String} {e : LookupError} {events : List Log.Event}
      (reported : findings events = []) :
      Outcome w supplier table name ⟨.error e, table, events⟩

theorem resolve_outcome (w : World) (table : Provenance) (name : Option String)
    (supplier : Supplier) : Outcome w supplier table name (resolve w table name supplier) := by
  cases supplier with
  | barren kind => exact .failed rfl
  | files l =>
    rw [resolve, Locator.resolve]
    cases name with
    | none => exact .failed rfl
    | some n =>
      cases hname : Name.accept (some n) with
      | error e => exact .failed (findings_refusalNotices e)
      | ok location =>
        simp only [Locator.resolveAt, Option.getD_some]
        cases hsearch : (searchRoots w n location l.roots.names).resource with
        | none => exact .failed (findings_notices ..)
        | some r =>
          refine .found rfl hname hsearch ?_
          rw [findings_append, findings_notices]
          rfl

/-! ## The table -/

theorem Outcome.table_eq {w : World} {supplier : Supplier} {table : Provenance}
    {name : Option String} {lookup : Lookup} (h : Outcome w supplier table name lookup) :
    lookup.table = table.recordAll (findings lookup.events) := by
  cases h with
  | found files accepted searched reported => rw [reported]; rfl
  | failed reported => rw [reported]; rfl

theorem Outcome.offers {w : World} {supplier : Supplier} {table : Provenance}
    {name : Option String} {lookup : Lookup} (h : Outcome w supplier table name lookup)
    {n root : String} (hmem : (n, root) ∈ findings lookup.events) :
    name = some n ∧ Offers w supplier n root := by
  cases h with
  | found files accepted searched reported =>
    rw [reported] at hmem
    cases List.mem_singleton.mp hmem
    exact ⟨rfl, _, _, _, files, accepted, searched, rfl⟩
  | failed reported =>
    rw [reported] at hmem
    cases hmem

theorem Offers.mem_roots {w : World} {supplier : Supplier} {name root : String}
    (h : Offers w supplier name root) : ∃ l, supplier = .files l ∧ root ∈ l.roots.names := by
  obtain ⟨l, location, r, hsupplier, -, hsearch, rfl⟩ := h
  exact ⟨l, hsupplier, (mem_of_searchRoots hsearch).1⟩

/-! ## The resource -/

/-- The file of a resource is readable, and content and time of the resource are its. -/
theorem Outcome.reads {w : World} {supplier : Supplier} {table : Provenance}
    {name : Option String} {lookup : Lookup} (h : Outcome w supplier table name lookup)
    {r : Resource} (hr : lookup.result = .ok r) :
    w.isReadable r.path = true ∧
      ∃ time, w.fileAt? r.path = some (r.content, time) ∧ r.lastModified = time.stamp := by
  cases h with
  | failed reported => cases hr
  | found files accepted searched reported =>
    cases hr
    obtain ⟨hread, hopen, hstamp, -, -, hpath⟩ :=
      tryRoot_resource? (mem_of_searchRoots searched).2
    rw [hpath]
    exact ⟨hread, World.fileAt?_of_opened hopen hstamp⟩

/-- What was found came from the candidate of a root, which the table holds now. -/
theorem Outcome.recorded {w : World} {supplier : Supplier} {table : Provenance}
    {name : Option String} {lookup : Lookup} (h : Outcome w supplier table name lookup)
    {r : Resource} (hr : lookup.result = .ok r) :
    ∃ l n location, supplier = .files l ∧ name = some n ∧
      Name.accept (some n) = .ok location ∧ lookup.table.root? n = some r.root ∧
      r.path = candidate r.root location := by
  cases h with
  | failed reported => cases hr
  | found files accepted searched reported =>
    cases hr
    obtain ⟨-, -, -, -, -, hpath⟩ := tryRoot_resource? (mem_of_searchRoots searched).2
    exact ⟨_, _, _, files, rfl, accepted, Provenance.root?_record_self .., hpath⟩

end Supplier

/-- Where no file fails on being opened, a look-up finds the file of the first readable
root. -/
theorem Locator.resolve_of_opensAll {w : World} (hw : w.OpensAll) (l : Locator)
    (table : Provenance) {name : Option String} {location : String}
    (hname : Name.accept name = .ok location) :
    match readableRoot w location l.roots.names with
    | none => (resolve w l table name).result = .error (.notFound location)
    | some root => ∃ content time,
        w.fileAt? (candidate root location) = some (content, time) ∧
        (resolve w l table name).result =
          .ok ⟨name.getD "", root, candidate root location, time.stamp, content⟩ := by
  have hsearch := searchRoots_of_opensAll hw (name.getD "") location l.roots.names
  rw [resolve, hname]
  cases hroot : readableRoot w location l.roots.names with
  | none =>
    rw [hroot] at hsearch
    simp only [resolveAt, hsearch]
  | some root =>
    rw [hroot] at hsearch
    obtain ⟨content, time, hfile, hfound⟩ := hsearch
    exact ⟨content, time, hfile, by simp only [resolveAt, hfound]⟩

end TemplateLookup
