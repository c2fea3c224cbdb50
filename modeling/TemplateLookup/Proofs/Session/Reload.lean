/-
# TemplateLookup.Proofs.Session.Reload -- a fresh template need not be loaded again

A step that checks a template and a step that looks it up see the same files and the same
table. So where the check answers that the template is fresh, a look-up in its place would
find the file that the table leads to, with the time that is known (`fresh_resolves`). This
holds for any state of the table, whoever wrote it.
-/

import TemplateLookup.Proofs.Locator.Agreement
import TemplateLookup.Session.Run
import TemplateLookup.Standard

namespace TemplateLookup.Session

section

variable [Template.Engine] [Encodings] [Yaml.Reader] [Command.ArgumentReader]

/-! ## Checking and looking up -/

theorem step_resolve {s : Session} {id : String} {held : Held}
    (hheld : Pairs.fetch id s.suppliers = some held) (name : Option String) (reading : Reading) :
    (s.step (.resolve id name reading)).answer =
      match (held.supplier.resolve s.world (s.table held.table) name).result with
      | .ok r => .resource r (contents s.world r reading)
      | .error e => .problem (.lookup e) := by
  show (s.withHeld id _).answer = _
  rw [withHeld, hheld]
  rfl

theorem step_isStale_eq_flag_iff {s : Session} {id : String} {held : Held}
    (hheld : Pairs.fetch id s.suppliers = some held) (name : Option String)
    (known : Number.Numeral) (stale : Bool) :
    (s.step (.isStale id name known)).answer = .flag stale ↔
      held.supplier.isStale s.world (s.table held.table) name known = .ok stale := by
  show (s.withHeld id _).answer = _ ↔ _
  rw [withHeld, hheld]
  dsimp only [isStale, answered]
  cases held.supplier.isStale s.world (s.table held.table) name known with
  | error e => exact iff_of_false nofun nofun
  | ok found => rw [Answer.flag.injEq, Except.ok.injEq]

/-! ## The check and the look-up agree -/

/-- A check of a session answers that a template is fresh, and the first readable candidate
can be opened and tells its time. Then a look-up in place of the check finds a resource: its
time is the known one, and its path is the candidate of the root that the table held for the
name. The session is arbitrary, so anyone may have written the table, and in any order. -/
theorem fresh_resolves {s : Session} {id : String} {l : Locator} {t : TableName}
    {name : Option String} {known : Number.Numeral}
    (hheld : Pairs.fetch id s.suppliers = some ⟨.files l, t⟩)
    (hfresh : (s.step (.isStale id name known)).answer = .flag false)
    (hopens : ∀ location first, Name.accept name = .ok location →
      FirstReadable s.world location l.roots.names first →
      s.world.Opens (candidate first location)) (reading : Reading) :
    ∃ location r, Name.accept name = .ok location ∧
      (s.step (.resolve id name reading)).answer = .resource r (contents s.world r reading) ∧
      known.equals r.lastModified = true ∧
      ∀ n root, name = some n → (s.table t).root? n = some root →
        r.path = candidate root location := by
  have hcheck := (step_isStale_eq_flag_iff hheld name known false).mp hfresh
  obtain ⟨location, r, hname, hresult, hrest⟩ := Locator.resolve_of_fresh hcheck hopens
  refine ⟨location, r, hname, ?_, hrest⟩
  rw [step_resolve hheld, Supplier.resolve, hresult]

end

/-- A session in which another supplier wrote the table: it has the file under a root that
the first supplier does not search, spelled in its own way. -/
def shelf : Session :=
  { start Locator.filed [] with
    suppliers := [("l", ⟨.files Locator.filing, .shared "t"⟩)]
    tables := [(.shared "t", ⟨[("x", "/./a/")]⟩)] }

/-- The known time is written as an integer. -/
theorem shelf_found :
    ∃ r, (shelf.step (.resolve "l" (some "x") .unread)).answer = .resource r .unread ∧
      r.path = candidate "/./a/" "/x" := by
  have haccept : Name.accept (some "x") = .ok "/x" := rfl
  have hheld : Pairs.fetch "l" shelf.suppliers =
      some ⟨.files Locator.filing, .shared "t"⟩ := rfl
  have hfresh : (shelf.step (.isStale "l" (some "x") (.int 5))).answer = .flag false := by
    have hcheck : Locator.isStale shelf.world Locator.filing (shelf.table (.shared "t")) (some "x")
        (.int 5) = .ok false := by
      refine (Locator.isStale_eq_false_iff ..).mpr ⟨"/x", "/a", haccept, rfl, by decide, ?_⟩
      exact ⟨FileTime.stamp ⟨5, 0⟩, rfl, by decide +kernel⟩
    exact (step_isStale_eq_flag_iff hheld (some "x") (.int 5) false).mpr hcheck
  have hopens : ∀ location first, Name.accept (some "x") = .ok location →
      FirstReadable shelf.world location Locator.filing.roots.names first →
      shelf.world.Opens (candidate first location) := by
    intro location first hname hfirst
    cases haccept.symm.trans hname
    have hreadable : readableRoot shelf.world "/x" Locator.filing.roots.names = some "/a" := rfl
    cases hfirst.unique (readableRoot_eq_some_iff.mp hreadable)
    exact ⟨⟨[111], rfl⟩, _, rfl⟩
  obtain ⟨location, r, hname, hanswer, -, hpath⟩ := fresh_resolves hheld hfresh hopens .unread
  cases haccept.symm.trans hname
  exact ⟨r, hanswer, hpath "x" "/./a/" rfl rfl⟩

end TemplateLookup.Session
