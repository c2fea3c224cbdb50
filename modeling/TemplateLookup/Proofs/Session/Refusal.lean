/-
# TemplateLookup.Proofs.Session.Refusal -- a name is refused by itself

Whether a name is refused, and how, is a property of the name alone (`Name.Refuses`): no
name, the empty name, or a name that climbs above the top. Every locator decides by it,
over any roots, files and table (`resolve_eq_refusal_iff`, `currentRoot_eq_error_iff`), and
whatever is asked about a refused name is answered without them (`refused_by_name_alone`).
-/

import TemplateLookup.Proofs.Locator.Usable
import TemplateLookup.Proofs.Name.NormalForm
import TemplateLookup.Proofs.Session.Ledger

namespace TemplateLookup

open Text (pieces)

/-! ## Refused names -/

namespace Name

/-- The error with which a name is refused. -/
inductive Refuses : Option String → LookupError → Prop where
  | absent : Refuses none (.unnamed none)
  | empty : Refuses (some "") (.unnamed (some ""))
  /-- Some beginning of the name goes back more often than it went down. -/
  | climbs {name : String} (above : Climbs (pieces '/' (forward name.toList))) :
    Refuses (some name) (.climbs name)

theorem not_climbs_empty : ¬ Climbs (pieces '/' (forward "".toList)) := by
  rw [← normal?_eq_none_iff]
  decide

theorem accept_eq_error_iff (name : Option String) (e : LookupError) :
    accept name = .error e ↔ Refuses name e := by
  constructor
  · intro h
    cases name with
    | none =>
      cases h
      exact .absent
    | some n =>
      rw [accept] at h
      split at h
      · rename_i hn
        cases h
        subst hn
        exact .empty
      · split at h
        · cases h
        · rename_i hnormal
          cases h
          exact .climbs ((normal?_eq_none_iff n).mp hnormal)
  · intro h
    cases h with
    | absent => rfl
    | empty => rfl
    | @climbs n above =>
      have hn : n ≠ "" := fun he => not_climbs_empty (he ▸ above)
      rw [accept, if_neg hn, (normal?_eq_none_iff n).mpr above]

end Name

namespace Locator

variable (w : World) (l : Locator) (table : Provenance)

/-! ## What a locator says about names -/

/-- A look-up refuses a name with an error exactly when the name is refused with it. -/
theorem resolve_eq_refusal_iff (name : Option String) {e : LookupError} (he : e.IsRefusal) :
    (resolve w l table name).result = .error e ↔ Name.Refuses name e := by
  rw [← Name.accept_eq_error_iff]
  cases hname : Name.accept name with
  | error refusal =>
    rw [(predicts_of_refused w l table hname).2.1, Except.error.injEq, Except.error.injEq]
  | ok location =>
    rw [(outcomes_of_accept w l table hname).2]
    refine iff_of_false (fun h => ?_) nofun
    split at h
    · cases h
    · cases h
      exact he

/-- A look-up of an accepted name finds something or finds nothing. -/
theorem resolve_of_accept {name : Option String} {location : String}
    (h : Name.accept name = .ok location) :
    (∃ r, (resolve w l table name).result = .ok r) ∨
      (resolve w l table name).result = .error (.notFound location) := by
  rw [(outcomes_of_accept w l table h).2]
  split
  · exact .inl ⟨_, rfl⟩
  · exact .inr rfl

theorem currentRoot_eq_error_iff (name : Option String) (e : LookupError) :
    currentRoot w l name = .error e ↔ Name.Refuses name e := by
  rw [← Name.accept_eq_error_iff]
  cases hname : Name.accept name with
  | error refusal =>
    rw [(predicts_of_refused w l .empty hname).1, Except.error.injEq, Except.error.injEq]
  | ok location =>
    rw [(outcomes_of_accept w l .empty hname).1]
    exact iff_of_false nofun nofun

/-- A refused name is stale, and has no time even if the table has an entry for it. -/
theorem stale_of_refused {name : Option String} {e : LookupError}
    (h : Name.accept name = .error e) (known : Number.Numeral) :
    isStale w l table name known = .ok true ∧ lastModified w table name = unknownStamp := by
  constructor
  · rw [isStale, h]
  · rw [lastModified]
    split
    · rfl
    · rw [h]

end Locator

/-! ## Suppliers of every kind -/

theorem Supplier.resolve_of_refused {name : Option String} {e : LookupError}
    (h : Name.accept name = .error e) (w : World) (table : Provenance) (supplier : Supplier) :
    ∃ refusal, (resolve w table name supplier).result = .error refusal := by
  cases supplier with
  | files l => exact ⟨e, (Locator.predicts_of_refused w l table h).2.1⟩
  | barren kind => exact ⟨_, rfl⟩

/-- A look-up that fails leaves the table. -/
theorem Supplier.resolve_table_of_error {w : World} {table : Provenance} {name : Option String}
    {supplier : Supplier} {e : LookupError}
    (h : (resolve w table name supplier).result = .error e) :
    (resolve w table name supplier).table = table := by
  have houtcome := resolve_outcome w table name supplier
  generalize resolve w table name supplier = lookup at h houtcome
  cases houtcome with
  | found files accepted searched reported => cases h
  | failed reported => rfl

/-- The source of a name that is not found is missing, and the table stays. -/
theorem Source.read_of_error [Encodings] {w : World} {supplier : Supplier} {table : Provenance}
    {name : Option String} {e : LookupError}
    (h : (Supplier.resolve w table name supplier).result = .error e) (encoding : String) :
    (read w supplier table encoding name).result = .error (.missing name) ∧
      (read w supplier table encoding name).table = table := by
  refine ⟨?_, (read_lookup w supplier table encoding name).1.trans
    (Supplier.resolve_table_of_error h)⟩
  rw [read, h]

/-! ## Requests of a session -/

/-- The step asks a supplier for a name, or asks about it. -/
def Step.Requests (name : Option String) : Step → Prop
  | .resolve _ n _ | .isStale _ n _ | .lastModified _ n | .currentRoot _ n | .source _ n _ _ =>
    n = name
  | _ => False

namespace Session

variable [Template.Engine] [Encodings]

/-- A request looks its name up once or not at all. -/
theorem happenings_of_requests (s : Session) {a : Step} {name : Option String}
    (h : a.Requests name) :
    s.happenings a = [] ∨ ∃ supplier table,
      s.happenings a = [.sought (Supplier.attempt s.world table name supplier)] := by
  cases a with
  | resolve id n reading =>
    cases h
    rw [happenings]
    split
    · exact .inl rfl
    · exact .inr ⟨_, _, rfl⟩
  | source id n encoding watch =>
    cases h
    rw [happenings]
    split
    · exact .inl rfl
    · exact .inr ⟨_, _, rfl⟩
  | isStale id n known => exact .inl rfl
  | lastModified id n => exact .inl rfl
  | currentRoot id n => exact .inl rfl
  | _ => cases h

variable [Yaml.Reader] [Command.ArgumentReader]

/-- A request for a refused name leaves every table. -/
theorem step_table_of_refused {name : Option String} {e : LookupError}
    (h : Name.accept name = .error e) (s : Session) {a : Step} (ha : a.Requests name)
    (t : TableName) : (s.step a).session.table t = s.table t := by
  refine step_table_of_fails (fun o ho => ?_) t
  rcases happenings_of_requests s ha with hnone | ⟨supplier, table, hone⟩
  · rw [hnone] at ho
    cases ho
  · rw [hone, List.mem_singleton] at ho
    obtain ⟨refusal, hrefusal⟩ := supplier.resolve_of_refused h s.world table
    rw [Supplier.attempt, hrefusal] at ho
    exact ⟨name, refusal, ho⟩

/-- **A name is refused by itself.** Over all roots, files and tables a look-up, and the
question for the root of now, refuse a name with an error exactly when the name alone says
so. Then it is stale for every known time and has no time, its source is missing, and
whichever of these is requested in a session leaves every table. A name that is not refused
is never refused anywhere: it is found, or nothing is found. -/
theorem refused_by_name_alone (name : Option String) :
    (∀ w l table e, e.IsRefusal →
        ((Locator.resolve w l table name).result = .error e ↔ Name.Refuses name e)) ∧
      (∀ w l e, Locator.currentRoot w l name = .error e ↔ Name.Refuses name e) ∧
      (∀ e, Name.Refuses name e →
        (∀ w l table known encoding,
          let source := Source.read w (.files l) table encoding name
          (Locator.resolve w l table name).table = table ∧
            Locator.isStale w l table name known = .ok true ∧
            Locator.lastModified w table name = .finite false 0 ∧
            source.result = .error (.missing name) ∧ source.table = table) ∧
          ∀ (s : Session) (a : Step), a.Requests name →
            ∀ t, (s.step a).session.table t = s.table t) ∧
      ((∀ e, ¬ Name.Refuses name e) → ∀ w l table,
        (∃ root, Locator.currentRoot w l name = .ok root) ∧
          ((∃ r, (Locator.resolve w l table name).result = .ok r) ∨
            ∃ location, (Locator.resolve w l table name).result = .error (.notFound location))) := by
  refine ⟨fun w l table e => Locator.resolve_eq_refusal_iff w l table name,
    fun w l e => Locator.currentRoot_eq_error_iff w l name e, fun e he => ⟨?_, ?_⟩, ?_⟩
  · intro w l table known encoding source
    have hname := (Name.accept_eq_error_iff name e).mpr he
    have hresult : (Supplier.resolve w table name (.files l)).result = .error e :=
      (Locator.predicts_of_refused w l table hname).2.1
    obtain ⟨hstale, htime⟩ := Locator.stale_of_refused w l table hname known
    obtain ⟨hmissing, hkept⟩ := Source.read_of_error hresult encoding
    exact ⟨Supplier.resolve_table_of_error hresult, hstale, htime, hmissing, hkept⟩
  · intro s a ha
    have hname := (Name.accept_eq_error_iff name e).mpr he
    exact step_table_of_refused hname s ha
  · intro hnone w l table
    cases hname : Name.accept name with
    | error e => exact absurd ((Name.accept_eq_error_iff name e).mp hname) (hnone e)
    | ok location =>
      exact ⟨⟨_, (Locator.outcomes_of_accept w l table hname).1⟩,
        (Locator.resolve_of_accept w l table hname).imp_right fun h => ⟨location, h⟩⟩

end Session

end TemplateLookup
