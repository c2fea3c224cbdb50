/-
# TemplateLookup.Proofs.Session.History -- where the entries of a table come from

A step adds the entries that it records to the table that it writes, and leaves every
other table alone (`step_table`). So after any steps a table holds what it held before
them and all that they recorded, in order (`table_after`). An entry is recorded in two
ways only (`recorded_source`): it was written directly, or a supplier that uses the
table offered its root for its name.
-/

import TemplateLookup.Proofs.Session.Effect

namespace TemplateLookup.Session

/-! ## One step -/

theorem table_withTable (s : Session) (name other : TableName) (t : Provenance) :
    (s.withTable name t).table other = if other = name then t else s.table other := by
  by_cases h : other = name
  · rw [if_pos h, h, table_withTable_self]
  · rw [if_neg h, table_withTable_of_ne s t h]

/-- Recording in one table, as every table sees it. -/
theorem table_withTable_recordAll (s : Session) (name other : TableName)
    (entries : List (String × String)) :
    (s.withTable name ((s.table name).recordAll entries)).table other =
      (s.table other).recordAll (if some name = some other then entries else []) := by
  rw [table_withTable]
  by_cases h : other = name
  · rw [if_pos h, if_pos (congrArg some h.symm), h]
  · rw [if_neg h, if_neg fun he => h (Option.some.inj he).symm]
    rfl

section

variable [Encodings]

theorem resolve_session (s : Session) (held : Held) (name : Option String) (reading : Reading) :
    (s.resolve held name reading).session = s.withTable held.table
      ((s.table held.table).recordAll (findings (s.resolve held name reading).events)) := by
  have houtcome := Supplier.resolve_outcome s.world (s.table held.table) name held.supplier
  show s.withTable held.table _ = _
  rw [houtcome.table_eq]
  rfl

/-- Reading a source writes the table of its supplier as the reading does. -/
theorem source_reads (s : Session) (held : Held) (name : Option String)
    (encoding watch : String) :
    let loading := Source.read s.world held.supplier (s.table held.table) encoding name
    (s.source held name encoding watch).events = loading.events ∧
      ∀ t, (s.source held name encoding watch).session.table t =
        (s.withTable held.table loading.table).table t := by
  rw [source]
  cases (Source.read s.world held.supplier (s.table held.table) encoding name).result with
  | error e => exact ⟨rfl, fun t => rfl⟩
  | ok found => exact ⟨rfl, fun t => rfl⟩

end

variable [Template.Engine] [Encodings] [Yaml.Reader] [Command.ArgumentReader]

theorem step_table (s : Session) (a : Step) (t : TableName) :
    (s.step a).session.table t = (s.table t).recordAll (s.recorded a t) := by
  have h := step_effect s a
  rw [recorded, entriesOf]
  generalize s.step a = stepped at h
  cases h with
  | quiet w idle => rw [idle]; rfl
  | built id supplier shared idle => rw [idle]; rfl
  | opened renderer table next => rfl
  | recorded found =>
    rw [tableOf, found, Option.map_some]
    exact table_withTable_recordAll s _ t [(_, _)]
  | looked found =>
    rw [tableOf, found, Option.map_some, resolve_session]
    exact table_withTable_recordAll s _ t _
  | @sourced id name encoding watch held found =>
    obtain ⟨hevents, htables⟩ := source_reads s held name encoding watch
    obtain ⟨hlookup, hfindings⟩ :=
      Source.read_lookup s.world held.supplier (s.table held.table) encoding name
    have houtcome := Supplier.resolve_outcome s.world (s.table held.table) name held.supplier
    rw [tableOf, found, Option.map_some, htables, hlookup, houtcome.table_eq, ← hfindings,
      ← hevents]
    exact table_withTable_recordAll s _ t _
  | worked w taken found target indirect work =>
    -- the work starts with no reports, so all its reports are of this step
    obtain ⟨events, hevents, htable, -⟩ := work.table
    have hall : _ = events := hevents.trans (List.nil_append events)
    rw [target, indirect, hall]
    refine Eq.trans ?_ (table_withTable_recordAll s _ t (findings events))
    show (s.withTable _ _).table t = _
    rw [htable]
    rfl

/-! ## Any steps -/

/-- The entries that steps record in a table, in order. -/
def recordedBy (s : Session) (t : TableName) : List Step → List (String × String)
  | [] => []
  | a :: rest => s.recorded a t ++ (s.step a).session.recordedBy t rest

theorem table_after (s : Session) (steps : List Step) (t : TableName) :
    (s.after steps).table t = (s.table t).recordAll (s.recordedBy t steps) := by
  induction steps generalizing s with
  | nil => rfl
  | cons a rest ih =>
    rw [after, ih, step_table, recordedBy, Provenance.recordAll_append]

theorem exists_of_mem_recordedBy {s : Session} {t : TableName} {steps : List Step}
    {entry : String × String} (h : entry ∈ s.recordedBy t steps) :
    ∃ before a rest, steps = before ++ a :: rest ∧ entry ∈ (s.after before).recorded a t := by
  induction steps generalizing s with
  | nil => cases h
  | cons a rest ih =>
    rcases List.mem_append.mp h with hfirst | hlater
    · exact ⟨[], a, rest, rfl, hfirst⟩
    · obtain ⟨before, b, more, hrest, hmem⟩ := ih hlater
      exact ⟨a :: before, b, more, congrArg (a :: ·) hrest, hmem⟩

/-! ## The two sources of entries -/

/-- A supplier, held by itself or by a renderer, uses a table. -/
def Serves (s : Session) (supplier : Supplier) (t : TableName) : Prop :=
  (∃ id, Pairs.fetch id s.suppliers = some ⟨supplier, t⟩) ∨
    ∃ id studio, Pairs.fetch id s.studios = some studio ∧
      studio.renderer.supplier = supplier ∧ studio.table = t

theorem recorded_source {s : Session} {a : Step} {t : TableName} {n root : String}
    (h : (n, root) ∈ s.recorded a t) :
    (∃ id supplier, a = .record id n root ∧ Pairs.fetch id s.suppliers = some ⟨supplier, t⟩) ∨
      ∃ supplier, s.Serves supplier t ∧ supplier.Offers s.world n root := by
  have heffect := step_effect s a
  rw [recorded, entriesOf] at h
  generalize s.step a = stepped at heffect h
  by_cases htarget : s.tableOf a = some t
  · rw [if_pos htarget] at h
    cases heffect with
    | quiet w idle => cases idle.symm.trans htarget
    | built id supplier shared idle => cases idle.symm.trans htarget
    | opened renderer table next => cases htarget
    | recorded found =>
      rw [tableOf, found] at htarget
      cases htarget
      cases List.mem_singleton.mp h
      exact .inl ⟨_, _, rfl, found⟩
    | @looked id name reading held found =>
      rw [tableOf, found] at htarget
      cases htarget
      have houtcome := Supplier.resolve_outcome s.world (s.table held.table) name held.supplier
      exact .inr ⟨held.supplier, .inl ⟨id, found⟩, (houtcome.offers h).2⟩
    | @sourced id name encoding watch held found =>
      rw [tableOf, found] at htarget
      cases htarget
      have houtcome := Supplier.resolve_outcome s.world (s.table held.table) name held.supplier
      -- reading a source reports the findings of its look-up
      have hmem : (n, root) ∈ findings (s.source held name encoding watch).events := h
      rw [(source_reads s held name encoding watch).1,
        (Source.read_lookup s.world held.supplier (s.table held.table) encoding name).2] at hmem
      exact .inr ⟨held.supplier, .inl ⟨id, found⟩, (houtcome.offers hmem).2⟩
    | @worked _ id studio st w taken _ found target indirect work =>
      obtain ⟨events, hevents, -, hoffers⟩ := work.table
      have hall : st.events = events := hevents.trans (List.nil_append events)
      have htable : studio.table = t := Option.some.inj (target.symm.trans htarget)
      rw [indirect, hall] at h
      exact .inr ⟨studio.renderer.supplier, .inr ⟨id, studio, found, rfl, htable⟩,
        hoffers n root h⟩
  · rw [if_neg htarget] at h
    cases h

/-- Whatever a table holds was recorded by a step: written directly, or offered by a
supplier that used the table then. -/
theorem root?_source {world : World} {env : Environment} {steps : List Step} {t : TableName}
    {n root : String} (h : (((start world env).after steps).table t).root? n = some root) :
    ∃ before a rest, steps = before ++ a :: rest ∧
      ((∃ id supplier, a = .record id n root ∧
          Pairs.fetch id ((start world env).after before).suppliers = some ⟨supplier, t⟩) ∨
        ∃ supplier, ((start world env).after before).Serves supplier t ∧
          supplier.Offers ((start world env).after before).world n root) := by
  rw [table_after] at h
  rcases Provenance.root?_recordAll_eq_some h with hmem | hstart
  · obtain ⟨before, a, rest, hsteps, hrecorded⟩ := exists_of_mem_recordedBy hmem
    exact ⟨before, a, rest, hsteps, recorded_source hrecorded⟩
  · cases hstart

end TemplateLookup.Session
