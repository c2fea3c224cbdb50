/-
# TemplateLookup.Proofs.Session.Ledger -- a table refines the history of a run

Two kinds of things happen to a table: a supplier that uses it looks a name up, with
success or without, or a root is entered by hand. The history of a run lists them in order,
and what a step records is what its share of the history leaves (`recorded_eq`). So a
table can be read off the history: it maps a name to a root exactly when the last
occurrence that gave the name a root gave it this one (`table_tells_history`).
-/

import TemplateLookup.Proofs.Renderer.Attempts
import TemplateLookup.Proofs.Session.History
import TemplateLookup.Standard

namespace TemplateLookup

/-! ## What happens to a table -/

/-- What happens to a table. -/
inductive Occurrence where
  /-- A supplier that uses the table looked a name up. -/
  | sought (attempt : Attempt)
  /-- A root was entered for a name by hand. -/
  | entered (name root : String)

namespace Occurrence

/-- The name gets a root: it was found under this root, or the root was entered for it. -/
inductive Gives (n root : String) : Occurrence → Prop where
  | found {r : Resource} (under : r.root = root) : Gives n root (.sought ⟨some n, .ok r⟩)
  | entered : Gives n root (.entered n root)

/-- A name was looked up without success. -/
def Fails (o : Occurrence) : Prop := ∃ name e, o = .sought ⟨name, .error e⟩

/-- None of the occurrences gives the name a root. -/
def Silent (n : String) (os : List Occurrence) : Prop := ∀ o ∈ os, ∀ root, ¬ o.Gives n root

/-- The last of the occurrences that gives the name a root gives it this one. -/
def LastGives (n root : String) (os : List Occurrence) : Prop :=
  ∃ earlier o later, os = earlier ++ o :: later ∧ o.Gives n root ∧ Silent n later

/-- The entry that is left in the table. -/
def pair? : Occurrence → Option (String × String)
  | .sought attempt => attempt.pair?
  | .entered name root => some (name, root)

/-- The entries that occurrences leave, in order. -/
def pairs (os : List Occurrence) : List (String × String) := os.filterMap pair?

theorem pairs_sought (attempts : List Attempt) :
    pairs (attempts.map .sought) = Attempt.pairs attempts :=
  List.filterMap_map

theorem pairs_cons (o : Occurrence) (os : List Occurrence) :
    pairs (o :: os) = o.pair?.toList ++ pairs os := by
  cases h : o.pair? with
  | none => exact List.filterMap_cons_none h
  | some entry => exact List.filterMap_cons_some h

theorem pair?_eq_some_iff {o : Occurrence} {n root : String} :
    o.pair? = some (n, root) ↔ o.Gives n root := by
  constructor
  · intro h
    rcases o with ⟨name | name, e | r⟩ | ⟨name, root'⟩ <;> cases h
    · exact .found rfl
    · exact .entered
  · rintro (⟨rfl⟩ | -) <;> rfl

theorem Fails.pair?_eq_none {o : Occurrence} (h : o.Fails) : o.pair? = none := by
  obtain ⟨name, e, rfl⟩ := h
  cases name <;> rfl

/-! ## Reading a table off the occurrences -/

/-- What a name is mapped to after one occurrence. -/
theorem root?_step (t : Provenance) (o : Occurrence) (n root : String) :
    (t.recordAll o.pair?.toList).root? n = some root ↔
      o.Gives n root ∨ t.root? n = some root ∧ ∀ other, ¬ o.Gives n other := by
  simp only [← pair?_eq_some_iff]
  cases hentry : o.pair? with
  | none => exact ⟨fun h => .inr ⟨h, nofun⟩, fun h => (h.resolve_left nofun).1⟩
  | some entry =>
    obtain ⟨m, r⟩ := entry
    show (t.record m r).root? n = some root ↔ _
    by_cases hm : n = m
    · subst hm
      rw [Provenance.root?_record_self]
      constructor
      · intro h
        cases h
        exact .inl rfl
      · rintro (h | ⟨-, hnone⟩)
        · cases h
          rfl
        · exact absurd rfl (hnone r)
    · have hother : ∀ other, some (m, r) ≠ some (n, other) := fun other h =>
        hm (congrArg Prod.fst (Option.some.inj h)).symm
      rw [Provenance.root?_record_of_ne t r hm]
      exact ⟨fun h => .inr ⟨h, hother⟩, fun h => (h.resolve_left (hother root)).1⟩

theorem silent_cons {n : String} {o : Occurrence} {os : List Occurrence} :
    Silent n (o :: os) ↔ (∀ root, ¬ o.Gives n root) ∧ Silent n os :=
  List.forall_mem_cons

theorem lastGives_cons {n root : String} {o : Occurrence} {os : List Occurrence} :
    LastGives n root (o :: os) ↔ LastGives n root os ∨ o.Gives n root ∧ Silent n os := by
  constructor
  · rintro ⟨earlier, last, later, hos, hgives, hsilent⟩
    cases earlier with
    | nil =>
      cases hos
      exact .inr ⟨hgives, hsilent⟩
    | cons first more =>
      cases hos
      exact .inl ⟨more, last, later, rfl, hgives, hsilent⟩
  · rintro (⟨earlier, last, later, rfl, hgives, hsilent⟩ | ⟨hgives, hsilent⟩)
    · exact ⟨o :: earlier, last, later, rfl, hgives, hsilent⟩
    · exact ⟨[], o, os, rfl, hgives, hsilent⟩

/-- What a name is mapped to after any occurrences: what the last one gave that gave it a
root, or without such a one what it was mapped to before. -/
theorem root?_pairs (t : Provenance) (os : List Occurrence) (n root : String) :
    (t.recordAll (pairs os)).root? n = some root ↔
      LastGives n root os ∨ t.root? n = some root ∧ Silent n os := by
  induction os generalizing t with
  | nil =>
    have hnone : ¬ LastGives n root [] := by
      rintro ⟨earlier, o, later, hos, -⟩
      cases earlier <;> cases hos
    exact ⟨fun h => .inr ⟨h, nofun⟩, fun h => (h.resolve_left hnone).1⟩
  | cons o os ih =>
    -- the first occurrence goes into the table that the others start with
    rw [pairs_cons, Provenance.recordAll_append, ih, root?_step, lastGives_cons, silent_cons,
      or_and_right, and_assoc, or_assoc]

theorem exists_lastGives_iff (n : String) (os : List Occurrence) :
    (∃ root, LastGives n root os) ↔ ∃ o ∈ os, ∃ root, o.Gives n root := by
  constructor
  · rintro ⟨root, earlier, o, later, rfl, hgives, -⟩
    exact ⟨o, List.mem_append_right earlier List.mem_cons_self, root, hgives⟩
  · intro h
    induction os with
    | nil =>
      obtain ⟨o, hmem, -⟩ := h
      cases hmem
    | cons first rest ih =>
      by_cases hrest : ∃ o ∈ rest, ∃ root, o.Gives n root
      · obtain ⟨root, hlast⟩ := ih hrest
        exact ⟨root, lastGives_cons.mpr (.inl hlast)⟩
      · -- then it is the first one that gives the name a root
        have hsilent : Silent n rest := fun o ho root hgives => hrest ⟨o, ho, root, hgives⟩
        obtain ⟨o, hmem, root, hgives⟩ := h
        rcases List.mem_cons.mp hmem with rfl | hmem
        · exact ⟨root, lastGives_cons.mpr (.inr ⟨hgives, hsilent⟩)⟩
        · exact absurd hgives (hsilent o hmem root)

end Occurrence

/-- The steps that ask about suppliers, watched sources or files. -/
def Step.Asks : Step → Prop
  | .isStale .. | .lastModified .. | .currentRoot .. | .metadata .. | .provenance ..
  | .listing .. | .isCurrent .. | .read .. => True
  | _ => False

namespace Session

theorem withHeld_session {s : Session} {id : String} {next : Held → Stepped}
    (h : ∀ held, (next held).session = s) : (s.withHeld id next).session = s := by
  rw [withHeld]
  split
  · exact h _
  · rfl

/-! ## The history -/

section

variable [Template.Engine] [Encodings]

/-- What happens in a step, in order, to the table that it writes. -/
def happenings (s : Session) : Step → List Occurrence
  | .record _ name root => [.entered name root]
  | .resolve id name _ | .source id name _ _ =>
    match Pairs.fetch id s.suppliers with
    | none => []
    | some held => [.sought (held.supplier.attempt s.world (s.table held.table) name)]
  | .render id name context | .renderToFile id name _ context =>
    match Pairs.fetch id s.studios with
    | none => []
    | some studio =>
      (studio.renderer.renderAttempts s.world (s.running studio) name context).map .sought
  | .template id name =>
    match Pairs.fetch id s.studios with
    | none => []
    | some studio => (studio.renderer.loadAttempts s.world (s.running studio) name).map .sought
  | _ => []

/-- What happens to a table in a step. -/
def occurrences (s : Session) (a : Step) (t : TableName) : List Occurrence :=
  if s.tableOf a = some t then s.happenings a else []

/-- What happens to a table in a run, in order. -/
def history [Yaml.Reader] [Command.ArgumentReader] (s : Session) (t : TableName) :
    List Step → List Occurrence
  | [] => []
  | a :: rest => s.occurrences a t ++ (s.step a).session.history t rest

/-- Handing a template out reports what loading it reports. -/
theorem template_events (s : Session) (id : String) (studio : Studio) (name : Option String) :
    (s.template id studio name).events =
      (studio.renderer.load s.world (s.running studio) name).2.events := by
  rw [template]
  split
  rename_i result st hload
  rw [hload]
  split <;> rfl

variable [Yaml.Reader] [Command.ArgumentReader]

/-- A step that records in a table records what happens in it. -/
theorem entriesOf_eq {s : Session} {a : Step} {t : TableName} (h : s.tableOf a = some t) :
    s.entriesOf a = Occurrence.pairs (s.happenings a) := by
  cases a with
  | record id name root => rfl
  | resolve id name reading =>
    obtain ⟨held, hheld, -⟩ := Option.map_eq_some_iff.mp h
    show findings (s.withHeld id _).events = _
    rw [withHeld, happenings, hheld]
    exact held.supplier.findings_resolve s.world (s.table held.table) name
  | source id name encoding watch =>
    obtain ⟨held, hheld, -⟩ := Option.map_eq_some_iff.mp h
    show findings (s.withHeld id _).events = _
    rw [withHeld, happenings, hheld]
    dsimp only
    -- whether the source can be decoded makes no difference to what was found
    rw [(source_reads s held name encoding watch).1, (Source.read_lookup ..).2]
    exact held.supplier.findings_resolve s.world (s.table held.table) name
  | render id name context =>
    obtain ⟨studio, hstudio, -⟩ := Option.map_eq_some_iff.mp h
    show findings (s.withStudio id _).events = _
    rw [withStudio, happenings, hstudio]
    dsimp only
    rw [Occurrence.pairs_sought]
    -- the rendering starts without reports, so all its reports are of this step
    exact studio.renderer.findings_render s.world rfl name context
  | renderToFile id name path context =>
    obtain ⟨studio, hstudio, -⟩ := Option.map_eq_some_iff.mp h
    show findings (s.withStudio id _).events = _
    rw [withStudio, happenings, hstudio]
    dsimp only
    rw [Occurrence.pairs_sought, ← studio.renderer.findings_render s.world rfl name context]
    exact studio.renderer.findings_renderToFile s.world (s.running studio) name _ context
  | template id name =>
    obtain ⟨studio, hstudio, -⟩ := Option.map_eq_some_iff.mp h
    obtain ⟨events, hevents, hfindings⟩ :=
      studio.renderer.load_reports s.world (s.running studio) name
    show findings (s.withStudio id _).events = _
    rw [withStudio, happenings, hstudio]
    dsimp only
    rw [Occurrence.pairs_sought, ← hfindings, template_events, hevents]
    rfl
  | _ => cases h

theorem recorded_eq (s : Session) (a : Step) (t : TableName) :
    s.recorded a t = Occurrence.pairs (s.occurrences a t) := by
  rw [recorded, occurrences]
  split
  · rename_i htarget
    exact entriesOf_eq htarget
  · rfl

theorem recordedBy_eq (s : Session) (t : TableName) (steps : List Step) :
    s.recordedBy t steps = Occurrence.pairs (s.history t steps) := by
  induction steps generalizing s with
  | nil => rfl
  | cons a rest ih =>
    rw [recordedBy, history, recorded_eq, ih, Occurrence.pairs, Occurrence.pairs,
      Occurrence.pairs, List.filterMap_append]

/-! ## Steps that only ask -/

/-- Asking changes nothing at all. -/
theorem step_of_asks {s : Session} {a : Step} (h : a.Asks) : (s.step a).session = s := by
  cases a with
  | read path => rw [step]; split <;> rfl
  | isStale id name known => exact withHeld_session fun held => rfl
  | lastModified id name => exact withHeld_session fun held => rfl
  | currentRoot id name =>
    refine withHeld_session fun held => ?_
    rw [currentRoot]
    split <;> rfl
  | metadata id => exact withHeld_session fun held => rfl
  | provenance id => exact withHeld_session fun held => rfl
  | listing id => refine withHeld_session fun held => ?_; split <;> rfl
  | isCurrent watch => rw [step, isCurrent]; split <;> rfl
  | _ => cases h

/-! ## The table and the history -/

/-- A step in which no look-up succeeds and nothing is entered leaves every table. -/
theorem step_table_of_fails {s : Session} {a : Step} (h : ∀ o ∈ s.happenings a, o.Fails)
    (t : TableName) : (s.step a).session.table t = s.table t := by
  have hnone : s.recorded a t = [] := by
    rw [recorded_eq, occurrences]
    split
    · exact List.filterMap_eq_nil_iff.mpr fun o ho => (h o ho).pair?_eq_none
    · rfl
  rw [step_table, hnone]
  rfl

theorem root?_after_start (world : World) (env : Environment) (steps : List Step) (t : TableName)
    (n root : String) :
    (((start world env).after steps).table t).root? n = some root ↔
      Occurrence.LastGives n root ((start world env).history t steps) := by
  have hstart : ((start world env).table t).root? n = none := rfl
  rw [table_after, recordedBy_eq, Occurrence.root?_pairs, hstart]
  exact or_iff_left nofun

/-- **A table tells the history of a run.** After any steps of any session it maps a name to
a root exactly when the last occurrence that gave the name a root gave it this one, and it
has the name exactly when there was such an occurrence. It never loses a name; a step in
which every look-up fails leaves all tables, and a step that only asks leaves everything.
What was not entered by hand is an accepted name, with a root of a supplier that used the
table. -/
theorem table_tells_history (world : World) (env : Environment) (steps : List Step)
    (t : TableName) :
    let first := start world env
    let now := first.after steps
    let past := first.history t steps
    (∀ n root, (now.table t).root? n = some root ↔ Occurrence.LastGives n root past) ∧
      (∀ n, (now.table t).contains n = true ↔ ∃ o ∈ past, ∃ root, o.Gives n root) ∧
      (∀ n, (now.table t).contains n = true →
        ∀ more, ((now.after more).table t).contains n = true) ∧
      (∀ a, (∀ o ∈ now.happenings a, o.Fails) →
        ∀ other, (now.step a).session.table other = now.table other) ∧
      (∀ a, a.Asks → (now.step a).session = now) ∧
      ∀ n root, (now.table t).root? n = some root → (∀ id, Step.record id n root ∉ steps) →
        (∃ location, Name.accept (some n) = .ok location) ∧
          ∃ before rest l, steps = before ++ rest ∧
            (first.after before).Serves (.files l) t ∧ root ∈ l.roots.names := by
  intro first now past
  have hroot : ∀ n root, (now.table t).root? n = some root ↔ Occurrence.LastGives n root past :=
    root?_after_start world env steps t
  refine ⟨hroot, fun n => ?_, fun n hn more => ?_, fun a => step_table_of_fails,
    fun a => step_of_asks, fun n root hn hdirect => ?_⟩
  · rw [← Occurrence.exists_lastGives_iff, Provenance.contains, Option.isSome_iff_exists]
    exact exists_congr (hroot n)
  · rw [table_after]
    exact Provenance.contains_recordAll hn _
  · obtain ⟨before, a, rest, hsteps, ⟨id, -, rfl, -⟩ | ⟨supplier, hserves, hoffers⟩⟩ :=
      root?_source hn
    · exact absurd (hsteps ▸ List.mem_append_right before List.mem_cons_self) (hdirect id)
    · obtain ⟨l, rfl, hmem⟩ := hoffers.mem_roots
      obtain ⟨-, location, -, -, haccept, -⟩ := hoffers
      exact ⟨⟨location, haccept⟩, before, a :: rest, l, hsteps, hserves, hmem⟩

end

/-- A source that cannot be decoded was found all the same. -/
example :
    let world : World := ⟨[(["a"], .directory), (["a", "x"], .file [111] ⟨5, 0⟩)], [], [], 0⟩
    let steps : List Step :=
      [.locator "l" (some ["/a"]) (some "t") .null, .source "l" (some "x") "none" "w"]
    (((start world []).after steps).table (.shared "t")).root? "x" = some "/a" := by rfl

end Session

end TemplateLookup
