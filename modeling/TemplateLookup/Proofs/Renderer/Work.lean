/-
# TemplateLookup.Proofs.Renderer.Work -- what rendering can do to a renderer

Loading a template, running it and writing it to a file all change the state of a
renderer by two kinds of steps only: a template is loaded anew, or something other
than a finding is reported. `Worked` is the closure of these steps, and whatever they
preserve every rendering preserves. The first thing that follows is what becomes of
the table: it records the reported findings and nothing else (`Worked.table`). Loading a
name anew leaves alone what is known about any other name (`reload_alike_of_ne`).
-/

import TemplateLookup.Proofs.Locator.Lookup
import TemplateLookup.Proofs.Template.Script
import TemplateLookup.Renderer.Basic

namespace TemplateLookup

/-! ## Reading a source -/

namespace Source

variable [Encodings]

/-- Reading a source looks its name up and reads and decodes what was found. -/
theorem read_cases (w : World) (supplier : Supplier) (table : Provenance) (encoding : String)
    (name : Option String) :
    let lookup := Supplier.resolve w table name supplier
    let loading := read w supplier table encoding name
    (∃ e, lookup.result = .error e ∧
        loading = ⟨.error (.missing name), lookup.table, lookup.events⟩) ∨
      ∃ resource, lookup.result = .ok resource ∧
        ((∃ e, resource.text w encoding = .error e ∧
            loading = ⟨.error e, lookup.table, lookup.events⟩) ∨
          ∃ text, resource.text w encoding = .ok text ∧
            loading = ⟨.ok ⟨text, resource.path, resource.lastModified⟩, lookup.table,
              lookup.events ++ [.loaded resource.name resource.path.toString]⟩) := by
  dsimp only
  rw [read]
  cases (Supplier.resolve w table name supplier).result with
  | error e => exact .inl ⟨e, rfl, rfl⟩
  | ok resource =>
    refine .inr ⟨resource, rfl, ?_⟩
    dsimp only
    cases resource.text w encoding with
    | error e => exact .inl ⟨e, rfl, rfl⟩
    | ok text => exact .inr ⟨text, rfl, rfl⟩

/-- Reading a source is a look-up, and a report that is no finding if it went well. -/
theorem read_lookup (w : World) (supplier : Supplier) (table : Provenance) (encoding : String)
    (name : Option String) :
    (read w supplier table encoding name).table =
        (Supplier.resolve w table name supplier).table ∧
      findings (read w supplier table encoding name).events =
        findings (Supplier.resolve w table name supplier).events := by
  rcases read_cases w supplier table encoding name with
    ⟨e, -, hread⟩ | ⟨resource, -, ⟨e, -, hread⟩ | ⟨text, -, hread⟩⟩
  · rw [hread]
    exact ⟨rfl, rfl⟩
  · rw [hread]
    exact ⟨rfl, rfl⟩
  · rw [hread, findings_append]
    exact ⟨rfl, List.append_nil _⟩

/-- A source that was read is that of a resource that was found. -/
theorem read_ok {w : World} {supplier : Supplier} {table : Provenance}
    {encoding : String} {name : Option String} {source : Source}
    (h : (read w supplier table encoding name).result = .ok source) :
    ∃ r, (Supplier.resolve w table name supplier).result = .ok r ∧
      source.path = r.path ∧ source.stamp = r.lastModified := by
  rcases read_cases w supplier table encoding name with
    ⟨e, -, hread⟩ | ⟨resource, hlookup, ⟨e, -, hread⟩ | ⟨text, -, hread⟩⟩
  · rw [hread] at h
    cases h
  · rw [hread] at h
    cases h
  · rw [hread] at h
    cases h
    exact ⟨resource, hlookup, rfl, rfl⟩

end Source

namespace Renderer

theorem findings_ofLoadError (name : Option String) (e : Template.LoadError) :
    findings (ofLoadError name e).2 = [] := by
  cases e with
  | decoding e => cases e <;> rfl
  | _ => rfl

/-- Two states know the same about a name: the kept template and the entry of the table. -/
structure Alike (st st' : Running) (name : Option String) : Prop where
  kept : kept? st' name = kept? st name
  entry : name.bind st'.table.root? = name.bind st.table.root?

theorem Alike.symm {st st' : Running} {name : Option String} (h : Alike st st' name) :
    Alike st' st name :=
  ⟨h.kept.symm, h.entry.symm⟩

variable [Template.Engine] [Encodings]

/-! ## Loading anew -/

/-- What is made under a name of what reading a file gives. -/
def draftOf (r : Renderer) (name : String) (reading : Except SystemError Bytes) :
    Except Template.LoadError Template.Draft :=
  match reading with
  | .error e => .error (.system e)
  | .ok bytes =>
    match Encodings.decode r.encoding bytes with
    | .error e => .error (.decoding e)
    | .ok text =>
      match Template.Engine.flaw? (r.draft name text) with
      | some flaw => .error (.malformed flaw)
      | none => .ok (r.draft name text)

/-- It is made of the text of a resource, if there is one. -/
theorem draftOf_read (r : Renderer) (name : String) (w : World) (resource : Resource) :
    r.draftOf name (resource.read w) =
      match resource.text w r.encoding with
      | .error e => .error e
      | .ok text =>
        match Template.Engine.flaw? (r.draft name text) with
        | some flaw => .error (.malformed flaw)
        | none => .ok (r.draft name text) := by
  unfold draftOf Resource.text
  cases resource.read w with
  | error e => rfl
  | ok bytes =>
    dsimp only
    cases Encodings.decode r.encoding bytes <;> rfl

/-- How loading a template anew can end, given the look-up of its name. In any case the
table is that of the look-up, and the findings are reported that the look-up reports. -/
inductive Reloaded (r : Renderer) (w : World) (st : Running) (name : Option String)
    (lookup : Lookup) : Except Template.LoadError Ready × Running → Prop where
  | missing {e : LookupError} {events : List Log.Event} (failed : lookup.result = .error e)
      (reported : findings events = findings lookup.events) :
      Reloaded r w st name lookup (.error (.missing name),
        { st with table := lookup.table, events := st.events ++ events })
  /-- What was found does not make a template. -/
  | spoiled {resource : Resource} {e : Template.LoadError} {events : List Log.Event}
      (found : lookup.result = .ok resource)
      (drafted : r.draftOf (name.getD "") (resource.read w) = .error e)
      (reported : findings events = findings lookup.events) :
      Reloaded r w st name lookup (.error e,
        { st with table := lookup.table, events := st.events ++ events })
  | kept {resource : Resource} {ready : Ready} {events : List Log.Event}
      (found : lookup.result = .ok resource)
      (drafted : r.draftOf (name.getD "") (resource.read w) = .ok ready.draft)
      (stamp : ready.stamp = resource.lastModified)
      (reported : findings events = findings lookup.events) :
      Reloaded r w st name lookup (.ok ready,
        { st with
          table := lookup.table
          events := st.events ++ events
          kept := Pairs.store (name.getD "") ready st.kept
          loads := st.loads + 1 })

theorem reload_ends (r : Renderer) (w : World) (st : Running) (name : Option String) :
    Reloaded r w st name (Supplier.resolve w st.table name r.supplier) (reload r w st name) := by
  rw [reload]
  dsimp only
  rcases Source.read_cases w r.supplier st.table r.encoding name with
    ⟨e, hfailed, hread⟩ | ⟨resource, hfound, ⟨e, htext, hread⟩ | ⟨text, htext, hread⟩⟩
  · rw [hread]
    exact .missing hfailed rfl
  · rw [hread]
    refine .spoiled hfound ?_ rfl
    rw [draftOf_read, htext]
  · -- what is reported besides the look-up is no finding
    have hreported := (Source.read_lookup w r.supplier st.table r.encoding name).2
    have hdraft := draftOf_read r (name.getD "") w resource
    rw [htext] at hdraft
    rw [hread] at hreported ⊢
    dsimp only at hdraft ⊢
    rw [prepare]
    dsimp only
    cases hflaw : Template.Engine.flaw? (r.draft (name.getD "") text) with
    | some flaw =>
      rw [hflaw] at hdraft
      exact .spoiled hfound hdraft hreported
    | none =>
      rw [hflaw] at hdraft
      exact .kept hfound hdraft rfl hreported

theorem Reloaded.table_eq {r : Renderer} {w : World} {st : Running} {name : Option String}
    {lookup : Lookup} {ended : Except Template.LoadError Ready × Running}
    (h : Reloaded r w st name lookup ended) :
    ended.2.table = lookup.table := by
  cases h <;> rfl

theorem Reloaded.events_eq {r : Renderer} {w : World} {st : Running} {name : Option String}
    {lookup : Lookup} {ended : Except Template.LoadError Ready × Running}
    (h : Reloaded r w st name lookup ended) :
    ∃ events, ended.2.events = st.events ++ events ∧
      findings events = findings lookup.events := by
  cases h with
  | missing failed reported => exact ⟨_, rfl, reported⟩
  | spoiled found drafted reported => exact ⟨_, rfl, reported⟩
  | kept found drafted stamp reported => exact ⟨_, rfl, reported⟩

/-! ### What it leaves alone -/

/-- Loading a name anew leaves what is known about any other name. -/
theorem reload_alike_of_ne (r : Renderer) (w : World) (st : Running)
    {name other : Option String} (h : other ≠ name) : Alike st (reload r w st name).2 other := by
  have hends := reload_ends r w st name
  have htable := hends.table_eq
  have houtcome := Supplier.resolve_outcome w st.table name r.supplier
  generalize Supplier.resolve w st.table name r.supplier = lookup at hends htable houtcome
  generalize reload r w st name = ended at hends htable
  cases houtcome with
  | failed reported =>
    cases hends with
    | missing failed reported => exact ⟨rfl, rfl⟩
    | spoiled found drafted reported => cases found
    | kept found drafted stamp reported => cases found
  | @found _ n location resource _ files accepted searched reported =>
    cases other with
    | none => exact ⟨rfl, rfl⟩
    | some m =>
      have hm : m ≠ n := fun he => h (congrArg some he)
      constructor
      · cases hends with
        | missing failed reported => rfl
        | spoiled found drafted reported => rfl
        | kept found drafted stamp reported => exact Pairs.fetch_store_of_ne _ st.kept hm
      · rw [htable]
        exact Provenance.root?_record_of_ne st.table resource.root hm

/-- A look-up that fails leaves everything. -/
theorem reload_alike_of_failed {r : Renderer} {w : World} {st : Running} {name : Option String}
    {e : LookupError} (h : (Supplier.resolve w st.table name r.supplier).result = .error e)
    (other : Option String) : Alike st (reload r w st name).2 other := by
  have hends := reload_ends r w st name
  have htable := hends.table_eq
  have houtcome := Supplier.resolve_outcome w st.table name r.supplier
  generalize Supplier.resolve w st.table name r.supplier = lookup at hends htable houtcome h
  generalize reload r w st name = ended at hends htable
  cases houtcome with
  | found files accepted searched reported => cases h
  | failed reported =>
    cases hends with
    | missing failed reported => exact ⟨rfl, rfl⟩
    | spoiled found drafted reported => cases found
    | kept found drafted stamp reported => cases found

/-! ## The closure of the steps -/

/-- What loading and reporting can make of a state. -/
inductive Worked (r : Renderer) (w : World) (st : Running) : Running → Prop where
  | idle : Worked r w st st
  | reloaded {mid : Running} (name : Option String) (before : Worked r w st mid) :
      Worked r w st (reload r w mid name).2
  | reported {mid : Running} {events : List Log.Event} (unfound : findings events = [])
      (before : Worked r w st mid) : Worked r w st { mid with events := mid.events ++ events }

theorem Worked.trans {r : Renderer} {w : World} {x y z : Running} (h : Worked r w x y)
    (h' : Worked r w y z) : Worked r w x z := by
  induction h' with
  | idle => exact h
  | reloaded name _ ih => exact .reloaded name ih
  | reported unfound _ ih => exact .reported unfound ih

/-! ## What loading keeps, rendering keeps -/

section

variable {r : Renderer} {w : World} {R : Running → Running → Prop}

/-- Offering a template leaves what loading it leaves. -/
theorem offer_eq (r : Renderer) (w : World) (name : String) (st : Running) :
    r.offer w name st =
      ((load r w st (some name)).1.map Ready.draft, (load r w st (some name)).2) := by
  rw [offer]
  split
  · rename_i e after hload
    rw [hload]
    rfl
  · rename_i ready after hload
    rw [hload]
    rfl

theorem run_keeps (hrefl : ∀ st, R st st) (htrans : ∀ x y z, R x y → R y z → R x z)
    (hload : ∀ st name, R st (load r w st name).2) (ready : Ready) (context : Template.Scope)
    (st : Running) : R st (run r w ready context st).2 := by
  refine Template.Script.run_keeps hrefl htrans (fun name st => ?_) _ st
  rw [offer_eq]
  exact hload st (some name)

theorem render_keeps (hrefl : ∀ st, R st st) (htrans : ∀ x y z, R x y → R y z → R x z)
    (hload : ∀ st name, R st (load r w st name).2)
    (hreport : ∀ st events, findings events = [] → R st { st with events := st.events ++ events })
    (st : Running) (name : Option String) (context : Template.Scope) :
    R st (render r w st name context).2 := by
  have hafter := hload st name
  rw [render]
  split
  · rename_i e after hloaded
    rw [hloaded] at hafter
    exact htrans _ _ _ hafter (hreport after _ (findings_ofLoadError name e))
  · rename_i ready after hloaded
    rw [hloaded] at hafter
    have hrun := htrans _ _ _ hafter (run_keeps hrefl htrans hload ready context after)
    split
    · rename_i f final hfinal
      rw [hfinal] at hrun
      exact htrans _ _ _ hrun (hreport final _ rfl)
    · rename_i text final hfinal
      rw [hfinal] at hrun
      exact htrans _ _ _ hrun (hreport final _ rfl)

end

/-! ## Rendering is work -/

theorem load_worked (r : Renderer) (w : World) (st : Running) (name : Option String) :
    Worked r w st (load r w st name).2 := by
  rw [load]
  split
  · exact .reloaded name .idle
  · split
    · split
      · exact .idle
      · exact .idle
      · exact .reloaded name .idle
    · exact .idle

theorem render_worked (r : Renderer) (w : World) (st : Running) (name : Option String)
    (context : Template.Scope) : Worked r w st (render r w st name context).2 := by
  apply render_keeps (R := Worked r w)
  · exact fun _ => .idle
  · exact fun _ _ _ => Worked.trans
  · exact load_worked r w
  · exact fun st events hevents => .reported hevents .idle

theorem renderToFile_worked (r : Renderer) (w : World) (st : Running) (name : Option String)
    (path : Path) (context : Template.Scope) :
    Worked r w st (renderToFile r w st name path context).2.2 := by
  have hrender := render_worked r w st name context
  rw [renderToFile]
  split
  · rename_i e after hafter
    rw [hafter] at hrender
    exact hrender
  · rename_i text after hafter
    rw [hafter] at hrender
    split
    · exact hrender
    · exact .reported rfl hrender

/-! ## The table -/

/-- Work records what it reports, and reports only what the supplier offers. -/
theorem Worked.table {r : Renderer} {w : World} {st st' : Running} (h : Worked r w st st') :
    ∃ events, st'.events = st.events ++ events ∧
      st'.table = st.table.recordAll (findings events) ∧
      ∀ n root, (n, root) ∈ findings events → r.supplier.Offers w n root := by
  induction h with
  | idle => exact ⟨[], (List.append_nil _).symm, rfl, fun n root hmem => by cases hmem⟩
  | @reloaded mid name _ ih =>
    obtain ⟨events, hevents, htable, hoffers⟩ := ih
    have hends := reload_ends r w mid name
    have houtcome := Supplier.resolve_outcome w mid.table name r.supplier
    obtain ⟨new, hnew, hfindings⟩ := hends.events_eq
    refine ⟨events ++ new, ?_, ?_, ?_⟩
    · rw [hnew, hevents, List.append_assoc]
    · rw [hends.table_eq, houtcome.table_eq, findings_append, hfindings,
        Provenance.recordAll_append, htable]
    · intro n root hmem
      rw [findings_append, hfindings] at hmem
      rcases List.mem_append.mp hmem with hold | hlater
      · exact hoffers n root hold
      · exact (houtcome.offers hlater).2
  | @reported mid new unfound _ ih =>
    obtain ⟨events, hevents, htable, hoffers⟩ := ih
    have hsame : findings (events ++ new) = findings events := by
      rw [findings_append, unfound, List.append_nil]
    refine ⟨events ++ new, ?_, ?_, ?_⟩
    · rw [hevents, List.append_assoc]
    · rw [hsame]
      exact htable
    · rw [hsame]
      exact hoffers

end Renderer

end TemplateLookup
