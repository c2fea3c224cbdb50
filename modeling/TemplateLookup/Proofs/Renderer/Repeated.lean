/-
# TemplateLookup.Proofs.Renderer.Repeated -- rendering the same template again

What a rendering gives is settled before it starts: it is the rendering with what loading
each name gives in the state of the beginning (`render_offered`). Loading a name does not
change what it gives, with one exception. A kept template is overtaken when a look-up
finds another file than the one that the table leads to, this file makes no template, and
it has the time stamp of the kept template (`Overtaken`). Then loading the name fails and
records the other file, and the next time the kept template passes for current
(`Overtakes.offers`). So a rendering that is repeated gives the same, unless a name that it
loads is overtaken (`render_again`); and it gives something else if this is the name of the
template itself (`render_again_ne`). All this holds of every engine.
-/

import TemplateLookup.Proofs.Locator.Verdict
import TemplateLookup.Proofs.Renderer.Transparency

namespace TemplateLookup.Renderer

/-- The outcome of a look-up, whatever the table is. -/
theorem resolve_files_result {r : Renderer} {l : Locator} (w : World)
    (hfiles : r.supplier = .files l) (table : Provenance) (name : Option String) :
    (Supplier.resolve w table name r.supplier).result =
      (Locator.resolve w l .empty name).result := by
  rw [Supplier.resolve_result w table .empty, hfiles, Supplier.resolve]

/-- A template that cannot be loaded gives another error than one that fails as it runs. -/
theorem mapError_failed_ne (x : Except Template.Failure Wide) (name : Option String)
    (e : Template.LoadError) : x.mapError .failed ≠ .error (ofLoadError name e).1 := by
  intro h
  cases x with
  | ok text => cases h
  | error f =>
    cases e with
    | decoding e => cases e <;> cases h
    | _ => cases h

variable [Template.Engine] [Encodings]

/-- What loading gives for each name in a state. -/
def offered (r : Renderer) (w : World) (st : Running) : Offers :=
  fun name => (load r w st name).1.map Ready.draft

/-! ## Overtaken templates -/

/-- A kept template is overtaken by a resource. -/
structure Overtakes (r : Renderer) (l : Locator) (w : World) (st : Running) (n : String)
    (ready : Ready) (resource : Resource) : Prop where
  kept : kept? st (some n) = some ready
  /-- A look-up finds the resource. -/
  found : (Locator.resolve w l .empty (some n)).result = .ok resource
  /-- The table leads to another path, and the check is not refused there. -/
  elsewhere : ∃ location root, Name.accept (some n) = .ok location ∧
    st.table.root? n = some root ∧ candidate root location ≠ resource.path ∧
    ¬ ∃ e, w.exists? (candidate root location) = .error e
  /-- The resource makes no template: it cannot be read or decoded, or the engine finds a flaw. -/
  spoiled : ∃ e, r.draftOf n (resource.read w) = .error e
  /-- The resource has the time stamp of the kept template. -/
  timed : ∃ stamp, w.stampAt? resource.path = some stamp ∧ stamp.same ready.stamp = true

/-- The template that is kept under a name is overtaken. -/
def Overtaken (r : Renderer) (l : Locator) (w : World) (st : Running) (name : Option String) :
    Prop :=
  ∃ n ready resource, name = some n ∧ Overtakes r l w st n ready resource

theorem Overtaken.congr {r : Renderer} {l : Locator} {w : World} {st st' : Running}
    {name : Option String} (h : Overtaken r l w st name) (hsame : Alike st st' name) :
    Overtaken r l w st' name := by
  obtain ⟨n, ready, resource, rfl, h⟩ := h
  refine ⟨n, ready, resource, rfl, hsame.kept.trans h.kept, h.found, ?_, h.spoiled, h.timed⟩
  obtain ⟨location, root, haccept, hroot, hother⟩ := h.elsewhere
  exact ⟨location, root, haccept, hsame.entry.trans hroot, hother⟩

/-! ## What is offered -/

section

variable {r : Renderer} {l : Locator} {w : World}

/-- What is kept and current is offered, else what loading the name afresh gives. -/
theorem offered_eq (hreload : r.options.autoReload = true) (hfiles : r.supplier = .files l)
    (st : Running) (name : Option String) :
    offered r w st name =
      match kept? st name with
      | none => loadAfresh r w name
      | some ready =>
        match Locator.isStale w l st.table name (.real ready.stamp) with
        | .error e => .error (.system e)
        | .ok false => .ok ready.draft
        | .ok true => loadAfresh r w name := by
  rw [offered, load_eq hreload hfiles]
  cases kept? st name with
  | none => exact reload_afresh r w st name
  | some ready =>
    dsimp only
    cases Locator.isStale w l st.table name (.real ready.stamp) with
    | error e => rfl
    | ok stale =>
      cases stale with
      | false => rfl
      | true => exact reload_afresh r w st name

theorem offered_congr (hreload : r.options.autoReload = true) (hfiles : r.supplier = .files l)
    {st st' : Running} {name : Option String} (h : Alike st st' name) :
    offered r w st' name = offered r w st name := by
  rw [offered_eq hreload hfiles, offered_eq hreload hfiles, h.kept]
  cases kept? st name with
  | none => rfl
  | some ready =>
    dsimp only
    rw [Locator.isStale_congr_entry w l h.entry]

/-! ## What loading leaves -/

/-- A look-up that fails leaves everything. -/
theorem reload_alike_of_error (hfiles : r.supplier = .files l) (st : Running)
    {name : Option String} {e : LookupError}
    (h : (Locator.resolve w l .empty name).result = .error e) (other : Option String) :
    Alike st (reload r w st name).2 other :=
  reload_alike_of_failed ((resolve_files_result w hfiles st.table name).trans h) other

/-- A look-up that finds a resource records a root that leads to it. -/
theorem reload_entry (hfiles : r.supplier = .files l) (st : Running) {n : String}
    {resource : Resource} (h : (Locator.resolve w l .empty (some n)).result = .ok resource) :
    ∃ location, Name.accept (some n) = .ok location ∧
      (reload r w st (some n)).2.table.root? n = some resource.root ∧
      candidate resource.root location = resource.path ∧ w.isReadable resource.path = true := by
  have hends := reload_ends r w st (some n)
  have houtcome := Supplier.resolve_outcome w st.table (some n) r.supplier
  have hresult := (resolve_files_result w hfiles st.table (some n)).trans h
  obtain ⟨-, n', location, -, hn, haccept, hroot, hpath⟩ := houtcome.recorded hresult
  cases hn
  refine ⟨location, haccept, ?_, hpath.symm, (houtcome.reads hresult).1⟩
  rw [hends.table_eq]
  exact hroot

/-- Right after a resource was found, only its time counts. -/
theorem isStale_reload (hw : w.OpensAll) (hfiles : r.supplier = .files l) (st : Running)
    {n : String} {resource : Resource}
    (h : (Locator.resolve w l .empty (some n)).result = .ok resource) (known : Number.Numeral) :
    (Locator.isStale w l (reload r w st (some n)).2.table (some n) known = .ok false ↔
      ∃ stamp, w.stampAt? resource.path = some stamp ∧ known.equals stamp = true) ∧
      ¬ ∃ e, Locator.isStale w l (reload r w st (some n)).2.table (some n) known = .error e := by
  obtain ⟨location, haccept, hroot, hpath, hread⟩ := reload_entry hfiles st h
  have hresolve := (Supplier.resolve_result w (reload r w st (some n)).2.table .empty (some n)
    (.files l)).trans h
  obtain ⟨hfresh, hrefused⟩ := Locator.isStale_of_found hw haccept hresolve hroot known
  refine ⟨hfresh.trans (and_iff_right hpath), ?_⟩
  rw [hrefused, hpath]
  rintro ⟨e, he⟩
  cases (World.exists?_of_isReadable hread).symm.trans he

/-! ## Loading again -/

/-- An overtaken template fails to load, and passes for current afterwards. -/
theorem Overtakes.offers (hreload : r.options.autoReload = true) (hfiles : r.supplier = .files l)
    (hw : w.OpensAll) {st : Running} {n : String} {ready : Ready} {resource : Resource}
    (h : Overtakes r l w st n ready resource) :
    load r w st (some n) = reload r w st (some n) ∧
      (∃ e, (load r w st (some n)).1 = .error e) ∧
      offered r w (reload r w st (some n)).2 (some n) = .ok ready.draft := by
  obtain ⟨location, root, haccept, hroot, hother, hexists⟩ := h.elsewhere
  obtain ⟨e, hspoiled⟩ := h.spoiled
  have hresolve := (Supplier.resolve_result w st.table .empty (some n) (.files l)).trans h.found
  obtain ⟨hfresh, hrefused⟩ :=
    Locator.isStale_of_found hw haccept hresolve hroot (.real ready.stamp)
  have hload : load r w st (some n) = reload r w st (some n) := by
    rw [load_eq hreload hfiles, h.kept]
    dsimp only
    cases hstale : Locator.isStale w l st.table (some n) (.real ready.stamp) with
    | error e => exact absurd (hrefused.mp ⟨e, hstale⟩) hexists
    | ok stale =>
      cases stale with
      | true => rfl
      | false => exact absurd (hfresh.mp hstale).1 hother
  have hkept : kept? (reload r w st (some n)).2 (some n) = some ready ∧
      ∃ e, (reload r w st (some n)).1 = .error e := by
    have hends := reload_ends r w st (some n)
    have hresult := (resolve_files_result w hfiles st.table (some n)).trans h.found
    generalize reload r w st (some n) = ended at hends
    cases hends with
    | missing failed reported => exact ⟨h.kept, _, rfl⟩
    | spoiled found drafted reported => exact ⟨h.kept, _, rfl⟩
    | kept found drafted stamp reported =>
      cases found.symm.trans hresult
      cases drafted.symm.trans hspoiled
  refine ⟨hload, hload ▸ hkept.2, ?_⟩
  rw [offered_eq hreload hfiles, hkept.1]
  dsimp only
  rw [(isStale_reload hw hfiles st h.found (.real ready.stamp)).1.mpr h.timed]

/-- A load leaves the state as it is, or it goes on as a load anew of what is not kept or
is outdated. -/
theorem load_ends (hreload : r.options.autoReload = true) (hfiles : r.supplier = .files l)
    (st : Running) (name : Option String) :
    (load r w st name).2 = st ∨
      load r w st name = reload r w st name ∧
        ∀ ready, kept? st name = some ready →
          Locator.isStale w l st.table name (.real ready.stamp) = .ok true := by
  rw [load_eq hreload hfiles]
  cases hkept : kept? st name with
  | none => exact .inr ⟨rfl, nofun⟩
  | some ready =>
    dsimp only
    cases hstale : Locator.isStale w l st.table name (.real ready.stamp) with
    | error e => exact .inl rfl
    | ok stale =>
      cases stale with
      | false => exact .inl rfl
      | true =>
        refine .inr ⟨rfl, fun other hother => ?_⟩
        cases hother
        exact hstale

/-- The resource that is found overtakes an outdated template with its time stamp, if it
makes no template. -/
theorem overtakes_of_outdated (hw : w.OpensAll) {st : Running} {n : String} {ready : Ready}
    {resource : Resource} (hkept : kept? st (some n) = some ready)
    (houtdated : Locator.isStale w l st.table (some n) (.real ready.stamp) = .ok true)
    (hfound : (Locator.resolve w l .empty (some n)).result = .ok resource)
    {location : String} (haccept : Name.accept (some n) = .ok location)
    (hpath : candidate resource.root location = resource.path)
    (hspoiled : ∃ e, r.draftOf n (resource.read w) = .error e)
    (htimed : ∃ stamp, w.stampAt? resource.path = some stamp ∧ stamp.same ready.stamp = true) :
    Overtakes r l w st n ready resource := by
  have hresolve := (Supplier.resolve_result w st.table .empty (some n) (.files l)).trans hfound
  obtain ⟨hfresh, hrefused⟩ :=
    Locator.isStale_found_iff hw haccept hresolve rfl (.real ready.stamp)
  have hother : candidate ((st.table.root? n).getD resource.root) location ≠ resource.path := by
    intro hsame
    cases houtdated.symm.trans (hfresh.mpr ⟨hsame, htimed⟩)
  have hexists :
      ¬ ∃ e, w.exists? (candidate ((st.table.root? n).getD resource.root) location) = .error e := by
    intro hmet
    obtain ⟨e, he⟩ := hrefused.mpr hmet
    cases houtdated.symm.trans he
  refine ⟨hkept, hfound, ?_, hspoiled, htimed⟩
  cases hroot : st.table.root? n with
  | none =>
    -- without an entry the root that is found would count
    rw [hroot] at hother
    exact absurd hpath hother
  | some root =>
    rw [hroot] at hother hexists
    exact ⟨location, root, haccept, rfl, hother, hexists⟩

/-- What a name offers after it was found and loaded anew, unless it was overtaken. -/
theorem offered_reload (hreload : r.options.autoReload = true) (hfiles : r.supplier = .files l)
    (hw : w.OpensAll) {st : Running} {n : String} {resource : Resource}
    (hfound : (Locator.resolve w l .empty (some n)).result = .ok resource)
    (houtdated : ∀ ready, kept? st (some n) = some ready →
      Locator.isStale w l st.table (some n) (.real ready.stamp) = .ok true)
    (hname : ¬ Overtaken r l w st (some n)) :
    offered r w (reload r w st (some n)).2 (some n) = loadAfresh r w (some n) := by
  obtain ⟨location, haccept, -, hpath, -⟩ := reload_entry hfiles st hfound
  have hafresh := reload_afresh r w st (some n)
  have hresult := (resolve_files_result w hfiles st.table (some n)).trans hfound
  have hstale := isStale_reload hw hfiles st hfound
  have hends := reload_ends r w st (some n)
  rw [offered_eq hreload hfiles]
  generalize reload r w st (some n) = ended at hafresh hstale hends
  cases hkept : kept? ended.2 (some n) with
  | none => rfl
  | some ready =>
    obtain ⟨hfresh, hrefused⟩ := hstale (.real ready.stamp)
    dsimp only
    cases hcheck : Locator.isStale w l ended.2.table (some n) (.real ready.stamp) with
    | error e => exact absurd ⟨e, hcheck⟩ hrefused
    | ok stale =>
      cases stale with
      | true => rfl
      | false =>
        -- the kept template passes: it is the new one, or it was overtaken
        cases hends with
        | missing failed reported => cases failed.symm.trans hresult
        | spoiled found drafted reported =>
          cases found.symm.trans hresult
          refine absurd ⟨n, ready, resource, rfl, ?_⟩ hname
          exact overtakes_of_outdated hw hkept (houtdated ready hkept) hfound haccept hpath
            ⟨_, drafted⟩ (hfresh.mp hcheck)
        | kept found drafted stamp reported =>
          have hnew := (Pairs.fetch_store_self n _ st.kept).symm.trans hkept
          cases hnew
          exact hafresh

/-- Loading a name that is not overtaken leaves what it offers, and it is not overtaken
afterwards. -/
theorem load_steady (hreload : r.options.autoReload = true) (hfiles : r.supplier = .files l)
    (hw : w.OpensAll) {st : Running} {name : Option String}
    (hname : ¬ Overtaken r l w st name) :
    offered r w (load r w st name).2 name = offered r w st name ∧
      ¬ Overtaken r l w (load r w st name).2 name := by
  rcases load_ends hreload hfiles st name with hsame | ⟨hload, houtdated⟩
  · rw [hsame]
    exact ⟨rfl, hname⟩
  · have hbefore : offered r w st name = loadAfresh r w name := by
      rw [offered, hload]
      exact reload_afresh r w st name
    rw [hload, hbefore]
    cases hresult : (Locator.resolve w l .empty name).result with
    | error e =>
      have halike := reload_alike_of_error hfiles st hresult name
      refine ⟨(offered_congr hreload hfiles halike).trans hbefore, fun h => ?_⟩
      exact hname (h.congr halike.symm)
    | ok resource =>
      cases name with
      | none => cases hresult
      | some n =>
        refine ⟨offered_reload hreload hfiles hw hresult houtdated hname, ?_⟩
        -- the table leads to what is found now
        rintro ⟨n', ready, resource', hn, h⟩
        cases hn
        cases hresult.symm.trans h.found
        obtain ⟨location, haccept, hroot, hpath, -⟩ := reload_entry hfiles st hresult
        obtain ⟨location', root, haccept', hroot', hother, -⟩ := h.elsewhere
        cases haccept.symm.trans haccept'
        cases hroot.symm.trans hroot'
        exact hother hpath

theorem load_alike_of_ne (hreload : r.options.autoReload = true) (hfiles : r.supplier = .files l)
    (st : Running) {name other : Option String} (h : other ≠ name) :
    Alike st (load r w st name).2 other := by
  rcases load_ends hreload hfiles st name with hsame | ⟨hload, -⟩
  · rw [hsame]
    exact ⟨rfl, rfl⟩
  · rw [hload]
    exact reload_alike_of_ne r w st h

/-! ## A rendering and what it leaves -/

/-- What was not overtaken offers the same as before and is not overtaken. -/
def Steady (r : Renderer) (l : Locator) (w : World) (st st' : Running) : Prop :=
  ∀ name, ¬ Overtaken r l w st name →
    offered r w st' name = offered r w st name ∧ ¬ Overtaken r l w st' name

theorem steady_of_alike (hreload : r.options.autoReload = true) (hfiles : r.supplier = .files l)
    {st st' : Running} (h : ∀ name, Alike st st' name) : Steady r l w st st' :=
  fun name hname => ⟨offered_congr hreload hfiles (h name), fun ho => hname (ho.congr (h name).symm)⟩

theorem Steady.trans {x y z : Running} (h : Steady r l w x y) (h' : Steady r l w y z) :
    Steady r l w x z := by
  intro name hname
  obtain ⟨hoffer, hname'⟩ := h name hname
  obtain ⟨hoffer', hname''⟩ := h' name hname'
  exact ⟨hoffer'.trans hoffer, hname''⟩

theorem steady_load (hreload : r.options.autoReload = true) (hfiles : r.supplier = .files l)
    (hw : w.OpensAll) (st : Running) (name : Option String) :
    Steady r l w st (load r w st name).2 := by
  intro other hother
  by_cases h : other = name
  · subst h
    exact load_steady hreload hfiles hw hother
  · have halike := load_alike_of_ne hreload hfiles st h (w := w)
    exact ⟨offered_congr hreload hfiles halike, fun ho => hother (ho.congr halike.symm)⟩

theorem steady_render (hreload : r.options.autoReload = true) (hfiles : r.supplier = .files l)
    (hw : w.OpensAll) (st : Running) (name : Option String) (context : Template.Scope) :
    Steady r l w st (render r w st name context).2 := by
  apply render_keeps (R := Steady r l w)
  · exact fun _ name hname => ⟨rfl, hname⟩
  · exact fun _ _ _ => Steady.trans
  · exact steady_load hreload hfiles hw
  · exact fun st events _ => steady_of_alike hreload hfiles fun _ => ⟨rfl, rfl⟩

/-! ## What a rendering gives -/

/-- A run, from any state that it is steady to reach, gives what the offers of the start give,
unless a name is loaded that is overtaken at the start. -/
theorem run_offered (hreload : r.options.autoReload = true) (hfiles : r.supplier = .files l)
    (hw : w.OpensAll) {start st : Running} (h : Steady r l w start st) (ready : Ready)
    (context : Template.Scope) (names : List (Option String)) :
    let reference :=
      (Template.Engine.script ready.draft context).run (noting (offered r w start)) names
    (run r w ready context st).1 = reference.1 ∨
      ∃ n ∈ reference.2, Overtaken r l w start n := by
  intro reference
  have hagrees := Template.Script.run_agrees (r.offer w) (noting (offered r w start))
    (fun st _ => Steady r l w start st) (fun names => ∃ n ∈ names, Overtaken r l w start n)
    (fun name st names hsteady => by
      rw [Renderer.offer_eq]
      by_cases hname : Overtaken r l w start (some name)
      · exact .inr ⟨some name, List.mem_append_right names List.mem_cons_self, hname⟩
      · exact .inl ⟨(hsteady (some name) hname).1,
          hsteady.trans (steady_load hreload hfiles hw st (some name))⟩)
    (fun name names ⟨n, hn, hovertaken⟩ => ⟨n, List.mem_append_left [some name] hn, hovertaken⟩)
    (Template.Engine.script ready.draft context) st names h
  rcases hagrees with ⟨hsame, -⟩ | hmarked
  · exact .inl hsame
  · exact .inr hmarked

/-- The names that a rendering loads, in order. -/
def needed (r : Renderer) (w : World) (st : Running) (name : Option String)
    (context : Template.Scope) : List (Option String) :=
  (renderOffered (offered r w st) name context).2

/-- What a rendering gives is settled by the offers of the start, as long as no name is needed
that is overtaken then. -/
theorem render_offered (hreload : r.options.autoReload = true) (hfiles : r.supplier = .files l)
    (hw : w.OpensAll) {start st : Running} (h : Steady r l w start st) {name : Option String}
    {context : Template.Scope}
    (hneeded : ∀ n ∈ needed r w start name context, ¬ Overtaken r l w start n) :
    (render r w st name context).1 = (renderOffered (offered r w start) name context).1 := by
  have hname := (h name (hneeded name (renderOffered_mem _ name context))).1
  have hload : (load r w st name).1.map Ready.draft = offered r w start name := hname
  rw [needed, renderOffered, ← hload] at hneeded
  rw [renderOffered, ← hload]
  cases hresult : (load r w st name).1 with
  | error e => exact render_of_error hresult context
  | ok ready =>
    rw [hresult] at hneeded
    rw [render_of_ok hresult context]
    have hafter := h.trans (steady_load hreload hfiles hw st name)
    rcases run_offered hreload hfiles hw hafter ready context [name] with
      hsame | ⟨n, hn, hovertaken⟩
    · exact congrArg (Except.mapError RenderError.failed) hsame
    · exact absurd hovertaken (hneeded n hn)

/-! ## The second time -/

/-- A rendering that loads no overtaken name is repeated with the same outcome. -/
theorem render_again (hreload : r.options.autoReload = true) (hfiles : r.supplier = .files l)
    (hw : w.OpensAll) {st again : Running} {name : Option String} {context : Template.Scope}
    (hagain : ∀ n, Alike (render r w st name context).2 again n)
    (hneeded : ∀ n ∈ needed r w st name context, ¬ Overtaken r l w st n) :
    (render r w again name context).1 = (render r w st name context).1 := by
  have hidle : Steady r l w st st := steady_of_alike hreload hfiles fun _ => ⟨rfl, rfl⟩
  have hleft := steady_render hreload hfiles hw st name context
  have hsteady := hleft.trans (steady_of_alike hreload hfiles hagain)
  rw [render_offered hreload hfiles hw hsteady hneeded,
    render_offered hreload hfiles hw hidle hneeded]

/-- A failed load ends the rendering, which only reports it. -/
theorem render_alike_of_error {st : Running} {name : Option String} {e : Template.LoadError}
    (h : (load r w st name).1 = .error e) (context : Template.Scope) (other : Option String) :
    Alike (load r w st name).2 (render r w st name context).2 other := by
  rw [render]
  split
  · rename_i e' after hload
    rw [hload]
    exact ⟨rfl, rfl⟩
  · rename_i ready after hload
    rw [hload] at h
    cases h

/-- The rendering of an overtaken template fails as the template is loaded, and the next one
runs the template that was kept. -/
theorem render_again_ne (hreload : r.options.autoReload = true) (hfiles : r.supplier = .files l)
    (hw : w.OpensAll) {st again : Running} {name : Option String} {context : Template.Scope}
    (hagain : ∀ n, Alike (render r w st name context).2 again n)
    (h : Overtaken r l w st name) :
    (∃ e, (render r w st name context).1 = .error e) ∧
      (render r w again name context).1 ≠ (render r w st name context).1 := by
  obtain ⟨n, ready, resource, rfl, hovertakes⟩ := h
  obtain ⟨hload, ⟨e, he⟩, hoffer⟩ := hovertakes.offers hreload hfiles hw
  have hnext : offered r w again (some n) = .ok ready.draft := by
    rw [offered_congr hreload hfiles (hagain (some n)),
      offered_congr hreload hfiles (render_alike_of_error he context (some n)), hload]
    exact hoffer
  rw [render_of_error he context]
  refine ⟨⟨_, rfl⟩, ?_⟩
  cases hsecond : (load r w again (some n)).1 with
  | error e' =>
    rw [offered, hsecond] at hnext
    cases hnext
  | ok ready' =>
    rw [render_of_ok hsecond context]
    exact mapError_failed_ne _ (some n) e

end

end TemplateLookup.Renderer
