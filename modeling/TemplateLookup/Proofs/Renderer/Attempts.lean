/-
# TemplateLookup.Proofs.Renderer.Attempts -- the look-ups that a rendering makes

A rendering looks names up on the way, some of them with success. `renderAlong` is the
rendering that keeps a list of these attempts, each with its result. It is the same
rendering: every load gives the same and leaves the same state (`offerAlong_tells`), hence
every run does (`runAlong_tells`). What the attempts found is what the rendering reports
as found (`findings_render`), so the list says where the entries of the table come from.
-/

import TemplateLookup.Proofs.Renderer.Work

namespace TemplateLookup

/-! ## Attempts -/

/-- A name was looked up, with this result. -/
structure Attempt where
  name : Option String
  result : Except LookupError Resource

namespace Attempt

/-- What an attempt leaves in the table: the name that was asked for, and the root of what was
found. -/
def pair? (a : Attempt) : Option (String × String) :=
  match a.name, a.result with
  | some n, .ok r => some (n, r.root)
  | _, _ => none

/-- What attempts leave in the table, in order. -/
def pairs (attempts : List Attempt) : List (String × String) := attempts.filterMap pair?

theorem pairs_append (xs ys : List Attempt) : pairs (xs ++ ys) = pairs xs ++ pairs ys :=
  List.filterMap_append

end Attempt

namespace Supplier

/-- The attempt to look a name up. -/
def attempt (w : World) (table : Provenance) (name : Option String) (supplier : Supplier) :
    Attempt :=
  ⟨name, (resolve w table name supplier).result⟩

/-- A look-up reports what the attempt leaves. -/
theorem findings_resolve (w : World) (table : Provenance) (name : Option String)
    (supplier : Supplier) :
    findings (resolve w table name supplier).events =
      Attempt.pairs [supplier.attempt w table name] := by
  have houtcome := resolve_outcome w table name supplier
  rw [attempt]
  generalize resolve w table name supplier = lookup at houtcome
  cases houtcome with
  | found files accepted searched reported => exact reported
  | failed reported =>
    rw [reported]
    cases name <;> rfl

end Supplier

namespace Renderer

/-! ## Loading -/

theorem findings_report (st : Running) {e : Log.Event} (h : e.entry? = none) :
    findings (report st e).events = findings st.events := by
  have hnone : findings [e] = [] := by rw [findings, List.filterMap_cons_none h, List.filterMap_nil]
  rw [report, findings_append, hnone, List.append_nil]

variable [Template.Engine] [Encodings]

/-- The attempts of loading a template: one, unless the kept template is used or its check
is refused. -/
def loadAttempts (r : Renderer) (w : World) (st : Running) (name : Option String) :
    List Attempt :=
  let anew := [r.supplier.attempt w st.table name]
  match kept? st name with
  | none => anew
  | some ready =>
    if r.options.autoReload then
      match Source.isCurrent w r.supplier st.table name ready.stamp with
      | .error _ => []
      | .ok true => []
      | .ok false => anew
    else []

/-- Loading a template anew reports what its attempt leaves. -/
theorem reload_reports (r : Renderer) (w : World) (st : Running) (name : Option String) :
    ∃ events, (reload r w st name).2.events = st.events ++ events ∧
      findings events = Attempt.pairs [r.supplier.attempt w st.table name] := by
  obtain ⟨events, hevents, hfindings⟩ := (reload_ends r w st name).events_eq
  exact ⟨events, hevents, hfindings.trans (Supplier.findings_resolve w st.table name r.supplier)⟩

/-- Loading a template reports what its attempts leave. -/
theorem load_reports (r : Renderer) (w : World) (st : Running) (name : Option String) :
    ∃ events, (load r w st name).2.events = st.events ++ events ∧
      findings events = Attempt.pairs (loadAttempts r w st name) := by
  have hidle : ∃ events, st.events = st.events ++ events ∧ findings events = Attempt.pairs [] :=
    ⟨[], (List.append_nil _).symm, rfl⟩
  rw [load, loadAttempts]
  cases kept? st name with
  | none => exact reload_reports r w st name
  | some ready =>
    dsimp only
    cases r.options.autoReload with
    | false => exact hidle
    | true =>
      rw [if_pos rfl, if_pos rfl]
      cases Source.isCurrent w r.supplier st.table name ready.stamp with
      | error e => exact hidle
      | ok current =>
        cases current with
        | true => exact hidle
        | false => exact reload_reports r w st name

/-! ## Rendering with a list of attempts -/

/-- The state of a renderer, and the attempts up to now. -/
structure Trail where
  running : Running
  attempts : List Attempt

/-- What is made of what was given, with these attempts noted. -/
def Trail.noting {α : Type} (trail : Trail) (attempts : List Attempt) (given : α × Running) :
    α × Trail :=
  (given.1, ⟨given.2, trail.attempts ++ attempts⟩)

/-- What the engine is given when it asks for a template, with the attempts noted. -/
def offerAlong (r : Renderer) (w : World) (name : String) (trail : Trail) :
    Except Template.LoadError Template.Draft × Trail :=
  trail.noting (loadAttempts r w trail.running (some name)) (r.offer w name trail.running)

/-- The text of a template with given variables, with the attempts noted. -/
def runAlong (r : Renderer) (w : World) (ready : Ready) (context : Template.Scope) (trail : Trail) :
    Except Template.Failure Wide × Trail :=
  (Template.Engine.script ready.draft context).run (offerAlong r w) trail

/-- Renders a template, with the attempts noted. -/
def renderAlong (r : Renderer) (w : World) (trail : Trail) (name : Option String)
    (context : Template.Scope) : Except RenderError Wide × Trail :=
  match trail.noting (loadAttempts r w trail.running name) (load r w trail.running name) with
  | (.error e, after) => (.error (ofLoadError name e).1, after)
  | (.ok ready, after) =>
    let performed := runAlong r w ready context after
    (performed.1.mapError .failed, performed.2)

/-- The attempts of a rendering, in order. -/
def renderAttempts (r : Renderer) (w : World) (st : Running) (name : Option String)
    (context : Template.Scope) : List Attempt :=
  (renderAlong r w ⟨st, []⟩ name context).2.attempts

/-! ## It is the same rendering -/

/-- The trail is in the state, and its attempts left what the state reports as found. -/
structure Tells (st : Running) (trail : Trail) : Prop where
  running : trail.running = st
  reported : findings st.events = Attempt.pairs trail.attempts

/-- Loading a template goes along with noting its attempts. -/
theorem load_tells (r : Renderer) (w : World) {st : Running} {trail : Trail} (h : Tells st trail)
    (name : Option String) :
    Tells (load r w st name).2
      ⟨(load r w trail.running name).2, trail.attempts ++ loadAttempts r w trail.running name⟩ := by
  obtain ⟨running, attempts⟩ := trail
  obtain ⟨rfl, hreported⟩ := h
  obtain ⟨events, hevents, hfindings⟩ := load_reports r w running name
  refine ⟨rfl, ?_⟩
  rw [hevents, findings_append, hreported, hfindings]
  exact (Attempt.pairs_append attempts _).symm

theorem offerAlong_tells (r : Renderer) (w : World) {st : Running} {trail : Trail}
    (h : Tells st trail) (name : String) :
    (r.offer w name st).1 = (offerAlong r w name trail).1 ∧
      Tells (r.offer w name st).2 (offerAlong r w name trail).2 := by
  have htells := load_tells r w h (some name)
  rw [offerAlong, Trail.noting, offer_eq, offer_eq]
  exact ⟨by rw [h.running], htells⟩

/-- Noting the attempts changes nothing in a run. -/
theorem runAlong_tells (r : Renderer) (w : World) (ready : Ready) (context : Template.Scope)
    {st : Running} {trail : Trail} (h : Tells st trail) :
    (run r w ready context st).1 = (runAlong r w ready context trail).1 ∧
      Tells (run r w ready context st).2 (runAlong r w ready context trail).2 := by
  have hagrees := Template.Script.run_agrees (r.offer w) (offerAlong r w) Tells (fun _ => False)
    (fun name st trail htells => .inl (offerAlong_tells r w htells name))
    (fun _ _ hfalse => hfalse) (Template.Engine.script ready.draft context) st trail h
  exact hagrees.resolve_right id

/-- Noting the attempts changes nothing in a rendering, and what they left is what the
rendering reports as found. -/
theorem renderAlong_tells (r : Renderer) (w : World) {st : Running} {trail : Trail}
    (h : Tells st trail) (name : Option String) (context : Template.Scope) :
    (renderAlong r w trail name context).1 = (render r w st name context).1 ∧
      findings (render r w st name context).2.events =
        Attempt.pairs (renderAlong r w trail name context).2.attempts := by
  have hafter := load_tells r w h name
  rw [render, renderAlong, Trail.noting, h.running] at *
  generalize load r w st name = loaded at hafter
  obtain ⟨result, after⟩ := loaded
  cases result with
  | error e =>
    refine ⟨rfl, ?_⟩
    dsimp only
    rw [findings_append, findings_ofLoadError, List.append_nil]
    exact hafter.reported
  | ok ready =>
    obtain ⟨hsame, hfinal⟩ := runAlong_tells r w ready context hafter
    dsimp only at hsame hfinal ⊢
    rw [← hsame]
    generalize run r w ready context after = performed at hfinal
    obtain ⟨outcome, final⟩ := performed
    -- what is reported at the end is no finding
    cases outcome with
    | error f => exact ⟨rfl, (findings_report final rfl).trans hfinal.reported⟩
    | ok text => exact ⟨rfl, (findings_report final rfl).trans hfinal.reported⟩

/-- A rendering that starts without reports reports what its attempts left. -/
theorem findings_render (r : Renderer) (w : World) {st : Running} (h : st.events = [])
    (name : Option String) (context : Template.Scope) :
    findings (render r w st name context).2.events =
      Attempt.pairs (renderAttempts r w st name context) := by
  have htells : Tells st ⟨st, []⟩ := ⟨rfl, by rw [h]; rfl⟩
  exact (renderAlong_tells r w htells name context).2

/-- Writing the text to a file adds no attempt. -/
theorem findings_renderToFile (r : Renderer) (w : World) (st : Running) (name : Option String)
    (path : Path) (context : Template.Scope) :
    findings (renderToFile r w st name path context).2.2.events =
      findings (render r w st name context).2.events := by
  rw [renderToFile]
  split
  · rename_i e after hrender
    rw [hrender]
  · rename_i text after hrender
    rw [hrender]
    split
    · rfl
    · exact findings_report after rfl

end Renderer

end TemplateLookup
