/-
# TemplateLookup.Proofs.Renderer.Outcome -- the ways in which a rendering ends

A rendering has two parts: the template that was asked for is loaded, then it is run. A name
has to be loaded when nothing is kept under it or the kept template is outdated (`Due`);
otherwise the kept template is used, or its check is refused (`load_cases_of_not_due`). `Ends`
lists the ways in which a rendering can end, each with its reason, and there is no other
way (`render_eq_iff_ends`). Callers are told that the template is not there, or that a value is
wrong, as when it cannot be decoded or fails while it runs (`Announced`). A template that the
engine asks for fails only inside a run, so whatever is wrong with it is announced. Of the
template that was asked for four things are not announced (`Escapes`): its text has a flaw that
is not one of a value, its check is refused, its open file cannot be read, and its encoding is
not one of texts (`render_announced_iff`).
-/

import TemplateLookup.Proofs.Renderer.Transparency

namespace TemplateLookup.Renderer

/-- A load that gives an error where a template is wanted. -/
theorem error_of_map {α β ε : Type} {f : α → β} {x : Except ε α} {e : ε}
    (h : x.map f = .error e) : x = .error e := by
  cases x with
  | error found => cases h; rfl
  | ok a => cases h

section

variable (r : Renderer) (w : World) (st : Running) (name : Option String)

/-! ## Loading -/

/-- The name has to be loaded anew: nothing is kept under it, or what is kept is outdated. -/
def Due : Prop :=
  ∀ ready, kept? st name = some ready → r.options.autoReload = true ∧
    Source.isCurrent w r.supplier st.table name ready.stamp = .ok false

/-- The check of the template that is kept under the name is refused. -/
def CheckRefused (e : SystemError) : Prop :=
  ∃ ready, kept? st name = some ready ∧ r.options.autoReload = true ∧
    Source.isCurrent w r.supplier st.table name ready.stamp = .error e

/-- What a look-up of the name finds. -/
def lookedUp : Except LookupError Resource :=
  (Supplier.resolve w st.table name r.supplier).result

end

variable [Template.Engine] [Encodings]

section

variable {r : Renderer} {w : World} {st : Running} {name : Option String}

theorem load_of_due (h : Due r w st name) : load r w st name = reload r w st name := by
  rw [load]
  split
  · rfl
  · rename_i ready hkept
    obtain ⟨hreload, houtdated⟩ := h ready hkept
    rw [if_pos hreload, houtdated]

theorem load_of_checkRefused {e : SystemError} (h : CheckRefused r w st name e) :
    load r w st name = (.error (.system e), st) := by
  obtain ⟨ready, hkept, hreload, hrefused⟩ := h
  simp only [load, hkept, hreload, if_true, hrefused]

/-- What does not have to be loaded is kept, and it is used unless its check is refused. -/
theorem load_cases_of_not_due (h : ¬ Due r w st name) :
    (∃ ready, load r w st name = (.ok ready, st)) ∨ ∃ e, CheckRefused r w st name e := by
  obtain ⟨ready, hready⟩ := Classical.not_forall.mp h
  obtain ⟨hkept, hcurrent⟩ := Classical.not_imp.mp hready
  by_cases hreload : r.options.autoReload = true
  · cases hcheck : Source.isCurrent w r.supplier st.table name ready.stamp with
    | error e => exact .inr ⟨e, ready, hkept, hreload, hcheck⟩
    | ok current =>
      have hcurrent : current = true := by simpa [hreload, hcheck] using hcurrent
      refine .inl ⟨ready, ?_⟩
      simp only [load, hkept, hreload, if_true, hcheck, hcurrent]
  · refine .inl ⟨ready, ?_⟩
    simp [load, hkept, hreload]

/-- Loading a name anew looks it up, and makes a template of what is found. -/
theorem reload_draft (r : Renderer) (w : World) (st : Running) (name : Option String) :
    (reload r w st name).1.map Ready.draft =
      match lookedUp r w st name with
      | .error _ => .error (.missing name)
      | .ok resource => r.draftOf (name.getD "") (resource.read w) := by
  unfold lookedUp
  have hends := reload_ends r w st name
  generalize reload r w st name = ended at hends
  cases hends with
  | missing failed reported => rw [failed]; rfl
  | spoiled found drafted reported => rw [found]; exact drafted.symm
  | kept found drafted stamp reported => rw [found]; exact drafted.symm

/-- What a name that has to be loaded gives. -/
theorem load_draft_of_due (h : Due r w st name) :
    (load r w st name).1.map Ready.draft =
      match lookedUp r w st name with
      | .error _ => .error (.missing name)
      | .ok resource => r.draftOf (name.getD "") (resource.read w) := by
  rw [load_of_due h, reload_draft]

/-! ## The ways to end -/

/-- The name has to be loaded, and what is found reads as these bytes. -/
def Reads (r : Renderer) (w : World) (st : Running) (name : Option String) (bytes : Bytes) : Prop :=
  Due r w st name ∧ ∃ resource, lookedUp r w st name = .ok resource ∧ resource.read w = .ok bytes

/-- The name has to be loaded, and what is found cannot be read. -/
def Unread (r : Renderer) (w : World) (st : Running) (name : Option String) (e : SystemError) :
    Prop :=
  Due r w st name ∧ ∃ resource, lookedUp r w st name = .ok resource ∧ resource.read w = .error e

/-- The name has to be loaded, and the encoding gives no text of what is found. -/
def Undecoded (r : Renderer) (w : World) (st : Running) (name : Option String)
    (e : DecodeFailure) : Prop :=
  ∃ bytes, Reads r w st name bytes ∧ Encodings.decode r.encoding bytes = .error e

/-- The name has to be loaded, and the text that is found is no template for the engine. -/
def Malformed (r : Renderer) (w : World) (st : Running) (name : Option String)
    (flaw : Template.Flaw) : Prop :=
  ∃ bytes text, Reads r w st name bytes ∧ Encodings.decode r.encoding bytes = .ok text ∧
    Template.Engine.flaw? (r.draft (name.getD "") text) = some flaw

/-- The name has to be loaded, and what is found makes no template. -/
def Spoiled (r : Renderer) (w : World) (st : Running) (name : Option String)
    (e : Template.LoadError) : Prop :=
  Due r w st name ∧ ∃ resource, lookedUp r w st name = .ok resource ∧
    r.draftOf (name.getD "") (resource.read w) = .error e

theorem Unread.spoiled {e : SystemError} (h : Unread r w st name e) :
    Spoiled r w st name (.system e) := by
  obtain ⟨due, resource, found, hread⟩ := h
  refine ⟨due, resource, found, ?_⟩
  rw [hread]
  rfl

theorem Undecoded.spoiled {e : DecodeFailure} (h : Undecoded r w st name e) :
    Spoiled r w st name (.decoding e) := by
  obtain ⟨bytes, ⟨due, resource, found, hread⟩, hdecode⟩ := h
  refine ⟨due, resource, found, ?_⟩
  simp only [draftOf, hread, hdecode]

theorem Malformed.spoiled {flaw : Template.Flaw} (h : Malformed r w st name flaw) :
    Spoiled r w st name (.malformed flaw) := by
  obtain ⟨bytes, text, ⟨due, resource, found, hread⟩, hdecode, hflaw⟩ := h
  refine ⟨due, resource, found, ?_⟩
  simp only [draftOf, hread, hdecode, hflaw]

/-- What keeps a found file from being a template is what the rendering gives. -/
theorem Spoiled.render_eq {e : Template.LoadError} (h : Spoiled r w st name e)
    (context : Template.Scope) :
    (render r w st name context).1 = .error (ofLoadError name e).1 := by
  obtain ⟨due, resource, found, hspoiled⟩ := h
  have hload := load_draft_of_due due
  rw [found] at hload
  exact render_of_error (error_of_map (hload.trans hspoiled)) context

/-- How a rendering can end. -/
inductive Ends (r : Renderer) (w : World) (st : Running) (name : Option String)
    (context : Template.Scope) : Except RenderError Wide → Prop where
  | missing {e : LookupError} (due : Due r w st name) (unsupplied : lookedUp r w st name = .error e) :
      Ends r w st name context (.error (.lookup (.absent name none)))
  | unread {e : SystemError} (closed : Unread r w st name e) :
      Ends r w st name context (.error (.system e))
  | undecoded {e : DecodeFailure} (textless : Undecoded r w st name e) :
      Ends r w st name context (.error (ofLoadError name (.decoding e)).1)
  | malformed {flaw : Template.Flaw} (flawed : Malformed r w st name flaw) :
      Ends r w st name context (.error (.malformed flaw))
  | refused {e : SystemError} (unchecked : CheckRefused r w st name e) :
      Ends r w st name context (.error (.system e))
  /-- The template, or one that the engine asks for, fails while it runs. -/
  | failed {ready : Ready} {f : Template.Failure} (loaded : (load r w st name).1 = .ok ready)
      (stopped : (run r w ready context (load r w st name).2).1 = .error f) :
      Ends r w st name context (.error (.failed f))
  | rendered {ready : Ready} {text : Wide} (loaded : (load r w st name).1 = .ok ready)
      (ran : (run r w ready context (load r w st name).2).1 = .ok text) :
      Ends r w st name context (.ok text)

/-- A rendering of what was loaded ends with the run. -/
theorem ends_of_load_ok {ready : Ready} (h : (load r w st name).1 = .ok ready)
    (context : Template.Scope) : Ends r w st name context (render r w st name context).1 := by
  rw [render_of_ok h]
  cases hrun : (run r w ready context (load r w st name).2).1 with
  | error f => exact .failed h hrun
  | ok text => exact .rendered h hrun

/-- A rendering of what is found ends with what makes it no template, or with the run. -/
theorem ends_of_found (h : Due r w st name) {resource : Resource}
    (hfound : lookedUp r w st name = .ok resource) (context : Template.Scope) :
    Ends r w st name context (render r w st name context).1 := by
  have hload := load_draft_of_due h
  rw [hfound] at hload
  dsimp only at hload
  unfold draftOf at hload
  cases hread : resource.read w with
  | error e =>
    rw [hread] at hload
    rw [render_of_error (error_of_map hload)]
    exact .unread ⟨h, resource, hfound, hread⟩
  | ok bytes =>
    rw [hread] at hload
    have hreads : Reads r w st name bytes := ⟨h, resource, hfound, hread⟩
    dsimp only at hload
    cases hdecode : Encodings.decode r.encoding bytes with
    | error e =>
      rw [hdecode] at hload
      rw [render_of_error (error_of_map hload)]
      exact .undecoded ⟨bytes, hreads, hdecode⟩
    | ok text =>
      rw [hdecode] at hload
      dsimp only at hload
      cases hflaw : Template.Engine.flaw? (r.draft (name.getD "") text) with
      | some flaw =>
        rw [hflaw] at hload
        rw [render_of_error (error_of_map hload)]
        exact .malformed ⟨bytes, text, hreads, hdecode, hflaw⟩
      | none =>
        rw [hflaw] at hload
        cases hresult : (load r w st name).1 with
        | error e =>
          rw [hresult] at hload
          cases hload
        | ok ready => exact ends_of_load_ok hresult context

/-- Every rendering ends in one of the ways. -/
theorem render_ends (r : Renderer) (w : World) (st : Running) (name : Option String)
    (context : Template.Scope) : Ends r w st name context (render r w st name context).1 := by
  by_cases hdue : Due r w st name
  · cases hfound : lookedUp r w st name with
    | error e =>
      have hload := load_draft_of_due hdue
      rw [hfound] at hload
      rw [render_of_error (error_of_map hload)]
      exact .missing hdue hfound
    | ok resource => exact ends_of_found hdue hfound context
  · rcases load_cases_of_not_due hdue with ⟨ready, hload⟩ | ⟨e, hrefused⟩
    · exact ends_of_load_ok (congrArg Prod.fst hload) context
    · have hload := congrArg Prod.fst (load_of_checkRefused hrefused)
      rw [render_of_error hload]
      exact .refused hrefused

/-- There is one way for each rendering. -/
theorem Ends.unique {context : Template.Scope} {outcome : Except RenderError Wide}
    (h : Ends r w st name context outcome) : (render r w st name context).1 = outcome := by
  cases h with
  | missing due unsupplied =>
    have hload := load_draft_of_due due
    rw [unsupplied] at hload
    rw [render_of_error (error_of_map hload)]
    rfl
  | unread closed => exact closed.spoiled.render_eq context
  | undecoded textless => exact textless.spoiled.render_eq context
  | malformed flawed => exact flawed.spoiled.render_eq context
  | refused unchecked =>
    rw [render_of_error (congrArg Prod.fst (load_of_checkRefused unchecked))]
    rfl
  | failed loaded stopped =>
    rw [render_of_ok loaded, stopped]
    rfl
  | rendered loaded ran =>
    rw [render_of_ok loaded, ran]
    rfl

/-- A rendering gives an outcome exactly when it can end so. -/
theorem render_eq_iff_ends (r : Renderer) (w : World) (st : Running) (name : Option String)
    (context : Template.Scope) (outcome : Except RenderError Wide) :
    (render r w st name context).1 = outcome ↔ Ends r w st name context outcome := by
  constructor
  · intro h
    exact h ▸ render_ends r w st name context
  · exact Ends.unique

/-! ## What callers are told of -/

/-- The errors of a rendering of which callers are not told, each with its reason. -/
inductive Escapes (r : Renderer) (w : World) (st : Running) (name : Option String) :
    RenderError → Prop where
  /-- The text has a flaw, and it is not that of a value. -/
  | malformed {flaw : Template.Flaw} (flawed : Malformed r w st name flaw)
      (unvalued : flaw.ofValue = false) : Escapes r w st name (.malformed flaw)
  | refused {e : SystemError} (unchecked : CheckRefused r w st name e)
      (known : e.cause ≠ .unnameable) : Escapes r w st name (.system e)
  | unread {e : SystemError} (closed : Unread r w st name e) : Escapes r w st name (.system e)
  /-- The encoding is known, but it is not one of texts. -/
  | unsuited {message : String} (textless : Undecoded r w st name (.unsuited message)) :
      Escapes r w st name (.unsuited message)

/-- What escapes is what the rendering gives. -/
theorem Escapes.ends {e : RenderError} (h : Escapes r w st name e) (context : Template.Scope) :
    Ends r w st name context (.error e) := by
  cases h with
  | malformed flawed unvalued => exact .malformed flawed
  | refused unchecked known => exact .refused unchecked
  | unread closed => exact .unread closed
  | unsuited textless => exact .undecoded textless

end

end TemplateLookup.Renderer

namespace TemplateLookup

/-- The outcome of rendering a name is one that callers are told of: a text, that the name is
not there, or that a value is wrong. -/
inductive Announced (name : Option String) : Except RenderError Wide → Prop where
  | text (t : Wide) : Announced name (.ok t)
  | missing : Announced name (.error (.lookup (.absent name none)))
  | ofValue {e : RenderError} (valued : e.isValueError = true) : Announced name (.error e)

/-- An open file that cannot be read is no wrong value. -/
theorem Resource.cause_of_read_error {w : World} {r : Resource} {e : SystemError}
    (h : r.read w = .error e) : e.cause ≠ .unnameable := by
  rw [read, World.readOpened] at h
  split at h
  · cases h
    decide
  · cases h

namespace Renderer

variable [Template.Engine] [Encodings]

/-- What escapes is not announced. -/
theorem Escapes.not_announced {r : Renderer} {w : World} {st : Running} {name : Option String}
    {e : RenderError} (h : Escapes r w st name e) : ¬ Announced name (.error e) := by
  intro hannounced
  -- only the errors about a value and a name that is not there are announced
  have hvalued : e.isValueError = true := by
    cases hannounced with
    | missing => cases h
    | ofValue valued => exact valued
  cases h with
  | malformed flawed unvalued => cases unvalued.symm.trans hvalued
  | refused unchecked known => exact known (of_decide_eq_true hvalued)
  | unread closed =>
    obtain ⟨-, resource, -, hread⟩ := closed
    exact Resource.cause_of_read_error hread (of_decide_eq_true hvalued)
  | unsuited textless => cases hvalued

/-- The outcome is announced unless it is one that escapes. -/
theorem render_announced_iff (r : Renderer) (w : World) (st : Running) (name : Option String)
    (context : Template.Scope) :
    Announced name (render r w st name context).1 ↔ ¬ ∃ e, Escapes r w st name e := by
  have hends := render_ends r w st name context
  constructor
  · rintro h ⟨e, hescapes⟩
    rw [(hescapes.ends context).unique] at h
    exact hescapes.not_announced h
  · intro hnone
    generalize (render r w st name context).1 = outcome at hends
    cases hends with
    | missing due unsupplied => exact .missing
    | unread closed => exact absurd ⟨_, .unread closed⟩ hnone
    | @undecoded e textless =>
      cases e with
      | undecodable message => exact .ofValue rfl
      | invalid message => exact .ofValue rfl
      | unsuited message => exact absurd ⟨_, .unsuited textless⟩ hnone
    | @malformed flaw flawed =>
      cases hvalued : flaw.ofValue with
      | true => exact .ofValue hvalued
      | false => exact absurd ⟨_, .malformed flawed hvalued⟩ hnone
    | @refused e unchecked =>
      by_cases hcause : e.cause = .unnameable
      · exact .ofValue (decide_eq_true hcause)
      · exact absurd ⟨_, .refused unchecked hcause⟩ hnone
    | failed loaded stopped => exact .ofValue rfl
    | rendered loaded ran => exact .text _

end Renderer

end TemplateLookup
