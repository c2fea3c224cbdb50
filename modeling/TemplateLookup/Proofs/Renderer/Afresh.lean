/-
# TemplateLookup.Proofs.Renderer.Afresh -- rendering without anything kept

`renderAfresh` is the reference for rendering: every template is looked up, read and decoded
whenever it is needed, and no table and no kept template has a say. It renders with what the
files offer (`loadAfresh`). The outcome of a look-up depends on the files alone
(`resolve_result`), so loading a template anew gives what loading it afresh gives
(`reload_afresh`). What the file system refuses then is only the reading of an open file
(`refused_of_loadAfresh`): a look-up passes over what it cannot open.
-/

import TemplateLookup.Proofs.Renderer.Offered

namespace TemplateLookup

/-- What a look-up finds does not depend on the table. -/
theorem Supplier.resolve_result (w : World) (t t' : Provenance) (name : Option String)
    (supplier : Supplier) :
    (resolve w t name supplier).result = (resolve w t' name supplier).result := by
  cases supplier with
  | barren kind => rfl
  | files l =>
    rw [resolve, resolve, Locator.resolve, Locator.resolve]
    cases Name.accept name with
    | error e => rfl
    | ok location =>
      simp only [Locator.resolveAt]
      cases (searchRoots w (name.getD "") location l.roots.names).resource <;> rfl

/-- The rendering ended with a refusal of the file system, where the template itself or
one that the engine asked for was loaded. -/
def RenderError.Refuses (error : RenderError) (e : SystemError) : Prop :=
  error = .system e ∨ error = .failed (.load (.system e))

/-- An open file that cannot be read is refused without a path. -/
theorem Resource.path_of_read_error {w : World} {r : Resource} {e : SystemError}
    (h : r.read w = .error e) : e.path = none := by
  rw [read, World.readOpened] at h
  split at h
  · cases h
    rfl
  · cases h

namespace Renderer

theorem ofLoadError_refuses {name : Option String} {e : Template.LoadError}
    {refusal : SystemError} (h : (ofLoadError name e).1.Refuses refusal) : e = .system refusal := by
  cases e with
  | system found => rcases h with he | he <;> cases he; rfl
  | decoding e => cases e <;> rcases h with he | he <;> cases he
  | _ => rcases h with he | he <;> cases he

variable [Template.Engine] [Encodings]

/-! ## The reference -/

/-- The template that the files have for a name now. -/
def loadAfresh (r : Renderer) (w : World) : Offers := fun name =>
  match (Supplier.resolve w .empty name r.supplier).result with
  | .error _ => .error (.missing name)
  | .ok resource => r.draftOf (name.getD "") (resource.read w)

/-- The outcome of rendering a template, and the names that are loaded for it. -/
def renderAfresh (r : Renderer) (w : World) (name : Option String) (context : Template.Scope) :
    Except RenderError Wide × List (Option String) :=
  renderOffered (loadAfresh r w) name context

/-- The name that is asked for is loaded. -/
theorem renderAfresh_mem (r : Renderer) (w : World) (name : Option String)
    (context : Template.Scope) : name ∈ (renderAfresh r w name context).2 :=
  renderOffered_mem (loadAfresh r w) name context

theorem reload_afresh (r : Renderer) (w : World) (st : Running) (name : Option String) :
    (reload r w st name).1.map Ready.draft = loadAfresh r w name := by
  rw [loadAfresh, Supplier.resolve_result w .empty st.table name r.supplier]
  have hends := reload_ends r w st name
  generalize reload r w st name = ended at hends
  cases hends with
  | missing failed reported => rw [failed]; rfl
  | spoiled found drafted reported => rw [found]; exact drafted.symm
  | kept found drafted stamp reported => rw [found]; exact drafted.symm

/-! ## Refusals -/

/-- The files refuse a template only when reading it fails. -/
theorem refused_of_loadAfresh {r : Renderer} {w : World} {name : Option String} {e : SystemError}
    (h : loadAfresh r w name = .error (.system e)) : e.path = none := by
  rw [loadAfresh] at h
  split at h
  · cases h
  · rename_i resource _
    unfold draftOf at h
    split at h
    · rename_i refusal hread
      cases h
      exact Resource.path_of_read_error hread
    · split at h
      · cases h
      · split at h <;> cases h

/-- The reference is refused only where reading a file fails, if the engine passes refusals on. -/
theorem refused_of_renderAfresh (hpasses : Template.Engine.PassesRefusals) {r : Renderer}
    {w : World} {name : Option String} {context : Template.Scope} {error : RenderError}
    {e : SystemError} (h : (renderAfresh r w name context).1 = .error error) (hrefuses : error.Refuses e) :
    e.path = none := by
  rw [renderAfresh, renderOffered] at h
  cases hload : loadAfresh r w name with
  | error found =>
    rw [hload] at h
    cases h
    cases ofLoadError_refuses hrefuses
    exact refused_of_loadAfresh hload
  | ok draft =>
    rw [hload] at h
    dsimp only at h
    cases hrun : ((Template.Engine.script draft context).run (noting (loadAfresh r w)) [name]).1 with
    | ok text =>
      rw [hrun] at h
      cases h
    | error f =>
      rw [hrun] at h
      cases h
      rcases hrefuses with he | he
      · cases he
      · cases he
        obtain ⟨n, names, hmet⟩ := (hpasses draft context).refused_of_run hrun
        exact refused_of_loadAfresh hmet

end Renderer

end TemplateLookup
