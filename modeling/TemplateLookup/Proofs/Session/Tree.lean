/-
# TemplateLookup.Proofs.Session.Tree -- sessions keep the tree

Few steps change files (`Step.Edits`); every other step leaves the world as it is
(`world_of_not_edits`). Those that do, commands and renderings into files among them, keep
the locations of the world a tree (`isTree_step`), so that in every session that starts in a
tree the world is one (`isTree_after`). What a link leads to has to be a text that a path can
hold; the file system takes no other.
-/

import TemplateLookup.Proofs.World.Edit
import TemplateLookup.Session.Run

namespace TemplateLookup

open World

/-! ## Commands -/

namespace Renderer

theorem isTree_writeText {w : World} (h : w.IsTree) {path : Path} (hp : path.IsPlain)
    (text : Wide) : (writeText w path text).1.IsTree := by
  rw [writeText]
  split
  · exact h.placeFile hp _ w.now
  · exact h.placeFile hp [] w.now

theorem isTree_renderToFile [Template.Engine] [Encodings] {w : World} (h : w.IsTree)
    (r : Renderer) (st : Running) (name : Option String) {path : Path} (hp : path.IsPlain)
    (context : Template.Scope) : (r.renderToFile w st name path context).2.1.IsTree := by
  rw [renderToFile]
  split
  · exact h
  · rename_i text after _
    have hwritten := isTree_writeText h hp text
    split <;> rename_i hleft <;> rw [hleft] at hwritten <;> exact hwritten

theorem isTree_of_renderToFile [Template.Engine] [Encodings] {w left : World} (h : w.IsTree)
    {r : Renderer} {st after : Running} {name : Option String} {path : Path} (hp : path.IsPlain)
    {context : Template.Scope} {result : Except RenderError Path}
    (hresult : r.renderToFile w st name path context = (result, left, after)) : left.IsTree := by
  have hleft := isTree_renderToFile h r st name hp context
  rwa [hresult] at hleft

end Renderer

namespace Command

variable {w : World}

theorem isTree_withSupplier (h : w.IsTree) (settings : Settings) {next : Supplier → Performance}
    (hnext : ∀ supplier, (next supplier).world.IsTree) :
    (withSupplier w settings next).world.IsTree := by
  rw [withSupplier]
  split
  · exact hnext _
  · exact h
  · exact h

theorem isTree_renderFailed (h : w.IsTree) (e : RenderError) (events : List Log.Event) :
    (renderFailed w e events).world.IsTree := by
  unfold renderFailed
  split
  · exact h
  · split
    · exact h
    · exact h

theorem isPlain_hiddenConfig : hiddenConfig.IsPlain := by decide +kernel

theorem isTree_init (h : w.IsTree) (force : Bool) : (init w force).world.IsTree := by
  have hmade : (w.ensureDirectory hiddenPath).world.IsTree :=
    h.ensureDirectory (Path.isPlain_ofString _)
  rw [init]
  split
  · exact hmade
  · split
    · exact hmade
    · split
      · exact hmade
      · have hwritten := hmade.writeFile isPlain_hiddenConfig (Codec.encode Settings.initialText)
          (w.ensureDirectory hiddenPath).world.now
        rw [writeInitial]
        split
        · exact hwritten
        · exact hwritten

variable [Template.Engine] [Encodings]

theorem isTree_render (h : w.IsTree) (settings : Settings) (name : String) (vars : List String)
    (output : Option String) : (render w settings name vars output).world.IsTree := by
  rw [render]
  split
  · exact h
  · apply isTree_withSupplier h
    intro supplier
    dsimp only
    cases output with
    | none =>
      dsimp only
      split
      · exact isTree_renderFailed h _ _
      · split
        · exact isTree_renderFailed h _ _
        · exact h
    | some target =>
      dsimp only
      split
      · rename_i hresult
        exact isTree_renderFailed
          (Renderer.isTree_of_renderToFile h (Path.isPlain_ofString target) hresult) _ _
      · rename_i hresult
        exact Renderer.isTree_of_renderToFile h (Path.isPlain_ofString target) hresult

theorem isTree_perform (h : w.IsTree) (settings : Settings) (request : Request) :
    (request.perform w settings).world.IsTree := by
  cases request with
  | roots => exact h
  | resolve name json showing =>
    apply isTree_withSupplier h
    intro supplier
    dsimp only
    split
    · exact h
    · split
      · exact h
      · exact h
  | check name since json =>
    apply isTree_withSupplier h
    intro supplier
    dsimp only
    split
    · exact h
    · split
      · exact h
      · exact h
  | render name vars output =>
    rw [Request.perform]
    split
    · exact h
    · exact isTree_render h settings name vars output
  | init force => exact isTree_init h force

variable [Yaml.Reader] [ArgumentReader]

theorem isTree_runCommand (h : w.IsTree) (env : Environment) (globals : Globals)
    (name : Command.Name) (args : List String) :
    (runCommand w env globals name args).world.IsTree := by
  rw [runCommand]
  split
  · rename_i e _
    cases e <;> exact h
  · show (Performance.world _).IsTree
    dsimp only [Performance.after]
    split
    · exact h
    · exact isTree_perform h _ _

/-- Every command line leaves a tree behind. -/
theorem isTree_run (h : w.IsTree) (env : Environment) (args : List String) :
    (run w env args).2.world.IsTree := by
  rw [run]
  split
  · exact h
  · dsimp only
    split
    · exact h
    · split
      · exact h
      · split
        · exact h
        · split
          · exact h
          · split
            · exact h
            · exact isTree_runCommand h env _ _ _

end Command

/-! ## Steps -/

/-- The steps that can change files. -/
def Step.Edits : Step → Prop
  | .write .. | .touch .. | .makeDirectory _ | .remove _ | .link .. | .enter _ | .setFault ..
  | .renderToFile .. | .commandLine _ => True
  | _ => False

/-- The step makes no link to what no path can hold. -/
def Step.LinksText : Step → Prop
  | .link _ target => '\x00' ∉ target.toList
  | _ => True

namespace Session

variable {s : Session}

theorem world_withHeld {id : String} {next : Held → Stepped}
    (h : ∀ held, (next held).session.world = s.world) :
    (s.withHeld id next).session.world = s.world := by
  rw [withHeld]
  split
  · exact h _
  · rfl

theorem world_withStudio {id : String} {next : Studio → Stepped}
    (h : ∀ studio, (next studio).session.world = s.world) :
    (s.withStudio id next).session.world = s.world := by
  rw [withStudio]
  split
  · exact h _
  · rfl

theorem isTree_changed (h : s.world.IsTree) {r : Except SystemError World}
    (hr : ∀ w, r = .ok w → w.IsTree) : (s.changed r).session.world.IsTree := by
  cases r with
  | ok w => exact hr w rfl
  | error e => exact h

theorem world_renderer [Encodings] (s : Session) (id : String) (parts : Option Parts)
    (supplier : Option String) (options : Options) :
    (s.renderer id parts supplier options).session.world = s.world := by
  rw [renderer]
  split
  · rfl
  · split
    · exact world_withHeld fun _ => rfl
    · rw [openOwn]
      split
      · rfl
      · rfl

variable [Template.Engine] [Encodings] [Yaml.Reader] [Command.ArgumentReader]

/-- Most steps leave the files as they are. -/
theorem world_of_not_edits {a : Step} (h : ¬ a.Edits) : (s.step a).session.world = s.world := by
  cases a with
  | write path content time => exact absurd trivial h
  | touch path time => exact absurd trivial h
  | makeDirectory path => exact absurd trivial h
  | remove path => exact absurd trivial h
  | link path target => exact absurd trivial h
  | enter path => exact absurd trivial h
  | setFault path fault => exact absurd trivial h
  | renderToFile id name path context => exact absurd trivial h
  | commandLine args => exact absurd trivial h
  | read path =>
    rw [step]
    split
    · rfl
    · rfl
  | locator id roots table kind => rfl
  | configured id parts =>
    rw [step]
    split
    · rfl
    · rfl
  | barren id kind => rfl
  | currentRoot id name =>
    refine world_withHeld fun held => ?_
    rw [currentRoot]
    split
    · rfl
    · rfl
  | listing id =>
    refine world_withHeld fun held => ?_
    split
    · rfl
    · rfl
  | source id name encoding watch =>
    refine world_withHeld fun held => ?_
    rw [source]
    split
    · rfl
    · rfl
  | isCurrent watch =>
    show (s.isCurrent watch).session.world = s.world
    rw [isCurrent]
    split
    · rfl
    · rfl
  | renderer id parts supplier options => exact world_renderer s id parts supplier options
  | render id name context => exact world_withStudio fun _ => rfl
  | template id name =>
    refine world_withStudio fun studio => ?_
    rw [template]
    split
    split
    · rfl
    · rfl
  | findConfig start =>
    show (s.findConfig start).session.world = s.world
    unfold findConfig
    dsimp only
    split
    · rfl
    · rfl
  | loadConfig path search =>
    show (s.loadConfig path search).session.world = s.world
    rw [loadConfig]
    split
    · rfl
    · rfl
  | _ => exact world_withHeld fun _ => rfl

/-- A step keeps the tree. -/
theorem isTree_step (h : s.world.IsTree) {a : Step} (ha : a.LinksText) :
    (s.step a).session.world.IsTree := by
  by_cases hedits : a.Edits
  · cases a with
    | write path content time => exact h.placeFile (Path.isPlain_ofString path) content time
    | touch path time => exact isTree_changed h fun w hw => h.setTime hw
    | makeDirectory path => exact h.makeDirectories (Path.isPlain_ofString path)
    | remove path => exact isTree_changed h fun w hw => h.removeAt hw
    | link path target => exact h.makeLink (Path.isPlain_ofString path) ha
    | enter path => exact isTree_changed h fun w hw => h.enter hw
    | setFault path fault => exact h.setFault (Path.ofString path) fault
    | renderToFile id name path context =>
      show (s.withStudio id _).session.world.IsTree
      rw [withStudio]
      split
      · exact Renderer.isTree_renderToFile h _ _ name (Path.isPlain_ofString path) context
      · exact h
    | commandLine args => exact Command.isTree_run h s.env args
    | _ => exact False.elim hedits
  · rw [world_of_not_edits hedits]
    exact h

/-- In every session that starts in a tree the world is a tree. -/
theorem isTree_after (h : s.world.IsTree) {steps : List Step}
    (hsteps : ∀ a ∈ steps, a.LinksText) : (s.after steps).world.IsTree := by
  induction steps generalizing s with
  | nil => exact h
  | cons a rest ih =>
    have hfirst := isTree_step h (hsteps a List.mem_cons_self)
    exact ih hfirst fun b hb => hsteps b (List.mem_cons_of_mem a hb)

end Session

end TemplateLookup
