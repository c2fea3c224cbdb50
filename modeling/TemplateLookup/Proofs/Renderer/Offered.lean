/-
# TemplateLookup.Proofs.Renderer.Offered -- rendering with templates that are given

`renderOffered` renders a template when it is given for every name what loading it gives:
a template, or the reason why there is none. Nothing is kept and no file is read; what
changes on the way is only the list of the names that are loaded, in order, which grows
(`run_noting_grows`) and holds the name of the template itself (`renderOffered_mem`).
-/

import TemplateLookup.Proofs.Renderer.Work

namespace TemplateLookup.Renderer

/-- What loading gives for each name. -/
abbrev Offers := Option String → Except Template.LoadError Template.Draft

/-- What is given for a name, which is noted. -/
def noting (offers : Offers) (name : String) (names : List (Option String)) :
    Except Template.LoadError Template.Draft × List (Option String) :=
  (offers (some name), names ++ [some name])

/-- Names are only added. -/
theorem run_noting_grows (offers : Offers) (s : Template.Script) (names : List (Option String)) :
    names ⊆ (s.run (noting offers) names).2 := by
  apply Template.Script.run_keeps List.Subset.refl fun x y z => List.Subset.trans
  exact fun name names => List.subset_append_left names [some name]

/-- What was loaded before does not matter for the result. -/
theorem run_noting_anywhere (offers : Offers) (s : Template.Script)
    (names names' : List (Option String)) :
    (s.run (noting offers) names).1 = (s.run (noting offers) names').1 := by
  induction s generalizing names names' with
  | finish result => rfl
  | load name next ih => exact ih _ _ _

variable [Template.Engine]

/-- The outcome of rendering a template, and the names that are loaded for it. -/
def renderOffered (offers : Offers) (name : Option String) (context : Template.Scope) :
    Except RenderError Wide × List (Option String) :=
  match offers name with
  | .error e => (.error (ofLoadError name e).1, [name])
  | .ok draft =>
    let performed := (Template.Engine.script draft context).run (noting offers) [name]
    (performed.1.mapError .failed, performed.2)

/-- The name that is asked for is loaded. -/
theorem renderOffered_mem (offers : Offers) (name : Option String) (context : Template.Scope) :
    name ∈ (renderOffered offers name context).2 := by
  rw [renderOffered]
  split
  · exact List.mem_singleton_self name
  · exact run_noting_grows offers _ [name] (List.mem_singleton_self name)

end TemplateLookup.Renderer
