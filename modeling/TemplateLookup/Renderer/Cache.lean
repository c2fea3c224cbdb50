/-
# TemplateLookup.Renderer.Cache -- templates that are ready to run

A renderer keeps every template it loaded under its exact name. A kept template
is used again when it is still current, or always when reloading is switched
off; otherwise it is loaded anew. A load that fails leaves what was kept. Each
load gives the template a number of its own, so it can be told whether two uses
are of the same load.
-/

import TemplateLookup.Renderer.Source
import TemplateLookup.Template.Engine
import TemplateLookup.Template.Escape

namespace TemplateLookup

/-- A template that is ready to run. -/
structure Ready where
  draft : Template.Draft
  /-- The time stamp of the source. -/
  stamp : Number.Binary64
  /-- The number of the load. -/
  serial : Nat
  deriving Repr, Inhabited

/-- How a renderer treats its templates. -/
structure Options where
  spacing : Template.Spacing
  escaping : Template.Escaping
  /-- Kept templates are checked before they are used again. -/
  autoReload : Bool
  deriving DecidableEq, Repr, Inhabited

/-- Tags leave no trace in the text, the text keeps its end, markup is escaped by
name, and kept templates are checked. -/
def Options.default : Options := ⟨⟨true, true, true⟩, .byName, true⟩

/-- What a renderer is made of. -/
structure Renderer where
  supplier : Supplier
  encoding : String
  options : Options
  deriving Repr, Inhabited

/-- What changes while templates are loaded and run. -/
structure Running where
  /-- The templates that are kept, by name. -/
  kept : List (String × Ready)
  /-- How many loads there were. -/
  loads : Nat
  table : Provenance
  events : List Log.Event
  deriving Repr, Inhabited

namespace Renderer

variable [Template.Engine] [Encodings]

/-- The text of a template under a name, with all that decides what is made of it. -/
def draft (r : Renderer) (name text : String) : Template.Draft :=
  ⟨name, text, r.options.spacing, r.options.escaping.concerns name⟩

/-- A source made ready. -/
def prepare (r : Renderer) (name : String) (serial : Nat) (source : Source) :
    Except Template.LoadError Ready :=
  match Template.Engine.flaw? (r.draft name source.text) with
  | some flaw => .error (.malformed flaw)
  | none => .ok ⟨r.draft name source.text, source.stamp, serial⟩

/-- Loads a template anew and keeps it. -/
def reload (r : Renderer) (w : World) (st : Running) (name : Option String) :
    Except Template.LoadError Ready × Running :=
  let loading := Source.read w r.supplier st.table r.encoding name
  let after := { st with table := loading.table, events := st.events ++ loading.events }
  match loading.result with
  | .error e => (.error e, after)
  | .ok source =>
    match prepare r (name.getD "") st.loads source with
    | .error e => (.error e, after)
    | .ok ready =>
      (.ok ready,
        { after with kept := Pairs.store (name.getD "") ready st.kept, loads := st.loads + 1 })

/-- The template that is kept under a name. -/
def kept? (st : Running) (name : Option String) : Option Ready :=
  name.bind fun n => Pairs.fetch n st.kept

/-- The template of a name: the kept one while it is current, else a new one. -/
def load (r : Renderer) (w : World) (st : Running) (name : Option String) :
    Except Template.LoadError Ready × Running :=
  match kept? st name with
  | none => reload r w st name
  | some ready =>
    if r.options.autoReload then
      match Source.isCurrent w r.supplier st.table name ready.stamp with
      | .error e => (.error (.system e), st)
      | .ok true => (.ok ready, st)
      | .ok false => reload r w st name
    else (.ok ready, st)

end Renderer

end TemplateLookup
