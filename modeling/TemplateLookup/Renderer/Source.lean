/-
# TemplateLookup.Renderer.Source -- the source text of a template

The source of a template is what its resource gives when it is read and decoded,
together with the file it came from and the time stamp that tells later whether it
is still current. That a source was loaded is reported only when it could be
decoded.
-/

import TemplateLookup.Supplier
import TemplateLookup.Template.Failure

namespace TemplateLookup

/-- The source text of a template. -/
structure Source where
  text : String
  path : Path
  /-- The time stamp of the file when it was read. -/
  stamp : Number.Binary64
  deriving DecidableEq, Repr, Inhabited

/-- The text of a resource in the encoding of a name. -/
def Resource.text [Encodings] (w : World) (encoding : String) (r : Resource) :
    Except Template.LoadError String :=
  match r.read w with
  | .error e => .error (.system e)
  | .ok bytes => (Encodings.decode encoding bytes).mapError .decoding

/-- A source or the reason why there is none, the table afterwards, and what was
reported. -/
structure Loading (α : Type) where
  result : Except Template.LoadError α
  table : Provenance
  events : List Log.Event

namespace Source

/-- Reads the source of a template. -/
def read [Encodings] (w : World) (supplier : Supplier) (table : Provenance) (encoding : String)
    (name : Option String) : Loading Source :=
  let lookup := Supplier.resolve w table name supplier
  match lookup.result with
  | .error _ => ⟨.error (.missing name), lookup.table, lookup.events⟩
  | .ok resource =>
    match resource.text w encoding with
    | .error e => ⟨.error e, lookup.table, lookup.events⟩
    | .ok text =>
      ⟨.ok ⟨text, resource.path, resource.lastModified⟩, lookup.table,
        lookup.events ++ [.loaded resource.name resource.path.toString]⟩

/-- Whether a source with a time stamp is still current. -/
def isCurrent (w : World) (supplier : Supplier) (table : Provenance) (name : Option String)
    (stamp : Number.Binary64) : Except SystemError Bool :=
  (Supplier.isStale w table name (.real stamp) supplier).map (!·)

end Source

end TemplateLookup
