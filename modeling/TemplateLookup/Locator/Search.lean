/-
# TemplateLookup.Locator.Search -- the first root that holds a readable file

A look-up tries the candidates of the roots in order. A candidate that is no
readable file is passed over silently, one that cannot be opened or whose time
cannot be read then is passed over with a notice. The first that is left is the
resource, and the table remembers its root under the name that was asked for.
`currentRoot` asks only whether candidates are readable, and remembers nothing.
-/

import TemplateLookup.Locator.Basic
import TemplateLookup.Log.Event
import TemplateLookup.Name.Accept

namespace TemplateLookup

/-! ## One candidate -/

/-- What came of trying one candidate. -/
inductive Trial where
  /-- There is no readable file. -/
  | nothing
  /-- There is one, but it could not be opened and looked at. -/
  | skipped (notice : Log.Event)
  | opened (resource : Resource)
  deriving DecidableEq, Repr

/-- Tries the candidate of a root. -/
def tryRoot (w : World) (name location root : String) : Trial :=
  let path := candidate root location
  if w.isReadable path then
    match w.openedContent path with
    | .error e => .skipped (.unopened path.toString e.message)
    | .ok content =>
      match w.openedStamp path with
      | .error e => .skipped (.untimed path.toString e.message)
      | .ok stamp => .opened ⟨name, root, path, stamp, content⟩
  else .nothing

/-! ## All roots -/

/-- The notices of a search, and what it found. -/
structure Found where
  notices : List Log.Event
  resource : Option Resource
  deriving DecidableEq, Repr

/-- Searches roots in order. -/
def searchRoots (w : World) (name location : String) : List String → Found
  | [] => ⟨[], none⟩
  | root :: rest =>
    match tryRoot w name location root with
    | .nothing => searchRoots w name location rest
    | .skipped notice =>
      let later := searchRoots w name location rest
      ⟨notice :: later.notices, later.resource⟩
    | .opened resource => ⟨[], some resource⟩

/-- The first root whose candidate is readable. -/
def readableRoot (w : World) (location : String) (roots : List String) : Option String :=
  roots.find? fun root => w.isReadable (candidate root location)

/-! ## Look-ups -/

/-- What is reported about a refused name. -/
def refusalNotices : LookupError → List Log.Event
  | .climbs name => [.rejected (LookupError.climbs name).message]
  | _ => []

/-- What is reported about a name before anything is looked up. -/
def nameNotices (name : Option String) : List Log.Event :=
  match Name.accept name with
  | .ok _ => []
  | .error e => refusalNotices e

/-- The outcome of a look-up, the table after it, and what was reported. -/
structure Lookup where
  result : Except LookupError Resource
  table : Provenance
  events : List Log.Event

namespace Locator

/-- The look-up of an accepted name at its location. -/
def resolveAt (w : World) (l : Locator) (table : Provenance) (name location : String) : Lookup :=
  let found := searchRoots w name location l.roots.names
  match found.resource with
  | some r =>
    ⟨.ok r, table.record name r.root, found.notices ++ [.found name r.root]⟩
  | none => ⟨.error (.notFound location), table, found.notices⟩

/-- Looks a template up. -/
def resolve (w : World) (l : Locator) (table : Provenance) (name : Option String) : Lookup :=
  match Name.accept name with
  | .error e => ⟨.error e, table, refusalNotices e⟩
  | .ok location => resolveAt w l table (name.getD "") location

/-- The root that a look-up would use now, as far as readability tells. -/
def currentRoot (w : World) (l : Locator) (name : Option String) :
    Except LookupError (Option String) :=
  (Name.accept name).map fun location => readableRoot w location l.roots.names

end Locator

end TemplateLookup
