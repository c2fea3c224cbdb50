/-
# TemplateLookup.Candidate -- the file a root offers for a location

Below an ordinary root the location is read from the root, its leading slashes
removed so that it cannot take the root's place. The empty root stands for the
top of the file system: there the location is the path.
-/

import TemplateLookup.Path

namespace TemplateLookup

/-- The root that stands for the top of the file system. -/
def absoluteRoot : String := ""

/-- A location without its leading slashes. -/
def withoutSlashes (location : String) : String :=
  String.ofList (location.toList.dropWhile (· = '/'))

/-- The path that a root offers for a location. -/
def candidate (root location : String) : Path :=
  if root = absoluteRoot then Path.ofString location
  else (Path.ofString root).join (Path.ofString (withoutSlashes location))

end TemplateLookup
