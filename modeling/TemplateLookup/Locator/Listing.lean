/-
# TemplateLookup.Locator.Listing -- the templates below the roots

The listing names every file below the roots that are directories, by its path
from the root, once and in the order of code points. Roots that do not exist
are passed over; the top of the file system is never gone through. A locator
without roots that name directories has no listing.
-/

import TemplateLookup.Locator.Basic
import TemplateLookup.Text.Ordered
import TemplateLookup.World.Listing

namespace TemplateLookup

/-- Why there is no listing. -/
inductive ListingError where
  | noDirectories
  | system (e : SystemError)
  deriving DecidableEq, Repr

/-- The message of a listing that is not there. -/
def ListingError.message : ListingError → String
  | .noDirectories => "this loader cannot iterate over all templates"
  | .system e => e.message

namespace Locator

/-- The paths of the files below one root. -/
def namesBelow (w : World) (root : String) : Except SystemError (List String) :=
  let path := Path.ofString root
  match w.isDirectory path with
  | .error e => .error e
  | .ok false => .ok []
  | .ok true =>
    match w.look path with
    | .ok (loc, _) => .ok ((w.filesBelow path loc).map (Text.joinWith "/"))
    | .error _ => .ok []

/-- The paths of the files below several roots. -/
def namesBelowAll (w : World) : List String → Except SystemError (List String)
  | [] => .ok []
  | root :: rest =>
    match namesBelow w root with
    | .error e => .error e
    | .ok names =>
      match namesBelowAll w rest with
      | .error e => .error e
      | .ok more => .ok (names ++ more)

/-- The templates below the roots. -/
def listing (w : World) (l : Locator) : Except ListingError (List String) :=
  if l.roots.directories.isEmpty then .error .noDirectories
  else match namesBelowAll w l.roots.directories with
    | .error e => .error (.system e)
    | .ok names => .ok (Text.ordered names)

end Locator

end TemplateLookup
