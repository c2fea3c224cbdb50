/-
# TemplateLookup.Supplier -- locators of every kind

Whoever needs templates is handed a supplier and does not ask of which kind it
is. One kind is a locator over files; the other supplies nothing, so every name
is absent and everything that was loaded before is stale.
-/

import TemplateLookup.Locator.Listing
import TemplateLookup.Locator.Staleness
import TemplateLookup.Settings

namespace TemplateLookup

/-- What supplies templates. -/
inductive Supplier where
  | files (l : Locator)
  /-- A supplier of nothing. -/
  | barren (kind : Data)
  deriving Repr, Inhabited

/-- The kinds of suppliers. -/
inductive SupplierClass where
  | files
  | barren
  deriving DecidableEq, Repr, Inhabited

namespace Supplier

/-- The supplier of a class that a configuration asks for. -/
def ofSettings (cls : SupplierClass) (settings : Settings) : Supplier :=
  match cls with
  | .files => .files ⟨settings.loader, settings.path⟩
  | .barren => .barren settings.loader

/-- The class of a supplier. -/
def cls : Supplier → SupplierClass
  | .files _ => .files
  | .barren _ => .barren

/-- What is reported while a supplier is built. -/
def buildNotices : Supplier → List Log.Event
  | .files l => .building :: l.roots.names.map .rootAdded ++ [.built]
  | .barren _ => []

/-- What a supplier says about itself. -/
def metadata (table : Provenance) : Supplier → Data
  | .files l => l.metadata table
  | .barren kind => .record [("name", kind)]

/-- Looks a template up. -/
def resolve (w : World) (table : Provenance) (name : Option String) : Supplier → Lookup
  | .files l => Locator.resolve w l table name
  | .barren _ => ⟨.error (.absent name none), table, []⟩

/-- Whether a template with a known time stamp has to be loaded again. -/
def isStale (w : World) (table : Provenance) (name : Option String) (known : Number.Numeral) :
    Supplier → Except SystemError Bool
  | .files l => Locator.isStale w l table name known
  | .barren _ => .ok true

/-- What is reported when it is asked whether a template is stale. -/
def staleNotices (name : Option String) : Supplier → List Log.Event
  | .files _ => nameNotices name
  | .barren _ => []

/-- The time stamp of the file that a template was loaded from. -/
def lastModified (w : World) (table : Provenance) (name : Option String) :
    Supplier → Number.Binary64
  | .files _ => Locator.lastModified w table name
  | .barren _ => unknownStamp

/-- What is reported when the time stamp of a template is asked for. -/
def lastModifiedNotices (table : Provenance) (name : Option String) : Supplier → List Log.Event
  | .files _ => Locator.lastModifiedNotices table name
  | .barren _ => []

/-- The templates that a supplier has. -/
def listing (w : World) : Supplier → Except ListingError (List String)
  | .files l => Locator.listing w l
  | .barren _ => .error .noDirectories

end Supplier

end TemplateLookup
