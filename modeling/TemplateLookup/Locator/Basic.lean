/-
# TemplateLookup.Locator.Basic -- what finds templates

A locator searches its roots in order for the file of a template name. It has a
kind, the word under which it is configured. What it found is a resource: the
name that was asked for, the root that supplied it, the file, the time stamp the
file had when it was opened, and the bytes it held then. The file is open, not yet
read.
-/

import TemplateLookup.LookupError
import TemplateLookup.Provenance
import TemplateLookup.Roots
import TemplateLookup.World.Files

namespace TemplateLookup

/-- What finds templates below roots. -/
structure Locator where
  kind : Data
  roots : Roots
  deriving Repr, Inhabited

/-- A template that was found. -/
structure Resource where
  name : String
  root : String
  path : Path
  lastModified : Number.Binary64
  content : Bytes
  deriving DecidableEq, Repr, Inhabited

namespace Resource

/-- What reading a resource gives. -/
def read (w : World) (r : Resource) : Except SystemError Bytes := w.readOpened r.path r.content

/-- A resource as a document, without its bytes. -/
def toData (r : Resource) : Data :=
  .record [("name", .text r.name), ("root", .text r.root), ("path", .text r.path.toString),
    ("last_modified", .real r.lastModified)]

end Resource

namespace Locator

/-- The kind of a locator that is built by hand. -/
def defaultKind : Data := .text "file"

/-- What a locator says about itself, given its table. -/
def metadata (l : Locator) (table : Provenance) : Data :=
  .record [("name", l.kind), ("roots", l.roots.toData), ("tracked_templates", .int table.size)]

end Locator

end TemplateLookup
