/-
# TemplateLookup.Settings -- what a configuration says

A configuration names the kind of locator, the roots to search, and the
encoding of template sources; each has a default. The values are checked in
this order: references to variables, the shape of the document, the roots, the
kind, the encoding. The first one that is wrong is the error.
-/

import TemplateLookup.Encodings
import TemplateLookup.Environment
import TemplateLookup.Path
import TemplateLookup.Roots

namespace TemplateLookup

/-- What a configuration says. -/
structure Settings where
  /-- The kind of locator; what it may be is for the registry to say. -/
  loader : Data
  path : Roots
  encoding : String
  /-- The file that the configuration was read from. -/
  source : Option Path
  deriving Repr, Inhabited

/-- Why a configuration is not accepted. -/
inductive SettingsError where
  | unset (e : Environment.Unset)
  /-- The document is not a mapping. -/
  | shape (kind : String)
  | roots (e : RootsError)
  | noLoader
  | encodingKind (kind : String)
  /-- The name of the encoding holds the character that ends names. -/
  | encodingCut
  | unknownEncoding (name : String)
  deriving Repr

/-- The message of a configuration that is not accepted. -/
def SettingsError.message : SettingsError → String
  | .unset e => e.message
  | .shape kind => "'" ++ kind ++ "' object has no attribute 'get'"
  | .roots e => e.message
  | .noLoader => "Loader kind must not be empty"
  | .encodingKind kind => "lookup() argument must be str, not " ++ kind
  | .encodingCut => "embedded null character"
  | .unknownEncoding name => "Unknown template encoding: " ++ name

namespace Settings

variable [Encodings]

/-- The kind of locator when none is named. -/
def defaultLoader : Data := .text "file"

/-- The encoding when none is named. -/
def defaultEncoding : Data := .text "utf-8"

/-- The name of an encoding that exists. -/
def encodingOf : Data → Except SettingsError String
  | .text name =>
    if name.toList.contains '\x00' then .error .encodingCut
    else if Encodings.knows name then .ok name
    else .error (.unknownEncoding name)
  | .null => .error (.encodingKind "None")
  | other => .error (.encodingKind other.kind)

/-- The settings with a kind of locator, roots and an encoding. -/
def make (loader : Data) (path : Roots) (encoding : Data) : Except SettingsError Settings :=
  if loader.isTruthy then (encodingOf encoding).map fun name => ⟨loader, path, name, none⟩
  else .error .noLoader

/-- The settings without a configuration. -/
def default : Settings := ⟨defaultLoader, .absolute, "utf-8", none⟩

/-- The settings of single values, where a missing one has its default. -/
def ofParts (loader path encoding : Option Data) : Except SettingsError Settings :=
  match Roots.ofData (path.getD .null) with
  | .error e => .error (.roots e)
  | .ok roots => make (loader.getD defaultLoader) roots (encoding.getD defaultEncoding)

/-- The settings in a document whose references are replaced. -/
def ofExpanded (d : Data) : Except SettingsError Settings :=
  match d with
  | .mapping entries =>
    ofParts (Data.entry? "loader" entries) (Data.entry? "path" entries)
      (Data.entry? "encoding" entries)
  | other => .error (.shape other.kind)

/-- The settings in a document. -/
def ofData (env : Environment) (d : Data) : Except SettingsError Settings :=
  match env.expand d with
  | .error e => .error (.unset e)
  | .ok expanded => ofExpanded expanded

end Settings

end TemplateLookup
