/-
# TemplateLookup.Registry -- the kinds of suppliers by name

A registry maps the word that a configuration uses to a class of suppliers.
Registering a name again replaces its class and keeps its place; the default is
the name that was last registered as the default. A kind that is no text is
registered under no name; one that is a list or a mapping cannot even be asked
for.
-/

import TemplateLookup.Supplier

namespace TemplateLookup

/-- The kinds of suppliers by name; what a class is does not matter. -/
structure Registry (κ : Type) where
  classes : List (String × κ)
  default : Option String
  deriving DecidableEq, Repr, Inhabited

/-- Why no supplier is made. -/
inductive RegistryError where
  /-- No class has the name; the registered names are these. -/
  | unregistered (loader : Data) (available : List String)
  | noDefault
  /-- No supplier of a kind can be made, with a reason if there is one. -/
  | unavailable (loader : Data) (detail : Option String)
  | unhashable (kind : String)
  | settings (e : SettingsError)
  /-- The class itself makes none of the settings. -/
  | unbuildable (message : String)
  deriving Repr

namespace RegistryError

/-- The message of a supplier that is not made. -/
def message : RegistryError → String
  | .unregistered loader available =>
    "Loader '" ++ loader.plain ++ "' not registered. Available: " ++
      (Data.list (available.map .text)).shown
  | .noDefault => "No loader configured"
  | .unavailable loader detail =>
    LookupError.detailOr ("Loader not available: " ++ loader.plain) detail
  | .unhashable kind => "unhashable type: '" ++ kind ++ "'"
  | .settings e => e.message
  | .unbuildable message => message

/-- What the error says it was looking for. -/
def loader : RegistryError → Data
  | .unregistered loader _ => loader
  | .unavailable loader _ => loader
  | _ => .text "loader"

end RegistryError

namespace Registry

section

variable {κ σ : Type}

/-- The registry without names. -/
def empty : Registry κ := ⟨[], none⟩

/-- The registry with a class under a name. -/
def register (r : Registry κ) (name : String) (cls : κ) (isDefault : Bool) : Registry κ :=
  ⟨Pairs.store name cls r.classes, if isDefault then some name else r.default⟩

/-- The name of the locator over files. -/
def fileName : String := "file"

/-- The registry with all kinds that are there from the start: the class of locators
over files. -/
def setUpWith (files : κ) (r : Registry κ) : Registry κ := r.register fileName files true

/-- The registered names in the order of their first registration. -/
def names (r : Registry κ) : List String := Pairs.keys r.classes

/-- What a registry says about itself. -/
def metadata (r : Registry κ) : Data :=
  .record [("loaders", .list (r.names.map .text)),
    ("default", match r.default with | some name => .text name | none => .null)]

/-- The class that is registered for a kind. -/
def class? (r : Registry κ) (loader : Data) : Except RegistryError κ :=
  match loader with
  | .text name =>
    match Pairs.fetch name r.classes with
    | some cls => .ok cls
    | none => .error (.unregistered loader r.names)
  | .list _ => .error (.unhashable loader.kind)
  | .mapping _ => .error (.unhashable loader.kind)
  | _ => .error (.unregistered loader r.names)

/-- What the class builds that a configuration asks for. -/
def createWith (build : κ → Settings → Except RegistryError σ) (r : Registry κ)
    (settings : Settings) : Except RegistryError σ :=
  match r.class? settings.loader with
  | .error e => .error e
  | .ok cls => build cls settings

/-- What the class of the default kind builds. -/
def createDefaultWith [Encodings] (build : κ → Settings → Except RegistryError σ)
    (r : Registry κ) : Except RegistryError σ :=
  match r.default with
  | none => .error .noDefault
  | some name =>
    match Settings.ofParts (some (.text name)) none none with
    | .error e => .error (.settings e)
    | .ok settings => r.createWith build settings

end

/-! ## Suppliers of the two classes -/

/-- The supplier that a class builds. -/
def supply (cls : SupplierClass) (settings : Settings) : Except RegistryError Supplier :=
  .ok (.ofSettings cls settings)

/-- The registry with all kinds that are there from the start. -/
def setUp (r : Registry SupplierClass) : Registry SupplierClass := r.setUpWith .files

/-- The registry, set up if it has no names. -/
def ready (r : Registry SupplierClass) : Registry SupplierClass :=
  if r.names.isEmpty then r.setUp else r

/-- The supplier that a configuration asks for. -/
def create (r : Registry SupplierClass) (settings : Settings) : Except RegistryError Supplier :=
  r.createWith supply settings

/-- The supplier of the default kind. -/
def createDefault [Encodings] (r : Registry SupplierClass) : Except RegistryError Supplier :=
  r.createDefaultWith supply

end Registry

end TemplateLookup
