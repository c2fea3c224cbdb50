/-
# TemplateLookup.Command.Performance -- what a command does

A command ends with an exit code, with a complaint about its arguments, or with
an error that nobody expected. Up to then it writes to the output, reports
events and changes files. Exit codes: 0 all went well, 1 the template was not
found or something failed, 2 the template name is invalid, 3 the template is
stale.
-/

import TemplateLookup.Command.Request
import TemplateLookup.Command.Variables
import TemplateLookup.Json.Printer
import TemplateLookup.Registry
import TemplateLookup.Renderer.Basic
import TemplateLookup.Settings.Discovery
import TemplateLookup.Settings.Initial

namespace TemplateLookup.Command

/-- An error that ends a command without an exit code of its own. -/
inductive Escape where
  | system (e : SystemError)
  | registry (e : RegistryError)
  | rendering (e : RenderError)
  deriving Repr

/-- How a command ends. -/
inductive Ending where
  | exit (code : Nat)
  /-- The arguments are wrong; the message is empty when there is none to keep. -/
  | usage (message : String)
  | escaped (e : Escape)
  deriving Repr

/-- What a command did. -/
structure Performance where
  ending : Ending
  output : Bytes
  events : List Log.Event
  world : World
  deriving Repr

namespace Performance

/-- A command that ends with an exit code and a text. -/
def finish (w : World) (code : Nat) (text : String) (events : List Log.Event) : Performance :=
  ⟨.exit code, Codec.encode text, events, w⟩

/-- A command that ends with an error. -/
def escape (w : World) (e : Escape) (events : List Log.Event) : Performance :=
  ⟨.escaped e, [], events, w⟩

/-- A command whose arguments are wrong. -/
def complain (w : World) (message : String) : Performance := ⟨.usage message, [], [], w⟩

/-- A command after other reports. -/
def after (events : List Log.Event) (p : Performance) : Performance :=
  { p with events := events ++ p.events }

end Performance

/-- Whether a text holds the character that ends paths. -/
def isCut (given : String) : Bool := given.toList.contains '\x00'

/-- How a command ends that was given a path which ends too early. -/
def cutOff (w : World) : Performance := .escape w (.system ⟨.unnameable, none⟩) []

/-! ## Roots -/

/-- How a root is shown. -/
def shownRoot (root : String) : String :=
  if root = absoluteRoot then "<absolute path mode>" else root

/-- The roots in numbered lines. -/
def rootLines : Nat → List String → List String
  | _, [] => []
  | n, root :: rest =>
    ("  " ++ toString n ++ ". " ++ shownRoot root ++ "\n") :: rootLines (n + 1) rest

/-- Lists the roots. -/
def roots (w : World) (settings : Settings) : Performance :=
  .finish w 0
    (if settings.path.names.isEmpty then "No template roots configured\n"
      else String.join (rootLines 1 settings.path.names)) []

/-! ## With a supplier -/

/-- Goes on with the supplier that the configuration asks for. -/
def withSupplier (w : World) (settings : Settings) (next : Supplier → Performance) :
    Performance :=
  match Registry.empty.ready.create settings with
  | .ok supplier => (next supplier).after supplier.buildNotices
  | .error (.unregistered loader available) =>
    .finish w 1 "" [.failed (RegistryError.unregistered loader available).message]
  | .error e => .escape w (.registry e) []

/-- The exit code of a failed look-up. -/
def codeOf : LookupError → Nat
  | .unnamed _ => 2
  | _ => 1

/-- A command that ends with a failed look-up. -/
def lookupFailed (w : World) (e : LookupError) (events : List Log.Event) : Performance :=
  .finish w (codeOf e) "" (events ++ [.failed e.message])

/-- A time stamp as it is shown. -/
def shownStamp (x : Number.Binary64) : String := Number.Layout.plain.number x

/-- A resource in lines. -/
def resourceLines (r : Resource) : String :=
  "root:          " ++ shownRoot r.root ++ "\n" ++
  "file:          " ++ r.path.toString ++ "\n" ++
  "last modified: " ++ shownStamp r.lastModified ++ "\n"

/-- What is written about a resource. -/
def resourceText (r : Resource) (json : Bool) : String :=
  if json then Json.page r.toData ++ "\n" else resourceLines r

/-- Finds a template and tells which root supplied it; what it holds is read first and
shown last. -/
def resolve (w : World) (settings : Settings) (name : String) (json showing : Bool) :
    Performance :=
  withSupplier w settings fun supplier =>
    let lookup := supplier.resolve w .empty (some name)
    match lookup.result with
    | .error e => lookupFailed w e lookup.events
    | .ok r =>
      match if showing then r.read w else .ok [] with
      | .error e => .escape w (.system e) lookup.events
      | .ok shown => ⟨.exit 0, Codec.encode (resourceText r json) ++ shown, lookup.events, w⟩

/-- A resource as a document, with the time that was asked about and the answer. -/
def checkedData (r : Resource) (since : Number.Binary64) (stale : Bool) : Data :=
  .record [("name", .text r.name), ("root", .text r.root), ("path", .text r.path.toString),
    ("last_modified", .real r.lastModified), ("since", .real since), ("stale", .bool stale)]

/-- What is written about a template that was checked. -/
def checkedText (w : World) (supplier : Supplier) (table : Provenance) (r : Resource)
    (since : Number.Binary64) (json stale : Bool) : String :=
  if json then Json.page (checkedData r since stale) ++ "\n"
  else if stale then
    r.name ++ " is stale (last modified " ++
      shownStamp (supplier.lastModified w table (some r.name)) ++ ")\n"
  else r.name ++ " is up to date\n"

/-- Tells whether a template changed since a time. -/
def check (w : World) (settings : Settings) (name : String) (since : Number.Binary64)
    (json : Bool) : Performance :=
  withSupplier w settings fun supplier =>
    let lookup := supplier.resolve w .empty (some name)
    match lookup.result with
    | .error e => lookupFailed w e lookup.events
    | .ok r =>
      match supplier.isStale w lookup.table (some name) (.real since) with
      | .error e => .escape w (.system e) lookup.events
      | .ok stale =>
        .finish w (if stale then 3 else 0)
          (checkedText w supplier lookup.table r since json stale) lookup.events

/-! ## Rendering -/

/-- How a command ends whose rendering failed: only a failed look-up and a wrong value
are expected. -/
def renderFailed (w : World) (e : RenderError) (events : List Log.Event) : Performance :=
  match e with
  | .lookup e => lookupFailed w e events
  | e =>
    if e.isValueError then .finish w 1 "" (events ++ [.failed e.message])
    else .escape w (.rendering e) events

/-- The state in which a renderer starts. -/
def freshRunning (table : Provenance) : Running := ⟨[], 0, table, []⟩

variable [Template.Engine] [Encodings]

/-- Renders a template to the output or into a file. -/
def render (w : World) (settings : Settings) (name : String) (vars : List String)
    (output : Option String) : Performance :=
  match assignments vars with
  | .error e => .complain w e.message
  | .ok context =>
    withSupplier w settings fun supplier =>
      let renderer : Renderer := ⟨supplier, settings.encoding, .default⟩
      let scope := context.map fun (key, value) => (key, Data.text value)
      match output with
      | none =>
        match renderer.render w (freshRunning .empty) (some name) scope with
        | (.error e, st) => renderFailed w e st.events
        | (.ok text, st) =>
          match text.encode with
          | .error e => renderFailed w (.unencodable e) st.events
          | .ok bytes => ⟨.exit 0, bytes, st.events, w⟩
      | some target =>
        match renderer.renderToFile w (freshRunning .empty) (some name)
            (Path.ofString target) scope with
        | (.error e, changed, st) => renderFailed changed e st.events
        | (.ok path, changed, st) =>
          .finish changed 0 ("Rendered " ++ name ++ " to " ++ path.toString ++ "\n") st.events

/-! ## Starting a configuration -/

/-- The hidden directory, from the working directory. -/
def hiddenPath : Path := Path.ofString Settings.hiddenDirectory

/-- The configuration file in it. -/
def hiddenConfig : Path := hiddenPath.child Settings.hiddenFile

/-- Writes the configuration to start with. -/
def writeInitial (w : World) : Performance :=
  let written := w.writeFile hiddenConfig (Codec.encode Settings.initialText) w.now
  match written.refusal with
  | some e => .escape written.world (.system e) []
  | none => .finish written.world 0 ("Created " ++ hiddenConfig.toString ++ "\n") []

/-- Writes a configuration, unless there is one and it is not to be replaced. -/
def init (w : World) (force : Bool) : Performance :=
  let made := w.ensureDirectory hiddenPath
  match made.refusal with
  | some e => .escape made.world (.system e) []
  | none =>
    match made.world.exists? hiddenConfig with
    | .error e => .escape made.world (.system e) []
    | .ok there =>
      if there && !force then
        .finish made.world 1 ""
          [.failed ("Config already exists: " ++ hiddenConfig.toString),
            .advised "Use --force to overwrite"]
      else writeInitial made.world

/-! ## Any command -/

/-- Does what is asked for. -/
def Request.perform (w : World) (settings : Settings) : Request → Performance
  | .roots => Command.roots w settings
  | .resolve name json showing => Command.resolve w settings name json showing
  | .check name since json => Command.check w settings name since json
  | .render name vars output =>
    if output.any isCut then cutOff w else Command.render w settings name vars output
  | .init force => Command.init w force

end TemplateLookup.Command
