/-
# TemplateLookup.Session.Step -- what can be done in a session

The steps of a session change files, build suppliers and renderers, look
templates up, ask whether they changed, render them, and run command lines. Each
step has an answer, which may be a problem; a step that fails leaves a session
in which the next one can be done.
-/

import TemplateLookup.Command.Line
import TemplateLookup.Session.Basic

namespace TemplateLookup

/-- How a resource is read. -/
inductive Reading where
  | bytes
  | text (encoding : String)
  /-- The resource is closed unread. -/
  | unread
  deriving DecidableEq, Repr, Inhabited

/-- The parts of a configuration that are given one by one. -/
structure Parts where
  loader : Option Data
  path : Option Data
  encoding : Option Data
  deriving Repr, Inhabited

/-- The settings that parts make. -/
def Parts.settings [Encodings] (p : Parts) : Except SettingsError Settings :=
  Settings.ofParts p.loader p.path p.encoding

/-- What can be done in a session. -/
inductive Step where
  | write (path : String) (content : Bytes) (time : FileTime)
  | touch (path : String) (time : FileTime)
  | makeDirectory (path : String)
  | remove (path : String)
  | link (path target : String)
  | enter (path : String)
  | read (path : String)
  | setFault (path : String) (fault : Option Fault)
  | locator (id : String) (roots : Option (List String)) (table : Option String) (kind : Data)
  | configured (id : String) (parts : Parts)
  | barren (id : String) (kind : Data)
  | resolve (id : String) (name : Option String) (reading : Reading)
  | isStale (id : String) (name : Option String) (known : Number.Numeral)
  | lastModified (id : String) (name : Option String)
  | currentRoot (id : String) (name : Option String)
  | metadata (id : String)
  | provenance (id : String)
  | record (id : String) (name root : String)
  | listing (id : String)
  | source (id : String) (name : Option String) (encoding : String) (watch : String)
  | isCurrent (watch : String)
  | renderer (id : String) (parts : Option Parts) (supplier : Option String) (options : Options)
  | render (id : String) (name : Option String) (context : Template.Scope)
  | renderToFile (id : String) (name : Option String) (path : String) (context : Template.Scope)
  | template (id : String) (name : Option String)
  | findConfig (start : Option String)
  | loadConfig (path : Option String) (search : Bool)
  | commandLine (args : List String)
  deriving Repr, Inhabited

/-- What went wrong in a step. -/
inductive Problem where
  /-- Nothing was built under the name. -/
  | unbuilt (id : String)
  | lookup (e : LookupError)
  | listing (e : ListingError)
  | load (e : Template.LoadError)
  | render (e : RenderError)
  | system (e : SystemError)
  | settings (e : SettingsError)
  | config (e : ConfigError)
  | registry (e : RegistryError)
  deriving Repr

/-- What was read of a resource. -/
inductive Contents where
  | bytes (r : Except SystemError Bytes)
  | text (r : Except Template.LoadError String)
  | unread

/-- The answer to a step. -/
inductive Answer where
  | nothing
  | problem (p : Problem)
  | bytes (b : Bytes)
  | flag (b : Bool)
  | stamp (x : Number.Binary64)
  | word (s : Option String)
  | words (names : List String)
  | pairs (ps : List (String × String))
  | metadata (d : Data)
  | resource (r : Resource) (contents : Contents)
  | source (text : String) (path : Path)
  | studio (r : Renderer) (metadata : Data)
  | rendered (text : Wide)
  | written (path : Path) (content : Bytes)
  | reused (b : Bool)
  | settings (s : Settings)
  | performed (wishes : Log.Channel.Wishes) (p : Command.Performance)

/-- The session after a step, the answer, and what was reported. -/
structure Stepped where
  session : Session
  answer : Answer
  events : List Log.Event

end TemplateLookup
