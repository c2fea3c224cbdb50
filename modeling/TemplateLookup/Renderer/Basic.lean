/-
# TemplateLookup.Renderer.Basic -- rendering templates

A template is rendered by loading it and letting the engine work on it with the
given variables; templates that the engine asks for are loaded on the way, each
under its own name. A template that is not found is a failed look-up; one that
cannot be decoded, or fails while it runs, is a failed rendering. What else keeps
the template from being loaded that was asked for is reported as it is.
-/

import TemplateLookup.Renderer.Cache
import TemplateLookup.World.Edit

namespace TemplateLookup

/-- Why a template is not rendered. -/
inductive RenderError where
  /-- The template is not there. -/
  | lookup (e : LookupError)
  | undecodable (name : Option String) (message : String)
  /-- The encoding refuses the bytes for a reason of its own. -/
  | invalid (message : String)
  /-- There is no encoding of texts under the name. -/
  | unsuited (message : String)
  | failed (reason : Template.Failure)
  | malformed (flaw : Template.Flaw)
  | system (e : SystemError)
  /-- The text cannot be written. -/
  | unencodable (e : EncodeError)
  deriving DecidableEq, Repr, Inhabited

/-- The message of a failed rendering. -/
def RenderError.message : RenderError → String
  | .lookup e => e.message
  | .undecodable name message =>
    "Template " ++ LookupError.shownName name ++ " could not be decoded: " ++ message
  | .invalid message => message
  | .unsuited message => message
  | .failed reason => "Template rendering failed: " ++ reason.message
  | .malformed flaw => flaw.message
  | .system e => e.message
  | .unencodable e => e.message

/-- Whether an error says that a value is wrong. -/
def RenderError.isValueError : RenderError → Bool
  | .undecodable _ _ => true
  | .invalid _ => true
  | .failed _ => true
  | .unencodable _ => true
  | .malformed flaw => flaw.ofValue
  | .system e => e.cause = .unnameable
  | .lookup _ => false
  | .unsuited _ => false

namespace Renderer

variable [Template.Engine] [Encodings]

/-! ## Running -/

/-- What the engine is given when it asks for a template. -/
def offer (r : Renderer) (w : World) (name : String) (st : Running) :
    Except Template.LoadError Template.Draft × Running :=
  match load r w st (some name) with
  | (.error e, after) => (.error e, after)
  | (.ok ready, after) => (.ok ready.draft, after)

/-- The text of a template with given variables. -/
def run (r : Renderer) (w : World) (ready : Ready) (context : Template.Scope) (st : Running) :
    Except Template.Failure Wide × Running :=
  (Template.Engine.script ready.draft context).run (r.offer w) st

/-! ## Rendering -/

/-- A state with one report more. -/
def report (st : Running) (e : Log.Event) : Running := { st with events := st.events ++ [e] }

/-- What a failed load means for a rendering, and what is reported about it. -/
def ofLoadError (name : Option String) : Template.LoadError → RenderError × List Log.Event
  | .missing _ =>
    (.lookup (.absent name none), [.unloaded (LookupError.shownName name)])
  | .decoding (.undecodable message) =>
    (.undecodable name message, [.undecoded (LookupError.shownName name) message])
  | .decoding (.invalid message) => (.invalid message, [])
  | .decoding (.unsuited message) => (.unsuited message, [])
  | .malformed flaw => (.malformed flaw, [])
  | .system e => (.system e, [])

/-- Renders a template. -/
def render (r : Renderer) (w : World) (st : Running) (name : Option String)
    (context : Template.Scope) : Except RenderError Wide × Running :=
  match load r w st name with
  | (.error e, after) =>
    let (error, notices) := ofLoadError name e
    (.error error, { after with events := after.events ++ notices })
  | (.ok ready, after) =>
    match run r w ready context after with
    | (.error f, final) => (.error (.failed f), report final (.unrendered f.message))
    | (.ok text, final) =>
      (.ok text, report final (.rendered (LookupError.shownName name) text.length))

/-- Writes a text into a file that is made or emptied before, with the directories
above it. A text that has no bytes leaves the file empty. -/
def writeText (w : World) (path : Path) (text : Wide) : World × Option RenderError :=
  match text.encode with
  | .ok bytes =>
    let edited := w.placeFile path bytes w.now
    (edited.world, edited.refusal.map .system)
  | .error e =>
    let edited := w.placeFile path [] w.now
    (edited.world, some ((edited.refusal.map .system).getD (.unencodable e)))

/-- Renders a template into a file. -/
def renderToFile (r : Renderer) (w : World) (st : Running) (name : Option String)
    (path : Path) (context : Template.Scope) : Except RenderError Path × World × Running :=
  match render r w st name context with
  | (.error e, after) => (.error e, w, after)
  | (.ok text, after) =>
    match writeText w path text with
    | (written, some e) => (.error e, written, after)
    | (written, none) =>
      (.ok path, written, report after (.wrote (LookupError.shownName name) path.toString))

end Renderer

end TemplateLookup
