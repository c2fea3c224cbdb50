/-
# TemplateLookup.Log.Event -- what is reported

Every operation reports what it did as a list of events. An event becomes a
record with a level, the logger of the part that reports it, and a message.
-/

import TemplateLookup.Log.Record

namespace TemplateLookup.Log

/-- Something that is reported. -/
inductive Event where
  /-- A locator is being built. -/
  | building
  /-- A locator got a root. -/
  | rootAdded (root : String)
  /-- A locator was built. -/
  | built
  /-- A name was refused. -/
  | rejected (message : String)
  /-- A template was found under a root. -/
  | found (name root : String)
  /-- A readable candidate could not be opened. -/
  | unopened (path reason : String)
  /-- The time of an opened candidate could not be read. -/
  | untimed (path reason : String)
  /-- The source of a template was read from a file. -/
  | loaded (name path : String)
  /-- A template to render was not found. -/
  | unloaded (name : String)
  /-- The source of a template to render could not be decoded. -/
  | undecoded (name reason : String)
  /-- A template could not be rendered. -/
  | unrendered (reason : String)
  /-- A template was rendered to a text of a length. -/
  | rendered (name : String) (length : Nat)
  /-- A rendered template was written to a file. -/
  | wrote (name path : String)
  /-- A configuration file was loaded. -/
  | configured (path : String)
  /-- A command failed. -/
  | failed (message : String)
  /-- A command has a hint for its user. -/
  | advised (message : String)
  deriving DecidableEq, Repr, Inhabited

/-- The logger of look-ups. -/
def locatorLogger : String := "temploc.loaders.file"

/-- The logger of name checks. -/
def nameLogger : String := "temploc.sanitizer"

/-- The logger of template sources. -/
def sourceLogger : String := "temploc.templates.loader"

/-- The logger of rendering. -/
def renderLogger : String := "temploc.templates.renderer"

/-- The logger of commands, above all others. -/
def mainLogger : String := "temploc"

/-- The record of an event. -/
def Event.record : Event → Record
  | .building => ⟨Level.trace, locatorLogger, "FileResourceLoader: initialization starting"⟩
  | .rootAdded root =>
    ⟨Level.info, locatorLogger, "FileResourceLoader: adding path '" ++ root ++ "'"⟩
  | .built => ⟨Level.trace, locatorLogger, "FileResourceLoader: initialization complete"⟩
  | .rejected message => ⟨Level.error, nameLogger, "Template lookup rejected: " ++ message⟩
  | .found name root =>
    ⟨Level.debug, locatorLogger, "Found template " ++ name ++ " under root '" ++ root ++ "'"⟩
  | .unopened path reason =>
    ⟨Level.debug, locatorLogger, "Skipping unreadable candidate " ++ path ++ ": " ++ reason⟩
  | .untimed path reason =>
    ⟨Level.debug, locatorLogger, "Skipping candidate " ++ path ++ ": " ++ reason⟩
  | .loaded name path =>
    ⟨Level.debug, sourceLogger, "Loaded template " ++ name ++ " from " ++ path⟩
  | .unloaded name =>
    ⟨Level.error, renderLogger, "Failed to load template " ++ name ++ ": " ++ name⟩
  | .undecoded name reason =>
    ⟨Level.error, renderLogger, "Failed to decode template " ++ name ++ ": " ++ reason⟩
  | .unrendered reason => ⟨Level.error, renderLogger, "Template rendering failed: " ++ reason⟩
  | .rendered name length =>
    ⟨Level.info, renderLogger,
      "Rendered " ++ name ++ " (" ++ toString length ++ " characters)"⟩
  | .wrote name path => ⟨Level.info, renderLogger, "Wrote " ++ name ++ " to " ++ path⟩
  | .configured path => ⟨Level.debug, mainLogger, "Loaded config from: " ++ path⟩
  | .failed message => ⟨Level.error, mainLogger, message⟩
  | .advised message => ⟨Level.info, mainLogger, message⟩

end TemplateLookup.Log
