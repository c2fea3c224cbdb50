/-
# TemplateLookup.Settings.Discovery -- finding and reading a configuration file

Without a file of its own the program looks into two places below the directory
it starts from: first a hidden directory, then the directory itself. The first
place where anything exists is the configuration file, whatever it is. An empty
file, or one that holds a false value, says nothing and leaves the defaults.
-/

import TemplateLookup.Settings
import TemplateLookup.World.Files
import TemplateLookup.Yaml.Basic

namespace TemplateLookup

/-- Why there are no settings. -/
inductive ConfigError where
  /-- The file that was asked for does not exist. -/
  | absent (path : Path)
  /-- The directory to start from is a link that leads to itself. -/
  | loop (path : Path)
  | system (e : SystemError)
  | undecodable (message : String)
  | malformed (flaw : Yaml.Flaw)
  | settings (e : SettingsError)
  deriving Repr

/-- The message of settings that are not there. -/
def ConfigError.message : ConfigError → String
  | .absent path => "Config file not found: " ++ path.toString
  | .loop path => "Symlink loop from " ++ Text.quoted path.toString
  | .system e => e.message
  | .undecodable message => message
  | .malformed flaw => flaw.message
  | .settings e => e.message

namespace Settings

/-! ## Finding the file -/

/-- The hidden directory of the configuration. -/
def hiddenDirectory : String := ".temploc"

/-- The configuration file in the hidden directory. -/
def hiddenFile : String := "config.yaml"

/-- The configuration file without a directory of its own. -/
def openFile : String := "temploc.yaml"

/-- The places where a configuration file is looked for, in order. -/
def places (start : Path) : List Path :=
  [(start.child hiddenDirectory).child hiddenFile, start.child openFile]

/-- The first of some paths that exists. -/
def firstExisting (w : World) : List Path → Except SystemError (Option Path)
  | [] => .ok none
  | p :: rest =>
    match w.exists? p with
    | .error e => .error e
    | .ok true => .ok (some p)
    | .ok false => firstExisting w rest

/-- The configuration file found from a directory. -/
def find (w : World) (start : Path) : Except ConfigError (Option Path) :=
  let top := w.resolved start
  match w.look top with
  | .error .tooManyLinks => .error (.loop top)
  | .error .unnameable => .error (.system ⟨.unnameable, none⟩)
  | _ =>
    match firstExisting w (places top) with
    | .error e => .error (.system e)
    | .ok found => .ok found

/-- The working directory as a path. -/
def workingDirectory (w : World) : Path := ⟨.root, w.here⟩

/-! ## Reading the file -/

variable [Encodings] [Yaml.Reader]

/-- A document, or an empty mapping when it is a false value. -/
def orEmpty (d : Data) : Data := if d.isTruthy then d else .mapping []

/-- The settings in the bytes of a file. -/
def ofBytes (env : Environment) (bytes : Bytes) : Except ConfigError Settings :=
  match Codec.decodeStream bytes with
  | .error refusal => .error (.undecodable (refusal.message "utf-8"))
  | .ok text =>
    match Yaml.Reader.read text with
    | .error flaw => .error (.malformed flaw)
    | .ok d =>
      match ofData env (orEmpty d) with
      | .error e => .error (.settings e)
      | .ok settings => .ok settings

/-- The settings in a file. -/
def ofFile (w : World) (env : Environment) (path : Path) : Except ConfigError Settings :=
  match w.readAt path with
  | .error e => .error (.system e)
  | .ok bytes => (ofBytes env bytes).map fun settings => { settings with source := some path }

/-- The file to read: the one that is given, else the one that is found. -/
def choose (w : World) (given : Option Path) (search : Bool) :
    Except ConfigError (Option Path) :=
  match given with
  | some path =>
    match w.exists? path with
    | .error e => .error (.system e)
    | .ok true => .ok (some path)
    | .ok false => .error (.absent path)
  | none => if search then find w (workingDirectory w) else .ok none

/-- The settings of a file that is given or found, or else the defaults. -/
def load (w : World) (env : Environment) (given : Option Path) (search : Bool) :
    Except ConfigError Settings :=
  match choose w given search with
  | .error e => .error e
  | .ok none => .ok default
  | .ok (some path) => ofFile w env path

end Settings

end TemplateLookup
