/-
# TemplateLookup.Command.Line -- running a whole command line

The arguments are taken in this order: the options for all commands, the name of
the command, the configuration, and only then the arguments of the command
itself. So a wrong argument of a command is noticed after the configuration was
loaded, and not at all when that failed. Asking for the version comes before
everything but a wrong option.
-/

import TemplateLookup.Command.Performance

namespace TemplateLookup.Command

/-- Whether a text names a file that can be given as a configuration: something is
there, it is no directory, and is not written like one. -/
def isConfigFile (w : World) (given : String) : Bool :=
  let written := (Text.pieces '/' given.toList).getLastD []
  written ≠ [] && written ≠ ['.'] &&
    match w.look (Path.ofString given) with
    | .ok (_, .directory) => false
    | .ok _ => true
    | .error _ => false

/-- What is reported about the configuration. -/
def settingsNotices (settings : Settings) : List Log.Event :=
  match settings.source with
  | some path => [.configured path.toString]
  | none => []

/-- How a command ends without settings. -/
def settingsFailed (w : World) (e : ConfigError) : Performance :=
  match e with
  | .absent _ => .finish w 1 "" [.failed e.message]
  | other => .finish w 1 "" [.failed ("Failed to load config: " ++ other.message)]

/-- The settings with roots that were given on the command line. -/
def withPaths (settings : Settings) (paths : List String) : Settings :=
  if paths.isEmpty then settings else { settings with path := .ofNames paths }

variable [Template.Engine] [Encodings] [Yaml.Reader] [ArgumentReader]

/-- Runs a command of a name with its arguments. -/
def runCommand (w : World) (env : Environment) (globals : Globals) (name : Name)
    (args : List String) : Performance :=
  match Settings.load w env (globals.config.map Path.ofString) true with
  | .error e => settingsFailed w e
  | .ok loaded =>
    let settings := withPaths loaded globals.paths
    let performance : Performance :=
      match ArgumentReader.request? name args with
      | none => .complain w ""
      | some request => request.perform w settings
    performance.after (settingsNotices settings)

/-- The text that tells the version. -/
def versionText : String := "temploc " ++ Settings.version ++ "\n"

/-- What a command line wishes for its log, and what it does. -/
def run (w : World) (env : Environment) (args : List String) :
    Log.Channel.Wishes × Performance :=
  match ArgumentReader.globals? args with
  | none => (⟨false, false, false⟩, .complain w "")
  | some (globals, rest) =>
    let performance : Performance :=
      if globals.version then .finish w 0 versionText []
      else if globals.config.any isCut then cutOff w
      else if globals.config.any fun given => !isConfigFile w given then .complain w ""
      else match rest with
        | [] => .complain w ""
        | command :: args =>
          match Name.ofString? command with
          | none => .complain w ""
          | some name => runCommand w env globals name args
    (globals.wishes, performance)

/-- The log of a performance. -/
def logText (wishes : Log.Channel.Wishes) (terminal : Bool) (p : Performance) : String :=
  (Log.Channel.ofWishes wishes terminal).writeAll (.ofSeconds p.world.clock) p.events

/-- The exit code of a performance. -/
def exitCode (p : Performance) : Nat :=
  match p.ending with
  | .exit code => code
  | .usage _ => 2
  | .escaped _ => 1

end TemplateLookup.Command
