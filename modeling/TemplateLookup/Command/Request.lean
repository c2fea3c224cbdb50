/-
# TemplateLookup.Command.Request -- what a command line asks for

A command line has options for all commands, the name of a command, and the
options and arguments of that command. There are five commands: `roots` lists
the roots, `resolve` finds a template, `check` tells whether a template changed
since a time, `render` renders one, and `init` writes a configuration. How all this is
written on a line belongs to the reader of arguments; one reader that follows the
usual rules is given here.
-/

import TemplateLookup.Command.Arguments
import TemplateLookup.Log.Channel
import TemplateLookup.Number.Reading

namespace TemplateLookup.Command

/-! ## For all commands -/

/-- The options for all commands. -/
inductive GlobalKey where
  | config
  | path
  | verbose
  | quiet
  | ci
  | version
  deriving DecidableEq, Repr

/-- The names of the options for all commands. -/
def globalRules : List (OptionRule GlobalKey) :=
  [⟨.config, "config", some 'c', true⟩, ⟨.path, "path", some 'p', true⟩,
   ⟨.verbose, "verbose", some 'v', false⟩, ⟨.quiet, "quiet", some 'q', false⟩,
   ⟨.ci, "ci", none, false⟩, ⟨.version, "version", none, false⟩]

/-- What is asked for whatever the command is. -/
structure Globals where
  /-- The configuration file. -/
  config : Option String
  /-- The roots, which count more than those of the configuration. -/
  paths : List String
  wishes : Log.Channel.Wishes
  /-- Only the version is asked for. -/
  version : Bool
  deriving DecidableEq, Repr

/-- The options for all commands by the usual rules, and the arguments from the
command on. -/
def globals? (args : List String) : Option (Globals × List String) :=
  (Arguments.read? globalRules false args).map fun a =>
    (⟨a.value? .config, a.values .path, ⟨a.has .verbose, a.has .quiet, a.has .ci⟩,
      a.has .version⟩, a.positional)

/-! ## Single commands -/

/-- The commands by name. -/
inductive Name where
  | roots
  | resolve
  | check
  | render
  | init
  deriving DecidableEq, Repr

/-- The command of a name. -/
def Name.ofString? : String → Option Name
  | "roots" => some .roots
  | "resolve" => some .resolve
  | "check" => some .check
  | "render" => some .render
  | "init" => some .init
  | _ => none

/-- The options of single commands. -/
inductive Key where
  | json
  | showing
  | since
  | var
  | output
  | force
  deriving DecidableEq, Repr

/-- The names of the options of a command. -/
def Name.rules : Name → List (OptionRule Key)
  | .roots => []
  | .resolve => [⟨.json, "json", none, false⟩, ⟨.showing, "show", none, false⟩]
  | .check => [⟨.since, "since", some 's', true⟩, ⟨.json, "json", none, false⟩]
  | .render => [⟨.var, "var", none, true⟩, ⟨.output, "output", some 'o', true⟩]
  | .init => [⟨.force, "force", none, false⟩]

/-- A command with all it needs. -/
inductive Request where
  | roots
  | resolve (name : String) (json showing : Bool)
  | check (name : String) (since : Number.Binary64) (json : Bool)
  | render (name : String) (vars : List String) (output : Option String)
  | init (force : Bool)
  deriving DecidableEq, Repr

/-- The request that the arguments of a command make. -/
def Request.ofArguments? (name : Name) (a : Arguments Key) : Option Request :=
  match name, a.positional with
  | .roots, [] => some .roots
  | .resolve, [template] => some (.resolve template (a.has .json) (a.has .showing))
  | .check, [template] =>
    ((a.value? .since).bind Number.read?).map fun since => .check template since (a.has .json)
  | .render, [template] => some (.render template (a.values .var) (a.value? .output))
  | .init, [] => some (.init (a.has .force))
  | _, _ => none

/-- The request of a command by the usual rules. -/
def Request.ofArgs? (name : Name) (args : List String) : Option Request :=
  (Arguments.read? name.rules true args).bind (Request.ofArguments? name)

/-! ## Readers of arguments -/

/-- A reader of arguments. It gives nothing for arguments that are wrong. -/
class ArgumentReader where
  /-- The options for all commands, and the arguments from the command on. -/
  globals? : List String → Option (Globals × List String)
  /-- What the arguments of a command ask for. -/
  request? : Name → List String → Option Request

end TemplateLookup.Command
