/-
# TemplateLookup.Main -- the command line on real files

The command itself is a function of a world. What is done here is to copy the
files that it can look at into a world, to run it there, and to carry out what
changed. Copied are the places that the arguments name, the places of the
configuration, every root with all below it, and what the roots offer for the
arguments. A root that stands for the top of the file system is not copied; of
it the world knows what the arguments name, and what lies beside that.
-/

import Std.Time.DateTime.Timestamp
import TemplateLookup.Command.Line
import TemplateLookup.Standard

namespace TemplateLookup.Surroundings

/-! ## Copying files into a world -/

/-- How many directories below each other are copied. -/
def depthLimit : Nat := 40

/-- The location that an absolute text names. -/
def locationOf (text : String) : Location := (Path.ofString text).lexical.segments

/-- The locations above a location and itself, the highest first. -/
def chain (loc : Location) : List Location :=
  (List.range loc.length).map fun n => loc.take (n + 1)

/-- The world with a fault at a location. -/
def withFault (w : World) (loc : Location) (fault : Fault) : World :=
  { w with faults := w.faults ++ [(World.textOf loc, fault)] }

/-- The world in which a right is withheld at a location because of an error; where
there is nothing, nothing is withheld. -/
def withRefusal (w : World) (loc : Location) (right : Right) : IO.Error → World
  | .permissionDenied _ _ _ => withFault w loc (.withheld right .denied)
  | .hardwareFault _ _ => withFault w loc (.withheld right .inputOutput)
  | _ => w

/-- Copies the file at a location; one that cannot be read is copied empty. -/
def copyFile (w : World) (loc : Location) : IO World := do
  let path := (← IO.currentDir) / World.textOf loc
  let changed := (← path.metadata).modified
  let time : FileTime := ⟨changed.sec, changed.nsec.toNat⟩
  try
    let content ← IO.FS.readBinFile path
    return w.put loc (.file content.toList time)
  catch _ => return withFault (w.put loc (.file [] time)) loc .access

/-- Copies what is stored at a location, and gives the place where a link leads. -/
def copyEntry (w : World) (loc : Location) : IO (World × Option Location) := do
  if (w.entry? loc).isSome then return (w, none)
  let path := (← IO.currentDir) / World.textOf loc
  try
    match (← path.symlinkMetadata).type with
    | .dir => return (w.put loc .directory, none)
    | .symlink =>
      let target ← try pure (← IO.FS.realPath path).toString catch _ => pure (World.textOf loc)
      return (w.put loc (.link target), some (locationOf target))
    | .other => return (w.put loc .special, none)
    | .file => return (← copyFile w loc, none)
  catch e => return (withRefusal w loc.dropLast .search e, none)

/-- Copies what is stored at some locations. -/
def copyAll (w : World) (locs : List Location) : IO (World × List Location) :=
  locs.foldlM (fun (held, targets) loc => do
    let (next, target) ← copyEntry held loc
    return (next, targets ++ target.toList)) (w, [])

/-- Copies what is stored at a location and above it, links included. -/
def copyPlace (w : World) (loc : Location) : IO World := do
  let (held, targets) ← copyAll w (chain loc)
  return (← copyAll held (targets.flatMap chain)).1

/-- Copies a directory with all below it; `depth` bounds how far. -/
def copyTree : Nat → World → Location → IO World
  | 0, w, _ => return w
  | depth + 1, w, loc => do
    let held ← copyPlace w loc
    match held.look ⟨.root, loc⟩ with
    | .ok (_, .directory) =>
      try
        let found ← ((← IO.currentDir) / World.textOf loc).readDir
        found.toList.foldlM (fun next e => copyTree depth next (loc ++ [e.fileName])) held
      catch e => return withRefusal held loc .names e
    | _ => return held

/-! ## What a command line can look at -/

/-- The location of a text that is read from the working directory. -/
def placed (w : World) (text : String) : Location :=
  (w.absolute (Path.ofString text)).lexical.segments

/-- Copies the places of the configuration and those that arguments name. -/
def copyNamed (w : World) (args : List String) : IO World :=
  let named := args.map (placed w)
  let settings := (Settings.places (Settings.workingDirectory w)).map fun p => p.segments
  ((w.here :: settings) ++ named).foldlM copyPlace w

/-- The settings of a command line, and the variables they refer to; `fuel`
bounds how many variables are asked for. -/
def settingsOf (w : World) (given : Option Path) :
    Nat → Environment → IO (Environment × Settings)
  | 0, env => return (env, .default)
  | fuel + 1, env =>
    match Settings.load w env given true with
    | .ok settings => return (env, settings)
    | .error (.settings (.unset e)) => do
      match ← IO.getEnv e.name with
      | some value => settingsOf w given fuel (env ++ [(e.name, value)])
      | none => return (env, .default)
    | .error _ => return (env, .default)

/-- Copies what a root offers. -/
def copyRoot (args : List String) (w : World) (root : String) : IO World := do
  let offered := args.map fun arg => (w.absolute (candidate root arg)).lexical.segments
  let held ← offered.foldlM copyPlace w
  if root = absoluteRoot then
    (offered.map List.dropLast).foldlM (copyTree 1) held
  else copyTree depthLimit held (placed w root)

/-- The world that a command line can look at, and the variables it refers to. -/
def gather (args : List String) : IO (World × Environment) := do
  let here := locationOf (← IO.currentDir).toString
  let clock := (← Std.Time.Timestamp.now).toSecondsSinceUnixEpoch.val
  let w ← copyNamed { World.empty here with entries := [], clock := clock } args
  let globals := (Command.globals? args).map Prod.fst
  let given := (globals.bind Command.Globals.config).map Path.ofString
  let (env, settings) ← settingsOf w given 100 []
  let used := Command.withPaths settings ((globals.map Command.Globals.paths).getD [])
  return (← used.path.names.foldlM (copyRoot args) w, env)

/-! ## Carrying out changes -/

/-- Stores one entry where it is not stored yet. -/
def carryOut (before : World) (changed : Location × Entry) : IO Unit := do
  let (loc, entry) := changed
  if before.entry? loc ≠ some entry then
    match entry with
    | .directory => IO.FS.createDirAll (World.textOf loc)
    | .file content _ => IO.FS.writeBinFile (World.textOf loc) ⟨content.toArray⟩
    | .link _ => return
    | .special => return

/-- The last words of a command that ended without an exit code of its own. -/
def lastWords : Command.Ending → String
  | .exit _ => ""
  | .usage "" => "Usage: temploc [OPTIONS] COMMAND [ARGS]...\n"
  | .usage message => "Error: " ++ message ++ "\n"
  | .escaped (.system e) => e.message ++ "\n"
  | .escaped (.registry e) => e.message ++ "\n"
  | .escaped (.rendering e) => e.message ++ "\n"

/-- Carries out a performance: changes, output, log. -/
def conclude (before : World) (wishes : Log.Channel.Wishes) (p : Command.Performance) :
    IO UInt32 := do
  p.world.entries.forM (carryOut before)
  let out ← IO.getStdout
  out.write ⟨p.output.toArray⟩
  out.flush
  let err ← IO.getStderr
  err.putStr (Command.logText wishes (← err.isTty) p ++ lastWords p.ending)
  return (Command.exitCode p).toUInt32

end TemplateLookup.Surroundings

open TemplateLookup in
/-- Looks templates up, checks and renders them, as the arguments say. -/
def main (args : List String) : IO UInt32 := do
  let (w, env) ← Surroundings.gather args
  let (wishes, performance) := Command.run w env args
  Surroundings.conclude w wishes performance
