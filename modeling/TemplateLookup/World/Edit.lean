/-
# TemplateLookup.World.Edit -- changing what is stored

Writing follows links and replaces the whole content; making a directory and
removing concern the last segment itself. A change that is refused at once leaves
the world as it was. A file is emptied, or made, when it is opened for writing,
so one that cannot be written to its end keeps what was written up to there; and
directories made on the way to a file stay.
-/

import TemplateLookup.World.Files

namespace TemplateLookup.World

/-! ## Directories -/

/-- A changed world, and the refusal if the change was not completed. -/
structure Edited where
  world : World
  refusal : Option SystemError
  deriving DecidableEq, Repr, Inhabited

/-- Puts something into a directory, unless that is refused. -/
def putBelow (w : World) (dir : Location) (last : String) (e : Entry) : Except Cause World :=
  match w.withheld? dir .change with
  | some cause => .error cause
  | none => .ok (w.put (dir ++ [last]) e)

/-- Makes one directory. -/
def makeDirectory (w : World) (p : Path) : Except Cause World :=
  match w.place p with
  | .error cause => .error cause
  | .ok (dir, last) =>
    match w.entry? (dir ++ [last]) with
    | some _ => .error .exists
    | none => w.putBelow dir last .directory

/-- What a refusal to make a directory means: nothing, if it is there already. -/
def refusedDirectory (w : World) (p : Path) (cause : Cause) : Edited :=
  match w.look p with
  | .ok (_, .directory) => ⟨w, none⟩
  | _ => ⟨w, some ⟨cause, some p.toString⟩⟩

/-- Makes a directory below one that is there, unless it is there itself. -/
def ensureDirectory (w : World) (p : Path) : Edited :=
  match w.makeDirectory p with
  | .ok made => ⟨made, none⟩
  | .error .missing => ⟨w, some ⟨.missing, some p.toString⟩⟩
  | .error cause => refusedDirectory w p cause

/-- Makes a directory and those above it, unless they are there. `fuel` bounds
the number of directories. -/
def makeDirectoriesFrom : Nat → World → Path → Edited
  | fuel, w, p =>
    match w.makeDirectory p with
    | .ok made => ⟨made, none⟩
    | .error .missing =>
      match fuel with
      | 0 => ⟨w, some ⟨.missing, some p.toString⟩⟩
      | fuel + 1 =>
        let above := makeDirectoriesFrom fuel w p.parent
        match above.refusal with
        | some e => ⟨above.world, some e⟩
        | none => ensureDirectory above.world p
    | .error cause => refusedDirectory w p cause

/-- Makes a directory and those above it, unless they are there. -/
def makeDirectories (w : World) (p : Path) : Edited :=
  makeDirectoriesFrom p.segments.length w p

/-! ## Files -/

/-- The location of the file that opening a path for writing gives. -/
def openToWrite (w : World) (p : Path) : Except SystemError Location :=
  match w.walk p with
  | .arrived loc (.file _ _) =>
    match w.withheld? loc .change with
    | some cause => .error ⟨cause, some p.toString⟩
    | none => .ok loc
  | .vacant loc =>
    if w.entry? loc.dropLast = some .directory then
      match w.withheld? loc.dropLast .change with
      | some cause => .error ⟨cause, some p.toString⟩
      | none => .ok loc
    else .error ⟨.missing, some p.toString⟩
  | .arrived _ .special => .error ⟨.noDevice, some p.toString⟩
  | .arrived _ _ => .error ⟨.isDirectory, some p.toString⟩
  | .refused cause => .error ⟨cause, some p.toString⟩
  | .link _ _ _ => .error ⟨.tooManyLinks, some p.toString⟩

/-- Writes the file at a location anew that was opened by a path: all of a content,
or as much as there is room for. -/
def fill (w : World) (p : Path) (loc : Location) (content : Bytes) (time : FileTime) : Edited :=
  match w.faultAt p with
  | some (.writing room) =>
    if content.length ≤ room then ⟨w.put loc (.file content time), none⟩
    else ⟨w.put loc (.file (content.take room) time), some ⟨.noSpace, none⟩⟩
  | _ => ⟨w.put loc (.file content time), none⟩

/-- Replaces the content and the time of the file at the end of a path. -/
def writeFile (w : World) (p : Path) (content : Bytes) (time : FileTime) : Edited :=
  match w.openToWrite p with
  | .error e => ⟨w, some e⟩
  | .ok loc => w.fill p loc content time

/-- Makes the directories above a path, then replaces the content and the time of
the file there. -/
def placeFile (w : World) (p : Path) (content : Bytes) (time : FileTime) : Edited :=
  let above := w.makeDirectories p.parent
  match above.refusal with
  | some e => ⟨above.world, some e⟩
  | none => above.world.writeFile p content time

/-- Sets the time of the file at the end of a path. -/
def setTime (w : World) (p : Path) (time : FileTime) : Except SystemError World :=
  match w.look p with
  | .ok (loc, .file content _) => .ok (w.put loc (.file content time))
  | .ok _ => .ok w
  | .error cause => .error ⟨cause, some p.toString⟩

/-- The time that a file gets which is written now. -/
def now (w : World) : FileTime := .ofSeconds w.clock

/-! ## Links, removal, the working directory and faults -/

/-- Makes a link, and the directories above it. -/
def makeLink (w : World) (p : Path) (target : String) : Edited :=
  let above := w.makeDirectories p.parent
  match above.refusal with
  | some e => ⟨above.world, some e⟩
  | none =>
    match above.world.place p with
    | .error cause => ⟨above.world, some ⟨cause, some p.toString⟩⟩
    | .ok (dir, last) =>
      match above.world.entry? (dir ++ [last]) with
      | some _ => ⟨above.world, some ⟨.exists, some p.toString⟩⟩
      | none =>
        match above.world.putBelow dir last (.link target) with
        | .error cause => ⟨above.world, some ⟨cause, some p.toString⟩⟩
        | .ok made => ⟨made, none⟩

/-- Removes the file or link that a path names, or a directory with all below it. -/
def removeAt (w : World) (p : Path) : Except SystemError World :=
  match w.place p with
  | .error cause => .error ⟨cause, some p.toString⟩
  | .ok (dir, last) =>
    match w.entry? (dir ++ [last]) with
    | none => .error ⟨.missing, some p.toString⟩
    | some _ =>
      match w.withheld? dir .change with
      | some cause => .error ⟨cause, some p.toString⟩
      | none => .ok (w.remove (dir ++ [last]))

/-- Makes the directory at the end of a path the working directory. -/
def enter (w : World) (p : Path) : Except SystemError World :=
  match w.look p with
  | .ok (loc, .directory) => .ok { w with here := loc }
  | .ok _ => .error ⟨.notDirectory, some p.toString⟩
  | .error cause => .error ⟨cause, some p.toString⟩

/-- Puts a fault in force for a path, or clears it. -/
def setFault (w : World) (p : Path) (fault : Option Fault) : World :=
  let text := (w.absolute p).lexical.toString
  let others := w.faults.filter fun (t, _) => t ≠ text
  match fault with
  | some f => { w with faults := others ++ [(text, f)] }
  | none => { w with faults := others }

end TemplateLookup.World
