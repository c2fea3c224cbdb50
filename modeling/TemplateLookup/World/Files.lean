/-
# TemplateLookup.World.Files -- questions about single files

What a look-up asks about a path: is there a file, may it be read, does
something exist there, what does opening it give, when was it changed. A fault
concerns exactly the path whose absolute text it names; it is looked at only by
the questions that the fault is about, so a file that cannot be opened still
exists and counts as readable.
-/

import TemplateLookup.World.Resolve

namespace TemplateLookup.World

/-- The fault in force for a path. -/
def faultAt (w : World) (p : Path) : Option Fault :=
  Pairs.fetch (w.absolute p).toString w.faults

/-- The file at the end of a path. -/
def fileAt? (w : World) (p : Path) : Option (Bytes × FileTime) :=
  match w.look p with
  | .ok (_, .file content time) => some (content, time)
  | _ => none

/-- Whether a path leads to a file. -/
def isFile (w : World) (p : Path) : Bool := (w.fileAt? p).isSome

/-- What a stopped walk means for a question whether something is there. -/
def absence (p : Path) (cause : Cause) : Except SystemError Bool :=
  if cause.isAbsence then .ok false else .error ⟨cause, some p.toString⟩

/-- Whether a path leads to a directory. -/
def isDirectory (w : World) (p : Path) : Except SystemError Bool :=
  match w.look p with
  | .ok (_, .directory) => .ok true
  | .ok _ => .ok false
  | .error cause => absence p cause

/-- Whether a path leads to anything. -/
def exists? (w : World) (p : Path) : Except SystemError Bool :=
  match w.look p with
  | .ok _ => .ok true
  | .error cause => absence p cause

/-- Whether a path leads to a file that may be read. -/
def isReadable (w : World) (p : Path) : Bool :=
  w.isFile p && w.faultAt p ≠ some .access

/-- The time stamp of the file at the end of a path, if it can be read. -/
def stampAt? (w : World) (p : Path) : Option Number.Binary64 :=
  if w.faultAt p = some .pathTime then none
  else (w.fileAt? p).map fun (_, time) => time.stamp

/-- What the file at the end of a path holds when it is opened. -/
def contentAt (w : World) (p : Path) : Except SystemError Bytes :=
  match w.look p with
  | .ok (_, .file content _) => .ok content
  | .ok (_, .directory) => .error ⟨.isDirectory, some p.toString⟩
  | .ok _ => .error ⟨.noDevice, some p.toString⟩
  | .error cause => .error ⟨cause, some p.toString⟩

/-- What reading an open file gives that holds a content. -/
def readOpened (w : World) (p : Path) (content : Bytes) : Except SystemError Bytes :=
  if w.faultAt p = some .reading then .error ⟨.inputOutput, none⟩ else .ok content

/-- What opening and reading the file at the end of a path gives. -/
def readAt (w : World) (p : Path) : Except SystemError Bytes :=
  match w.contentAt p with
  | .error e => .error e
  | .ok content => w.readOpened p content

/-- What a file holds that is opened for a look-up. -/
def openedContent (w : World) (p : Path) : Except SystemError Bytes :=
  if w.faultAt p = some .opening then .error ⟨.denied, some p.toString⟩ else w.contentAt p

/-- The time stamp of a file that is open. -/
def openedStamp (w : World) (p : Path) : Except SystemError Number.Binary64 :=
  if w.faultAt p = some .openedTime then .error ⟨.inputOutput, none⟩
  else match w.fileAt? p with
    | some (_, time) => .ok time.stamp
    | none => .error ⟨.missing, some p.toString⟩

end TemplateLookup.World
