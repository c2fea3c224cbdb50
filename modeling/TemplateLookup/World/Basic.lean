/-
# TemplateLookup.World.Basic -- files, links and directories

A world is what is stored at each location below the top directory, together
with the working directory and the faults that are in force. Locations are
lists of names; the top directory is the empty list and always there. What is
below a directory is found by location alone, so a link has nothing below it.

A fault is kept under the text of an absolute path. Most faults concern a file
as it is reached by exactly that path. A right that is withheld concerns the
location of that text, by whatever path it is reached.
-/

import TemplateLookup.Codec.Utf8
import TemplateLookup.Pairs
import TemplateLookup.Path
import TemplateLookup.World.FileTime
import TemplateLookup.World.SystemError

namespace TemplateLookup

/-- The names that lead from the top directory to a place. -/
abbrev Location := List String

/-- What is stored at a location. -/
inductive Entry where
  | file (content : Bytes) (time : FileTime)
  | link (target : String)
  | directory
  /-- A pipe, a socket or a device. -/
  | special
  deriving DecidableEq, Repr, Inhabited

/-- What can be withheld at a location. -/
inductive Right where
  /-- Asking what stands at the location. -/
  | status
  /-- Looking up what is below the directory. -/
  | search
  /-- Listing the names below the directory. -/
  | names
  /-- Making and removing what is below the directory, or opening the file to write. -/
  | change
  deriving DecidableEq, Repr, Inhabited

/-- How what stands at a path fails. -/
inductive Fault where
  /-- The file is not readable. -/
  | access
  /-- The file is readable, but cannot be opened. -/
  | opening
  /-- The file can be opened, but its time cannot be read then. -/
  | openedTime
  /-- The time cannot be read from the path. -/
  | pathTime
  /-- The file can be opened, but not read. -/
  | reading
  /-- Writing ends after so many bytes. -/
  | writing (room : Nat)
  /-- The right is refused at the location. -/
  | withheld (right : Right) (cause : Cause)
  deriving DecidableEq, Repr, Inhabited

/-- What is stored, where one stands in it, and what fails. -/
structure World where
  entries : List (Location × Entry)
  here : Location
  /-- The text of an absolute path, and how what stands there fails. -/
  faults : List (String × Fault)
  /-- The present moment, in seconds since the epoch. -/
  clock : Int
  deriving DecidableEq, Repr, Inhabited

namespace World

/-! ## Storage -/

/-- What is stored at a location. -/
def entry? (w : World) (loc : Location) : Option Entry :=
  if loc = [] then some .directory else Pairs.fetch loc w.entries

/-- The world with an entry at a location. -/
def put (w : World) (loc : Location) (e : Entry) : World :=
  { w with entries := Pairs.store loc e w.entries }

/-- Whether a location is another one or below it. -/
def isAtOrBelow (loc place : Location) : Bool := loc.isPrefixOf place

/-- The world without a location and what is below it. -/
def remove (w : World) (loc : Location) : World :=
  { w with entries := w.entries.filter fun (place, _) => !isAtOrBelow loc place }

/-! ## Rights -/

/-- The text of the path that leads straight to a location. -/
def textOf (loc : Location) : String := (Path.mk .root loc).toString

/-- The cause for which a right is refused at a location, if it is. A cause that only
means that nothing is there refuses nothing. -/
def withheld? (w : World) (loc : Location) (right : Right) : Option Cause :=
  w.faults.findSome? fun
    | (text, .withheld r cause) =>
      if text = textOf loc ∧ r = right ∧ cause.isAbsence = false then some cause else none
    | _ => none

/-- A world with nothing in it but the working directory. -/
def empty (here : Location) : World :=
  { entries := if here = [] then [] else [(here, .directory)]
    here := here
    faults := []
    clock := 1700000000 }

end World

end TemplateLookup
