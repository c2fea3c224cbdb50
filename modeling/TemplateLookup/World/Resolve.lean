/-
# TemplateLookup.World.Resolve -- from a path to what is stored there

A path is followed segment by segment. `..` goes to the directory above, a link
sends the walk on to its target, and everything but the last segment has to be
a directory. Names of more than 255 bytes are refused where they are looked up,
and so is what lies behind a withheld right; texts of 4096 bytes or more are
refused before anything is looked up, and a walk that meets its forty-first link
is given up.
-/

import TemplateLookup.World.Basic

namespace TemplateLookup.World

/-! ## The walk -/

/-- How a walk ends, or which link interrupts it. -/
inductive Walk where
  | arrived (loc : Location) (e : Entry)
  /-- Only the last segment is missing. -/
  | vacant (loc : Location)
  | refused (cause : Cause)
  | link (directory : Location) (target : String) (rest : List String)
  deriving DecidableEq, Repr

/-- The longest name, in bytes. -/
def longestName : Nat := 255

/-- The first length, in bytes, that is too much for the text of a path. -/
def pathLimit : Nat := 4096

/-- How many links a walk may follow. -/
def linkLimit : Nat := 40

/-- Whether a segment leaves the walk where it is. -/
def stays (segment : String) : Bool := segment = "" || segment = "."

/-- Why a name cannot be looked up in a directory, if it cannot. -/
def nameBarrier? (w : World) (dir : Location) (s : String) : Option Cause :=
  if longestName < s.utf8ByteSize then some .nameTooLong
  else w.withheld? (dir ++ [s]) .status

/-- Why a segment cannot be followed from a directory, if it cannot. -/
def barrier? (w : World) (dir : Location) (s : String) : Option Cause :=
  if s = "" then none
  else match w.withheld? dir .search with
    | some cause => some cause
    | none => if s = "." ∨ s = ".." then none else w.nameBarrier? dir s

/-- Follows segments from a directory up to the first link. -/
def descend (w : World) : Location → List String → Walk
  | dir, [] => .arrived dir .directory
  | dir, s :: rest =>
    match w.barrier? dir s with
    | some cause => .refused cause
    | none =>
      if stays s then descend w dir rest
      else if s = ".." then descend w dir.dropLast rest
      else match w.entry? (dir ++ [s]) with
        | none => if rest = [] then .vacant (dir ++ [s]) else .refused .missing
        | some .directory => descend w (dir ++ [s]) rest
        | some (.link target) => .link dir target rest
        | some e => if rest = [] then .arrived (dir ++ [s]) e else .refused .notDirectory

/-- The segments of a link's target, and the directory they start from. -/
def targetFrom (dir : Location) (target : String) : Location × List String :=
  let segments := Text.split '/' target
  if target.toList.head? = some '/' then ([], segments) else (dir, segments)

/-- Follows segments and links. -/
def chase (w : World) : Nat → Location → List String → Walk
  | links, dir, segments =>
    match w.descend dir segments with
    | .link holder target rest =>
      match links with
      | 0 => .refused .tooManyLinks
      | links + 1 =>
        let (start, more) := targetFrom holder target
        chase w links start (more ++ rest)
    | ended => ended

/-- Where the walk along a path starts. -/
def startOf (w : World) (p : Path) : Location := if p.isAbsolute then [] else w.here

/-- Whether a path can be given to the file system at all. -/
def refusal? (p : Path) : Option Cause :=
  if p.segments.any fun s => s.toList.contains '\x00' then some .unnameable
  else if pathLimit ≤ p.toString.utf8ByteSize then some .nameTooLong
  else none

/-- The walk along a path, links included. -/
def walk (w : World) (p : Path) : Walk :=
  match refusal? p with
  | some cause => .refused cause
  | none => w.chase linkLimit (w.startOf p) p.segments

/-- What is stored at the end of a path. -/
def look (w : World) (p : Path) : Except Cause (Location × Entry) :=
  match w.walk p with
  | .arrived loc e => .ok (loc, e)
  | .vacant _ => .error .missing
  | .refused cause => .error cause
  | .link _ _ _ => .error .tooManyLinks

/-! ## Places for the last segment

What creates or removes an entry looks at the last segment without following
it. -/

/-- The directory that holds the last segment of a path, and that segment. -/
def place (w : World) (p : Path) : Except Cause (Location × String) :=
  match refusal? p with
  | some cause => .error cause
  | none =>
    match p.segments.getLast? with
    | none => .error .exists
    | some last =>
      match w.chase linkLimit (w.startOf p) p.segments.dropLast with
      | .arrived dir .directory =>
        if last = ".." then .error .exists
        -- the working directory may have been removed
        else if w.entry? dir ≠ some .directory then .error .missing
        else match w.barrier? dir last with
          | some cause => .error cause
          | none => .ok (dir, last)
      | .arrived _ _ => .error .notDirectory
      | .vacant _ => .error .missing
      | .refused cause => .error cause
      | .link _ _ _ => .error .tooManyLinks

/-! ## Absolute texts -/

/-- A relative path read from the working directory. -/
def absolute (w : World) (p : Path) : Path :=
  if p.isAbsolute then p else ⟨.root, w.here ++ p.segments⟩

/-- The path with every link on it resolved. What does not exist is kept as it
is written, except that `..` still goes back. -/
def resolved (w : World) (p : Path) : Path :=
  go [] (w.absolute p).segments
where
  go : Location → List String → Path
    | dir, [] => ⟨.root, dir⟩
    | dir, s :: rest =>
      match w.chase linkLimit dir [s] with
      | .arrived loc .directory => go loc rest
      | .arrived loc _ => (Path.mk .root (loc ++ rest)).lexical
      | .vacant loc => (Path.mk .root (loc ++ rest)).lexical
      | _ => (Path.mk .root (dir ++ s :: rest)).lexical

end TemplateLookup.World
