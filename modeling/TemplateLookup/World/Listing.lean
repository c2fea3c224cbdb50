/-
# TemplateLookup.World.Listing -- the files below a directory

A listing goes through a directory and all directories below it. It names
everything that is no directory, links to directories excepted, each by the names
that lead to it from the directory; links to directories are neither named nor
entered. Each directory is opened by a text that grows on the way down. A
directory that cannot be opened, or whose names cannot be listed, is passed over
in silence with all that is below it.
-/

import TemplateLookup.World.Files

namespace TemplateLookup.World

/-- Whether an entry at a location is named in listings. -/
def isListed (w : World) (loc : Location) : Entry → Bool
  | .file _ _ => true
  | .special => true
  | .directory => false
  | .link _ =>
    match w.look ⟨.root, loc⟩ with
    | .ok (_, .directory) => false
    | _ => true

/-- The text by which a listing opens a directory: the text of the path where it
began, and the names that lead on from there. -/
def openingText (top : Path) (names : List String) : String :=
  if names = [] then top.toString
  else if top.anchor ≠ .here ∧ top.segments = [] then
    top.toString ++ Text.joinWith "/" names
  else top.toString ++ "/" ++ Text.joinWith "/" names

/-- Whether the names below a directory can be listed, and those of every directory
on the way from there along some names. -/
def isOpenAlong (w : World) : Location → List String → Bool
  | dir, [] => w.withheld? dir .names = none
  | dir, s :: rest =>
    w.withheld? dir .names = none && w.barrier? dir s = none && isOpenAlong w (dir ++ [s]) rest

/-- Whether a listing that began at a path, in a directory, gets into a directory
below. -/
def enters (w : World) (top : Path) (dir : Location) (names : List String) : Bool :=
  (openingText top names).utf8ByteSize < pathLimit && w.isOpenAlong dir names

/-- What is listed below a location to which a path leads, each by its names from
there. -/
def filesBelow (w : World) (top : Path) (dir : Location) : List (List String) :=
  let below := (w.entries.filter fun (loc, e) =>
    dir.isPrefixOf loc && dir.length < loc.length && w.isListed loc e).map
      fun (loc, _) => loc.drop dir.length
  below.filter fun names => w.enters top dir names.dropLast

end TemplateLookup.World
