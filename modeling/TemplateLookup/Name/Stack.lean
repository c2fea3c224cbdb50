/-
# TemplateLookup.Name.Stack -- names as a walk through directories

The same normal form, described by a walk instead of by shortening. The pieces
between slashes are followed from left to right over a stack of segments: an
empty piece or `.` stays, `..` goes back, any other piece goes down. Going back
from the top has no result. The walk ends in a directory, written with a
trailing slash, when its last piece stayed or went back.
-/

import TemplateLookup.Name.Normal

namespace TemplateLookup.Name

/-- One piece of the walk; the stack is kept with its top first. -/
def follow (stack : List (List Char)) (piece : List Char) : Option (List (List Char)) :=
  if piece = [] ∨ piece = ['.'] then some stack
  else if piece = ['.', '.'] then
    match stack with
    | [] => none
    | _ :: below => some below
  else some (piece :: stack)

/-- The stack after a list of pieces. -/
def walk (ps : List (List Char)) : Option (List (List Char)) := ps.foldlM follow []

/-- Whether a piece leaves the walk in a directory. -/
def staysInDirectory (piece : List Char) : Bool :=
  piece = [] || piece = ['.'] || piece = ['.', '.']

/-- The text of a walk that ended: a slash, the segments, and a slash at the end
when there are segments and the last piece named a directory. -/
def written (ps : List (List Char)) (stack : List (List Char)) : List Char :=
  '/' :: Text.unite '/' stack.reverse ++
    (if stack ≠ [] ∧ staysInDirectory (ps.getLastD []) then ['/'] else [])

/-- The result of the walk through a name. -/
def walked (cs : List Char) : Option (List Char) :=
  let ps := Text.pieces '/' (forward cs)
  (walk ps).map (written ps)

end TemplateLookup.Name
