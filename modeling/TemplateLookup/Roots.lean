/-
# TemplateLookup.Roots -- the roots of a search, in order

Roots are searched from left to right; duplicates are kept. They are given as a
list of texts, as one text with commas between the roots, or not at all, which
means the top of the file system. Blanks around a root are dropped, so a blank
root is the top of the file system as well.
-/

import TemplateLookup.Candidate
import TemplateLookup.Data.Display
import TemplateLookup.Text.Blank

namespace TemplateLookup

/-- The roots of a search, in order. -/
structure Roots where
  names : List String
  deriving DecidableEq, Repr, Inhabited

/-- Why a value does not say where to search. -/
inductive RootsError where
  | notList (value : Data)
  | notText (value : Data)
  deriving Repr

/-- The message of a value that does not say where to search. -/
def RootsError.message : RootsError → String
  | .notList value => "Template path must be a list or string (got " ++ value.shown ++ ")"
  | .notText value => "Template root must be a string (got " ++ value.shown ++ ")"

namespace Roots

/-! ## Building -/

/-- The search from the top of the file system. -/
def absolute : Roots := ⟨[absoluteRoot]⟩

/-- The roots with the given names, blanks around them dropped. -/
def ofNames (names : List String) : Roots := ⟨names.map Text.trim⟩

/-- The roots in a text with commas between them. -/
def ofText (s : String) : Roots := ofNames (Text.split ',' s)

/-- The names among the items of a list, all of which have to be texts. -/
def namesOf : List Data → Except RootsError (List String)
  | [] => .ok []
  | d :: rest =>
    match d with
    | .text s => (namesOf rest).map (s :: ·)
    | other => .error (.notText other)

/-- The roots that a value gives. -/
def ofData : Data → Except RootsError Roots
  | .null => .ok absolute
  | .text s => .ok (ofText s)
  | .list items => (namesOf items).map ofNames
  | other => .error (.notList other)

/-! ## Looking at them -/

/-- The roots that are directories. -/
def directories (roots : Roots) : List String := roots.names.filter (· ≠ absoluteRoot)

/-- How many roots there are. -/
def size (roots : Roots) : Nat := roots.names.length

/-- The root at a position, counted from the end when it is negative. -/
def get? (roots : Roots) (index : Int) : Option String :=
  let place := if index < 0 then index + roots.size else index
  if place < 0 then none else roots.names[place.toNat]?

/-- The roots as a list of texts. -/
def toData (roots : Roots) : Data := .list (roots.names.map .text)

end Roots

end TemplateLookup
