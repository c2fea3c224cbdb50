/-
# TemplateLookup.Environment -- references to variables

A reference is `${`, at least one character, and the next `}`. It is replaced by
the value of the variable named inside. The text is gone through once from left
to right and what was put in is not looked at again, so a value that looks like
a reference stays as it is. In a document every text is treated so, but not the
keys of mappings.
-/

import TemplateLookup.Data.Basic
import TemplateLookup.Pairs
import TemplateLookup.Text.Pieces

namespace TemplateLookup

/-- The variables and their values. -/
abbrev Environment := List (String × String)

namespace Environment

/-- A reference to a variable that is not set. -/
structure Unset where
  name : String
  deriving DecidableEq, Repr, Inhabited

/-- The message about a variable that is not set. -/
def Unset.message (e : Unset) : String := "Environment variable not set: " ++ e.name

/-- The value of a variable. -/
def value (env : Environment) (name : String) : Except Unset String :=
  match Pairs.fetch name env with
  | some v => .ok v
  | none => .error ⟨name⟩

/-- The name in a reference and what follows it, for a text after its `${`. -/
def reference? (cs : List Char) : Option (List Char × List Char) :=
  match Text.cutAt '}' cs with
  | some ([], _) => none
  | found => found

/-- A text with its references replaced; `fuel` bounds its length. -/
def scan (env : Environment) : Nat → List Char → Except Unset (List Char)
  | 0, _ => .ok []
  | _ + 1, [] => .ok []
  | fuel + 1, '$' :: '{' :: rest =>
    match reference? rest with
    | some (name, after) => do
      let v ← env.value (String.ofList name)
      let more ← scan env fuel after
      .ok (v.toList ++ more)
    | none => (scan env fuel ('{' :: rest)).map ('$' :: ·)
  | fuel + 1, c :: rest => (scan env fuel rest).map (c :: ·)

/-- A text with its references replaced. -/
def expandText (env : Environment) (s : String) : Except Unset String :=
  (scan env s.toList.length s.toList).map String.ofList

mutual

/-- A document with the references in its texts replaced. -/
def expand (env : Environment) : Data → Except Unset Data
  | .text s => (env.expandText s).map .text
  | .scalar s => .ok (.scalar s)
  | .list items => (expandItems env items).map .list
  | .mapping entries => (expandEntries env entries).map .mapping

def expandItems (env : Environment) : List Data → Except Unset (List Data)
  | [] => .ok []
  | d :: rest => do
    let e ← expand env d
    let es ← expandItems env rest
    .ok (e :: es)

def expandEntries (env : Environment) :
    List (Scalar × Data) → Except Unset (List (Scalar × Data))
  | [] => .ok []
  | (key, d) :: rest => do
    let e ← expand env d
    let es ← expandEntries env rest
    .ok ((key, e) :: es)

end

end Environment

end TemplateLookup
