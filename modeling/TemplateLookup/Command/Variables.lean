/-
# TemplateLookup.Command.Variables -- template variables on the command line

A variable is written as its name, an equals sign and its value. The name is
not empty and ends at the first equals sign; the value may hold more of them. Of
several values for one name the last counts.
-/

import TemplateLookup.Pairs
import TemplateLookup.Text.Pieces

namespace TemplateLookup.Command

/-- A text that writes no variable. -/
structure BadVariable where
  text : String
  deriving DecidableEq, Repr, Inhabited

/-- The message about a text that writes no variable. -/
def BadVariable.message (e : BadVariable) : String :=
  "Expected key=value, got '" ++ e.text ++ "'"

/-- The name and the value that a text writes. -/
def assignment? (s : String) : Option (String × String) :=
  match Text.cutAt '=' s.toList with
  | none => none
  | some ([], _) => none
  | some (name, value) => some (String.ofList name, String.ofList value)

/-- The variables that texts write, added to those before. -/
def assignmentsFrom (before : List (String × String)) :
    List String → Except BadVariable (List (String × String))
  | [] => .ok before
  | s :: rest =>
    match assignment? s with
    | none => .error ⟨s⟩
    | some (name, value) => assignmentsFrom (Pairs.store name value before) rest

/-- The variables that texts write. -/
def assignments (texts : List String) : Except BadVariable (List (String × String)) :=
  assignmentsFrom [] texts

end TemplateLookup.Command
