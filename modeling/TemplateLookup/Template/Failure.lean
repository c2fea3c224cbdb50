/-
# TemplateLookup.Template.Failure -- why a template cannot be loaded or run

Loading fails when nothing supplies the name, when the bytes cannot be read or are
no text in the encoding, or when the text is no template. Running fails with a
message of its own, or because a template cannot be loaded that it asks for.
-/

import TemplateLookup.Encodings
import TemplateLookup.Template.Flaw
import TemplateLookup.World.SystemError

namespace TemplateLookup.Template

/-- Why a template is not loaded. -/
inductive LoadError where
  /-- Nothing supplies the name. -/
  | missing (name : Option String)
  | decoding (e : DecodeFailure)
  | malformed (flaw : Flaw)
  | system (e : SystemError)
  deriving DecidableEq, Repr, Inhabited

/-- The message of a template that is not loaded. -/
def LoadError.message : LoadError → String
  | .missing name => name.getD "None"
  | .decoding e => e.message
  | .malformed flaw => flaw.message
  | .system e => e.message

/-- Why a template cannot be run. -/
inductive Failure where
  | load (e : LoadError)
  | raised (message : String)
  deriving DecidableEq, Repr, Inhabited

/-- The message of a template that cannot be run. -/
def Failure.message : Failure → String
  | .load e => e.message
  | .raised message => message

namespace Failure

/-! ## What values cannot do -/

def divisionByZero (real : Bool) : Failure :=
  .raised (if real then "float division by zero" else "division by zero")

/-- Values of these kinds have no quotient. -/
def noQuotient (left right : String) : Failure :=
  .raised ("unsupported operand type(s) for /: '" ++ left ++ "' and '" ++ right ++ "'")

/-- The quotient of integers is too large. -/
def quotientTooLarge : Failure := .raised "integer division result too large for a float"

/-- An integer is too large to become a floating-point number. -/
def tooLarge : Failure := .raised "int too large to convert to float"

def notIterable (kind : String) : Failure := .raised ("'" ++ kind ++ "' object is not iterable")

def undefined (name : String) : Failure := .raised ("'" ++ name ++ "' is undefined")

/-! ## What templates cannot do -/

/-- A variable has the name that stands for the template itself. -/
def reserved : Failure := .raised "Template.render() got multiple values for argument 'self'"

/-- Templates embed each other too deeply. -/
def tooDeep : Failure := .raised "maximum recursion depth exceeded"

end Failure

end TemplateLookup.Template
