/-
# TemplateLookup.LookupError -- why a template is not supplied

A caller that only wants to know whether it gets a template treats all of these
alike; the cause stays visible for messages and for auditing. Every cause
carries the name that the failure is about.
-/

namespace TemplateLookup

/-- Why a template is not supplied. -/
inductive LookupError where
  /-- No name was given, or an empty one. -/
  | unnamed (given : Option String)
  /-- The name climbs above the top of the template names. -/
  | climbs (name : String)
  /-- No root holds a readable file at the location. -/
  | notFound (location : String)
  /-- The template cannot be supplied, with a reason of the supplier's own if it gives one. -/
  | absent (name : Option String) (detail : Option String)
  deriving DecidableEq, Repr, Inhabited

namespace LookupError

/-- The name that the failure is about. -/
def name? : LookupError → Option String
  | .unnamed given => given
  | .climbs name => some name
  | .notFound location => some location
  | .absent name _ => name

/-- A missing name is shown as a word. -/
def shownName (name : Option String) : String := name.getD "None"

/-- A detail counts only when it says something. -/
def detailOr (default : String) : Option String → String
  | none => default
  | some detail => if detail = "" then default else detail

/-- The message of a failed look-up. -/
def message : LookupError → String
  | .unnamed _ => "Need to specify a file name or file path"
  | .climbs name =>
    "Template name '" ++ name ++ "' contains '..' and may be trying to access content " ++
      "outside of template root. Rejected."
  | .notFound location => "FileResourceLoader: cannot find " ++ location
  | .absent name detail => detailOr ("Cannot find template: " ++ shownName name) detail

end LookupError

end TemplateLookup
