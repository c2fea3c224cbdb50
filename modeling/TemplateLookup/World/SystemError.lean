/-
# TemplateLookup.World.SystemError -- why the file system refuses

Each cause has the number and the wording that messages give it. A message
names the path that was asked for, in quotes, when there was one.
-/

import TemplateLookup.Text.Quoted

namespace TemplateLookup

/-- Why the file system refuses. -/
inductive Cause where
  | missing
  | inputOutput
  /-- What stands there is nothing that can be opened. -/
  | noDevice
  | denied
  | exists
  | notDirectory
  | isDirectory
  | noSpace
  | nameTooLong
  | tooManyLinks
  /-- The path holds the character that ends paths. -/
  | unnameable
  deriving DecidableEq, Repr, Inhabited

/-- The number of a cause. -/
def Cause.number : Cause → Nat
  | .missing => 2
  | .inputOutput => 5
  | .noDevice => 6
  | .denied => 13
  | .exists => 17
  | .notDirectory => 20
  | .isDirectory => 21
  | .noSpace => 28
  | .nameTooLong => 36
  | .tooManyLinks => 40
  | .unnameable => 22

/-- The wording of a cause. -/
def Cause.wording : Cause → String
  | .missing => "No such file or directory"
  | .inputOutput => "Input/output error"
  | .noDevice => "No such device or address"
  | .denied => "Permission denied"
  | .exists => "File exists"
  | .notDirectory => "Not a directory"
  | .isDirectory => "Is a directory"
  | .noSpace => "No space left on device"
  | .nameTooLong => "File name too long"
  | .tooManyLinks => "Too many levels of symbolic links"
  | .unnameable => "embedded null byte"

/-- Whether a cause only means that nothing is there; a question whether something
is there is answered by no for these, and refused for all others. -/
def Cause.isAbsence : Cause → Bool
  | .missing => true
  | .notDirectory => true
  | .tooManyLinks => true
  | .unnameable => true
  | _ => false

/-- A refusal, with the path that was asked for. -/
structure SystemError where
  cause : Cause
  path : Option String
  deriving DecidableEq, Repr, Inhabited

/-- The message of a refusal. -/
def SystemError.message (e : SystemError) : String :=
  if e.cause = .unnameable then e.cause.wording
  else "[Errno " ++ toString e.cause.number ++ "] " ++ e.cause.wording ++
    (match e.path with | some p => ": " ++ Text.quoted p | none => "")

end TemplateLookup
