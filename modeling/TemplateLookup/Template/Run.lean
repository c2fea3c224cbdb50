/-
# TemplateLookup.Template.Run -- an engine for a small language of templates

The engine reads a text as a body and turns the body into a script: text is put
together part by part, an embedded template is asked for under its name and then
runs with the variables of the place where it is embedded. The first failure ends
the script. Templates embed each other only down to a certain depth.
-/

import TemplateLookup.Template.Escape
import TemplateLookup.Template.Parser
import TemplateLookup.Template.Value

namespace TemplateLookup.Template

/-! ## Putting scripts together -/

namespace Script

/-- The script that makes a given text. -/
def text (t : Wide) : Script := .finish (.ok t)

/-- The script that fails. -/
def fail (f : Failure) : Script := .finish (.error f)

/-- A script, and what follows from the text it makes. -/
def andThen : Script → (Wide → Script) → Script
  | .finish (.ok t), next => next t
  | .finish (.error f), _ => .fail f
  | .load name answer, next => .load name fun r => (answer r).andThen next

/-- Two scripts, the text of the second behind that of the first. -/
def append (first second : Script) : Script :=
  first.andThen fun t => second.andThen fun more => .text (t ++ more)

/-- Scripts in order. -/
def all (scripts : List Script) : Script := scripts.foldr append (text [])

/-- The script of a result, or its failure. -/
def ofExcept {α : Type} (r : Except Failure α) (next : α → Script) : Script :=
  match r with
  | .error f => fail f
  | .ok a => next a

end Script

/-! ## Bodies -/

/-- A printed value as a template shows it. -/
def shown (escapes : Bool) (v : Value) : Wide :=
  if escapes then escaped v.printed else v.printed

/-- The script of a body. -/
def Body.script (embedded : String → Bindings → Script) (escapes : Bool) :
    Body → Bindings → Script
  | .done, _ => .text []
  | .text s rest, bound =>
    .append (.text (Wide.ofString s)) (script embedded escapes rest bound)
  | .print e rest, bound =>
    .ofExcept (e.value bound) fun v =>
      .append (.text (shown escapes v)) (script embedded escapes rest bound)
  | .branch condition yes no rest, bound =>
    .ofExcept (condition.value bound) fun v =>
      .append
        (if v.isTruthy then script embedded escapes yes bound
          else script embedded escapes no bound)
        (script embedded escapes rest bound)
  | .loop name items each otherwise rest, bound =>
    .ofExcept (items.value bound) fun v =>
      .ofExcept v.items fun vs =>
        .append
          (if vs.isEmpty then script embedded escapes otherwise bound
            else .all (vs.map fun item => script embedded escapes each ((name, item) :: bound)))
          (script embedded escapes rest bound)
  | .embed name rest, bound => .append (embedded name bound) (script embedded escapes rest bound)

/-! ## Whole templates -/

namespace Draft

/-- How deep templates may embed each other. -/
def depthLimit : Nat := 300

/-- The script of a text; `depth` bounds the embedding. -/
def scriptFrom : Nat → Draft → Bindings → Script
  | 0, _, _ => .fail .tooDeep
  | depth + 1, draft, bound =>
    match Body.parse draft.spacing draft.text with
    | .error flaw => .fail (.load (.malformed flaw))
    | .ok body =>
      body.script (fun name inner => .load name fun
        | .error e => .fail (.load e)
        | .ok embedded => scriptFrom depth embedded inner) draft.escapes bound

/-- The variable that stands for the template itself and cannot be given. -/
def reservedVariable : String := "self"

/-- The script of a text for given variables. -/
def script (draft : Draft) (context : Scope) : Script :=
  if (Pairs.keys context).contains reservedVariable then .fail .reserved
  else scriptFrom depthLimit draft (context.map fun (name, d) => (name, .defined d))

/-- What is wrong with a text. -/
def flaw? (draft : Draft) : Option Flaw :=
  match Body.parse draft.spacing draft.text with
  | .error flaw => some flaw
  | .ok _ => none

end Draft

end TemplateLookup.Template
