/-
# TemplateLookup.Template.Engine -- what makes text of templates

The language of templates belongs to an engine, of which only this is known. It is
given the name of a template, its decoded text and how it is to be treated, and
either finds a flaw or has a template. To make text of it for given variables it
works by itself, except that it may ask for templates of other names. What it asks
for next, and what comes out in the end, may depend on all it was given so far and
on nothing else. So the work of an engine is a tree: at a leaf there is the text or
a failure, at every other place a name that is asked for, and below it what follows
for each answer.
-/

import TemplateLookup.Data.Basic
import TemplateLookup.Template.Failure
import TemplateLookup.Text.Wide

namespace TemplateLookup.Template

/-- What happens to white space beside tags, and at the end of the text. -/
structure Spacing where
  /-- The line feed behind a tag is dropped. -/
  trimBlocks : Bool
  /-- Blanks between the start of a line and a tag are dropped. -/
  lstripBlocks : Bool
  /-- The line feed at the end of the text stays. -/
  keepTrailingNewline : Bool
  deriving DecidableEq, Repr, Inhabited

/-- A text that is to be a template, and how it is treated. -/
structure Draft where
  name : String
  text : String
  spacing : Spacing
  /-- Whether printed values are escaped. -/
  escapes : Bool
  deriving DecidableEq, Repr, Inhabited

/-- The variables and their values. -/
abbrev Scope := List (String × Data)

/-! ## The work of an engine -/

/-- What an engine does for one text. -/
inductive Script where
  | finish (result : Except Failure Wide)
  /-- Asks for the template of a name and goes on with the answer. -/
  | load (name : String) (next : Except LoadError Draft → Script)

/-- The result of a script when every name is answered by an offer, which may change
a state that is handed along. -/
def Script.run {σ : Type} (offer : String → σ → Except LoadError Draft × σ) :
    Script → σ → Except Failure Wide × σ
  | .finish result, st => (result, st)
  | .load name next, st => (next (offer name st).1).run offer (offer name st).2

/-- An engine. -/
class Engine where
  /-- Why a text is no template, if it is none. -/
  flaw? : Draft → Option Flaw
  /-- What is done to make text of a template for given variables. -/
  script : Draft → Scope → Script

end TemplateLookup.Template
