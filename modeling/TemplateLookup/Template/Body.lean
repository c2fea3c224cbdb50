/-
# TemplateLookup.Template.Body -- what a template text says

A body is a chain of parts: literal text, printed values, branches, loops and
embedded templates, each followed by the rest. Expressions are variables,
literals and quotients of expressions. A value is a document, a text that holds
halves of characters, or nothing under a name.
-/

import TemplateLookup.Data.Basic
import TemplateLookup.Text.Wide

namespace TemplateLookup.Template

/-- What an expression stands for. -/
inductive Value where
  | defined (d : Data)
  /-- A text in which halves stand alone. -/
  | wide (t : Wide)
  | undefined (name : String)
  deriving Repr, Inhabited

/-- The value of a text. -/
def Value.ofWide (t : Wide) : Value :=
  match t.toString? with
  | some s => .defined (.text s)
  | none => .wide t

/-- An expression. -/
inductive Expr where
  | variable (name : String)
  | literal (value : Value)
  | quotient (dividend divisor : Expr)
  deriving Repr, Inhabited

/-- The parts of a template in order. -/
inductive Body where
  | done
  | text (s : String) (rest : Body)
  | print (e : Expr) (rest : Body)
  /-- One of two bodies. -/
  | branch (condition : Expr) (yes no : Body) (rest : Body)
  /-- A body for each item, or another one when there are none. -/
  | loop (name : String) (items : Expr) (each otherwise : Body) (rest : Body)
  /-- The template of another name. -/
  | embed (name : String) (rest : Body)
  deriving Repr, Inhabited

end TemplateLookup.Template
