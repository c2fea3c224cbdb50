/-
# TemplateLookup.Data.Basic -- values of configuration documents

A document is a scalar, a list of documents, or a mapping whose entries stay in
the order in which they were written. When a key is written twice the later
entry is the one that counts.
-/

import TemplateLookup.Number.Binary64

namespace TemplateLookup

/-- A value without parts, also the key of a mapping. -/
inductive Scalar where
  | null
  | bool (b : Bool)
  | int (n : Int)
  | real (x : Number.Binary64)
  | text (s : String)
  deriving DecidableEq, Repr, Inhabited

/-- A document. -/
inductive Data where
  | scalar (s : Scalar)
  | list (items : List Data)
  | mapping (entries : List (Scalar × Data))
  deriving Repr, Inhabited

namespace Data

/-! ## Building -/

@[match_pattern] def null : Data := .scalar .null
@[match_pattern] def bool (b : Bool) : Data := .scalar (.bool b)
@[match_pattern] def int (n : Int) : Data := .scalar (.int n)
@[match_pattern] def real (x : Number.Binary64) : Data := .scalar (.real x)
@[match_pattern] def text (s : String) : Data := .scalar (.text s)

/-- A mapping with names for keys. -/
def record (fields : List (String × Data)) : Data :=
  .mapping (fields.map fun (name, value) => (.text name, value))

/-! ## Looking inside -/

/-- The last entry of a mapping under a name. -/
def entry? (name : String) (entries : List (Scalar × Data)) : Option Data :=
  (entries.reverse.find? fun (key, _) => key = .text name).map (·.2)

/-- The field of a mapping; other documents have none. -/
def field? (d : Data) (name : String) : Option Data :=
  match d with
  | .mapping entries => entry? name entries
  | _ => none

/-- The text of a text scalar. -/
def text? : Data → Option String
  | text s => some s
  | _ => none

/-- The items of a list. -/
def items? : Data → Option (List Data)
  | .list items => some items
  | _ => none

/-! ## Truth -/

/-- Null, false, zero and everything empty count as false. -/
def isTruthy : Data → Bool
  | null => false
  | bool b => b
  | int n => n ≠ 0
  | real x => !x.sameInt 0
  | text s => s ≠ ""
  | .list items => !items.isEmpty
  | .mapping entries => !entries.isEmpty

/-- The word for the kind of a document. -/
def kind : Data → String
  | null => "NoneType"
  | bool _ => "bool"
  | int _ => "int"
  | real _ => "float"
  | text _ => "str"
  | .list _ => "list"
  | .mapping _ => "dict"

end Data

end TemplateLookup
