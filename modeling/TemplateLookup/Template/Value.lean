/-
# TemplateLookup.Template.Value -- what expressions stand for

A variable that is bound to nothing is undefined: it prints nothing, counts as
false and has no items, but it cannot be calculated with. The quotient of two
numbers is a floating-point number, computed exactly and rounded once.
-/

import TemplateLookup.Data.Display
import TemplateLookup.Pairs
import TemplateLookup.Template.Body
import TemplateLookup.Template.Failure

namespace TemplateLookup.Template

/-- The variables and what they are bound to, the innermost first. -/
abbrev Bindings := List (String × Value)

/-! ## Quotients -/

/-- The quotient of two floating-point numbers. -/
def realQuotient (x y : Number.Binary64) : Except Failure Number.Binary64 :=
  match x, y with
  | _, .finite _ 0 => .error (.divisionByZero true)
  | .nan, _ => .ok .nan
  | _, .nan => .ok .nan
  | .infinite _, .infinite _ => .ok .nan
  | .infinite s, .finite t _ => .ok (.infinite (s != t))
  | .finite s _, .infinite t => .ok (.finite (s != t) 0)
  | .finite s a, .finite t b => .ok (.ofRatio (s != t) a b)

/-- The quotient of two integers. -/
def intQuotient (a b : Int) : Except Failure Number.Binary64 :=
  if b = 0 then .error (.divisionByZero false)
  else match Number.Binary64.ofRatio ((a < 0) != (b < 0) && a != 0) a.natAbs b.natAbs with
    | .infinite _ => .error .quotientTooLarge
    | x => .ok x

/-- An integer as a floating-point number. -/
def realOfInt (n : Int) : Except Failure Number.Binary64 :=
  match Number.Binary64.ofInt n with
  | .infinite _ => .error .tooLarge
  | x => .ok x

/-- The number that a value stands for. -/
def numeral? : Data → Option Number.Numeral
  | .int n => some (.int n)
  | .bool b => some (.int (if b then 1 else 0))
  | .real x => some (.real x)
  | _ => none

/-- The quotient of two values. -/
def divided (left right : Data) : Except Failure Data :=
  match numeral? left, numeral? right with
  | some (.int a), some (.int b) => (intQuotient a b).map .real
  | some (.int a), some (.real y) => do
    let x ← realOfInt a
    (realQuotient x y).map .real
  | some (.real x), some (.int b) => do
    let y ← realOfInt b
    (realQuotient x y).map .real
  | some (.real x), some (.real y) => (realQuotient x y).map .real
  | _, _ => .error (.noQuotient left.kind right.kind)

/-! ## Expressions -/

namespace Value

/-- The quotient of two values. -/
def dividedBy : Value → Value → Except Failure Value
  | .defined left, .defined right => (divided left right).map .defined
  | .undefined name, _ => .error (.undefined name)
  | _, .undefined name => .error (.undefined name)
  | .wide _, .defined right => .error (.noQuotient (Data.text "").kind right.kind)
  | .defined left, .wide _ => .error (.noQuotient left.kind (Data.text "").kind)
  | .wide _, .wide _ => .error (.noQuotient (Data.text "").kind (Data.text "").kind)

/-- The text that a value prints. -/
def printed : Value → Wide
  | .defined d => Wide.ofString d.plain
  | .wide t => t
  | .undefined _ => []

/-- Whether a value counts as true. -/
def isTruthy : Value → Bool
  | .defined d => d.isTruthy
  | .wide t => !t.isEmpty
  | .undefined _ => false

/-- The items of a value: those of a list, the keys of a mapping, the characters
of a text. -/
def items : Value → Except Failure (List Value)
  | .undefined _ => .ok []
  | .wide t => .ok (t.map fun point => ofWide [point])
  | .defined (.list ds) => .ok (ds.map .defined)
  | .defined (.mapping entries) => .ok ((Pairs.keys entries).map fun key => .defined (.scalar key))
  | .defined (.text s) => .ok (s.toList.map fun c => .defined (.text (String.singleton c)))
  | .defined d => .error (.notIterable d.kind)

end Value

/-- What an expression stands for. -/
def Expr.value (bound : Bindings) : Expr → Except Failure Value
  | .variable name => .ok ((Pairs.fetch name bound).getD (.undefined name))
  | .literal v => .ok v
  | .quotient a b => do
    let x ← a.value bound
    let y ← b.value bound
    x.dividedBy y

end TemplateLookup.Template
