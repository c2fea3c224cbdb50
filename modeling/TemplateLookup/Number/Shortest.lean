/-
# TemplateLookup.Number.Shortest -- the fewest digits that read back

Among the decimals that round to a given floating-point number, those with the
fewest digits are found by trying one digit, two digits and so on up to
seventeen: on each decimal grid only the two neighbours of the exact value can
qualify. Of two that qualify on one grid the nearer is taken, and the even one
when both are equally near.
-/

import TemplateLookup.Number.Binary64

namespace TemplateLookup.Number

/-- Positive significant digits and the power of ten they are multiplied by. -/
structure Decimal where
  digits : Nat
  exponent : Int
  deriving DecidableEq, Repr, Inhabited

namespace Shortest

/-- Twice the distance, in units, from which a decimal below the number still
rounds to it: half a last place, or a quarter at the foot of a binade. -/
def roomBelow (units : Nat) : Nat :=
  let place := Binary64.lastPlace units
  if place ≠ 0 ∧ units = Nat.pow 2 (52 + place) then Nat.pow 2 (place - 1) else Nat.pow 2 place

/-- Twice the distance, in units, from which a decimal above the number still
rounds to it. -/
def roomAbove (units : Nat) : Nat := Nat.pow 2 (Binary64.lastPlace units)

/-- Whether the ends of the rounding interval belong to it. -/
def endsIncluded (units : Nat) : Bool := (units / Nat.pow 2 (Binary64.lastPlace units)) % 2 = 0

/-- A decimal and the number over one denominator: `(decimal, number, scale)`,
each decimal and unit count being multiplied by the same positive factor. -/
def aligned (units : Nat) (d : Decimal) : Nat × Nat × Nat :=
  match d.exponent with
  | .ofNat e => (d.digits * Nat.pow 10 e * Binary64.one, units, 1)
  | .negSucc e => (d.digits * Binary64.one, units * Nat.pow 10 (e + 1), Nat.pow 10 (e + 1))

/-- Whether a decimal rounds to the number. -/
def readsBack (units : Nat) (d : Decimal) : Bool :=
  let (x, v, scale) := aligned units d
  let low := 2 * v - roomBelow units * scale
  let high := 2 * v + roomAbove units * scale
  if endsIncluded units then low ≤ 2 * x && 2 * x ≤ high else low < 2 * x && 2 * x < high

/-- The distance of a decimal from the number, over the common denominator. -/
def gap (units : Nat) (d : Decimal) : Nat :=
  let (x, v, _) := aligned units d
  (x - v) + (v - x)

/-- Whether `10 ^ e` is at most the number. -/
def atLeastPower (units : Nat) (e : Int) : Bool :=
  match e with
  | .ofNat k => Nat.pow 10 k * Binary64.one ≤ units
  | .negSucc k => Binary64.one ≤ units * Nat.pow 10 (k + 1)

/-- The power of ten of the leading digit. -/
def leadingPower (units : Nat) : Int :=
  let guess := ((Nat.log2 units : Int) - 1074) * 30103 / 100000
  if !atLeastPower units guess then guess - 1
  else if atLeastPower units (guess + 1) then guess + 1
  else guess

/-- The whole part of the number divided by `10 ^ e`. -/
def floorAt (units : Nat) (e : Int) : Nat :=
  match e with
  | .ofNat k => units / (Nat.pow 10 k * Binary64.one)
  | .negSucc k => units * Nat.pow 10 (k + 1) / Binary64.one

/-- The better of the number's two neighbours among the decimals of `count`
digits, if one of them rounds to the number. -/
def onGrid (units count : Nat) : Option Decimal :=
  let e := leadingPower units - count + 1
  let low : Decimal := ⟨floorAt units e, e⟩
  let high : Decimal := ⟨floorAt units e + 1, e⟩
  match readsBack units low, readsBack units high with
  | true, true =>
    if gap units low < gap units high then some low
    else if gap units high < gap units low then some high
    else some (if low.digits % 2 = 0 then low else high)
  | true, false => some low
  | false, true => some high
  | false, false => none

/-- A decimal without the zeros at its end. -/
def stripped (fuel : Nat) (d : Decimal) : Decimal :=
  match fuel with
  | 0 => d
  | fuel + 1 =>
    if d.digits % 10 = 0 ∧ d.digits ≠ 0 then stripped fuel ⟨d.digits / 10, d.exponent + 1⟩ else d

end Shortest

/-- The shortest decimal of a positive count of units. -/
def shortest (units : Nat) : Decimal :=
  match (List.range 17).findSome? fun n => Shortest.onGrid units (n + 1) with
  | some d => Shortest.stripped 20 d
  | none => ⟨units, 0⟩

end TemplateLookup.Number
