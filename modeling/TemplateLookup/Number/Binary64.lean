/-
# TemplateLookup.Number.Binary64 -- binary floating-point numbers of 64 bits

A finite number is a whole count of *units* of 2^-1074, the smallest positive
number, together with a sign that only zero could lose. A count is
representable when it has at most 53 significant bits and stays below 2^2098.
Every arithmetic operation is "the exact result, rounded once": `ofRatio`
rounds a quotient of naturals to the nearest representable number, ties to the
even significand, and past the largest finite number to infinity.
-/

namespace TemplateLookup.Number

/-- A 64-bit binary floating-point number. -/
inductive Binary64 where
  | nan
  | infinite (negative : Bool)
  | finite (negative : Bool) (units : Nat)
  deriving DecidableEq, Repr, Inhabited

/-- A quotient rounded to the nearest whole number, a half to the even neighbour. -/
def nearestEven (num den : Nat) : Nat :=
  let q := num / den
  let r := num % den
  if 2 * r < den then q else if den < 2 * r then q + 1 else q + q % 2

namespace Binary64

/-- How many units make one. -/
def one : Nat := Nat.pow 2 1074

/-- The first count of units beyond the finite numbers. -/
def limit : Nat := Nat.pow 2 2098

/-- The unit in the last place of a count, as a power of two: counts below 2^53
have it at the unit itself. -/
def lastPlace (units : Nat) : Nat := Nat.log2 units - 52

/-! ## Rounding -/

/-- The number nearest to `num / den`. -/
def ofRatio (negative : Bool) (num den : Nat) : Binary64 :=
  let scaled := num * one
  let place := lastPlace (scaled / den)
  let units := nearestEven scaled (den * Nat.pow 2 place) * Nat.pow 2 place
  if units < limit then .finite negative units else .infinite negative

/-- The number nearest to an integer. -/
def ofInt (n : Int) : Binary64 := ofRatio (n < 0) n.natAbs 1

/-- The number nearest to `digits · 10 ^ exponent`. Exponents far outside the
range are settled without computing the power. -/
def ofDecimal (negative : Bool) (digits : Nat) (exponent : Int) : Binary64 :=
  let size : Int := (Nat.log2 digits : Int) / 3 + 1 + exponent
  if digits = 0 then .finite negative 0
  else if 400 < exponent then .infinite negative
  else if size < -400 then .finite negative 0
  else match exponent with
    | .ofNat e => ofRatio negative (digits * Nat.pow 10 e) 1
    | .negSucc e => ofRatio negative digits (Nat.pow 10 (e + 1))

/-! ## Exact values -/

/-- The exact value in units, of a finite number. -/
def units? : Binary64 → Option Int
  | .finite negative units => some (if negative then -(units : Int) else units)
  | _ => none

/-- The number nearest to a whole count of units. -/
def ofUnits (units : Int) : Binary64 := ofRatio (units < 0) units.natAbs one

/-- The whole part of a finite number, toward zero. -/
def truncate? (x : Binary64) : Option Int :=
  x.units?.map fun u => Int.tdiv u one

/-! ## Comparison -/

/-- Numerical equality: both zeros are equal, and nothing equals `nan`. -/
def same : Binary64 → Binary64 → Bool
  | .finite s a, .finite t b => a = b && (s = t || a = 0)
  | .infinite s, .infinite t => s = t
  | _, _ => false

/-- Numerical equality with an integer, exact at every size. -/
def sameInt (x : Binary64) (n : Int) : Bool :=
  x.units? = some (n * one)

theorem same_self_of_finite (s : Bool) (a : Nat) : same (.finite s a) (.finite s a) = true := by
  simp [same]

theorem same_ofRatio_self (s : Bool) (num den : Nat) :
    same (ofRatio s num den) (ofRatio s num den) = true := by
  unfold ofRatio
  simp only
  split <;> simp [same]

end Binary64

/-! ## Numbers of either kind -/

/-- A number as a data format writes it: an integer of any size, or a
floating-point number. -/
inductive Numeral where
  | int (n : Int)
  | real (x : Binary64)
  deriving DecidableEq, Repr, Inhabited

/-- Exact numerical equality of a floating-point number with a numeral. -/
def Numeral.equals (known : Numeral) (x : Binary64) : Bool :=
  match known with
  | .int n => x.sameInt n
  | .real y => x.same y

end TemplateLookup.Number
