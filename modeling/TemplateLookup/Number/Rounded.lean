/-
# TemplateLookup.Number.Rounded -- numbers with a given count of digits

A number is rounded once, from its exact value, a half to the even digit:
`fixed` to a count of places behind the point, `scientific` to a count of
places behind the leading digit, `general` to a count of significant digits,
positional for middle sizes and without zeros at the end.
-/

import TemplateLookup.Number.Shortest
import TemplateLookup.Text.Digit

namespace TemplateLookup.Number.Rounded

/-- The text of digits with a point before the last `places` of them. The point
of a whole number is written only on request. -/
def pointed (point : Bool) (places digits : Nat) : String :=
  let ds := (Text.padded (places + 1) digits).toList
  let whole := ds.take (ds.length - places)
  let fraction := ds.drop (ds.length - places)
  String.ofList (whole ++ if point ∨ places ≠ 0 then '.' :: fraction else [])

/-- A count of units with a count of places behind the point. -/
def fixed (point : Bool) (places units : Nat) : String :=
  pointed point places (nearestEven (units * Nat.pow 10 places) Binary64.one)

/-- The digits of a count of units, one before and `places` behind the point,
and the power of ten of the first. -/
def leading (places units : Nat) : Nat × Int :=
  if units = 0 then (0, 0)
  else
    let power := Shortest.leadingPower units
    let shift : Int := places - power
    let digits := match shift with
      | .ofNat k => nearestEven (units * Nat.pow 10 k) Binary64.one
      | .negSucc k => nearestEven units (Binary64.one * Nat.pow 10 (k + 1))
    -- rounding up may lead to one digit more
    if digits = Nat.pow 10 (places + 1) then (Nat.pow 10 places, power + 1) else (digits, power)

/-- A signed exponent of two digits or more. -/
def exponentText (e : Int) : String :=
  "e" ++ (if e < 0 then "-" else "+") ++ Text.padded 2 e.natAbs

/-- A count of units with an exponent. -/
def scientific (point : Bool) (places units : Nat) : String :=
  let (digits, power) := leading places units
  pointed point places digits ++ exponentText power

/-- The text of a fraction without the zeros at its end, nor a point at its end. -/
def bare (text : String) : String :=
  if text.toList.contains '.' then
    String.ofList
      (((text.toList.reverse.dropWhile (· = '0')).dropWhile (· = '.')).reverse)
  else text

/-- A count of units with a count of significant digits. -/
def general (point : Bool) (digits units : Nat) : String :=
  let significant := if digits = 0 then 1 else digits
  let (mantissa, power) := leading (significant - 1) units
  if -4 ≤ power ∧ power < significant then
    let text := fixed point ((significant : Int) - 1 - power).toNat units
    if point then text else bare text
  else
    let text := pointed point (significant - 1) mantissa
    (if point then text else bare text) ++ exponentText power

end TemplateLookup.Number.Rounded
