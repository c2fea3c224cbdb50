/-
# TemplateLookup.Number.Layout -- the text of a floating-point number

The digits are those of `shortest`. Where the point stands, when an exponent
is written and how it looks is one record, `Layout.plain`; the words for what
is not a finite number are another, so the same digits serve readable text and
data exchange.
-/

import TemplateLookup.Number.Shortest
import TemplateLookup.Text.Digit

namespace TemplateLookup.Number

/-- How the decimal of a number is laid out. -/
structure Layout where
  /-- Positional from this power of the leading digit. -/
  positionalFrom : Int
  /-- Positional below this power of the leading digit. -/
  positionalBelow : Int
  /-- The least number of digits of a written exponent. -/
  exponentWidth : Nat
  /-- The text of `nan`. -/
  nan : String
  /-- The text of positive infinity. -/
  infinity : String

/-- Numbers from 10^-4 up to but excluding 10^16 are positional and keep a
digit after the point; all others have a signed exponent of two digits or more. -/
def Layout.plain : Layout := ⟨-4, 16, 2, "nan", "inf"⟩

/-- The same layout with the words that data exchange uses. -/
def Layout.exchange : Layout := ⟨-4, 16, 2, "NaN", "Infinity"⟩

/-- The text of a positive decimal. -/
def Layout.decimal (layout : Layout) (d : Decimal) : String :=
  let digits := (Nat.repr d.digits).toList
  let count : Int := digits.length
  let leading := d.exponent + count - 1
  if layout.positionalFrom ≤ leading ∧ leading < layout.positionalBelow then
    if leading < 0 then
      "0." ++ String.ofList (List.replicate (-leading - 1).toNat '0' ++ digits)
    else
      let whole := leading.toNat + 1
      let filled := digits ++ List.replicate (whole - digits.length) '0'
      let fraction := filled.drop whole
      String.ofList (filled.take whole) ++ "." ++
        (if fraction.isEmpty then "0" else String.ofList fraction)
  else
    let mantissa := match digits with
      | [] => ""
      | [c] => String.ofList [c]
      | c :: rest => String.ofList (c :: '.' :: rest)
    mantissa ++ "e" ++ (if leading < 0 then "-" else "+") ++
      Text.padded layout.exponentWidth leading.natAbs

/-- The text of a number. -/
def Layout.number (layout : Layout) : Binary64 → String
  | .nan => layout.nan
  | .infinite negative => (if negative then "-" else "") ++ layout.infinity
  | .finite negative units =>
    (if negative then "-" else "") ++
      (if units = 0 then "0.0" else layout.decimal (shortest units))

end TemplateLookup.Number
