/-
# TemplateLookup.Number.Reading -- reading a floating-point number

A written number has an optional sign, then digits with at most one point
among or beside them, then an optional exponent; or one of the words for
infinity and not-a-number, in any case. Blanks around it are ignored, a single
underscore may stand between two digits, and the digits may be of any script.
-/

import TemplateLookup.Number.Binary64
import TemplateLookup.Text.Blank
import TemplateLookup.Text.Digit

namespace TemplateLookup.Number.Reading

/-! ## Preparing the text -/

/-- Whether a character of ASCII counts as a blank here: the separator controls do not. -/
def isAsciiBlank (c : Char) : Bool :=
  c = ' ' || (9 ≤ c.toNat && c.toNat ≤ 13)

/-- A text over ASCII: digits of other scripts become their values, blanks
beyond ASCII spaces, and any other character beyond ASCII a question mark. -/
def folded (cs : List Char) : List Char :=
  cs.map fun c =>
    if c.toNat < 0x80 then c
    else if Text.isBlank c then ' '
    else match Text.digitValue? c with
      | some d => Char.ofNat (48 + d)
      | none => '?'

/-- The text without the blanks at either end. -/
def bare (cs : List Char) : List Char :=
  ((cs.dropWhile isAsciiBlank).reverse.dropWhile isAsciiBlank).reverse

/-- The text without its underscores, if each stands between two digits. -/
def joinedDigits : Option Char → List Char → Option (List Char)
  | _, [] => some []
  | before, '_' :: rest =>
    match before, rest with
    | some b, c :: _ => if b.isDigit && c.isDigit then joinedDigits (some '_') rest else none
    | _, _ => none
  | _, c :: rest => (joinedDigits (some c) rest).map (c :: ·)

/-! ## The grammar -/

/-- The value of a run of ASCII digits. -/
def digitsValue (ds : List Char) : Nat := ds.foldl (fun acc d => acc * 10 + (d.toNat - 48)) 0

/-- The value of an exponent with an optional sign. -/
def exponent? : List Char → Option Int
  | '-' :: ds => if ds ≠ [] ∧ ds.all Char.isDigit then some (-(digitsValue ds : Int)) else none
  | '+' :: ds => if ds ≠ [] ∧ ds.all Char.isDigit then some (digitsValue ds : Int) else none
  | ds => if ds ≠ [] ∧ ds.all Char.isDigit then some (digitsValue ds : Int) else none

/-- A number without a sign. -/
def unsigned? (negative : Bool) (cs : List Char) : Option Binary64 :=
  let word := cs.map Char.toLower
  if word = "inf".toList ∨ word = "infinity".toList then some (.infinite negative)
  else if word = "nan".toList then some .nan
  else
    let whole := cs.takeWhile Char.isDigit
    let afterWhole := cs.dropWhile Char.isDigit
    let (fraction, rest) := match afterWhole with
      | '.' :: more => (more.takeWhile Char.isDigit, more.dropWhile Char.isDigit)
      | more => ([], more)
    if whole = [] ∧ fraction = [] then none
    else
      let digits := digitsValue (whole ++ fraction)
      let shift : Int := -(fraction.length : Int)
      match rest with
      | [] => some (.ofDecimal negative digits shift)
      | c :: more =>
        if c = 'e' ∨ c = 'E' then
          (exponent? more).map fun e => .ofDecimal negative digits (shift + e)
        else none

/-- A number with an optional sign. -/
def signed? : List Char → Option Binary64
  | '-' :: cs => unsigned? true cs
  | '+' :: cs => unsigned? false cs
  | cs => unsigned? false cs

end TemplateLookup.Number.Reading

namespace TemplateLookup.Number

/-- The number that a text writes, if it writes one. -/
def read? (s : String) : Option Binary64 :=
  ((Reading.joinedDigits none (Reading.bare (Reading.folded s.toList))).bind Reading.signed?)

end TemplateLookup.Number
