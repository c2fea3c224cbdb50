/-
# TemplateLookup.Yaml.Plain -- what a text without quotes stands for

A text that is written without quotes is null, a truth value, an integer, a
floating-point number or just a text, by its spelling. Integers may be binary,
octal (with a leading zero), hexadecimal, decimal, or a sum of sixties written
with colons; underscores between the digits are ignored.
-/

import TemplateLookup.Data.Basic
import TemplateLookup.Number.Reading
import TemplateLookup.Text.Digit
import TemplateLookup.Text.Pieces

namespace TemplateLookup.Yaml.Plain

/-! ## Words -/

/-- The words for truth values. -/
def truth? (s : String) : Option Bool :=
  if ["yes", "Yes", "YES", "true", "True", "TRUE", "on", "On", "ON"].contains s then some true
  else if ["no", "No", "NO", "false", "False", "FALSE", "off", "Off", "OFF"].contains s then
    some false
  else none

/-- Whether a text is a word for null. -/
def isNull (s : String) : Bool := ["~", "null", "Null", "NULL", ""].contains s

/-! ## Numbers -/

/-- A text without its sign, and whether the sign was a minus. -/
def unsigned : List Char → Bool × List Char
  | '-' :: rest => (true, rest)
  | '+' :: rest => (false, rest)
  | cs => (false, cs)

/-- A text without underscores. -/
def joined (cs : List Char) : List Char := cs.filter (· ≠ '_')

/-- The value of digits in a base. -/
def valueIn (base : Nat) (cs : List Char) : Nat :=
  (joined cs).foldl (fun n c => n * base + (Text.hexValue? c).getD 0) 0

/-- Whether a text has characters and all are digits of a base or underscores. -/
def areDigits (base : Nat) (cs : List Char) : Bool :=
  !cs.isEmpty && cs.all fun c =>
    c = '_' || (match Text.hexValue? c with | some v => v < base | none => false)

/-- Whether a text is a number below sixty in one or two digits. -/
def isSixtieth : List Char → Bool
  | [a] => a.isDigit
  | [a, b] => '0' ≤ a && a ≤ '5' && b.isDigit
  | _ => false

/-- The value of numbers that count sixties, sixties of sixties and so on. -/
def sixties (parts : List (List Char)) : Nat :=
  parts.foldl (fun n p => n * 60 + valueIn 10 p) 0

/-- A natural number, by its spelling. -/
def natural? (cs : List Char) : Option Nat :=
  match cs with
  | [] => none
  | '0' :: 'b' :: ds => if areDigits 2 ds then some (valueIn 2 ds) else none
  | '0' :: 'x' :: ds => if areDigits 16 ds then some (valueIn 16 ds) else none
  | '0' :: ds => if ds.isEmpty || areDigits 8 ds then some (valueIn 8 ds) else none
  | c :: ds =>
    if !c.isDigit then none
    else if ds.isEmpty || areDigits 10 ds then some (valueIn 10 cs)
    else match Text.pieces ':' cs with
      | first :: second :: more =>
        if areDigits 10 first && (second :: more).all isSixtieth then
          some (sixties (first :: second :: more))
        else none
      | _ => none

/-- An integer, by its spelling. -/
def integer? (cs : List Char) : Option Int :=
  let (negative, digits) := unsigned cs
  (natural? digits).map fun n => if negative then -(n : Int) else n

/-- Whether a text starts with a digit and holds only digits and underscores. -/
def isRun : List Char → Bool
  | [] => false
  | c :: rest => c.isDigit && rest.all fun d => d.isDigit || d = '_'

/-- Whether a text is nothing, or an exponent with its sign. -/
def isExponent : List Char → Bool
  | [] => true
  | e :: s :: ds =>
    (e = 'e' || e = 'E') && (s = '-' || s = '+') && !ds.isEmpty && ds.all Char.isDigit
  | _ => false

/-- A fraction after sixties. -/
def sixtiesReal? (negative : Bool) (whole fraction : List Char) : Option Number.Binary64 :=
  match Text.pieces ':' whole with
  | first :: second :: more =>
    let places := (joined fraction).length
    if isRun first && (second :: more).all isSixtieth &&
        fraction.all (fun c => c.isDigit || c = '_') then
      some (.ofDecimal negative
        (sixties (first :: second :: more) * Nat.pow 10 places + valueIn 10 fraction) (-(places : Int)))
    else none
  | _ => none

/-- A floating-point number, by its spelling. -/
def real? (cs : List Char) : Option Number.Binary64 :=
  let (negative, body) := unsigned cs
  let word := String.ofList body
  if [".inf", ".Inf", ".INF"].contains word then some (.infinite negative)
  else if [".nan", ".NaN", ".NAN"].contains (String.ofList cs) then some .nan
  else match Text.cutAt '.' body with
    | none => none
    | some (whole, behind) =>
      let isFraction (c : Char) : Bool := c.isDigit || c = '_'
      let fraction := behind.takeWhile isFraction
      let rest := behind.dropWhile isFraction
      let shaped :=
        if whole.isEmpty then
          isRun fraction && body.length = cs.length
        else isRun whole
      if shaped && isExponent rest then
        Number.Reading.signed? (joined cs)
      else if rest.isEmpty then sixtiesReal? negative whole fraction
      else none

/-! ## All together -/

/-- What a text without quotes stands for. -/
def scalar (cs : List Char) : Scalar :=
  let s := String.ofList cs
  match truth? s with
  | some b => .bool b
  | none =>
    match real? cs with
    | some x => .real x
    | none =>
      match integer? cs with
      | some n => .int n
      | none => if isNull s then .null else .text s

end TemplateLookup.Yaml.Plain
