/-
# TemplateLookup.Json.Reader -- reading a document of data exchange

`read?` takes one document with optional white space around its parts. A
number with a point or an exponent is a floating-point number, any other an
integer of its own size. Two escaped surrogates in a row are one character; a
surrogate alone is refused. Every reading step consumes at least one character,
so the length of the text bounds the number of steps.
-/

import TemplateLookup.Data.Basic
import TemplateLookup.Number.Reading
import TemplateLookup.Text.Digit

namespace TemplateLookup.Json

/-- The text after its leading white space. -/
def skip (cs : List Char) : List Char :=
  cs.dropWhile fun c => c = ' ' || c = '\t' || c = '\n' || c = '\r'

/-! ## Texts -/

/-- The value of four hexadecimal digits and what follows them. -/
def fourHex? : List Char → Option (Nat × List Char)
  | a :: b :: c :: d :: rest => (Text.hexNumber? [a, b, c, d]).map (·, rest)
  | _ => none

/-- The character of a letter after a backslash. -/
def letterEscape? : Char → Option Char
  | '"' => some '"'
  | '\\' => some '\\'
  | '/' => some '/'
  | 'b' => some '\x08'
  | 'f' => some '\x0c'
  | 'n' => some '\n'
  | 'r' => some '\r'
  | 't' => some '\t'
  | _ => none

/-- The character written by one or two escaped units, and what follows. -/
def unitChar? (cs : List Char) : Option (Char × List Char) := do
  let (unit, rest) ← fourHex? cs
  if 0xD800 ≤ unit ∧ unit < 0xDC00 then
    match rest with
    | '\\' :: 'u' :: more =>
      let (low, after) ← fourHex? more
      if 0xDC00 ≤ low ∧ low < 0xE000 then
        some (Char.ofNat (0x10000 + (unit - 0xD800) * 0x400 + (low - 0xDC00)), after)
      else none
    | _ => none
  else if 0xDC00 ≤ unit ∧ unit < 0xE000 then none
  else some (Char.ofNat unit, rest)

/-- The rest of a text after its opening quote, and what follows the closing one. -/
def stringRest? : Nat → List Char → Option (List Char × List Char)
  | 0, _ => none
  | _ + 1, [] => none
  | _ + 1, '"' :: rest => some ([], rest)
  | fuel + 1, '\\' :: 'u' :: rest => do
    let (c, after) ← unitChar? rest
    let (cs, remaining) ← stringRest? fuel after
    some (c :: cs, remaining)
  | fuel + 1, '\\' :: letter :: rest => do
    let c ← letterEscape? letter
    let (cs, remaining) ← stringRest? fuel rest
    some (c :: cs, remaining)
  | fuel + 1, c :: rest =>
    if c = '\\' ∨ c.toNat < 32 then none
    else (stringRest? fuel rest).map fun (cs, remaining) => (c :: cs, remaining)

/-! ## Numbers -/

/-- The characters that a number may hold. -/
def isNumeric (c : Char) : Bool :=
  c.isDigit || c = '-' || c = '+' || c = '.' || c = 'e' || c = 'E'

/-- An integer of its own size. -/
def integer? : List Char → Option Int
  | '-' :: ds =>
    if ds ≠ [] ∧ ds.all Char.isDigit then some (-(Number.Reading.digitsValue ds : Int)) else none
  | ds => if ds ≠ [] ∧ ds.all Char.isDigit then some (Number.Reading.digitsValue ds : Int) else none

/-- A number from its characters. -/
def number? (cs : List Char) : Option Scalar :=
  match integer? cs with
  | some n => some (.int n)
  | none => (Number.Reading.signed? cs).map .real

/-- The text after a given beginning. -/
def after? : List Char → List Char → Option (List Char)
  | [], cs => some cs
  | w :: ws, c :: cs => if w = c then after? ws cs else none
  | _ :: _, [] => none

/-! ## Documents -/

mutual

/-- A document at the head of a text, and what follows it. -/
def value? : Nat → List Char → Option (Data × List Char)
  | 0, _ => none
  | fuel + 1, cs =>
    match skip cs with
    | [] => none
    | '"' :: rest =>
      (stringRest? (rest.length + 1) rest).map fun (s, more) => (Data.text (String.ofList s), more)
    | '[' :: rest =>
      match skip rest with
      | ']' :: more => some (.list [], more)
      | more => (items? fuel more).map fun (ds, remaining) => (.list ds, remaining)
    | '{' :: rest =>
      match skip rest with
      | '}' :: more => some (.mapping [], more)
      | more => (entries? fuel more).map fun (es, remaining) => (.mapping es, remaining)
    | c :: rest =>
      if c = 't' then (after? "rue".toList rest).map (Data.bool true, ·)
      else if c = 'f' then (after? "alse".toList rest).map (Data.bool false, ·)
      else if c = 'n' then (after? "ull".toList rest).map (Data.null, ·)
      else
        (number? ((c :: rest).takeWhile isNumeric)).map fun n =>
          (.scalar n, (c :: rest).dropWhile isNumeric)

/-- The items of a list up to its closing bracket. -/
def items? : Nat → List Char → Option (List Data × List Char)
  | 0, _ => none
  | fuel + 1, cs => do
    let (d, rest) ← value? fuel cs
    match skip rest with
    | ',' :: more =>
      let (ds, remaining) ← items? fuel more
      some (d :: ds, remaining)
    | ']' :: more => some ([d], more)
    | _ => none

/-- The entries of a mapping up to its closing brace. -/
def entries? : Nat → List Char → Option (List (Scalar × Data) × List Char)
  | 0, _ => none
  | fuel + 1, cs =>
    match skip cs with
    | '"' :: rest => do
      let (k, afterKey) ← stringRest? (rest.length + 1) rest
      match skip afterKey with
      | ':' :: more =>
        let (d, remaining) ← value? fuel more
        match skip remaining with
        | ',' :: further =>
          let (es, final) ← entries? fuel further
          some ((.text (String.ofList k), d) :: es, final)
        | '}' :: final => some ([(.text (String.ofList k), d)], final)
        | _ => none
      | _ => none
    | _ => none

end

/-- The document that a text holds, if it holds exactly one. -/
def read? (s : String) : Option Data := do
  let cs := s.toList
  let (d, rest) ← value? (cs.length + 1) cs
  if skip rest = [] then some d else none

end TemplateLookup.Json
