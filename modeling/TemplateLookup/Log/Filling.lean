/-
# TemplateLookup.Log.Filling -- patterns filled with values

The values fill the placeholders from left to right, and all of them have to be
used; a pattern without values is a message as it stands. A single mapping that
is not empty fills placeholders by key. The first thing that does not fit is
the error.
-/

import TemplateLookup.Data.Display
import TemplateLookup.Log.Pattern
import TemplateLookup.Number.Rounded

namespace TemplateLookup.Log

open Pattern

/-- Why values do not fit a pattern. -/
inductive Misfit where
  | tooFew
  | tooMany
  | notReal (letter : Char) (kind : String)
  | notWhole (letter : Char) (kind : String)
  | notFractional (kind : String)
  | notCharacter
  | noSuchCharacter
  | notWidth
  | widthTooBig
  | precisionTooBig
  /-- An integer is beyond all floating-point numbers. -/
  | beyondReals
  | notMapping
  | absentKey (key : String)
  | infinite
  | notANumber
  | incomplete
  | incompleteKey
  | unsupported (letter : Char) (position : Nat)
  deriving DecidableEq, Repr

/-- The message of a misfit. -/
def Misfit.message : Misfit → String
  | .tooFew => "not enough arguments for format string"
  | .tooMany => "not all arguments converted during string formatting"
  | .notReal letter kind =>
    "%" ++ String.singleton letter ++ " format: a real number is required, not " ++ kind
  | .notWhole letter kind =>
    "%" ++ String.singleton letter ++ " format: an integer is required, not " ++ kind
  | .notFractional kind => "must be real number, not " ++ kind
  | .notCharacter => "%c requires int or char"
  | .noSuchCharacter => "%c arg not in range(0x110000)"
  | .notWidth => "* wants int"
  | .widthTooBig => "width too big"
  | .precisionTooBig => "precision too big"
  | .beyondReals => "int too large to convert to float"
  | .notMapping => "format requires a mapping"
  | .absentKey key => Text.quoted key
  | .infinite => "cannot convert float infinity to integer"
  | .notANumber => "cannot convert float NaN to integer"
  | .incomplete => "incomplete format"
  | .incompleteKey => "incomplete format key"
  | .unsupported letter position =>
    let shown := if 31 ≤ letter.toNat ∧ letter.toNat ≤ 126 then letter else '?'
    let digits := (Text.hexDigits 8 letter.toNat).dropWhile (· = '0')
    "unsupported format character '" ++ String.singleton shown ++ "' (0x" ++
      String.ofList digits ++ ") at index " ++ toString position

namespace Filling

/-! ## Numbers as text -/

/-- A number ready for its width: a sign, the letter of its base, its digits. -/
structure Written where
  negative : Bool
  base : String
  digits : String

/-- The integer that a value stands for. -/
def whole? (letter : Char) : Data → Except Misfit Int
  | .int n => .ok n
  | .bool b => .ok (if b then 1 else 0)
  | .real x =>
    match x with
    | .finite _ _ => .ok (x.truncate?.getD 0)
    | .infinite _ => .error .infinite
    | .nan => .error .notANumber
  | d => .error (.notReal letter d.kind)

/-- The integer that a value of an integer kind stands for. -/
def integer? (letter : Char) : Data → Except Misfit Int
  | .int n => .ok n
  | .bool b => .ok (if b then 1 else 0)
  | d => .error (.notWhole letter d.kind)

/-- The digits of a number in a base up to sixteen. -/
def digitsIn (base n : Nat) : List Char :=
  if n = 0 then ['0'] else go (Nat.log2 n + 1) n []
where
  go : Nat → Nat → List Char → List Char
    | 0, _, acc => acc
    | fuel + 1, n, acc =>
      if n = 0 then acc else go fuel (n / base) (Text.hexDigit (n % base) :: acc)

/-- A text with zeros in front up to a least length. -/
def zeroed (least : Nat) (digits : String) : String :=
  String.ofList (List.replicate (least - digits.length) '0') ++ digits

/-- An integer, at least as long as the precision says. -/
def writtenInt (n : Int) (precision : Option Nat) (base : Nat) (announced : String)
    (upper : Bool) : Written :=
  let digits := String.ofList ((digitsIn base n.natAbs).map fun c => if upper then c.toUpper else c)
  ⟨n < 0, announced, zeroed (precision.getD 0) digits⟩

/-- The floating-point number that a value stands for. -/
def real? : Data → Except Misfit Number.Binary64
  | .int n =>
    match Number.Binary64.ofInt n with
    | .infinite _ => .error .beyondReals
    | x => .ok x
  | .bool b => .ok (.ofInt (if b then 1 else 0))
  | .real x => .ok x
  | d => .error (.notFractional d.kind)

/-- A number with a fraction. -/
def writtenReal (letter : Char) (precision : Nat) (point : Bool) (x : Number.Binary64) : Written :=
  let upper := letter.isUpper
  let cased (s : String) := if upper then String.ofList (s.toList.map Char.toUpper) else s
  match x with
  | .nan => ⟨false, "", cased "nan"⟩
  | .infinite negative => ⟨negative, "", cased "inf"⟩
  | .finite negative units =>
    let text := match letter.toLower with
      | 'e' => Number.Rounded.scientific point precision units
      | 'f' => Number.Rounded.fixed point precision units
      | _ => Number.Rounded.general point precision units
    ⟨negative, "", cased text⟩

/-! ## Filling up to the width -/

/-- A text at one end of a width. -/
def spread (left : Bool) (width : Nat) (text : String) : String :=
  let gap := String.ofList (List.replicate (width - text.length) ' ')
  if left then text ++ gap else gap ++ text

/-- A number at one end of a width; zeros go between the sign and the digits. -/
def spreadNumber (s : Slot) (left : Bool) (width : Nat) (n : Written) : String :=
  let sign := if n.negative then "-" else if s.signed then "+" else if s.blank then " " else ""
  let front := sign ++ n.base
  if s.zeros ∧ ¬ left then front ++ zeroed (width - front.length) n.digits
  else spread left width (front ++ n.digits)

/-! ## One placeholder -/

/-- What fills the placeholders. -/
inductive Source where
  | values (rest : List Data)
  /-- A mapping, which also counts as one value until it is used as such. -/
  | keyed (entries : List (Scalar × Data)) (whole : Bool)

/-- The next value and what is left. -/
def Source.next : Source → Except Misfit (Data × Source)
  | .values [] => .error .tooFew
  | .values (d :: rest) => .ok (d, .values rest)
  | .keyed entries true => .ok (.mapping entries, .keyed entries false)
  | .keyed _ false => .error .tooFew

/-- How large a width or precision may be, and the misfit of larger ones. -/
structure Bound where
  most : Nat
  exceeded : Misfit

/-- The bound of widths. -/
def widthBound : Bound := ⟨Nat.pow 2 63 - 1, .widthTooBig⟩

/-- The bound of precisions. -/
def precisionBound : Bound := ⟨Nat.pow 2 31 - 1, .precisionTooBig⟩

/-- A width or precision, with what is left; a negative one is told apart. -/
def extent (bound : Bound) (e : Extent) (source : Source) :
    Except Misfit (Option Int × Source) :=
  match e with
  | .absent => .ok (none, source)
  | .fixed n => if bound.most < n then .error bound.exceeded else .ok (some n, source)
  | .given => do
    let (d, rest) ← source.next
    match d with
    | .int n => if bound.most < n.natAbs then .error bound.exceeded else .ok (some n, rest)
    | .bool b => .ok (some (if b then 1 else 0), rest)
    | _ => .error .notWidth

/-- A value in the place of a placeholder. -/
def filled (s : Slot) (left : Bool) (width : Nat) (precision : Option Nat) (d : Data) :
    Except Misfit String :=
  let text (t : String) : String :=
    spread left width (match precision with
      | some p => String.ofList (t.toList.take p)
      | none => t)
  let number (n : Written) : String := spreadNumber s left width n
  match s.letter with
  | 's' => .ok (text d.plain)
  | 'r' => .ok (text d.shown)
  | 'a' => .ok (text (Text.asciiOnly d.shown))
  | 'c' =>
    match d with
    | .text t => if t.length = 1 then .ok (spread left width t) else .error .notCharacter
    | .int n =>
      if 0 ≤ n ∧ n < 0x110000 then
        .ok (spread left width (String.singleton (Char.ofNat n.toNat)))
      else .error .noSuchCharacter
    | .bool b => .ok (spread left width (String.singleton (Char.ofNat (if b then 1 else 0))))
    | _ => .error .notCharacter
  | letter =>
    if letter = 'd' ∨ letter = 'i' ∨ letter = 'u' then do
      let n ← whole? letter d
      .ok (number (writtenInt n precision 10 "" false))
    else if letter = 'o' then do
      let n ← integer? letter d
      .ok (number (writtenInt n precision 8 (if s.announced then "0o" else "") false))
    else if letter = 'x' ∨ letter = 'X' then do
      let n ← integer? letter d
      let base := if s.announced then "0" ++ String.singleton letter else ""
      .ok (number (writtenInt n precision 16 base (letter = 'X')))
    else if ['e', 'E', 'f', 'F', 'g', 'G'].contains letter then do
      let x ← real? d
      .ok (number (writtenReal letter (precision.getD 6) s.announced x))
    else .error (.unsupported letter s.position)

/-- A key picks the value of a mapping. -/
def pick (key : Option String) (source : Source) : Except Misfit Source :=
  match key, source with
  | none, _ => .ok source
  | some _, .values _ => .error .notMapping
  | some name, .keyed entries _ =>
    match Data.entry? name entries with
    | some d => .ok (.values [d])
    | none => .error (.absentKey name)

/-- What is left after a placeholder: a mapping that was asked for a key is no
longer a value of its own. -/
def remaining (key : Option String) (source left : Source) : Source :=
  match key, source with
  | some _, .keyed entries _ => .keyed entries false
  | _, _ => left

/-- The text of a placeholder and what is left. -/
def slot (s : Slot) (source : Source) : Except Misfit (String × Source) := do
  let chosen ← pick s.key source
  let (width, afterWidth) ← extent widthBound s.width chosen
  let (precision, afterPrecision) ← extent precisionBound s.precision afterWidth
  let (d, left) ← afterPrecision.next
  let w := width.getD 0
  let text ← filled s (s.left || w < 0) w.natAbs (precision.map Int.toNat) d
  .ok (text, remaining s.key source left)

/-! ## A whole pattern -/

/-- The text of pieces filled from a source, which has to be used up. -/
def pieces : List Piece → Source → Except Misfit String
  | [], .values (_ :: _) => .error .tooMany
  | [], _ => .ok ""
  | .literal c :: rest, source => (pieces rest source).map (String.singleton c ++ ·)
  | .slot s :: rest, source => do
    let (text, left) ← slot s source
    let more ← pieces rest left
    .ok (text ++ more)
  | .cut key :: _, source => do
    let _ ← pick key source
    .error .incomplete
  | .cutKey :: _, source =>
    match source with
    | .values _ => .error .notMapping
    | .keyed _ _ => .error .incompleteKey

end Filling

/-- The message of a pattern and its values. -/
def fill (pattern : String) (values : List Data) : Except Misfit String :=
  match values with
  | [] => .ok pattern
  | [.mapping (e :: entries)] =>
    Filling.pieces (Piece.ofText pattern) (.keyed (e :: entries) true)
  | _ => Filling.pieces (Piece.ofText pattern) (.values values)

end TemplateLookup.Log
