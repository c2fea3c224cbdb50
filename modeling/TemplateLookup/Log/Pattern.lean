/-
# TemplateLookup.Log.Pattern -- message patterns

A pattern is a text with placeholders. A placeholder is a percent sign, an
optional key in parentheses, flags, a least width, a precision after a point,
and a letter that says how a value is written: `s`, `r` and `a` as text, `d`,
`i` and `u` as a decimal integer, `o`, `x` and `X` in another base, `c` as a
character, and `e`, `f`, `g` (also in upper case) as a number with a fraction.
Two percent signs next to each other stand for one.
`Piece.ofText` cuts a text into literal characters and placeholders; it never
fails, for a flaw of a pattern is reported only when the filling arrives there.
-/

namespace TemplateLookup.Log.Pattern

/-- A width or precision. -/
inductive Extent where
  | absent
  | fixed (n : Nat)
  /-- Taken from the values. -/
  | given
  deriving DecidableEq, Repr, Inhabited

/-- A placeholder. -/
structure Slot where
  key : Option String
  /-- The text goes to the left end of its width. -/
  left : Bool
  /-- Positive numbers have a sign. -/
  signed : Bool
  /-- Positive numbers have a blank in the place of the sign. -/
  blank : Bool
  /-- Bases are announced by their letter. -/
  announced : Bool
  /-- Numbers are filled up with zeros. -/
  zeros : Bool
  width : Extent
  precision : Extent
  letter : Char
  /-- Where the letter stands in the pattern. -/
  position : Nat
  deriving DecidableEq, Repr, Inhabited

/-- A part of a pattern. -/
inductive Piece where
  | literal (c : Char)
  | slot (s : Slot)
  /-- The text ends inside a placeholder, whose key is complete if it has one. -/
  | cut (key : Option String)
  /-- The text ends inside the key of a placeholder. -/
  | cutKey
  deriving DecidableEq, Repr, Inhabited

/-! ## Parts of a placeholder -/

/-- The key up to its closing parenthesis, with `depth` more to close inside it,
and what follows. -/
def keyRest : Nat → List Char → Option (List Char × List Char)
  | _, [] => none
  | 0, ')' :: rest => some ([], rest)
  | depth + 1, ')' :: rest => (keyRest depth rest).map fun (k, r) => (')' :: k, r)
  | depth, '(' :: rest => (keyRest (depth + 1) rest).map fun (k, r) => ('(' :: k, r)
  | depth, c :: rest => (keyRest depth rest).map fun (k, r) => (c :: k, r)

/-- Whether a character is a flag. -/
def isFlag (c : Char) : Bool := c = '-' || c = '+' || c = ' ' || c = '#' || c = '0'

/-- The value of decimal digits. -/
def number (ds : List Char) : Nat := ds.foldl (fun n d => n * 10 + (d.toNat - 48)) 0

/-- A width at the head of a text, and what follows. -/
def width (cs : List Char) : Extent × List Char :=
  match cs with
  | '*' :: rest => (.given, rest)
  | _ =>
    match cs.takeWhile Char.isDigit with
    | [] => (.absent, cs)
    | ds => (.fixed (number ds), cs.dropWhile Char.isDigit)

/-- A precision at the head of a text, and what follows; a point alone means zero. -/
def precision (cs : List Char) : Extent × List Char :=
  match cs with
  | '.' :: rest =>
    match width rest with
    | (.absent, more) => (.fixed 0, more)
    | found => found
  | _ => (.absent, cs)

/-- The text without one size letter, which has no meaning. -/
def afterSize : List Char → List Char
  | 'h' :: rest => rest
  | 'l' :: rest => rest
  | 'L' :: rest => rest
  | cs => cs

/-- A placeholder after its percent sign and key, and what follows. -/
def slotRest (total : Nat) (key : Option String) (cs : List Char) : Option (Slot × List Char) :=
  let flags := cs.takeWhile isFlag
  let (w, afterWidth) := width (cs.dropWhile isFlag)
  let (p, afterPrecision) := precision afterWidth
  match afterSize afterPrecision with
  | [] => none
  | letter :: rest =>
    some (⟨key, flags.contains '-', flags.contains '+', flags.contains ' ', flags.contains '#',
      flags.contains '0', w, p, letter, total - rest.length - 1⟩, rest)

/-! ## The pieces -/

/-- The pieces of the rest of a text that has `total` characters. -/
def piecesFrom (total : Nat) : Nat → List Char → List Piece
  | 0, _ => []
  | _ + 1, [] => []
  | fuel + 1, '%' :: '%' :: rest => .literal '%' :: piecesFrom total fuel rest
  | fuel + 1, '%' :: '(' :: rest =>
    match keyRest 0 rest with
    | none => [.cutKey]
    | some (key, more) =>
      match slotRest total (some (String.ofList key)) more with
      | none => [.cut (some (String.ofList key))]
      | some (s, after) => .slot s :: piecesFrom total fuel after
  | fuel + 1, '%' :: rest =>
    match slotRest total none rest with
    | none => [.cut none]
    | some (s, after) => .slot s :: piecesFrom total fuel after
  | fuel + 1, c :: rest => .literal c :: piecesFrom total fuel rest

/-- The pieces of a text. -/
def Piece.ofText (s : String) : List Piece :=
  let cs := s.toList
  piecesFrom cs.length cs.length cs

end TemplateLookup.Log.Pattern
