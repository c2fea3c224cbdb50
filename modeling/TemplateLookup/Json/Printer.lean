/-
# TemplateLookup.Json.Printer -- writing a document for data exchange

The text is printable ASCII: quotes, backslashes and the usual control
characters are escaped by a letter, all other characters outside the printable
range of ASCII by their UTF-16 units in four hexadecimal digits, two units for
a character beyond U+FFFF. A document is written on one line, or with every
item on a line of its own.
-/

import TemplateLookup.Data.Basic
import TemplateLookup.Number.Layout
import TemplateLookup.Text.Digit
import TemplateLookup.Text.Pieces

namespace TemplateLookup.Json

/-! ## Texts -/

/-- The escape of one UTF-16 unit. -/
def unitEscape (unit : Nat) : List Char := '\\' :: 'u' :: Text.hexDigits 4 unit

/-- A character between quotes. -/
def escapedChar (c : Char) : List Char :=
  if c = '"' then ['\\', '"']
  else if c = '\\' then ['\\', '\\']
  else if c = '\n' then ['\\', 'n']
  else if c = '\r' then ['\\', 'r']
  else if c = '\t' then ['\\', 't']
  else if c = '\x0c' then ['\\', 'f']
  else if c = '\x08' then ['\\', 'b']
  else if 32 ≤ c.toNat ∧ c.toNat < 127 then [c]
  else if c.toNat < 0x10000 then unitEscape c.toNat
  else
    let n := c.toNat - 0x10000
    unitEscape (0xD800 + n / 0x400) ++ unitEscape (0xDC00 + n % 0x400)

/-- A text between quotes. -/
def escaped (cs : List Char) : List Char := '"' :: cs.flatMap escapedChar ++ ['"']

/-- `escaped` on strings. -/
def string (s : String) : String := String.ofList (escaped s.toList)

/-! ## Documents -/

/-- A scalar as a value. -/
def scalar : Scalar → String
  | .null => "null"
  | .bool true => "true"
  | .bool false => "false"
  | .int n => toString n
  | .real x => Number.Layout.exchange.number x
  | .text s => string s

/-- A scalar as a key, which is always a text. -/
def key : Scalar → String
  | .text s => string s
  | s => string (scalar s)

mutual

/-- A document on one line. -/
def line : Data → String
  | .scalar s => scalar s
  | .list items => "[" ++ Text.joinWith ", " (lineItems items) ++ "]"
  | .mapping entries => "\x7b" ++ Text.joinWith ", " (lineEntries entries) ++ "\x7d"

def lineItems : List Data → List String
  | [] => []
  | d :: rest => line d :: lineItems rest

def lineEntries : List (Scalar × Data) → List String
  | [] => []
  | (k, d) :: rest => (key k ++ ": " ++ line d) :: lineEntries rest

end

/-- A line break followed by the blanks of a depth. -/
def breakAt (step depth : Nat) : String :=
  String.ofList ('\n' :: List.replicate (step * depth) ' ')

/-- The parts of a document between brackets, each on a line of its own. -/
def block (step depth : Nat) (opening closing : String) (parts : List String) : String :=
  if parts.isEmpty then opening ++ closing
  else opening ++ breakAt step (depth + 1) ++
    Text.joinWith ("," ++ breakAt step (depth + 1)) parts ++ breakAt step depth ++ closing

mutual

/-- A document at a depth, its parts indented by `step` blanks more. -/
def indented (step depth : Nat) : Data → String
  | .scalar s => scalar s
  | .list items => block step depth "[" "]" (indentedItems step (depth + 1) items)
  | .mapping entries =>
    block step depth "\x7b" "\x7d" (indentedEntries step (depth + 1) entries)

def indentedItems (step depth : Nat) : List Data → List String
  | [] => []
  | d :: rest => indented step depth d :: indentedItems step depth rest

def indentedEntries (step depth : Nat) : List (Scalar × Data) → List String
  | [] => []
  | (k, d) :: rest => (key k ++ ": " ++ indented step depth d) :: indentedEntries step depth rest

end

/-- A document with every item on a line of its own, indented by two blanks a level. -/
def page (d : Data) : String := indented 2 0 d

end TemplateLookup.Json
