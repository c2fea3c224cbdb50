/-
# TemplateLookup.Yaml.Cursor -- a place in a document text

Reading goes through a text with a cursor that knows the line and the column.
Between the parts of a document stand spaces, line breaks and comments, which
start with a number sign and end with their line; a tab is not such a space.
-/

import TemplateLookup.Yaml.Basic

namespace TemplateLookup.Yaml

namespace Flaw

/-- The text holds a character that no document may hold. -/
def unprintable : Flaw := ⟨"special characters are not allowed"⟩

/-- A quoted text is not closed. -/
def openQuote : Flaw := ⟨"unexpected end of a quoted text"⟩

/-- An escape in a quoted text has no meaning. -/
def badEscape : Flaw := ⟨"unknown escape in a quoted text"⟩

/-- What is wrong at a line and a column. -/
def standing (what : String) (line column : Nat) : Flaw :=
  ⟨what ++ " at line " ++ toString (line + 1) ++ ", column " ++ toString (column + 1)⟩

/-- A part stands where it may not. -/
def unexpected : Nat → Nat → Flaw := standing "unexpected content"

/-- The key of a mapping is not a scalar. -/
def compoundKey : Nat → Nat → Flaw := standing "key is not a scalar"

end Flaw

/-- The rest of a text and where it stands. -/
structure Cursor where
  rest : List Char
  line : Nat
  column : Nat
  deriving Repr, Inhabited

/-- Whether a character ends a line. -/
def isBreak (c : Char) : Bool :=
  c = '\n' || c = '\x85' || c = '\u2028' || c = '\u2029'

/-- Whether a text starts with a space, a tab or a line break, or is at its end. -/
def atGap : List Char → Bool
  | [] => true
  | c :: _ => c = ' ' || c = '\t' || isBreak c

/-- Whether a character may stand in a document. -/
def isAllowed (c : Char) : Bool :=
  let n := c.toNat
  n = 9 || n = 10 || n = 13 || (0x20 ≤ n && n ≤ 0x7E) || n = 0x85 ||
    (0xA0 ≤ n && n ≤ 0xD7FF) || (0xE000 ≤ n && n ≤ 0xFFFD) || 0x10000 ≤ n

namespace Cursor

/-- The cursor at the start of a text. -/
def start (cs : List Char) : Cursor := ⟨cs, 0, 0⟩

/-- The cursor `n` characters further on the same line. -/
def advance (n : Nat) (cur : Cursor) : Cursor := ⟨cur.rest.drop n, cur.line, cur.column + n⟩

/-- The flaw of something unexpected here. -/
def unexpected (cur : Cursor) : Flaw := .unexpected cur.line cur.column

/-- Skips characters of a line. -/
def skipGap : Bool → List Char → Nat → Nat → Cursor
  | _, [], line, column => ⟨[], line, column⟩
  | comment, c :: rest, line, column =>
    if isBreak c then skipGap false rest (line + 1) 0
    else if comment || c = ' ' then skipGap comment rest line (column + 1)
    else if c = '#' then skipGap true rest line (column + 1)
    else ⟨c :: rest, line, column⟩

/-- The cursor at the next part: after spaces, line breaks and comments. -/
def skip (cur : Cursor) : Cursor := skipGap false cur.rest cur.line cur.column

end Cursor

end TemplateLookup.Yaml
