/-
# TemplateLookup.Yaml.Scalar -- texts with and without quotes

A text may be written without quotes, in single quotes, where a quote is
written twice, or in double quotes, where a backslash starts an escape. A text
may go over several lines: a single line break stands for a space, of several
the first is dropped. Without quotes a text ends where a comment or a colon with
a gap behind it starts, and between brackets also at a comma or bracket.
-/

import TemplateLookup.Yaml.Cursor
import TemplateLookup.Yaml.Plain

namespace TemplateLookup.Yaml

/-! ## Line breaks inside a text -/

/-- What stands for the first of several line breaks. -/
def folded (first : Char) (others : List Char) : List Char :=
  if first = '\u2028' ∨ first = '\u2029' then first :: others
  else if others.isEmpty then [' '] else others

/-- A line break as it counts inside a text. -/
def breakChar (c : Char) : Char := if c = '\x85' then '\n' else c

/-- The line breaks at the head of a text, blanks between them dropped. -/
def breaks (tabs : Bool) : List Char → Nat → Nat → List Char × Cursor
  | [], line, column => ([], ⟨[], line, column⟩)
  | c :: rest, line, column =>
    if isBreak c then
      let (found, cur) := breaks tabs rest (line + 1) 0
      (breakChar c :: found, cur)
    else if c = ' ' || (tabs && c = '\t') then breaks tabs rest line (column + 1)
    else ([], ⟨c :: rest, line, column⟩)

/-- The blanks and line breaks at the head of a text, and what they stand for. -/
def space (tabs : Bool) (cur : Cursor) : List Char × Cursor :=
  let isBlank (c : Char) : Bool := c = ' ' || (tabs && c = '\t')
  let blanks := cur.rest.takeWhile isBlank
  let after := cur.advance blanks.length
  match after.rest with
  | [] => (blanks, after)
  | c :: rest =>
    if isBreak c then
      let (others, next) := breaks tabs rest (after.line + 1) 0
      (folded (breakChar c) others, next)
    else (blanks, after)

/-! ## Without quotes -/

/-- Whether a character ends a text between brackets. -/
def isFlowMark (c : Char) : Bool :=
  c = ',' || c = '[' || c = ']' || c = '\x7b' || c = '\x7d'

/-- Whether a colon separates, given what follows it. -/
def separates (flow : Bool) (rest : List Char) : Bool :=
  atGap rest || (flow && (match rest with | c :: _ => isFlowMark c | [] => true))

/-- The characters up to a gap, a separating colon, or the end of a text
between brackets. -/
def chunk (flow : Bool) : List Char → List Char
  | [] => []
  | c :: rest =>
    if atGap (c :: rest) then []
    else if c = ':' && separates flow rest then []
    else if flow && (isFlowMark c || c = '?') then []
    else c :: chunk flow rest

/-- Whether a text without quotes can start here. -/
def startsPlain (flow : Bool) : List Char → Bool
  | [] => false
  | c :: rest =>
    if atGap (c :: rest) then false
    else if c = '-' then !atGap rest
    else if c = '?' || c = ':' then !atGap rest && !flow
    else !(",[]#&*!|>'\"%@".toList.contains c || c = '\x60' || c = '\x7b' || c = '\x7d')

/-- The rest of a text without quotes after a chunk: `indent` is the least
column of a further line. -/
def plainRest (flow : Bool) (indent : Nat) : Nat → Cursor → List Char × Cursor
  | 0, cur => ([], cur)
  | fuel + 1, cur =>
    let (between, next) := space false cur
    if between.isEmpty || next.rest.head? = some '#' || (!flow && next.column < indent) then
      ([], next)
    else
      match chunk flow next.rest with
      | [] => ([], next)
      | found =>
        let (more, final) := plainRest flow indent fuel (next.advance found.length)
        (between ++ found ++ more, final)

/-- A text without quotes. -/
def plainText (flow : Bool) (indent : Nat) (cur : Cursor) : List Char × Cursor :=
  let first := chunk flow cur.rest
  let (more, final) := plainRest flow indent cur.rest.length (cur.advance first.length)
  (first ++ more, final)

/-- A text without quotes that ends with its line. -/
def plainLine : Nat → Cursor → List Char × Cursor
  | 0, cur => ([], cur)
  | fuel + 1, cur =>
    match chunk false cur.rest with
    | [] => ([], cur)
    | found =>
      let after := cur.advance found.length
      let blanks := after.rest.takeWhile (· = ' ')
      let next := after.advance blanks.length
      if next.rest.head? = some '#' then (found, next)
      else
        let (more, final) := plainLine fuel next
        if more.isEmpty then (found, final) else (found ++ blanks ++ more, final)

/-! ## In quotes -/

/-- The character of an escape letter. -/
def escapeLetter? : Char → Option Char
  | '0' => some '\x00'
  | 'a' => some '\x07'
  | 'b' => some '\x08'
  | 't' => some '\t'
  | '\t' => some '\t'
  | 'n' => some '\n'
  | 'v' => some '\x0b'
  | 'f' => some '\x0c'
  | 'r' => some '\r'
  | 'e' => some '\x1b'
  | ' ' => some ' '
  | '"' => some '"'
  | '\\' => some '\\'
  | '/' => some '/'
  | 'N' => some '\x85'
  | '_' => some '\u00a0'
  | 'L' => some '\u2028'
  | 'P' => some '\u2029'
  | _ => none

/-- How many hexadecimal digits follow an escape letter. -/
def escapeWidth? : Char → Option Nat
  | 'x' => some 2
  | 'u' => some 4
  | 'U' => some 8
  | _ => none

/-- The character with a number, if there is one. -/
def charOf? (n : Nat) : Option Char :=
  if n < 0xD800 ∨ (0xE000 ≤ n ∧ n < 0x110000) then some (Char.ofNat n) else none

/-- What an escape stands for, for a cursor after the backslash. -/
def escape (cur : Cursor) : Except Flaw (List Char × Cursor) :=
  match cur.rest with
  | [] => .error .badEscape
  | c :: rest =>
    if isBreak c then
      let (others, next) := breaks true rest (cur.line + 1) 0
      .ok (others, next)
    else match escapeLetter? c with
      | some found => .ok ([found], cur.advance 1)
      | none =>
        match escapeWidth? c with
        | none => .error .badEscape
        | some width =>
          let digits := rest.take width
          if digits.length = width then
            match (Text.hexNumber? digits).bind charOf? with
            | some found => .ok ([found], cur.advance (width + 1))
            | none => .error .badEscape
          else .error .badEscape

/-- The rest of a quoted text, for a cursor after the opening quote. -/
def quotedRest (quote : Char) : Nat → Cursor → Except Flaw (List Char × Cursor)
  | 0, _ => .error .openQuote
  | fuel + 1, cur =>
    match cur.rest with
    | [] => .error .openQuote
    | c :: rest =>
      if c = quote then
        if quote = '\'' && rest.head? = some '\'' then do
          let (more, final) ← quotedRest quote fuel (cur.advance 2)
          .ok ('\'' :: more, final)
        else .ok ([], cur.advance 1)
      else if quote = '"' && c = '\\' then do
        let (found, next) ← escape (cur.advance 1)
        let (more, final) ← quotedRest quote fuel next
        .ok (found ++ more, final)
      else if c = ' ' || c = '\t' || isBreak c then do
        let (between, next) := space true cur
        let (more, final) ← quotedRest quote fuel next
        .ok (between ++ more, final)
      else do
        let (more, final) ← quotedRest quote fuel (cur.advance 1)
        .ok (c :: more, final)

/-- A quoted text, for a cursor at the opening quote. -/
def quotedText (cur : Cursor) : Except Flaw (List Char × Cursor) :=
  match cur.rest with
  | [] => .error .openQuote
  | quote :: _ => quotedRest quote (cur.rest.length + 1) (cur.advance 1)

end TemplateLookup.Yaml
