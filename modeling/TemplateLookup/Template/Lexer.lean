/-
# TemplateLookup.Template.Lexer -- cutting a template text into tokens

Prints stand between double braces, tags between a brace and a percent sign,
comments between a brace and a number sign; comments leave no token. A minus
inside the opening or closing mark drops all white space outside of it, a plus
keeps it. Without one of these, blanks between the start of a line and a tag or
comment can be dropped, and so can the line feed right behind it. Before that
all line ends are made line feeds.
-/

import TemplateLookup.Number.Reading
import TemplateLookup.Template.Engine
import TemplateLookup.Template.Token
import TemplateLookup.Text.Blank
import TemplateLookup.Text.Digit

namespace TemplateLookup.Template

namespace Lexer

/-! ## Line ends -/

/-- A text with every line end made a line feed. -/
def withLineFeeds : List Char → List Char
  | [] => []
  | '\r' :: '\n' :: rest => '\n' :: withLineFeeds rest
  | '\r' :: rest => '\n' :: withLineFeeds rest
  | c :: rest => c :: withLineFeeds rest

/-- A text without the line feed it ends with. -/
def withoutLastFeed (cs : List Char) : List Char :=
  if cs.getLast? = some '\n' then cs.dropLast else cs

/-- The text that is cut into tokens. -/
def prepared (spacing : Spacing) (cs : List Char) : List Char :=
  let lines := withLineFeeds cs
  if spacing.keepTrailingNewline then lines else withoutLastFeed lines

/-! ## Literal text -/

/-- What an opening mark opens. -/
inductive Opening where
  | print
  | tag
  | comment
  deriving DecidableEq, Repr

/-- What the mark of a character behind a brace opens. -/
def openingOf? : Char → Option Opening
  | '{' => some .print
  | '%' => some .tag
  | '#' => some .comment
  | _ => none

/-- The literal text before the first opening mark, what the mark opens, and the
text behind it. -/
def toOpening : List Char → List Char × Option (Opening × List Char)
  | '{' :: c :: rest =>
    match openingOf? c with
    | some opening => ([], some (opening, rest))
    | none =>
      let (before, found) := toOpening (c :: rest)
      ('{' :: before, found)
  | c :: rest =>
    let (before, found) := toOpening rest
    (c :: before, found)
  | [] => ([], none)

/-- A sign inside an opening mark, and the text behind it. -/
def signed : List Char → Option Char × List Char
  | '-' :: rest => (some '-', rest)
  | '+' :: rest => (some '+', rest)
  | cs => (none, cs)

/-- A text without the blanks after its last line feed, when there are only
blanks and the text starts a line. -/
def withoutIndent (lineStart : Bool) (cs : List Char) : List Char :=
  let tail := (cs.reverse.takeWhile (· ≠ '\n'))
  if (tail.length < cs.length ∨ lineStart) ∧ tail ≠ [] ∧ tail.all Text.isBlank then
    cs.take (cs.length - tail.length)
  else cs

/-- The literal text before an opening mark. -/
def before (spacing : Spacing) (lineStart : Bool) (opening : Opening) (sign : Option Char)
    (cs : List Char) : List Char :=
  if sign = some '-' then Text.trimRight cs
  else if sign = none ∧ spacing.lstripBlocks ∧ opening ≠ .print then withoutIndent lineStart cs
  else cs

/-- A literal token, unless there is no text. -/
def literal (cs : List Char) : List Token := if cs = [] then [] else [.literal cs]

/-! ## Closing marks -/

/-- The text behind a tag or comment that was closed without a sign. -/
def afterClosing (spacing : Spacing) : List Char → List Char
  | '\n' :: rest => if spacing.trimBlocks then rest else '\n' :: rest
  | cs => cs

/-- Whether the text that was dropped between two rests ends with a line feed. -/
def endsLine (whole rest : List Char) : Bool :=
  (whole.take (whole.length - rest.length)).getLast? = some '\n'

/-- The text behind a closing mark at the head of a text, if there is one; the
mark is a character and a brace. -/
def closing? (spacing : Spacing) (mark : Char) : List Char → Option (List Char)
  | '-' :: c :: '}' :: rest =>
    if c = mark then some (Text.trimLeft rest) else none
  | '+' :: c :: '}' :: rest =>
    if c = mark ∧ mark ≠ '}' then some rest else none
  | c :: '}' :: rest =>
    if c = mark then some (if mark = '}' then rest else afterClosing spacing rest) else none
  | _ => none

/-- The text behind the end of a comment, if it ends. -/
def afterComment? (spacing : Spacing) : List Char → Option (List Char)
  | [] => none
  | c :: rest =>
    match closing? spacing '#' (c :: rest) with
    | some found => some found
    | none => afterComment? spacing rest

/-! ## Names, numbers and quoted texts -/

/-- Ranges of characters beyond ASCII that belong to no word: punctuation,
signs, arrows and pictures. -/
def wordless : List (Nat × Nat) :=
  [(0x80, 0xA9), (0xAB, 0xB1), (0xB4, 0xB4), (0xB6, 0xB8), (0xBB, 0xBB), (0xBF, 0xBF),
   (0xD7, 0xD7), (0xF7, 0xF7), (0x2000, 0x203E), (0x2041, 0x2053), (0x2055, 0x206F),
   (0x20A0, 0x20FF), (0x2190, 0x245F), (0x2500, 0x2775), (0x2794, 0x2BFF), (0x2E00, 0x2FFF),
   (0x3000, 0x3004), (0x3008, 0x3020), (0x3030, 0x3030), (0xD800, 0xF8FF), (0xFE10, 0xFE32),
   (0xFE35, 0xFE4C), (0xFE50, 0xFE6F), (0xFEFF, 0xFF0F), (0xFF1A, 0xFF20), (0xFF3B, 0xFF3E),
   (0xFF40, 0xFF40), (0xFF5B, 0xFF65), (0xFFE0, 0xFFFF), (0x1F000, 0x1F0FF),
   (0x1F10D, 0x1FBEF), (0xE0000, 0x10FFFF)]

/-- Whether a character may stand in a word. -/
def isWord (c : Char) : Bool :=
  let n := c.toNat
  if n < 0x80 then c.isAlphanum || c = '_'
  else wordless.all fun (low, high) => n < low || high < n

/-- Whether a word is a name: it does not start with a digit. -/
def isName (cs : List Char) : Bool :=
  match cs with
  | [] => false
  | c :: _ => !(Text.digitValue? c).isSome

/-- Digits with single underscores between them, and the text behind them. -/
def digits : List Char → List Char × List Char
  | c :: '_' :: d :: rest =>
    if c.isDigit && d.isDigit then
      let (more, after) := digits (d :: rest)
      (c :: more, after)
    else if c.isDigit then ([c], '_' :: d :: rest) else ([], c :: '_' :: d :: rest)
  | c :: rest =>
    if c.isDigit then
      let (more, after) := digits rest
      (c :: more, after)
    else ([], c :: rest)
  | [] => ([], [])

/-- An exponent at the head of a text: the letter, a sign, digits. -/
def exponent? : List Char → Option (List Char × List Char)
  | e :: s :: rest =>
    if e = 'e' ∨ e = 'E' then
      let (sign, body) := if s = '+' ∨ s = '-' then ([s], rest) else ([], s :: rest)
      match digits body with
      | ([], _) => none
      | (ds, after) => some ('e' :: sign ++ ds, after)
    else none
  | _ => none

/-- A number with a fraction or an exponent at the head of a text. -/
def real? (cs : List Char) : Option (Number.Binary64 × List Char) :=
  match digits cs with
  | ([], _) => none
  | (whole, afterWhole) =>
    let (fraction, rest) := match afterWhole with
      | '.' :: more =>
        match digits more with
        | ([], _) => ([], afterWhole)
        | (ds, after) => ('.' :: ds, after)
      | _ => ([], afterWhole)
    let (exponent, final) := (exponent? rest).getD ([], rest)
    if fraction = [] ∧ exponent = [] then none
    else (Number.Reading.signed? (whole ++ fraction ++ exponent)).map (·, final)

/-- A whole number at the head of a text. A number that starts with zero is zero. -/
def whole? (cs : List Char) : Option (Nat × List Char) :=
  match digits cs with
  | ([], _) => none
  | ('0' :: _, _) => some (0, cs.dropWhile (· = '0'))
  | (ds, rest) => some (Number.Reading.digitsValue ds, rest)

/-- A quoted text up to its closing quote, escapes left as they are. -/
def quotedRest (quote : Char) : List Char → Option (List Char × List Char)
  | [] => none
  | '\\' :: c :: rest =>
    (quotedRest quote rest).map fun (cs, after) => ('\\' :: c :: cs, after)
  | c :: rest =>
    if c = quote then some ([], rest)
    else if c = '\\' then none
    else (quotedRest quote rest).map fun (cs, after) => (c :: cs, after)

/-- The character of an escape letter. -/
def escapeLetter? : Char → Option Char
  | '\\' => some '\\'
  | '\'' => some '\''
  | '"' => some '"'
  | 'a' => some '\x07'
  | 'b' => some '\x08'
  | 'f' => some '\x0c'
  | 'n' => some '\n'
  | 'r' => some '\r'
  | 't' => some '\t'
  | 'v' => some '\x0b'
  | _ => none

/-- How many hexadecimal digits follow an escape letter, and what a text with
fewer of them is called. -/
def escapeWidth? : Char → Option (Nat × String)
  | 'x' => some (2, "truncated \\xXX escape")
  | 'u' => some (4, "truncated \\uXXXX escape")
  | 'U' => some (8, "truncated \\UXXXXXXXX escape")
  | _ => none

/-- Whether a character is an octal digit. -/
def isOctal (c : Char) : Bool := '0' ≤ c && c ≤ '7'

/-- The code point that an escape names by number. -/
def numbered (n : Nat) : Except Flaw CodePoint :=
  match CodePoint.ofNumber? n with
  | some point => .ok point
  | none => .error (.badEscape "illegal Unicode character")

/-- A quoted text with its escapes replaced; `fuel` bounds its length. -/
def unescaped : Nat → List Char → Except Flaw Wide
  | 0, _ => .ok []
  | _ + 1, [] => .ok []
  | fuel + 1, '\\' :: c :: rest =>
    if c = '\n' then unescaped fuel rest
    else match escapeLetter? c with
      | some found => (unescaped fuel rest).map (.char found :: ·)
      | none =>
        match escapeWidth? c with
        | some (width, shortage) =>
          let ds := (rest.take width).takeWhile fun d => (Text.hexValue? d).isSome
          if ds.length < width then .error (.badEscape shortage)
          else match Text.hexNumber? ds with
            | some n => do
              let point ← numbered n
              let more ← unescaped fuel (rest.drop width)
              .ok (point :: more)
            | none => .error (.badEscape shortage)
        | none =>
          if isOctal c then
            let ds := ((c :: rest).take 3).takeWhile isOctal
            let n := ds.foldl (fun acc d => acc * 8 + (d.toNat - 48)) 0
            (unescaped fuel ((c :: rest).drop ds.length)).map (.char (Char.ofNat n) :: ·)
          else (unescaped fuel rest).map fun t => .char '\\' :: .char c :: t
  | fuel + 1, c :: rest => (unescaped fuel rest).map (.char c :: ·)

/-! ## Signs -/

/-- The signs of two characters. -/
def doubleSigns : List (List Char) :=
  ["//".toList, "**".toList, "==".toList, "!=".toList, ">=".toList, "<=".toList]

/-- The signs of one character. -/
def singleSigns : List Char :=
  ['+', '-', '/', '*', '%', '~', '[', ']', '(', ')', '\x7b', '\x7d', '>', '<', '=', '.', ':',
   '|', ',', ';']

/-- A sign at the head of a text. -/
def sign? (cs : List Char) : Option (List Char × List Char) :=
  if doubleSigns.contains (cs.take 2) then some (cs.take 2, cs.drop 2)
  else match cs with
    | c :: rest => if singleSigns.contains c then some ([c], rest) else none
    | [] => none

/-- The bracket that closes an opening one. -/
def closes? : Char → Option Char
  | '(' => some ')'
  | '[' => some ']'
  | '{' => some '}'
  | _ => none

/-- The brackets that are to be closed after a sign. -/
def balanced (awaited : List Char) (sign : List Char) : Except Flaw (List Char) :=
  match sign with
  | [c] =>
    match closes? c with
    | some closer => .ok (closer :: awaited)
    | none =>
      if c = ')' ∨ c = ']' ∨ c = '\x7d' then
        match awaited with
        | [] => .error (.unopened c)
        | closer :: others => if closer = c then .ok others else .error (.mismatched c closer)
      else .ok awaited
  | _ => .ok awaited

/-! ## All together -/

/-- Where the cutting stands. -/
inductive Place where
  /-- In literal text, at the start of a line or not. -/
  | outside (lineStart : Bool)
  /-- In a print or a tag, with the brackets that are to be closed. -/
  | inside (print : Bool) (awaited : List Char)
  deriving DecidableEq, Repr

/-- The character of the closing mark. -/
def markOf (print : Bool) : Char := if print then '}' else '%'

/-- A token inside a print or a tag, with the brackets and the text behind it. -/
def inner (total : Nat) (awaited : List Char) (cs : List Char) :
    Except Flaw (Token × List Char × List Char) :=
  match real? cs with
  | some (x, rest) => .ok (.real x, awaited, rest)
  | none =>
    match whole? cs with
    | some (n, rest) => .ok (.int n, awaited, rest)
    | none =>
      match cs with
      | [] => .error (.strayChar ' ' total)
      | c :: after =>
        if isWord c then
          let word := cs.takeWhile isWord
          if isName word then
            .ok (.name (String.ofList word), awaited, cs.dropWhile isWord)
          else .error .badName
        else if c = '\'' ∨ c = '"' then
          match quotedRest c after with
          | none => .error (.strayChar c (total - cs.length))
          | some (raw, rest) =>
            (unescaped raw.length raw).map fun t => (.text t, awaited, rest)
        else match sign? cs with
          | none => .error (.strayChar c (total - cs.length))
          | some (found, rest) =>
            (balanced awaited found).map fun pending =>
              (.sign (String.ofList found), pending, rest)

/-- The tokens from a place on; `fuel` bounds the steps. -/
def tokensFrom (spacing : Spacing) (total : Nat) : Nat → Place → List Char → List Token
  | 0, _, _ => []
  | fuel + 1, .outside lineStart, cs =>
    match toOpening cs with
    | (text, none) => literal text
    | (text, some (opening, afterMark)) =>
      let (sign, rest) := signed afterMark
      let text := before spacing lineStart opening sign text
      match opening with
      | .print =>
        literal text ++ .beginPrint :: tokensFrom spacing total fuel (.inside true []) rest
      | .tag =>
        literal text ++ .beginTag :: tokensFrom spacing total fuel (.inside false []) rest
      | .comment =>
        match rest, afterComment? spacing rest with
        | [], _ => literal text
        | _, none => literal text ++ [.flaw .openComment]
        | _, some behind =>
          literal text ++
            tokensFrom spacing total fuel (.outside (endsLine rest behind)) behind
  | fuel + 1, .inside print awaited, cs =>
    let closed := if awaited = [] then closing? spacing (markOf print) cs else none
    match closed with
    | some behind =>
      (if print then Token.endPrint else Token.endTag) ::
        tokensFrom spacing total fuel (.outside (endsLine cs behind)) behind
    | none =>
      match cs with
      | [] => []
      | c :: _ =>
        if Text.isBlank c then
          tokensFrom spacing total fuel (.inside print awaited) (Text.trimLeft cs)
        else match inner total awaited cs with
          | .error f => [.flaw f]
          | .ok (token, pending, rest) =>
            token :: tokensFrom spacing total fuel (.inside print pending) rest

end Lexer

/-- The tokens of a template text. -/
def tokens (spacing : Spacing) (source : String) : List Token :=
  let cs := Lexer.prepared spacing source.toList
  Lexer.tokensFrom spacing cs.length (2 * cs.length + 1) (.outside true) cs

end TemplateLookup.Template
