/-
# TemplateLookup.Codec.Utf8 -- the bytes of a text

`encode` writes each character in one to four bytes. `decode` accepts exactly
the well-formed sequences: no overlong forms, no surrogates, nothing beyond
U+10FFFF. A refused input is described by the span of bytes at fault and by its
reason: a byte that cannot start a character, a byte that cannot continue one,
or the end of the data in the middle of one.
-/

import TemplateLookup.Text.Digit

namespace TemplateLookup

/-- A run of bytes. -/
abbrev Bytes := List UInt8

namespace Codec

/-! ## Refusals -/

/-- Why bytes are not a text in an encoding. -/
inductive Flaw where
  | invalidStart
  | invalidContinuation
  | unexpectedEnd
  | beyondAscii
  | undefinedByte
  | truncated
  | loneSurrogate
  | brokenSurrogatePair
  deriving DecidableEq, Repr, Inhabited

/-- The wording of a flaw. -/
def Flaw.wording : Flaw → String
  | .invalidStart => "invalid start byte"
  | .invalidContinuation => "invalid continuation byte"
  | .unexpectedEnd => "unexpected end of data"
  | .beyondAscii => "ordinal not in range(128)"
  | .undefinedByte => "character maps to <undefined>"
  | .truncated => "truncated data"
  | .loneSurrogate => "illegal encoding"
  | .brokenSurrogatePair => "illegal UTF-16 surrogate"

/-- Where and why decoding stopped: the flaw lies in the `length` bytes from
`start`, of which `first` is the first. -/
structure Refusal where
  flaw : Flaw
  first : UInt8
  start : Nat
  length : Nat
  deriving DecidableEq, Repr, Inhabited

/-- The message of a refusal, with the name of the encoding as messages give it. -/
def Refusal.message (encoding : String) (r : Refusal) : String :=
  let place :=
    if r.length = 1 then
      "byte 0x" ++ String.ofList (Text.hexDigits 2 r.first.toNat) ++ " in position " ++
        toString r.start
    else "bytes in position " ++ toString r.start ++ "-" ++ toString (r.start + r.length - 1)
  "'" ++ encoding ++ "' codec can't decode " ++ place ++ ": " ++ r.flaw.wording

/-! ## Encoding -/

/-- The bytes of a character. -/
def encodeChar (c : Char) : Bytes :=
  let n := c.toNat
  if n < 0x80 then [n.toUInt8]
  else if n < 0x800 then [(0xC0 + n / 0x40).toUInt8, (0x80 + n % 0x40).toUInt8]
  else if n < 0x10000 then
    [(0xE0 + n / 0x1000).toUInt8, (0x80 + n / 0x40 % 0x40).toUInt8, (0x80 + n % 0x40).toUInt8]
  else
    [(0xF0 + n / 0x40000).toUInt8, (0x80 + n / 0x1000 % 0x40).toUInt8,
      (0x80 + n / 0x40 % 0x40).toUInt8, (0x80 + n % 0x40).toUInt8]

/-- The bytes of a text. -/
def encode (s : String) : Bytes := s.toList.flatMap encodeChar

/-! ## Decoding -/

/-- Whether a byte continues a character. -/
def continues (b : UInt8) : Bool := 0x80 ≤ b && b < 0xC0

/-- The smallest and largest second byte after a first byte. -/
def secondRange (first : UInt8) : UInt8 × UInt8 :=
  if first = 0xE0 then (0xA0, 0xBF)
  else if first = 0xED then (0x80, 0x9F)
  else if first = 0xF0 then (0x90, 0xBF)
  else if first = 0xF4 then (0x80, 0x8F)
  else (0x80, 0xBF)

/-- How many bytes a character has that starts with a byte. -/
def lengthFrom? (first : UInt8) : Option Nat :=
  if first < 0x80 then some 1
  else if first < 0xC2 then none
  else if first < 0xE0 then some 2
  else if first < 0xF0 then some 3
  else if first < 0xF5 then some 4
  else none

/-- A character at the head of bytes, how many bytes it takes and the bytes
after it; or the flaw there and how many bytes it spans. -/
inductive Step where
  | char (c : Char) (length : Nat) (rest : Bytes)
  | flawed (flaw : Flaw) (length : Nat)

/-- Decodes one character; `bytes` is not empty. -/
def stepChar (first : UInt8) (rest : Bytes) : Step :=
  match lengthFrom? first with
  | none => .flawed .invalidStart 1
  | some 1 => .char (Char.ofNat first.toNat) 1 rest
  | some 2 =>
    match rest with
    | [] => .flawed .unexpectedEnd 1
    | b :: more =>
      if continues b then
        .char (Char.ofNat ((first.toNat - 0xC0) * 0x40 + (b.toNat - 0x80))) 2 more
      else .flawed .invalidContinuation 1
  | some 3 =>
    let (low, high) := secondRange first
    match rest with
    | [] => .flawed .unexpectedEnd 1
    | b :: more =>
      if low ≤ b ∧ b ≤ high then
        match more with
        | [] => .flawed .unexpectedEnd 2
        | c :: after =>
          if continues c then
            .char (Char.ofNat ((first.toNat - 0xE0) * 0x1000 + (b.toNat - 0x80) * 0x40 +
              (c.toNat - 0x80))) 3 after
          else .flawed .invalidContinuation 2
      else .flawed .invalidContinuation 1
  | some _ =>
    let (low, high) := secondRange first
    match rest with
    | [] => .flawed .unexpectedEnd 1
    | b :: more =>
      if low ≤ b ∧ b ≤ high then
        match more with
        | [] => .flawed .unexpectedEnd 2
        | c :: after =>
          if continues c then
            match after with
            | [] => .flawed .unexpectedEnd 3
            | d :: final =>
              if continues d then
                .char (Char.ofNat ((first.toNat - 0xF0) * 0x40000 + (b.toNat - 0x80) * 0x1000 +
                  (c.toNat - 0x80) * 0x40 + (d.toNat - 0x80))) 4 final
              else .flawed .invalidContinuation 3
          else .flawed .invalidContinuation 2
      else .flawed .invalidContinuation 1

/-- The characters of bytes from a position on; `fuel` bounds their number. -/
def decodeFrom : Nat → Nat → Bytes → Except Refusal (List Char)
  | 0, _, _ => .ok []
  | _ + 1, _, [] => .ok []
  | fuel + 1, position, first :: rest =>
    match stepChar first rest with
    | .char c length more => (decodeFrom fuel (position + length) more).map (c :: ·)
    | .flawed flaw length => .error ⟨flaw, first, position, length⟩

/-- The text of bytes. -/
def decodeUtf8 (bytes : Bytes) : Except Refusal String :=
  (decodeFrom bytes.length 0 bytes).map String.ofList

/-- The text of bytes that arrive as a stream: a character cut off by the end of
the data is noticed only when the data has ended, and its position is counted
from its own first byte. -/
def decodeStream (bytes : Bytes) : Except Refusal String :=
  match decodeUtf8 bytes with
  | .ok s => .ok s
  | .error r => .error (if r.flaw = .unexpectedEnd then { r with start := 0 } else r)

end Codec

end TemplateLookup
