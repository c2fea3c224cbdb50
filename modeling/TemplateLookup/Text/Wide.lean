/-
# TemplateLookup.Text.Wide -- texts that may not be writable

A code point is a character, or one of the two halves by which UTF-16 writes a
character beyond U+FFFF. A half by itself is no character: it can stand in a text
that is computed, but UTF-8 has no bytes for it. So a wide text can be encoded
exactly when it holds no half.
-/

import TemplateLookup.Codec.Utf8
import TemplateLookup.Text.Digit

namespace TemplateLookup

/-- A character, or a half that is none. -/
inductive CodePoint where
  | char (c : Char)
  /-- The half with a number above U+D800. -/
  | half (offset : Fin 0x800)
  deriving DecidableEq, Repr, Inhabited

/-- A text in which halves may stand alone. -/
abbrev Wide := List CodePoint

/-- Why a wide text has no bytes: a run of halves, and where it starts. -/
structure EncodeError where
  first : Fin 0x800
  start : Nat
  length : Nat
  deriving DecidableEq, Repr, Inhabited

/-- The message of a text that has no bytes. -/
def EncodeError.message (e : EncodeError) : String :=
  let place :=
    if e.length = 1 then
      "character '\\u" ++ String.ofList (Text.hexDigits 4 (0xD800 + e.first.val)) ++
        "' in position " ++ toString e.start
    else
      "characters in position " ++ toString e.start ++ "-" ++ toString (e.start + e.length - 1)
  "'utf-8' codec can't encode " ++ place ++ ": surrogates not allowed"

namespace CodePoint

/-- The code point of a number, if it has one. -/
def ofNumber? (n : Nat) : Option CodePoint :=
  if h : 0xD800 ≤ n ∧ n < 0xE000 then some (.half ⟨n - 0xD800, by omega⟩)
  else if n < 0x110000 then some (.char (Char.ofNat n))
  else none

/-- The character that a code point is. -/
def char? : CodePoint → Option Char
  | .char c => some c
  | .half _ => none

/-- Whether a code point is a half. -/
def isHalf : CodePoint → Bool
  | .char _ => false
  | .half _ => true

end CodePoint

namespace Wide

/-- A text as a wide one. -/
def ofString (s : String) : Wide := s.toList.map CodePoint.char

/-- The text that a wide one is, if it holds no half. -/
def toString? (t : Wide) : Option String := (t.mapM CodePoint.char?).map String.ofList

/-- The bytes of a text from a position on. -/
def encodeFrom : Nat → Wide → Except EncodeError Bytes
  | _, [] => .ok []
  | position, .char c :: rest => (encodeFrom (position + 1) rest).map (Codec.encodeChar c ++ ·)
  | position, .half offset :: rest =>
    .error ⟨offset, position, 1 + (rest.takeWhile CodePoint.isHalf).length⟩

/-- The bytes of a text. -/
def encode (t : Wide) : Except EncodeError Bytes := encodeFrom 0 t

end Wide

end TemplateLookup
