/-
# TemplateLookup.Codec.Utf16 -- texts in units of two bytes

A unit outside the surrogates is a character; a high surrogate followed by a
low one is a character beyond U+FFFF. A flaw is a single byte at the end, a
high surrogate at the end, a high surrogate without its partner, or a low one
alone.
-/

import TemplateLookup.Codec.Utf8

namespace TemplateLookup.Codec

/-- The order of the two bytes of a unit. -/
inductive ByteOrder where
  | little
  | big
  deriving DecidableEq, Repr, Inhabited

/-- The unit that two bytes make. -/
def ByteOrder.unit (order : ByteOrder) (a b : UInt8) : Nat :=
  match order with
  | .little => b.toNat * 0x100 + a.toNat
  | .big => a.toNat * 0x100 + b.toNat

/-- The characters of bytes from a position on. -/
def decodeUnits (order : ByteOrder) : Nat → Bytes → Except Refusal (List Char)
  | _, [] => .ok []
  | position, [a] => .error ⟨.truncated, a, position, 1⟩
  | position, a :: b :: rest =>
    let unit := order.unit a b
    if unit < 0xD800 ∨ 0xE000 ≤ unit then
      (decodeUnits order (position + 2) rest).map (Char.ofNat unit :: ·)
    else if 0xDC00 ≤ unit then .error ⟨.loneSurrogate, a, position, 2⟩
    else match rest with
      | c :: d :: more =>
        let low := order.unit c d
        if 0xDC00 ≤ low ∧ low < 0xE000 then
          (decodeUnits order (position + 4) more).map
            (Char.ofNat (0x10000 + (unit - 0xD800) * 0x400 + (low - 0xDC00)) :: ·)
        else .error ⟨.brokenSurrogatePair, a, position, 2⟩
      | short => .error ⟨.unexpectedEnd, a, position, 2 + short.length⟩

/-- The byte order that a mark at the head of bytes announces, how long the
mark is, and little-endian order without one. -/
def markedOrder : Bytes → ByteOrder × Nat
  | 0xFF :: 0xFE :: _ => (.little, 2)
  | 0xFE :: 0xFF :: _ => (.big, 2)
  | _ => (.little, 0)

end TemplateLookup.Codec
