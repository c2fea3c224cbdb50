/-
# TemplateLookup.Proofs.Codec.Utf8 -- what is encoded is decoded again

The bytes of a character are told apart from those of any other by the first of them, which also
says how many there are; a character is valid, so its second byte is in the range that the first
one allows (`stepChar_encodeChar`). So decoding the bytes of a text gives the text back
(`decodeUtf8_encode`), also when they arrive as a stream.
-/

import TemplateLookup.Codec.Utf8

namespace TemplateLookup.Codec

/-! ## Bytes as numbers -/

theorem toNat_toUInt8 {n : Nat} (h : n < 0x100) : n.toUInt8.toNat = n := by
  rw [Nat.toUInt8, UInt8.toNat_ofNat']
  exact Nat.mod_eq_of_lt h

theorem lengthFrom?_eq (first : UInt8) :
    lengthFrom? first =
      if first.toNat < 0x80 then some 1
      else if first.toNat < 0xC2 then none
      else if first.toNat < 0xE0 then some 2
      else if first.toNat < 0xF0 then some 3
      else if first.toNat < 0xF5 then some 4
      else none := by
  simp [lengthFrom?, UInt8.lt_iff_toNat_lt]

theorem continues_iff {b : UInt8} : continues b = true ↔ 0x80 ≤ b.toNat ∧ b.toNat < 0xC0 := by
  simp [continues, UInt8.le_iff_toNat_le, UInt8.lt_iff_toNat_lt]

theorem continues_toUInt8 (n : Nat) : continues (0x80 + n % 0x40).toUInt8 = true := by
  rw [continues_iff, toNat_toUInt8 (by omega)]
  omega

/-- The range of a second byte is the range of all others, but for four first bytes: these would
begin a character that has fewer bytes, is a surrogate or is too large. -/
theorem inSecondRange (first : UInt8) {second : UInt8} (hcontinues : continues second = true)
    (hthree : first.toNat = 0xE0 → 0xA0 ≤ second.toNat)
    (hsurrogate : first.toNat = 0xED → second.toNat < 0xA0)
    (hfour : first.toNat = 0xF0 → 0x90 ≤ second.toNat)
    (hlast : first.toNat = 0xF4 → second.toNat < 0x90) :
    (secondRange first).1 ≤ second ∧ second ≤ (secondRange first).2 := by
  have hfirst : ∀ k : UInt8, first = k ↔ first.toNat = k.toNat := fun k => UInt8.toNat_inj.symm
  rw [continues_iff] at hcontinues
  have hrange : secondRange first =
      if first.toNat = 0xE0 then (0xA0, 0xBF)
      else if first.toNat = 0xED then (0x80, 0x9F)
      else if first.toNat = 0xF0 then (0x90, 0xBF)
      else if first.toNat = 0xF4 then (0x80, 0x8F)
      else (0x80, 0xBF) := by
    simp [secondRange, hfirst]
  rw [hrange, UInt8.le_iff_toNat_le, UInt8.le_iff_toNat_le]
  split
  · simp
    omega
  · split
    · simp
      omega
    · split
      · simp
        omega
      · split
        · simp
          omega
        · simp
          omega

/-! ## One character -/

theorem ofNat_eq {c : Char} {n : Nat} (h : n = c.toNat) : Char.ofNat n = c := by
  rw [h, Char.ofNat_toNat]

section

variable {c : Char} (rest : Bytes)

theorem stepChar_one (hone : c.toNat < 0x80) :
    stepChar c.toNat.toUInt8 rest = .char c 1 rest := by
  have hfirst := toNat_toUInt8 (n := c.toNat) (by omega)
  have hlength : lengthFrom? c.toNat.toUInt8 = some 1 := by
    rw [lengthFrom?_eq, hfirst, if_pos hone]
  simp only [stepChar, hlength, ofNat_eq hfirst]

theorem stepChar_two (hone : ¬ c.toNat < 0x80) (htwo : c.toNat < 0x800) :
    stepChar (0xC0 + c.toNat / 0x40).toUInt8 ((0x80 + c.toNat % 0x40).toUInt8 :: rest) =
      .char c 2 rest := by
  have hfirst := toNat_toUInt8 (n := 0xC0 + c.toNat / 0x40) (by omega)
  have hsecond := toNat_toUInt8 (n := 0x80 + c.toNat % 0x40) (by omega)
  have hlength : lengthFrom? (0xC0 + c.toNat / 0x40).toUInt8 = some 2 := by
    rw [lengthFrom?_eq, hfirst, if_neg (by omega), if_neg (by omega), if_pos (by omega)]
  simp only [stepChar, hlength, continues_toUInt8, if_true, hfirst, hsecond]
  rw [ofNat_eq]
  omega

theorem stepChar_three (htwo : ¬ c.toNat < 0x800) (hthree : c.toNat < 0x10000) :
    stepChar (0xE0 + c.toNat / 0x1000).toUInt8
        ((0x80 + c.toNat / 0x40 % 0x40).toUInt8 :: (0x80 + c.toNat % 0x40).toUInt8 :: rest) =
      .char c 3 rest := by
  have hvalid : c.toNat < 0xD800 ∨ (0xDFFF < c.toNat ∧ c.toNat < 0x110000) := c.valid
  have hfirst := toNat_toUInt8 (n := 0xE0 + c.toNat / 0x1000) (by omega)
  have hsecond := toNat_toUInt8 (n := 0x80 + c.toNat / 0x40 % 0x40) (by omega)
  have hthird := toNat_toUInt8 (n := 0x80 + c.toNat % 0x40) (by omega)
  have hlength : lengthFrom? (0xE0 + c.toNat / 0x1000).toUInt8 = some 3 := by
    rw [lengthFrom?_eq, hfirst, if_neg (by omega), if_neg (by omega), if_neg (by omega),
      if_pos (by omega)]
  have hrange := inSecondRange (0xE0 + c.toNat / 0x1000).toUInt8
    (continues_toUInt8 (c.toNat / 0x40)) (by rw [hfirst, hsecond]; omega)
    (by rw [hfirst, hsecond]; omega) (by rw [hfirst, hsecond]; omega)
    (by rw [hfirst, hsecond]; omega)
  simp only [stepChar, hlength, hrange, continues_toUInt8, and_self, if_true, hfirst, hsecond,
    hthird]
  rw [ofNat_eq]
  omega

theorem stepChar_four (hthree : ¬ c.toNat < 0x10000) :
    stepChar (0xF0 + c.toNat / 0x40000).toUInt8
        ((0x80 + c.toNat / 0x1000 % 0x40).toUInt8 :: (0x80 + c.toNat / 0x40 % 0x40).toUInt8 ::
          (0x80 + c.toNat % 0x40).toUInt8 :: rest) = .char c 4 rest := by
  have hvalid : c.toNat < 0xD800 ∨ (0xDFFF < c.toNat ∧ c.toNat < 0x110000) := c.valid
  have hfirst := toNat_toUInt8 (n := 0xF0 + c.toNat / 0x40000) (by omega)
  have hsecond := toNat_toUInt8 (n := 0x80 + c.toNat / 0x1000 % 0x40) (by omega)
  have hthird := toNat_toUInt8 (n := 0x80 + c.toNat / 0x40 % 0x40) (by omega)
  have hfourth := toNat_toUInt8 (n := 0x80 + c.toNat % 0x40) (by omega)
  have hlength : lengthFrom? (0xF0 + c.toNat / 0x40000).toUInt8 = some 4 := by
    rw [lengthFrom?_eq, hfirst, if_neg (by omega), if_neg (by omega), if_neg (by omega),
      if_neg (by omega), if_pos (by omega)]
  have hrange := inSecondRange (0xF0 + c.toNat / 0x40000).toUInt8
    (continues_toUInt8 (c.toNat / 0x1000)) (by rw [hfirst, hsecond]; omega)
    (by rw [hfirst, hsecond]; omega) (by rw [hfirst, hsecond]; omega)
    (by rw [hfirst, hsecond]; omega)
  simp only [stepChar, hlength, hrange, continues_toUInt8, and_self, if_true, hfirst, hsecond,
    hthird, hfourth]
  rw [ofNat_eq]
  omega

end

/-- A character is decoded from its bytes, whatever comes behind them. -/
theorem stepChar_encodeChar (c : Char) (rest : Bytes) :
    ∃ first more, encodeChar c ++ rest = first :: more ∧
      stepChar first more = .char c (encodeChar c).length rest := by
  unfold encodeChar
  dsimp only
  split
  · rename_i hone
    exact ⟨_, _, rfl, stepChar_one rest hone⟩
  · split
    · rename_i hone htwo
      exact ⟨_, _, rfl, stepChar_two rest hone htwo⟩
    · split
      · rename_i htwo hthree
        exact ⟨_, _, rfl, stepChar_three rest htwo hthree⟩
      · rename_i hthree
        exact ⟨_, _, rfl, stepChar_four rest hthree⟩

/-! ## Whole texts -/

theorem encodeChar_length_pos (c : Char) : 0 < (encodeChar c).length := by
  unfold encodeChar
  dsimp only
  split
  · exact Nat.one_pos
  · split
    · exact Nat.two_pos
    · split <;> exact Nat.succ_pos _

theorem decodeFrom_flatMap (cs : List Char) :
    ∀ {fuel : Nat} (position : Nat), (cs.flatMap encodeChar).length ≤ fuel →
      decodeFrom fuel position (cs.flatMap encodeChar) = .ok cs := by
  induction cs with
  | nil =>
    intro fuel position _
    cases fuel <;> rfl
  | cons c rest ih =>
    intro fuel position hfuel
    obtain ⟨first, more, hbytes, hstep⟩ := stepChar_encodeChar c (rest.flatMap encodeChar)
    have hlength := congrArg List.length hbytes
    have hpos := encodeChar_length_pos c
    rw [List.flatMap_cons, hbytes] at hfuel ⊢
    rw [List.length_append] at hlength
    cases fuel with
    | zero => exact absurd hfuel (Nat.not_succ_le_zero _)
    | succ fuel =>
      rw [List.length_cons] at hfuel hlength
      simp only [decodeFrom, hstep]
      rw [ih _ (by omega)]
      rfl

/-- What is encoded is decoded again. -/
theorem decodeUtf8_encode (s : String) : decodeUtf8 (encode s) = .ok s := by
  rw [decodeUtf8, encode, decodeFrom_flatMap s.toList 0 (Nat.le_refl _)]
  show Except.ok (String.ofList s.toList) = _
  rw [String.ofList_toList]

theorem decodeStream_encode (s : String) : decodeStream (encode s) = .ok s := by
  rw [decodeStream, decodeUtf8_encode]

end TemplateLookup.Codec
