/-
# TemplateLookup.Proofs.Text.Digit -- hexadecimal digits are read back

A number below a power of sixteen has as many digits as the exponent says, and reading these
digits gives the number (`hexNumber?_hexDigits`). All of them are letters and digits of ASCII.
-/

import Mathlib.Algebra.Group.Nat.Defs
import TemplateLookup.Text.Digit

namespace TemplateLookup.Text

/-! ## One digit -/

theorem hexValue?_hexDigit {n : Nat} (h : n < 16) : hexValue? (hexDigit n) = some n := by
  have hall : ∀ n < 16, hexValue? (hexDigit n) = some n := by decide
  exact hall n h

theorem hexDigit_printable {n : Nat} (h : n < 16) :
    32 ≤ (hexDigit n).toNat ∧ (hexDigit n).toNat < 127 := by
  have hall : ∀ n < 16, 32 ≤ (hexDigit n).toNat ∧ (hexDigit n).toNat < 127 := by decide
  exact hall n h

/-! ## Runs of digits -/

theorem hexNumber?_append_digit {ds : List Char} {m n : Nat} (h : hexNumber? ds = some m)
    (hn : n < 16) : hexNumber? (ds ++ [hexDigit n]) = some (m * 16 + n) := by
  rw [hexNumber?] at h
  rw [hexNumber?, List.foldlM_append, h]
  simp [hexValue?_hexDigit hn]

/-- What is written in as many digits as it needs is read back. -/
theorem hexNumber?_hexDigits {width n : Nat} (h : n < 16 ^ width) :
    hexNumber? (hexDigits width n) = some n := by
  induction width generalizing n with
  | zero =>
    have hzero : n = 0 := by simpa using h
    rw [hzero]
    rfl
  | succ width ih =>
    have hhead : n / 16 < 16 ^ width := by
      rw [Nat.pow_succ] at h
      exact Nat.div_lt_of_lt_mul (by omega)
    rw [hexDigits, hexNumber?_append_digit (ih hhead) (Nat.mod_lt n (by decide))]
    congr 1
    omega

theorem hexDigits_printable {width n : Nat} {c : Char} (h : c ∈ hexDigits width n) :
    32 ≤ c.toNat ∧ c.toNat < 127 := by
  induction width generalizing n with
  | zero => cases h
  | succ width ih =>
    rw [hexDigits] at h
    rcases List.mem_append.mp h with hhead | hlast
    · exact ih hhead
    · rw [List.mem_singleton.mp hlast]
      exact hexDigit_printable (Nat.mod_lt n (by decide))

end TemplateLookup.Text
