/-
# TemplateLookup.Proofs.Number.Rounding -- how far a rounding goes

Every rounding comes down to that of a whole count of units (`ofRatio_eq`): the count is
rounded to a multiple of its last place. The result is not further away than half of it, and
below `2^m` units the last place is at most `2^(m - 53)` (`rounded_near`). So less than half
of the last place is lost when it is added to a multiple (`rounded_add`), and whole numbers
below `2^53` stay what they are (`value_ofInt`).
-/

import TemplateLookup.Number.Binary64
import Mathlib.Algebra.Order.Ring.Int
import Mathlib.Tactic.Ring

namespace TemplateLookup.Number

/-! ## Nearest whole numbers -/

/-- A common factor does not matter. -/
theorem nearestEven_mul (num : Nat) {den c : Nat} (hc : 0 < c) :
    nearestEven (num * c) (den * c) = nearestEven num den := by
  unfold nearestEven
  simp only [Nat.mul_div_mul_right num den hc, Nat.mul_mod_mul_right, ← Nat.mul_assoc,
    Nat.mul_lt_mul_right hc]

/-- Less than a half is lost. -/
theorem nearestEven_add {den r : Nat} (q : Nat) (hr : 2 * r < den) :
    nearestEven (q * den + r) den = q := by
  have hden : 0 < den := by omega
  have hdiv : (q * den + r) / den = q := by
    rw [Nat.mul_comm, Nat.mul_add_div hden, Nat.div_eq_of_lt (by omega), Nat.add_zero]
  have hmod : (q * den + r) % den = r := by
    rw [Nat.mul_comm, Nat.mul_add_mod, Nat.mod_eq_of_lt (by omega)]
  rw [nearestEven, hdiv, hmod]
  exact if_pos hr

/-- The error is at most a half. -/
theorem nearestEven_near (num : Nat) {den : Nat} (hden : 0 < den) :
    2 * (((nearestEven num den * den : Nat) : Int) - num).natAbs ≤ den := by
  have hnum : num = num / den * den + num % den := by
    rw [Nat.mul_comm]
    exact (Nat.div_add_mod num den).symm
  have hr : num % den < den := Nat.mod_lt num hden
  rw [nearestEven]
  generalize num / den = q at *
  generalize num % den = r at *
  have hnext : (q + 1) * den = q * den + den := by ring
  split
  · omega
  · split
    · omega
    · -- a half is rounded down or up
      rcases Nat.mod_two_eq_zero_or_one q with heven | hodd
      · rw [heven, Nat.add_zero]
        omega
      · rw [hodd]
        omega

namespace Binary64

/-! ## Counts of units -/

/-- One is this power of two in units. -/
def unitBits : Nat := 1074

theorem one_eq : one = 2 ^ unitBits := by decide +kernel

theorem limit_eq : limit = 2 ^ (unitBits + 1024) := by decide +kernel

theorem one_pos : 0 < one := by
  rw [one_eq]
  exact Nat.two_pow_pos unitBits

theorem lastPlace_le {units m : Nat} (h : units < 2 ^ m) : lastPlace units ≤ m - 53 := by
  rw [lastPlace]
  by_cases hzero : units = 0
  · rw [hzero, Nat.log2_zero]
    omega
  · have hlog := (Nat.log2_lt hzero).mpr h
    omega

theorem le_lastPlace {units m : Nat} (h : 2 ^ m ≤ units) : m - 52 ≤ lastPlace units := by
  have hzero : units ≠ 0 := by
    have hpos := Nat.two_pow_pos m
    omega
  have hlog := (Nat.le_log2 hzero).mpr h
  rw [lastPlace]
  omega

/-- A count of units rounded to a multiple of its last place. -/
def rounded (units : Nat) : Nat :=
  nearestEven units (2 ^ lastPlace units) * 2 ^ lastPlace units

/-- A count below `2^m` is rounded by at most half of `2^(m - 53)`. -/
theorem rounded_near {units m : Nat} (h : units < 2 ^ m) :
    2 * ((rounded units : Int) - units).natAbs ≤ 2 ^ (m - 53) := by
  have hplace : 2 ^ lastPlace units ≤ 2 ^ (m - 53) :=
    Nat.pow_le_pow_right (by omega) (lastPlace_le h)
  exact (nearestEven_near units (Nat.two_pow_pos _)).trans hplace

theorem rounded_lt {units m : Nat} (h : units < 2 ^ m) : rounded units < 2 ^ (m + 1) := by
  have hnear := rounded_near h
  have hsmall : 2 ^ (m - 53) ≤ 2 ^ m := Nat.pow_le_pow_right (by omega) (by omega)
  rw [Nat.pow_succ]
  omega

/-- What is added to a multiple of a power of two is lost, if it is less than half of the last
place. -/
theorem rounded_add {q r e : Nat} (hr : 2 * r < 2 ^ lastPlace (q * 2 ^ e + r))
    (hbound : q * 2 ^ e + r < 2 ^ (e + 53)) : rounded (q * 2 ^ e + r) = q * 2 ^ e := by
  have hplace : lastPlace (q * 2 ^ e + r) ≤ e := lastPlace_le hbound
  unfold rounded
  generalize lastPlace (q * 2 ^ e + r) = place at *
  -- the count is a multiple of its last place, and a rest
  have hsplit : q * 2 ^ e = q * 2 ^ (e - place) * 2 ^ place := by
    rw [Nat.mul_assoc, ← Nat.pow_add, Nat.sub_add_cancel hplace]
  rw [hsplit, nearestEven_add _ hr]

/-- A multiple of a power of two by at most 53 bits is not rounded. -/
theorem rounded_mul {q : Nat} (h : q < 2 ^ 53) (e : Nat) : rounded (q * 2 ^ e) = q * 2 ^ e := by
  have hbound : q * 2 ^ e + 0 < 2 ^ (e + 53) := by
    rw [Nat.pow_add, Nat.mul_comm (2 ^ e)]
    exact Nat.mul_lt_mul_of_pos_right h (Nat.two_pow_pos e)
  exact rounded_add (r := 0) (Nat.two_pow_pos _) hbound

/-! ## Rounding -/

/-- A quotient that is a whole count of units is rounded as this count. -/
theorem ofRatio_eq {num den units : Nat} (negative : Bool) (hden : 0 < den)
    (h : num * one = units * den) (hlimit : rounded units < limit) :
    ofRatio negative num den = .finite negative (rounded units) := by
  have hunits : units * den / den = units := Nat.mul_div_cancel units hden
  unfold ofRatio
  dsimp only [Nat.pow_eq]
  rw [h, hunits, Nat.mul_comm den, nearestEven_mul units hden]
  exact if_pos hlimit

/-- The signed count of units of a finite number. -/
def value (x : Binary64) : Int := x.units?.getD 0

theorem value_eq_of_same {x y : Binary64} (h : x.same y = true) : x.value = y.value := by
  unfold same at h
  split at h
  · rename_i s a t b
    simp only [Bool.and_eq_true, Bool.or_eq_true, decide_eq_true_eq] at h
    obtain ⟨rfl, rfl | rfl⟩ := h
    · rfl
    · cases s <;> cases t <;> rfl
  · rfl
  · cases h

theorem lt_limit {units m : Nat} (h : units < 2 ^ m) (hm : m ≤ unitBits + 1024) :
    units < limit := by
  rw [limit_eq]
  exact h.trans_le (Nat.pow_le_pow_right (by omega) hm)

theorem value_finite (u : Int) (n : Nat) :
    (finite (u < 0) n).value = if u < 0 then -(n : Int) else n := by
  by_cases hu : u < 0 <;> simp [value, units?, hu]

theorem ofUnits_eq {u : Int} {m : Nat} (h : u.natAbs < 2 ^ m) (hm : m < unitBits + 1024) :
    ofUnits u = .finite (u < 0) (rounded u.natAbs) :=
  ofRatio_eq _ one_pos rfl (lt_limit (rounded_lt h) hm)

/-- A count below `2^m` is rounded by at most half of `2^(m - 53)`. -/
theorem ofUnits_near {u : Int} {m : Nat} (h : u.natAbs < 2 ^ m) (hm : m < unitBits + 1024) :
    2 * ((ofUnits u).value - u).natAbs ≤ 2 ^ (m - 53) := by
  have hnear := rounded_near h
  rw [ofUnits_eq h hm, value_finite]
  split <;> omega

/-- Whole numbers below `2^53` are not rounded. -/
theorem value_ofInt {n : Int} (h : n.natAbs < 2 ^ 53) : (ofInt n).value = n * one := by
  have hunits : rounded (n.natAbs * one) = n.natAbs * one := by
    rw [one_eq]
    exact rounded_mul h unitBits
  have hlimit : n.natAbs * one < 2 ^ (unitBits + 53) := by
    rw [one_eq, Nat.pow_add, Nat.mul_comm (2 ^ unitBits)]
    exact Nat.mul_lt_mul_of_pos_right h (Nat.two_pow_pos unitBits)
  have hrounded : rounded (n.natAbs * one) < limit := by
    rw [hunits]
    exact lt_limit hlimit (by omega)
  rw [ofInt, ofRatio_eq _ Nat.one_pos (Nat.mul_one _).symm hrounded, hunits, value_finite]
  by_cases hn : n < 0
  · rw [if_pos hn, Int.natCast_mul, ← Int.neg_mul, Int.ofNat_natAbs_of_nonpos (by omega),
      Int.neg_neg]
  · rw [if_neg hn, Int.natCast_mul, Int.natAbs_of_nonneg (by omega)]

end Binary64

end TemplateLookup.Number
