/-
# TemplateLookup.Proofs.World.FileTime -- which changes of a time show in its stamp

A stamp is the number of seconds of a file time after three roundings: of a billionth, of the
fraction of the second, and of the sum. Below `2^k` seconds these lead away from the time by
no more than `2^k + 3` parts, where `2^54` parts make a second (`stamp_near`). So times that
are further apart than twice that have different stamps (`stamps_differ`); until the year 2242
this is less than a microsecond. Less may be lost: a fraction of a second that is small
beside the seconds does not show at all (`stamp_lost`).
-/

import TemplateLookup.Proofs.Number.Rounding
import TemplateLookup.World.FileTime

namespace TemplateLookup.FileTime

open Number Number.Binary64

/-! ## Measures -/

/-- The nanoseconds since the epoch. -/
def total (t : FileTime) : Int := t.seconds * 1000000000 + t.nanoseconds

/-- The seconds have at most `k` bits, and the nanoseconds stay within a second. -/
structure Within (k : Nat) (t : FileTime) : Prop where
  seconds : t.seconds.natAbs < 2 ^ k
  nanoseconds : t.nanoseconds < 1000000000

/-- The accuracy of a billionth, in units. -/
def grain : Nat := 2 ^ (unitBits - 83)

theorem grain_pos : 0 < grain := Nat.two_pow_pos _

theorem one_eq_grain : one = 2 ^ 83 * grain := by decide +kernel

/-- Half of the last place of a count of units that has `k` bits more than one. -/
theorem two_pow_eq_grain (k : Nat) : 2 ^ (k + unitBits - 53) = 2 * (2 ^ k * 2 ^ 29 * grain) := by
  have hbits : k + unitBits - 53 = 1 + (k + 29 + (unitBits - 83)) := by
    have hunit : unitBits = 1074 := rfl
    omega
  rw [hbits, Nat.pow_add, Nat.pow_add, Nat.pow_add, grain]

/-- What is near a fraction of a second stays below one. -/
theorem lt_one_of_near {nanoseconds : Nat} (hn : nanoseconds < 1000000000) {x : Int}
    (h : (1000000000 * x - nanoseconds * one).natAbs ≤ 1000000000 * (3 * 2 ^ 29 * grain)) :
    x.natAbs < one := by
  have hone := one_eq_grain
  have hgrain := grain_pos
  have hsmall : nanoseconds * one ≤ 999999999 * one := Nat.mul_le_mul_right one (by omega)
  -- the names stand for numbers of hundreds of digits, which must not be computed
  generalize one = unit at *
  generalize grain = g at *
  omega

/-! ## The error of the fraction -/

theorem billionth_nonneg : 0 ≤ billionth := by decide +kernel

/-- A billionth is rounded to 53 bits. -/
theorem billionth_near : (1000000000 * billionth - one).natAbs ≤ 1000000000 * grain := by
  decide +kernel

section

variable {t : FileTime} (ht : t.nanoseconds < 1000000000)

include ht

/-- The error of a billionth is multiplied. -/
theorem billionths_near :
    (1000000000 * (billionth * t.nanoseconds) - t.nanoseconds * one).natAbs ≤
      1000000000 * (1000000000 * grain) := by
  have hfactor : 1000000000 * (billionth * t.nanoseconds) - t.nanoseconds * one =
      t.nanoseconds * (1000000000 * billionth - one) := by ring
  rw [hfactor, Int.natAbs_mul, Int.natAbs_natCast]
  exact Nat.mul_le_mul (by omega) billionth_near

/-- The product stays below one. -/
theorem billionths_lt : (billionth * t.nanoseconds).natAbs < 2 ^ unitBits := by
  rw [← one_eq]
  apply lt_one_of_near ht
  exact (billionths_near ht).trans (Nat.mul_le_mul_left _ (Nat.mul_le_mul_right grain (by omega)))

theorem fraction_near :
    (1000000000 * t.fraction.value - t.nanoseconds * one).natAbs ≤
      1000000000 * (3 * 2 ^ 29 * grain) := by
  have hproduct := billionths_near ht
  have hround := ofUnits_near (billionths_lt ht) (Nat.lt_add_of_pos_right (by omega))
  have hhalf := two_pow_eq_grain 0
  rw [Nat.zero_add] at hhalf
  rw [fraction]
  generalize (ofUnits (billionth * t.nanoseconds)).value = f at *
  generalize billionth * (t.nanoseconds : Int) = p at *
  generalize 2 ^ (unitBits - 53) = half at *
  generalize one = unit at *
  generalize grain = g at *
  omega

theorem fraction_nonneg : 0 ≤ t.fraction.value := by
  have hproduct : ¬ billionth * t.nanoseconds < 0 :=
    Int.not_lt.mpr (Int.mul_nonneg billionth_nonneg (Int.natCast_nonneg _))
  rw [fraction, ofUnits_eq (billionths_lt ht) (Nat.lt_add_of_pos_right (by omega)),
    value_finite, if_neg hproduct]
  exact Int.natCast_nonneg _

/-- The fraction is a natural count of units. -/
theorem exists_fraction :
    ∃ rest : Nat, t.fraction.value = rest ∧
      1000000000 * rest ≤ t.nanoseconds * one + 1000000000 * (3 * 2 ^ 29 * grain) := by
  obtain ⟨rest, hrest⟩ := Int.eq_ofNat_of_zero_le (fraction_nonneg ht)
  have hnear := fraction_near ht
  rw [hrest] at hnear
  refine ⟨rest, hrest, ?_⟩
  generalize one = unit at *
  generalize grain = g at *
  omega

end

/-! ## The error of the stamp -/

theorem stamp_eq {t : FileTime} (h : t.seconds.natAbs < 2 ^ 53) :
    t.stamp = ofUnits (t.seconds * one + t.fraction.value) := by
  unfold stamp
  rw [← value_ofInt h, value, value]

/-- The sum stays below the next power of two. -/
theorem sum_lt {t : FileTime} {k : Nat} (h : t.Within k) :
    (t.seconds * one + t.fraction.value).natAbs < 2 ^ (unitBits + k) := by
  have hfraction := lt_one_of_near h.nanoseconds (fraction_near h.nanoseconds)
  have hseconds : (t.seconds * one).natAbs + one ≤ 2 ^ k * one := by
    rw [Int.natAbs_mul, Int.natAbs_natCast, ← Nat.succ_mul]
    exact Nat.mul_le_mul_right one h.seconds
  rw [Nat.pow_add, ← one_eq, Nat.mul_comm]
  generalize 2 ^ k * one = bound at *
  generalize t.seconds * (one : Int) = s at *
  generalize t.fraction.value = f at *
  generalize one = unit at *
  omega

/-- A stamp is off by at most `2^k + 3` parts of which `2^54` make a second; here everything
is counted in billionths of units. -/
theorem stamp_near {t : FileTime} {k : Nat} (hk : k ≤ 53) (h : t.Within k) :
    (1000000000 * t.stamp.value - t.total * one).natAbs ≤
      1000000000 * ((2 ^ k + 3) * (2 ^ 29 * grain)) := by
  have hbits : 2 ^ k ≤ 2 ^ 53 := Nat.pow_le_pow_right (by omega) hk
  have hfraction := fraction_near h.nanoseconds
  have hround := ofUnits_near (sum_lt h) (Nat.add_lt_add_left (by omega) unitBits)
  rw [Nat.add_comm unitBits, two_pow_eq_grain, ← stamp_eq (h.seconds.trans_le hbits)] at hround
  have htotal : t.total * one = 1000000000 * (t.seconds * one) + t.nanoseconds * one := by
    rw [total]
    ring
  have hparts : (2 ^ k + 3) * (2 ^ 29 * grain) = 2 ^ k * 2 ^ 29 * grain + 3 * 2 ^ 29 * grain := by
    ring
  rw [htotal, hparts]
  generalize t.fraction.value = f at *
  generalize t.stamp.value = v at *
  generalize 2 ^ k = bound at *
  generalize one = unit at *
  generalize grain = g at *
  omega

/-! ## Different stamps -/

/-- Two times are apart when the distance exceeds what both roundings can make up for. -/
def Apart (t t' : FileTime) : Prop :=
  ∃ k ≤ 53, t.Within k ∧ t'.Within k ∧
    1000000000 * (2 ^ k + 3) < (t.total - t'.total).natAbs * 2 ^ 53

/-- Times that are apart have different stamps. -/
theorem stamps_differ {t t' : FileTime} (h : t.Apart t') : t.stamp.same t'.stamp = false := by
  obtain ⟨k, hk, ht, ht', hdistance⟩ := h
  apply Bool.eq_false_iff.mpr
  intro hsame
  have hnear := stamp_near hk ht
  have hnear' := stamp_near hk ht'
  rw [value_eq_of_same hsame] at hnear
  have hdifference : (t.total - t'.total) * one = t.total * one - t'.total * one := by ring
  have hunits : (t.total - t'.total).natAbs * one ≤
      2 * (1000000000 * ((2 ^ k + 3) * (2 ^ 29 * grain))) := by
    rw [← Int.natAbs_natCast one, ← Int.natAbs_mul, hdifference]
    generalize t.total * (one : Int) = x at *
    generalize t'.total * (one : Int) = y at *
    generalize 1000000000 * ((2 ^ k + 3) * (2 ^ 29 * grain)) = e at *
    generalize t'.stamp.value = v at *
    omega
  -- one is `2^53` times the last factor
  have hone : (t.total - t'.total).natAbs * one =
      (t.total - t'.total).natAbs * 2 ^ 53 * (2 ^ 30 * grain) := by
    rw [one_eq_grain]
    ring
  have herror : 2 * (1000000000 * ((2 ^ k + 3) * (2 ^ 29 * grain))) =
      1000000000 * (2 ^ k + 3) * (2 ^ 30 * grain) := by ring
  have hpos : 0 < 2 ^ 30 * grain := Nat.mul_pos (by omega) grain_pos
  generalize (t.total - t'.total).natAbs = distance at *
  generalize 2 ^ 30 * grain = factor at *
  rw [hone, herror] at hunits
  exact absurd (Nat.le_of_mul_le_mul_right hunits hpos) (Nat.not_le.mpr hdistance)

/-! ## Equal stamps -/

/-- Twice the fraction against a power of two of seconds, both counted in grains. -/
theorem rest_lt {unit g n rest bound : Nat} (hunit : unit = 2 ^ 83 * g) (hg : 0 < g)
    (hrest : 1000000000 * rest ≤ n * unit + 1000000000 * (3 * 2 ^ 29 * g))
    (hn : n * 2 ^ 53 + 2000000000 ≤ 1000000000 * bound) :
    2 * rest < 2 ^ 31 * (bound * g) := by
  have hscaled := Nat.mul_le_mul_right g hn
  have hleft : (n * 2 ^ 53 + 2000000000) * g = 2 ^ 53 * (n * g) + 2000000000 * g := by ring
  have hright : 1000000000 * bound * g = 1000000000 * (bound * g) := by ring
  have hproduct : n * unit = 2 ^ 83 * (n * g) := by
    rw [hunit]
    ring
  rw [hleft, hright] at hscaled
  rw [hproduct] at hrest
  omega

/-- A fraction that is less than half of the last place of its seconds is lost. -/
theorem stamp_lost {seconds nanoseconds m : Nat} (hlow : 2 ^ m ≤ seconds)
    (hhigh : seconds < 2 ^ 53)
    (hsmall : nanoseconds * 2 ^ 53 + 2000000000 ≤ 1000000000 * 2 ^ m) :
    stamp ⟨seconds, nanoseconds⟩ = .finite false (seconds * one) := by
  have hnanoseconds : nanoseconds < 1000000000 := by omega
  obtain ⟨rest, hrest, hnear⟩ := exists_fraction (t := ⟨seconds, nanoseconds⟩) hnanoseconds
  have hunits : (seconds : Int) * one + rest = (seconds * one + rest : Nat) := by
    rw [Int.natCast_add, Int.natCast_mul]
  have hbound := sum_lt (t := ⟨seconds, nanoseconds⟩) ⟨hhigh, hnanoseconds⟩
  dsimp only at hbound hnear
  rw [hrest, hunits, Int.natAbs_natCast] at hbound
  -- the fraction is less than half of the last place
  have hplace : 2 ^ (m + 1 + unitBits - 53) ≤ 2 ^ lastPlace (seconds * one + rest) := by
    have hle : 2 ^ (m + unitBits) ≤ seconds * one + rest := by
      rw [Nat.pow_add, ← one_eq]
      exact (Nat.mul_le_mul_right one hlow).trans (Nat.le_add_right _ rest)
    have hlast := le_lastPlace hle
    apply Nat.pow_le_pow_right (by omega)
    generalize unitBits = bits at *
    omega
  have hlost : 2 * rest < 2 ^ (m + 1 + unitBits - 53) := by
    have hlast : 2 * (2 ^ (m + 1) * 2 ^ 29 * grain) = 2 ^ 31 * (2 ^ m * grain) := by ring
    rw [two_pow_eq_grain, hlast]
    exact rest_lt one_eq_grain grain_pos hnear hsmall
  have hrounded : rounded (seconds * one + rest) = seconds * one := by
    have hhalf := hlost.trans_le hplace
    rw [one_eq] at hbound hhalf ⊢
    exact rounded_add hhalf hbound
  have hpositive : ¬ ((seconds * one + rest : Nat) : Int) < 0 :=
    Int.not_lt.mpr (Int.natCast_nonneg _)
  rw [← Int.natAbs_natCast (seconds * one + rest)] at hbound
  have hstamp := stamp_eq (t := ⟨seconds, nanoseconds⟩) hhigh
  dsimp only at hstamp
  rw [hstamp, hrest, hunits, ofUnits_eq hbound (Nat.add_lt_add_left (by omega) unitBits),
    Int.natAbs_natCast, hrounded, decide_eq_false hpositive]

end TemplateLookup.FileTime
