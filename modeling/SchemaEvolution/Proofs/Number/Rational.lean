import Mathlib.Algebra.Order.Field.Power
import Mathlib.Data.Rat.Cast.Order
import Mathlib.Tactic.FieldSimp
import Mathlib.Tactic.NormNum
import Mathlib.Tactic.Ring
import SchemaEvolution.Number.Binary64

/-!
# The rational numbers that doubles store

A double is a sign, eleven bits of exponent and 52 bits of fraction. Unless the exponent has all its
bits set, these stand for a rational number, and a double is read as an integer exactly if this
number is one (`toInt?_eq_some_iff`).
-/

namespace SchemaEvolution.Binary64

/-- The sign bit. -/
def signField (x : Binary64) : Nat := x.bits.toNat / 0x8000000000000000

/-- The eleven bits of the exponent. -/
def exponentField (x : Binary64) : Nat := x.bits.toNat / 0x10000000000000 % 0x800

/-- The 52 bits of the fraction. -/
def fractionField (x : Binary64) : Nat := x.bits.toNat % 0x10000000000000

/-- The rational number that the fields stand for. The leading one of the fraction is not stored,
and is left out where the exponent is the least one. -/
def toRat (x : Binary64) : ℚ :=
  (-1) ^ x.signField *
    if x.exponentField = 0 then (x.fractionField / 0x10000000000000 : ℚ) * 2 ^ (-1022 : ℤ)
    else (1 + x.fractionField / 0x10000000000000 : ℚ) * 2 ^ ((x.exponentField : ℤ) - 1023)

variable (x : Binary64)

/-! ### Fields -/

theorem bits_lt : x.bits.toNat < 0x10000000000000000 := x.bits.toNat_lt

theorem negative_eq : x.negative = decide (x.signField = 1) := by
  have h := x.bits_lt
  rw [negative, signField, Bool.eq_iff_iff, beq_iff_eq, decide_eq_true_eq, ← UInt64.toNat_inj,
    UInt64.toNat_shiftRight]
  simp [Nat.shiftRight_eq_div_pow]

/-- The sign bit says which sign the number has. -/
theorem neg_one_pow_signField : (-1 : ℚ) ^ x.signField = if x.negative then -1 else 1 := by
  have h := x.bits_lt
  have hfield : x.signField = 0 ∨ x.signField = 1 := by
    rw [signField]
    omega
  rw [negative_eq]
  rcases hfield with hfield | hfield <;> simp [hfield]

theorem magnitude_div : x.magnitude / fractionCount = x.exponentField := by
  have h := x.bits_lt
  rw [magnitude, signWeight, fractionCount, exponentField]
  omega

theorem magnitude_mod : x.magnitude % fractionCount = x.fractionField := by
  rw [magnitude, signWeight, fractionCount, fractionField]
  omega

theorem isFinite_iff : x.isFinite = true ↔ x.exponentField < 0x7FF := by
  rw [isFinite, decide_eq_true_eq, ← magnitude_div, infinityMagnitude, fractionCount]
  omega

/-! ### Significand and exponent -/

/-- Dividing by two to the 52 lowers the exponent. -/
private theorem div_mul_zpow (a : ℚ) (e : ℤ) :
    a / 0x10000000000000 * 2 ^ e = a * 2 ^ (e - 52) := by
  rw [zpow_sub₀ two_ne_zero]
  norm_num
  ring

/-- The number is the significand, scaled by the exponent. -/
theorem toRat_eq : x.toRat =
    (if x.negative then -1 else 1) * ((x.significand : ℚ) * 2 ^ x.exponent) := by
  rw [toRat, neg_one_pow_signField, significand, exponent, magnitude_div, magnitude_mod]
  congr 1
  split
  · next hzero =>
    have hfraction : x.magnitude = x.fractionField := by
      have hdiv := x.magnitude_div
      have hmod := x.magnitude_mod
      rw [fractionCount] at hdiv hmod
      omega
    rw [hfraction, div_mul_zpow]
    norm_num
  · have hone : (1 + x.fractionField / 0x10000000000000 : ℚ) =
        (fractionCount + x.fractionField : Nat) / 0x10000000000000 := by
      rw [fractionCount]
      push_cast
      ring
    rw [hone, div_mul_zpow]
    congr 2
    ring

/-- The quotient is the number without its sign. -/
theorem ratio_eq : (x.ratio.1 : ℚ) / x.ratio.2 = x.significand * 2 ^ x.exponent := by
  rw [ratio]
  rcases Int.le_total 0 x.exponent with hle | hle
  · obtain ⟨n, hn⟩ := Int.eq_ofNat_of_zero_le hle
    simp [hn]
  · obtain ⟨n, hn⟩ := Int.eq_ofNat_of_zero_le (Int.neg_nonneg.mpr hle)
    rw [← neg_neg x.exponent, hn]
    simp [div_eq_mul_inv]

theorem ratio_pos : 0 < x.ratio.2 := Nat.pow_pos (by decide)

/-! ### Integers -/

/-- A quotient is a natural number exactly if the division leaves no rest. -/
private theorem div_eq_natCast_iff {num den k : Nat} (hden : 0 < den) :
    (num : ℚ) / den = k ↔ num % den = 0 ∧ num / den = k := by
  have hne : (den : ℚ) ≠ 0 := Nat.cast_ne_zero.mpr hden.ne'
  rw [div_eq_iff hne, ← Nat.cast_mul, Nat.cast_inj]
  constructor
  · rintro rfl
    exact ⟨Nat.mul_mod_left k den, Nat.mul_div_cancel k hden⟩
  · rintro ⟨hmod, rfl⟩
    exact (Nat.div_mul_cancel (Nat.dvd_of_mod_eq_zero hmod)).symm

/-- A double is read as the integer that it stores, and if it stores none it is not read. -/
theorem toInt?_eq_some_iff {k : Int} :
    x.toInt? = some k ↔ x.exponentField < 0x7FF ∧ x.toRat = k := by
  have hden := x.ratio_pos
  rw [toInt?, ← isFinite_iff, toRat_eq, ← ratio_eq]
  generalize x.ratio = ratio at hden ⊢
  obtain ⟨num, den⟩ := ratio
  cases x.isFinite with
  | false => simp
  | true =>
    by_cases hmod : num % den = 0
    · have hquotient : (num : ℚ) / den = (num / den : Nat) :=
        (div_eq_natCast_iff hden).mpr ⟨hmod, rfl⟩
      have hsigned : (if x.negative then -1 else 1) * ((num / den : Nat) : ℚ) =
          ((if x.negative then -((num / den : Nat) : Int) else (num / den : Nat) : Int) : ℚ) := by
        cases x.negative <;> simp only [Bool.false_eq_true, if_true, if_false, neg_mul, one_mul,
          Int.cast_neg, Int.cast_natCast]
      rw [hquotient, hsigned, Int.cast_inj]
      simp [hmod]
    · have hstores (hstored : (if x.negative then -1 else 1) * ((num : ℚ) / den) = k) : False := by
        have hnonneg : 0 ≤ (num : ℚ) / den := div_nonneg (Nat.cast_nonneg _) (Nat.cast_nonneg _)
        have habs : (num : ℚ) / den = k.natAbs := by
          rw [Nat.cast_natAbs, Int.cast_abs, ← hstored]
          cases x.negative <;> simp [abs_of_nonneg hnonneg]
        exact hmod ((div_eq_natCast_iff hden).mp habs).1
      simp only [hmod, if_true, if_false, reduceCtorEq, true_and, false_iff]
      exact hstores

end SchemaEvolution.Binary64
