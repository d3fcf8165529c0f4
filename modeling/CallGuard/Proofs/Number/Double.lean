import CallGuard.Number.Mixed
import Mathlib.Algebra.Order.Field.Rat
import Mathlib.Algebra.Order.Group.Int
import Mathlib.Data.Rat.Cast.Order
import Mathlib.Order.Compare

namespace CallGuard

/-!
# What binary64 numbers denote

The bits of a number fall into a sign, an exponent and a fraction.  A number whose
exponent is not the largest denotes a rational number, the others are the two
infinities and the NaNs.  Units are a convenience: they count in steps of `2⁻¹⁰⁷⁴`.
-/

namespace Double

/-! ## The fields -/

theorem bits_eq_fields (x : Double) :
    x.bits.toNat =
      (if x.isNegative then 2 ^ 63 else 0) + x.exponentField * 2 ^ 52 + x.fractionField := by
  have small : x.bits.toNat < 2 ^ 64 := x.bits.toNat_lt
  unfold isNegative exponentField fractionField
  simp only [Nat.pow_eq, decide_eq_true_eq]
  split <;> omega

theorem exponentField_lt (x : Double) : x.exponentField < 2 ^ 11 :=
  Nat.mod_lt _ (by decide)

theorem fractionField_lt (x : Double) : x.fractionField < 2 ^ 52 :=
  Nat.mod_lt _ (by decide)

section ofSize

variable (negative : Bool) {size : Nat}

theorem bits_ofSize (small : size < 2 ^ 63) :
    (ofSize negative size).bits.toNat = (if negative then 2 ^ 63 else 0) + size := by
  unfold ofSize
  rw [UInt64.toNat_ofNat', Nat.pow_eq]
  cases negative with
  | true => exact Nat.mod_eq_of_lt (by simp only [↓reduceIte]; omega)
  | false => simp only [Bool.false_eq_true, ↓reduceIte]; omega

theorem isNegative_ofSize (small : size < 2 ^ 63) :
    (ofSize negative size).isNegative = negative := by
  unfold isNegative
  rw [bits_ofSize negative small, Nat.pow_eq]
  cases negative with
  | true => simp
  | false => simpa using small

theorem exponentField_ofSize (small : size < 2 ^ 63) :
    (ofSize negative size).exponentField = size / 2 ^ 52 := by
  unfold exponentField
  rw [bits_ofSize negative small, Nat.pow_eq, Nat.pow_eq]
  split <;> omega

theorem fractionField_ofSize (small : size < 2 ^ 63) :
    (ofSize negative size).fractionField = size % 2 ^ 52 := by
  unfold fractionField
  rw [bits_ofSize negative small, Nat.pow_eq]
  split <;> omega

end ofSize

theorem isNaN_of_isFinite
    {x : Double}
    (finite : x.isFinite = true) :
    x.isNaN = false := by
  have small : x.exponentField < 2047 := of_decide_eq_true finite
  simp [isNaN, Nat.ne_of_lt small]

/-- What is neither finite nor a NaN is the infinity of its sign. -/
theorem eq_infinity
    {x : Double}
    (notFinite : x.isFinite = false)
    (notNaN : x.isNaN = false) :
    x = infinity x.isNegative := by
  have largest : x.exponentField = 2047 := by
    have small := x.exponentField_lt
    have notLess : ¬x.exponentField < 2047 := of_decide_eq_false notFinite
    omega
  have noFraction : x.fractionField = 0 := by
    simpa [isNaN, largest] using notNaN
  have sameBits : x.bits.toNat = (infinity x.isNegative).bits.toNat := by
    rw [infinity, bits_ofSize _ (by decide), bits_eq_fields, largest, noFraction]
    rfl
  have same : x.bits = (infinity x.isNegative).bits := UInt64.toNat.inj sameBits
  exact congrArg Double.mk same

/-- The three kinds of binary64 numbers. -/
theorem isFinite_or_infinity_or_isNaN (x : Double) :
    x.isFinite = true ∨ (∃ negative, x = infinity negative) ∨ x.isNaN = true := by
  cases finite : x.isFinite with
  | true => exact .inl rfl
  | false =>
      cases nan : x.isNaN with
      | true => exact .inr (.inr rfl)
      | false => exact .inr (.inl ⟨x.isNegative, eq_infinity finite nan⟩)

theorem ne_infinity_of_isFinite
    {x : Double}
    (finite : x.isFinite = true)
    (negative : Bool) :
    x ≠ infinity negative := by
  rintro rfl
  cases negative <;> exact absurd finite (by decide)

end Double

namespace Extended

open Double

theorem ofDouble?_of_isFinite
    {x : Double}
    (finite : x.isFinite = true) :
    ofDouble? x = some (.finite x.units) := by
  simp [ofDouble?, finite]

theorem ofDouble?_infinity (negative : Bool) :
    ofDouble? (infinity negative) =
      some (if negative then .negativeInfinity else .positiveInfinity) := by
  cases negative <;> decide

/-- Every binary64 number but a NaN denotes a point. -/
theorem ofDouble?_eq_none_iff {x : Double} :
    ofDouble? x = none ↔ x.isNaN = true := by
  unfold ofDouble?
  split
  case isTrue finite => simp [isNaN_of_isFinite finite]
  case isFalse =>
    split
    case isTrue nan => simp [nan]
    case isFalse notNaN => split <;> simp [notNaN]

end Extended

namespace Double

/-! ## Finite numbers -/

/-- The size of a finite number in units. -/
def magnitude (x : Double) : Nat :=
  x.significand * 2 ^ x.step

theorem units_eq (x : Double) :
    x.units = if x.isNegative then -(x.magnitude : Int) else x.magnitude := by
  simp [units, magnitude]

/--
The rational number that a finite number denotes: its significand at the place that its
exponent gives, with its sign.
-/
def toRat (x : Double) : ℚ :=
  (if x.isNegative then -1 else 1) * x.significand * 2 ^ ((x.step : ℤ) - 1074)

theorem unitsPerOne_eq : unitsPerOne = 2 ^ 1074 := by
  unfold unitsPerOne
  -- Neither power is to be computed.
  generalize 1074 = exponent
  rfl

theorem unitsPerOne_pos : 0 < unitsPerOne := by
  rw [unitsPerOne_eq]
  apply pow_pos
  exact two_pos

/-- Different integers are different points. -/
theorem ofInt_inj {n m : Int} :
    Extended.ofInt n = Extended.ofInt m ↔ n = m := by
  have positive := unitsPerOne_pos
  unfold unitsPerOne at positive
  unfold Extended.ofInt
  generalize Nat.pow 2 1074 = units at positive ⊢
  rw [Extended.finite.injEq]
  exact mul_left_inj' (Int.natCast_ne_zero.mpr positive.ne')

theorem toRat_eq (x : Double) :
    x.toRat = x.units / unitsPerOne := by
  have place : (2 : ℚ) ^ ((x.step : ℤ) - 1074) = 2 ^ x.step / unitsPerOne := by
    rw [unitsPerOne_eq, zpow_sub₀ two_ne_zero, zpow_natCast, Nat.cast_pow]
    rfl
  have size : (x.magnitude : ℚ) = x.significand * 2 ^ x.step := by
    rw [magnitude, Nat.cast_mul, Nat.cast_pow, Nat.cast_ofNat]
  rw [toRat, place, units_eq]
  cases x.isNegative with
  | true =>
      simp only [↓reduceIte, Int.cast_neg, Int.cast_natCast, size]
      rw [neg_one_mul, neg_mul, ← mul_div_assoc, neg_div]
  | false =>
      simp only [Bool.false_eq_true, ↓reduceIte, Int.cast_natCast, size]
      rw [one_mul, mul_div_assoc]

/-- Integers are compared with a finite number as rational numbers are. -/
theorem compare_units
    (n : Int)
    (x : Double) :
    compare (n * unitsPerOne) x.units = compare (n : ℚ) x.toRat := by
  have positive : (0 : ℚ) < unitsPerOne := Nat.cast_pos.mpr unitsPerOne_pos
  have scaled : StrictMono fun units : Int => (units : ℚ) / unitsPerOne := by
    intro units others less
    exact (div_lt_div_iff_of_pos_right positive).mpr (Int.cast_lt.mpr less)
  have whole : ((n * unitsPerOne : Int) : ℚ) / unitsPerOne = n := by
    rw [Int.cast_mul, Int.cast_natCast]
    exact mul_div_cancel_right₀ _ positive.ne'
  rw [← cmp_eq_compare, ← cmp_eq_compare, ← scaled.cmp_map_eq, whole, toRat_eq]

end Double

end CallGuard
