import CallGuard.Number.Mixed
import CallGuard.Proofs.Number.Double
import CallGuard.Proofs.Value.Twins
import Mathlib.Tactic.GCongr

namespace CallGuard

/-!
# Comparing integers with binary64 numbers is exact

Both a finite binary64 number and an integer are whole numbers of units of `2 ^ (-1074)`.
The 64-bit comparison is followed on these units. Truncation clears the units that are
less than one, whatever the exponent; within the cut-offs the truncated number is a 64-bit
integer; and the rounded difference to the truncated number lies on the side of zero on
which the exact one does.
-/

/-- An integer is compared with a quotient by its whole part, and then by what is left. -/
theorem compare_mul_eq_then
    {unit : Int}
    (positive : 0 < unit)
    (n units : Int) :
    compare (n * unit) units =
      (compare n (units.tdiv unit)).then
        (compare 0 (units - units.tdiv unit * unit)) := by
  have parts := Int.tdiv_mul_add_tmod units unit
  have restBelow := Int.tmod_lt_of_pos units positive
  have restAbove := Int.lt_tmod_of_pos units positive
  rcases lt_trichotomy n (units.tdiv unit) with less | rfl | greater
  · have next : (n + 1) * unit ≤ units.tdiv unit * unit :=
      Int.mul_le_mul_of_nonneg_right less positive.le
    have below : n * unit < units := by
      rw [Int.add_mul, Int.one_mul] at next
      omega
    rw [compare_lt_iff_lt.mpr below, compare_lt_iff_lt.mpr less]
    rfl
  · rw [Std.ReflOrd.compare_self, Ordering.then]
    rcases lt_trichotomy (units.tdiv unit * unit) units with below | equal | above
    · rw [compare_lt_iff_lt.mpr below, compare_lt_iff_lt.mpr (by omega)]
    · rw [compare_eq_iff_eq.mpr equal, compare_eq_iff_eq.mpr (by omega)]
    · rw [compare_gt_iff_gt.mpr above, compare_gt_iff_gt.mpr (by omega)]
  · have next : (units.tdiv unit + 1) * unit ≤ n * unit :=
      Int.mul_le_mul_of_nonneg_right greater positive.le
    have above : units < n * unit := by
      rw [Int.add_mul, Int.one_mul] at next
      omega
    rw [compare_gt_iff_gt.mpr above, compare_gt_iff_gt.mpr greater]
    rfl

/-- The whole part of a quotient stays within whole limits. -/
theorem tdiv_within
    {unit units limit : Int}
    (positive : 0 < unit)
    (limitPositive : 0 < limit)
    (notBelow : -limit * unit ≤ units)
    (notAbove : units < limit * unit) :
    -limit ≤ units.tdiv unit ∧ units.tdiv unit < limit := by
  rcases le_or_gt 0 units with nonnegative | negative
  · rw [Int.tdiv_eq_ediv_of_nonneg nonnegative]
    have low := Int.ediv_nonneg nonnegative positive.le
    have high := Int.ediv_lt_of_lt_mul positive notAbove
    omega
  · have flipped : units.tdiv unit = -(-units / unit) := by
      rw [← Int.tdiv_eq_ediv_of_nonneg (by omega), Int.neg_tdiv, neg_neg]
    have low : 0 ≤ -units / unit := Int.ediv_nonneg (by omega) positive.le
    have high : -units / unit ≤ limit := by
      refine Int.ediv_le_of_le_mul positive ?_
      rw [Int.neg_mul] at notBelow
      omega
    omega

namespace Double

/-! ## Truncation -/

theorem div_mul_add
    (place : Nat)
    (positive : 0 < place)
    (count rest : Nat) :
    (count * place + rest) / place * place = count * place + rest / place * place := by
  rw [Nat.add_comm, Nat.add_mul_div_right _ _ positive, Nat.add_mul, Nat.add_comm]

theorem magnitude_ofSize_add
    (negative : Bool)
    {exponent fraction : Nat}
    (normal : 0 < exponent)
    (exponentSmall : exponent < 2 ^ 11)
    (fractionSmall : fraction < 2 ^ 52) :
    (ofSize negative (exponent * 2 ^ 52 + fraction)).magnitude =
      (2 ^ 52 + fraction) * 2 ^ (exponent - 1) := by
  have small : exponent * 2 ^ 52 + fraction < 2 ^ 63 := by omega
  have exponentIs : (exponent * 2 ^ 52 + fraction) / 2 ^ 52 = exponent := by omega
  have fractionIs : (exponent * 2 ^ 52 + fraction) % 2 ^ 52 = fraction := by omega
  rw [magnitude, significand, step, exponentField_ofSize negative small,
    fractionField_ofSize negative small, exponentIs, fractionIs, if_neg normal.ne',
    Nat.add_comm, Nat.pow_eq]

theorem magnitude_eq_of_normal
    {x : Double}
    (normal : 0 < x.exponentField) :
    x.magnitude = (2 ^ 52 + x.fractionField) * 2 ^ (x.exponentField - 1) := by
  rw [magnitude, significand, step, if_neg normal.ne', Nat.add_comm, Nat.pow_eq]

/-- Truncation clears the bits after the point. -/
theorem truncate_eq_ofSize
    {x : Double}
    (large : 1023 ≤ x.exponentField) :
    x.truncate =
      ofSize x.isNegative
        (x.exponentField * 2 ^ 52 +
          x.fractionField / 2 ^ (1075 - x.exponentField) * 2 ^ (1075 - x.exponentField)) := by
  have lower : x.bits.toNat % 2 ^ 63 = x.exponentField * 2 ^ 52 + x.fractionField := by
    have exponentSmall := x.exponentField_lt
    have fractionSmall := x.fractionField_lt
    rw [bits_eq_fields]
    split <;> omega
  have aligned :
      x.exponentField * 2 ^ 52 =
        x.exponentField * 2 ^ (52 - (1075 - x.exponentField)) *
          2 ^ (1075 - x.exponentField) := by
    rw [Nat.mul_assoc, ← Nat.pow_add]
    congr 2
    omega
  rw [truncate, if_neg (by omega)]
  simp only [Nat.pow_eq]
  rw [lower, aligned, div_mul_add _ (Nat.two_pow_pos _)]

/-- Truncation clears what is worth less than one. -/
theorem magnitude_truncate
    {x : Double}
    (finite : x.isFinite = true) :
    x.truncate.magnitude = x.magnitude / unitsPerOne * unitsPerOne := by
  have exponentSmall : x.exponentField < 2047 := of_decide_eq_true finite
  have fractionSmall := x.fractionField_lt
  by_cases large : 1023 ≤ x.exponentField
  case neg =>
    have small : x.magnitude < unitsPerOne := by
      have significandSmall : x.significand < 2 ^ 53 := by
        rw [significand, Nat.pow_eq]
        split <;> omega
      have placeSmall : 53 + x.step ≤ 1074 := by
        rw [step]
        omega
      rw [magnitude, unitsPerOne_eq]
      calc x.significand * 2 ^ x.step
          < 2 ^ 53 * 2 ^ x.step :=
            Nat.mul_lt_mul_of_pos_right significandSmall (Nat.two_pow_pos _)
        _ = 2 ^ (53 + x.step) := (Nat.pow_add 2 53 x.step).symm
        _ ≤ 2 ^ 1074 := by gcongr; decide
    have nothing : x.truncate.magnitude = 0 := by
      rw [truncate, if_pos (by omega)]
      cases x.isNegative <;> rfl
    rw [nothing, Nat.div_eq_of_lt small, Nat.zero_mul]
  case pos =>
    have normal : 0 < x.exponentField := by omega
    have cleared := Nat.div_mul_le_self x.fractionField (2 ^ (1075 - x.exponentField))
    have aligned :
        2 ^ 52 = 2 ^ (52 - (1075 - x.exponentField)) * 2 ^ (1075 - x.exponentField) := by
      rw [← Nat.pow_add]
      congr 1
      omega
    rw [truncate_eq_ofSize large,
      magnitude_ofSize_add x.isNegative normal (by omega) (by omega),
      magnitude_eq_of_normal normal, aligned, ← div_mul_add _ (Nat.two_pow_pos _), ← aligned]
    by_cases fractional : x.exponentField ≤ 1075
    case pos =>
      have unit :
          unitsPerOne = 2 ^ (1075 - x.exponentField) * 2 ^ (x.exponentField - 1) := by
        rw [unitsPerOne_eq, ← Nat.pow_add]
        congr 1
        omega
      rw [unit, Nat.mul_div_mul_right _ _ (Nat.two_pow_pos _), Nat.mul_assoc]
    case neg =>
      have unit :
          2 ^ (x.exponentField - 1) = 2 ^ (x.exponentField - 1 - 1074) * unitsPerOne := by
        rw [unitsPerOne_eq, ← Nat.pow_add]
        congr 1
        omega
      have noPlaces : 1075 - x.exponentField = 0 := by omega
      rw [noPlaces, Nat.pow_zero, Nat.div_one, Nat.mul_one, unit, ← Nat.mul_assoc,
        Nat.mul_div_cancel _ unitsPerOne_pos]

theorem truncate_finite_and_sign
    {x : Double}
    (finite : x.isFinite = true) :
    x.truncate.isFinite = true ∧ x.truncate.isNegative = x.isNegative := by
  have exponentSmall : x.exponentField < 2047 := of_decide_eq_true finite
  have fractionSmall := x.fractionField_lt
  by_cases large : 1023 ≤ x.exponentField
  case neg =>
    rw [truncate, if_pos (by omega)]
    cases x.isNegative <;> decide
  case pos =>
    have cleared := Nat.div_mul_le_self x.fractionField (2 ^ (1075 - x.exponentField))
    rw [truncate_eq_ofSize large]
    refine ⟨decide_eq_true ?_, isNegative_ofSize _ (by omega)⟩
    rw [exponentField_ofSize _ (by omega)]
    omega

theorem units_truncate
    {x : Double}
    (finite : x.isFinite = true) :
    x.truncate.units = x.units.tdiv unitsPerOne * unitsPerOne := by
  have whole (size : Nat) :
      ((size / unitsPerOne * unitsPerOne : Nat) : Int) =
        (size : Int).tdiv unitsPerOne * unitsPerOne := by
    rw [Int.natCast_mul, Int.ofNat_tdiv]
  rw [units_eq, units_eq, magnitude_truncate finite, (truncate_finite_and_sign finite).2]
  cases x.isNegative with
  | true =>
      simp only [↓reduceIte]
      rw [whole, Int.neg_tdiv, Int.neg_mul]
  | false =>
      simp only [Bool.false_eq_true, ↓reduceIte]
      exact whole x.magnitude

/-! ## The cast -/

theorem toInt_ofIntClamp
    {n : Int}
    (notBelow : -2 ^ 63 ≤ n)
    (notAbove : n < 2 ^ 63) :
    (Int64.ofIntClamp n).toInt = n := by
  have low : Int64.minValue.toInt ≤ n := by
    rw [Int64.toInt_minValue]
    exact notBelow
  have high : n ≤ Int64.maxValue.toInt := by
    rw [Int64.toInt_maxValue]
    exact Int.le_sub_one_of_lt notAbove
  rw [Int64.ofIntClamp, dif_pos low, dif_pos high, Int64.toInt_ofIntLE]

theorem compare_toInt (n m : Int64) : compare n m = compare n.toInt m.toInt := by
  change compareOfLessAndEq n m = compareOfLessAndEq n.toInt m.toInt
  simp only [compareOfLessAndEq, Int64.lt_iff_toInt_lt, Int64.toInt_inj]

/-! ## The rounded difference -/

theorem roundHalfEven_ge (numerator denominator : Nat) :
    numerator / denominator ≤ roundHalfEven numerator denominator := by
  unfold roundHalfEven
  dsimp only
  split
  · exact Nat.le_refl _
  · split
    · split <;> omega
    · omega

theorem magnitude_ofSize_pos
    (negative : Bool)
    {size : Nat}
    (positive : 0 < size)
    (small : size < 2 ^ 63) :
    0 < (ofSize negative size).magnitude := by
  refine Nat.mul_pos ?_ (Nat.two_pow_pos _)
  rw [significand, exponentField_ofSize negative small, fractionField_ofSize negative small,
    Nat.pow_eq]
  split <;> omega

/-- Where a finite number lies, its sign says, unless it is a zero. -/
theorem compare?_zero_ofSize
    (negative : Bool)
    {size : Nat}
    (positive : 0 < size)
    (small : size < 2047 * Nat.pow 2 52) :
    (zero false).compare? (ofSize negative size) =
      some (if negative then .gt else .lt) := by
  rw [Nat.pow_eq] at small
  have finite : (ofSize negative size).isFinite = true := by
    refine decide_eq_true ?_
    rw [exponentField_ofSize negative (by omega)]
    omega
  have sized := magnitude_ofSize_pos negative positive (by omega)
  have nothing : Extended.ofDouble? (zero false) = some (.finite 0) := by decide
  rw [compare?, nothing, Extended.ofDouble?_of_isFinite finite, units_eq,
    isNegative_ofSize negative (by omega)]
  cases negative with
  | true => exact congrArg some (compare_gt_iff_gt.mpr (by simpa using sized))
  | false => exact congrArg some (compare_lt_iff_lt.mpr (by simpa using sized))

/-- A quotient of at least one unit is not rounded to zero. -/
theorem roundedSize_pos
    {numerator denominator : Nat}
    (positive : 0 < denominator)
    (oneUnit : denominator ≤ numerator * unitsPerOne)
    {power : Int}
    (lowest : -1074 ≤ power)
    {scaled : Nat × Nat}
    (isScaled :
      (if power < 0 then
        (numerator * Nat.pow 2 power.natAbs, denominator)
      else
        (numerator, denominator * Nat.pow 2 power.natAbs)) = scaled) :
    0 < (power + 1074).toNat * Nat.pow 2 52 + roundHalfEven scaled.1 scaled.2 := by
  by_cases isLowest : power = -1074
  case pos =>
    -- Only here is the step of the significand one unit.
    have places : Nat.pow 2 power.natAbs = unitsPerOne := by
      unfold unitsPerOne
      congr
      omega
    rw [if_pos (by omega), places] at isScaled
    rw [← isScaled]
    exact Nat.add_pos_right _
      ((Nat.div_pos oneUnit positive).trans_le (roundHalfEven_ge _ denominator))
  case neg =>
    rw [Nat.pow_eq]
    omega

/-- A quotient of at least one unit is rounded to a number of its sign. -/
theorem compare?_zero_ofRatio
    (negative : Bool)
    {numerator denominator : Nat}
    (positive : 0 < denominator)
    (oneUnit : denominator ≤ numerator * unitsPerOne) :
    (zero false).compare? (ofRatio negative numerator denominator) =
      some (if negative then .gt else .lt) := by
  have nonzero : numerator ≠ 0 := by
    rintro rfl
    omega
  unfold ofRatio
  rw [if_neg nonzero]
  dsimp only
  generalize isPower : max _ (-1074) = power
  have lowest : -1074 ≤ power := isPower ▸ le_max_right _ _
  have sized := roundedSize_pos positive oneUnit lowest rfl
  generalize _ + roundHalfEven _ _ = size at sized ⊢
  split
  case isTrue small =>
    exact compare?_zero_ofSize negative sized small
  case isFalse =>
    cases negative <;> decide

/-- Rounding keeps the side of zero on which a difference lies. -/
theorem compare?_zero_sub (x y : Double) :
    (zero false).compare? (x.sub y) = some (compare 0 (x.units - y.units)) := by
  unfold sub
  dsimp only
  by_cases equal : x.units - y.units = 0
  case pos =>
    rw [if_pos equal, equal]
    cases x.isNegative && !y.isNegative <;> decide
  case neg =>
    have oneUnit : unitsPerOne ≤ (x.units - y.units).natAbs * unitsPerOne :=
      Nat.le_mul_of_pos_left _ (Int.natAbs_pos.mpr equal)
    rw [if_neg equal, compare?_zero_ofRatio _ unitsPerOne_pos oneUnit]
    rcases lt_or_gt_of_ne equal with below | above
    · rw [decide_eq_true below, compare_gt_iff_gt.mpr below]
      rfl
    · rw [decide_eq_false above.not_gt, compare_lt_iff_lt.mpr above]
      rfl

/-! ## The cut-offs -/

theorem ofDouble?_limit :
    Extended.ofDouble? limit = some (.finite (2 ^ 63 * unitsPerOne)) := by
  decide +kernel

theorem ofDouble?_neg_limit :
    Extended.ofDouble? limit.neg = some (.finite (-2 ^ 63 * unitsPerOne)) := by
  decide +kernel

theorem isTooLarge_iff
    {x : Double}
    (finite : x.isFinite = true) :
    x.isTooLarge = true ↔ 2 ^ 63 * unitsPerOne ≤ x.units := by
  rw [isTooLarge, compare?, Extended.ofDouble?_of_isFinite finite, ofDouble?_limit]
  simp only [Extended.order, Bool.or_eq_true, beq_iff_eq, Option.some.injEq,
    compare_gt_iff_gt, compare_eq_iff_eq]
  omega

theorem isTooSmall_iff
    {x : Double}
    (finite : x.isFinite = true) :
    x.isTooSmall = true ↔ x.units < -2 ^ 63 * unitsPerOne := by
  rw [isTooSmall, compare?, Extended.ofDouble?_of_isFinite finite, ofDouble?_neg_limit]
  simp only [Extended.order, beq_iff_eq, Option.some.injEq, compare_lt_iff_lt]

/-- Within the cut-offs the truncated number is an integer of 64 bits, and cast to it. -/
theorem toInt64_truncate
    {x : Double}
    (finite : x.isFinite = true)
    (notTooLarge : x.isTooLarge = false)
    (notTooSmall : x.isTooSmall = false) :
    x.truncate.toInt64.toInt = x.units.tdiv unitsPerOne := by
  have positive : (0 : Int) < unitsPerOne := Int.natCast_pos.mpr unitsPerOne_pos
  have notAbove : x.units < 2 ^ 63 * unitsPerOne := by
    rw [← not_le, ← isTooLarge_iff finite, notTooLarge]
    exact Bool.false_ne_true
  have notBelow : -2 ^ 63 * unitsPerOne ≤ x.units := by
    rw [← not_lt, ← isTooSmall_iff finite, notTooSmall]
    exact Bool.false_ne_true
  obtain ⟨low, high⟩ := tdiv_within positive (by decide) notBelow notAbove
  rw [toInt64, Extended.ofDouble?_of_isFinite (truncate_finite_and_sign finite).1,
    units_truncate finite]
  dsimp only
  rw [Int.mul_tdiv_cancel _ positive.ne', toInt_ofIntClamp low high]

/-- The infinities are past the cut-offs. -/
theorem isFinite_of_within
    {x : Double}
    (notNaN : x.isNaN = false)
    (notTooLarge : x.isTooLarge = false)
    (notTooSmall : x.isTooSmall = false) :
    x.isFinite = true := by
  by_contra notFinite
  have isInfinity := eq_infinity (Bool.eq_false_iff.mpr notFinite) notNaN
  cases negative : x.isNegative with
  | true =>
      rw [isInfinity, negative] at notTooSmall
      exact absurd notTooSmall (by decide +kernel)
  | false =>
      rw [isInfinity, negative] at notTooLarge
      exact absurd notTooLarge (by decide +kernel)

/-- The cast that is reached is exact. -/
theorem toInt64_truncate_eq_toRat
    {x : Double}
    (notNaN : x.isNaN = false)
    (notTooLarge : x.isTooLarge = false)
    (notTooSmall : x.isTooSmall = false) :
    (x.truncate.toInt64.toInt : ℚ) = x.truncate.toRat := by
  have finite := isFinite_of_within notNaN notTooLarge notTooSmall
  have nonzero : (unitsPerOne : ℚ) ≠ 0 := Nat.cast_ne_zero.mpr unitsPerOne_pos.ne'
  rw [toInt64_truncate finite notTooLarge notTooSmall, toRat_eq, units_truncate finite,
    Int.cast_mul, Int.cast_natCast, mul_div_cancel_right₀ _ nonzero]

end Double

/-! ## The comparison -/

namespace Value

/-- An integer is compared with a float by the points that they denote. -/
theorem compare?_int_float_eq
    (n : Int)
    (x : Double) :
    (Value.int n).compare? (.float x) =
      (Extended.ofDouble? x).map (Extended.finite (n * Double.unitsPerOne)).order := by
  rw [compare?_of_isNumber rfl, point?, point?]
  unfold Double.unitsPerOne
  cases Extended.ofDouble? x <;> rfl

/-- Between finite numbers the cut-offs and the cast find the order of the points. -/
theorem compareInt64?_of_isFinite
    (n : Int64)
    {x : Double}
    (finite : x.isFinite = true) :
    x.compareInt64? n = some (compare (n.toInt * Double.unitsPerOne) x.units) := by
  have positive : (0 : Int) < Double.unitsPerOne := Int.natCast_pos.mpr Double.unitsPerOne_pos
  have low := n.le_toInt
  have high := n.toInt_lt
  unfold Double.compareInt64?
  rw [if_neg (by simp [Double.isNaN_of_isFinite finite])]
  split
  case isTrue tooLarge =>
    rw [Double.isTooLarge_iff finite] at tooLarge
    have below : n.toInt * Double.unitsPerOne < x.units := by
      have scaled := Int.mul_lt_mul_of_pos_right high positive
      omega
    rw [compare_lt_iff_lt.mpr below]
  case isFalse notTooLarge =>
    split
    case isTrue tooSmall =>
      rw [Double.isTooSmall_iff finite] at tooSmall
      have above : x.units < n.toInt * Double.unitsPerOne := by
        have scaled := Int.mul_le_mul_of_nonneg_right low positive.le
        omega
      rw [compare_gt_iff_gt.mpr above]
    case isFalse notTooSmall =>
      have cast := Double.toInt64_truncate finite (Bool.eq_false_iff.mpr notTooLarge)
        (Bool.eq_false_iff.mpr notTooSmall)
      rw [compare_mul_eq_then positive, Double.compare_toInt, cast,
        Double.compare?_zero_sub, Double.units_truncate finite]
      cases compare n.toInt (x.units.tdiv Double.unitsPerOne) <;> rfl

/-- In 64-bit arithmetic the same order is found as by the points. -/
theorem compareInt64?_eq_compare?
    (n : Int64)
    (x : Double) :
    x.compareInt64? n = (Value.int n.toInt).compare? (.float x) := by
  rw [compare?_int_float_eq]
  rcases x.isFinite_or_infinity_or_isNaN with finite | ⟨negative, rfl⟩ | nan
  · rw [compareInt64?_of_isFinite n finite, Extended.ofDouble?_of_isFinite finite]
    rfl
  · rw [Extended.ofDouble?_infinity]
    cases negative with
    | true =>
        rw [Double.compareInt64?, if_neg (by decide), if_neg (by decide +kernel),
          if_pos (by decide +kernel)]
        rfl
    | false =>
        rw [Double.compareInt64?, if_neg (by decide), if_pos (by decide +kernel)]
        rfl
  · rw [Double.compareInt64?, if_pos nan, Extended.ofDouble?_eq_none_iff.mpr nan]
    rfl

/-- The order of an integer and a float, by the rational number that a float denotes. -/
theorem compare?_int_float_eq_rational
    (n : Int)
    (x : Double) :
    (Value.int n).compare? (.float x) =
      if x.isNaN then
        none
      else if x = .infinity false then
        some .lt
      else if x = .infinity true then
        some .gt
      else
        some (compare (n : ℚ) x.toRat) := by
  rw [compare?_int_float_eq]
  rcases x.isFinite_or_infinity_or_isNaN with finite | ⟨negative, rfl⟩ | nan
  · rw [if_neg (by simp [Double.isNaN_of_isFinite finite]),
      if_neg (x.ne_infinity_of_isFinite finite false),
      if_neg (x.ne_infinity_of_isFinite finite true), Extended.ofDouble?_of_isFinite finite]
    exact congrArg some (x.compare_units n)
  · cases negative with
    | true =>
        have point : Extended.ofDouble? (.infinity true) = some .negativeInfinity :=
          Extended.ofDouble?_infinity true
        rw [point, if_neg (by decide), if_neg (by decide), if_pos rfl]
        rfl
    | false =>
        have point : Extended.ofDouble? (.infinity false) = some .positiveInfinity :=
          Extended.ofDouble?_infinity false
        rw [point, if_neg (by decide), if_pos rfl]
        rfl
  · rw [if_pos nan, Extended.ofDouble?_eq_none_iff.mpr nan]
    rfl

/--
Integers and floats are compared exactly.  A NaN has no order with an integer, the
infinities are above and below, and every other float is compared as the rational number
that it denotes.  The same order is found in 64-bit arithmetic, and the cast that is made
there on the way is only reached where it is exact.
-/
theorem compare?_int_float_exact
    (n : Int64)
    (x : Double) :
    ((Value.int n.toInt).compare? (.float x) =
      if x.isNaN then
        none
      else if x = .infinity false then
        some .lt
      else if x = .infinity true then
        some .gt
      else
        some (compare (n.toInt : ℚ) x.toRat)) ∧
      x.compareInt64? n = (Value.int n.toInt).compare? (.float x) ∧
      (x.isNaN = false →
        x.isTooLarge = false →
          x.isTooSmall = false →
            (x.truncate.toInt64.toInt : ℚ) = x.truncate.toRat) :=
  ⟨compare?_int_float_eq_rational n.toInt x, compareInt64?_eq_compare? n x,
    Double.toInt64_truncate_eq_toRat⟩

/-- `-2 ^ 63`, the lowest 64-bit integer. -/
def lowestInteger : Double :=
  ⟨0xC3E0000000000000⟩

/-- The lowest number that is not cut off is the lowest integer, and cast to it. -/
theorem lowestInteger_compare?_exact :
    (Value.int Int64.minValue.toInt).compare? (.float lowestInteger) =
        some (compare (Int64.minValue.toInt : ℚ) lowestInteger.toRat) ∧
      lowestInteger.isNaN = false ∧
      lowestInteger.isTooLarge = false ∧
      lowestInteger.isTooSmall = false ∧
      (lowestInteger.truncate.toInt64.toInt : ℚ) = lowestInteger.truncate.toRat := by
  have notNaN : lowestInteger.isNaN = false := by decide
  have notTooLarge : lowestInteger.isTooLarge = false := by decide +kernel
  have notTooSmall : lowestInteger.isTooSmall = false := by decide +kernel
  obtain ⟨order, -, cast⟩ := compare?_int_float_exact Int64.minValue lowestInteger
  rw [if_neg (by simp [notNaN]), if_neg (by decide), if_neg (by decide)] at order
  exact ⟨order, notNaN, notTooLarge, notTooSmall, cast notNaN notTooLarge notTooSmall⟩

end Value

end CallGuard
