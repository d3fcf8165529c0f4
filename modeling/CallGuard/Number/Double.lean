namespace CallGuard

/-!
# Binary64 numbers

A number is kept by its bits and read exactly: every finite one is an integer
multiple of `2⁻¹⁰⁷⁴`, so order and arithmetic on them are integer questions.
`Double.ofRatio` goes the other way and rounds a quotient to the nearest
number, ties to even.
-/

/-- A binary64 number, given by its 64 bits. -/
structure Double where
  bits : UInt64
  deriving DecidableEq, Repr

/-- A quotient rounded to the nearest integer, ties to even. -/
def roundHalfEven
    (numerator denominator : Nat) :
    Nat :=
  let whole := numerator / denominator
  let twice := 2 * (numerator % denominator)
  if twice < denominator then
    whole
  else if twice = denominator then
    if whole % 2 = 0 then whole else whole + 1
  else
    whole + 1

namespace Double

/-- The sign bit. -/
def isNegative (x : Double) : Bool :=
  decide (Nat.pow 2 63 ≤ x.bits.toNat)

/-- The eleven bits of the biased exponent. -/
def exponentField (x : Double) : Nat :=
  x.bits.toNat / Nat.pow 2 52 % Nat.pow 2 11

/-- The fifty-two bits of the fraction. -/
def fractionField (x : Double) : Nat :=
  x.bits.toNat % Nat.pow 2 52

/-- Neither infinite nor a NaN. -/
def isFinite (x : Double) : Bool :=
  decide (x.exponentField < 2047)

/-- A NaN, of any payload and sign. -/
def isNaN (x : Double) : Bool :=
  decide (x.exponentField = 2047 ∧ x.fractionField ≠ 0)

/-- The integer significand of a finite number. -/
def significand (x : Double) : Nat :=
  if x.exponentField = 0 then x.fractionField else x.fractionField + Nat.pow 2 52

/--
The power of two that one step of the significand is worth, counted from the
smallest: a finite number is `± significand * 2 ^ step * 2⁻¹⁰⁷⁴`.
-/
def step (x : Double) : Nat :=
  x.exponentField - 1

/-- A finite number in units of `2⁻¹⁰⁷⁴`. -/
def units (x : Double) : Int :=
  let size : Int := x.significand * Nat.pow 2 x.step
  if x.isNegative then -size else size

/-- The number with the given sign and the given lower 63 bits. -/
def ofSize
    (negative : Bool)
    (size : Nat) :
    Double :=
  ⟨UInt64.ofNat (if negative then Nat.pow 2 63 + size else size)⟩

/-- The infinity of the given sign. -/
def infinity (negative : Bool) : Double :=
  ofSize negative (2047 * Nat.pow 2 52)

/-- The zero of the given sign. -/
def zero (negative : Bool) : Double :=
  ofSize negative 0

/-- The NaN that stands for all of them when one is written down. -/
def nan : Double :=
  ofSize false (2047 * Nat.pow 2 52 + Nat.pow 2 51)

/--
The number nearest to `± numerator / denominator`, ties to even; a quotient too
large for any finite number gives the infinity.

The step is chosen so that the rounded significand has at most 53 bits. A
significand rounded up to `2 ^ 53` carries into the exponent by itself, since
the fields of exponent and fraction are adjacent.
-/
def ofRatio
    (negative : Bool)
    (numerator denominator : Nat) :
    Double :=
  if numerator = 0 then
    zero negative
  else
    -- The quotient lies strictly between `2 ^ (magnitude - 1)` and `2 ^ (magnitude + 1)`.
    let magnitude : Int := (numerator.log2 : Int) - denominator.log2
    let quotient (power : Int) : Nat × Nat :=
      if power < 0 then
        (numerator * Nat.pow 2 power.natAbs, denominator)
      else
        (numerator, denominator * Nat.pow 2 power.natAbs)
    let estimate := quotient (magnitude - 53)
    let power :=
      if estimate.1 / estimate.2 < Nat.pow 2 53 then magnitude - 53 else magnitude - 52
    let power := max power (-1074)
    let scaled := quotient power
    let size :=
      (power + 1074).toNat * Nat.pow 2 52 + roundHalfEven scaled.1 scaled.2
    if size < 2047 * Nat.pow 2 52 then
      ofSize negative size
    else
      infinity negative

/-- The number nearest to an integer. -/
def ofInt (n : Int) : Double :=
  ofRatio (decide (n < 0)) n.natAbs 1

/-- The same number with the other sign. -/
def neg (x : Double) : Double :=
  ofSize (!x.isNegative) (x.bits.toNat % Nat.pow 2 63)

/-- The nearest number to the product of the sizes of two finite numbers. -/
def mulSize (x y : Double) : Double :=
  ofRatio false (x.units.natAbs * y.units.natAbs) (Nat.pow 2 (1074 + 1074))

/-- The nearest number to the quotient of the sizes of two finite numbers. -/
def divSize (x y : Double) : Double :=
  ofRatio false x.units.natAbs y.units.natAbs

end Double

/-!
## The extended line
-/

/-- A point of the number line with its two ends; a finite one in units of `2⁻¹⁰⁷⁴`. -/
inductive Extended where
  | negativeInfinity
  | finite (units : Int)
  | positiveInfinity
  deriving DecidableEq, Repr

namespace Extended

/-- An integer as a point of the line. -/
def ofInt (n : Int) : Extended :=
  .finite (n * Nat.pow 2 1074)

/-- The point that a binary64 number denotes; a NaN denotes none. -/
def ofDouble? (x : Double) : Option Extended :=
  if x.isFinite then
    some (.finite x.units)
  else if x.isNaN then
    none
  else if x.isNegative then
    some .negativeInfinity
  else
    some .positiveInfinity

/-- The order of the extended line. -/
def order : Extended → Extended → Ordering
  | .negativeInfinity, .negativeInfinity => .eq
  | .negativeInfinity, _ => .lt
  | .finite _, .negativeInfinity => .gt
  | .finite a, .finite b => compare a b
  | .finite _, .positiveInfinity => .lt
  | .positiveInfinity, .positiveInfinity => .eq
  | .positiveInfinity, _ => .gt

end Extended

/--
The order that stored numbers are kept in: by the point they denote, the two
zeros equal, every NaN equal to every other and above all numbers.
-/
def Double.order (x y : Double) : Ordering :=
  match Extended.ofDouble? x, Extended.ofDouble? y with
  | some a, some b => a.order b
  | some _, none => .lt
  | none, some _ => .gt
  | none, none => .eq

end CallGuard
