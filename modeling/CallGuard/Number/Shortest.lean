import CallGuard.Number.Double

namespace CallGuard

/-!
# The shortest decimal that reads back

Among the decimals that round to a given number, those with the fewest digits
are looked for, and of these the nearest to the number. All arithmetic is exact:
a positive finite number is a quotient of integers, and so are the two midpoints
that bound the reals that round to it.
-/

/-- Which of two equally near decimals is written. -/
inductive Tie where
  | toEven
  | up
  deriving DecidableEq, Repr

/-- A positive decimal `digits * 10 ^ power`. -/
structure Decimal where
  digits : Nat
  power : Int
  deriving DecidableEq, Repr

namespace Decimal

/-- The decimal as a quotient of integers. -/
def ratio (decimal : Decimal) : Nat × Nat :=
  if decimal.power < 0 then
    (decimal.digits, Nat.pow 10 decimal.power.natAbs)
  else
    (decimal.digits * Nat.pow 10 decimal.power.natAbs, 1)

/-- `a ≤ b` for quotients with positive denominators. -/
def ratioLe (a b : Nat × Nat) : Bool :=
  decide (a.1 * b.2 ≤ b.1 * a.2)

/-- `a < b` for quotients with positive denominators. -/
def ratioLt (a b : Nat × Nat) : Bool :=
  decide (a.1 * b.2 < b.1 * a.2)

/-- Whether `10 ^ power` is at most the quotient. -/
def powerLe
    (power : Int)
    (quotient : Nat × Nat) :
    Bool :=
  ratioLe (ratio ⟨1, power⟩) quotient

/--
The power of ten of the leading digit of a positive quotient. The binary
logarithm gives it up to a small error, which the four candidates cover.
-/
def leadingPower (quotient : Nat × Nat) : Int :=
  let estimate : Int :=
    ((quotient.1.log2 : Int) - quotient.2.log2 - 1) * 30103 / 100000 - 1
  match [estimate + 3, estimate + 2, estimate + 1].find? (powerLe · quotient) with
  | some power => power
  | none => estimate

end Decimal

namespace Double

/-- The reals that round to a number lie between two midpoints. -/
structure Basin where
  value : Nat × Nat
  low : Nat × Nat
  high : Nat × Nat
  closed : Bool

/--
The reals that round to a positive finite number. Both midpoints belong to it
exactly when the significand is even; below a power of two the gap is half as
wide, unless the number is at the smallest step.
-/
def basin (x : Double) : Basin :=
  let unit := Nat.pow 2 x.step
  let denominator := 4 * Nat.pow 2 1074
  let value := 4 * x.significand * unit
  let below := if x.fractionField = 0 ∧ 1 < x.exponentField then unit else 2 * unit
  {
    value := (value, denominator)
    low := (value - below, denominator)
    high := (value + 2 * unit, denominator)
    closed := decide (x.significand % 2 = 0)
  }

/-- Whether a decimal rounds to the number whose basin is given. -/
def Basin.holds
    (basin : Basin)
    (decimal : Decimal) :
    Bool :=
  let point := decimal.ratio
  if basin.closed then
    Decimal.ratioLe basin.low point && Decimal.ratioLe point basin.high
  else
    Decimal.ratioLt basin.low point && Decimal.ratioLt point basin.high

/--
The decimal of the grid `10 ^ power` that rounds to the number, if one does: one
of the two neighbours of the number on that grid, the nearer if both do.
-/
def Basin.onGrid?
    (basin : Basin)
    (tie : Tie)
    (power : Int) :
    Option Decimal :=
  let grid := Decimal.ratio ⟨1, power⟩
  let scaled := (basin.value.1 * grid.2, basin.value.2 * grid.1)
  let lower : Decimal := ⟨scaled.1 / scaled.2, power⟩
  let upper : Decimal := ⟨lower.digits + 1, power⟩
  match basin.holds lower, basin.holds upper with
  | false, false => none
  | true, false => some lower
  | false, true => some upper
  | true, true =>
      let twice := 2 * (scaled.1 % scaled.2)
      if twice < scaled.2 then
        some lower
      else if scaled.2 < twice then
        some upper
      else
        match tie with
        | .up => some upper
        | .toEven => if lower.digits % 2 = 0 then some lower else some upper

/-- The fewest digits that read back, of a positive finite number. -/
def shortest
    (x : Double)
    (tie : Tie) :
    Decimal :=
  let basin := x.basin
  let leading := Decimal.leadingPower basin.value
  let grids : List Int := (List.range 17).map fun index : Nat => leading - (index : Int)
  match grids.findSome? (basin.onGrid? tie) with
  | some decimal => decimal
  | none => ⟨0, 0⟩

end Double

end CallGuard
