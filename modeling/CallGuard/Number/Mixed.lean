import CallGuard.Number.Double

namespace CallGuard.Double

/-!
# Integers against binary64 numbers

How a 64-bit machine compares an integer with a binary64 number without rounding the
integer. What lies past all 64-bit integers is settled by cut-offs. The rest is cast to
an integer, and where the integers are equal the fraction that was cut away decides.
-/

/-- How many of the units in which points are given make one. -/
def unitsPerOne : Nat :=
  Nat.pow 2 1074

/-- `2 ^ 63`, the first number past all 64-bit integers. -/
def limit : Double :=
  ⟨0x43E0000000000000⟩

/-- The order of two numbers; a NaN has none. -/
def compare? (x y : Double) : Option Ordering :=
  match Extended.ofDouble? x, Extended.ofDouble? y with
  | some p, some q => some (p.order q)
  | _, _ => none

/-- Whether a number is past all 64-bit integers from above. -/
def isTooLarge (x : Double) : Bool :=
  x.compare? limit == some .gt || x.compare? limit == some .eq

/-- Whether a number is past all 64-bit integers from below. -/
def isTooSmall (x : Double) : Bool :=
  x.compare? limit.neg == some .lt

/--
A number without its fraction, toward zero. The bits after the point are the lowest
ones, and the exponent says how many they are; below one there are no others.
-/
def truncate (x : Double) : Double :=
  if x.exponentField < 1023 then
    zero x.isNegative
  else
    let place := Nat.pow 2 (1075 - x.exponentField)
    ofSize x.isNegative (x.bits.toNat % Nat.pow 2 63 / place * place)

/--
The cast to a 64-bit integer. A fraction is cut away, a number past an end of the range
becomes that end, and a NaN becomes zero.
-/
def toInt64 (x : Double) : Int64 :=
  match Extended.ofDouble? x with
  | some (.finite units) => Int64.ofIntClamp (units.tdiv unitsPerOne)
  | some .negativeInfinity => Int64.minValue
  | some .positiveInfinity => Int64.maxValue
  | none => 0

/-- The nearest number to the difference of two finite numbers. -/
def sub (x y : Double) : Double :=
  let difference := x.units - y.units
  if difference = 0 then
    zero (x.isNegative && !y.isNegative)
  else
    ofRatio (decide (difference < 0)) difference.natAbs unitsPerOne

/-- The order of a 64-bit integer and a number. -/
def compareInt64?
    (n : Int64)
    (x : Double) :
    Option Ordering :=
  if x.isNaN then
    none
  else if x.isTooLarge then
    some .lt
  else if x.isTooSmall then
    some .gt
  else
    match compare n x.truncate.toInt64 with
    | .eq => (zero false).compare? (x.sub x.truncate)
    | outcome => some outcome

end CallGuard.Double
