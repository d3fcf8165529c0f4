import CallGuard.Number.Double

namespace CallGuard

/-!
# Numbers read from decimal text

Two readings are in use. The exact one gives the number nearest to the decimal.
The one of documents keeps the leading digits that fit in 64 bits and scales
them by a power of ten in at most two rounded steps; what would be infinite has
no reading.
-/

/-- The written parts of a number. -/
structure Numeral where
  negative : Bool
  whole : List Char
  /-- The digits after the point, if there is a point. -/
  fraction : Option (List Char)
  /-- Whether the exponent is negative, and its digits, if there is an exponent. -/
  exponent : Option (Bool × List Char)
  deriving DecidableEq, Repr

namespace Numeral

/-- The value of a digit. -/
def digitValue (c : Char) : Nat :=
  c.toNat - '0'.toNat

/-- The number that digits denote, going on from what was read before. -/
def digitsValue
    (start : Nat)
    (digits : List Char) :
    Nat :=
  digits.foldl (fun total digit => total * 10 + digitValue digit) start

/-- The written exponent; zero if there is none. -/
def exponentValue (numeral : Numeral) : Int :=
  match numeral.exponent with
  | none => 0
  | some (negative, digits) =>
      let size : Int := digitsValue 0 digits
      if negative then -size else size

/-- Whether the numeral has neither point nor exponent. -/
def isWhole (numeral : Numeral) : Bool :=
  numeral.fraction.isNone && numeral.exponent.isNone

/--
Read digits after `start` for as long as the total fits in 64 bits. The second
result counts the digits that were read.
-/
def absorb
    (start : Nat) :
    List Char →
    Nat × Nat
  | [] => (start, 0)
  | digit :: rest =>
      let total := start * 10 + digitValue digit
      if total < Nat.pow 2 64 then
        let (last, count) := absorb total rest
        (last, count + 1)
      else
        (start, 0)

end Numeral

namespace Double

/--
The number nearest to `± digits * 10 ^ power`. Powers past all binary64 numbers
are settled without computing them.
-/
def ofDecimal
    (negative : Bool)
    (digits : Nat)
    (power : Int) :
    Double :=
  let leading : Int := power + (Nat.toDigits 10 digits).length
  if digits = 0 ∨ leading < -400 then
    zero negative
  else if 400 < leading then
    infinity negative
  else if power < 0 then
    ofRatio negative digits (Nat.pow 10 power.natAbs)
  else
    ofRatio negative (digits * Nat.pow 10 power.natAbs) 1

/-- The number nearest to a numeral. -/
def ofNumeral (numeral : Numeral) : Double :=
  let fraction := numeral.fraction.getD []
  let digits := Numeral.digitsValue (Numeral.digitsValue 0 numeral.whole) fraction
  ofDecimal numeral.negative digits (numeral.exponentValue - fraction.length)

/-- The nearest number to a power of ten. -/
def powerOfTen (power : Nat) : Double :=
  ofDecimal false 1 power

/--
A nonnegative number scaled by a power of ten. One scaling step reaches the
power 308; from there on a number is too large to hold, and a second step down
reaches everything that does not vanish.
-/
def scale?
    (start : Double)
    (power : Int) :
    Option Double :=
  if start = zero false then
    some start
  else if 308 < power then
    none
  else if 0 ≤ power then
    let scaled := start.mulSize (powerOfTen power.natAbs)
    if scaled.isFinite then some scaled else none
  else if -308 ≤ power then
    some (start.divSize (powerOfTen power.natAbs))
  else if -616 ≤ power then
    some ((start.divSize (powerOfTen 308)).divSize (powerOfTen (power.natAbs - 308)))
  else
    some (zero false)

/--
The reading of a numeral in a document. Digits past those that fit in 64 bits
count only as places before the point and not at all after it.
-/
def ofDocument? (numeral : Numeral) : Option Double :=
  let (whole, wholeCount) := Numeral.absorb 0 numeral.whole
  let dropped := numeral.whole.length - wholeCount
  let (digits, fractionCount) := Numeral.absorb whole (numeral.fraction.getD [])
  let power : Int := numeral.exponentValue + dropped - fractionCount
  (scale? (ofInt digits) power).map fun size =>
    if numeral.negative then size.neg else size

end Double

end CallGuard
