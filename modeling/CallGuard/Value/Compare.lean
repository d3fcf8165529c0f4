import CallGuard.Value.Order

namespace CallGuard

/-!
# Comparison of values

The order and the equality that callers see. Numbers compare across their kinds
and exactly; strings, bytes and tuples compare within their own kind; all other
pairs have no order. Equality is numeric between numbers and the stored one
elsewhere.
-/

namespace Value

/-- Whether a value is a scalar number: a truth value, an integer or a float. -/
def isNumber : Value → Bool
  | .bool _ => true
  | .int _ => true
  | .float _ => true
  | _ => false

/--
The point of the number line that a value denotes. A NaN denotes none, nor does
what is no number.
-/
def point? : Value → Option Extended
  | .bool b => some (.ofInt (if b then 1 else 0))
  | .int n => some (.ofInt n)
  | .float x => Extended.ofDouble? x
  | _ => none

mutual

/-- The order of two values, if they have one. -/
def compare? : Value → Value → Option Ordering
  | .str a, .str b => some (compare a b)
  | .bytes a, .bytes b => some (compare a b)
  | .tuple a, .tuple b => compareItems? a b
  | a, b =>
      match a.point?, b.point? with
      | some p, some q => some (p.order q)
      | _, _ => none
termination_by structural value => value

/--
Item by item up to the first pair that differs or has no order; a tuple that
ends first comes first.
-/
def compareItems? : List Value → List Value → Option Ordering
  | [], [] => some .eq
  | [], _ :: _ => some .lt
  | _ :: _, [] => some .gt
  | a :: restA, b :: restB =>
      match compare? a b with
      | some .eq => compareItems? restA restB
      | result => result
termination_by structural items => items

end

/-- Whether the kinds of two values have an order at all. -/
def comparable : Value → Value → Bool
  | .str _, .str _ => true
  | .bytes _, .bytes _ => true
  | .tuple _, .tuple _ => true
  | a, b => a.isNumber && b.isNumber

/-- The equality of values: numeric between numbers, the stored one elsewhere. -/
def looseEq (a b : Value) : Bool :=
  if a.isNumber && b.isNumber then
    a.compare? b == some .eq
  else
    a.same b

end Value

end CallGuard
