import CallGuard.Value.Basic

namespace CallGuard

/-!
# The stored order

A total order on all values: by kind first, then by content. Sets and maps are
kept in it. It tells `1` from `1.0`, and it holds the two zeros for one value and
all NaNs for one value, so it is an equality coarser than that of bits.
-/

namespace Value

/-- The place of a kind of value among all kinds. -/
def rank : Value → Nat
  | .null => 0
  | .bool _ => 1
  | .int _ => 2
  | .float _ => 3
  | .str _ => 4
  | .bytes _ => 5
  | .list _ => 6
  | .tuple _ => 7
  | .set _ => 8
  | .map _ => 9
  | .object _ _ _ _ => 10
  | .type _ => 11

mutual

/-- The stored order of two values. -/
def order : Value → Value → Ordering
  | .bool a, .bool b => compare a b
  | .int a, .int b => compare a b
  | .float a, .float b => a.order b
  | .str a, .str b => compare a b
  | .bytes a, .bytes b => compare a b
  | .list a, .list b => orderItems a b
  | .tuple a, .tuple b => orderItems a b
  | .set a, .set b => orderItems a b
  | .map a, .map b => orderEntries a b
  | .object className bases attributes callable,
    .object otherClassName otherBases otherAttributes otherCallable =>
      ((compare className otherClassName).then
        (compare bases otherBases)).then
        ((orderAttributes attributes otherAttributes).then
          (compare callable otherCallable))
  | .type a, .type b => a.order b
  | a, b => compare a.rank b.rank
termination_by structural value => value

/-- Item by item; a list that ends first comes first. -/
def orderItems : List Value → List Value → Ordering
  | [], [] => .eq
  | [], _ :: _ => .lt
  | _ :: _, [] => .gt
  | a :: restA, b :: restB => (order a b).then (orderItems restA restB)
termination_by structural items => items

/-- Entry by entry. -/
def orderEntries : List (Value × Value) → List (Value × Value) → Ordering
  | [], [] => .eq
  | [], _ :: _ => .lt
  | _ :: _, [] => .gt
  | a :: restA, b :: restB => (orderEntry a b).then (orderEntries restA restB)
termination_by structural entries => entries

/-- By the key and then by the content. -/
def orderEntry : Value × Value → Value × Value → Ordering
  | (key, content), (otherKey, otherContent) =>
      (order key otherKey).then (order content otherContent)
termination_by structural entry => entry

/-- Attribute by attribute. -/
def orderAttributes : List (String × Value) → List (String × Value) → Ordering
  | [], [] => .eq
  | [], _ :: _ => .lt
  | _ :: _, [] => .gt
  | a :: restA, b :: restB => (orderAttribute a b).then (orderAttributes restA restB)
termination_by structural attributes => attributes

/-- By the name and then by the content. -/
def orderAttribute : String × Value → String × Value → Ordering
  | (name, content), (otherName, otherContent) =>
      (compare name otherName).then (order content otherContent)
termination_by structural pair => pair

end

/-- Whether two values are stored as one. -/
def same (a b : Value) : Bool :=
  order a b == .eq

end Value

end CallGuard
