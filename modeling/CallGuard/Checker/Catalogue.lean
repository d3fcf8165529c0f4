import CallGuard.Checker.Elementwise

namespace CallGuard

/-!
# The catalogue of checkers

Every checker of the catalogue tests one rule and offers the same six variants
of it: not empty, for every element, and as a list, tuple, set or map.
-/

namespace Checker

/-- A checker together with its variant that also wants an item. -/
def withNonEmpty (checker : Checker) : Checker :=
  checker.withChain "NonEmpty" (compose (ofRule .nonEmpty) checker)

/-- The names of the variants. -/
def variantNames : List String :=
  ["NonEmpty", "All", "List", "Tuple", "Set", "Map"]

/-- A checker with its variants as chained members. -/
def withVariants (base : Checker) : Checker :=
  let containers : List (String × Checker) :=
    [("All", all base), ("List", listOf base), ("Tuple", tupleOf base),
      ("Set", setOf base), ("Map", mapOf identity base)]
  containers.foldl
    (fun equipped variant => equipped.withChain variant.1 variant.2.withNonEmpty)
    base.withNonEmpty

/-- The checker of a rule with its variants. -/
def catalogue (rule : Rule) : Checker :=
  (ofRule rule).withVariants

/-- Instances of one of the types. -/
def just (types : List TypeTag) : Checker :=
  catalogue (.instanceOf types)

/-- Values between two bounds; refused if they form no interval. -/
def within (low high : Option Value) : Except IntervalFault Checker :=
  (Interval.ofBounds low high).map fun interval => catalogue (.within interval)

/-- Sized values of an allowed length. -/
def justLength (lengths : Lengths) : Checker :=
  catalogue (.length lengths)

/-- Sized values with at least one item. -/
def nonEmpty : Checker :=
  catalogue .nonEmpty

/-- Values with elements. -/
def iterable : Checker :=
  catalogue .iterable

/-- Objects with all the attributes. -/
def hasAttributes (names : List String) : Checker :=
  catalogue (.attributes names)

/-- Values that can be called. -/
def callable : Checker :=
  catalogue .callable

/-- Strings that are identifiers. -/
def identifier : Checker :=
  catalogue .identifier

/-- Containers of all the items. -/
def contains (items : List Value) : Checker :=
  catalogue (.contains items)

/-- Values that equal one of the options. -/
def oneOf (options : List Value) : Checker :=
  catalogue (.oneOf options)

end Checker

end CallGuard
