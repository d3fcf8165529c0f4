import CallGuard.Checker.Basic

namespace CallGuard

/-!
# Checkers of containers

One checker for every element, two for the entries of a map, one for each place
of a tuple. Each tests the kind of the container first.
-/

namespace Checker

/-- Instances of one type. -/
def kind (tag : TypeTag) : Checker :=
  ofRule (.instanceOf [tag])

/-- Every element passes; nothing is tested if every value passes. -/
def each (element : Checker) : Checker :=
  if element.isIdentity then
    identity
  else
    ofCheck ("Each(" ++ element.label ++ ")") (.each element.check)

/-- Values whose every element passes. -/
def all (element : Checker) : Checker :=
  (compose (each element) (ofRule .iterable)).withLabel ("All(" ++ element.label ++ ")")

/-- Lists whose every item passes. -/
def listOf (element : Checker) : Checker :=
  (compose (each element) (kind .list)).withLabel (bracketed [element.label])

/-- Tuples of any length whose every item passes. -/
def tupleOf (element : Checker) : Checker :=
  (compose (each element) (kind .tuple)).withLabel ("(" ++ element.label ++ ", ...)")

/-- Sets whose every member passes. -/
def setOf (element : Checker) : Checker :=
  (compose (each element) (kind .set)).withLabel (braced [element.label])

/-- Maps whose every key and every content passes. -/
def mapOf (key content : Checker) : Checker :=
  let label := braced [key.label ++ ": " ++ content.label]
  if key.isIdentity && content.isIdentity then
    (kind .map).withLabel label
  else
    (compose (ofCheck "Entries" (.entries key.check content.check)) (kind .map)).withLabel
      label

/-- Tuples with one item for each checker, each passing its own. -/
def slots (items : List Checker) : Checker :=
  (compose (ofCheck "Slots" (.slots (items.map check))) (kind .tuple)).withLabel
    (parenthesized (items.map label))

end Checker

end CallGuard
