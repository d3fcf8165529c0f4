import CallGuard.Files.Tree

namespace CallGuard

/-!
# The order of paths

Paths are ordered step by step, so a directory with all that is in it comes before
the next name, whatever characters the two names have.
-/

/-- A step of a path. -/
inductive PathStep where
  | root
  | here
  | up
  | down (name : String)
  deriving DecidableEq, Repr

namespace PathStep

/-- The place of a kind of step among all kinds. -/
def rank : PathStep → Nat
  | .root => 0
  | .here => 1
  | .up => 2
  | .down _ => 3

/-- Steps by their kinds, and those to a name by that name. -/
def order : PathStep → PathStep → Ordering
  | .down name, .down other => compare name other
  | step, other => compare step.rank other.rank

/-- The step of a part that does not stand first; one that leads nowhere is none. -/
def ofPart? : String → Option PathStep
  | "" => none
  | "." => none
  | ".." => some .up
  | name => some (.down name)

end PathStep

/-- The steps of a path. -/
def pathSteps (path : String) : List PathStep :=
  match pathParts path with
  | [""] => []
  | "" :: parts => .root :: parts.filterMap PathStep.ofPart?
  | "." :: parts => .here :: parts.filterMap PathStep.ofPart?
  | parts => parts.filterMap PathStep.ofPart?

/-- The order of two paths; one that leads further comes later. -/
def pathOrder (path other : String) : Ordering :=
  List.compareLex PathStep.order (pathSteps path) (pathSteps other)

/-- Paths in ascending order; those with the same steps stay as they stand. -/
def sortedPaths (paths : List String) : List String :=
  paths.mergeSort fun path other => (pathOrder path other).isLE

end CallGuard
