import CallGuard.Value.Rendering

namespace CallGuard

/-!
# Failed checks

A failure says what is wrong with a value and by which label the value is known.
Its message is the label between two texts that depend on the fault alone.
-/

/-- The kinds of failure that callers tell apart. -/
inductive FailureKind where
  | wrongType
  | outOfBounds
  | wrongLength
  | missingAttribute
  | notIterable
  | emptyValue
  | notCallable
  | invalidIdentifier
  | itemNotFound
  deriving DecidableEq, Repr

namespace FailureKind

/-- All kinds of failure. -/
def all : List FailureKind :=
  [.wrongType, .outOfBounds, .wrongLength, .missingAttribute, .notIterable,
    .emptyValue, .notCallable, .invalidIdentifier, .itemNotFound]

/-- The name of a kind of failure. -/
def name : FailureKind → String
  | .wrongType => "WrongType"
  | .outOfBounds => "OutOfBounds"
  | .wrongLength => "WrongLength"
  | .missingAttribute => "MissingAttribute"
  | .notIterable => "NotIterable"
  | .emptyValue => "EmptyValue"
  | .notCallable => "NotCallable"
  | .invalidIdentifier => "InvalidIdentifier"
  | .itemNotFound => "ItemNotFound"

/-- The kind of failure of a given name. -/
def ofName? (name : String) : Option FailureKind :=
  all.find? fun kind => kind.name == name

end FailureKind

/-- A closed interval of values; a missing end leaves that side open. -/
structure Interval where
  low : Option Value
  high : Option Value

namespace Interval

/-- The ends that are present, the lower first. -/
def ends (interval : Interval) : List Value :=
  interval.low.toList ++ interval.high.toList

/-- The text of an interval; an open side is infinite. -/
def text (interval : Interval) : String :=
  let low := (interval.low.map Value.text).getD "-inf"
  let high := (interval.high.map Value.text).getD "inf"
  bracketed [low, high]

/-- The types of the ends that are present. -/
def typeNames (interval : Interval) : String :=
  " and ".intercalate (interval.ends.map Value.typeName)

end Interval

/-- The lengths that a length check allows. -/
inductive Lengths where
  | exactly (length : Nat)
  /-- Both ends belong to the range; a missing end leaves that side open. -/
  | between (low high : Option Nat)
  deriving DecidableEq, Repr

namespace Lengths

/-- Whether a length is allowed. -/
def admits : Lengths → Nat → Bool
  | .exactly expected, length => length == expected
  | .between low high, length =>
      low.all (fun bound => decide (bound ≤ length))
        && high.all (fun bound => decide (length ≤ bound))

/-- The text of the allowed lengths. -/
def text : Lengths → String
  | .exactly length => toString length
  | .between low high =>
      let low := (low.map toString).getD "0"
      let high := (high.map toString).getD "inf"
      "in " ++ bracketed [low, high]

end Lengths

/-- What can be wrong with a value. -/
inductive Fault where
  | wrongType (expected : List TypeTag) (found : String)
  | notComparable (interval : Interval) (found : String)
  | outOfBounds (interval : Interval) (value : Value)
  | wrongLength (expected : Lengths) (found : Nat)
  | noLength (found : String)
  | notIterable (found : String)
  | empty
  | missingAttribute (name : String)
  | notCallable (found : String)
  | notName (text : String)
  | reservedWord (text : String)
  | notContained (item : Value)
  | notAmong (options : List Value) (value : Value)
  /-- A fault of a check that callers bring along, in their words. -/
  | stated (kind : FailureKind) (before after : String)

namespace Fault

/-- The kind of failure that a fault is reported as. -/
def kind : Fault → FailureKind
  | .wrongType _ _ => .wrongType
  | .notComparable _ _ => .wrongType
  | .outOfBounds _ _ => .outOfBounds
  | .wrongLength _ _ => .wrongLength
  | .noLength _ => .notIterable
  | .notIterable _ => .notIterable
  | .empty => .emptyValue
  | .missingAttribute _ => .missingAttribute
  | .notCallable _ => .notCallable
  | .notName _ => .invalidIdentifier
  | .reservedWord _ => .invalidIdentifier
  | .notContained _ => .itemNotFound
  | .notAmong _ _ => .itemNotFound
  | .stated kind _ _ => kind

/-- The wording of the expected types: one name, or several to choose from. -/
def expectedTypes : List TypeTag → String
  | [only] => only.name
  | tags => "one of " ++ commaSeparated (tags.map TypeTag.name)

/-- The text of a message before the label. -/
def before : Fault → String
  | .wrongType _ _ => "Type of "
  | .notComparable _ _ => "Type of "
  | .outOfBounds _ _ => "Value of "
  | .wrongLength _ _ => "Length of "
  | .noLength _ => "Length of "
  | .notIterable _ => ""
  | .empty => ""
  | .missingAttribute _ => ""
  | .notCallable _ => ""
  | .notName _ => ""
  | .reservedWord _ => ""
  | .notContained item => s!"Could not find {item.text} in "
  | .notAmong _ _ => "Value of "
  | .stated _ before _ => before

/-- The text of a message after the label. -/
def after : Fault → String
  | .wrongType expected found => s!" must be {expectedTypes expected}, not {found}!"
  | .notComparable interval found =>
      s!" must be comparable with {interval.typeNames}, not {found}!"
  | .outOfBounds interval value => s!" must lie in {interval.text}, not {value.text}!"
  | .wrongLength expected found => s!" must be {expected.text}, not {found}!"
  | .noLength found => s!" cannot be determined for type {found}!"
  | .notIterable found => s!" of type {found} is not iterable!"
  | .empty => " must not be empty!"
  | .missingAttribute name => s!" must have attribute '{name}'!"
  | .notCallable found => s!" of type {found} must be callable!"
  | .notName text => s!" must be a valid identifier, not '{text}'!"
  | .reservedWord text => s!" must not be the reserved word '{text}'!"
  | .notContained _ => "!"
  | .notAmong options value =>
      s!" must be one of {(Value.tuple options).text}, not {value.text}!"
  | .stated _ _ after => after

end Fault

/-- A failed check: the fault, and the label of the value that has it. -/
structure Failure where
  label : String
  fault : Fault

namespace Failure

/-- The kind of a failure. -/
def kind (failure : Failure) : FailureKind :=
  failure.fault.kind

/-- The message of a failure. -/
def message (failure : Failure) : String :=
  failure.fault.before ++ failure.label ++ failure.fault.after

end Failure

end CallGuard
