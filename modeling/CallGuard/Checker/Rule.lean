import CallGuard.Failure
import CallGuard.Text.Identifier
import CallGuard.Value.Compare

namespace CallGuard

/-!
# Rules

A rule is a check without parts. It says what is wrong with a value, or that
nothing is; how the value is called does not matter to it.
-/

/-- Why two bounds form no interval. -/
inductive IntervalFault where
  | incomparable (low high : Value)
  | inverted (low high : Value)
  | unordered (bound : Value)

/-- The wording of a fault. -/
def IntervalFault.message : IntervalFault → String
  | .incomparable low high =>
      s!"bounds {low.text} and {high.text} have incomparable types "
        ++ s!"{low.typeName} and {high.typeName}"
  | .inverted low high => s!"lower bound {low.text} exceeds upper bound {high.text}"
  | .unordered bound => s!"bound {bound.text} of type {bound.typeName} is not orderable"

namespace Interval

/-- What is wrong between two bounds that are both present. -/
def clash? (low high : Value) : Option IntervalFault :=
  if !low.comparable high then
    some (.incomparable low high)
  else if low.compare? high == some .gt then
    some (.inverted low high)
  else
    none

/-- What is wrong with two optional bounds. -/
def fault? (low high : Option Value) : Option IntervalFault :=
  let clash :=
    match low, high with
    | some low, some high => clash? low high
    | _, _ => none
  match clash with
  | some fault => some fault
  | none =>
      ((low.toList ++ high.toList).find? fun bound => !bound.comparable bound).map
        .unordered

/--
The interval between two bounds, refused if their kinds have no order, if the
lower exceeds the upper, or if a bound is of a kind without order.
-/
def ofBounds (low high : Option Value) : Except IntervalFault Interval :=
  match fault? low high with
  | some fault => .error fault
  | none => .ok ⟨low, high⟩

/-- Whether a value is at or above the lower end. -/
def reachesLow (interval : Interval) (value : Value) : Bool :=
  interval.low.all fun low =>
    match value.compare? low with
    | some .gt => true
    | some .eq => true
    | _ => false

/-- Whether a value is at or below the upper end. -/
def reachesHigh (interval : Interval) (value : Value) : Bool :=
  interval.high.all fun high =>
    match value.compare? high with
    | some .lt => true
    | some .eq => true
    | _ => false

/--
What keeps a value out of an interval: a kind without order against an end, or a
place outside. A value that has no order with an end of a comparable kind, such
as a NaN, lies outside.
-/
def test? (interval : Interval) (value : Value) : Option Fault :=
  if interval.ends.any fun bound => !value.comparable bound then
    some (.notComparable interval value.typeName)
  else if interval.reachesLow value && interval.reachesHigh value then
    none
  else
    some (.outOfBounds interval value)

/-- The ends of an interval as a value; an open side is null. -/
def pair (interval : Interval) : Value :=
  .tuple [interval.low.getD .null, interval.high.getD .null]

end Interval

/-- Whether the first list occurs in the second without gaps. -/
def occursIn (needle : List Char) : List Char → Bool
  | [] => needle.isEmpty
  | c :: rest => needle.isPrefixOf (c :: rest) || occursIn needle rest

/--
Whether an item is in a container with the given elements. A string holds its
parts; other containers hold what equals one of their elements.
-/
def holdsItem
    (value : Value)
    (elements : List Value)
    (item : Value) :
    Bool :=
  match value, item with
  | .str text, .str part => occursIn part.toList text.toList
  | _, _ => elements.any (·.looseEq item)

/-- A length as a value: 64 bits of it, read with a sign. -/
def lengthValue (length : Nat) : Value :=
  .int ((length : Int).bmod (Nat.pow 2 64))

/-- The allowed lengths as a value; an open side is null. -/
def Lengths.value : Lengths → Value
  | .exactly length => lengthValue length
  | .between low high =>
      .tuple [(low.map lengthValue).getD .null, (high.map lengthValue).getD .null]

/-- A check without parts. -/
inductive Rule where
  /-- An instance of one of the types. -/
  | instanceOf (types : List TypeTag)
  /-- A value of the interval. -/
  | within (interval : Interval)
  /-- A sized value of an allowed length. -/
  | length (lengths : Lengths)
  /-- A sized value with at least one item. -/
  | nonEmpty
  /-- A value with elements. -/
  | iterable
  /-- An object with all the attributes. -/
  | attributes (names : List String)
  /-- A value that can be called. -/
  | callable
  /-- A string that is a name and no reserved word. -/
  | identifier
  /-- A container of all the items. -/
  | contains (items : List Value)
  /-- A value that equals one of the options. -/
  | oneOf (options : List Value)

namespace Rule

/-- The name that a rule is shown by. -/
def label : Rule → String
  | .instanceOf types => "Just(" ++ " | ".intercalate (types.map TypeTag.name) ++ ")"
  | .within interval => "Within" ++ interval.text
  | .length lengths => "JustLen(" ++ lengths.text ++ ")"
  | .nonEmpty => "NonEmpty"
  | .iterable => "Iterable"
  | .attributes names => "HasAttrs(" ++ commaSeparated names ++ ")"
  | .callable => "JustCall"
  | .identifier => "Identifier"
  | .contains items => "Contains" ++ (Value.tuple items).text
  | .oneOf options => "OneOf" ++ (Value.tuple options).text

/-- What a rule finds wrong with a value. -/
def test? : Rule → Value → Option Fault
  | .instanceOf types, value =>
      if types.any (·.admits value) then
        none
      else
        some (.wrongType types value.typeName)
  | .within interval, value => interval.test? value
  | .length lengths, value =>
      match value.size? with
      | none => some (.noLength value.typeName)
      | some size => if lengths.admits size then none else some (.wrongLength lengths size)
  | .nonEmpty, value =>
      match value.size? with
      | none => some (.noLength value.typeName)
      | some 0 => some .empty
      | some _ => none
  | .iterable, value =>
      if value.elements?.isSome then none else some (.notIterable value.typeName)
  | .attributes names, value =>
      (names.find? fun name => (value.attribute? name).isNone).map .missingAttribute
  | .callable, value =>
      if value.isCallable then none else some (.notCallable value.typeName)
  | .identifier, .str text =>
      if !Identifier.isName text then
        some (.notName text)
      else if Identifier.isReserved text then
        some (.reservedWord text)
      else
        none
  | .identifier, value => some (.wrongType [.str] value.typeName)
  | .contains items, value =>
      match value.elements? with
      | none => some (.notIterable value.typeName)
      | some elements =>
          (items.find? fun item => !holdsItem value elements item).map .notContained
  | .oneOf options, value =>
      if options.any (·.looseEq value) then none else some (.notAmong options value)

/-- What a rule tells about itself, under a name. -/
def members : Rule → List (String × Value)
  | .instanceOf types => [("types", .tuple (types.map .type))]
  | .within interval => [("bounds", interval.pair)]
  | .length lengths => [("length", lengths.value)]
  | .nonEmpty => []
  | .iterable => []
  | .attributes names => [("attrs", .tuple (names.map .str))]
  | .callable => []
  | .identifier => []
  | .contains items => [("items", .tuple items)]
  | .oneOf options => [("options", .tuple options)]

end Rule

end CallGuard
