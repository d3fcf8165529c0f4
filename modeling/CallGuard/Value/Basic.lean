import CallGuard.Number.Double
import CallGuard.TypeTag

namespace CallGuard

/-!
# Values

The values that callables receive: scalars, four kinds of container, objects
with attributes, and types. Members of a set and entries of a map are kept in
ascending order; `Value.ofMembers` and `Value.ofEntries` build them so.
-/

/-- An argument of a call. -/
inductive Value where
  | null
  | bool (b : Bool)
  | int (n : Int)
  | float (x : Double)
  | str (text : String)
  | bytes (octets : List UInt8)
  | list (items : List Value)
  | tuple (items : List Value)
  | set (members : List Value)
  | map (entries : List (Value × Value))
  | object
      (className : String)
      (bases : List String)
      (attributes : List (String × Value))
      (callable : Bool)
  | type (tag : TypeTag)
  deriving Inhabited

namespace Value

/-- The name of the type of a value, as diagnostics show it. -/
def typeName : Value → String
  | .null => "NoneType"
  | .bool _ => "bool"
  | .int _ => "int"
  | .float _ => "float"
  | .str _ => "str"
  | .bytes _ => "bytes"
  | .list _ => "list"
  | .tuple _ => "tuple"
  | .set _ => "set"
  | .map _ => "dict"
  | .object className _ _ _ => className
  | .type _ => "type"

/-- The number of items of a sized value; other values have none. -/
def size? : Value → Option Nat
  | .str text => some text.length
  | .bytes octets => some octets.length
  | .list items => some items.length
  | .tuple items => some items.length
  | .set members => some members.length
  | .map entries => some entries.length
  | _ => none

/-- Whether a value can be called. -/
def isCallable : Value → Bool
  | .type _ => true
  | .object _ _ _ callable => callable
  | _ => false

/--
What iteration over a value yields: the characters of a string, the octets of
bytes, items, members, and the keys of a map.
-/
def elements? : Value → Option (List Value)
  | .str text => some (text.toList.map fun c => .str (String.singleton c))
  | .bytes octets => some (octets.map fun octet => .int octet.toNat)
  | .list items => some items
  | .tuple items => some items
  | .set members => some members
  | .map entries => some (entries.map (·.1))
  | _ => none

/-- An attribute of an object. -/
def attribute? : Value → String → Option Value
  | .object _ _ attributes _, name => attributes.lookup name
  | _, _ => none

end Value

/--
Whether a value is an instance of a type. A truth value is an integer, every
scalar number is a number, and a class admits its own objects and those that
list it as a base.
-/
def TypeTag.admits : TypeTag → Value → Bool
  | .any, _ => true
  | .null, .null => true
  | .bool, .bool _ => true
  | .int, .int _ => true
  | .int, .bool _ => true
  | .float, .float _ => true
  | .number, .bool _ => true
  | .number, .int _ => true
  | .number, .float _ => true
  | .str, .str _ => true
  | .bytes, .bytes _ => true
  | .list, .list _ => true
  | .tuple, .tuple _ => true
  | .set, .set _ => true
  | .map, .map _ => true
  | .type, .type _ => true
  | .callable, value => value.isCallable
  | .iterable, value => value.size?.isSome
  | .named name, .object className bases _ _ =>
      className == name || bases.contains name
  | _, _ => false

end CallGuard
