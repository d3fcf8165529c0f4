namespace CallGuard

/-!
# Type tags

A tag names a set of values: a kind of value, a family of kinds, or a class.
-/

/-- The types that a value can be an instance of. -/
inductive TypeTag where
  | any
  | null
  | bool
  | int
  | float
  | number
  | str
  | bytes
  | list
  | tuple
  | set
  | map
  | type
  | callable
  | iterable
  | named (className : String)
  deriving DecidableEq, Repr

namespace TypeTag

/-- The tag that a written name stands for; an unknown name is that of a class. -/
def ofName (name : String) : TypeTag :=
  match name with
  | "object" | "any" | "Any" => .any
  | "None" | "NoneType" | "none" => .null
  | "bool" => .bool
  | "int" => .int
  | "float" => .float
  | "number" | "Number" => .number
  | "str" => .str
  | "bytes" => .bytes
  | "list" => .list
  | "tuple" => .tuple
  | "set" | "frozenset" => .set
  | "dict" | "map" | "Mapping" => .map
  | "type" => .type
  | "callable" | "Callable" => .callable
  | "iterable" | "Iterable" => .iterable
  | other => .named other

/-- The name that a tag is shown by. -/
def name : TypeTag → String
  | .any => "object"
  | .null => "NoneType"
  | .bool => "bool"
  | .int => "int"
  | .float => "float"
  | .number => "Number"
  | .str => "str"
  | .bytes => "bytes"
  | .list => "list"
  | .tuple => "tuple"
  | .set => "set"
  | .map => "dict"
  | .type => "type"
  | .callable => "Callable"
  | .iterable => "Iterable"
  | .named className => className

/-- Whether a tag is that of a class. -/
def isNamed : TypeTag → Bool
  | .named _ => true
  | _ => false

/-- The place of a tag among all tags; classes come last. -/
def rank : TypeTag → Nat
  | .any => 0
  | .null => 1
  | .bool => 2
  | .int => 3
  | .float => 4
  | .number => 5
  | .str => 6
  | .bytes => 7
  | .list => 8
  | .tuple => 9
  | .set => 10
  | .map => 11
  | .type => 12
  | .callable => 13
  | .iterable => 14
  | .named _ => 15

/-- The order of tags: by place, classes among themselves by name. -/
def order : TypeTag → TypeTag → Ordering
  | .named a, .named b => compare a b
  | a, b => compare a.rank b.rank

end TypeTag

end CallGuard
