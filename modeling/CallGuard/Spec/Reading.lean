import CallGuard.Spec.Basic
import CallGuard.Value.Reading

namespace CallGuard

/-!
# Specs in documents

Arrays stand for tuples, and an object with a single member for a list, set, map,
value or type. The two families differ in the scalars alone: to one a string names
a type, to the other it is a bound.
-/

/-- Why a document holds no spec. -/
inductive SpecReadingFault where
  | notSoleMember (found : Json)
  | notAPair (found : Json)
  | notATypeName (found : Json)
  | unknownKey (key : String)
  | value (fault : ValueFault)

/-- The wording of a fault. -/
def SpecReadingFault.message : SpecReadingFault → String
  | .notSoleMember found =>
      "spec objects take exactly one of `list`, `set`, `map`, `value`, `type`; got "
        ++ found.write
  | .notAPair found => s!"`map` expects a [key, value] pair, got {found.write}"
  | .notATypeName found => s!"`type` expects a type name, got {found.write}"
  | .unknownKey key => s!"unknown spec key `{key}`"
  | .value fault => fault.message

/-- The text that stands for the skip marker. -/
def skipMarker : String :=
  "..."

/-- The spec that a scalar stands for in a family. -/
def Family.scalar : Family → Value → Spec
  | .typed, .str name => .type (.ofName name)
  | .typed, .null => .type .null
  | .typed, .type tag => .type tag
  | _, value => .value value

namespace Spec

/-- The value that a document holds, where a spec wants one. -/
def readValue (json : Json) : Except SpecReadingFault Value :=
  (Value.ofJson json).mapError .value

mutual

/-- The spec that a document holds for a family. -/
def ofJson (family : Family) : Json → Except SpecReadingFault Spec
  | .string text =>
      if text = skipMarker then
        .ok .skip
      else
        .ok (family.scalar (.str text))
  | .array items => (ofItems family items).map .tuple
  | .object [member] => ofMember family member
  | .object members => .error (.notSoleMember (.object members))
  | scalar => (readValue scalar).map family.scalar
termination_by structural json => json

/-- The specs of the items of an array. -/
def ofItems (family : Family) : List Json → Except SpecReadingFault (List Spec)
  | [] => .ok []
  | item :: rest => do
      let spec ← ofJson family item
      let specs ← ofItems family rest
      return spec :: specs
termination_by structural items => items

/-- The spec of an object with a single member. -/
def ofMember (family : Family) : String × Json → Except SpecReadingFault Spec
  | (key, body) =>
      match key with
      | "list" => (ofJson family body).map fun spec => .list [spec]
      | "set" => (ofJson family body).map fun spec => .set [spec]
      | "map" => (ofPair family body).map fun entry => .map [entry]
      | "value" => (readValue body).map .value
      | "type" =>
          match body with
          | .string name => .ok (.type (.ofName name))
          | found => .error (.notATypeName found)
      | other => .error (.unknownKey other)
termination_by structural member => member

/-- The two specs of an array of two. -/
def ofPair (family : Family) : Json → Except SpecReadingFault (Spec × Spec)
  | .array [key, content] => do
      let key ← ofJson family key
      let content ← ofJson family content
      return (key, content)
  | found => .error (.notAPair found)
termination_by structural json => json

end

end Spec

end CallGuard
