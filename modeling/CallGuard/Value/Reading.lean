import CallGuard.Json.Writer
import CallGuard.Text.Utf8
import CallGuard.Value.Collection

namespace CallGuard

/-!
# Values in documents

Scalars stand for themselves, arrays for lists and objects for maps. An object
with a single member whose name starts with a dollar sign selects another kind.
-/

/-- Why a document holds no value. -/
inductive ValueFault where
  | notAnArray (name : String) (found : Json)
  | notATypeName (found : Json)
  | notText (found : Json)
  | classMissing
  | basesNotNames
  | unknownTag (tag : String)

/-- The wording of a fault. -/
def ValueFault.message : ValueFault → String
  | .notAnArray name found => s!"`{name}` expects an array, got {found.write}"
  | .notATypeName found => s!"`$type` expects a type name, got {found.write}"
  | .notText found => s!"`$bytes` expects a string, got {found.write}"
  | .classMissing => "`$object` needs a `class` name"
  | .basesNotNames => "`bases` must hold class names"
  | .unknownTag tag => s!"unknown value tag `{tag}`"

/-- Whether the name of a member selects a kind of value. -/
def isTagName (name : String) : Bool :=
  name.toList.head? == some '$'

/-- The class of an object, from its description. -/
def readClassName (body : Json) : Except ValueFault String :=
  match (body.member? "class").bind Json.text? with
  | some name => .ok name
  | none => .error .classMissing

/-- The class names listed as bases of an object; none if nothing is listed. -/
def readBases (body : Json) : Except ValueFault (List String) :=
  match body.member? "bases" with
  | none => .ok []
  | some (.array items) =>
      match items.mapM Json.text? with
      | some names => .ok names
      | none => .error .basesNotNames
  | some found => .error (.notAnArray "bases" found)

/-- Whether an object is described as callable. -/
def readCallable (body : Json) : Bool :=
  ((body.member? "callable").bind Json.flag?).getD false

namespace Value

mutual

/-- The value that a document holds. -/
def ofJson : Json → Except ValueFault Value
  | .null => .ok .null
  | .bool b => .ok (.bool b)
  | .integer n =>
      if n < Nat.pow 2 63 then .ok (.int n) else .ok (.float (Double.ofInt n))
  | .float x => .ok (.float x)
  | .string content => .ok (.str content)
  | .array items => (ofItems items).map .list
  | .object [member] => ofSoleMember member
  | .object members => (ofMemberList members).map ofNamed
termination_by structural json => json

/-- The values of the items of an array. -/
def ofItems : List Json → Except ValueFault (List Value)
  | [] => .ok []
  | item :: rest => do
      let value ← ofJson item
      let values ← ofItems rest
      return value :: values
termination_by structural items => items

/-- The values of the members of an object. -/
def ofMemberList : List (String × Json) → Except ValueFault (List (String × Value))
  | [] => .ok []
  | member :: rest => do
      let pair ← ofMember member
      let pairs ← ofMemberList rest
      return pair :: pairs
termination_by structural members => members

/-- The value of a member of an object. -/
def ofMember : String × Json → Except ValueFault (String × Value)
  | (name, content) => (ofJson content).map fun value => (name, value)
termination_by structural member => member

/-- The value of an object with a single member, which may select a kind of value. -/
def ofSoleMember : String × Json → Except ValueFault Value
  | (name, content) =>
      if isTagName name then
        match name with
        | "$tuple" => (ofArray name content).map .tuple
        | "$set" => (ofArray name content).map .ofMembers
        | "$type" =>
            match content with
            | .string name => .ok (.type (.ofName name))
            | found => .error (.notATypeName found)
        | "$bytes" =>
            match content with
            | .string text => .ok (.bytes (Utf8.encode text))
            | found => .error (.notText found)
        | "$object" => do
            let className ← readClassName content
            let bases ← readBases content
            let attributes ← ofDescription content
            return .object className bases (ofAttributes attributes)
              (readCallable content)
        | tag => .error (.unknownTag tag)
      else
        (ofJson content).map fun value => ofNamed [(name, value)]
termination_by structural member => member

/-- The values of the items of an array that a tag demands. -/
def ofArray (tag : String) : Json → Except ValueFault (List Value)
  | .array items => ofItems items
  | found => .error (.notAnArray tag found)
termination_by structural json => json

/-- The attributes in the description of an object. -/
def ofDescription : Json → Except ValueFault (List (String × Value))
  | .object members => ofAttributeMembers members
  | _ => .ok []
termination_by structural json => json

/-- The attributes among the members of a description. -/
def ofAttributeMembers :
    List (String × Json) →
    Except ValueFault (List (String × Value))
  | [] => .ok []
  | member :: rest =>
      if member.1 = "attrs" then
        ofAttributeMember member
      else
        ofAttributeMembers rest
termination_by structural members => members

/-- The attributes in the member that lists them; what is no object lists none. -/
def ofAttributeMember : String × Json → Except ValueFault (List (String × Value))
  | (_, .object members) => ofMemberList members
  | _ => .ok []
termination_by structural member => member

end

end Value

end CallGuard
