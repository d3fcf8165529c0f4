import CallGuard.Number.Decimal
import CallGuard.Table

namespace CallGuard

/-!
# Document trees

A document as it is written: members keep their order, and a member may be
written twice. `Json.distinct` settles repeated members: the last content counts
and stands where the member was first written.
-/

/-- A document. Integers that fit in 64 bits are kept apart from other numbers. -/
inductive Json where
  | null
  | bool (b : Bool)
  | integer (n : Int)
  | float (x : Double)
  | string (text : String)
  | array (items : List Json)
  | object (members : List (String × Json))
  deriving Inhabited

namespace Json

mutual

/-- The document in which every object holds each member once. -/
def distinct : Json → Json
  | .array items => .array (distinctItems items)
  | .object members => .object (Table.ofEntries (distinctMembers members))
  | other => other
termination_by structural json => json

/-- Repeated members settled in each item. -/
def distinctItems : List Json → List Json
  | [] => []
  | item :: rest => item.distinct :: distinctItems rest
termination_by structural items => items

/-- Repeated members settled inside the content of each member. -/
def distinctMembers : List (String × Json) → List (String × Json)
  | [] => []
  | member :: rest => distinctMember member :: distinctMembers rest
termination_by structural members => members

/-- Repeated members settled inside the content of one member. -/
def distinctMember : String × Json → String × Json
  | (name, content) => (name, content.distinct)
termination_by structural member => member

end

/-- The content of a member of an object. -/
def member?
    (json : Json)
    (name : String) :
    Option Json :=
  match json with
  | .object members => Table.get? members name
  | _ => none

/-- The text of a string document. -/
def text? : Json → Option String
  | .string text => some text
  | _ => none

/-- The truth value of a boolean document. -/
def flag? : Json → Option Bool
  | .bool b => some b
  | _ => none

end Json

end CallGuard
