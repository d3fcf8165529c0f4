import CallGuard.Json.Basic

namespace CallGuard

/-!
# Queries

A query turns a document into any number of results. It picks parts, puts new
documents together, and runs queries one after another or side by side. A part
that the kind of a document cannot have is a failure. A failure stands among the
results at its place, so a query that is never reached does no harm.
-/

/-- A query on a document. -/
inductive Query where
  /-- The document itself. -/
  | self
  /-- The content of a member. -/
  | field (name : String)
  /-- An item, counted from the end if the index is negative. -/
  | item (index : Int)
  /-- Every item or every content. -/
  | parts
  /-- No document. -/
  | empty
  /-- The second query on what the first one gives. -/
  | pipe (first second : Query)
  /-- What the first query gives, then what the second one gives. -/
  | beside (first second : Query)
  /-- One array of all that the query gives. -/
  | collect (body : Query)
  /-- An object for every choice of contents. -/
  | build (fields : List (String × Query))
  deriving Inhabited

namespace Query

/-- An index of more than 63 bits picks nothing. -/
def isIndex (index : Int) : Bool :=
  decide (index.natAbs < Nat.pow 2 63)

/-- The item at an index of an array, null outside of it. -/
def itemAt
    (items : List Json)
    (index : Int) :
    Json :=
  let place := if index < 0 then index + items.length else index
  if place < 0 then .null else items.getD place.toNat .null

/-- The content of a member of an object, null if it has none of that name. -/
def pickField (name : String) : Json → Option Json
  | .object members => some ((Table.get? members name).getD .null)
  | _ => none

/-- The item at an index of an array. -/
def pickItem (index : Int) : Json → Option Json
  | .array items => if isIndex index then some (itemAt items index) else none
  | _ => none

/-- The items of an array or the contents of an object. -/
def pickParts : Json → List (Option Json)
  | .array items => items.map some
  | .object members => members.map fun member => some member.2
  | _ => [none]

/-- The results of a query on a result; a failure stays what it is. -/
def onResult
    (query : Json → List (Option Json)) :
    Option Json →
    List (Option Json)
  | some json => query json
  | none => [none]

/-- A choice of contents with one more field; it fails if either does. -/
def extendChoice
    (name : String) :
    Option (Table Json) →
    Option Json →
    Option (Table Json)
  | some choice, some content => some (Table.enter choice name content)
  | _, _ => none

mutual

/-- The results of a query on a document, in order; nothing stands for a failure. -/
def run : Query → Json → List (Option Json)
  | .self, json => [some json]
  | .field name, json => [pickField name json]
  | .item index, json => [pickItem index json]
  | .parts, json => pickParts json
  | .empty, _ => []
  | .pipe first second, json => (first.run json).flatMap (onResult second.run)
  | .beside first second, json => first.run json ++ second.run json
  | .collect body, json => [((body.run json).mapM id).map Json.array]
  | .build fields, json =>
      (runFields fields json [some []]).map fun choice => choice.map Json.object
termination_by structural query => query

/-- Every choice of contents extended by each of the contents of the remaining fields. -/
def runFields :
    List (String × Query) →
    Json →
    List (Option (Table Json)) →
    List (Option (Table Json))
  | [], _, choices => choices
  | entry :: rest, json, choices =>
      let (name, contents) := runField entry json
      runFields rest json
        (choices.flatMap fun choice => contents.map (extendChoice name choice))
termination_by structural fields => fields

/-- The name of a field and its possible contents. -/
def runField : String × Query → Json → String × List (Option Json)
  | (name, query), json => (name, query.run json)
termination_by structural entry => entry

end

end Query

end CallGuard
