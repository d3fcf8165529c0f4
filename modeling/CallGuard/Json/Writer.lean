import CallGuard.Json.Basic
import CallGuard.Number.Layout
import CallGuard.Text.Quoted

namespace CallGuard

/-!
# Writing documents

A document on one line without blanks, members in their order.
-/

namespace Json

mutual

/-- The document as text. -/
def write : Json → String
  | .null => "null"
  | .bool true => "true"
  | .bool false => "false"
  | .integer n => toString n
  | .float x => NumberLayout.document.render x
  | .string text => Quoted.document text
  | .array items => "[" ++ ",".intercalate (writeItems items) ++ "]"
  | .object members => "\x7b" ++ ",".intercalate (writeMembers members) ++ "\x7d"
termination_by structural json => json

/-- The items of an array as texts. -/
def writeItems : List Json → List String
  | [] => []
  | item :: rest => item.write :: writeItems rest
termination_by structural items => items

/-- The members of an object as texts. -/
def writeMembers : List (String × Json) → List String
  | [] => []
  | member :: rest => writeMember member :: writeMembers rest
termination_by structural members => members

/-- A member of an object as text. -/
def writeMember : String × Json → String
  | (name, content) => Quoted.document name ++ ":" ++ content.write
termination_by structural member => member

end

end Json

end CallGuard
