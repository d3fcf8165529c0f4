import CallGuard.Spec.Reading

namespace CallGuard

/-!
# Faults of documents

Where a document departs from the form that is wanted of it, and how.
-/

/-- A step from a document into one of its parts. -/
inductive Segment where
  | member (name : String)
  | item (index : Nat)
  deriving DecidableEq, Repr

namespace Segment

/-- The text of a step; a member after another step is set off by a dot. -/
def text (atStart : Bool) : Segment → String
  | .member name => if atStart then name else "." ++ name
  | .item index => "[" ++ toString index ++ "]"

/-- The text of several steps. -/
def pathText : List Segment → String
  | [] => "."
  | first :: rest => first.text true ++ String.join (rest.map (text false))

end Segment

/-- What a reader of documents waits for. -/
inductive Expectation where
  | text
  | flag
  | natural
  | sequence
  | table
  | nothing
  | record (name : String)
  deriving DecidableEq, Repr

/-- The wording of an expectation. -/
def Expectation.phrase : Expectation → String
  | .text => "a string"
  | .flag => "a boolean"
  | .natural => "usize"
  | .sequence => "a sequence"
  | .table => "a map"
  | .nothing => "unit"
  | .record name => "struct " ++ name

/-- How a part of a document departs from its form. -/
inductive FormFault where
  | missingField (name : String)
  | duplicateField (name : String)
  | unknownField (name : String) (known : List String)
  | unknownVariant (name : String) (known : List String)
  | wrongType (found : Json) (expected : Expectation)
  | wrongValue (found : Json) (expected : Expectation)
  | noVariant (choice : String)
  | tooFewItems (count : Nat) (record : String) (fields : Nat)
  | tooManyItems (count : Nat)
  | trailingItems
  | notAVariant

/-- What was found, by its type, and if it is a scalar also by its content. -/
def Json.found : Json → String
  | .null => "null"
  | .bool true => "boolean `true`"
  | .bool false => "boolean `false`"
  | .integer n => s!"integer `{n}`"
  | .float x => s!"floating point `{NumberLayout.document.render x}`"
  | .string text => "string " ++ Quoted.diagnostic text
  | .array _ => "sequence"
  | .object _ => "map"

/-- Names to choose from: two are joined by `or`, more are listed. -/
def choices (names : List String) : String :=
  match names.map fun name => s!"`{name}`" with
  | [first, second] => first ++ " or " ++ second
  | quoted => "one of " ++ commaSeparated quoted

/-- The wording of a fault. -/
def FormFault.message : FormFault → String
  | .missingField name => s!"missing field `{name}`"
  | .duplicateField name => s!"duplicate field `{name}`"
  | .unknownField name known => s!"unknown field `{name}`, expected {choices known}"
  | .unknownVariant name known => s!"unknown variant `{name}`, expected {choices known}"
  | .wrongType found expected => s!"invalid type: {found.found}, expected {expected.phrase}"
  | .wrongValue found expected =>
      s!"invalid value: {found.found}, expected {expected.phrase}"
  | .noVariant choice => s!"data did not match any variant of untagged enum {choice}"
  | .tooFewItems count record fields =>
      s!"invalid length {count}, expected struct {record} with {fields} elements"
  | .tooManyItems count =>
      s!"invalid length {count}, expected fewer elements in array"
  | .trailingItems => "trailing characters"
  | .notAVariant => "expected value"

/-- A fault of form with the place where it was found. -/
structure FormError where
  path : List Segment
  fault : FormFault

/-- The wording of a fault of form and its place. -/
def FormError.message (error : FormError) : String :=
  s!"at JSON path {Segment.pathText error.path} → {error.fault.message}"

/-- Why a document is refused. -/
inductive DocumentFault where
  /-- The text is no document at all. -/
  | syntaxError
  | form (error : FormError)
  | value (fault : ValueFault)
  | spec (fault : SpecReadingFault)

namespace DocumentFault

/-- The wording of a refusal by itself. -/
def detail : DocumentFault → String
  | .syntaxError => "not a JSON document"
  | .form error => error.message
  | .value fault => fault.message
  | .spec fault => fault.message

/-- The wording of a refusal. -/
def message (fault : DocumentFault) : String :=
  "invalid document: " ++ fault.detail

end DocumentFault

end CallGuard
