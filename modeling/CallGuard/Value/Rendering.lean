import CallGuard.Number.Layout
import CallGuard.Text.Quoted
import CallGuard.Text.Utf8
import CallGuard.Value.Basic

namespace CallGuard

/-!
# Values as text

How values are shown in messages, labels and renderings.
-/

/-- Texts with a separator of comma and blank. -/
def commaSeparated (parts : List String) : String :=
  ", ".intercalate parts

/-- Texts between round brackets; a single one is followed by a comma. -/
def parenthesized : List String → String
  | [only] => "(" ++ only ++ ",)"
  | parts => "(" ++ commaSeparated parts ++ ")"

/-- Texts between square brackets. -/
def bracketed (parts : List String) : String :=
  "[" ++ commaSeparated parts ++ "]"

/-- Texts between curly brackets. -/
def braced (parts : List String) : String :=
  "\x7b" ++ commaSeparated parts ++ "\x7d"

/-- The text of a type tag as a value. -/
def TypeTag.text (tag : TypeTag) : String :=
  "<class '" ++ tag.name ++ "'>"

namespace Value

mutual

/-- The whole text of a value. -/
def text : Value → String
  | .null => "None"
  | .bool true => "True"
  | .bool false => "False"
  | .int n => toString n
  | .float x => NumberLayout.value.render x
  | .str content => Quoted.single content
  | .bytes octets => "b'" ++ Utf8.decode octets ++ "'"
  | .list items => bracketed (itemTexts items)
  | .tuple items => parenthesized (itemTexts items)
  | .set [] => "set()"
  | .set members => braced (itemTexts members)
  | .map entries => braced (entryTexts entries)
  | .object className _ _ _ => "<" ++ className ++ " object>"
  | .type tag => tag.text
termination_by structural value => value

/-- The texts of the items of a container. -/
def itemTexts : List Value → List String
  | [] => []
  | item :: rest => item.text :: itemTexts rest
termination_by structural items => items

/-- The texts of the entries of a map. -/
def entryTexts : List (Value × Value) → List String
  | [] => []
  | entry :: rest => entryText entry :: entryTexts rest
termination_by structural entries => entries

/-- The text of one entry of a map. -/
def entryText : Value × Value → String
  | (key, content) => key.text ++ ": " ++ content.text
termination_by structural entry => entry

end

/-- The text of a value, cut to a number of characters; a cut shows as three dots. -/
def render
    (value : Value)
    (width : Nat) :
    String :=
  let full := value.text
  if full.length ≤ width then
    full
  else
    String.ofList (full.toList.take width) ++ "..."

end Value

end CallGuard
