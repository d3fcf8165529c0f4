import CallGuard.Text.Parts

namespace CallGuard

/-!
# Lines

A text as lines, and which characters leave a line blank.
-/

namespace Lines

/-- A line without the carriage return at its end. -/
def withoutReturn (line : List Char) : List Char :=
  if line.getLast? = some '\r' then line.dropLast else line

/--
The lines among the parts between line feeds. A line feed ends a line, together
with a carriage return in front of it; what follows the last line feed is a line
only if it is not empty.
-/
def ofParts : List (List Char) → List (List Char)
  | [] => []
  | [last] => if last.isEmpty then [] else [last]
  | line :: rest => withoutReturn line :: ofParts rest

/-- The lines of a text. -/
def ofText (text : String) : List String :=
  (ofParts (splitAtEach '\n' text.toList)).map String.ofList

/-- Whether a character is white space. -/
def isSpace (c : Char) : Bool :=
  let code := c.toNat
  (decide (9 ≤ code) && decide (code ≤ 13))
    || (decide (0x2000 ≤ code) && decide (code ≤ 0x200A))
    || [0x20, 0x85, 0xA0, 0x1680, 0x2028, 0x2029, 0x202F, 0x205F, 0x3000].contains code

/-- Whether a line holds nothing but white space. -/
def isBlank (line : String) : Bool :=
  line.toList.all isSpace

end Lines

end CallGuard
