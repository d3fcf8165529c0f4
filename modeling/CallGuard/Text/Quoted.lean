import CallGuard.Text.CharacterClass

namespace CallGuard

/-!
# Quoted text

Three ways to put a text between quotes. Values use single quotes and escape
nothing but the quote; diagnostics use double quotes and escape all that has no
visible form; documents use double quotes and escape what their grammar demands.
-/

namespace Quoted

/-- The digits of a code in base sixteen, at least as many as asked for. -/
def hexDigits
    (width code : Nat) :
    List Char :=
  let digits := Nat.toDigits 16 code
  List.replicate (width - digits.length) '0' ++ digits

/-- A character between single quotes. -/
def singleEscape (c : Char) : List Char :=
  if c = '\'' then ['\\', '\''] else [c]

/-- A text between single quotes. -/
def single (text : String) : String :=
  String.ofList ('\'' :: text.toList.flatMap singleEscape ++ ['\''])

/-- A character of a diagnostic text. -/
def diagnosticEscape (c : Char) : List Char :=
  if c = '\x00' then
    ['\\', '0']
  else if c = '\t' then
    ['\\', 't']
  else if c = '\r' then
    ['\\', 'r']
  else if c = '\n' then
    ['\\', 'n']
  else if c = '\\' ∨ c = '"' then
    ['\\', c]
  else if CharacterClass.isExtender c || CharacterClass.isHidden c then
    '\\' :: 'u' :: '\x7b' :: hexDigits 1 c.toNat ++ ['\x7d']
  else
    [c]

/-- A text as a diagnostic shows it. -/
def diagnostic (text : String) : String :=
  String.ofList ('"' :: text.toList.flatMap diagnosticEscape ++ ['"'])

/-- A character of a document. -/
def documentEscape (c : Char) : List Char :=
  if c = '"' ∨ c = '\\' then
    ['\\', c]
  else if c = '\x08' then
    ['\\', 'b']
  else if c = '\x0c' then
    ['\\', 'f']
  else if c = '\n' then
    ['\\', 'n']
  else if c = '\r' then
    ['\\', 'r']
  else if c = '\t' then
    ['\\', 't']
  else if c.toNat < 0x20 then
    '\\' :: 'u' :: hexDigits 4 c.toNat
  else
    [c]

/-- A text as a document holds it. -/
def document (text : String) : String :=
  String.ofList ('"' :: text.toList.flatMap documentEscape ++ ['"'])

end Quoted

end CallGuard
