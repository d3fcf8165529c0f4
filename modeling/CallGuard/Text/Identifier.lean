import CallGuard.Text.CharacterClass

namespace CallGuard

/-!
# Identifiers

A name starts with a letter or an underscore and goes on with letters, marks,
digits and connectors. A name that is a reserved word is no identifier.
-/

namespace Identifier

/-- A character that may start a name. -/
def isStart (c : Char) : Bool :=
  c == '_' || CharacterClass.isLetter c

/-- A character that may follow in a name. -/
def isPart (c : Char) : Bool :=
  CharacterClass.isLetter c || CharacterClass.isContinuation c

/-- Whether a text has the form of a name. -/
def isName (text : String) : Bool :=
  match text.toList with
  | [] => false
  | first :: rest => isStart first && rest.all isPart

/-- The words that have the form of a name and are not usable as one. -/
def reservedWords : List String :=
  ["False", "None", "True", "and", "as", "assert", "async", "await", "break",
    "class", "continue", "def", "del", "elif", "else", "except", "finally",
    "for", "from", "global", "if", "import", "in", "is", "lambda", "nonlocal",
    "not", "or", "pass", "raise", "return", "try", "while", "with", "yield"]

/-- Whether a text is a reserved word. -/
def isReserved (text : String) : Bool :=
  reservedWords.contains text

end Identifier

end CallGuard
