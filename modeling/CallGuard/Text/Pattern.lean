namespace CallGuard

/-!
# Message patterns

A pattern is matched anywhere in a text. It is made of characters, of points that
stand for any character of a line, of stars that repeat what stands before them,
and of marks for the two ends of the text. A backslash takes the meaning from the
character after it.
-/

/-- What a piece of a pattern says about one character. -/
inductive CharacterTest where
  | only (c : Char)
  | anyOfLine
  deriving DecidableEq, Repr

/-- Whether a character is as a pattern says. -/
def CharacterTest.accepts : CharacterTest → Char → Bool
  | .only expected, c => c == expected
  | .anyOfLine, c => c != '\n'

/-- A piece of a pattern. -/
inductive PatternPiece where
  | start
  | finish
  | one (test : CharacterTest)
  | many (test : CharacterTest)
  deriving DecidableEq, Repr

/-- A pattern, piece after piece. -/
abbrev Pattern :=
  List PatternPiece

namespace Pattern

/-- The characters that mean something else than themselves. -/
def specialCharacters : List Char :=
  ['\\', '.', '*', '+', '?', '(', ')', '[', '\x7b', '|', '^', '$']

/-- The characters that may follow a backslash. -/
def escapable : List Char :=
  specialCharacters ++
    [']', '\x7d', '#', '&', '-', '~', '/', '!', '"', '%', ',', ':', ';', '=', '@', '\'', '<', '>',
      '_', ' ']

/--
Read a pattern; the pieces already read are given in reverse. A star after a star
says nothing new, and one after a mark for an end lets the mark be left out.
-/
def readPieces?
    (done : List PatternPiece) :
    List Char →
    Option Pattern
  | [] => some done.reverse
  | '\\' :: c :: rest =>
      if escapable.contains c then
        readPieces? (.one (.only c) :: done) rest
      else
        none
  | '.' :: rest => readPieces? (.one .anyOfLine :: done) rest
  | '^' :: rest => readPieces? (.start :: done) rest
  | '$' :: rest => readPieces? (.finish :: done) rest
  | '*' :: rest =>
      match done with
      | .one test :: done => readPieces? (.many test :: done) rest
      | .many test :: done => readPieces? (.many test :: done) rest
      | .start :: done => readPieces? done rest
      | .finish :: done => readPieces? done rest
      | [] => none
  | c :: rest =>
      if specialCharacters.contains c then
        none
      else
        readPieces? (.one (.only c) :: done) rest

/-- Read a pattern. -/
def ofText? (text : String) : Option Pattern :=
  readPieces? [] text.toList

/--
The endings of a pattern that are reached before the next character. `first` and
`last` say whether the text starts and whether it ends here.
-/
def reach (first last : Bool) : Pattern → List Pattern
  | [] => [[]]
  | .start :: rest => if first then reach first last rest else []
  | .finish :: rest => if last then reach first last rest else []
  | .one test :: rest => [.one test :: rest]
  | .many test :: rest => (.many test :: rest) :: reach first last rest

/-- What is left of an ending after it has taken a character. -/
def take (c : Char) : Pattern → List Pattern
  | .one test :: rest => if test.accepts c then [rest] else []
  | .many test :: rest => if test.accepts c then [.many test :: rest] else []
  | _ => []

/-- The endings reached from those at hand or by starting the pattern here. -/
def reached
    (pattern : Pattern)
    (endings : List Pattern)
    (first last : Bool) :
    List Pattern :=
  ((pattern :: endings).flatMap (reach first last)).eraseDups

/--
Whether one of the endings matches at the front of a text, or the whole pattern
from there on. All endings move on together, so a text is read once.
-/
def search
    (pattern : Pattern)
    (endings : List Pattern)
    (first : Bool) :
    List Char →
    Bool
  | [] => (reached pattern endings first true).contains []
  | c :: rest =>
      let endings := reached pattern endings first false
      endings.contains [] || search pattern (endings.flatMap (take c)) false rest

/-- Whether a pattern matches somewhere in a text. -/
def matchesText
    (pattern : Pattern)
    (text : String) :
    Bool :=
  search pattern [] true text.toList

/-- What the text of a pattern says about other texts, if it is a pattern. -/
def test? (text : String) : Option (String → Bool) :=
  (ofText? text).map matchesText

end Pattern

end CallGuard
