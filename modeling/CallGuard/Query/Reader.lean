import CallGuard.Json.Reader
import CallGuard.Json.Writer
import CallGuard.Query.Basic
import CallGuard.Text.Lines

namespace CallGuard

/-!
# Reading queries

A query is read into tokens and these into a query. A pipe binds less than a
comma, and a comma less than picking parts.
-/

/-- A token of a query. -/
inductive QueryToken where
  | word (name : String)
  /-- A name with a point right before it. -/
  | key (name : String)
  /-- Two points. -/
  | points
  | number (digits : List Char)
  | mark (c : Char)
  deriving DecidableEq, Repr

namespace QueryToken

/-- A character that may start a word. -/
def isWordStart (c : Char) : Bool :=
  c == '_' || c.isAlpha

/-- A character of a word. -/
def isWordPart (c : Char) : Bool :=
  isWordStart c || c.isDigit

/-- The characters that are tokens by themselves. -/
def marks : List Char :=
  ['.', '[', ']', '\x7b', '\x7d', '(', ')', '|', ',', ':', '-']

/--
The tokens of a text, with white space between them or not; each takes at least
one character, so the length of the text is fuel enough.
-/
def read? :
    Nat →
    List Char →
    Option (List QueryToken)
  | _, [] => some []
  | 0, _ => none
  | fuel + 1, '.' :: '.' :: rest => (read? fuel rest).map (.points :: ·)
  | fuel + 1, c :: rest =>
      if Lines.isSpace c then
        read? fuel rest
      else if isWordStart c then
        (read? fuel (rest.dropWhile isWordPart)).map fun tokens =>
          .word (String.ofList (c :: rest.takeWhile isWordPart)) :: tokens
      else if c == '.' && (rest.head?.map isWordStart).getD false then
        (read? fuel (rest.dropWhile isWordPart)).map fun tokens =>
          .key (String.ofList (rest.takeWhile isWordPart)) :: tokens
      else if c.isDigit then
        (read? fuel (rest.dropWhile Char.isDigit)).map fun tokens =>
          .number (c :: rest.takeWhile Char.isDigit) :: tokens
      else if marks.contains c then
        (read? fuel rest).map fun tokens => .mark c :: tokens
      else
        none

/-- The index that digits stand for. -/
def indexValue (digits : List Char) : Int :=
  (digits.foldl (fun total digit => total * 10 + (digit.toNat - '0'.toNat)) 0 : Nat)

end QueryToken

namespace Query

/-- The parts picked from what a query gives, as many as are written. -/
def readPicks :
    Nat →
    Query →
    List QueryToken →
    Query × List QueryToken
  | 0, query, tokens => (query, tokens)
  | fuel + 1, query, .key name :: rest =>
      readPicks fuel (.pipe query (.field name)) rest
  | fuel + 1, query, .mark '[' :: .mark ']' :: rest =>
      readPicks fuel (.pipe query .parts) rest
  | fuel + 1, query, .mark '[' :: .number digits :: .mark ']' :: rest =>
      readPicks fuel (.pipe query (.item (QueryToken.indexValue digits))) rest
  | fuel + 1, query, .mark '[' :: .mark '-' :: .number digits :: .mark ']' :: rest =>
      readPicks fuel (.pipe query (.item (-QueryToken.indexValue digits))) rest
  | _, query, tokens => (query, tokens)

mutual

/-- Queries joined by pipes. Every reader that is entered uses one unit of fuel. -/
def readPipe? :
    Nat →
    List QueryToken →
    Option (Query × List QueryToken)
  | 0, _ => none
  | fuel + 1, tokens => do
      let (first, rest) ← readComma? fuel tokens
      match rest with
      | .mark '|' :: rest =>
          let (second, rest) ← readPipe? fuel rest
          return (.pipe first second, rest)
      | rest => return (first, rest)

/-- Queries joined by commas. -/
def readComma? :
    Nat →
    List QueryToken →
    Option (Query × List QueryToken)
  | 0, _ => none
  | fuel + 1, tokens => do
      let (first, rest) ← readTerm? fuel tokens
      match rest with
      | .mark ',' :: rest =>
          let (second, rest) ← readComma? fuel rest
          return (.beside first second, rest)
      | rest => return (first, rest)

/-- A query that picks parts, or one between brackets. -/
def readTerm? :
    Nat →
    List QueryToken →
    Option (Query × List QueryToken)
  | 0, _ => none
  | fuel + 1, tokens =>
      match tokens with
      | .word "empty" :: rest => some (readPicks fuel .empty rest)
      | .key name :: rest => some (readPicks fuel (.field name) rest)
      | .mark '.' :: rest => some (readPicks fuel .self rest)
      | .mark '(' :: rest => do
          let (query, rest) ← readPipe? fuel rest
          match rest with
          | .mark ')' :: rest => return readPicks fuel query rest
          | _ => none
      | .mark '[' :: .mark ']' :: rest => some (readPicks fuel (.collect .empty) rest)
      | .mark '[' :: rest => do
          let (query, rest) ← readPipe? fuel rest
          match rest with
          | .mark ']' :: rest => return readPicks fuel (.collect query) rest
          | _ => none
      | .mark '\x7b' :: .mark '\x7d' :: rest => some (readPicks fuel (.build []) rest)
      | .mark '\x7b' :: rest => do
          let (fields, rest) ← readFields? fuel rest
          return readPicks fuel (.build fields) rest
      | _ => none

/-- The fields of an object up to its closing bracket, at least one; a comma may follow the last. -/
def readFields? :
    Nat →
    List QueryToken →
    Option (List (String × Query) × List QueryToken)
  | 0, _ => none
  | fuel + 1, tokens =>
      match tokens with
      | .word name :: .mark ':' :: rest => do
          let (query, rest) ← readContent? fuel rest
          match rest with
          | .mark '\x7d' :: rest => return ([(name, query)], rest)
          | .mark ',' :: .mark '\x7d' :: rest => return ([(name, query)], rest)
          | .mark ',' :: rest =>
              let (fields, rest) ← readFields? fuel rest
              return ((name, query) :: fields, rest)
          | _ => none
      | _ => none

/-- The content of a field: queries joined by pipes, without commas. -/
def readContent? :
    Nat →
    List QueryToken →
    Option (Query × List QueryToken)
  | 0, _ => none
  | fuel + 1, tokens => do
      let (first, rest) ← readTerm? fuel tokens
      match rest with
      | .mark '|' :: rest =>
          let (second, rest) ← readContent? fuel rest
          return (.pipe first second, rest)
      | rest => return (first, rest)

end

/-- The query that a text stands for. Three readers at most are entered for each token. -/
def ofText? (text : String) : Option Query := do
  let characters := text.toList
  let tokens ← QueryToken.read? characters.length characters
  match ← readPipe? (4 * tokens.length + 4) tokens with
  | (query, []) => return query
  | _ => none

/--
The document that a result is read as. A result is written down and read again,
so it may not be nested too deep, and its numbers are those that their texts are
read as.
-/
def settle? (result : Option Json) : Option Json :=
  result.bind fun json => Json.read? json.write

/--
What the query of a text gives for a document; nothing if the text is no query or
one of the results is a failure.
-/
def results?
    (text : String)
    (json : Json) :
    Option (List Json) :=
  (ofText? text).bind fun query => (query.run json).mapM settle?

end Query

end CallGuard
