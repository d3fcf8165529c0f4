import CallGuard.Json.Basic

namespace CallGuard

/-!
# Reading documents

The grammar of documents over a list of characters. Each reader takes what it
understands from the front and returns the rest; a text outside the grammar has
no reading. Objects and arrays may be nested to a given depth.
-/

namespace Json

/-- The depth of nesting that a document may have. -/
def maximalDepth : Nat :=
  127

/-- A blank between the parts of a document. -/
def isBlank (c : Char) : Bool :=
  c == ' ' || c == '\t' || c == '\n' || c == '\r'

/-- The text from its first character that is no blank. -/
def skipBlanks (text : List Char) : List Char :=
  text.dropWhile isBlank

/-- The text after an expected beginning. -/
def after? :
    List Char →
    List Char →
    Option (List Char)
  | [], text => some text
  | expected :: more, c :: rest =>
      if c = expected then after? more rest else none
  | _ :: _, [] => none

/-- The value of a digit in base sixteen. -/
def hexValue? (c : Char) : Option Nat :=
  if '0' ≤ c ∧ c ≤ '9' then
    some (c.toNat - '0'.toNat)
  else if 'a' ≤ c ∧ c ≤ 'f' then
    some (c.toNat - 'a'.toNat + 10)
  else if 'A' ≤ c ∧ c ≤ 'F' then
    some (c.toNat - 'A'.toNat + 10)
  else
    none

/-- Four digits in base sixteen. -/
def readUnit? : List Char → Option (Nat × List Char)
  | a :: b :: c :: d :: rest => do
      let a ← hexValue? a
      let b ← hexValue? b
      let c ← hexValue? c
      let d ← hexValue? d
      return (((a * 16 + b) * 16 + c) * 16 + d, rest)
  | _ => none

/--
The character of an escape by code: one unit of 16 bits, or two that form a
pair. Half a pair stands for no character.
-/
def readCode? (text : List Char) : Option (Char × List Char) :=
  match readUnit? text with
  | none => none
  | some (unit, rest) =>
      if unit < 0xD800 ∨ 0xE000 ≤ unit then
        some (Char.ofNat unit, rest)
      else if 0xDC00 ≤ unit then
        none
      else
        match after? ['\\', 'u'] rest with
        | none => none
        | some low =>
            match readUnit? low with
            | none => none
            | some (second, rest) =>
                if 0xDC00 ≤ second ∧ second < 0xE000 then
                  some
                    (Char.ofNat (0x10000 + (unit - 0xD800) * 0x400 + (second - 0xDC00)),
                      rest)
                else
                  none

/-- The character that an escape stands for, read after its backslash. -/
def readEscape? : List Char → Option (Char × List Char)
  | '"' :: rest => some ('"', rest)
  | '\\' :: rest => some ('\\', rest)
  | '/' :: rest => some ('/', rest)
  | 'b' :: rest => some ('\x08', rest)
  | 'f' :: rest => some ('\x0c', rest)
  | 'n' :: rest => some ('\n', rest)
  | 'r' :: rest => some ('\r', rest)
  | 't' :: rest => some ('\t', rest)
  | 'u' :: rest => readCode? rest
  | _ => none

/--
The characters of a string up to its closing quote. Each step takes at least
one character, so the length of the text is fuel enough.
-/
def readCharacters? :
    Nat →
    List Char →
    Option (List Char × List Char)
  | 0, _ => none
  | _ + 1, [] => none
  | _ + 1, '"' :: rest => some ([], rest)
  | fuel + 1, '\\' :: rest =>
      match readEscape? rest with
      | none => none
      | some (c, rest) =>
          (readCharacters? fuel rest).map fun (more, rest) => (c :: more, rest)
  | fuel + 1, c :: rest =>
      if c.toNat < 0x20 then
        none
      else
        (readCharacters? fuel rest).map fun (more, rest) => (c :: more, rest)

/-- A string, read after its opening quote. -/
def readString? (text : List Char) : Option (String × List Char) :=
  (readCharacters? (text.length + 1) text).map fun (characters, rest) =>
    (String.ofList characters, rest)

/-- The digits at the front of a text, at least one. -/
def readDigits? (text : List Char) : Option (List Char × List Char) :=
  match text.span Char.isDigit with
  | ([], _) => none
  | (digits, rest) => some (digits, rest)

/-- The digits before the point: a zero alone, or digits that start with no zero. -/
def readWhole? (text : List Char) : Option (List Char × List Char) :=
  match readDigits? text with
  | some (['0'], rest) => some (['0'], rest)
  | some ('0' :: _, _) => none
  | result => result

/-- The point and the digits after it, if there is a point. -/
def readFraction? : List Char → Option (Option (List Char) × List Char)
  | '.' :: rest => (readDigits? rest).map fun (digits, rest) => (some digits, rest)
  | text => some (none, text)

/-- The exponent, if there is one. -/
def readExponent? (text : List Char) : Option (Option (Bool × List Char) × List Char) :=
  match text with
  | [] => some (none, text)
  | mark :: rest =>
      if mark = 'e' ∨ mark = 'E' then
        let (negative, digits) :=
          match rest with
          | '-' :: digits => (true, digits)
          | '+' :: digits => (false, digits)
          | digits => (false, digits)
        (readDigits? digits).map fun (digits, rest) => (some (negative, digits), rest)
      else
        some (none, text)

/-- The written parts of a number. -/
def readNumeral? (text : List Char) : Option (Numeral × List Char) := do
  let (negative, text) :=
    match text with
    | '-' :: rest => (true, rest)
    | text => (false, text)
  let (whole, text) ← readWhole? text
  let (fraction, text) ← readFraction? text
  let (exponent, text) ← readExponent? text
  return (⟨negative, whole, fraction, exponent⟩, text)

/--
The number that a numeral denotes: an integer if it is written as one and fits
in 64 bits, with a sign or without; minus zero and all others are floats.
-/
def ofNumeral? (numeral : Numeral) : Option Json :=
  let size := Numeral.digitsValue 0 numeral.whole
  if numeral.isWhole && !numeral.negative && decide (size < Nat.pow 2 64) then
    some (.integer size)
  else if numeral.isWhole && numeral.negative
      && decide (0 < size) && decide (size ≤ Nat.pow 2 63) then
    some (.integer (-size))
  else
    (Double.ofDocument? numeral).map .float

mutual

/-- A document, read after blanks; `depth` is how deep it may still be nested. -/
def readValue? :
    Nat →
    Nat →
    List Char →
    Option (Json × List Char)
  | 0, _, _ => none
  | fuel + 1, depth, text =>
      match skipBlanks text with
      | 'n' :: rest => (after? ['u', 'l', 'l'] rest).map fun rest => (.null, rest)
      | 't' :: rest => (after? ['r', 'u', 'e'] rest).map fun rest => (.bool true, rest)
      | 'f' :: rest =>
          (after? ['a', 'l', 's', 'e'] rest).map fun rest => (.bool false, rest)
      | '"' :: rest => (readString? rest).map fun (text, rest) => (.string text, rest)
      | '[' :: rest =>
          match depth with
          | 0 => none
          | depth + 1 =>
              match skipBlanks rest with
              | ']' :: rest => some (.array [], rest)
              | rest =>
                  (readItems? fuel depth rest).map fun (items, rest) =>
                    (.array items, rest)
      | '\x7b' :: rest =>
          match depth with
          | 0 => none
          | depth + 1 =>
              match skipBlanks rest with
              | '\x7d' :: rest => some (.object [], rest)
              | rest =>
                  (readMembers? fuel depth rest).map fun (members, rest) =>
                    (.object members, rest)
      | text =>
          match readNumeral? text with
          | none => none
          | some (numeral, rest) => (ofNumeral? numeral).map fun json => (json, rest)

/-- The items of an array up to its end, at least one. -/
def readItems? :
    Nat →
    Nat →
    List Char →
    Option (List Json × List Char)
  | 0, _, _ => none
  | fuel + 1, depth, text =>
      match readValue? fuel depth text with
      | none => none
      | some (item, rest) =>
          match skipBlanks rest with
          | ']' :: rest => some ([item], rest)
          | ',' :: rest =>
              (readItems? fuel depth rest).map fun (items, rest) =>
                (item :: items, rest)
          | _ => none

/-- The members of an object up to its end, at least one. -/
def readMembers? :
    Nat →
    Nat →
    List Char →
    Option (List (String × Json) × List Char)
  | 0, _, _ => none
  | fuel + 1, depth, text =>
      match skipBlanks text with
      | '"' :: rest =>
          match readString? rest with
          | none => none
          | some (name, rest) =>
              match skipBlanks rest with
              | ':' :: rest =>
                  match readValue? fuel depth rest with
                  | none => none
                  | some (content, rest) =>
                      match skipBlanks rest with
                      | '\x7d' :: rest => some ([(name, content)], rest)
                      | ',' :: rest =>
                          (readMembers? fuel depth rest).map fun (members, rest) =>
                            ((name, content) :: members, rest)
                      | _ => none
              | _ => none
      | _ => none

end

/--
The document at the front of a text and what follows it. A document takes at
least one character for every reader that is entered on its way, counting the
one that finds nothing, so twice the length of the text is fuel enough.
-/
def readFront?
    (depth : Nat)
    (text : List Char) :
    Option (Json × List Char) :=
  readValue? (2 * text.length + 2) depth text

/-- The document that makes up a whole text, apart from blanks around it. -/
def read? (text : String) : Option Json :=
  match readFront? maximalDepth text.toList with
  | some (json, rest) => if (skipBlanks rest).isEmpty then some json else none
  | none => none

/-- The document at the front of a text, whatever follows. -/
def readLeading? (text : String) : Option Json :=
  (readFront? maximalDepth text.toList).map (·.1)

end Json

end CallGuard
