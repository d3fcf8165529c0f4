namespace CallGuard

/-!
# Octets as text

Octets are read as UTF-8. What is not UTF-8 is replaced: each longest run of
octets that starts a character but does not finish it, and each octet that
starts none, gives one replacement character.
-/

namespace Utf8

/-- The character written for what cannot be read. -/
def replacement : Char :=
  '\ufffd'

/--
A character of which some octets are still owed. The next octet lies between
`low` and `high`; `code` is what the octets so far say.
-/
structure Pending where
  owed : Nat
  low : Nat
  high : Nat
  code : Nat

/-- What an octet means at the start of a character. -/
inductive Lead where
  | complete (c : Char)
  | pending (pending : Pending)
  | invalid

/--
The reading of an octet at the start of a character. The bounds on the second
octet keep out overlong forms, surrogates and codes past the last plane.
-/
def lead (octet : Nat) : Lead :=
  if octet < 0x80 then
    .complete (Char.ofNat octet)
  else if octet < 0xC2 then
    .invalid
  else if octet < 0xE0 then
    .pending ⟨1, 0x80, 0xBF, octet - 0xC0⟩
  else if octet < 0xF0 then
    let low := if octet = 0xE0 then 0xA0 else 0x80
    let high := if octet = 0xED then 0x9F else 0xBF
    .pending ⟨2, low, high, octet - 0xE0⟩
  else if octet < 0xF5 then
    let low := if octet = 0xF0 then 0x90 else 0x80
    let high := if octet = 0xF4 then 0x8F else 0xBF
    .pending ⟨3, low, high, octet - 0xF0⟩
  else
    .invalid

/-- The state after one octet, with the characters that it settles. -/
def advance
    (state : Option Pending)
    (octet : Nat) :
    List Char × Option Pending :=
  let fresh : List Char × Option Pending :=
    match lead octet with
    | .complete c => ([c], none)
    | .pending pending => ([], some pending)
    | .invalid => ([replacement], none)
  match state with
  | none => fresh
  | some pending =>
      if pending.low ≤ octet ∧ octet ≤ pending.high then
        let code := pending.code * 64 + (octet - 0x80)
        if pending.owed ≤ 1 then
          ([Char.ofNat code], none)
        else
          ([], some ⟨pending.owed - 1, 0x80, 0xBF, code⟩)
      else
        (replacement :: fresh.1, fresh.2)

/-- The characters that octets stand for, from a given state on. -/
def decodeFrom :
    Option Pending →
    List UInt8 →
    List Char
  | none, [] => []
  | some _, [] => [replacement]
  | state, octet :: rest =>
      let (settled, next) := advance state octet.toNat
      settled ++ decodeFrom next rest

/-- Octets as text, with replacements for what is not UTF-8. -/
def decode (octets : List UInt8) : String :=
  String.ofList (decodeFrom none octets)

/-- The octets of a text. -/
def encode (text : String) : List UInt8 :=
  text.toList.flatMap String.utf8EncodeChar

end Utf8

end CallGuard
