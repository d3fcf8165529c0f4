import CallGuard.Number.Shortest

namespace CallGuard

/-!
# Written numbers

A `NumberLayout` says how the shortest digits of a number are laid out. Two are
in use: the one of values, in renderings and messages, and the one of documents.
-/

/-- How the digits of a number are written down. -/
structure NumberLayout where
  /-- The leading powers of ten that are written without an exponent. -/
  leastPositional : Int
  /-- The first leading power of ten that needs an exponent again. -/
  exponentFrom : Int
  /-- Whether a positive exponent carries a sign. -/
  signedExponent : Bool
  /-- Which of two equally near decimals is chosen. -/
  tie : Tie

/--
Values keep a fraction or an exponent always, switch to an exponent below
`10⁻⁴` and from `10¹⁶` on, write `1e16` without a sign, and send ties up.
-/
def NumberLayout.value : NumberLayout where
  leastPositional := -4
  exponentFrom := 16
  signedExponent := false
  tie := .up

/--
Documents keep a fraction or an exponent always, switch to an exponent below
`10⁻⁵` and from `10¹⁶` on, write `1e+16` with a sign, and send ties to even.
-/
def NumberLayout.document : NumberLayout where
  leastPositional := -5
  exponentFrom := 16
  signedExponent := true
  tie := .toEven

/-- A positive number in base ten without its trailing zeros, and how many there were. -/
def splitTrailingZeros : List Char → List Char × Nat
  | [] => ([], 0)
  | digit :: rest =>
      match splitTrailingZeros rest with
      | ([], zeros) =>
          if digit = '0' then ([], zeros + 1) else ([digit], zeros)
      | (kept, zeros) => (digit :: kept, zeros)

/-- The digits of a natural number in base ten. -/
def decimalDigits (n : Nat) : List Char :=
  Nat.toDigits 10 n

namespace NumberLayout

/-- Digits with the point after the digit of power zero, and at least one digit on each side. -/
def positional
    (digits : List Char)
    (leading : Int) :
    List Char :=
  if leading < 0 then
    '0' :: '.' :: (List.replicate (leading.natAbs - 1) '0' ++ digits)
  else
    let places := leading.natAbs + 1
    if digits.length ≤ places then
      digits ++ List.replicate (places - digits.length) '0' ++ ['.', '0']
    else
      digits.take places ++ '.' :: digits.drop places

/-- One digit, the others after a point, and the power of ten. -/
def scientific
    (layout : NumberLayout)
    (digits : List Char)
    (leading : Int) :
    List Char :=
  let mantissa :=
    match digits with
    | first :: second :: rest => first :: '.' :: second :: rest
    | short => short
  let sign :=
    if leading < 0 then ['-'] else if layout.signedExponent then ['+'] else []
  mantissa ++ 'e' :: (sign ++ decimalDigits leading.natAbs)

/-- The text of a finite number. -/
def renderFinite
    (layout : NumberLayout)
    (x : Double) :
    List Char :=
  let body :=
    if x.significand = 0 then
      ['0', '.', '0']
    else
      let decimal := x.shortest layout.tie
      let (digits, zeros) := splitTrailingZeros (decimalDigits decimal.digits)
      let leading : Int := decimal.power + zeros + digits.length - 1
      if layout.leastPositional ≤ leading ∧ leading < layout.exponentFrom then
        positional digits leading
      else
        layout.scientific digits leading
  if x.isNegative then '-' :: body else body

/-- The text of any number; the two infinities and the NaNs have names. -/
def render
    (layout : NumberLayout)
    (x : Double) :
    String :=
  if x.isFinite then
    String.ofList (layout.renderFinite x)
  else if x.isNaN then
    "NaN"
  else if x.isNegative then
    "-inf"
  else
    "inf"

end NumberLayout

end CallGuard
