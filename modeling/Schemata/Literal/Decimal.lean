/-!
# Decimal literals

A decimal literal is an optional sign, ASCII digits, and optionally a period with more digits; there
has to be a digit on one of the two sides. It is written back in canonical form: no plus sign, no
superfluous leading zeros, a zero in front of a bare period, no minus sign on a zero value, and the
digits after the period as they are. An integer literal is an optional sign and ASCII digits. It is
read as an integer, which has to fit a width, and written as this integer is printed.
-/

namespace Schemata.Literal

/-- The number that a sequence of ASCII digits denotes. -/
def digitsValue (digits : List Char) : Nat :=
  digits.foldl (fun value c => 10 * value + (c.toNat - '0'.toNat)) 0

/-- The text is a non-empty sequence of ASCII digits. -/
def isDigits (text : List Char) : Bool :=
  !text.isEmpty && text.all Char.isDigit

/-- Splits a leading sign off a literal. The first component tells whether it is a minus sign. -/
def splitSign (text : List Char) : Bool × List Char :=
  match text with
  | [] => (false, [])
  | c :: rest => if c = '-' then (true, rest) else if c = '+' then (false, rest) else (false, text)

/-- A decimal literal: its sign, the digits before the period, and the digits after the period if
there is one. -/
structure Decimal where
  negative : Bool
  whole : List Char
  fraction : Option (List Char)
  deriving DecidableEq, Repr

namespace Decimal

/-- The digits after the period, none if there is no period. -/
def fractionDigits (literal : Decimal) : List Char :=
  literal.fraction.getD []

/-- Reads a decimal literal. -/
def read? (text : List Char) : Option Decimal :=
  let (negative, unsigned) := splitSign text
  let whole := unsigned.takeWhile (· != '.')
  let fraction :=
    match unsigned.dropWhile (· != '.') with
    | [] => none
    | _ :: digits => some digits
  if isDigits (whole ++ fraction.getD []) then some ⟨negative, whole, fraction⟩ else none

/-- The literal denotes zero. -/
def isZero (literal : Decimal) : Bool :=
  literal.whole.all (· == '0') && literal.fractionDigits.all (· == '0')

/-- The sign in canonical form. -/
def signText (literal : Decimal) : List Char :=
  if literal.negative && !literal.isZero then ['-'] else []

/-- The digits before the period in canonical form. -/
def wholeText (literal : Decimal) : List Char :=
  match literal.whole.dropWhile (· == '0') with
  | [] => ['0']
  | digits => digits

/-- The period and the digits after it in canonical form. -/
def fractionText (literal : Decimal) : List Char :=
  match literal.fractionDigits with
  | [] => []
  | digits => '.' :: digits

/-- The canonical text of a literal. -/
def render (literal : Decimal) : List Char :=
  literal.signText ++ literal.wholeText ++ literal.fractionText

end Decimal

/-- A power of two. -/
def twoPow (exponent : Nat) : Nat :=
  Nat.pow 2 exponent

/-- The number is a signed integer of the given width in bits. -/
def fitsSigned (bits : Nat) (value : Int) : Bool :=
  -(twoPow (bits - 1) : Int) ≤ value && value < (twoPow (bits - 1) : Int)

/-- The canonical text of a decimal literal. -/
def decimalText? (text : String) : Option String :=
  (Decimal.read? text.toList).map fun literal => String.ofList literal.render

/-- The number that a non-empty sequence of ASCII digits denotes. -/
def natural? (text : List Char) : Option Nat :=
  if isDigits text then some (digitsValue text) else none

/-- The number that an integer literal denotes. -/
def integer? (text : List Char) : Option Int :=
  match text with
  | [] => none
  | c :: rest =>
    if c = '-' then (natural? rest).map fun value => -Int.ofNat value
    else if c = '+' then (natural? rest).map Int.ofNat
    else (natural? text).map Int.ofNat

/-- The number that an integer literal denotes, printed, if it fits the given width in bits. -/
def integerText? (bits : Nat) (text : String) : Option String := do
  let value ← integer? text.toList
  if fitsSigned bits value then some (toString value) else none

/-- The value of an unsigned integer literal, an optional plus sign and ASCII digits, if it fits the
given width in bits. -/
def unsigned? (bits : Nat) (text : String) : Option Nat :=
  let digits :=
    match text.toList with
    | [] => []
    | c :: rest => if c = '+' then rest else c :: rest
  if isDigits digits && digitsValue digits < twoPow bits then some (digitsValue digits) else none

end Schemata.Literal
