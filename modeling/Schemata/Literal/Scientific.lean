import Schemata.Literal.Decimal

/-!
# Floating-point literals

A floating-point literal is a decimal literal, optionally followed by `e` or `E` and an integer
exponent of ten. A literal is finite in a binary format if its magnitude is below the midpoint
between the largest number of the format and the next power of two, because everything from that
midpoint on rounds to infinity.
-/

namespace Schemata.Literal

/-- A floating-point literal: the decimal literal in front and the exponent of ten. -/
structure Scientific where
  mantissa : Decimal
  exponent : Int
  deriving DecidableEq, Repr

namespace Scientific

/-- The characters that introduce the exponent. -/
def isExponentMark (c : Char) : Bool :=
  c == 'e' || c == 'E'

/-- Reads the exponent behind its mark: an optional sign and at least one digit. -/
def readExponent? (text : List Char) : Option Int :=
  let (negative, digits) := splitSign text
  if isDigits digits then
    some (if negative then -(digitsValue digits : Int) else digitsValue digits)
  else
    none

/-- Reads a floating-point literal. -/
def read? (text : List Char) : Option Scientific := do
  let mantissa ← Decimal.read? (text.takeWhile (!isExponentMark ·))
  match text.dropWhile (!isExponentMark ·) with
  | [] => some ⟨mantissa, 0⟩
  | _ :: exponent => some ⟨mantissa, ← readExponent? exponent⟩

/-- The digits of the mantissa without the zeros in front. -/
def significand (literal : Scientific) : List Char :=
  (literal.mantissa.whole ++ literal.mantissa.fractionDigits).dropWhile (· == '0')

/-- The power of ten by which the significand, read as an integer, is multiplied. -/
def scale (literal : Scientific) : Int :=
  literal.exponent - literal.mantissa.fractionDigits.length

/-- The number of digits of a positive number. -/
def digitCount (number : Nat) : Nat :=
  (Nat.toDigits 10 number).length

/-- A power of ten. -/
def tenPow (exponent : Nat) : Nat :=
  Nat.pow 10 exponent

/-- The magnitude of the literal is below a bound. A number whose first significant digit stands
behind the period is below one, and a number with more digits before the period than the bound is
not below it; only in between are the two compared exactly, so a huge exponent costs nothing. -/
def isBelow (literal : Scientific) (bound : Nat) : Bool :=
  let digits := literal.significand
  let order := literal.scale + digits.length
  if digits.isEmpty || order ≤ 0 then 0 < bound
  else if order > digitCount bound then false
  else digitsValue digits * tenPow literal.scale.toNat < bound * tenPow (-literal.scale).toNat

end Scientific

/-- The least magnitude that rounds to infinity in the binary format with the given precision in
bits and largest exponent. -/
def overflowBound (precision maxExponent : Nat) : Nat :=
  twoPow maxExponent - twoPow (maxExponent - precision - 1)

/-- The text itself, if it is a literal that is finite below the bound. -/
def finiteText? (bound : Nat) (text : String) : Option String := do
  let literal ← Scientific.read? text.toList
  if literal.isBelow bound then some text else none

/-- A literal that is finite in the single format. -/
def singleText? : String → Option String :=
  finiteText? (overflowBound 24 128)

/-- A literal that is finite in the double format. -/
def doubleText? : String → Option String :=
  finiteText? (overflowBound 53 1024)

end Schemata.Literal
