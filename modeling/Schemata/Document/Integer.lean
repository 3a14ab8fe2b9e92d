import Schemata.Document.Quoted

/-!
# Integers of a settings document

An integer is an optional sign and decimal digits without a leading zero, or one of the marks `0x`,
`0o` and `0b` and digits of that base. A single underscore may stand between two digits.
-/

namespace Schemata.Document

/-- The value of digits in a base, where an underscore may stand between any two of them. The flag
tells whether the preceding character is a digit. -/
def digitsFrom (base : Nat) (value : Nat) (afterDigit : Bool) : List Char → Option Nat
  | [] => if afterDigit then some value else none
  | c :: rest =>
    if c = '_' then
      if afterDigit then digitsFrom base value false rest else none
    else
      match hexDigit? c with
      | none => none
      | some digit =>
        if digit < base then digitsFrom base (base * value + digit) true rest else none

/-- The value of digits in a base. -/
def digits? (base : Nat) (text : List Char) : Option Nat :=
  digitsFrom base 0 false text

/-- The value of decimal digits without a leading zero. -/
def decimal? (text : List Char) : Option Nat :=
  if text.head? = some '0' ∧ text ≠ ['0'] then none else digits? 10 text

/-- The value of an integer. -/
def integer? (text : List Char) : Option Int :=
  match text with
  | '+' :: rest => (decimal? rest).map Int.ofNat
  | '-' :: rest => (decimal? rest).map fun value => -(value : Int)
  | '0' :: 'x' :: rest => (digits? 16 rest).map Int.ofNat
  | '0' :: 'o' :: rest => (digits? 8 rest).map Int.ofNat
  | '0' :: 'b' :: rest => (digits? 2 rest).map Int.ofNat
  | _ => (decimal? text).map Int.ofNat

end Schemata.Document
