import Mathlib.Computability.RegularExpressions
import Mathlib.Data.Nat.Digits.Defs
import Mathlib.Data.Rat.Defs
import Mathlib.Tactic.Ring
import Schemata.Literal.Decimal
import Schemata.Proofs.Text.Classes

/-!
# Numbers as texts

The patterns of integer, decimal and canonical literals, as regular expressions over characters, and
the number that a text with digits, a sign and a point denotes. None of this depends on how literals
are read and written: `matches_digits_iff` and `digits_value_eq` relate it to the digits of a
literal.
-/

namespace Schemata.Literal

open RegularExpression Text

/-! ## Patterns -/

/-- One of the given characters. -/
def oneOf (alphabet : List Char) : RegularExpression Char :=
  (alphabet.map char).sum

/-- An optional match. -/
def optional (pattern : RegularExpression Char) : RegularExpression Char :=
  1 + pattern

/-- An ASCII digit. -/
def digit : RegularExpression Char :=
  oneOf ['0', '1', '2', '3', '4', '5', '6', '7', '8', '9']

/-- An ASCII digit that is not zero. -/
def nonzeroDigit : RegularExpression Char :=
  oneOf ['1', '2', '3', '4', '5', '6', '7', '8', '9']

/-- One or more digits. -/
def digits : RegularExpression Char :=
  digit * star digit

/-- The pattern `[+-]?[0-9]+`. -/
def integerPattern : RegularExpression Char :=
  optional (oneOf ['+', '-']) * digits

/-- The pattern `[0-9]+(\.[0-9]*)?|\.[0-9]+`. -/
def unsignedPattern : RegularExpression Char :=
  digits * optional (char '.' * star digit) + char '.' * digits

/-- The pattern `[+-]?([0-9]+(\.[0-9]*)?|\.[0-9]+)`. -/
def decimalPattern : RegularExpression Char :=
  optional (oneOf ['+', '-']) * unsignedPattern

/-- The pattern `-?(0|[1-9][0-9]*)(\.[0-9]+)?`. -/
def canonicalPattern : RegularExpression Char :=
  optional (char '-') *
    ((char '0' + nonzeroDigit * star digit) * optional (char '.' * digits))

/-- The text matches the pattern as a whole. -/
def Matches (text : List Char) (pattern : RegularExpression Char) : Prop :=
  text ∈ pattern.matches'

variable {text : List Char} {left right : RegularExpression Char}

/-- The only match for a character is the character. -/
theorem matches_char_iff {c : Char} : Matches text (char c) ↔ text = [c] :=
  Iff.rfl

/-- A match for one of two patterns. -/
theorem matches_or_iff : Matches text (left + right) ↔ Matches text left ∨ Matches text right :=
  Iff.rfl

/-- A match for two patterns one after the other. -/
theorem matches_append_iff : Matches text (left * right) ↔
    ∃ first second, Matches first left ∧ Matches second right ∧ text = first ++ second := by
  unfold Matches
  rw [matches'_mul, Language.mem_mul]
  constructor
  · rintro ⟨first, hfirst, second, hsecond, rfl⟩
    exact ⟨first, second, hfirst, hsecond, rfl⟩
  · rintro ⟨first, second, hfirst, hsecond, rfl⟩
    exact ⟨first, hfirst, second, hsecond, rfl⟩

/-- An optional match is empty or a match. -/
theorem matches_optional_iff : Matches text (optional left) ↔ text = [] ∨ Matches text left :=
  Iff.rfl

/-- A match for one of some characters is one of them. -/
theorem matches_one_of_iff {alphabet : List Char} :
    Matches text (oneOf alphabet) ↔ ∃ c ∈ alphabet, text = [c] := by
  induction alphabet with
  | nil => exact iff_of_false id (by simp)
  | cons c alphabet ih =>
      rw [oneOf, List.map_cons, List.sum_cons, matches_or_iff, matches_char_iff, ← oneOf, ih,
        List.exists_mem_cons_iff]

/-- There are ten digits. -/
theorem is_digit_iff {c : Char} :
    c.isDigit = true ↔ c ∈ ['0', '1', '2', '3', '4', '5', '6', '7', '8', '9'] := by
  constructor
  · intro hdigit
    have hascii : isAscii c = true := by
      rw [Char.isDigit, Bool.and_eq_true, decide_eq_true_eq, decide_eq_true_eq] at hdigit
      have hlast : c.toNat ≤ 57 := hdigit.2
      rw [isAscii, decide_eq_true_eq]
      omega
    exact forall_ascii (p := fun c => c.isDigit = true →
      c ∈ ['0', '1', '2', '3', '4', '5', '6', '7', '8', '9']) (by decide) hascii hdigit
  · have hdigits : ['0', '1', '2', '3', '4', '5', '6', '7', '8', '9'].all Char.isDigit = true := rfl
    exact List.all_eq_true.1 hdigits c

/-- A match for a digit is a digit. -/
theorem matches_digit_iff : Matches text digit ↔ ∃ c, c.isDigit = true ∧ text = [c] := by
  simp only [digit, matches_one_of_iff, is_digit_iff]

/-- A match for a digit other than zero is such a digit. -/
theorem matches_nonzero_iff :
    Matches text nonzeroDigit ↔ ∃ c, c.isDigit = true ∧ c ≠ '0' ∧ text = [c] := by
  simp only [nonzeroDigit, matches_one_of_iff, is_digit_iff]
  constructor
  · rintro ⟨c, hmem, rfl⟩
    refine ⟨c, List.mem_cons_of_mem _ hmem, ?_, rfl⟩
    rintro rfl
    exact absurd hmem (by decide)
  · rintro ⟨c, hmem, hzero, rfl⟩
    exact ⟨c, (List.mem_cons.1 hmem).resolve_left hzero, rfl⟩

/-- A match for any number of repetitions is made of matches. -/
theorem matches_star_iff : Matches text (star left) ↔
    ∃ pieces : List (List Char), text = pieces.flatten ∧ ∀ piece ∈ pieces, Matches piece left := by
  unfold Matches
  rw [matches'_star, Language.mem_kstar]

/-- Matches for any number of digits are made of digits. -/
theorem matches_star_digit_iff : Matches text (star digit) ↔ ∀ c ∈ text, c.isDigit = true := by
  rw [matches_star_iff]
  constructor
  · rintro ⟨pieces, rfl, hpieces⟩ c hc
    obtain ⟨piece, hpiece, hmem⟩ := List.mem_flatten.1 hc
    obtain ⟨d, hdigit, rfl⟩ := matches_digit_iff.1 (hpieces piece hpiece)
    rw [List.mem_singleton.1 hmem]
    exact hdigit
  · intro h
    refine ⟨text.map ([·]), ?_, ?_⟩
    · rw [← List.flatMap_def, List.flatMap_singleton']
    · intro piece hpiece
      obtain ⟨c, hc, rfl⟩ := List.mem_map.1 hpiece
      exact matches_digit_iff.2 ⟨c, h c hc, rfl⟩

/-- Matches for one or more digits are non-empty sequences of digits. -/
theorem matches_digits_iff : Matches text digits ↔ isDigits text = true := by
  rw [digits, matches_append_iff, isDigits, Bool.and_eq_true, List.all_eq_true]
  constructor
  · rintro ⟨first, second, hfirst, hsecond, rfl⟩
    obtain ⟨c, hdigit, rfl⟩ := matches_digit_iff.1 hfirst
    exact ⟨rfl, List.forall_mem_cons.2 ⟨hdigit, matches_star_digit_iff.1 hsecond⟩⟩
  · rintro ⟨hne, hall⟩
    cases text with
    | nil => simp at hne
    | cons c rest =>
        rw [List.forall_mem_cons] at hall
        exact ⟨[c], rest, matches_digit_iff.2 ⟨c, hall.1, rfl⟩, matches_star_digit_iff.2 hall.2,
          rfl⟩

/-! ## Values -/

/-- The number that digits denote, the sign and the point left out. -/
def magnitude (text : List Char) : Nat :=
  Nat.ofDigits 10 ((text.filter Char.isDigit).map fun c => c.toNat - '0'.toNat).reverse

/-- The number of characters behind the point, if there is one. -/
def scale (text : List Char) : Nat :=
  (text.dropWhile (· != '.')).tail.length

/-- The number that a text with digits, a sign and a point denotes. -/
def number (text : List Char) : ℚ :=
  (if '-' ∈ text then -1 else 1) * magnitude text / 10 ^ scale text

/-- The text is a signed integer that can be stored in so many bits. -/
def IsInteger (bits : Nat) (text : List Char) : Prop :=
  Matches text integerPattern ∧ -2 ^ (bits - 1) ≤ number text ∧ number text < 2 ^ (bits - 1)

/-- The number that digits denote. -/
theorem digits_value_eq {text : List Char} (h : ∀ c ∈ text, c.isDigit = true) :
    digitsValue text = magnitude text := by
  rw [magnitude, List.filter_eq_self.2 h, Nat.ofDigits_eq_foldr, List.foldr_reverse, List.foldl_map,
    digitsValue]
  congr 1
  funext value c
  push_cast
  ring

end Schemata.Literal
