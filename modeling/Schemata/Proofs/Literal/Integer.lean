import Schemata.Proofs.Literal.Canonical

/-!
# Integer literals

An integer literal is read as a number and printed as one, and a decimal literal is rewritten digit
by digit, without ever being a number. Both agree where both apply: the integer literals are the
decimal literals without a point, by `integer_eq_some_iff`, and the canonical text of such a literal
is its number as it is printed, by `render_of_integer`.
-/

namespace Schemata.Literal

/-! ## Printed digits -/

/-- A digit is how its number is printed. -/
theorem to_digits_digit {c : Char} (h : c.isDigit = true) :
    Nat.toDigits 10 (c.toNat - '0'.toNat) = [c] :=
  Text.forall_listed (p := fun c => Nat.toDigits 10 (c.toNat - '0'.toNat) = [c]) rfl
    (is_digit_iff.1 h)

/-- Digits behind a number other than zero are printed behind the number. -/
theorem to_digits_foldl {value : Nat} {text : List Char} (hvalue : 0 < value)
    (h : ∀ c ∈ text, c.isDigit = true) :
    Nat.toDigits 10 (text.foldl (fun value c => 10 * value + (c.toNat - '0'.toNat)) value) =
      Nat.toDigits 10 value ++ text := by
  induction text generalizing value with
  | nil => rw [List.foldl_nil, List.append_nil]
  | cons c rest ih =>
      rw [List.forall_mem_cons] at h
      have hmore : 0 < 10 * value + (c.toNat - '0'.toNat) := by omega
      have hdigit := Nat.toDigits_append_toDigits (by decide) hvalue (digit_value h.1).1
      rw [to_digits_digit h.1] at hdigit
      rw [List.foldl_cons, ih hmore h.2, ← hdigit, List.append_assoc, List.singleton_append]

/-- Digits that do not begin with a zero are how their number is printed. -/
theorem to_digits_digits_value {c : Char} {rest : List Char} (hc : c.isDigit = true)
    (hzero : c ≠ '0') (hrest : ∀ d ∈ rest, d.isDigit = true) :
    Nat.toDigits 10 (digitsValue (c :: rest)) = c :: rest := by
  have hpositive : 0 < c.toNat - '0'.toNat := Nat.pos_of_ne_zero (mt (digit_value hc).2.1 hzero)
  rw [digitsValue, List.foldl_cons, Nat.mul_zero, Nat.zero_add, to_digits_foldl hpositive hrest,
    to_digits_digit hc, List.singleton_append]

namespace Decimal

variable {literal : Decimal} {text : List Char}

/-- The signed number before the point. -/
def wholeValue (literal : Decimal) : Int :=
  if literal.negative then -(digitsValue literal.whole : Int) else digitsValue literal.whole

/-- The digits before the canonical point are how their number is printed. -/
theorem to_digits_whole (h : ∀ c ∈ literal.whole, c.isDigit = true) :
    Nat.toDigits 10 (digitsValue literal.whole) = literal.wholeText := by
  rw [← digits_value_whole_text]
  rcases whole_text_cases h with hzero | ⟨c, rest, hcons, hdigit, hne, hrest⟩
  · rw [hzero]
    rfl
  · rw [hcons]
    exact to_digits_digits_value hdigit hne hrest

/-! ## Reading and printing integers -/

/-- An integer literal is read as its sign and its digits. -/
theorem integer_eq (text : List Char) :
    integer? text = (natural? (splitSign text).2).map fun value : Nat =>
      if (splitSign text).1 then -(value : Int) else value := by
  unfold integer? splitSign
  split
  · rfl
  · split
    · rfl
    · split
      · rfl
      · rfl

/-- The integer literals are the decimal literals without a point. -/
theorem integer_eq_some_iff {value : Int} : integer? text = some value ↔
    ∃ literal : Decimal, literal.Spells text ∧ literal.fraction = none ∧
      literal.wholeValue = value := by
  rw [integer_eq, Option.map_eq_some_iff]
  constructor
  · rintro ⟨number, hnumber, hvalue⟩
    rw [natural?, Option.ite_none_right_eq_some, Option.some.injEq] at hnumber
    obtain ⟨hdigits, rfl⟩ := hnumber
    obtain ⟨sign, hsign, htext⟩ := split_sign_sound text
    have hspells := spells_digits hsign hdigits
    rw [← htext] at hspells
    exact ⟨_, hspells, rfl, hvalue⟩
  · rintro ⟨literal, hspells, hnone, hvalue⟩
    obtain ⟨hdigits, sign, hsign, htext⟩ := hspells.of_integer hnone
    have hhead : ∀ c ∈ literal.whole.head?, c ≠ '-' ∧ c ≠ '+' := by
      intro c hc
      have hne := digit_ne (hspells.all_digits.1 c (List.mem_of_mem_head? hc))
      exact ⟨hne.1, hne.2.1⟩
    rw [htext, split_sign_append hsign hhead]
    exact ⟨digitsValue literal.whole, if_pos hdigits, hvalue⟩

/-- The canonical text of a literal without a point is its number, printed. Superfluous signs and
zeros are dropped from the text on the one side, and are no part of the number on the other. -/
theorem render_of_integer (h : literal.Spells text) (hnone : literal.fraction = none) :
    String.ofList literal.render = toString literal.wholeValue := by
  have hempty : literal.fractionDigits = [] := by rw [fractionDigits, hnone, Option.getD_none]
  have hrender : literal.render = literal.signText ++ literal.wholeText := by
    rw [render, fractionText, hempty, List.append_nil]
  have hzero : literal.isZero = true ↔ digitsValue literal.whole = 0 := by
    rw [isZero, hempty, List.all_nil, Bool.and_true, digits_value_eq_zero_iff h.all_digits.1]
  have hdigits : (digitsValue literal.whole).repr = String.ofList literal.wholeText := by
    rw [Nat.repr_eq_ofList_toDigits, to_digits_whole h.all_digits.1]
  rw [hrender, Int.toString_eq_repr, Int.repr_eq_if, wholeValue, signText]
  cases literal.negative with
  | false =>
      simp only [Bool.false_eq_true, Bool.false_and, if_false, List.nil_append,
        Int.natCast_nonneg, if_true, Int.toNat_natCast, hdigits]
  | true =>
      by_cases hvalue : digitsValue literal.whole = 0
      · rw [hvalue] at hdigits
        simp only [hzero.2 hvalue, hvalue, Bool.not_true, Bool.and_false, Bool.false_eq_true,
          if_false, if_true, List.nil_append, hdigits.symm]
        rfl
      · have hnegative : ¬ (0 : Int) ≤ -(digitsValue literal.whole : Int) := by omega
        have hminus : literal.isZero = false := by
          rw [← Bool.not_eq_true, hzero]
          exact hvalue
        simp only [hminus, Bool.not_false, Bool.and_true, if_true, if_neg hnegative, neg_neg,
          Int.toNat_natCast, hdigits, String.ofList_append]

end Decimal

/-! ## Written literals -/

variable {text written : String}

/-- Decimal literals are written in canonical form. -/
theorem decimal_text_eq_some_iff :
    decimalText? text = some written ↔ ∃ literal : Decimal, literal.Spells text.toList ∧
      String.ofList literal.render = written := by
  simp only [decimalText?, Option.map_eq_some_iff, Decimal.read_eq_some_iff]

/-- Integer literals of a width are written in canonical form. -/
theorem integer_text_eq_some_iff {bits : Nat} :
    integerText? bits text = some written ↔ ∃ literal : Decimal, literal.Spells text.toList ∧
      literal.fraction = none ∧ fitsSigned bits literal.wholeValue = true ∧
      String.ofList literal.render = written := by
  simp only [integerText?, Option.bind_eq_bind, Option.bind_eq_some_iff,
    Decimal.integer_eq_some_iff, Option.ite_none_right_eq_some, Option.some.injEq]
  constructor
  · rintro ⟨_, ⟨literal, hspells, hnone, rfl⟩, hfits, rfl⟩
    exact ⟨literal, hspells, hnone, hfits, Decimal.render_of_integer hspells hnone⟩
  · rintro ⟨literal, hspells, hnone, hfits, rfl⟩
    exact ⟨_, ⟨literal, hspells, hnone, rfl⟩, hfits, (Decimal.render_of_integer hspells hnone).symm⟩

/-- An integer is written as the decimal number that it is. -/
theorem integer_text_decimal {bits : Nat} (h : integerText? bits text = some written) :
    decimalText? text = some written := by
  obtain ⟨literal, hspells, -, -, hwritten⟩ := integer_text_eq_some_iff.1 h
  exact decimal_text_eq_some_iff.2 ⟨literal, hspells, hwritten⟩

end Schemata.Literal
