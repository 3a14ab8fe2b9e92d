import Mathlib.Algebra.Order.Field.Power
import Schemata.Literal.Scientific
import Schemata.Proofs.Literal.Canonical

/-!
# Finite floating-point literals

A floating-point literal denotes its digits times a power of ten, which `Scientific.magnitude` gives
as a rational number. Whether this number is below a bound is decided without computing a power of
ten that is much larger than the bound, and by `is_below_iff` the decision is exact. So a text is a
number of a binary format exactly if it is a literal with a magnitude below the bound of the format,
by `finite_text_eq_some_iff`.
-/

namespace Schemata.Literal

variable {text : List Char}

/-! ## Digits and powers of ten -/

/-- Digits denote less than the power of ten that has one more digit. -/
theorem digits_value_lt_pow (h : ∀ c ∈ text, c.isDigit = true) :
    digitsValue text < 10 ^ text.length := by
  induction text with
  | nil => exact Nat.one_pos
  | cons c rest ih =>
      rw [List.forall_mem_cons] at h
      have hfirst := (digit_value h.1).1
      have hrest := ih h.2
      rw [digits_value_cons, List.length_cons, pow_succ]
      nlinarith

/-- Digits that do not begin with a zero denote at least the power of ten with as many digits. -/
theorem pow_le_digits_value {c : Char} (h : c.isDigit = true) (hzero : c ≠ '0')
    (rest : List Char) : 10 ^ rest.length ≤ digitsValue (c :: rest) := by
  have hpositive : 0 < c.toNat - '0'.toNat := Nat.pos_of_ne_zero (mt (digit_value h).2.1 hzero)
  rw [digits_value_cons]
  exact Nat.le_add_right_of_le (Nat.le_mul_of_pos_left _ hpositive)

namespace Scientific

/-- A number is less than the power of ten that has one more digit. -/
theorem lt_pow_digit_count (number : Nat) : number < 10 ^ digitCount number :=
  (Nat.length_toDigits_le_iff (by decide) Nat.length_toDigits_pos).1 (Nat.le_refl _)

/-- A power of ten is a quotient of two of which one is one. -/
theorem pow_eq_div (exponent : Int) :
    (10 : ℚ) ^ exponent = tenPow exponent.toNat / tenPow (-exponent).toNat := by
  have hten (exponent : Nat) : (tenPow exponent : ℚ) = 10 ^ (exponent : Int) := by
    rw [zpow_natCast]
    exact Nat.cast_pow 10 exponent
  rw [hten, hten, ← zpow_sub₀ (by norm_num), Int.toNat_sub_toNat_neg]

/-! ## Magnitudes -/

/-- The number that a literal denotes, without its sign. -/
def magnitude (literal : Scientific) : ℚ :=
  digitsValue (literal.mantissa.whole ++ literal.mantissa.fractionDigits) /
    10 ^ literal.mantissa.fractionDigits.length * 10 ^ literal.exponent

/-- The magnitude of a literal is its significand times a power of ten. -/
theorem magnitude_eq (literal : Scientific) :
    literal.magnitude = digitsValue literal.significand * 10 ^ literal.scale := by
  rw [magnitude, significand, digits_value_drop_zeros, scale, zpow_sub₀ (by norm_num),
    zpow_natCast]
  ring

/-- All digits of the mantissa are digits. -/
def IsProper (literal : Scientific) : Prop :=
  ∀ c ∈ literal.mantissa.whole ++ literal.mantissa.fractionDigits, c.isDigit = true

/-- A literal that was read is proper. -/
theorem read_proper {literal : Scientific} (h : read? text = some literal) : literal.IsProper := by
  obtain ⟨mantissa, hmantissa, hrest⟩ := Option.bind_eq_some_iff.1 h
  have hspells := Decimal.read_eq_some_iff.1 hmantissa
  have hliteral : literal.mantissa = mantissa := by
    split at hrest
    · cases hrest
      rfl
    · obtain ⟨exponent, -, hrest⟩ := Option.bind_eq_some_iff.1 hrest
      cases hrest
      rfl
  rw [IsProper, hliteral]
  exact List.forall_mem_append.2 hspells.all_digits

section

variable {literal : Scientific} (h : literal.IsProper)

include h

/-- The significand is made of digits and does not begin with a zero. -/
theorem significand_digits : (∀ c ∈ literal.significand, c.isDigit = true) ∧
    ∀ c ∈ literal.significand.head?, c ≠ '0' := by
  constructor
  · exact fun c hc => h c ((List.dropWhile_sublist _).subset hc)
  · have hfirst := List.head?_dropWhile_not (· == '0')
      (literal.mantissa.whole ++ literal.mantissa.fractionDigits)
    intro c hc
    rw [Option.mem_def] at hc
    rw [significand] at hc
    simpa [hc] using hfirst

/-- A literal is less than the power of ten that stands in front of its first significant digit. -/
theorem magnitude_lt_pow :
    literal.magnitude < 10 ^ (literal.scale + literal.significand.length) := by
  have hpower : (0 : ℚ) < 10 ^ literal.scale := by positivity
  have hdigits : (digitsValue literal.significand : ℚ) < 10 ^ literal.significand.length := by
    exact_mod_cast digits_value_lt_pow (significand_digits h).1
  rw [magnitude_eq, zpow_add₀ (by norm_num), zpow_natCast, mul_comm]
  exact mul_lt_mul_of_pos_left hdigits hpower

/-- A literal other than zero is at least the power of ten of its first significant digit. -/
theorem pow_le_magnitude (hne : literal.significand ≠ []) :
    10 ^ (literal.scale + literal.significand.length - 1) ≤ literal.magnitude := by
  obtain ⟨hdigits, hfirst⟩ := significand_digits h
  have hpower : (0 : ℚ) < 10 ^ literal.scale := by positivity
  obtain ⟨c, rest, hcons⟩ := List.exists_cons_of_ne_nil hne
  rw [hcons] at hdigits hfirst
  have hvalue : (10 : ℚ) ^ rest.length ≤ digitsValue (c :: rest) := by
    exact_mod_cast pow_le_digits_value (hdigits c List.mem_cons_self) (hfirst c rfl) rest
  have horder : literal.scale + ((c :: rest).length : Int) - 1 = literal.scale + rest.length := by
    rw [List.length_cons]
    push_cast
    ring
  rw [magnitude_eq, hcons, horder, zpow_add₀ (by norm_num), zpow_natCast, mul_comm]
  exact mul_le_mul_of_nonneg_right hvalue hpower.le

/-- A literal is found to be below a bound exactly if its magnitude is. -/
theorem is_below_iff (bound : Nat) :
    literal.isBelow bound = true ↔ literal.magnitude < bound := by
  have hnonneg : 0 ≤ literal.magnitude := by
    rw [magnitude_eq]
    positivity
  -- a magnitude less than one is below every bound but zero
  have hsmall (hone : literal.magnitude < 1) : 0 < bound ↔ literal.magnitude < bound := by
    constructor
    · intro hpos
      exact hone.trans_le (by exact_mod_cast hpos)
    · intro hbelow
      exact_mod_cast hnonneg.trans_lt hbelow
  unfold isBelow
  dsimp only
  split
  · next hfront =>
      rw [Bool.or_eq_true, List.isEmpty_iff, decide_eq_true_eq] at hfront
      rw [decide_eq_true_eq]
      apply hsmall
      rcases hfront with hempty | horder
      · rw [magnitude_eq, hempty, show digitsValue [] = 0 from rfl, Nat.cast_zero, zero_mul]
        exact one_pos
      · exact (magnitude_lt_pow h).trans_le (zpow_le_one_of_nonpos₀ (by norm_num) horder)
  · next hfront =>
      rw [Bool.or_eq_true, List.isEmpty_iff, not_or] at hfront
      split
      · next hlong =>
          -- the bound has fewer digits in front of the point
          refine iff_of_false Bool.false_ne_true (not_lt_of_ge ?_)
          have hcount : (bound : ℚ) < 10 ^ (digitCount bound : Int) := by
            rw [zpow_natCast]
            exact_mod_cast lt_pow_digit_count bound
          have horder : (digitCount bound : Int) ≤
              literal.scale + literal.significand.length - 1 := by omega
          calc (bound : ℚ) ≤ 10 ^ (digitCount bound : Int) := hcount.le
            _ ≤ 10 ^ (literal.scale + literal.significand.length - 1) :=
              zpow_le_zpow_right₀ (by norm_num) horder
            _ ≤ literal.magnitude := pow_le_magnitude h hfront.1
      · have hpos : (0 : ℚ) < tenPow (-literal.scale).toNat := by
          exact_mod_cast Nat.pow_pos (by decide)
        rw [decide_eq_true_eq, magnitude_eq, pow_eq_div, mul_div_assoc', div_lt_iff₀ hpos]
        norm_cast

end

end Scientific

/-- The texts that are finite below a bound are the literals with a magnitude below it. They are
written as they stand. -/
theorem finite_text_eq_some_iff {bound : Nat} {text written : String} :
    finiteText? bound text = some written ↔ written = text ∧
      ∃ literal, Scientific.read? text.toList = some literal ∧ literal.magnitude < bound := by
  unfold finiteText?
  rw [Option.bind_eq_bind, Option.bind_eq_some_iff]
  constructor
  · rintro ⟨literal, hread, hbelow⟩
    rw [Option.ite_none_right_eq_some, Scientific.is_below_iff (Scientific.read_proper hread)]
      at hbelow
    obtain ⟨hbelow, hwritten⟩ := hbelow
    exact ⟨(Option.some.inj hwritten).symm, literal, hread, hbelow⟩
  · rintro ⟨rfl, literal, hread, hbelow⟩
    refine ⟨literal, hread, ?_⟩
    rw [if_pos ((Scientific.is_below_iff (Scientific.read_proper hread) bound).2 hbelow)]

/-- A format with a larger exponent has a larger bound, whatever the precisions are. -/
theorem overflow_bound_mono {precision other exponent more : Nat} (h : exponent < more) :
    overflowBound precision exponent ≤ overflowBound other more := by
  have hsmall : overflowBound precision exponent ≤ 2 ^ exponent := Nat.sub_le _ _
  have hhalf : 2 ^ exponent ≤ 2 ^ (more - 1) := Nat.pow_le_pow_right (by decide) (by omega)
  have hgap : 2 ^ (more - other - 1) ≤ 2 ^ (more - 1) := Nat.pow_le_pow_right (by decide) (by omega)
  have hdouble : 2 ^ more = 2 ^ (more - 1) + 2 ^ (more - 1) := by
    rw [← two_mul, ← pow_succ', Nat.sub_add_cancel (by omega)]
  show _ ≤ 2 ^ more - 2 ^ (more - other - 1)
  omega

example : overflowBound 24 128 = 2 ^ 128 - 2 ^ 103 ∧
    overflowBound 53 1024 = 2 ^ 1024 - 2 ^ 970 := by
  decide +kernel

end Schemata.Literal
