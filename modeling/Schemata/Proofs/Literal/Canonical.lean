import Mathlib.Tactic.Positivity
import Schemata.Proofs.Literal.Pattern

/-!
# The canonical form of a decimal literal

A decimal literal is read from exactly the texts that spell it, by `read_eq_some_iff`, and these are
the texts that match the pattern of decimal literals, by `matches_decimal_iff`. Its canonical text
spells another literal, `Decimal.canonical`, that denotes the same number with as many digits behind
the point, by `number_render` and `scale_render`, and that is written as it stands, by
`canonical_render`.
-/

namespace Schemata.Literal

/-! ## Digits -/

/-- Digits behind a number. -/
theorem foldl_digits (value : Nat) (text : List Char) :
    text.foldl (fun value c => 10 * value + (c.toNat - '0'.toNat)) value =
      value * 10 ^ text.length + digitsValue text := by
  rw [digitsValue]
  induction text generalizing value with
  | nil => simp
  | cons c rest ih =>
      rw [List.foldl_cons, List.foldl_cons, ih, ih (10 * 0 + (c.toNat - '0'.toNat)),
        List.length_cons]
      ring

/-- The first digit counts as often as the digits behind it say. -/
theorem digits_value_cons (c : Char) (rest : List Char) :
    digitsValue (c :: rest) = (c.toNat - '0'.toNat) * 10 ^ rest.length + digitsValue rest := by
  rw [digitsValue, List.foldl_cons, foldl_digits, Nat.mul_zero, Nat.zero_add]

/-- Digits in front of others. -/
theorem digits_value_append (left right : List Char) :
    digitsValue (left ++ right) = digitsValue left * 10 ^ right.length + digitsValue right := by
  rw [digitsValue, List.foldl_append, foldl_digits]
  rfl

/-- Zeros in front of a number do not count. -/
theorem digits_value_drop_zeros (text : List Char) :
    digitsValue (text.dropWhile (· == '0')) = digitsValue text := by
  induction text with
  | nil => rfl
  | cons c rest ih =>
      rw [List.dropWhile_cons]
      split
      · next hzero =>
          rw [ih, beq_iff_eq.1 hzero, digits_value_cons, Nat.sub_self, Nat.zero_mul, Nat.zero_add]
      · rfl

/-- A digit denotes less than ten, and nothing only if it is zero. -/
theorem digit_value {c : Char} (h : c.isDigit = true) :
    c.toNat - '0'.toNat < 10 ∧ (c.toNat - '0'.toNat = 0 ↔ c = '0') :=
  Text.forall_listed (p := fun c =>
    c.toNat - '0'.toNat < 10 ∧ (c.toNat - '0'.toNat = 0 ↔ c = '0')) rfl (is_digit_iff.1 h)

/-- Digits denote zero exactly if all of them are zeros. -/
theorem digits_value_eq_zero_iff {text : List Char} (h : ∀ c ∈ text, c.isDigit = true) :
    digitsValue text = 0 ↔ text.all (· == '0') = true := by
  induction text with
  | nil => exact iff_of_true rfl rfl
  | cons c rest ih =>
      rw [List.forall_mem_cons] at h
      have hpower : 10 ^ rest.length ≠ 0 := by positivity
      rw [digits_value_cons, List.all_cons, Bool.and_eq_true, beq_iff_eq, Nat.add_eq_zero_iff,
        Nat.mul_eq_zero, or_iff_left hpower, (digit_value h.1).2, ih h.2]

namespace Decimal

variable {literal : Decimal} {text : List Char}

/-! ## Spellings -/

/-- The signs that can stand in front of a literal. -/
def signs (negative : Bool) : List (List Char) :=
  if negative then [['-']] else [[], ['+']]

/-- The point with the digits behind it, if there is one. -/
def pointText : Option (List Char) → List Char
  | none => []
  | some digits => '.' :: digits

/-- `literal.Spells text` says that the text is one of the ways to write the literal, which has at
least one digit. -/
structure Spells (literal : Decimal) (text : List Char) : Prop where
  digits : isDigits (literal.whole ++ literal.fractionDigits) = true
  spelled : ∃ sign ∈ signs literal.negative,
    text = sign ++ (literal.whole ++ pointText literal.fraction)

/-- All digits of a spelled literal are digits. -/
theorem Spells.all_digits (h : literal.Spells text) :
    (∀ c ∈ literal.whole, c.isDigit = true) ∧ ∀ c ∈ literal.fractionDigits, c.isDigit = true := by
  have hdigits := h.digits
  rw [isDigits, Bool.and_eq_true, List.all_eq_true, List.forall_mem_append] at hdigits
  exact hdigits.2

/-- A text is its sign and what stands behind. -/
theorem split_sign_sound (text : List Char) :
    ∃ sign ∈ signs (splitSign text).1, text = sign ++ (splitSign text).2 := by
  unfold splitSign
  split
  · exact ⟨[], List.mem_cons_self, rfl⟩
  · next c rest =>
      split
      · next hminus => exact ⟨['-'], List.mem_cons_self, by rw [hminus]; rfl⟩
      · split
        · next hplus => exact ⟨['+'], List.mem_cons_of_mem _ List.mem_cons_self, by rw [hplus]; rfl⟩
        · exact ⟨[], List.mem_cons_self, rfl⟩

/-- A sign is split off if no other one stands behind it. -/
theorem split_sign_append {negative : Bool} {sign : List Char} (hsign : sign ∈ signs negative)
    (h : ∀ c ∈ text.head?, c ≠ '-' ∧ c ≠ '+') : splitSign (sign ++ text) = (negative, text) := by
  cases negative with
  | true =>
      rw [List.mem_singleton.1 hsign]
      rfl
  | false =>
      rcases List.mem_cons.1 hsign with rfl | hsign
      · cases text with
        | nil => rfl
        | cons c rest =>
            obtain ⟨hminus, hplus⟩ := h c rfl
            rw [List.nil_append, splitSign, if_neg hminus, if_neg hplus]
      · rw [List.mem_singleton.1 hsign]
        rfl

/-- Digits are neither signs nor points. -/
theorem digit_ne {c : Char} (h : c.isDigit = true) : c ≠ '-' ∧ c ≠ '+' ∧ c ≠ '.' := by
  refine ⟨?_, ?_, ?_⟩ <;> rintro rfl <;> exact absurd h (by decide)

/-- A literal is read from exactly the texts that spell it. -/
theorem read_eq_some_iff : read? text = some literal ↔ literal.Spells text := by
  constructor
  · intro h
    simp only [read?, Option.ite_none_right_eq_some, Option.some.injEq] at h
    obtain ⟨hdigits, rfl⟩ := h
    refine ⟨hdigits, ?_⟩
    obtain ⟨sign, hsign, htext⟩ := split_sign_sound text
    refine ⟨sign, hsign, htext.trans (congrArg (sign ++ ·) ?_)⟩
    have hsplit := List.takeWhile_append_dropWhile (p := (· != '.')) (l := (splitSign text).2)
    have hdot := List.head?_dropWhile_not (· != '.') (splitSign text).2
    refine hsplit.symm.trans (congrArg (List.takeWhile _ _ ++ ·) ?_)
    cases hrest : (splitSign text).2.dropWhile (· != '.') with
    | nil => rfl
    | cons dot digits =>
        simp only [hrest, List.head?_cons] at hdot
        have hdot : dot = '.' := by simpa using hdot
        rw [hdot]
        rfl
  · intro h
    obtain ⟨sign, hsign, rfl⟩ := h.spelled
    have hwhole : ∀ c ∈ literal.whole, (c != '.') = true := fun c hc =>
      bne_iff_ne.2 (digit_ne (h.all_digits.1 c hc)).2.2
    have hhead : ∀ c ∈ (literal.whole ++ pointText literal.fraction).head?, c ≠ '-' ∧ c ≠ '+' := by
      intro c hc
      cases hdigits : literal.whole with
      | nil =>
          cases hfraction : literal.fraction with
          | none => simp [hdigits, hfraction, pointText] at hc
          | some digits =>
              have hpoint : c = '.' := by simpa [hdigits, hfraction, pointText, eq_comm] using hc
              rw [hpoint]
              decide
      | cons first rest =>
          have hfirst : c = first := by simpa [hdigits, eq_comm] using hc
          have hne := digit_ne (h.all_digits.1 c (by simp [hdigits, hfirst]))
          exact ⟨hne.1, hne.2.1⟩
    obtain ⟨negative, whole, fraction⟩ := literal
    have hdigits := h.digits
    rw [read?, split_sign_append hsign hhead]
    simp only [List.takeWhile_append_of_pos hwhole, List.dropWhile_append_of_pos hwhole]
    cases fraction with
    | none =>
        simp only [pointText, List.takeWhile_nil, List.dropWhile_nil, List.append_nil]
        exact if_pos hdigits
    | some digits =>
        have hpoint : ('.' != '.') = false := by decide
        simp only [pointText, List.takeWhile_cons, List.dropWhile_cons, hpoint, Bool.false_eq_true,
          if_false, List.append_nil]
        exact if_pos hdigits

/-- Digits with a sign in front spell a literal without a point. -/
theorem spells_digits {negative : Bool} {sign digits : List Char} (hsign : sign ∈ signs negative)
    (h : isDigits digits = true) : Spells ⟨negative, digits, none⟩ (sign ++ digits) := by
  refine ⟨?_, sign, hsign, ?_⟩
  · rwa [fractionDigits, Option.getD_none, List.append_nil]
  · rw [pointText, List.append_nil]

/-- A literal without a point is its sign and its digits. -/
theorem Spells.of_integer (h : literal.Spells text) (hnone : literal.fraction = none) :
    isDigits literal.whole = true ∧
      ∃ sign ∈ signs literal.negative, text = sign ++ literal.whole := by
  obtain ⟨hdigits, sign, hsign, htext⟩ := h
  rw [fractionDigits, hnone, Option.getD_none, List.append_nil] at hdigits
  rw [hnone, pointText, List.append_nil] at htext
  exact ⟨hdigits, sign, hsign, htext⟩

/-! ## Values of spelled literals -/

section

variable (h : literal.Spells text)

include h

/-- The digits of a spelled literal are those of its text. -/
theorem Spells.filter_digits :
    text.filter Char.isDigit = literal.whole ++ literal.fractionDigits := by
  obtain ⟨sign, hsign, rfl⟩ := h.spelled
  obtain ⟨hwhole, hfraction⟩ := h.all_digits
  have hsigns : ∀ negative, ∀ sign ∈ signs negative, sign.filter Char.isDigit = [] := by decide
  have hpoint : (pointText literal.fraction).filter Char.isDigit = literal.fractionDigits := by
    unfold fractionDigits at hfraction ⊢
    cases hdigits : literal.fraction with
    | none => rfl
    | some digits =>
        rw [hdigits] at hfraction
        exact List.filter_eq_self.2 hfraction
  rw [List.filter_append, List.filter_append, hsigns _ sign hsign, hpoint,
    List.filter_eq_self.2 hwhole, List.nil_append]

/-- The digits of a text that spells a literal denote a number. -/
theorem Spells.magnitude_eq :
    magnitude text = digitsValue (literal.whole ++ literal.fractionDigits) := by
  have hdigits : ∀ c ∈ literal.whole ++ literal.fractionDigits, c.isDigit = true :=
    List.forall_mem_append.2 h.all_digits
  rw [digits_value_eq hdigits, magnitude, magnitude, h.filter_digits, List.filter_eq_self.2 hdigits]

/-- The digits behind the point of a text that spells a literal. -/
theorem Spells.scale_eq : scale text = literal.fractionDigits.length := by
  obtain ⟨sign, hsign, rfl⟩ := h.spelled
  have hsigns : ∀ negative, ∀ sign ∈ signs negative, sign.all (· != '.') = true := by decide
  have hwhole : ∀ c ∈ literal.whole, (c != '.') = true := fun c hc =>
    bne_iff_ne.2 (digit_ne (h.all_digits.1 c hc)).2.2
  rw [scale, List.dropWhile_append_of_pos (List.all_eq_true.1 (hsigns _ sign hsign)),
    List.dropWhile_append_of_pos hwhole, fractionDigits]
  cases literal.fraction with
  | none => rfl
  | some digits => rfl

/-- A text that spells a literal has a minus sign exactly if the literal is negative. -/
theorem Spells.minus_iff : '-' ∈ text ↔ literal.negative = true := by
  obtain ⟨sign, hsign, rfl⟩ := h.spelled
  obtain ⟨hwhole, hfraction⟩ := h.all_digits
  have hdigits {digits : List Char} (h : ∀ c ∈ digits, c.isDigit = true) : '-' ∉ digits :=
    fun hmem => (digit_ne (h '-' hmem)).1 rfl
  have hpoint : '-' ∉ pointText literal.fraction := by
    unfold fractionDigits at hfraction
    cases hsome : literal.fraction with
    | none => exact List.not_mem_nil
    | some digits =>
        rw [hsome] at hfraction
        rw [pointText, List.mem_cons, not_or]
        exact ⟨by decide, hdigits hfraction⟩
  have hsigns : ∀ negative, ∀ sign ∈ signs negative, '-' ∈ sign ↔ negative = true := by decide
  rw [List.mem_append, List.mem_append, or_iff_left (not_or.2 ⟨hdigits hwhole, hpoint⟩)]
  exact hsigns _ sign hsign

/-- The number that a text denotes that spells a literal. -/
theorem Spells.number_eq : number text = (if literal.negative then -1 else 1) *
    digitsValue (literal.whole ++ literal.fractionDigits) /
      10 ^ literal.fractionDigits.length := by
  rw [number, h.magnitude_eq, h.scale_eq, if_congr h.minus_iff rfl rfl]

/-- A text that spells a literal denotes zero exactly if all digits of the literal are zeros. -/
theorem Spells.number_eq_zero_iff : number text = 0 ↔ literal.isZero = true := by
  have hdigits : ∀ c ∈ literal.whole ++ literal.fractionDigits, c.isDigit = true :=
    List.forall_mem_append.2 h.all_digits
  have hsign : (if literal.negative then -1 else 1 : ℚ) ≠ 0 := by
    split
    · decide
    · decide
  have hpower : (10 : ℚ) ^ literal.fractionDigits.length ≠ 0 := by positivity
  rw [h.number_eq, div_eq_zero_iff, or_iff_left hpower, mul_eq_zero, or_iff_right hsign,
    Nat.cast_eq_zero, digits_value_eq_zero_iff hdigits, List.all_append, isZero]

end

/-! ## Patterns of spelled literals -/

/-- The optional signs are those that can stand in front of a literal. -/
theorem matches_sign_iff {sign : List Char} :
    Matches sign (optional (oneOf ['+', '-'])) ↔ ∃ negative, sign ∈ signs negative := by
  rw [matches_optional_iff, matches_one_of_iff]
  constructor
  · rintro (rfl | ⟨c, hc, rfl⟩)
    · exact ⟨false, List.mem_cons_self⟩
    · rcases List.mem_pair.1 hc with rfl | rfl
      · exact ⟨false, List.mem_cons_of_mem _ List.mem_cons_self⟩
      · exact ⟨true, List.mem_cons_self⟩
  · rintro ⟨negative, hsign⟩
    cases negative with
    | true => exact .inr ⟨'-', by decide, List.mem_singleton.1 hsign⟩
    | false =>
        rcases List.mem_pair.1 hsign with rfl | rfl
        · exact .inl rfl
        · exact .inr ⟨'+', by decide, rfl⟩

/-- The unsigned decimal literals are digits with a point in front of them, behind them, among them
or nowhere. -/
theorem matches_unsigned_iff : Matches text unsignedPattern ↔
    ∃ whole fraction, isDigits (whole ++ fraction.getD []) = true ∧
      text = whole ++ pointText fraction := by
  rw [unsignedPattern, matches_or_iff, matches_append_iff, matches_append_iff]
  constructor
  · rintro (⟨whole, point, hwhole, hpoint, rfl⟩ | ⟨point, digits, hpoint, hdigits, rfl⟩)
    · rw [matches_digits_iff] at hwhole
      rcases matches_optional_iff.1 hpoint with rfl | hpoint
      · exact ⟨whole, none, by rwa [Option.getD_none, List.append_nil], rfl⟩
      · obtain ⟨dot, digits, hdot, hdigits, rfl⟩ := matches_append_iff.1 hpoint
        rw [matches_char_iff] at hdot
        rw [matches_star_digit_iff] at hdigits
        rw [isDigits, Bool.and_eq_true, List.all_eq_true] at hwhole
        refine ⟨whole, some digits, ?_, by rw [hdot]; rfl⟩
        rw [isDigits, Bool.and_eq_true, List.all_eq_true, Option.getD_some, List.forall_mem_append]
        refine ⟨?_, hwhole.2, hdigits⟩
        have hne := hwhole.1
        cases whole with
        | nil => cases hne
        | cons c rest => rfl
    · rw [matches_char_iff] at hpoint
      exact ⟨[], some digits, matches_digits_iff.1 hdigits, by rw [hpoint]; rfl⟩
  · rintro ⟨whole, fraction, hdigits, rfl⟩
    cases fraction with
    | none =>
        rw [Option.getD_none, List.append_nil] at hdigits
        exact .inl ⟨whole, [], matches_digits_iff.2 hdigits, .inl rfl, rfl⟩
    | some digits =>
        rw [Option.getD_some] at hdigits
        cases whole with
        | nil => exact .inr ⟨['.'], digits, rfl, matches_digits_iff.2 hdigits, rfl⟩
        | cons c rest =>
            rw [isDigits, Bool.and_eq_true, List.all_eq_true, List.forall_mem_append] at hdigits
            have hwhole : isDigits (c :: rest) = true := by
              rw [isDigits, Bool.and_eq_true, List.all_eq_true]
              exact ⟨rfl, hdigits.2.1⟩
            refine .inl ⟨c :: rest, '.' :: digits, matches_digits_iff.2 hwhole, .inr ?_, rfl⟩
            exact matches_append_iff.2
              ⟨['.'], digits, rfl, matches_star_digit_iff.2 hdigits.2.2, rfl⟩

/-- The texts that spell decimal literals are those that match their pattern. -/
theorem matches_decimal_iff :
    Matches text decimalPattern ↔ ∃ literal : Decimal, literal.Spells text := by
  rw [decimalPattern, matches_append_iff]
  constructor
  · rintro ⟨sign, unsigned, hsign, hunsigned, rfl⟩
    obtain ⟨negative, hsign⟩ := matches_sign_iff.1 hsign
    obtain ⟨whole, fraction, hdigits, rfl⟩ := matches_unsigned_iff.1 hunsigned
    exact ⟨⟨negative, whole, fraction⟩, hdigits, sign, hsign, rfl⟩
  · rintro ⟨literal, hdigits, sign, hsign, rfl⟩
    exact ⟨sign, _, matches_sign_iff.2 ⟨literal.negative, hsign⟩,
      matches_unsigned_iff.2 ⟨literal.whole, literal.fraction, hdigits, rfl⟩, rfl⟩

/-- The texts that spell decimal literals without a point are those that match the pattern of
integers. -/
theorem matches_integer_iff : Matches text integerPattern ↔
    ∃ literal : Decimal, literal.Spells text ∧ literal.fraction = none := by
  rw [integerPattern, matches_append_iff]
  constructor
  · rintro ⟨sign, unsigned, hsign, hunsigned, rfl⟩
    obtain ⟨negative, hsign⟩ := matches_sign_iff.1 hsign
    exact ⟨_, spells_digits hsign (matches_digits_iff.1 hunsigned), rfl⟩
  · rintro ⟨literal, hspells, hnone⟩
    obtain ⟨hdigits, sign, hsign, htext⟩ := hspells.of_integer hnone
    exact ⟨sign, literal.whole, matches_sign_iff.2 ⟨literal.negative, hsign⟩,
      matches_digits_iff.2 hdigits, htext⟩

/-! ## Canonical literals -/

/-- The literal that the canonical text of a literal spells. -/
def canonical (literal : Decimal) : Decimal where
  negative := literal.negative && !literal.isZero
  whole := literal.wholeText
  fraction := if literal.fractionDigits = [] then none else some literal.fractionDigits

/-- The digits behind the point stay as they are. -/
theorem canonical_fraction_digits : literal.canonical.fractionDigits = literal.fractionDigits := by
  rw [fractionDigits, canonical]
  split
  · next hempty => exact hempty.symm
  · rfl

/-- The digits before the point are a single zero, or they begin with another digit. -/
theorem whole_text_cases (h : ∀ c ∈ literal.whole, c.isDigit = true) :
    literal.wholeText = ['0'] ∨ ∃ c rest, literal.wholeText = c :: rest ∧ c.isDigit = true ∧
      c ≠ '0' ∧ ∀ d ∈ rest, d.isDigit = true := by
  have hfirst := List.head?_dropWhile_not (· == '0') literal.whole
  have hdigits : ∀ c ∈ literal.whole.dropWhile (· == '0'), c.isDigit = true := fun c hc =>
    h c ((List.dropWhile_sublist _).subset hc)
  unfold wholeText
  cases hdrop : literal.whole.dropWhile (· == '0') with
  | nil => exact .inl rfl
  | cons c rest =>
      simp only [hdrop, List.head?_cons] at hfirst
      rw [hdrop, List.forall_mem_cons] at hdigits
      exact .inr ⟨c, rest, rfl, hdigits.1, by simpa using hfirst, hdigits.2⟩

/-- The digits before the canonical point denote the same number. -/
theorem digits_value_whole_text (literal : Decimal) :
    digitsValue literal.wholeText = digitsValue literal.whole := by
  rw [← digits_value_drop_zeros literal.whole, wholeText]
  split
  · next hempty => rw [hempty]; rfl
  · rfl

/-- All digits of the canonical literal denote the same number. -/
theorem digits_value_canonical (literal : Decimal) :
    digitsValue (literal.canonical.whole ++ literal.canonical.fractionDigits) =
      digitsValue (literal.whole ++ literal.fractionDigits) := by
  rw [canonical_fraction_digits, digits_value_append, digits_value_append, canonical,
    digits_value_whole_text]

/-- The canonical text is the sign, the digits and the point of the canonical literal. -/
theorem render_eq (literal : Decimal) :
    literal.render = literal.signText ++ (literal.canonical.whole ++
      pointText literal.canonical.fraction) := by
  have hpoint : literal.fractionText = pointText literal.canonical.fraction := by
    rw [fractionText, canonical]
    cases literal.fractionDigits with
    | nil => rfl
    | cons c rest => rfl
  rw [render, List.append_assoc, hpoint]
  rfl

variable (h : literal.Spells text)

include h

/-- The canonical text of a literal that was read spells the canonical literal. -/
theorem canonical_spells : literal.canonical.Spells literal.render := by
  obtain ⟨hwhole, hfraction⟩ := h.all_digits
  refine ⟨?_, literal.signText, ?_, render_eq literal⟩
  · rw [canonical_fraction_digits, isDigits, Bool.and_eq_true, List.all_eq_true,
      List.forall_mem_append]
    show _ ∧ (∀ c ∈ literal.wholeText, c.isDigit = true) ∧ _
    rcases whole_text_cases hwhole with hzero | ⟨c, rest, hcons, hdigit, -, hrest⟩
    · rw [canonical, hzero]
      exact ⟨rfl, List.forall_mem_singleton.2 rfl, hfraction⟩
    · rw [canonical, hcons]
      exact ⟨rfl, List.forall_mem_cons.2 ⟨hdigit, hrest⟩, hfraction⟩
  · have hsigns : ∀ negative, (if negative then ['-'] else []) ∈ signs negative := by decide
    exact hsigns (literal.negative && !literal.isZero)

/-- The canonical literal is zero exactly if the literal is. -/
theorem canonical_is_zero : literal.canonical.isZero = literal.isZero := by
  have hzero {literal : Decimal} {text : List Char} (h : literal.Spells text) :
      literal.isZero = true ↔ digitsValue (literal.whole ++ literal.fractionDigits) = 0 := by
    rw [digits_value_eq_zero_iff (List.forall_mem_append.2 h.all_digits), List.all_append, isZero]
  rw [Bool.eq_iff_iff, hzero h, hzero (canonical_spells h), digits_value_canonical]

/-- The canonical literal is written as it stands. -/
theorem canonical_render : literal.canonical.render = literal.render := by
  have hsign : literal.canonical.signText = literal.signText := by
    rw [signText, signText, canonical_is_zero h, canonical]
    cases literal.negative <;> cases literal.isZero <;> rfl
  have hwhole : literal.canonical.wholeText = literal.wholeText := by
    rw [wholeText, canonical]
    rcases whole_text_cases h.all_digits.1 with hzero | ⟨c, rest, hcons, -, hne, -⟩
    · rw [hzero]
      rfl
    · rw [hcons, List.dropWhile_cons_of_neg (by simpa using hne)]
  rw [render, render, hsign, hwhole, fractionText, canonical_fraction_digits, fractionText]

/-- The canonical text of a literal matches its pattern. -/
theorem render_matches : Matches literal.render canonicalPattern := by
  obtain ⟨hwhole, hfraction⟩ := h.all_digits
  rw [canonicalPattern, matches_append_iff]
  refine ⟨_, _, ?_, matches_append_iff.2 ⟨_, _, ?_, ?_, rfl⟩, render_eq literal⟩
  · unfold signText
    split
    · exact .inr rfl
    · exact .inl rfl
  · show Matches literal.wholeText _
    rw [matches_or_iff, matches_append_iff]
    rcases whole_text_cases hwhole with hzero | ⟨c, rest, hcons, hdigit, hne, hrest⟩
    · exact .inl hzero
    · exact .inr ⟨[c], rest, matches_nonzero_iff.2 ⟨c, hdigit, hne, rfl⟩,
        matches_star_digit_iff.2 hrest, hcons⟩
  · rw [canonical]
    dsimp only
    split
    · exact .inl rfl
    · next hne =>
        have hdigits : isDigits literal.fractionDigits = true := by
          rw [isDigits, Bool.and_eq_true, List.all_eq_true]
          exact ⟨by simpa using hne, hfraction⟩
        exact .inr (matches_append_iff.2 ⟨['.'], _, rfl, matches_digits_iff.2 hdigits, rfl⟩)

/-- The canonical text of a literal has as many digits behind the point. -/
theorem scale_render : scale literal.render = scale text := by
  rw [(canonical_spells h).scale_eq, canonical_fraction_digits, h.scale_eq]

/-- The canonical text of a literal denotes the same number. -/
theorem number_render : number literal.render = number text := by
  have hspells := canonical_spells h
  by_cases hzero : literal.isZero = true
  · rw [h.number_eq_zero_iff.2 hzero, hspells.number_eq_zero_iff, canonical_is_zero h, hzero]
  · rw [Bool.not_eq_true] at hzero
    have hnegative : literal.canonical.negative = literal.negative := by
      rw [canonical, hzero, Bool.not_false, Bool.and_true]
    rw [hspells.number_eq, h.number_eq, digits_value_canonical, canonical_fraction_digits,
      hnegative]

/-- The canonical text of zero has no minus sign. -/
theorem render_zero_minus (hzero : number literal.render = 0) : '-' ∉ literal.render := by
  have hspells := canonical_spells h
  rw [hspells.number_eq_zero_iff, canonical_is_zero h] at hzero
  rw [hspells.minus_iff, canonical, hzero]
  simp

end Decimal

end Schemata.Literal
