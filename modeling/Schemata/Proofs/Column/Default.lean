import Schemata.Column.Default
import Schemata.Proofs.Literal.Integer
import Schemata.Proofs.Text.Comment

/-!
# Default values open no comments

A number has a hyphen only as its sign and as the sign of its exponent, and neither stands next to
another hyphen. So the expression for a default value opens no comment, by
`default_expression_no_comment`. By `default_expression_form` it is the current time in one of two
ways or a number, so it is also written on one line.
-/

namespace Schemata

open Text

namespace Literal

/-- A possible minus sign in front of characters without hyphens. -/
def Signed (text : List Char) : Prop :=
  ∃ body, '-' ∉ body ∧ (text = body ∨ text = '-' :: body)

/-- Such characters open no comment. -/
theorem Signed.no_comment {text : List Char} (h : Signed text) : ¬ CommentIn text := by
  obtain ⟨body, hbody, rfl | rfl⟩ := h
  · exact not_comment_in_of_not_mem hbody
  · rw [comment_in_cons, not_or]
    refine ⟨fun hfirst => ?_, not_comment_in_of_not_mem hbody⟩
    exact hbody (List.mem_of_mem_head? hfirst.2)

/-- Behind a sign there is no other one if the rest has no hyphens. -/
theorem signed_of_split {text : List Char} (h : '-' ∉ (splitSign text).2) : Signed text := by
  unfold splitSign at h
  split at h
  · exact ⟨[], h, .inl rfl⟩
  · next c rest =>
      split at h
      · next hc =>
          exact ⟨rest, h, .inr (by rw [hc])⟩
      · next hc =>
          refine ⟨c :: rest, ?_, .inl rfl⟩
          split at h
          · simp_all [eq_comm]
          · exact h

/-- Digits are not hyphens. -/
theorem hyphen_not_mem_digits {text : List Char} (h : isDigits text = true) : '-' ∉ text := by
  intro hmem
  rw [isDigits, Bool.and_eq_true, List.all_eq_true] at h
  exact absurd (h.2 '-' hmem) (by decide)

namespace Decimal

/-- The digits of a decimal literal that was read are no hyphens. -/
theorem hyphen_not_mem_read {text : List Char} {literal : Decimal} (h : read? text = some literal) :
    '-' ∉ (splitSign text).2 ∧ '-' ∉ literal.whole ∧ '-' ∉ literal.fractionDigits := by
  have hsplit := List.takeWhile_append_dropWhile (p := (· != '.')) (l := (splitSign text).2)
  have hdot := List.head?_dropWhile_not (· != '.') (splitSign text).2
  simp only [read?, Option.ite_none_right_eq_some, Option.some.injEq] at h
  obtain ⟨hdigits, rfl⟩ := h
  have hhyphen := hyphen_not_mem_digits hdigits
  rw [List.mem_append, not_or] at hhyphen
  refine ⟨?_, hhyphen⟩
  rw [← hsplit, List.mem_append, not_or]
  refine ⟨hhyphen.1, ?_⟩
  cases hrest : (splitSign text).2.dropWhile (· != '.') with
  | nil => exact List.not_mem_nil
  | cons dot digits =>
      simp only [hrest, List.head?_cons] at hhyphen hdot
      rw [List.mem_cons, not_or]
      refine ⟨?_, hhyphen.2⟩
      rintro rfl
      exact absurd hdot (by decide)

/-- The canonical text of a decimal literal has a hyphen at most as its sign. -/
theorem render_signed {text : List Char} {literal : Decimal} (h : read? text = some literal) :
    Signed literal.render := by
  obtain ⟨-, hwhole, hfraction⟩ := hyphen_not_mem_read h
  have hwholeText : '-' ∉ literal.wholeText := by
    unfold wholeText
    split
    · decide
    · exact fun hmem => hwhole ((List.dropWhile_sublist _).subset hmem)
  have hfractionText : '-' ∉ literal.fractionText := by
    unfold fractionText
    split
    · decide
    · simp [hfraction]
  refine ⟨literal.wholeText ++ literal.fractionText, by simp [hwholeText, hfractionText], ?_⟩
  unfold render signText
  split
  · exact .inr rfl
  · exact .inl rfl

end Decimal

/-- A floating-point literal opens no comment: the mark of the exponent stands between the two
signs. -/
theorem Scientific.no_comment {text : List Char} {literal : Scientific}
    (h : read? text = some literal) : ¬ CommentIn text := by
  have hsplit := List.takeWhile_append_dropWhile (p := (!isExponentMark ·)) (l := text)
  have hmark := List.head?_dropWhile_not (!isExponentMark ·) text
  simp only [read?, Option.bind_eq_bind, Option.bind_eq_some_iff] at h
  obtain ⟨mantissa, hmantissa, hexponent⟩ := h
  have hfirst := (signed_of_split (Decimal.hyphen_not_mem_read hmantissa).1).no_comment
  rw [← hsplit]
  cases hrest : text.dropWhile (!isExponentMark ·) with
  | nil => rwa [List.append_nil]
  | cons mark exponent =>
      simp only [hrest, List.head?_cons] at hmark hexponent
      have hmark : mark ≠ '-' := by
        rintro rfl
        exact absurd hmark (by decide)
      obtain ⟨value, hvalue, -⟩ := Option.bind_eq_some_iff.1 hexponent
      have hsecond : Signed exponent := by
        refine signed_of_split (hyphen_not_mem_digits ?_)
        simp only [readExponent?, Option.ite_none_right_eq_some] at hvalue
        exact hvalue.1
      rw [comment_in_append (by simpa using hmark), comment_in_cons]
      simp [hfirst, hmark, hsecond.no_comment]

end Literal

/-- The canonical text of a decimal literal opens no comment. -/
theorem literal_no_comment {text : List Char} {literal : Literal.Decimal}
    (h : Literal.Decimal.read? text = some literal) :
    ¬ OpensComment (String.ofList literal.render) := by
  rw [OpensComment, String.toList_ofList]
  exact (Literal.Decimal.render_signed h).no_comment

/-- The rules for default values write no comments. -/
theorem default_rule_no_comment {type : DataType} {rule : String → Option String}
    (hrule : type.defaultRule? = some rule) {value expression : String}
    (h : rule value = some expression) : ¬ OpensComment expression := by
  cases type with
  | dateTime =>
      cases hrule
      unfold momentText? at h
      split at h
      · cases h
        decide
      · split at h
        · cases h
          decide
        · simp at h
  | short | int | long =>
      cases hrule
      obtain ⟨literal, hread, rfl⟩ := Option.map_eq_some_iff.1 (Literal.integer_text_decimal h)
      exact literal_no_comment hread
  | float | double =>
      cases hrule
      obtain ⟨literal, hread, h⟩ := Option.bind_eq_some_iff.1 h
      obtain ⟨-, h⟩ := Option.ite_none_right_eq_some.1 h
      cases h
      exact Literal.Scientific.no_comment hread
  | decimal =>
      cases hrule
      obtain ⟨literal, hread, rfl⟩ := Option.map_eq_some_iff.1 h
      exact literal_no_comment hread
  | guid | string | bool | timeSpan | bytes => simp [DataType.defaultRule?] at hrule

/-- A column without a default value has an error in place of its expression. -/
theorem default_expression_of_none {column : Column} (h : column.defaultValue = none) :
    column.defaultExpression = .error (.semantic (.noDefaultValue column.name)) := by
  rw [Column.defaultExpression, h]

/-- An expression for a default value is written by the rule of the data type. -/
theorem default_expression_rule {column : Column} {expression : String}
    (h : column.defaultExpression = .ok expression) :
    ∃ rule value, column.dataType.defaultRule? = some rule ∧ rule value = some expression := by
  unfold Column.defaultExpression at h
  split at h
  · simp at h
  · next value _ =>
      split at h
      · simp at h
      · next rule hrule =>
          split at h
          · simp at h
          · next hexpression =>
              cases h
              exact ⟨rule, value, hrule, hexpression⟩

/-- An expression for a default value opens no comment. -/
theorem default_expression_no_comment {column : Column} {expression : String}
    (h : column.defaultExpression = .ok expression) : ¬ OpensComment expression := by
  obtain ⟨rule, value, hrule, hexpression⟩ := default_expression_rule h
  exact default_rule_no_comment hrule hexpression

/-! ## Characters -/

namespace Literal

/-- The character can stand in a number. -/
def isNumberChar (c : Char) : Bool :=
  c.isDigit || c == '+' || c == '-' || c == '.' || c == 'e' || c == 'E'

/-- The text is made of characters that can stand in a number. -/
def IsNumber (text : List Char) : Prop :=
  ∀ c ∈ text, isNumberChar c = true

/-- Digits can stand in a number. -/
theorem is_number_of_digits {text : List Char} (h : isDigits text = true) : IsNumber text := by
  intro c hmem
  rw [isDigits, Bool.and_eq_true, List.all_eq_true] at h
  simp [isNumberChar, h.2 c hmem]

/-- A sign in front can stand in a number. -/
theorem is_number_of_split {text : List Char} (h : IsNumber (splitSign text).2) :
    IsNumber text := by
  unfold splitSign at h
  split at h
  · exact h
  · next c rest =>
      split at h
      · next hc =>
          rw [hc]
          exact List.forall_mem_cons.2 ⟨rfl, h⟩
      · split at h
        · next hc =>
            rw [hc]
            exact List.forall_mem_cons.2 ⟨rfl, h⟩
        · exact h

/-- The canonical text of a decimal literal is a number if its digits can stand in one. -/
theorem Decimal.render_is_number {literal : Decimal} (hwhole : IsNumber literal.whole)
    (hfraction : IsNumber literal.fractionDigits) : IsNumber literal.render := by
  rw [render, IsNumber, List.forall_mem_append, List.forall_mem_append]
  refine ⟨⟨?_, ?_⟩, ?_⟩
  · unfold signText
    split
    · exact List.forall_mem_singleton.2 rfl
    · simp
  · unfold wholeText
    split
    · exact List.forall_mem_singleton.2 rfl
    · exact fun c hmem => hwhole c ((List.dropWhile_sublist _).subset hmem)
  · unfold fractionText
    split
    · simp
    · exact List.forall_mem_cons.2 ⟨rfl, hfraction⟩

/-- A decimal literal that was read and its canonical text are numbers. -/
theorem Decimal.is_number {text : List Char} {literal : Decimal} (h : read? text = some literal) :
    IsNumber text ∧ IsNumber literal.render := by
  have hsplit := List.takeWhile_append_dropWhile (p := (· != '.')) (l := (splitSign text).2)
  have hdot := List.head?_dropWhile_not (· != '.') (splitSign text).2
  simp only [read?, Option.ite_none_right_eq_some, Option.some.injEq] at h
  obtain ⟨hdigits, rfl⟩ := h
  have hnumber := is_number_of_digits hdigits
  rw [IsNumber, List.forall_mem_append] at hnumber
  refine ⟨is_number_of_split ?_, render_is_number hnumber.1 hnumber.2⟩
  rw [← hsplit, IsNumber, List.forall_mem_append]
  refine ⟨hnumber.1, ?_⟩
  cases hrest : (splitSign text).2.dropWhile (· != '.') with
  | nil => simp
  | cons dot digits =>
      simp only [hrest, List.head?_cons] at hnumber hdot
      have hdot : dot = '.' := by simpa using hdot
      rw [hdot]
      exact List.forall_mem_cons.2 ⟨rfl, hnumber.2⟩

/-- A floating-point literal that was read is a number. -/
theorem Scientific.is_number {text : List Char} {literal : Scientific}
    (h : read? text = some literal) : IsNumber text := by
  have hsplit := List.takeWhile_append_dropWhile (p := (!isExponentMark ·)) (l := text)
  have hmark := List.head?_dropWhile_not (!isExponentMark ·) text
  simp only [read?, Option.bind_eq_bind, Option.bind_eq_some_iff] at h
  obtain ⟨mantissa, hmantissa, hexponent⟩ := h
  rw [← hsplit, IsNumber, List.forall_mem_append]
  refine ⟨(Decimal.is_number hmantissa).1, ?_⟩
  cases hrest : text.dropWhile (!isExponentMark ·) with
  | nil => simp
  | cons mark exponent =>
      simp only [hrest, List.head?_cons] at hmark hexponent
      obtain ⟨value, hvalue, -⟩ := Option.bind_eq_some_iff.1 hexponent
      simp only [readExponent?, Option.ite_none_right_eq_some] at hvalue
      refine List.forall_mem_cons.2 ⟨?_, is_number_of_split (is_number_of_digits hvalue.1)⟩
      have hmark : mark = 'e' ∨ mark = 'E' := by
        simpa [isExponentMark, or_iff_not_imp_left] using hmark
      rcases hmark with rfl | rfl <;> rfl

/-- What cannot stand in a number is not in one. -/
theorem IsNumber.not_mem {text : List Char} (h : IsNumber text) {c : Char}
    (hc : isNumberChar c = false) : c ∉ text := fun hmem => by
  rw [h c hmem] at hc
  cases hc

end Literal

/-- The rules for default values write the current time in one of two ways, or a number. -/
theorem default_rule_form {type : DataType} {rule : String → Option String}
    (hrule : type.defaultRule? = some rule) {value expression : String}
    (h : rule value = some expression) :
    expression = "NOW()" ∨ expression = "(NOW() at time zone 'utc')" ∨
      Literal.IsNumber expression.toList := by
  cases type with
  | dateTime =>
      cases hrule
      unfold momentText? at h
      split at h
      · cases h
        exact .inl rfl
      · split at h
        · cases h
          exact .inr (.inl rfl)
        · simp at h
  | short | int | long =>
      cases hrule
      obtain ⟨literal, hread, rfl⟩ := Option.map_eq_some_iff.1 (Literal.integer_text_decimal h)
      rw [String.toList_ofList]
      exact .inr (.inr (Literal.Decimal.is_number hread).2)
  | float | double =>
      cases hrule
      obtain ⟨literal, hread, h⟩ := Option.bind_eq_some_iff.1 h
      obtain ⟨-, h⟩ := Option.ite_none_right_eq_some.1 h
      cases h
      exact .inr (.inr (Literal.Scientific.is_number hread))
  | decimal =>
      cases hrule
      obtain ⟨literal, hread, rfl⟩ := Option.map_eq_some_iff.1 h
      rw [String.toList_ofList]
      exact .inr (.inr (Literal.Decimal.is_number hread).2)
  | guid | string | bool | timeSpan | bytes => simp [DataType.defaultRule?] at hrule

/-- An expression for a default value is the current time in one of two ways, or a number. -/
theorem default_expression_form {column : Column} {expression : String}
    (h : column.defaultExpression = .ok expression) :
    expression = "NOW()" ∨ expression = "(NOW() at time zone 'utc')" ∨
      Literal.IsNumber expression.toList := by
  obtain ⟨rule, value, hrule, hexpression⟩ := default_expression_rule h
  exact default_rule_form hrule hexpression

/-- An expression for a default value is written on one line. -/
theorem default_expression_one_line {column : Column} {expression : String}
    (h : column.defaultExpression = .ok expression) : '\n' ∉ expression.toList := by
  rcases default_expression_form h with rfl | rfl | hnumber
  · decide
  · decide
  · exact hnumber.not_mem (by decide)

end Schemata
