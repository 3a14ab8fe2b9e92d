import Mathlib.Data.Rat.Cast.Order
import Schemata.Column.Default
import Schemata.Proofs.Error
import Schemata.Proofs.Literal.Integer

/-!
# Default values of exact numbers

A column of an integer type accepts the integers that its width can hold, and a decimal column
accepts all decimal literals. By `exact_default_iff` these are exactly the texts that match their
pattern, an accepted text is written in canonical form without a change to the number or to the
digits behind its point, and every other text is reported as it stands.
-/

namespace Schemata

namespace Literal

/-- `IsCanonicalOf written value` says that a text in canonical form denotes the same number as
another one, with as many digits behind the point and without a minus sign in front of zero. -/
structure IsCanonicalOf (written value : List Char) : Prop where
  pattern : Matches written canonicalPattern
  number : number written = number value
  scale : scale written = scale value
  sign : Literal.number written = 0 → '-' ∉ written

/-- The canonical text of a literal is canonical. -/
theorem Decimal.render_canonical {literal : Decimal} {text : List Char}
    (h : literal.Spells text) : IsCanonicalOf literal.render text :=
  ⟨render_matches h, number_render h, scale_render h, render_zero_minus h⟩

/-- An integer fits a width if it is in the range of the width. -/
theorem fits_signed_iff {bits : Nat} {value : Int} :
    fitsSigned bits value = true ↔
      -2 ^ (bits - 1) ≤ (value : ℚ) ∧ (value : ℚ) < 2 ^ (bits - 1) := by
  have hpower : twoPow (bits - 1) = 2 ^ (bits - 1) := rfl
  rw [fitsSigned, Bool.and_eq_true, decide_eq_true_eq, decide_eq_true_eq, hpower]
  norm_cast

/-- A text that spells an integer denotes it. -/
theorem Decimal.Spells.number_of_integer {literal : Decimal} {text : List Char}
    (h : literal.Spells text) (hnone : literal.fraction = none) :
    number text = literal.wholeValue := by
  have hempty : literal.fractionDigits = [] := by rw [fractionDigits, hnone, Option.getD_none]
  rw [h.number_eq, hempty, List.append_nil, List.length_nil, pow_zero, div_one, wholeValue]
  split
  · push_cast
    ring
  · push_cast
    ring

/-- A text that spells an integer is one of a width exactly if the integer fits it. -/
theorem Decimal.Spells.is_integer_iff {literal : Decimal} {text : List Char}
    (h : literal.Spells text) (hnone : literal.fraction = none) {bits : Nat} :
    IsInteger bits text ↔ fitsSigned bits literal.wholeValue = true := by
  rw [IsInteger, h.number_of_integer hnone, fits_signed_iff, and_iff_right]
  exact matches_integer_iff.2 ⟨literal, h, hnone⟩

/-- `WritesCanonical rule accepts` says that a rule for default values has canonical expressions for
the texts that are accepted, which it writes as they stand, and none for the others. -/
structure WritesCanonical (rule : String → Option String) (accepts : String → Prop) : Prop where
  accepted {text : String} : accepts text → ∃ written, rule text = some written ∧
    IsCanonicalOf written.toList text.toList ∧ rule written = some written
  rejected {text : String} : ¬ accepts text → rule text = none

/-- Integers of a width are written in canonical form. -/
theorem integer_writes_canonical (bits : Nat) :
    WritesCanonical (integerText? bits) (fun text => IsInteger bits text.toList) where
  accepted {text} h := by
    obtain ⟨literal, hspells, hnone⟩ := Decimal.matches_integer_iff.1 h.1
    have hcanonical := Decimal.canonical_spells hspells
    have hinteger : literal.canonical.fraction = none := by
      rw [Decimal.canonical, Decimal.fractionDigits, hnone]
      rfl
    -- the canonical text denotes the same number, so it is in the same range
    have hagain : IsInteger bits literal.render := by
      refine ⟨Decimal.matches_integer_iff.2 ⟨_, hcanonical, hinteger⟩, ?_⟩
      rw [Decimal.number_render hspells]
      exact h.2
    refine ⟨String.ofList literal.render, integer_text_eq_some_iff.2
      ⟨literal, hspells, hnone, (hspells.is_integer_iff hnone).1 h, rfl⟩, ?_,
      integer_text_eq_some_iff.2 ⟨literal.canonical, ?_, hinteger,
        (hcanonical.is_integer_iff hinteger).1 hagain, ?_⟩⟩
    · rw [String.toList_ofList]
      exact Decimal.render_canonical hspells
    · rwa [String.toList_ofList]
    · rw [Decimal.canonical_render hspells]
  rejected {text} h := by
    rw [Option.eq_none_iff_forall_ne_some]
    intro written hwritten
    obtain ⟨literal, hspells, hnone, hfits, -⟩ := integer_text_eq_some_iff.1 hwritten
    exact h ((hspells.is_integer_iff hnone).2 hfits)

/-- Decimal numbers are written in canonical form. -/
theorem decimal_writes_canonical :
    WritesCanonical decimalText? (fun text => Matches text.toList decimalPattern) where
  accepted {text} h := by
    obtain ⟨literal, hspells⟩ := Decimal.matches_decimal_iff.1 h
    refine ⟨String.ofList literal.render, decimal_text_eq_some_iff.2 ⟨literal, hspells, rfl⟩, ?_,
      decimal_text_eq_some_iff.2 ⟨literal.canonical, ?_, ?_⟩⟩
    · rw [String.toList_ofList]
      exact Decimal.render_canonical hspells
    · rw [String.toList_ofList]
      exact Decimal.canonical_spells hspells
    · rw [Decimal.canonical_render hspells]
  rejected {text} h := by
    rw [Option.eq_none_iff_forall_ne_some]
    intro written hwritten
    obtain ⟨literal, hspells, -⟩ := decimal_text_eq_some_iff.1 hwritten
    exact h (Decimal.matches_decimal_iff.2 ⟨literal, hspells⟩)

end Literal

open Literal

/-- The texts of exact numbers that a data type can hold, if it is one of exact numbers. -/
def DataType.exactValues? : DataType → Option (String → Prop)
  | .short => some fun text => IsInteger 16 text.toList
  | .int => some fun text => IsInteger 32 text.toList
  | .long => some fun text => IsInteger 64 text.toList
  | .decimal => some fun text => Matches text.toList decimalPattern
  | .guid | .string | .dateTime | .bool | .float | .double | .timeSpan | .bytes => none

/-- A data type of exact numbers has a rule that writes them in canonical form. -/
theorem DataType.exact_rule {type : DataType} {accepts : String → Prop}
    (h : type.exactValues? = some accepts) :
    ∃ rule, type.defaultRule? = some rule ∧ WritesCanonical rule accepts := by
  cases type with
  | short | int | long =>
      cases h
      exact ⟨_, rfl, integer_writes_canonical _⟩
  | decimal =>
      cases h
      exact ⟨_, rfl, decimal_writes_canonical⟩
  | guid | string | dateTime | bool | float | double | timeSpan | bytes => cases h

/-- The expression for a default value of a column whose type has a rule. -/
theorem default_expression_eq {column : Column} {value : String}
    (hvalue : column.defaultValue = some value) {rule : String → Option String}
    (hrule : column.dataType.defaultRule? = some rule) :
    column.defaultExpression = (rule value).elim
      (.error (.semantic (.invalidDefault column.name column.dataType value))) .ok := by
  simp only [Column.defaultExpression, hvalue, hrule]
  cases rule value with
  | none => rfl
  | some expression => rfl

/-- A column of a type of exact numbers has an expression for its default value exactly if the value
is one of the type. The expression is the canonical form of the value, and every column of the type
that has it as its default value has it as its expression, too. Any other value is reported with the
name and the type of the column. -/
theorem exact_default_iff {column : Column} {value : String}
    (hvalue : column.defaultValue = some value) {accepts : String → Prop}
    (htype : column.dataType.exactValues? = some accepts) :
    ((∃ expression, column.defaultExpression = .ok expression) ↔ accepts value) ∧
      (∀ expression, column.defaultExpression = .ok expression →
        IsCanonicalOf expression.toList value.toList ∧
        ∀ other : Column, other.dataType = column.dataType →
          other.defaultValue = some expression → other.defaultExpression = .ok expression) ∧
      (¬ accepts value → column.defaultExpression =
        .error (.semantic (.invalidDefault column.name column.dataType value))) := by
  obtain ⟨rule, hrule, hwrites⟩ := DataType.exact_rule htype
  have hexpression := default_expression_eq hvalue hrule
  by_cases haccepts : accepts value
  · obtain ⟨written, hwritten, hcanonical, hagain⟩ := hwrites.accepted haccepts
    rw [hwritten, Option.elim_some] at hexpression
    refine ⟨iff_of_true ⟨written, hexpression⟩ haccepts, fun expression h => ?_,
      fun hnot => absurd haccepts hnot⟩
    obtain rfl : written = expression := Except.ok.inj (hexpression.symm.trans h)
    refine ⟨hcanonical, fun other hother hdefault => ?_⟩
    rw [← hother] at hrule
    rw [default_expression_eq hdefault hrule, hagain, Option.elim_some]
  · rw [hwrites.rejected haccepts, Option.elim_none] at hexpression
    refine ⟨iff_of_false ?_ haccepts, fun expression h => ?_, fun _ => hexpression⟩
    · rintro ⟨expression, h⟩
      cases hexpression.symm.trans h
    · cases hexpression.symm.trans h

/-- A decimal column whose default value is a negative zero with a scale: the sign and the zeros in
front are dropped, the scale is kept. -/
theorem negative_zero_canonical :
    ∃ column,
      Column.ofSpec { defaultValue := some "-000.00", name := "price", dataType := .decimal } =
        .ok column ∧
      column.defaultValue = some "-000.00" ∧ column.dataType.exactValues?.isSome ∧
      column.defaultExpression = .ok "0.00" ∧
      IsCanonicalOf "0.00".toList "-000.00".toList ∧
      ∀ other : Column, other.dataType = .decimal → other.defaultValue = some "0.00" →
        other.defaultExpression = .ok "0.00" := by
  have hsome : ∃ column,
      Column.ofSpec { defaultValue := some "-000.00", name := "price", dataType := .decimal } =
        .ok column ∧
      column.defaultValue = some "-000.00" ∧ column.dataType = .decimal ∧
      column.defaultExpression = .ok "0.00" := exists_eq_ok (by decide +kernel)
  obtain ⟨column, hok, hvalue, htype, hexpression⟩ := hsome
  have haccepts : column.dataType.exactValues? =
      some fun text => Matches text.toList decimalPattern := by rw [htype]; rfl
  obtain ⟨-, hcanonical, -⟩ := exact_default_iff hvalue haccepts
  obtain ⟨hform, hagain⟩ := hcanonical "0.00" hexpression
  rw [htype] at hagain
  exact ⟨column, hok, hvalue, by rw [haccepts]; rfl, hexpression, hform, hagain⟩

end Schemata
