import Schemata.Proofs.Column.Exact
import Schemata.Proofs.Literal.Finite

/-!
# Default values of wider types

Some data types hold all numbers of another one, and `DataType.wider` lists them. A default value
that a column of the narrower type accepts is accepted by a column of the wider type and has the
same expression, by `widening_keeps_default`.
-/

namespace Schemata

namespace Literal

/-- An integer that fits a width fits every larger width. -/
theorem fits_signed_mono {bits more : Nat} (hwidth : bits ≤ more) {value : Int}
    (h : fitsSigned bits value = true) : fitsSigned more value = true := by
  have hpower : (2 : ℚ) ^ (bits - 1) ≤ 2 ^ (more - 1) :=
    pow_le_pow_right₀ (by norm_num) (Nat.sub_le_sub_right hwidth 1)
  rw [fits_signed_iff] at h ⊢
  exact ⟨(neg_le_neg hpower).trans h.1, h.2.trans_le hpower⟩

variable {text written : String}

/-- An integer of a width is written alike in every larger width. -/
theorem integer_text_mono {bits more : Nat} (hwidth : bits ≤ more)
    (h : integerText? bits text = some written) : integerText? more text = some written := by
  rw [integer_text_eq_some_iff] at h ⊢
  obtain ⟨literal, hspells, hnone, hfits, hwritten⟩ := h
  exact ⟨literal, hspells, hnone, fits_signed_mono hwidth hfits, hwritten⟩

/-- A literal that is finite below a bound is finite below every larger one. -/
theorem finite_text_mono {bound more : Nat} (hbound : bound ≤ more)
    (h : finiteText? bound text = some written) : finiteText? more text = some written := by
  rw [finite_text_eq_some_iff] at h ⊢
  obtain ⟨hwritten, literal, hread, hbelow⟩ := h
  exact ⟨hwritten, literal, hread, hbelow.trans_le (by exact_mod_cast hbound)⟩

end Literal

open Literal

/-- The data types that hold all numbers of a data type and more. -/
def DataType.wider : DataType → List DataType
  | .short => [.int, .long, .decimal]
  | .int => [.long, .decimal]
  | .long => [.decimal]
  | .float => [.double]
  | .guid | .string | .dateTime | .bool | .decimal | .double | .timeSpan | .bytes => []

/-- A wider type writes the values of a type as the type does. -/
theorem DataType.wider_rule {narrow wide : DataType} (h : wide ∈ narrow.wider) :
    ∃ rule, narrow.defaultRule? = some rule ∧ ∃ wider, wide.defaultRule? = some wider ∧
      ∀ value expression, rule value = some expression → wider value = some expression := by
  cases narrow with
  | short =>
      simp only [DataType.wider, List.mem_cons, List.not_mem_nil, or_false] at h
      rcases h with rfl | rfl | rfl
      · exact ⟨_, rfl, _, rfl, fun _ _ => integer_text_mono (by decide)⟩
      · exact ⟨_, rfl, _, rfl, fun _ _ => integer_text_mono (by decide)⟩
      · exact ⟨_, rfl, _, rfl, fun _ _ => integer_text_decimal⟩
  | int =>
      simp only [DataType.wider, List.mem_cons, List.not_mem_nil, or_false] at h
      rcases h with rfl | rfl
      · exact ⟨_, rfl, _, rfl, fun _ _ => integer_text_mono (by decide)⟩
      · exact ⟨_, rfl, _, rfl, fun _ _ => integer_text_decimal⟩
  | long =>
      obtain rfl := List.mem_singleton.1 h
      exact ⟨_, rfl, _, rfl, fun _ _ => integer_text_decimal⟩
  | float =>
      obtain rfl := List.mem_singleton.1 h
      exact ⟨_, rfl, _, rfl, fun _ _ => finite_text_mono (overflow_bound_mono (by decide))⟩
  | guid | string | dateTime | bool | decimal | double | timeSpan | bytes => cases h

/-- Widening the data type of a column neither loses its default value nor changes the expression
for it. -/
theorem widening_keeps_default {narrow wide : Column}
    (htype : wide.dataType ∈ narrow.dataType.wider)
    (hvalue : wide.defaultValue = narrow.defaultValue) {expression : String}
    (h : narrow.defaultExpression = .ok expression) : wide.defaultExpression = .ok expression := by
  obtain ⟨rule, hnarrow, wider, hwide, hkeeps⟩ := DataType.wider_rule htype
  cases hsome : narrow.defaultValue with
  | none =>
      rw [Column.defaultExpression, hsome] at h
      cases h
  | some value =>
      rw [hsome] at hvalue
      rw [default_expression_eq hsome hnarrow] at h
      rw [default_expression_eq hvalue hwide]
      cases hrule : rule value with
      | none =>
          rw [hrule] at h
          cases h
      | some written =>
          rw [hrule] at h
          rw [hkeeps value written hrule]
          exact h

/-- A negative zero of a short column on a decimal column, and the largest power of ten of a float
column on a double column. -/
theorem zero_and_power_widened :
    ∃ short decimal float double,
      Column.ofSpec { defaultValue := some "-00", name := "rank", dataType := .short } =
        .ok short ∧
      Column.ofSpec { defaultValue := some "-00", name := "price", dataType := .decimal } =
        .ok decimal ∧
      Column.ofSpec { defaultValue := some "+1.e038", name := "x", dataType := .float } =
        .ok float ∧
      Column.ofSpec { defaultValue := some "+1.e038", name := "y", dataType := .double } =
        .ok double ∧
      decimal.defaultExpression = .ok "0" ∧ double.defaultExpression = .ok "+1.e038" := by
  obtain ⟨short, hshort, hzero, hrank⟩ : ∃ column,
      Column.ofSpec { defaultValue := some "-00", name := "rank", dataType := .short } =
        .ok column ∧ column.defaultExpression = .ok "0" ∧
        column.defaultValue = some "-00" ∧ column.dataType = .short :=
    exists_eq_ok (by decide +kernel)
  obtain ⟨decimal, hdecimal, hprice⟩ : ∃ column,
      Column.ofSpec { defaultValue := some "-00", name := "price", dataType := .decimal } =
        .ok column ∧ column.defaultValue = some "-00" ∧ column.dataType = .decimal :=
    exists_eq_ok (by decide +kernel)
  obtain ⟨float, hfloat, hpower, hx⟩ : ∃ column,
      Column.ofSpec { defaultValue := some "+1.e038", name := "x", dataType := .float } =
        .ok column ∧ column.defaultExpression = .ok "+1.e038" ∧
        column.defaultValue = some "+1.e038" ∧ column.dataType = .float :=
    exists_eq_ok (by decide +kernel)
  obtain ⟨double, hdouble, hy⟩ : ∃ column,
      Column.ofSpec { defaultValue := some "+1.e038", name := "y", dataType := .double } =
        .ok column ∧ column.defaultValue = some "+1.e038" ∧ column.dataType = .double :=
    exists_eq_ok (by decide +kernel)
  refine ⟨short, decimal, float, double, hshort, hdecimal, hfloat, hdouble, ?_, ?_⟩
  · exact widening_keeps_default (by rw [hprice.2, hrank.2]; decide)
      (hprice.1.trans hrank.1.symm) hzero
  · exact widening_keeps_default (by rw [hy.2, hx.2]; decide) (hy.1.trans hx.1.symm) hpower

end Schemata
