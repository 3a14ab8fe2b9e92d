import Schemata.Storage.Creation

/-!
# Characters of clauses

The clauses of a column line that hold no names are made of letters, digits, underscores, blanks and
parentheses, by `not_mem_clauses` and `not_mem_generated_clause`.
-/

namespace Schemata.Storage

/-- The character can stand in a clause without names. -/
def isClauseChar (c : Char) : Bool :=
  c.isAlphanum || c == ' ' || c == '_' || c == '(' || c == ')'

variable {column : Column} {c : Char}

/-- Where all characters can stand in a clause, no other one does. -/
theorem not_mem_of_clause {text : String} (h : text.toList.all isClauseChar = true)
    (hc : isClauseChar c = false) : c ∉ text.toList := by
  intro hmem
  rw [List.all_eq_true.1 h c hmem] at hc
  cases hc

/-- The type of a column and the clauses without names hold no other characters. -/
theorem not_mem_clauses (column : Column) (hc : isClauseChar c = false) :
    c ∉ (columnType column).toList ∧ c ∉ (keyClause column).toList ∧
      c ∉ (notNullClause column).toList ∧ c ∉ (uniqueClause column).toList := by
  refine ⟨?_, ?_, ?_, ?_⟩ <;> refine not_mem_of_clause ?_ hc
  · unfold columnType
    split
    · decide
    · cases column.dataType <;> decide
  · unfold keyClause
    split <;> decide
  · unfold notNullClause
    split <;> decide
  · unfold uniqueClause
    split <;> decide

/-- The clause of a generated key holds no other characters. -/
theorem not_mem_generated_clause {clause : String} (h : generatedClause column = .ok clause)
    (hc : isClauseChar c = false) : c ∉ clause.toList := by
  refine not_mem_of_clause ?_ hc
  unfold generatedClause at h
  split at h
  · split at h
    · cases h
      decide
    · cases h
      decide
    · cases h
  · cases h
    decide

end Schemata.Storage
