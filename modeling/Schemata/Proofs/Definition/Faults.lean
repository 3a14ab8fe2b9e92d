import Schemata.Proofs.Definition.Parsing

/-!
# Which contradictions the parser reports

The parser reports a semantic error only about the declaration that it is reading. Errors about
finished tables, that is about their keys, the values of their defaults and the parameters of their
statements, never come out of it, by `parse_error_reading`.
-/

namespace Schemata

/-- The error is about a declaration that is being read, and not about a finished table. -/
def SemanticError.isReading : SemanticError → Bool
  | .multiplePrimaryKeys .. | .missingPrimaryKey _ | .noDefaultValue _ | .invalidDefault ..
  | .unknownParameter .. => false
  | _ => true

namespace Definition

variable {schema : String} {state : State} {table : OpenTable} {draft : Column.Draft}
  {token : Token} {cause : SemanticError}

/-- Completing a draft fails with an error about its declaration. -/
theorem finish_error_reading {label : String} (h : draft.finish label = .error cause) :
    cause.isReading = true := by
  unfold Column.Draft.finish at h
  split at h
  · cases h
    rfl
  · split at h
    · cases h
      rfl
    · unfold Column.ofSpec at h
      split at h
      · next conflict _ =>
          cases h
          cases conflict <;> rfl
      · cases h

/-- Reading an item fails with an error about its declaration. -/
theorem read_error_reading (schema : String) (item : Item)
    (h : item.read schema draft = .error cause) : cause.isReading = true := by
  cases item with
  | dataType | unique | default => cases h
  | primaryKey =>
      simp only [Item.read, Column.Draft.withPrimaryKey] at h
      split at h
      · cases h
        rfl
      · split at h <;> cases h
        rfl
  | null =>
      simp only [Item.read, Column.Draft.withNull] at h
      split at h <;> cases h
      rfl
  | autoGenerate =>
      simp only [Item.read, Column.Draft.withAutoGenerate] at h
      split at h <;> cases h
      rfl
  | foreignKey =>
      simp only [Item.read, map_eq_error_iff, Column.Draft.beforeForeignKey] at h
      split at h <;> cases h
      rfl
  | length =>
      simp only [Item.read, Column.Draft.withLength] at h
      split at h <;> cases h
      rfl

/-- A step inside of a column fails with an error about its declaration. -/
theorem step_column_error_reading (schema : String)
    (h : stepColumn state table draft token = .error (.semantic cause)) :
    cause.isReading = true := by
  -- a token that belongs to an item fails as the item does
  cases token with
  | comma | newLine | closeTable =>
      simp only [stepColumn, map_eq_error_iff, lift_eq_error_iff, Error.semantic.injEq] at h
      obtain ⟨_, hfinish, rfl⟩ := h
      exact finish_error_reading hfinish
  | primaryKey =>
      simp only [stepColumn, map_eq_error_iff, lift_eq_error_iff, Error.semantic.injEq] at h
      obtain ⟨_, hread, rfl⟩ := h
      exact read_error_reading schema .primaryKey hread
  | null =>
      simp only [stepColumn, map_eq_error_iff, lift_eq_error_iff, Error.semantic.injEq] at h
      obtain ⟨_, hread, rfl⟩ := h
      exact read_error_reading schema .null hread
  | autoGenerate =>
      simp only [stepColumn, map_eq_error_iff, lift_eq_error_iff, Error.semantic.injEq] at h
      obtain ⟨_, hread, rfl⟩ := h
      exact read_error_reading schema .autoGenerate hread
  | foreignKey =>
      simp only [stepColumn, map_eq_error_iff, lift_eq_error_iff, Error.semantic.injEq] at h
      obtain ⟨_, hread, rfl⟩ := h
      exact read_error_reading schema (.foreignKey "" "") (map_eq_error_iff.2 hread)
  | value text =>
      simp only [stepColumn, map_eq_error_iff, lift_eq_error_iff, Error.semantic.injEq] at h
      obtain ⟨_, hread, rfl⟩ := h
      exact read_error_reading schema (.length text) hread
  | name text =>
      simp only [stepColumn] at h
      split at h
      · simp only [map_eq_error_iff, lift_eq_error_iff, Error.semantic.injEq] at h
        obtain ⟨_, hread, rfl⟩ := h
        exact read_error_reading schema (.length text) hread
      · cases h
  | dataType | unique | default | reference | openTable => cases h

/-- A step of the parser fails with a semantic error only inside of a column. -/
theorem step_error_reading (h : step schema state token = .error (.semantic cause)) :
    cause.isReading = true := by
  unfold step at h
  split at h
  · rw [map_eq_error_iff] at h
    cases token <;> simp [stepBetween] at h
  · rw [map_eq_error_iff] at h
    cases token <;> simp [stepHeader] at h
  · cases token <;> simp [stepBody] at h
  · exact step_column_error_reading schema h
  · rw [map_eq_error_iff] at h
    cases token <;> simp [stepReference] at h
  · rw [map_eq_error_iff] at h
    cases token <;> simp [stepDefault] at h

/-- A run of the parser fails as one of its steps does. -/
theorem run_error_reading {tokens : List Token}
    (h : tokens.foldlM (step schema) state = .error (.semantic cause)) :
    cause.isReading = true := by
  induction tokens generalizing state with
  | nil => cases h
  | cons token tokens ih =>
      rw [List.foldlM_cons, bind_eq_error_iff] at h
      rcases h with hstep | ⟨next, -, hrest⟩
      · exact step_error_reading hstep
      · exact ih hrest

/-- The semantic errors of a text are about its declarations. -/
theorem parse_error_reading {text : String} (h : parse schema text = .error (.semantic cause)) :
    cause.isReading = true := by
  unfold parse at h
  rw [bind_eq_error_iff] at h
  rcases h with hrun | ⟨last, -, hlast⟩
  · exact run_error_reading hrun
  · split at hlast
    · cases hlast
    · unfold State.conclude at hlast
      split at hlast <;> cases hlast

end Definition

end Schemata
