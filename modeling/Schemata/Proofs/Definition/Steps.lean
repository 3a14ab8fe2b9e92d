import Schemata.Proofs.Definition.Items
import Schemata.Proofs.Error

/-!
# The steps of the parser

For each phase of the parser a lemma lists the tokens that may follow and says where they lead. The
items of a column that are spelled by one token are read by `step_column_iff` all alike; a foreign
key and a default value take two steps each.
-/

namespace Schemata.Definition

variable {schema : String} {state next : State} {phase : Phase} {table : OpenTable}
  {draft : Column.Draft} {token : Token}

/-! ## Steps outside of columns -/

/-- Outside of all tables the parser accepts separators and headers. -/
theorem step_between_iff :
    stepBetween schema token = .ok phase ↔
      ((token = .comma ∨ token = .newLine) ∧ phase = .betweenTables) ∨
      ∃ space name, token = headerToken space name ∧
        phase = .header (.ofNames (space.getD schema) name) := by
  constructor
  · intro h
    cases token with
    | comma => exact .inl ⟨.inl rfl, (Except.ok.inj h).symm⟩
    | newLine => exact .inl ⟨.inr rfl, (Except.ok.inj h).symm⟩
    | name name => exact .inr ⟨none, name, rfl, (Except.ok.inj h).symm⟩
    | reference space name => exact .inr ⟨some space, name, rfl, (Except.ok.inj h).symm⟩
    | _ => simp [stepBetween] at h
  · rintro (⟨rfl | rfl, rfl⟩ | ⟨_ | space, name, rfl, rfl⟩) <;> rfl

/-- Behind a header the parser accepts line breaks and the opening brace. -/
theorem step_header_iff :
    stepHeader table token = .ok phase ↔
      (token = .newLine ∧ phase = .header table) ∨ (token = .openTable ∧ phase = .body table) := by
  cases token <;> simp [stepHeader, eq_comm]

/-- Inside of a table the parser accepts separators, the name of a column and the closing brace. -/
theorem step_body_iff :
    stepBody state table token = .ok next ↔
      ((token = .comma ∨ token = .newLine) ∧ next = state.enter (.body table)) ∨
      (∃ name, token = .name name ∧ next = state.enter (.column table (.ofName name))) ∨
      (token = .closeTable ∧ next = state.finish table) := by
  cases token <;> simp [stepBody, eq_comm]

/-! ## Steps inside of columns -/

/-- A column may get a foreign key if it is not the primary key. -/
theorem before_foreign_key_iff {announced : Column.Draft} :
    draft.beforeForeignKey = .ok announced ↔ draft.primaryKey = false ∧ announced = draft := by
  unfold Column.Draft.beforeForeignKey
  cases draft.primaryKey <;> simp [eq_comm]

/-- Inside of a column the parser accepts the end of the column, an item, and the beginning of a
foreign key or of a default value. -/
theorem step_column_iff (schema : String) :
    stepColumn state table draft token = .ok next ↔
      ((token = .comma ∨ token = .newLine) ∧
        ∃ column, draft.finish table.label = .ok column ∧
          next = state.enter (.body (table.add column))) ∨
      (token = .closeTable ∧
        ∃ column, draft.finish table.label = .ok column ∧
          next = state.finish (table.add column)) ∨
      (∃ item : Item, item.Derives [token] ∧
        ∃ read, item.read schema draft = .ok read ∧ next = state.enter (.column table read)) ∨
      (token = .foreignKey ∧ draft.primaryKey = false ∧
        next = state.enter (.reference table draft)) ∨
      (token = .default ∧ next = state.enter (.default table draft)) := by
  constructor
  · intro h
    cases token with
    | comma | newLine =>
        simp only [stepColumn, map_eq_ok_iff, lift_eq_ok_iff] at h
        obtain ⟨_, ⟨column, hfinish, rfl⟩, rfl⟩ := h
        exact .inl ⟨by simp, column, hfinish, rfl⟩
    | closeTable =>
        simp only [stepColumn, map_eq_ok_iff, lift_eq_ok_iff] at h
        obtain ⟨_, ⟨column, hfinish, rfl⟩, rfl⟩ := h
        exact .inr (.inl ⟨rfl, column, hfinish, rfl⟩)
    | dataType type =>
        exact .inr (.inr (.inl ⟨_, .dataType type, _, rfl, (Except.ok.inj h).symm⟩))
    | unique => exact .inr (.inr (.inl ⟨_, .unique, _, rfl, (Except.ok.inj h).symm⟩))
    | primaryKey =>
        simp only [stepColumn, map_eq_ok_iff, lift_eq_ok_iff] at h
        obtain ⟨read, hread, rfl⟩ := h
        exact .inr (.inr (.inl ⟨_, .primaryKey, read, hread, rfl⟩))
    | null =>
        simp only [stepColumn, map_eq_ok_iff, lift_eq_ok_iff] at h
        obtain ⟨read, hread, rfl⟩ := h
        exact .inr (.inr (.inl ⟨_, .null, read, hread, rfl⟩))
    | autoGenerate =>
        simp only [stepColumn, map_eq_ok_iff, lift_eq_ok_iff] at h
        obtain ⟨read, hread, rfl⟩ := h
        exact .inr (.inr (.inl ⟨_, .autoGenerate, read, hread, rfl⟩))
    | value text =>
        simp only [stepColumn, map_eq_ok_iff, lift_eq_ok_iff] at h
        obtain ⟨read, hread, rfl⟩ := h
        exact .inr (.inr (.inl ⟨_, .lengthValue text, read, hread, rfl⟩))
    | name text =>
        -- a name inside of a column is a maximum length or an error
        simp only [stepColumn] at h
        split at h
        · next hdigits =>
            simp only [map_eq_ok_iff, lift_eq_ok_iff] at h
            obtain ⟨read, hread, rfl⟩ := h
            exact .inr (.inr (.inl ⟨_, .lengthName text hdigits, read, hread, rfl⟩))
        · simp at h
    | foreignKey =>
        simp only [stepColumn, map_eq_ok_iff, lift_eq_ok_iff, before_foreign_key_iff] at h
        obtain ⟨_, ⟨hkey, rfl⟩, rfl⟩ := h
        exact .inr (.inr (.inr (.inl ⟨rfl, hkey, rfl⟩)))
    | default => exact .inr (.inr (.inr (.inr ⟨rfl, (Except.ok.inj h).symm⟩)))
    | reference | openTable => simp [stepColumn] at h
  · rintro (⟨rfl | rfl, column, hfinish, rfl⟩ | ⟨rfl, column, hfinish, rfl⟩ |
      ⟨item, hitem, read, hread, rfl⟩ | ⟨rfl, hkey, rfl⟩ | ⟨rfl, rfl⟩)
    · simp [stepColumn, map_eq_ok_iff, lift_eq_ok_iff, hfinish]
    · simp [stepColumn, map_eq_ok_iff, lift_eq_ok_iff, hfinish]
    · simp [stepColumn, map_eq_ok_iff, lift_eq_ok_iff, hfinish]
    · cases hitem <;> simp_all [stepColumn, map_eq_ok_iff, lift_eq_ok_iff, Item.read]
    · simp [stepColumn, map_eq_ok_iff, lift_eq_ok_iff, before_foreign_key_iff, hkey]
    · rfl

/-- Behind the beginning of a foreign key the parser accepts a reference. -/
theorem step_reference_iff :
    stepReference schema table draft token = .ok phase ↔
      ∃ target column, token = .reference target column ∧
        phase = .column table (draft.withForeignKey (.ofNames schema target column)) := by
  cases token <;> simp [stepReference, eq_comm]

/-- Behind the beginning of a default value the parser accepts a bracketed value. -/
theorem step_default_iff :
    stepDefault table draft token = .ok phase ↔
      ∃ text, token = .value text ∧ phase = .column table (draft.withDefault text) := by
  cases token <;> simp [stepDefault, eq_comm]

end Schemata.Definition
