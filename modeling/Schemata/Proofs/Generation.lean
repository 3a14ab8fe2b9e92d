import Schemata.Proofs.Definition.Faults
import Schemata.Proofs.Host.Success

/-!
# When a batch is generated

A batch is generated exactly if every text parses and every table is well formed: each of its
columns can be written into the database, and exactly one of them is the primary key. Otherwise the
first fault is reported, and `generate_outcome` says which one is the first. A text that does not
parse comes before all tables, also those of earlier texts; among the tables the first one that is
not well formed counts, and in it a column comes before the key. Nothing else fails.
-/

namespace Schemata

open Error (liftSemantic)

variable {settings : Settings} {texts : List String} {table : Table} {column : Column}
  {error : Error}

/-! ## Well-formed tables and their faults -/

/-- The column can be written into the database: if its values are generated they are integers or
unique identifiers, and if it has a default value there is an expression for it. -/
structure Column.WellFormed (column : Column) : Prop where
  generated : column.autoGenerate = true → column.dataType = .int ∨ column.dataType = .guid
  default : column.defaultValue.isSome = true →
    ∃ expression, column.defaultExpression = .ok expression

/-- The errors of a column that is not well formed. -/
inductive Column.Fails (column : Column) : Error → Prop where
  | generated : column.autoGenerate = true → column.dataType ≠ .int → column.dataType ≠ .guid →
      Fails column (.unsupported (.autoGenerateType column.name column.dataType))
  | default {cause : Error} : column.defaultValue.isSome = true →
      column.defaultExpression = .error cause → Fails column cause

/-- The columns of the table that are marked as primary keys. -/
def Table.keys (table : Table) : List Column :=
  table.columns.filter (·.primaryKey)

/-- The columns of the table are well formed and exactly one of them is the primary key. -/
structure Table.WellFormed (table : Table) : Prop where
  columns : ∀ column ∈ table.columns, column.WellFormed
  key : table.keys.length = 1

/-- The errors of a table that is not well formed. The first column that fails is reported, and only
if none does, the number of keys is. -/
inductive Table.Fails (table : Table) : Error → Prop where
  | column {cause : Error} : FirstFailure Column.Fails table.columns cause → Fails table cause
  | missingKey : (∀ column ∈ table.columns, column.WellFormed) → table.keys = [] →
      Fails table (.semantic (.missingPrimaryKey table.qualifiedName))
  | severalKeys {first second : Column} {others : List Column} :
      (∀ column ∈ table.columns, column.WellFormed) →
      table.keys = first :: second :: others →
      Fails table
        (.semantic (.multiplePrimaryKeys table.qualifiedName first.name second.name))

/-! ## Columns -/

/-- The clause of a generated key has no form for most data types. -/
theorem generated_clause_error_iff :
    Storage.generatedClause column = .error error ↔
      column.autoGenerate = true ∧ column.dataType ≠ .int ∧ column.dataType ≠ .guid ∧
        error = .unsupported (.autoGenerateType column.name column.dataType) := by
  unfold Storage.generatedClause
  cases column.autoGenerate with
  | false => simp
  | true => cases column.dataType <;> simp [eq_comm]

/-- The clause of a default value fails as the expression does. -/
theorem default_clause_error_iff :
    Storage.defaultClause column = .error error ↔
      column.defaultValue.isSome = true ∧ column.defaultExpression = .error error := by
  unfold Storage.defaultClause
  split
  · next hdefault => simp [hdefault, map_eq_error_iff]
  · next hdefault => simp [hdefault]

/-- The line of a column fails with the errors of the column. -/
theorem column_definition_error_iff :
    Storage.columnDefinition column = .error error ↔ column.Fails error := by
  simp only [Storage.columnDefinition, bind_eq_error_iff, generated_clause_error_iff,
    default_clause_error_iff]
  constructor
  · rintro (⟨hgenerated, hint, hguid, rfl⟩ | ⟨_, -, ⟨hdefault, hcause⟩ | ⟨_, -, hpure⟩⟩)
    · exact .generated hgenerated hint hguid
    · exact .default hdefault hcause
    · cases hpure
  · rintro (⟨hgenerated, hint, hguid⟩ | ⟨hdefault, hcause⟩)
    · exact .inl ⟨hgenerated, hint, hguid, rfl⟩
    · -- a column with a default value is not generated, so the first clause cannot fail
      have hgenerated : column.autoGenerate = false := by
        have hsound := column.sound
        unfold Modifiers.conflict? at hsound
        cases hauto : column.autoGenerate with
        | false => rfl
        | true => grind
      exact .inr ⟨"", by simp [Storage.generatedClause, hgenerated], .inl ⟨hdefault, hcause⟩⟩

/-- A column fails exactly if it is not well formed. -/
theorem column_well_formed_iff : column.WellFormed ↔ ∀ cause, ¬ column.Fails cause := by
  constructor
  · rintro ⟨hgenerated, hdefault⟩ cause (⟨hauto, hint, hguid⟩ | ⟨hsome, hcause⟩)
    · rcases hgenerated hauto with htype | htype
      · exact hint htype
      · exact hguid htype
    · obtain ⟨expression, hok⟩ := hdefault hsome
      rw [hok] at hcause
      cases hcause
  · intro h
    refine ⟨fun hauto => ?_, fun hsome => ?_⟩
    · by_contra htype
      rw [not_or] at htype
      exact h _ (.generated hauto htype.1 htype.2)
    · exact exists_ok_iff.2 fun cause hcause => h cause (.default hsome hcause)

/-! ## Tables -/

/-- The creation of a table fails with the error of the first column that fails. -/
theorem create_table_error_iff :
    Storage.createTable settings table = .error error ↔
      FirstFailure Column.Fails table.columns error := by
  have hfails : (fun column cause => Storage.columnDefinition column = .error cause) =
      Column.Fails := by
    funext column cause
    exact propext column_definition_error_iff
  rw [← hfails, ← map_m_eq_error_iff, Storage.createTable, bind_eq_error_iff, or_iff_left]
  rintro ⟨_, -, hpure⟩
  cases hpure

/-- The creation of a table succeeds exactly if all of its columns are well formed. -/
theorem create_table_ok_iff :
    (∃ creation, Storage.createTable settings table = .ok creation) ↔
      ∀ column ∈ table.columns, column.WellFormed := by
  rw [exists_ok_iff]
  simp only [ne_eq, create_table_error_iff, no_first_failure_iff, column_well_formed_iff]

/-- A table has no primary key to offer if no column or more than one is marked as such. -/
theorem require_primary_key_error_iff {cause : SemanticError} :
    table.requirePrimaryKey = .error cause ↔
      (table.keys = [] ∧ cause = .missingPrimaryKey table.qualifiedName) ∨
      ∃ first second others, table.keys = first :: second :: others ∧
        cause = .multiplePrimaryKeys table.qualifiedName first.name second.name := by
  unfold Table.requirePrimaryKey Table.primaryKey? Table.keys
  rw [bind_eq_error_iff]
  split
  · next hnone => simp [hnone, eq_comm]
  · next only hone => simp [hone, pure, Except.pure]
  · next first second others hmany => simp [hmany, eq_comm]

/-- The statements of a table need its creation, then its key, and nothing else. -/
theorem statements_cases (settings : Settings) (table : Table) :
    (∃ cause, Storage.createTable settings table = .error cause ∧
      Storage.Statements.ofTable settings table = .error cause) ∨
    (∃ creation fault, Storage.createTable settings table = .ok creation ∧
      table.requirePrimaryKey = .error fault ∧
      Storage.Statements.ofTable settings table = .error (.semantic fault)) ∨
    ∃ creation key statements, Storage.createTable settings table = .ok creation ∧
      table.requirePrimaryKey = .ok key ∧
      Storage.Statements.ofTable settings table = .ok statements := by
  cases hcreation : Storage.createTable settings table with
  | error cause =>
      refine .inl ⟨cause, rfl, ?_⟩
      rw [Storage.Statements.ofTable, hcreation]
      rfl
  | ok creation =>
      cases hkey : table.requirePrimaryKey with
      | error fault =>
          refine .inr (.inl ⟨creation, fault, rfl, rfl, ?_⟩)
          rw [Storage.Statements.ofTable, hcreation, Storage.selectByKey, hkey]
          rfl
      | ok key =>
          have hsome : table.primaryKey? = .ok (some key) := by
            rw [Table.primaryKey?, require_primary_key_iff.1 hkey]
          refine .inr (.inr ⟨creation, key, ?_⟩)
          rw [Storage.Statements.ofTable, hcreation, Storage.selectByKey, Storage.deleteByKey,
            Storage.insert, Storage.update, hkey, hsome]
          exact ⟨_, rfl, rfl, rfl⟩

/-- The errors of a table are those of its creation and, if that succeeds, those of its key. -/
theorem table_fails_iff (settings : Settings) :
    table.Fails error ↔
      Storage.createTable settings table = .error error ∨
        (∃ creation, Storage.createTable settings table = .ok creation) ∧
          ∃ fault, table.requirePrimaryKey = .error fault ∧ .semantic fault = error := by
  rw [create_table_error_iff, create_table_ok_iff]
  simp only [require_primary_key_error_iff]
  constructor
  · rintro (hcolumn | ⟨hcolumns, hkeys⟩ | ⟨hcolumns, hkeys⟩)
    · exact .inl hcolumn
    · exact .inr ⟨hcolumns, _, .inl ⟨hkeys, rfl⟩, rfl⟩
    · exact .inr ⟨hcolumns, _, .inr ⟨_, _, _, hkeys, rfl⟩, rfl⟩
  · rintro (hcolumn | ⟨hcolumns, fault, ⟨hkeys, rfl⟩ | ⟨_, _, _, hkeys, rfl⟩, rfl⟩)
    · exact .column hcolumn
    · exact .missingKey hcolumns hkeys
    · exact .severalKeys hcolumns hkeys

/-- The statements of a table fail exactly with the errors of the table. -/
theorem statements_error_iff :
    Storage.Statements.ofTable settings table = .error error ↔ table.Fails error := by
  rw [table_fails_iff settings]
  rcases statements_cases settings table with ⟨cause, hcreation, heq⟩ |
    ⟨creation, fault, hcreation, hkey, heq⟩ | ⟨creation, key, statements, hcreation, hkey, heq⟩
  · simp [heq, hcreation]
  · simp [heq, hcreation, hkey]
  · simp [heq, hcreation, hkey]

/-- A table fails exactly if it is not well formed. -/
theorem table_well_formed_iff : table.WellFormed ↔ ∀ cause, ¬ table.Fails cause := by
  constructor
  · rintro ⟨hcolumns, hlength⟩ cause (hcolumn | ⟨-, hkeys⟩ | ⟨-, hkeys⟩)
    · have hfails := fun column hmem => column_well_formed_iff.1 (hcolumns column hmem)
      exact no_first_failure_iff.2 hfails cause hcolumn
    · simp [hkeys] at hlength
    · simp [hkeys] at hlength
  · intro h
    have hcolumns : ∀ column ∈ table.columns, column.WellFormed := by
      simp only [column_well_formed_iff]
      exact no_first_failure_iff.1 fun cause hcause => h cause (.column hcause)
    refine ⟨hcolumns, ?_⟩
    match hkeys : table.keys with
    | [] => exact absurd (.missingKey hcolumns hkeys) (h _)
    | [_] => rfl
    | first :: second :: others => exact absurd (.severalKeys hcolumns hkeys) (h _)

/-- The classes of a table are generated whenever its statements are. -/
theorem classes_ok {statements : Storage.Statements}
    (h : Storage.Statements.ofTable settings table = .ok statements) :
    ∃ record repository, Host.record settings statements = .ok record ∧
      Host.repository settings statements record = .ok repository :=
  ⟨_, _, Host.record_eq settings statements,
    Host.repository_eq (statements_of_table h).2 _⟩

/-- The bundle of a table fails exactly with the errors of the table. -/
theorem bundle_error_iff : Bundle.ofTable settings table = .error error ↔ table.Fails error := by
  rw [Bundle.ofTable, bind_eq_error_iff, statements_error_iff, or_iff_left]
  rintro ⟨statements, hstatements, hclasses⟩
  obtain ⟨record, repository, hrecord, hrepository⟩ := classes_ok hstatements
  simp only [hrecord, hrepository, bind, Except.bind, pure, Except.pure] at hclasses
  cases hclasses

/-- A table fails with an error about its declaration: its default values are there, and every
parameter has a column. -/
theorem table_fails_known (h : table.Fails error) :
    (∀ label parameter, error ≠ .semantic (.unknownParameter label parameter)) ∧
      ∀ column, error ≠ .semantic (.noDefaultValue column) := by
  cases h with
  | missingKey | severalKeys => simp
  | column hfirst =>
      obtain ⟨before, column, after, -, -, hfails⟩ := hfirst
      cases hfails with
      | generated => simp
      | default hsome hcause =>
          unfold Column.defaultExpression at hcause
          split at hcause
          · next hnone => simp [hnone] at hsome
          · split at hcause
            · cases hcause
              simp
            · split at hcause <;> cases hcause
              simp

/-! ## Batches -/

/-- `Parsed settings texts tables` says that each text of a batch parses, and which tables it
declares. -/
def Parsed (settings : Settings) (texts : List String) (tables : List (List Table)) : Prop :=
  List.Forall₂ (fun text found => Definition.parse settings.defaultSchema text = .ok found)
    texts tables

/-- The error of a text that does not parse. -/
def Unparsed (settings : Settings) (text : String) (error : Error) : Prop :=
  Definition.parse settings.defaultSchema text = .error error

/-- All texts parse exactly if none of them fails. -/
theorem exists_parsed_iff :
    (∃ tables, Parsed settings texts tables) ↔
      ∀ cause, ¬ FirstFailure (Unparsed settings) texts cause := by
  have hparse : (∃ tables, texts.mapM (Definition.parse settings.defaultSchema) = .ok tables) ↔ _ :=
    exists_ok_iff
  simp only [map_m_eq_ok_iff, ne_eq, map_m_eq_error_iff] at hparse
  exact hparse

/-- A batch fails with the error of the first text that does not parse, or if all texts parse, with
the error of the first table that is not well formed. -/
theorem generate_error_iff :
    generate settings texts = .error error ↔
      FirstFailure (Unparsed settings) texts error ∨
      ∃ tables, Parsed settings texts tables ∧
        FirstFailure Table.Fails tables.flatten error := by
  have hfails : (fun table cause => Bundle.ofTable settings table = .error cause) =
      Table.Fails := by
    funext table cause
    exact propext bundle_error_iff
  rw [generate, bind_eq_error_iff, map_m_eq_error_iff]
  simp only [map_m_eq_ok_iff, map_m_eq_error_iff, hfails]
  rfl

/-- A batch is generated exactly if all texts parse and all tables are well formed. -/
theorem generate_ok_iff :
    (∃ bundles, generate settings texts = .ok bundles) ↔
      ∃ tables, Parsed settings texts tables ∧ ∀ table ∈ tables.flatten, table.WellFormed := by
  rw [exists_ok_iff]
  simp only [ne_eq, generate_error_iff, not_or, not_exists, not_and, forall_and]
  rw [← exists_parsed_iff]
  constructor
  · rintro ⟨⟨tables, hparsed⟩, hfails⟩
    refine ⟨tables, hparsed, ?_⟩
    simp only [table_well_formed_iff]
    exact no_first_failure_iff.1 fun cause => hfails cause tables hparsed
  · rintro ⟨tables, hparsed, hformed⟩
    refine ⟨⟨tables, hparsed⟩, fun cause other hother => ?_⟩
    -- a batch parses to one list of tables only
    have hsame : tables = other :=
      Except.ok.inj ((map_m_eq_ok_iff.2 hparsed).symm.trans (map_m_eq_ok_iff.2 hother))
    subst hsame
    simp only [table_well_formed_iff] at hformed
    exact no_first_failure_iff.2 hformed cause

/-- The bundles of a batch are those of its tables, in order, under the names of their classes. -/
theorem generate_bundles {bundles : List Bundle} (h : generate settings texts = .ok bundles) :
    ∃ tables, Parsed settings texts tables ∧
      List.Forall₂ (fun table bundle => Bundle.ofTable settings table = .ok bundle ∧
        bundle.objectName = table.className ∧ bundle.statements.table = table)
        tables.flatten bundles := by
  obtain ⟨tables, hparsed, hbundles⟩ := bind_eq_ok_iff.1 h
  refine ⟨tables, map_m_eq_ok_iff.1 hparsed, (map_m_eq_ok_iff.1 hbundles).imp ?_⟩
  intro table bundle hok
  exact ⟨hok, (bundle_names hok).1, (bundle_of_table hok).1⟩

/-- No batch fails with an error that would be a fault of the generator itself. -/
theorem generate_error_known (h : generate settings texts = .error error) :
    (∀ label parameter, error ≠ .semantic (.unknownParameter label parameter)) ∧
      ∀ column, error ≠ .semantic (.noDefaultValue column) := by
  rcases generate_error_iff.1 h with htext | ⟨tables, -, htable⟩
  · obtain ⟨_, text, _, -, -, hparse⟩ := htext
    constructor
    · rintro label parameter rfl
      cases Definition.parse_error_reading hparse
    · rintro column rfl
      cases Definition.parse_error_reading hparse
  · obtain ⟨_, table, _, -, -, hfails⟩ := htable
    exact table_fails_known hfails

/-- A batch is generated exactly if every text parses and every table is well formed, and then it
has one bundle for each table, in order and under the name of its class. Otherwise the first text
that does not parse is reported, and if all do, the first table that is not well formed. Unknown
parameters and missing default values are never reported, and the classes of a table are generated
whenever its statements are. -/
theorem generate_outcome (settings : Settings) (texts : List String) :
    ((∃ bundles, generate settings texts = .ok bundles) ↔
      ∃ tables, Parsed settings texts tables ∧ ∀ table ∈ tables.flatten, table.WellFormed) ∧
    (∀ bundles, generate settings texts = .ok bundles →
      ∃ tables, Parsed settings texts tables ∧
        List.Forall₂ (fun table bundle => Bundle.ofTable settings table = .ok bundle ∧
          bundle.objectName = table.className ∧ bundle.statements.table = table)
          tables.flatten bundles) ∧
    (∀ error, generate settings texts = .error error ↔
      FirstFailure (Unparsed settings) texts error ∨
      ∃ tables, Parsed settings texts tables ∧ FirstFailure Table.Fails tables.flatten error) ∧
    (∀ label parameter,
      generate settings texts ≠ .error (.semantic (.unknownParameter label parameter))) ∧
    (∀ column, generate settings texts ≠ .error (.semantic (.noDefaultValue column))) ∧
    (∀ table statements, Storage.Statements.ofTable settings table = .ok statements →
      ∃ record repository, Host.record settings statements = .ok record ∧
        Host.repository settings statements record = .ok repository) := by
  refine ⟨generate_ok_iff, fun _ => generate_bundles, fun _ => generate_error_iff, ?_, ?_,
    fun _ _ => classes_ok⟩
  · intro label parameter h
    exact (generate_error_known h).1 label parameter rfl
  · intro column h
    exact (generate_error_known h).2 column rfl

end Schemata
