import Schemata.Proofs.Host.Columns
import Schemata.Proofs.Host.Literals
import Schemata.Proofs.Script.Brackets

/-!
# Generated classes are bracketed

The files of the record and of the repository of a table are put together from fixed texts, names
and statements. Names have no marks: those of a definition are made of letters, numerals,
underscores and hyphens, and those of the settings are assumed to have none. The statements that a
repository embeds have parentheses only around the columns and the values of an insertion. So by
`classes_bracketed` the braces and the parentheses of both files match, and their double quotes come
in pairs, whatever columns the table has.
-/

namespace Schemata

open Text

/-- The namespaces, the suffix of repositories and the default schema have no braces, parentheses or
double quotes. -/
structure Settings.Unmarked (settings : Settings) : Prop where
  classNamespace : marks settings.classNamespace = []
  repositoryNamespace : ∀ space ∈ settings.repositoryNamespace, marks space = []
  repositorySuffix : marks settings.repositorySuffix = []
  defaultSchema : marks settings.defaultSchema = []

/-! ## Names -/

/-- A mark is punctuation. -/
theorem punctuation_of_mark {c : Char} (h : isMark c = true) :
    isWordChar c = false ∧ isStorageChar c = false ∧ isPlain c = false ∧ c.isDigit = false := by
  have hcases : (((c = '\x7b' ∨ c = '\x7d') ∨ c = '(') ∨ c = ')') ∨ c = '"' := by
    simpa [isMark] using h
  rcases hcases with (((rfl | rfl) | rfl) | rfl) | rfl <;> decide

/-- A text of the characters of storage names has no marks. -/
theorem IsStorage.marks_eq {text : String} (h : IsStorage text) : marks text = [] :=
  marks_eq_nil_iff.2 fun _ hc => h.not_mem (punctuation_of_mark hc).2.1

/-- A text of plain characters has no marks. -/
theorem IsPlainText.marks_eq {text : String} (h : IsPlainText text) : marks text = [] :=
  marks_eq_nil_iff.2 fun _ hc => h.not_mem (punctuation_of_mark hc).2.2.1

/-- The schema of a parsed table has no marks if the default schema has none. -/
theorem marks_parsed_schema {schema text : String} {tables : List Table} {table : Table}
    (hschema : marks schema = []) (h : Definition.parse schema text = .ok tables)
    (htable : table ∈ tables) : marks table.schema = [] := by
  rw [marks_eq_nil_iff] at hschema ⊢
  intro c hc hmem
  exact hschema c hc (Definition.mem_parsed_schema h htable (punctuation_of_mark hc).1 hmem)

/-- One level of indentation has no marks. -/
theorem marks_indent_unit (settings : Settings) : marks settings.indentUnit = [] := by
  rw [marks_eq_nil_iff]
  intro c hc hmem
  rcases mem_indentation hmem with rfl | rfl <;> exact absurd hc (by decide)

/-- A number has no marks. -/
theorem marks_number (number : Nat) : marks (toString number) = [] := by
  rw [marks_eq_nil_iff]
  intro c hc hmem
  have hdigits : c ∈ Nat.toDigits 10 number := by simpa using hmem
  have hdigit := Nat.isDigit_of_mem_toDigits (by decide) (by decide) hdigits
  rw [(punctuation_of_mark hc).2.2.2] at hdigit
  cases hdigit

/-! ## Statements -/

namespace Storage

/-- A text that can be put in double quotes and parentheses: it has no double quotes itself, and it
is bracketed. -/
structure Embeddable (sql : String) : Prop where
  quotes : '"' ∉ marks sql
  bracketed : Bracketed (marks sql)

/-- A text without marks can be embedded. -/
theorem Embeddable.of_unmarked {sql : String} (h : marks sql = []) : Embeddable sql := by
  constructor <;> rw [h] <;> decide

section Statements

variable {table : Table} {column : Column} {columns : List Column}

/-- A list of columns has no marks. -/
theorem marks_column_list (h : ∀ column ∈ columns, column.Worded) :
    marks (columnList columns) = [] := by
  rw [columnList, marks_intercalate (by decide), List.flatMap_map, List.flatMap_eq_nil_iff]
  exact fun column hmem => (h column hmem).name.marks_eq

/-- The place of a parameter has no marks. -/
theorem marks_placeholder (h : column.Worded) : marks (placeholder column) = [] := by
  rw [placeholder, marks_append, h.camelName.marks_eq]
  decide

/-- The binding of a column has no marks. -/
theorem marks_binding (h : column.Worded) : marks (binding column) = [] := by
  simp only [binding, marks_append, h.name.marks_eq, marks_placeholder h]
  decide

variable (hworded : table.Worded) (hschema : marks table.schema = [])

include hworded

/-- An insertion has two pairs of parentheses, or none. -/
theorem marks_inserted_values :
    marks (insertedValues table) = [] ∨ marks (insertedValues table) = ['(', ')', '(', ')'] := by
  have hsupplied : ∀ column ∈ suppliedColumns table, column.Worded := fun column hmem =>
    hworded.columns column (List.mem_filter.1 hmem).1
  have hplaces : marks (", ".intercalate ((suppliedColumns table).map placeholder)) = [] := by
    rw [marks_intercalate (by decide), List.flatMap_map, List.flatMap_eq_nil_iff]
    exact fun column hmem => marks_placeholder (hsupplied column hmem)
  unfold insertedValues
  split
  · exact .inl (by decide)
  · refine .inr ?_
    simp only [marks_append, marks_column_list hsupplied, hplaces]
    decide

/-- The assignments of an update have no marks. -/
theorem marks_assignments {key : Column} (hkey : key.Worded) :
    marks (assignments table key) = [] := by
  unfold assignments
  split
  · simp only [marks_append, hkey.name.marks_eq]
    decide
  · rw [marks_intercalate (by decide), List.flatMap_map, List.flatMap_eq_nil_iff]
    exact fun column hmem => marks_binding (hworded.columns column (List.mem_filter.1 hmem).1)

include hschema

/-- The qualified name of a table has no marks. -/
theorem marks_qualified_name : marks table.qualifiedName = [] := by
  simp only [Table.qualifiedName, marks_append, hschema, hworded.name.marks_eq]
  decide

/-- A selection has no marks. -/
theorem marks_selection : marks (selection table) = [] := by
  simp only [selection, marks_append, marks_column_list hworded.columns,
    marks_qualified_name hworded hschema]
  decide

end Statements

/-- The generated statements that read and change rows can be embedded. -/
theorem statements_embeddable {settings : Settings} {statements : Statements}
    (hworded : statements.table.Worded) (hschema : marks statements.table.schema = [])
    (h : statements.Generated settings) :
    ∀ sql ∈ [statements.selectAll, statements.selectByKey.sql, statements.deleteByKey.sql,
      statements.insert.sql, statements.update.sql], Embeddable sql := by
  have hname := marks_qualified_name hworded hschema
  have hselection := marks_selection hworded hschema
  have hlist := marks_column_list hworded.columns
  obtain ⟨key, hkey, hselect⟩ := bind_eq_ok_iff.1 h.selectByKey
  obtain ⟨key', hkey', hdelete⟩ := bind_eq_ok_iff.1 h.deleteByKey
  obtain ⟨_, -, hinsert⟩ := bind_eq_ok_iff.1 h.insert
  obtain ⟨key'', hkey'', hupdate⟩ := bind_eq_ok_iff.1 h.update
  cases hkey.symm.trans hkey'
  cases hkey.symm.trans hkey''
  have hbinding := marks_binding (hworded.columns key (primary_key_mem hkey).1)
  have hassignments := marks_assignments hworded (hworded.columns key (primary_key_mem hkey).1)
  rw [h.selectAll, ← Except.ok.inj hselect, ← Except.ok.inj hdelete, ← Except.ok.inj hinsert,
    ← Except.ok.inj hupdate]
  simp only [List.forall_mem_cons]
  refine ⟨.of_unmarked ?_, .of_unmarked ?_, .of_unmarked ?_, ?_, .of_unmarked ?_, by simp⟩
  · simp only [selectAll, marks_append, hselection]
    decide
  · simp only [marks_append, hselection, hbinding]
    decide
  · simp only [marks_append, hname, hbinding]
    decide
  · -- only an insertion has marks
    rcases marks_inserted_values hworded with hvalues | hvalues <;> constructor <;>
      simp only [marks_append, hname, hlist, hvalues] <;> decide
  · simp only [marks_append, hname, hbinding, hassignments, hlist]
    decide

end Storage

namespace Host

open Storage (Embeddable Statement Statements)

/-- The names that the methods of the repository write have no marks, and the statements that they
send can be embedded. -/
structure Repository.Unmarked (repository : Repository) : Prop where
  recordType : marks repository.recordType = []
  recordClass : IsPlainText repository.recordClass
  argument : marks repository.argument = []
  field : marks repository.field = []
  columns : ∀ column ∈ repository.statements.table.columns, column.Worded
  statements : ∀ sql ∈ [repository.statements.selectAll, repository.statements.selectByKey.sql,
    repository.statements.deleteByKey.sql, repository.statements.insert.sql,
    repository.statements.update.sql], Embeddable sql

/-! ## Expressions -/

/-- The argument for a name of plain characters has no marks. -/
theorem marks_argument_name {name : String} (h : IsPlainText name) :
    marks (argumentName name) = [] := by
  unfold argumentName escapeIdentifier
  split
  · rw [marks_append, h.marks_eq]
    decide
  · split
    · rw [marks_append, h.marks_eq]
      decide
    · exact h.marks_eq

/-- The class by which others refer to a record has no marks. -/
theorem marks_qualified_class_name {space className : String} (hspace : marks space = [])
    (hclass : marks className = []) : marks (qualifiedClassName space className) = [] := by
  unfold qualifiedClassName
  split
  · simp only [marks_append, hspace, hclass]
    decide
  · exact hclass

/-- The types of fields have no marks. -/
theorem marks_field_type (nullable : Bool) (type : DataType) :
    marks (fieldType nullable type) = [] := by
  cases nullable <;> cases type <;> decide

/-- The methods that read values have no marks. -/
theorem marks_reader_method (type : DataType) : marks (readerMethod type) = [] := by
  cases type <;> decide

/-- The declaration of the argument that holds a key has no marks. -/
theorem marks_key_argument {key : Column} (h : key.Worded) :
    marks (Repository.keyArgument key) = [] := by
  have htype := marks_field_type false key.dataType
  rw [fieldType, Bool.false_and, if_neg Bool.false_ne_true] at htype
  rw [Repository.keyArgument, marks_append, marks_append, htype, marks_argument_name h.camelName]
  decide

/-- The expression that reads a column is bracketed. -/
theorem read_expression_bracketed (column : Column) (position : Nat) :
    Bracketed (marks (Repository.readExpression column position)) := by
  unfold Repository.readExpression
  split
  · simp only [marks_append, marks_number, marks_field_type, marks_reader_method]
    decide
  · simp only [marks_append, marks_number, marks_reader_method]
    decide

/-- The text of a statement without double quotes keeps its marks in a verbatim literal. -/
theorem marks_verbatim {sql : String} (h : Embeddable sql) :
    marks (Repository.verbatim sql) = marks sql := by
  have hquote : '"' ∉ sql.toList := fun hmem => h.quotes (List.mem_filter.2 ⟨hmem, rfl⟩)
  rw [marks, verbatim_chars, verbatim_chars_eq hquote, marks]

/-! ## Methods -/

section Methods

open Repository

variable {repository : Repository} {body : Script}

/-- The command that holds a statement is bracketed. -/
theorem command_bracketed {sql : String} (h : Embeddable sql) : (commandFor sql).Bracketed := by
  -- the code around the statement opens the call and the literal, and closes both
  show Bracketed (['(', '"'] ++ marks (verbatim sql) ++ ['"', ')'])
  rw [marks_verbatim h]
  exact h.bracketed.called

/-- The line that binds a parameter is bracketed. -/
theorem bind_line_bracketed {parameter value : String} (hparameter : marks parameter = [])
    (hvalue : marks value = [] ∨ marks value = ['(', ')']) :
    (bindLine parameter value).Bracketed := by
  show Bracketed (marks _)
  rcases hvalue with hvalue | hvalue <;>
    simp only [marks_append, hparameter, hvalue] <;> decide

/-- The line that binds a key is bracketed. -/
theorem bind_key_bracketed {key : Column} (h : key.Worded) : (bindKey key).Bracketed :=
  bind_line_bracketed h.camelName.marks_eq (.inl (marks_argument_name h.camelName))

/-- The reading of at most one row is bracketed. -/
theorem read_single_bracketed : Script.Bracketed readSingle := by
  simp only [readSingle, Repository.withReader, braced, Script.Bracketed, Command.Bracketed]
  decide

variable (h : repository.Unmarked)

include h

/-- A script with an open connection is bracketed if the script is. -/
theorem with_connection_bracketed (hbody : Script.Bracketed body) :
    (repository.withConnection body).Bracketed := by
  refine ⟨?_, Script.bracketed_append.2 ⟨?_, hbody⟩⟩
  · simp only [marks_append, h.field]
    decide
  · simp only [Script.Bracketed, Command.Bracketed]
    decide

/-- The value of a record for a column has one pair of parentheses, or none. -/
theorem marks_record_value {column : Column} (hcolumn : column.Worded) :
    marks (repository.recordValue column) = [] ∨
      marks (repository.recordValue column) = ['(', ')'] := by
  have hproperty := (property_name_plain h.recordClass hcolumn).marks_eq
  unfold recordValue
  split
  · refine .inr ?_
    simp only [marks_append, h.argument, hproperty]
    decide
  · refine .inl ?_
    simp only [marks_append, h.argument, hproperty]
    decide

/-- The line that binds a parameter of a statement is bracketed. -/
theorem bind_parameter_bracketed (parameter : String) :
    (repository.bindParameter parameter).Bracketed := by
  unfold bindParameter
  split
  · next column hfound =>
      obtain ⟨hmem, rfl⟩ := column_for_sound hfound
      have hcolumn := h.columns column hmem
      exact bind_line_bracketed hcolumn.camelName.marks_eq (marks_record_value h hcolumn)
  · trivial

/-- The lines that bind the parameters of a statement are bracketed. -/
theorem bind_record_bracketed (statement : Statement) :
    Script.Bracketed (repository.bindRecord statement) := by
  unfold bindRecord
  split
  · trivial
  · refine ⟨trivial, Script.bracketed_iff.2 fun command hcommand => ?_⟩
    obtain ⟨parameter, -, rfl⟩ := List.mem_map.1 hcommand
    exact bind_parameter_bracketed h parameter

/-- The constructor is bracketed. -/
theorem constructor_bracketed {className : String} (hclass : marks className = [])
    (naming : FieldNaming) : Script.Bracketed (repository.constructor className naming) := by
  cases naming <;>
    simp only [Repository.constructor, braced, Script.Bracketed, Command.Bracketed, marks_append,
      hclass, h.field] <;> decide

/-- The method that reads all rows is bracketed. -/
theorem get_all_bracketed : Script.Bracketed repository.getAll := by
  have hcommand := command_bracketed (h.statements repository.statements.selectAll (by simp))
  refine ⟨⟨?_, with_connection_bracketed h ⟨hcommand, ?_⟩, trivial⟩, trivial⟩
  · simp only [marks_append, h.recordType]
    decide
  · simp only [Repository.withReader, braced, Script.Bracketed, Command.Bracketed, marks_append,
      h.recordType]
    decide

/-- A method that stores a record is bracketed. -/
theorem persist_bracketed {method : String} (hmethod : marks method = []) {statement : Statement}
    (hsql : Embeddable statement.sql) :
    Script.Bracketed (repository.persist method statement) := by
  refine ⟨⟨?_, with_connection_bracketed h ?_, trivial⟩, trivial⟩
  · simp only [marks_append, h.recordType, h.argument, hmethod]
    decide
  · simp only [Script.bracketed_append]
    exact ⟨⟨⟨⟨command_bracketed hsql, trivial⟩, bind_record_bracketed h statement⟩, trivial,
      trivial⟩, read_single_bracketed⟩

/-- The assignment of a property is bracketed. -/
theorem assignment_bracketed {column : Column} (hcolumn : column.Worded) (position : Nat) :
    Bracketed (marks (repository.assignment column position)) := by
  have hproperty := (property_name_plain h.recordClass hcolumn).marks_eq
  rw [assignment, marks_append, marks_append, hproperty, show marks " = " = [] by decide]
  exact read_expression_bracketed column position

/-- The method that turns a row into a record is bracketed. -/
theorem get_current_bracketed : Script.Bracketed repository.getCurrent := by
  refine ⟨⟨?_, ⟨?_, Script.bracketed_iff.2 fun command hcommand => ?_⟩, trivial⟩, trivial⟩
  · simp only [marks_append, h.recordType]
    decide
  · simp only [marks_append, h.recordType]
    decide
  · obtain ⟨text, htext, rfl⟩ := List.mem_map.1 hcommand
    obtain ⟨item, hitem, htext⟩ := mem_separated htext
    obtain ⟨⟨column, position⟩, hentry, rfl⟩ := List.mem_map.1 hitem
    have hcolumn := h.columns column (List.fst_mem_of_mem_zipIdx hentry)
    have hassignment := assignment_bracketed h hcolumn position
    show Bracketed (marks text)
    rcases htext with rfl | rfl
    · exact hassignment
    · rw [marks_append, show marks "," = [] by decide, List.append_nil]
      exact hassignment

variable {key : Column} (hkey : repository.key = .ok key)

include hkey

/-- The methods that find a row by its key are bracketed. -/
theorem by_key_bracketed :
    Script.Bracketed repository.get ∧ Script.Bracketed repository.delete := by
  have hworded := h.columns key (primary_key_mem (lift_eq_ok_iff.1 hkey)).1
  have hargument := marks_key_argument hworded
  have hbind := bind_key_bracketed hworded
  have hselect := command_bracketed
    (h.statements repository.statements.selectByKey.sql (by simp))
  have hdelete := command_bracketed
    (h.statements repository.statements.deleteByKey.sql (by simp))
  rw [get_eq hkey, delete_eq hkey]
  refine ⟨⟨⟨?_, with_connection_bracketed h ?_, trivial⟩, trivial⟩,
    ⟨?_, with_connection_bracketed h ?_, trivial⟩, trivial⟩
  · simp only [marks_append, h.recordType, hargument]
    decide
  · exact ⟨hselect, trivial, hbind, trivial, read_single_bracketed⟩
  · simp only [marks_append, hargument]
    decide
  · refine ⟨hdelete, trivial, hbind, trivial, ?_⟩
    simp only [Script.Bracketed, Command.Bracketed]
    decide

/-- The members of a repository are bracketed. -/
theorem members_bracketed {className : String} (hclass : marks className = [])
    (naming : FieldNaming) :
    ∀ member ∈ repository.members className naming, Script.Bracketed member := by
  obtain ⟨hget, hdelete⟩ := by_key_bracketed h hkey
  intro member hmember
  simp only [members, List.mem_cons, List.not_mem_nil, or_false] at hmember
  rcases hmember with rfl | rfl | rfl | rfl | rfl | rfl | rfl | rfl
  · simp only [Script.Bracketed, Command.Bracketed, marks_append, h.field]
    decide
  · exact constructor_bracketed h hclass naming
  · exact get_all_bracketed h
  · exact hget
  · exact hdelete
  · exact persist_bracketed h (by decide) (h.statements _ (by simp))
  · exact persist_bracketed h (by decide) (h.statements _ (by simp))
  · exact get_current_bracketed h

end Methods

/-! ## Classes -/

/-- Bracketed scripts with empty lines between them are bracketed. -/
theorem spaced_bracketed {scripts : List Script}
    (h : ∀ script ∈ scripts, Script.Bracketed script) :
    Script.Bracketed (Script.spaced scripts) := by
  rw [Script.bracketed_iff]
  intro command hcommand
  rcases mem_of_spaced hcommand with rfl | ⟨script, hscript, hmem⟩
  · trivial
  · exact Script.bracketed_iff.1 (h script hscript) command hmem

/-- The file of a record is bracketed. -/
theorem record_script_bracketed {space : String} {table : Table} (hspace : marks space = [])
    (hworded : table.Worded) : Script.Bracketed (recordScript space table) := by
  rw [recordScript, Script.bracketed_append]
  refine ⟨?_, ⟨?_, ⟨?_, spaced_bracketed fun script hscript => ?_⟩, trivial⟩, trivial⟩
  · unfold recordImports
    split
    · simp only [Script.Bracketed, Command.Bracketed]
      decide
    · trivial
  · rw [marks_append, hspace]
    decide
  · rw [marks_append, hworded.className.marks_eq]
    decide
  · obtain ⟨column, hmem, rfl⟩ := List.mem_map.1 hscript
    have hproperty := property_name_plain hworded.className (hworded.columns column hmem)
    refine ⟨?_, trivial⟩
    simp only [propertyLine, Command.Bracketed, marks_append, marks_field_type, hproperty.marks_eq]
    decide

section Repositories

variable {settings : Settings} {statements : Statements} (hsettings : settings.Unmarked)
  (hworded : statements.table.Worded) (hschema : marks statements.table.schema = [])
  (h : statements.Generated settings) (source : String)

include hsettings hworded hschema h

/-- The names that the repository of a table writes have no marks. -/
theorem shared_unmarked :
    (sharedOf settings statements
      ⟨statements.table.className, settings.classNamespace, source⟩).Unmarked where
  recordType :=
    marks_qualified_class_name hsettings.classNamespace hworded.className.marks_eq
  recordClass := hworded.className
  argument := marks_argument_name fun c hc => camel_name_plain hc
  field := by
    show marks (settings.fieldNaming.fieldName "connectionString") = []
    cases settings.fieldNaming <;> decide
  columns := hworded.columns
  statements := Storage.statements_embeddable hworded hschema h

/-- The file of a repository is bracketed. -/
theorem repository_script_bracketed :
    Script.Bracketed (repositoryScript settings statements
      ⟨statements.table.className, settings.classNamespace, source⟩) := by
  obtain ⟨key, hkey, -, -⟩ := parameters_of_columns h
  have hunmarked := shared_unmarked hsettings hworded hschema h source
  have hspace : marks settings.effectiveRepositoryNamespace = [] := by
    unfold Settings.effectiveRepositoryNamespace
    cases hnamespace : settings.repositoryNamespace with
    | none => exact hsettings.classNamespace
    | some space => exact hsettings.repositoryNamespace space hnamespace
  have hclass : marks (statements.table.className ++ settings.repositorySuffix) = [] := by
    rw [marks_append, hworded.className.marks_eq, hsettings.repositorySuffix]
    rfl
  rw [repositoryScript, Script.bracketed_append]
  refine ⟨Script.bracketed_iff.2 fun command hcommand => ?_, trivial,
    ⟨?_, ⟨?_, spaced_bracketed ?_⟩, trivial⟩, trivial⟩
  · obtain ⟨imported, himported, rfl⟩ := List.mem_map.1 hcommand
    have himport : marks imported = [] := by
      have hfixed : ∀ space ∈ repositoryImports, marks space = [] := by decide
      rcases List.mem_append.1 himported with hmem | hmem
      · exact hfixed imported hmem
      · split at hmem
        · simp at hmem
        · rw [List.mem_singleton.1 hmem]
          exact hsettings.classNamespace
    simp only [Command.Bracketed, marks_append, himport]
    decide
  · rw [marks_append, hspace]
    decide
  · rw [marks_append, hclass]
    decide
  · exact members_bracketed hunmarked (lift_eq_ok_iff.2 hkey) hclass settings.fieldNaming

end Repositories

/-- The classes of a bundle are bracketed if the names of its table have no marks. -/
theorem bundle_bracketed {settings : Settings} {table : Table} {bundle : Bundle}
    (hsettings : settings.Unmarked) (hworded : table.Worded) (hschema : marks table.schema = [])
    (h : Bundle.ofTable settings table = .ok bundle) :
    Bracketed bundle.record.source.toList ∧ Bracketed bundle.repository.source.toList := by
  obtain ⟨hrecord, hrepository⟩ := bundle_classes h
  obtain ⟨rfl, hgenerated, -, -⟩ := bundle_of_table h
  have hunit := marks_indent_unit settings
  rw [hrepository, hrecord]
  exact ⟨bracketed_text hunit 0 (record_script_bracketed hsettings.classNamespace hworded),
    bracketed_text hunit 0
      (repository_script_bracketed hsettings hworded hschema hgenerated _)⟩

/-- In the files of all generated classes the braces match, the parentheses match, and the double
quotes come in pairs, if the texts of the settings have none of them. -/
theorem classes_bracketed {settings : Settings} {texts : List String} {bundles : List Bundle}
    (hsettings : settings.Unmarked) (h : generate settings texts = .ok bundles) :
    ∀ bundle ∈ bundles,
      Bracketed bundle.record.source.toList ∧ Bracketed bundle.repository.source.toList := by
  intro bundle hbundle
  obtain ⟨text, -, tables, hparse, table, htable, hok⟩ := generate_ok h hbundle
  exact bundle_bracketed hsettings (Definition.parsed_worded hparse htable)
    (marks_parsed_schema hsettings.defaultSchema hparse htable) hok

/-- A table of which only the key exists, and one with a generated key and a nullable column, with
namespaces of their own for records and repositories. -/
theorem two_tables_bracketed :
    ∃ bundles,
      generate
        { useTabs := true, fieldNaming := .underscore, defaultSchema := "my-app",
          classNamespace := "Data", repositoryNamespace := some "Data.Access" }
        ["tag \x7b code string pk \x7d user \x7b id int pk ag, first_name string null \x7d"] =
        .ok bundles ∧
      bundles.map (·.objectName) = ["Tag", "User"] ∧
      ∀ bundle ∈ bundles,
        Bracketed bundle.record.source.toList ∧ Bracketed bundle.repository.source.toList := by
  have hsome : ∃ bundles,
      generate
        { useTabs := true, fieldNaming := .underscore, defaultSchema := "my-app",
          classNamespace := "Data", repositoryNamespace := some "Data.Access" }
        ["tag \x7b code string pk \x7d user \x7b id int pk ag, first_name string null \x7d"] =
        .ok bundles ∧
      bundles.map (·.objectName) = ["Tag", "User"] :=
    exists_eq_ok (by decide +kernel)
  obtain ⟨bundles, hok, hnames⟩ := hsome
  exact ⟨bundles, hok, hnames,
    classes_bracketed ⟨by decide, by decide, by decide, by decide⟩ hok⟩

end Host

end Schemata
