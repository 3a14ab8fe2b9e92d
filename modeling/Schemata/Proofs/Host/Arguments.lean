import Schemata.Proofs.Host.Parameters

/-!
# Arguments of methods

A method of a repository takes a key or a record. Its argument is named after a column or a class,
and the body of the method uses names of its own: a connection, a command, a reader, and the field
that holds the connection string. `argument_free` says that no name of a column or a class leads to
an argument that is one of these names or a reserved word. By `arguments_apart` this holds for the
arguments of all methods of all tables, and the calls that bind parameters use the same argument as
the header of their method.
-/

namespace Schemata.Host

open Text
open Storage (Statement Statements)

/-! ## Names of arguments -/

/-- The identifier is neither a name that the methods of a repository use themselves, under the
given naming of fields, nor a reserved word. -/
structure IsFree (naming : FieldNaming) (identifier : String) : Prop where
  used : identifier ∉ ["connection", "command", "reader", "result", "affected", "connectionString"]
  field : identifier ≠ naming.fieldName "connectionString"
  reserved : identifier ∉ reservedWords

/-- A name with something behind it is free where it was not. -/
theorem renamed_free (naming : FieldNaming) {name : String} (h : name ∈ repositoryNames) :
    IsFree naming (name ++ "Value") := by
  have hused : ∀ used ∈ repositoryNames, used ++ "Value" ∉ repositoryNames ∧
      used ++ "Value" ∉ reservedWords := by decide
  have hfield : ∀ used ∈ repositoryNames,
      used ++ "Value" ≠ naming.fieldName "connectionString" := by
    cases naming <;> decide
  exact ⟨(hused name h).1, hfield name h, (hused name h).2⟩

/-- A name with an at sign in front is free. -/
theorem escaped_free (naming : FieldNaming) (name : String) : IsFree naming ("@" ++ name) := by
  -- none of the names to be avoided begins with an at sign
  have hne {other : String} (h : other.toList.head? ≠ some '@') : "@" ++ name ≠ other := by
    rintro rfl
    exact h (by simp)
  have hused : ∀ used ∈ repositoryNames ++ reservedWords, used.toList.head? ≠ some '@' := by decide
  refine ⟨fun hmem => ?_, ?_, fun hmem => ?_⟩
  · exact hne (hused _ (List.mem_append_left _ hmem)) rfl
  · cases naming <;> exact hne (by decide)
  · exact hne (hused _ (List.mem_append_right _ hmem)) rfl

/-- The argument for a camel name is free. -/
theorem argument_free (naming : FieldNaming) (name : String) :
    IsFree naming (argumentName (camelName name)) := by
  unfold argumentName escapeIdentifier
  split
  · next hused => exact renamed_free naming hused
  · next hused =>
      split
      · exact escaped_free naming _
      · next hreserved =>
          refine ⟨hused, ?_, hreserved⟩
          cases naming with
          | camelCase =>
              intro heq
              exact hused (heq ▸ by decide)
          | underscore =>
              -- a camel name has no underscores
              intro heq
              have hunderscore : '_' ∈ (camelName name).toList := by
                rw [heq]
                decide
              exact absurd (camel_name_plain hunderscore) (by decide)

/-! ## Methods row by row -/

/-- The call that binds a parameter to a value. -/
def bindCall (parameter value : String) : String :=
  "command.Parameters.AddWithValue(\"" ++ parameter ++ "\", " ++ value ++ ");"

/-- The rows that bind parameters by the given calls, below an empty row if there are any. -/
def callRows (unit : String) (calls : List String) : List String :=
  if calls.isEmpty then [] else "" :: calls.map (margin unit 4 ++ ·)

/-- The rows of a method that opens a connection, makes a command with the text of a statement,
binds parameters by the given calls and goes on with the given rows. -/
def methodRows (unit field header sql : String) (calls rest : List String) : List String :=
  [margin unit 2 ++ header, margin unit 2 ++ "\x7b",
    margin unit 3 ++ ("using (var connection = new NpgsqlConnection(" ++ field ++ "))"),
    margin unit 3 ++ "\x7b", margin unit 4 ++ "await connection.OpenAsync();", ""] ++
  ((Repository.commandFor sql).linesAt unit 4 ++ callRows unit calls ++ "" :: rest ++
    [margin unit 3 ++ "\x7d", margin unit 2 ++ "\x7d"])

/-- Among the rows stands a method with the given header that sends a statement and binds parameters
by exactly the given calls. -/
def HasMethod (unit field : String) (rows : List String) (header sql : String)
    (calls : List String) : Prop :=
  ∃ rest, methodRows unit field header sql calls rest <:+: rows ∧
    ∀ row ∈ rest, ¬ "AddWithValue".toList <:+: row.toList

/-- The call binds a parameter to a property of the argument. -/
def BindsFrom (argument parameter call : String) : Prop :=
  ∃ property, call = bindCall parameter (argument ++ "." ++ property) ∨
    call = bindCall parameter ("(object)" ++ (argument ++ "." ++ property) ++ " ?? DBNull.Value")

/-- The rows of a command stand among the rows of a script that holds it. -/
theorem command_rows_within (unit : String) (depth : Nat) {command : Command} {script : Script}
    (h : command ∈ script) : command.linesAt unit depth <:+: Script.linesAt unit depth script := by
  obtain ⟨before, after, rfl⟩ := List.append_of_mem h
  rw [Script.lines_at_append, Script.linesAt, ← List.append_assoc]
  exact List.infix_append _ _ _

/-- The rows of a command stand among the rows of a block that holds it. -/
theorem nested_rows_within (unit : String) (depth : Nat) (header : String) {command : Command}
    {body : Script} (h : command ∈ body) :
    command.linesAt unit (depth + 1) <:+: (Repository.braced header body).linesAt unit depth := by
  refine (command_rows_within unit (depth + 1) h).trans ?_
  rw [Repository.braced, Command.linesAt]
  exact List.infix_append _ _ _

variable {settings : Settings} {statements : Statements} {record : HostClass}

/-- The rows of a method stand among the rows of the file of a repository. -/
theorem method_rows_within {method : Command}
    (h : [method] ∈ (sharedOf settings statements record).members
      (record.className ++ settings.repositorySuffix) settings.fieldNaming) :
    method.linesAt settings.indentUnit 2 <:+:
      Script.linesAt settings.indentUnit 0 (repositoryScript settings statements record) := by
  -- the method stands in the class, the class in the namespace, and the namespace in the file
  have hclass := nested_rows_within settings.indentUnit 1
    ("public class " ++ (record.className ++ settings.repositorySuffix))
    (mem_spaced h (List.mem_singleton_self _))
  have hspace := hclass.trans (nested_rows_within settings.indentUnit 0
    ("namespace " ++ settings.effectiveRepositoryNamespace) (List.mem_singleton_self _))
  exact hspace.trans (command_rows_within _ _ (List.mem_append_right _ (.tail _ (.head _))))

/-- The rows of a method that makes a command and binds parameters, as they are written. -/
theorem method_rows_eq (repository : Repository) (unit header sql : String) (calls : List String)
    (rest : Script) :
    (Repository.braced header [repository.withConnection
      ([Repository.commandFor sql] ++
        (if calls.isEmpty then [] else .blank :: calls.map .line) ++ [.blank] ++ rest)]).linesAt
        unit 2 =
      methodRows unit repository.field header sql calls (Script.linesAt unit 4 rest) := by
  have hcalls : Script.linesAt unit 4 (if calls.isEmpty then [] else .blank :: calls.map .line) =
      callRows unit calls := by
    unfold callRows
    split
    · rfl
    · rw [Script.linesAt, lines_at_map_line]
      rfl
  simp only [Repository.braced, Repository.withConnection, Command.linesAt, Script.linesAt,
    Script.lines_at_append, hcalls, methodRows, Closer.ending]
  simp

/-! ## The methods of a repository -/

/-- A row without the letter `W` holds no call that binds a parameter. -/
theorem no_call_of_not_mem {row : String} (h : 'W' ∉ row.toList) :
    ¬ "AddWithValue".toList <:+: row.toList := fun hwithin =>
  h (hwithin.subset (by decide))

/-- Indentation holds no letter. -/
theorem letter_not_mem_margin (settings : Settings) (depth : Nat) :
    'W' ∉ (margin settings.indentUnit depth).toList := fun hmem =>
  absurd (margin_blank settings depth _ hmem) (by decide)

/-- Reading a row binds no parameter. -/
theorem read_single_no_call (settings : Settings) :
    ∀ row ∈ Script.linesAt settings.indentUnit 4 Repository.readSingle,
      ¬ "AddWithValue".toList <:+: row.toList := by
  have hmargin := letter_not_mem_margin settings
  intro row hrow
  refine no_call_of_not_mem ?_
  revert row
  simp [Repository.readSingle, Repository.withReader, Repository.braced, Script.linesAt,
    Command.linesAt, Closer.ending, hmargin]

/-- A member of a repository that makes a command and binds parameters is a method of its file. -/
theorem has_method {header sql : String} {calls : List String} (rest : Script)
    (h : [Repository.braced header [(sharedOf settings statements record).withConnection
      ([Repository.commandFor sql] ++ (if calls.isEmpty then [] else .blank :: calls.map .line) ++
        [.blank] ++ rest)]] ∈ (sharedOf settings statements record).members
          (record.className ++ settings.repositorySuffix) settings.fieldNaming)
    (hrest : ∀ row ∈ Script.linesAt settings.indentUnit 4 rest,
      ¬ "AddWithValue".toList <:+: row.toList) :
    HasMethod settings.indentUnit (settings.fieldNaming.fieldName "connectionString")
      (Script.linesAt settings.indentUnit 0 (repositoryScript settings statements record))
      header sql calls := by
  have hrows := method_rows_within h
  rw [method_rows_eq] at hrows
  exact ⟨_, hrows, hrest⟩

section Methods

variable {key : Column} (hkey : statements.table.requirePrimaryKey = .ok key)

include hkey

/-- The method that reads the row with a given key binds the key to its argument. -/
theorem get_has_method :
    HasMethod settings.indentUnit (settings.fieldNaming.fieldName "connectionString")
      (Script.linesAt settings.indentUnit 0 (repositoryScript settings statements record))
      ("public async Task<" ++ qualifiedClassName record.space record.className ++ "> Get(" ++
        (typeName key.dataType ++ " " ++ argumentName key.camelName) ++ ")")
      statements.selectByKey.sql [bindCall key.camelName (argumentName key.camelName)] := by
  refine has_method Repository.readSingle ?_ (read_single_no_call settings)
  have hshared : (sharedOf settings statements record).key = .ok key := lift_eq_ok_iff.2 hkey
  exact get_eq hshared ▸ by simp [Repository.members]

/-- The method that deletes the row with a given key binds the key to its argument. -/
theorem delete_has_method :
    HasMethod settings.indentUnit (settings.fieldNaming.fieldName "connectionString")
      (Script.linesAt settings.indentUnit 0 (repositoryScript settings statements record))
      ("public async Task<bool> Delete(" ++
        (typeName key.dataType ++ " " ++ argumentName key.camelName) ++ ")")
      statements.deleteByKey.sql [bindCall key.camelName (argumentName key.camelName)] := by
  have hmargin := letter_not_mem_margin settings 4
  have hshared : (sharedOf settings statements record).key = .ok key := lift_eq_ok_iff.2 hkey
  refine has_method [.line "var affected = await command.ExecuteNonQueryAsync();", .blank,
    .line "return affected > 0;"] (delete_eq hshared ▸ by simp [Repository.members]) ?_
  intro row hrow
  refine no_call_of_not_mem ?_
  revert row
  simp [Script.linesAt, Command.linesAt, hmargin]

end Methods

/-- The lines that bind parameters from a record are calls on its argument. -/
theorem exists_calls (repository : Repository) {parameters : List String}
    (h : ∀ parameter ∈ parameters, ∃ column, repository.columnFor parameter = .ok column) :
    ∃ calls, parameters.map repository.bindParameter = calls.map .line ∧
      List.Forall₂ (BindsFrom repository.argument) parameters calls := by
  induction parameters with
  | nil => exact ⟨[], rfl, .nil⟩
  | cons parameter parameters ih =>
      rw [List.forall_mem_cons] at h
      obtain ⟨column, hcolumn⟩ := h.1
      obtain ⟨calls, hcalls, hbinds⟩ := ih h.2
      refine ⟨bindCall parameter (repository.recordValue column) :: calls, ?_, .cons ?_ hbinds⟩
      · rw [List.map_cons, List.map_cons, hcalls, Repository.bindParameter, hcolumn]
        rfl
      · refine ⟨propertyName repository.recordClass column, ?_⟩
        unfold Repository.recordValue
        split
        · exact .inr rfl
        · exact .inl rfl

/-- A method that stores a record binds the parameters of its statement to properties of its
argument. -/
theorem persist_has_method {method : String} {statement : Statement}
    (hmember : (sharedOf settings statements record).persist method statement ∈
      (sharedOf settings statements record).members
        (record.className ++ settings.repositorySuffix) settings.fieldNaming)
    (h : ∀ parameter ∈ statement.parameters, ∃ column,
      (sharedOf settings statements record).columnFor parameter = .ok column) :
    ∃ calls, HasMethod settings.indentUnit (settings.fieldNaming.fieldName "connectionString")
        (Script.linesAt settings.indentUnit 0 (repositoryScript settings statements record))
        (persistHeader (qualifiedClassName record.space record.className) method
          (argumentName (camelName record.className)))
        statement.sql calls ∧
      List.Forall₂ (BindsFrom (argumentName (camelName record.className))) statement.parameters
        calls := by
  obtain ⟨calls, hcalls, hbinds⟩ := exists_calls (sharedOf settings statements record) h
  refine ⟨calls, has_method Repository.readSingle ?_ (read_single_no_call settings), hbinds⟩
  have hempty : statement.parameters.isEmpty = calls.isEmpty := by
    rw [Bool.eq_iff_iff, List.isEmpty_iff_length_eq_zero, List.isEmpty_iff_length_eq_zero,
      hbinds.length_eq]
  have hrecord : (sharedOf settings statements record).bindRecord statement =
      if calls.isEmpty then [] else .blank :: calls.map .line := by
    rw [Repository.bindRecord, hempty, hcalls]
  rw [← hrecord]
  exact hmember

end Schemata.Host

namespace Schemata

open Host

/-- `bundle.TakesArguments settings key keyArgument recordArgument rows` says that these are the
rows of the repository of the bundle, that the methods `Get` and `Delete` take the key under the name
`keyArgument` and the methods `Create` and `Update` a record under the name `recordArgument`, and
that the calls that bind parameters in these methods use the same names. -/
structure Bundle.TakesArguments (settings : Settings) (bundle : Bundle) (key : Column)
    (keyArgument recordArgument : String) (rows : List String) : Prop where
  source : bundle.repository.source = unlines rows
  get : HasMethod settings.indentUnit (settings.fieldNaming.fieldName "connectionString") rows
    ("public async Task<" ++ qualifiedClassName bundle.record.space bundle.record.className ++
      "> Get(" ++ (typeName key.dataType ++ " " ++ keyArgument) ++ ")")
    bundle.statements.selectByKey.sql [bindCall key.camelName keyArgument]
  delete : HasMethod settings.indentUnit (settings.fieldNaming.fieldName "connectionString") rows
    ("public async Task<bool> Delete(" ++ (typeName key.dataType ++ " " ++ keyArgument) ++ ")")
    bundle.statements.deleteByKey.sql [bindCall key.camelName keyArgument]
  persist : ∀ method ∈ [("Create", bundle.statements.insert), ("Update", bundle.statements.update)],
    ∃ calls, HasMethod settings.indentUnit (settings.fieldNaming.fieldName "connectionString") rows
        (persistHeader (qualifiedClassName bundle.record.space bundle.record.className) method.1
          recordArgument)
        method.2.sql calls ∧
      List.Forall₂ (BindsFrom recordArgument) method.2.parameters calls

namespace Host

/-- The methods of a bundle take arguments that are named after the key and the class. -/
theorem takes_arguments {settings : Settings} {table : Table} {bundle : Bundle}
    (h : Bundle.ofTable settings table = .ok bundle) {key : Column}
    (hkey : table.requirePrimaryKey = .ok key) :
    ∃ rows, bundle.TakesArguments settings key (argumentName key.camelName)
      (argumentName (camelName bundle.record.className)) rows := by
  obtain ⟨-, hrepository⟩ := bundle_classes h
  obtain ⟨rfl, hgenerated, -, -⟩ := bundle_of_table h
  obtain ⟨hinsert, hupdate⟩ := parameters_found hgenerated bundle.record
  refine ⟨_, by rw [hrepository], get_has_method hkey, delete_has_method hkey, ?_⟩
  intro method hmethod
  simp only [List.mem_cons, List.not_mem_nil, or_false] at hmethod
  rcases hmethod with rfl | rfl
  · exact persist_has_method (by simp [Repository.members, sharedOf]) hinsert
  · exact persist_has_method (by simp [Repository.members, sharedOf]) hupdate

/-- For every table that is made from names and specifications of columns, the arguments of the
methods that take a key or a record are neither names that these methods use themselves, under any
naming of fields, nor reserved words, and each method binds its parameters through the argument of
its header. -/
theorem arguments_apart {settings : Settings} {schema name : String} {specs : List Column.Spec}
    {columns : List Column} (hcolumns : specs.mapM Column.ofSpec = .ok columns) {bundle : Bundle}
    (h : Bundle.ofTable settings (.ofNames schema name columns) = .ok bundle) :
    ∃ key rows, bundle.statements.table.requirePrimaryKey = .ok key ∧
      bundle.TakesArguments settings key (argumentName key.camelName)
        (argumentName (camelName bundle.record.className)) rows ∧
      ∀ naming, IsFree naming (argumentName key.camelName) ∧
        IsFree naming (argumentName (camelName bundle.record.className)) := by
  obtain ⟨htable, hgenerated, -, -⟩ := bundle_of_table h
  obtain ⟨key, hkey, -, -⟩ := parameters_of_columns hgenerated
  obtain ⟨rows, htakes⟩ := takes_arguments h (htable ▸ hkey)
  refine ⟨key, rows, hkey, htakes, fun naming => ⟨?_, argument_free naming _⟩⟩
  -- the key is made from a specification, so its camel name is that of a name
  have hmem : key ∈ columns := by
    have hkey := (primary_key_mem hkey).1
    rw [htable] at hkey
    exact hkey
  obtain ⟨spec, -, hspec⟩ := forall_mem_right (map_m_eq_ok_iff.1 hcolumns) hmem
  have hname : key.camelName = camelName spec.name :=
    (Definition.of_spec_eq_ok_iff.1 hspec).2.2.2.1
  rw [hname]
  exact argument_free naming spec.name

/-- A key whose name is a reserved word, and another column. -/
def reservedKeySpecs : List Column.Spec :=
  [⟨{ primaryKey := true }, "Class", .int⟩, ⟨{ nullable := true }, "note", .string⟩]

/-- A table whose arguments both have to be changed: its class is named like a field, and its key is
a reserved word. -/
theorem changed_arguments_apart :
    ∃ columns bundle key rows, reservedKeySpecs.mapM Column.ofSpec = .ok columns ∧
      Bundle.ofTable { fieldNaming := .underscore }
        (.ofNames "public" "connection_string" columns) = .ok bundle ∧
      bundle.statements.table.requirePrimaryKey = .ok key ∧
      bundle.TakesArguments { fieldNaming := .underscore } key "@class" "connectionStringValue"
        rows ∧
      ∀ naming, IsFree naming "@class" ∧ IsFree naming "connectionStringValue" := by
  have hsome : ∃ columns, reservedKeySpecs.mapM Column.ofSpec = .ok columns ∧
      (Bundle.ofTable { fieldNaming := .underscore }
        (.ofNames "public" "connection_string" columns)).toOption.any (fun bundle => decide
          ((∀ column ∈ bundle.statements.table.columns,
            column.primaryKey = true → argumentName column.camelName = "@class") ∧
          argumentName (camelName bundle.record.className) = "connectionStringValue")) = true :=
    exists_eq_ok (by decide +kernel)
  obtain ⟨columns, hcolumns, hgenerated⟩ := hsome
  obtain ⟨bundle, hbundle, hkeys, hrecord⟩ := exists_eq_ok hgenerated
  obtain ⟨key, rows, hkey, htakes, hfree⟩ := arguments_apart hcolumns hbundle
  obtain ⟨hmember, hprimary⟩ := primary_key_mem hkey
  rw [hkeys key hmember hprimary, hrecord] at htakes hfree
  exact ⟨columns, bundle, key, rows, hcolumns, hbundle, hkey, htakes, hfree⟩

end Host

end Schemata
