import Schemata.Proofs.Host.Columns
import Schemata.Proofs.Host.Literals

/-!
# Parameters that methods bind

A method of a repository embeds the text of its statement and binds a value to each name of a
parameter. Both are string literals of its body, so they are read back from the text of the class.
`executed_in_order` says that the methods `Get`, `Delete`, `Create` and `Update` stand one below the
other in a generated class, and that each of them sends one statement and binds exactly the
parameters of this statement, in order.
-/

namespace Schemata.Host

open Text
open Storage (Statement Statements)

/-- The text of a method of a class in a namespace. -/
def methodText (unit header body : String) : String :=
  unlines [margin unit 2 ++ header, margin unit 2 ++ "\x7b"] ++ body ++
    unlines [margin unit 2 ++ "\x7d"]

/-- The body of a method makes one command, which holds the statement with its lines indented, and
binds the parameters of the statement in order and no others. -/
structure Executes (unit body : String) (statement : Statement) : Prop where
  sent : literalsBehind "new NpgsqlCommand(@" body =
    [("\n" ++ margin unit 4).intercalate (lines statement.sql)]
  bound : literalsBehind "command.Parameters.AddWithValue(" body = statement.parameters

/-- In a text the methods with the given headers stand directly one below the other, each of them
executes the statement that goes with its header, and a member with the header `next` follows. -/
def ExecutedInOrder (unit source : String) (methods : List (String × Statement)) (next : String) :
    Prop :=
  ∃ bodies, List.Forall₂ (fun method body => Executes unit body method.2) methods bodies ∧
    (String.join (List.zipWith (fun method body => methodText unit method.1 body ++ "\n")
      methods bodies) ++ (margin unit 2 ++ next ++ "\n")).toList <:+: source.toList

/-- Code that ends in another character does not end in the given call. -/
theorem not_ends_in_call {call code : String} (hcall : call.toList ≠ []) (hcode : code.toList ≠ [])
    (h : call.toList.getLast? ≠ code.toList.getLast?) (indentation : String) :
    call.toList.isSuffixOf (indentation ++ code).toList = false := by
  rw [Bool.eq_false_iff, ne_eq, List.isSuffixOf_iff_suffix]
  rintro ⟨front, hfront⟩
  have hlast := congrArg List.getLast? hfront
  rw [String.toList_append, List.getLast?_append_of_ne_nil _ hcall,
    List.getLast?_append_of_ne_nil _ hcode] at hlast
  exact h hlast

/-- The literals behind a call, where one literal is followed by others behind the same code. -/
theorem literals_behind {call body front code content : String} {names : List String}
    (h : literals body = (front, content) :: names.map fun name => (code, name)) :
    literalsBehind call body =
      (if call.toList.isSuffixOf front.toList then [content] else []) ++
        (if call.toList.isSuffixOf code.toList then names else []) := by
  have hnames : ((names.map fun name => (code, name)).filter fun literal =>
      call.toList.isSuffixOf literal.1.toList).map (·.2) =
        if call.toList.isSuffixOf code.toList then names else [] := by
    split
    · next hcode => simp [List.filter_map, Function.comp_def, hcode]
    · next hcode => simp [List.filter_map, Function.comp_def, hcode]
  rw [literalsBehind, h, List.filter_cons]
  split
  · rw [List.map_cons, hnames]
    rfl
  · rw [hnames, List.nil_append]

/-- The literal of the command that holds a statement, with the code in front of it. -/
def commandLiteral (unit sql : String) : String × String :=
  (margin unit 4 ++ "var command = new NpgsqlCommand(@",
    ("\n" ++ margin unit 4).intercalate (lines sql))

/-- The literal of the call that binds a parameter, with the code in front of it. -/
def bindingLiteral (unit parameter : String) : String × String :=
  (margin unit 4 ++ "command.Parameters.AddWithValue(", parameter)

/-- A body executes a statement if its literals are the text of the statement in a command and the
names of its parameters in calls that bind them. -/
theorem executes_of_literals {unit body : String} {statement : Statement}
    (h : literals body =
      commandLiteral unit statement.sql :: statement.parameters.map (bindingLiteral unit)) :
    Executes unit body statement := by
  have hcommand : "new NpgsqlCommand(@".toList.isSuffixOf
      (margin unit 4 ++ "var command = new NpgsqlCommand(@").toList = true :=
    List.isSuffixOf_iff_suffix.2 ⟨(margin unit 4 ++ "var command = ").toList, by simp⟩
  have hbinding : "command.Parameters.AddWithValue(".toList.isSuffixOf
      (margin unit 4 ++ "command.Parameters.AddWithValue(").toList = true :=
    List.isSuffixOf_iff_suffix.2 ⟨(margin unit 4).toList, by simp⟩
  have hnot_command : "new NpgsqlCommand(@".toList.isSuffixOf
      (margin unit 4 ++ "command.Parameters.AddWithValue(").toList = false :=
    not_ends_in_call (by decide) (by decide) (by decide) (margin unit 4)
  have hnot_binding : "command.Parameters.AddWithValue(".toList.isSuffixOf
      (margin unit 4 ++ "var command = new NpgsqlCommand(@").toList = false :=
    not_ends_in_call (by decide) (by decide) (by decide) (margin unit 4)
  constructor
  · rw [literals_behind h, hcommand, hnot_command]
    rfl
  · rw [literals_behind h, hnot_binding, hbinding]
    rfl

/-! ## What bodies are read as -/

variable {settings : Settings} {repository : Repository}

/-- Indentation holds no double quote. -/
theorem quote_not_mem_margin (settings : Settings) (depth : Nat) :
    '"' ∉ (margin settings.indentUnit depth).toList :=
  quote_not_mem_indentation (margin_blank settings depth)

/-- A script that makes a command with an open connection and goes on with other commands. -/
theorem connection_reads (hfield : '"' ∉ repository.field.toList) {sql : String}
    (hsql : sql.toList ≠ []) {inner : Script} {found : List (String × String)}
    (hinner : Reads (unlines (Script.linesAt settings.indentUnit 4 inner)) found) :
    Reads (unlines (Script.linesAt settings.indentUnit 3
      [repository.withConnection (Repository.commandFor sql :: inner)]))
      (commandLiteral settings.indentUnit sql :: found) := by
  have hmargin := quote_not_mem_margin settings
  have hcommand := reads_command (margin_blank settings 4) (margin_one_line settings 4) hsql
  have hopening : Reads (unlines [margin settings.indentUnit 3 ++
      ("using (var connection = new NpgsqlConnection(" ++ repository.field ++ "))"),
      margin settings.indentUnit 3 ++ "\x7b",
      margin settings.indentUnit 4 ++ "await connection.OpenAsync();", ""]) [] :=
    reads_unlines (by simp [hmargin, hfield])
  have hclosing : Reads (unlines [margin settings.indentUnit 3 ++ "\x7d"]) [] :=
    reads_unlines (by simp [hmargin])
  have hall := hopening.append (hcommand.append (hinner.append hclosing))
  simp only [← unlines_append] at hall
  simpa [commandLiteral, Repository.withConnection, Repository.braced, Repository.commandFor,
    Script.linesAt, Command.linesAt, Closer.ending] using hall

/-- The line that binds a parameter, read at the indentation of the body of a method. -/
theorem bind_line_reads (settings : Settings) {parameter value : String}
    (hparameter : IsPlainText parameter) (hvalue : '"' ∉ value.toList) :
    Reads (unlines (Script.linesAt settings.indentUnit 4 [Repository.bindLine parameter value]))
      [bindingLiteral settings.indentUnit parameter] := by
  rw [Script.linesAt, Script.linesAt, List.append_nil, Repository.bindLine, Command.linesAt,
    unlines_cons, unlines_nil, String.append_empty]
  exact reads_bind_line (margin_blank settings 4) (margin_one_line settings 4) hparameter hvalue

/-- The lines that bind parameters from a record hold their names in order. -/
theorem bind_parameters_read (settings : Settings) {parameters : List String}
    (h : ∀ parameter ∈ parameters, ∃ column, repository.columnFor parameter = .ok column)
    (hplain : ∀ parameter ∈ parameters, IsPlainText parameter)
    (hvalue : ∀ column ∈ repository.statements.table.columns,
      '"' ∉ (repository.recordValue column).toList) :
    Reads (unlines (Script.linesAt settings.indentUnit 4
      (parameters.map repository.bindParameter)))
      (parameters.map (bindingLiteral settings.indentUnit)) := by
  induction parameters with
  | nil => exact fun _ => rfl
  | cons parameter rest ih =>
      rw [List.forall_mem_cons] at h hplain
      obtain ⟨column, hcolumn⟩ := h.1
      have hbind : repository.bindParameter parameter =
          Repository.bindLine parameter (repository.recordValue column) := by
        rw [Repository.bindParameter, hcolumn]
      have hline := bind_line_reads settings hplain.1
        (hvalue column (column_for_sound hcolumn).1)
      rw [List.map_cons, List.map_cons, hbind, ← List.singleton_append, Script.lines_at_append,
        unlines_append]
      exact hline.append (ih h.2 hplain.2)

/-- Reading a row holds no literal. -/
theorem read_single_reads (settings : Settings) :
    Reads (unlines (Script.linesAt settings.indentUnit 4 (.blank :: Repository.readSingle)))
      [] := by
  have hmargin := quote_not_mem_margin settings
  refine reads_unlines ?_
  simp [Repository.readSingle, Repository.withReader, Repository.braced, Script.linesAt,
    Command.linesAt, Closer.ending, hmargin]

/-! ## Values -/

/-- The argument of a method holds no double quote. -/
theorem quote_not_mem_argument {name : String} (h : IsPlainText name) :
    '"' ∉ (argumentName name).toList := by
  have hname : '"' ∉ name.toList := h.not_mem (by decide)
  unfold argumentName escapeIdentifier
  split
  · simp [hname]
  · split
    · simp [hname]
    · exact hname

/-- The value that a record has for a column holds no double quote. -/
theorem quote_not_mem_value (hargument : '"' ∉ repository.argument.toList)
    (hclass : IsPlainText repository.recordClass) {column : Column} (h : column.Worded) :
    '"' ∉ (repository.recordValue column).toList := by
  have hproperty : '"' ∉ (propertyName repository.recordClass column).toList :=
    (property_name_plain hclass h).not_mem (by decide)
  unfold Repository.recordValue
  split
  · simp [hargument, hproperty]
  · simp [hargument, hproperty]

/-! ## Methods -/

variable {statements : Statements} {record : HostClass}

/-- The field that holds the connection string has no double quote in its name. -/
theorem quote_not_mem_field (settings : Settings) (statements : Statements) (record : HostClass) :
    '"' ∉ (sharedOf settings statements record).field.toList := by
  show '"' ∉ (settings.fieldNaming.fieldName "connectionString").toList
  cases settings.fieldNaming <;> decide

/-- The statements of a table are not empty. -/
theorem statement_ne_empty (h : statements.Generated settings) :
    ∀ statement ∈ [statements.selectByKey, statements.deleteByKey, statements.insert,
      statements.update], statement.sql.toList ≠ [] := by
  obtain ⟨_, -, hselect⟩ := bind_eq_ok_iff.1 h.selectByKey
  obtain ⟨_, -, hdelete⟩ := bind_eq_ok_iff.1 h.deleteByKey
  obtain ⟨_, -, hinsert⟩ := bind_eq_ok_iff.1 h.insert
  obtain ⟨_, -, hupdate⟩ := bind_eq_ok_iff.1 h.update
  rw [← Except.ok.inj hselect, ← Except.ok.inj hdelete, ← Except.ok.inj hinsert,
    ← Except.ok.inj hupdate]
  simp [Storage.selection]

section Bodies

variable {key : Column} {statement : Statement}

/-- A body that binds the key executes a statement whose only parameter is the key. -/
theorem key_executes (hkey : key.Worded) (hsql : statement.sql.toList ≠ [])
    (hparameters : statement.parameters = [key.camelName]) {rest : Script}
    (hrest : Reads (unlines (Script.linesAt settings.indentUnit 4 rest)) []) :
    Executes settings.indentUnit (unlines (Script.linesAt settings.indentUnit 3
      [(sharedOf settings statements record).withConnection
        (Repository.commandFor statement.sql :: .blank :: Repository.bindKey key :: rest)]))
      statement := by
  have hblank : Reads (unlines (Script.linesAt settings.indentUnit 4 [.blank])) [] :=
    reads_unlines (by simp [Script.linesAt, Command.linesAt])
  have hbind := bind_line_reads settings hkey.camelName
    (quote_not_mem_argument hkey.camelName)
  have hinner := (hblank.append hbind).append hrest
  rw [← unlines_append, ← unlines_append, ← Script.lines_at_append, ← Script.lines_at_append]
    at hinner
  have hall := connection_reads (quote_not_mem_field settings statements record) hsql hinner
  refine executes_of_literals ?_
  rw [hparameters]
  exact hall.literals_eq

/-- A body that binds parameters from a record executes a statement with these parameters. -/
theorem persist_executes (hclass : IsPlainText record.className)
    (hcolumns : ∀ column ∈ statements.table.columns, column.Worded)
    (hsql : statement.sql.toList ≠ [])
    (hparameters : ∀ parameter ∈ statement.parameters, ∃ column,
      (sharedOf settings statements record).columnFor parameter = .ok column) :
    Executes settings.indentUnit (unlines (Script.linesAt settings.indentUnit 3
      [(sharedOf settings statements record).withConnection
        ([Repository.commandFor statement.sql] ++
          (sharedOf settings statements record).bindRecord statement ++ [.blank] ++
          Repository.readSingle)])) statement := by
  have hplain : ∀ parameter ∈ statement.parameters, IsPlainText parameter := by
    intro parameter hparameter
    obtain ⟨column, hcolumn⟩ := hparameters parameter hparameter
    obtain ⟨hmem, hname⟩ := column_for_sound hcolumn
    rw [← hname]
    exact (hcolumns column hmem).camelName
  have hargument : '"' ∉ (sharedOf settings statements record).argument.toList :=
    quote_not_mem_argument fun c hc => camel_name_plain hc
  have hbindings := bind_parameters_read settings hparameters hplain
    fun column hmem => quote_not_mem_value hargument hclass (hcolumns column hmem)
  have hrecord : Reads (unlines (Script.linesAt settings.indentUnit 4
      ((sharedOf settings statements record).bindRecord statement)))
      (statement.parameters.map (bindingLiteral settings.indentUnit)) := by
    unfold Repository.bindRecord
    split
    · next hnone =>
        rw [List.isEmpty_iff.1 hnone]
        exact fun _ => rfl
    · rw [Script.linesAt, unlines_append]
      exact (reads_unlines (by simp [Command.linesAt])).append hbindings
  have hinner := hrecord.append (read_single_reads settings)
  rw [← unlines_append, ← Script.lines_at_append, List.append_nil] at hinner
  have hall := connection_reads (quote_not_mem_field settings statements record) hsql hinner
  refine executes_of_literals ?_
  rw [List.append_assoc, List.append_assoc]
  exact hall.literals_eq

end Bodies

/-- The header of the method that reads the row with a given key. -/
def getHeader (recordType : String) (key : Column) : String :=
  "public async Task<" ++ recordType ++ "> Get(" ++ Repository.keyArgument key ++ ")"

/-- The header of the method that deletes the row with a given key. -/
def deleteHeader (key : Column) : String :=
  "public async Task<bool> Delete(" ++ Repository.keyArgument key ++ ")"

/-- The header of a method that stores a record. -/
def persistHeader (recordType method argument : String) : String :=
  "public async Task<" ++ recordType ++ "> " ++ method ++ "(" ++ recordType ++ " " ++ argument
    ++ ")"

/-- The header of the method that turns the current row into a record. -/
def currentHeader (recordType : String) : String :=
  "private static " ++ recordType ++ " GetCurrent(DbDataReader reader)"

/-- The text of a block of statements. -/
theorem unlines_braced (unit : String) (depth : Nat) (header : String) (body : Script) :
    unlines (Script.linesAt unit depth [Repository.braced header body]) =
      unlines [margin unit depth ++ header, margin unit depth ++ "\x7b"] ++
        unlines (Script.linesAt unit (depth + 1) body) ++
        unlines [margin unit depth ++ "\x7d"] := by
  rw [Script.linesAt, Script.linesAt, List.append_nil, Repository.braced, Command.linesAt,
    unlines_append, unlines_append]
  rfl

/-- The text of scripts with empty lines between them. -/
theorem unlines_spaced_cons (unit : String) (depth : Nat) (first second : Script)
    (rest : List Script) :
    unlines (Script.linesAt unit depth (Script.spaced (first :: second :: rest))) =
      unlines (Script.linesAt unit depth first) ++ "\n" ++
        unlines (Script.linesAt unit depth (Script.spaced (second :: rest))) := by
  rw [Script.lines_at_spaced_cons, unlines_append, unlines_cons, String.empty_append,
    ← String.append_assoc]

/-- The member is a method that executes the statement that goes with its header. -/
def IsMethod (unit : String) (member : Script) (method : String × Statement) : Prop :=
  ∃ body, unlines (Script.linesAt unit 2 member) = methodText unit method.1 body ∧
    Executes unit body method.2

/-- Methods above another member are found in the order of the members. -/
theorem methods_above {unit next : String} {members : List Script}
    {methods : List (String × Statement)} (h : List.Forall₂ (IsMethod unit) members methods)
    {last : Script}
    (hlast : (margin unit 2 ++ next ++ "\n").toList <+:
      (unlines (Script.linesAt unit 2 last)).toList) :
    ∃ bodies, List.Forall₂ (fun method body => Executes unit body method.2) methods bodies ∧
      (String.join (List.zipWith (fun method body => methodText unit method.1 body ++ "\n")
        methods bodies) ++ (margin unit 2 ++ next ++ "\n")).toList <+:
        (unlines (Script.linesAt unit 2 (Script.spaced (members ++ [last])))).toList := by
  induction h with
  | nil =>
      refine ⟨[], .nil, ?_⟩
      rw [List.zipWith_nil_left, String.join_nil, String.empty_append, List.nil_append,
        show Script.spaced [last] = last from List.append_nil last]
      exact hlast
  | @cons member method members methods hmethod _ ih =>
      obtain ⟨body, htext, hexecutes⟩ := hmethod
      obtain ⟨bodies, hbodies, hwithin⟩ := ih
      refine ⟨body :: bodies, .cons hexecutes hbodies, ?_⟩
      obtain ⟨second, rest, hcons⟩ : ∃ second rest, members ++ [last] = second :: rest :=
        List.exists_cons_of_ne_nil (by simp)
      rw [hcons] at hwithin
      have hbelow :=
        (List.prefix_append_right_inj (methodText unit method.1 body ++ "\n").toList).2 hwithin
      rw [← String.toList_append, ← String.toList_append] at hbelow
      rw [List.cons_append, hcons, unlines_spaced_cons, htext, List.zipWith_cons_cons,
        String.join_cons, String.append_assoc]
      exact hbelow

/-- The members of a class stand in the text of its file. -/
theorem members_within (settings : Settings) (statements : Statements) (record : HostClass) :
    (unlines (Script.linesAt settings.indentUnit 2 (Script.spaced
      ((sharedOf settings statements record).members
        (record.className ++ settings.repositorySuffix) settings.fieldNaming)))).toList <:+:
      (unlines (Script.linesAt settings.indentUnit 0
        (repositoryScript settings statements record))).toList := by
  have hblock (depth : Nat) (header : String) (body : Script) :
      (unlines (Script.linesAt settings.indentUnit (depth + 1) body)).toList <:+:
        (unlines (Script.linesAt settings.indentUnit depth
          [Repository.braced header body])).toList := by
    rw [unlines_braced, String.toList_append, String.toList_append]
    exact List.infix_append _ _ _
  have hfile (above : Script) (block : Command) :
      (unlines (Script.linesAt settings.indentUnit 0 [block])).toList <:+:
        (unlines (Script.linesAt settings.indentUnit 0 (above ++ [.blank, block]))).toList := by
    rw [List.append_cons, Script.lines_at_append, unlines_append, String.toList_append]
    exact (List.suffix_append _ _).isInfix
  exact ((hblock 1 _ _).trans (hblock 0 _ _)).trans (hfile _ _)

/-- The members below another one end the text of a class. -/
theorem spaced_suffix (unit : String) (depth : Nat) (first : Script) {rest : List Script}
    (h : rest ≠ []) :
    (unlines (Script.linesAt unit depth (Script.spaced rest))).toList <:+
      (unlines (Script.linesAt unit depth (Script.spaced (first :: rest)))).toList := by
  obtain ⟨second, others, rfl⟩ := List.exists_cons_of_ne_nil h
  rw [unlines_spaced_cons, String.toList_append]
  exact List.suffix_append _ _

section Members

variable {key : Column}

/-- The method that reads the row with a given key executes the selection by key. -/
theorem get_is_method (hgenerated : statements.Generated settings) (hworded : key.Worded)
    (hkey : statements.table.requirePrimaryKey = .ok key) :
    IsMethod settings.indentUnit (sharedOf settings statements record).get
      (getHeader (qualifiedClassName record.space record.className) key,
        statements.selectByKey) := by
  have hselect := hgenerated.selectByKey
  rw [Storage.selectByKey, hkey] at hselect
  have hparameters : statements.selectByKey.parameters = [key.camelName] := by
    rw [← Except.ok.inj hselect]
  have hsql := statement_ne_empty hgenerated statements.selectByKey (by simp)
  rw [get_eq (lift_eq_ok_iff.2 hkey), IsMethod, unlines_braced]
  exact ⟨_, rfl, key_executes hworded hsql hparameters (read_single_reads settings)⟩

/-- The method that deletes the row with a given key executes the deletion. -/
theorem delete_is_method (hgenerated : statements.Generated settings) (hworded : key.Worded)
    (hkey : statements.table.requirePrimaryKey = .ok key) :
    IsMethod settings.indentUnit (sharedOf settings statements record).delete
      (deleteHeader key, statements.deleteByKey) := by
  have hdelete := hgenerated.deleteByKey
  rw [Storage.deleteByKey, hkey] at hdelete
  have hparameters : statements.deleteByKey.parameters = [key.camelName] := by
    rw [← Except.ok.inj hdelete]
  have hsql := statement_ne_empty hgenerated statements.deleteByKey (by simp)
  have hmargin := quote_not_mem_margin settings 4
  have hend : Reads (unlines (Script.linesAt settings.indentUnit 4
      [.blank, .line "var affected = await command.ExecuteNonQueryAsync();", .blank,
        .line "return affected > 0;"])) [] :=
    reads_unlines (by simp [Script.linesAt, Command.linesAt, hmargin])
  rw [delete_eq (lift_eq_ok_iff.2 hkey), IsMethod, unlines_braced]
  exact ⟨_, rfl, key_executes hworded hsql hparameters hend⟩

/-- A method that stores a record executes its statement. -/
theorem persist_is_method (method : String) {statement : Statement}
    (hclass : IsPlainText record.className)
    (hcolumns : ∀ column ∈ statements.table.columns, column.Worded)
    (hsql : statement.sql.toList ≠ [])
    (hparameters : ∀ parameter ∈ statement.parameters, ∃ column,
      (sharedOf settings statements record).columnFor parameter = .ok column) :
    IsMethod settings.indentUnit ((sharedOf settings statements record).persist method statement)
      (persistHeader (qualifiedClassName record.space record.className) method
        (argumentName (camelName record.className)), statement) := by
  rw [Repository.persist, IsMethod, unlines_braced]
  exact ⟨_, rfl, persist_executes hclass hcolumns hsql hparameters⟩

end Members

/-- In the file of a repository the methods whose statements can have parameters stand one below the
other, and each of them executes its statement. -/
theorem executed_in_order (hgenerated : statements.Generated settings)
    (hclass : IsPlainText record.className)
    (hcolumns : ∀ column ∈ statements.table.columns, column.Worded) {key : Column}
    (hkey : statements.table.requirePrimaryKey = .ok key) :
    let recordType := qualifiedClassName record.space record.className
    let argument := argumentName (camelName record.className)
    ExecutedInOrder settings.indentUnit
      (unlines (Script.linesAt settings.indentUnit 0 (repositoryScript settings statements record)))
      [(getHeader recordType key, statements.selectByKey),
        (deleteHeader key, statements.deleteByKey),
        (persistHeader recordType "Create" argument, statements.insert),
        (persistHeader recordType "Update" argument, statements.update)]
      (currentHeader recordType) := by
  intro recordType argument
  have hsql := statement_ne_empty hgenerated
  have hworded := hcolumns key (primary_key_mem hkey).1
  obtain ⟨hinsert, hupdate⟩ := parameters_found hgenerated record
  have hcurrent : (margin settings.indentUnit 2 ++ currentHeader recordType ++ "\n").toList <+:
      (unlines (Script.linesAt settings.indentUnit 2
        (sharedOf settings statements record).getCurrent)).toList := by
    have hfirst (row below inner closing : String) :
        row.toList <+: (row ++ below ++ inner ++ closing).toList := by simp
    rw [Repository.getCurrent, unlines_braced, unlines_cons]
    exact hfirst _ _ _ _
  obtain ⟨bodies, hbodies, hwithin⟩ := methods_above
    (.cons (get_is_method hgenerated hworded hkey)
      (.cons (delete_is_method hgenerated hworded hkey)
        (.cons (persist_is_method "Create" hclass hcolumns (hsql _ (by simp)) hinsert)
          (.cons (persist_is_method "Update" hclass hcolumns (hsql _ (by simp)) hupdate) .nil))))
    hcurrent
  refine ⟨bodies, hbodies, hwithin.isInfix.trans (.trans ?_ (members_within settings _ _))⟩
  -- above these methods stand the field, the constructor and the method that reads all rows
  exact ((spaced_suffix _ 2 _ (by simp)).trans ((spaced_suffix _ 2 _ (by simp)).trans
    (spaced_suffix _ 2 _ (by simp)))).isInfix

end Schemata.Host
