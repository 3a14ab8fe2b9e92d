import Schemata.Proofs.Bundle
import Schemata.Proofs.Column.Default
import Schemata.Proofs.Definition.Words
import Schemata.Proofs.Storage.Clauses
import Schemata.Proofs.Text.Reading

/-!
# Reading columns back from statements

Three readers of statements: `selectedNames?` reads the names between `SELECT` and `FROM`,
`returnedNames?` those behind `RETURNING`, and `creationNames` the first words of the column lines
of a creation. On generated statements they all yield the columns of the table in the order of their
declaration. The rows of a creation are listed by `create_table_rows`.
-/

namespace Schemata.Storage

open Text

/-! ## Readers -/

/-- The names that a selection lists between `SELECT` and `FROM`. -/
def selectedNames? (sql : String) : Option (List String) := do
  let rest ← behind? "SELECT " sql
  let list ← (split " FROM " rest).head?
  pure (split ", " list)

/-- The names in the row of a statement that begins with `RETURNING`. -/
def returnedNames? (sql : String) : Option (List String) :=
  (rows sql).findSome? fun row => do
    let rest ← behind? "RETURNING " row
    let list ← (split ";" rest).head?
    pure (split ", " list)

/-- The first words of the column lines of a creation, which stand between its first and its last
row. -/
def creationNames (sql : String) : List String :=
  (rows sql).tail.dropLast.map firstWord

/-! ## Lists of names -/

variable {table : Table} {columns : List Column}

/-- A character that neither stands in a storage name nor separates names is not in a list of
them. -/
theorem not_mem_column_list (h : ∀ column ∈ columns, column.Worded) {c : Char}
    (hc : isStorageChar c = false) (hseparator : c ∉ ", ".toList) :
    c ∉ (columnList columns).toList := by
  refine not_mem_intercalate hseparator fun piece hpiece => ?_
  obtain ⟨column, hcolumn, rfl⟩ := List.mem_map.1 hpiece
  exact (h column hcolumn).name.not_mem hc

/-- The names of a list are read back. -/
theorem split_column_list (h : ∀ column ∈ columns, column.Worded) (hne : columns ≠ []) :
    split ", " (columnList columns) = columns.map (·.name) := by
  have hmark : ", ".toList = [] ++ ',' :: [' '] := rfl
  refine split_intercalate hmark (by simp) (by simpa using hne) fun piece hpiece => ?_
  obtain ⟨column, hcolumn, rfl⟩ := List.mem_map.1 hpiece
  exact (h column hcolumn).name.not_mem (by decide)

/-- The names of a selection are read back, whatever follows it. -/
theorem selection_names (h : table.Worded) (hne : table.columns ≠ []) (rest : String) :
    selectedNames? (selection table ++ rest) = some (table.columns.map (·.name)) := by
  have hlist : 'F' ∉ (columnList table.columns).toList :=
    not_mem_column_list h.columns (by decide) (by decide)
  have hmark : " FROM ".toList = [' '] ++ 'F' :: "ROM ".toList := rfl
  have hsplit : split " FROM " (columnList table.columns ++ " FROM " ++
      (table.qualifiedName ++ rest)) = _ :: _ := split_append hmark (by decide) hlist
  have htext : selection table ++ rest =
      "SELECT " ++ (columnList table.columns ++ " FROM " ++ (table.qualifiedName ++ rest)) := by
    simp only [selection, String.append_assoc]
  rw [selectedNames?, htext, behind_append]
  simp only [Option.bind_eq_bind, Option.bind_some, hsplit, List.head?_cons,
    split_column_list h.columns hne, pure]

/-- The names behind `RETURNING` are read back, where no row above begins in the same way. -/
theorem returning_names (h : ∀ column ∈ columns, column.Worded) (hne : columns ≠ [])
    {above : String} (habove : ∀ row ∈ rows above, row.toList.head? ≠ some 'R') :
    returnedNames? (above ++ "\nRETURNING " ++ columnList columns ++ ";") =
      some (columns.map (·.name)) := by
  have hnone : (rows above).findSome? (fun row => do
      let rest ← behind? "RETURNING " row
      let list ← (split ";" rest).head?
      pure (split ", " list)) = none := by
    rw [List.findSome?_eq_none_iff]
    intro row hrow
    rw [behind_eq_none (by simpa using habove row hrow) (by decide)]
    rfl
  have hlist : '\n' ∉ (columnList columns).toList :=
    not_mem_column_list h (by decide) (by decide)
  have hend : ';' ∉ (columnList columns).toList :=
    not_mem_column_list h (by decide) (by decide)
  have hrow : '\n' ∉ ("RETURNING " ++ (columnList columns ++ ";" ++ "")).toList := by
    simp [hlist]
  have hmark : ";".toList = [] ++ ';' :: [] := rfl
  have hsplit : split ";" (columnList columns ++ ";" ++ "") = _ :: _ :=
    split_append hmark (by simp) hend
  have htext : above ++ "\nRETURNING " ++ columnList columns ++ ";" =
      above ++ "\n" ++ ("RETURNING " ++ (columnList columns ++ ";" ++ "")) := by
    rw [show "\nRETURNING " = "\n" ++ "RETURNING " from rfl]
    simp only [String.append_assoc, String.append_empty]
  rw [returnedNames?, htext, rows_append, List.findSome?_append, hnone, rows_single hrow]
  simp only [Option.none_or, List.findSome?_cons, behind_append, Option.bind_eq_bind,
    Option.bind_some, hsplit, List.head?_cons, split_column_list h hne, pure]

/-! ## Statements on one row or several -/

variable {statement : Statement} {key : Column}

/-- The qualified name of a table is written on one line. -/
theorem qualified_name_one_line (h : table.Spelled) : '\n' ∉ table.qualifiedName.toList := by
  simp [Table.qualifiedName, h.schema.not_mem (c := '\n') (by decide),
    h.name.not_mem (c := '\n') (by decide)]

/-- The binding of a column is written on one line. -/
theorem binding_one_line {column : Column} (h : column.Worded) :
    '\n' ∉ (binding column).toList := by
  simp [binding, placeholder, h.name.not_mem (c := '\n') (by decide),
    h.camelName.not_mem (c := '\n') (by decide)]

/-- What is inserted is written on one line, or on a second one that begins with `VALUES`. -/
theorem inserted_values_rows (h : ∀ column ∈ table.columns, column.Worded) :
    '\n' ∉ (insertedValues table).toList ∨
      ∃ first second, insertedValues table = first ++ "\n" ++ ("VALUES " ++ second) ∧
        '\n' ∉ first.toList ∧ '\n' ∉ second.toList := by
  have hsupplied : ∀ column ∈ suppliedColumns table, column.Worded := fun column hmem =>
    h column (List.mem_filter.1 hmem).1
  unfold insertedValues
  split
  · exact .inl (by decide)
  · refine .inr ⟨" (" ++ columnList (suppliedColumns table) ++ ")",
      "(" ++ ", ".intercalate ((suppliedColumns table).map placeholder) ++ ")", ?_, ?_, ?_⟩
    · rw [show ")\nVALUES (" = ")" ++ "\n" ++ "VALUES " ++ "(" from rfl]
      simp only [String.append_assoc]
    · simp [not_mem_column_list hsupplied (c := '\n') (by decide) (by decide)]
    · have hlist : '\n' ∉ (", ".intercalate ((suppliedColumns table).map placeholder)).toList := by
        refine not_mem_intercalate (by decide) fun piece hpiece => ?_
        obtain ⟨column, hcolumn, rfl⟩ := List.mem_map.1 hpiece
        simp [placeholder, (hsupplied column hcolumn).camelName.not_mem (c := '\n') (by decide)]
      simp only [String.toList_append, List.mem_append, not_or]
      exact ⟨⟨by decide, hlist⟩, by decide⟩

/-- The names that an insertion returns are read back. -/
theorem insert_names (h : table.Spelled) (hne : table.columns ≠ [])
    (hinsert : insert table = .ok statement) :
    returnedNames? statement.sql = some (table.columns.map (·.name)) := by
  obtain ⟨_, -, heq⟩ := bind_eq_ok_iff.1 hinsert
  cases heq
  have hname := qualified_name_one_line h
  refine returning_names h.columns hne fun row hrow => ?_
  rcases inserted_values_rows h.columns with hvalues | ⟨first, second, hvalues, hfirst, hsecond⟩
  · rw [rows_single (by simp [hname, hvalues]), List.mem_singleton] at hrow
    simp [hrow]
  · have htext : "INSERT INTO " ++ table.qualifiedName ++ insertedValues table =
        "INSERT INTO " ++ table.qualifiedName ++ first ++ "\n" ++ ("VALUES " ++ second) := by
      simp only [hvalues, String.append_assoc]
    rw [htext, rows_append, rows_single (by simp [hname, hfirst]),
      rows_single (by simp [hsecond])] at hrow
    simp only [List.singleton_append, List.mem_cons, List.not_mem_nil, or_false] at hrow
    rcases hrow with rfl | rfl <;> simp

/-- The assignments of an update are written on one line. -/
theorem assignments_one_line (h : ∀ column ∈ table.columns, column.Worded) (hkey : key.Worded) :
    '\n' ∉ (assignments table key).toList := by
  unfold assignments
  split
  · simp [hkey.name.not_mem (c := '\n') (by decide)]
  · refine not_mem_intercalate (by decide) fun piece hpiece => ?_
    obtain ⟨column, hcolumn, rfl⟩ := List.mem_map.1 hpiece
    exact binding_one_line (h column (List.mem_filter.1 hcolumn).1)

/-- The names that an update returns are read back. -/
theorem update_names (h : table.Spelled) (hupdate : update table = .ok statement) :
    returnedNames? statement.sql = some (table.columns.map (·.name)) := by
  obtain ⟨key, hkey, heq⟩ := bind_eq_ok_iff.1 hupdate
  cases heq
  have hmem := (primary_key_mem hkey).1
  have hname := qualified_name_one_line h
  have hassignments := assignments_one_line h.columns (h.columns key hmem)
  have hbinding := binding_one_line (h.columns key hmem)
  refine returning_names h.columns (List.ne_nil_of_mem hmem) fun row hrow => ?_
  rw [show "\nWHERE " = "\n" ++ "WHERE " from rfl, show "\nSET " = "\n" ++ "SET " from rfl] at hrow
  have htext : "UPDATE " ++ table.qualifiedName ++ ("\n" ++ "SET ") ++ assignments table key ++
      ("\n" ++ "WHERE ") ++ binding key = "UPDATE " ++ table.qualifiedName ++ "\n" ++
        ("SET " ++ assignments table key ++ "\n" ++ ("WHERE " ++ binding key)) := by
    simp only [String.append_assoc]
  rw [htext, rows_append, rows_append, rows_single (by simp [hname]),
    rows_single (by simp [hassignments]), rows_single (by simp [hbinding])] at hrow
  simp only [List.singleton_append, List.mem_cons, List.not_mem_nil, or_false] at hrow
  rcases hrow with rfl | rfl | rfl <;> simp

/-! ## The lines of a creation -/

/-- `Begins column line` says that a line begins with the name of a column and a blank, and that it
is one line. -/
def Begins (column : Column) (line : String) : Prop :=
  ∃ rest, line = column.name ++ " " ++ rest ∧ '\n' ∉ line.toList

/-- The clause of a default value is written on one line. -/
theorem default_clause_one_line {column : Column} {clause : String}
    (h : defaultClause column = .ok clause) : '\n' ∉ clause.toList := by
  unfold defaultClause at h
  split at h
  · obtain ⟨expression, hexpression, rfl⟩ := map_eq_ok_iff.1 h
    simp [default_expression_one_line hexpression]
  · cases h
    decide

/-- The clause of a foreign key is written on one line. -/
theorem references_clause_one_line {column : Column}
    (h : ∀ name ∈ column.referredNames, IsStorage name) :
    '\n' ∉ (referencesClause column).toList := by
  unfold referencesClause
  split
  · next key hkey =>
      simp only [Column.referredNames, hkey, List.forall_mem_cons] at h
      simp [ForeignKey.describe, ForeignKey.target, h.1.not_mem (c := '\n') (by decide),
        h.2.1.not_mem (c := '\n') (by decide), h.2.2.1.not_mem (c := '\n') (by decide)]
  · decide

/-- The line of a column begins with its name. -/
theorem column_definition_begins {column : Column} {line : String} (hcolumn : column.Spelled)
    (h : columnDefinition column = .ok line) : Begins column line := by
  simp only [columnDefinition, bind_eq_ok_iff] at h
  obtain ⟨generated, hgenerated, default, hdefault, heq⟩ := h
  cases heq
  obtain ⟨htype, hkey, hnull, hunique⟩ := not_mem_clauses column (c := '\n') (by decide)
  refine ⟨columnType column ++ keyClause column ++ generated ++ notNullClause column ++
    referencesClause column ++ default ++ uniqueClause column, ?_, ?_⟩
  · simp only [String.append_assoc]
  · simp [hcolumn.name.not_mem (c := '\n') (by decide), htype, hkey, hnull, hunique,
      not_mem_generated_clause hgenerated (c := '\n') (by decide), default_clause_one_line hdefault,
      references_clause_one_line hcolumn.referred]

/-- Lines that begin with the names of columns still do so with a comma behind them. -/
theorem separated_begins {lines : List String} (h : List.Forall₂ Begins columns lines) :
    List.Forall₂ Begins columns (separated "," lines) := by
  induction h with
  | nil => exact .nil
  | @cons column line columns lines hfirst hrest ih =>
      cases hrest with
      | nil => exact .cons hfirst .nil
      | cons =>
          obtain ⟨rest, heq, hline⟩ := hfirst
          refine .cons ⟨rest ++ ",", ?_, ?_⟩ ih
          · rw [heq, String.append_assoc]
          · simp [hline]

/-- The text of a creation whose column lines are given, row by row. -/
def creationText (settings : Settings) (table : Table) (lines : List String) : String :=
  "CREATE TABLE " ++ table.qualifiedName ++ " (" ++ "\n" ++
    (unlines ((separated "," lines).map (settings.indentUnit ++ ·)) ++ ");")

/-- A table is created by the lines of its columns. -/
theorem create_table_iff {settings : Settings} {creation : String} :
    createTable settings table = .ok creation ↔
      ∃ lines, List.Forall₂ (fun column line => columnDefinition column = .ok line) table.columns
        lines ∧ creation = creationText settings table lines := by
  have htext (lines : List String) : "CREATE TABLE " ++ table.qualifiedName ++ " (\n" ++
      String.join ((separated "," lines).map (settings.indentUnit ++ · ++ "\n")) ++ ");" =
        creationText settings table lines := by
    have hopening : " (\n" = " (" ++ "\n" := rfl
    unfold creationText
    simp only [unlines, List.map_map, Function.comp_def, hopening, String.append_assoc]
  rw [createTable, bind_eq_ok_iff]
  simp only [htext, map_m_eq_ok_iff]
  refine exists_congr fun lines => and_congr_right fun _ => ?_
  exact ⟨fun heq => (Except.ok.inj heq).symm, fun heq => congrArg Except.ok heq.symm⟩

/-- The first row of a creation names the table, the last one closes the list of columns, and the
rows between them are the lines of the columns. -/
theorem create_table_rows {settings : Settings} {creation : String} (h : table.Spelled)
    (hcreation : createTable settings table = .ok creation) :
    ∃ lines, List.Forall₂ (fun column line => columnDefinition column = .ok line) table.columns
        lines ∧
      rows creation = ("CREATE TABLE " ++ table.qualifiedName ++ " (") ::
        ((separated "," lines).map (settings.indentUnit ++ ·) ++ [");"]) := by
  obtain ⟨lines, hlines, rfl⟩ := create_table_iff.1 hcreation
  refine ⟨lines, hlines, ?_⟩
  have hline : ∀ line ∈ lines, '\n' ∉ line.toList := by
    intro line hmem
    obtain ⟨column, hcolumn, hok⟩ := forall_mem_right hlines hmem
    obtain ⟨-, -, hone⟩ := column_definition_begins (h.column hcolumn) hok
    exact hone
  have hrows : ∀ row ∈ (separated "," lines).map (settings.indentUnit ++ ·),
      '\n' ∉ row.toList := by
    intro row hrow
    obtain ⟨inner, hinner, rfl⟩ := List.mem_map.1 hrow
    have hindent : '\n' ∉ settings.indentUnit.toList := fun hmem =>
      absurd (mem_indentation hmem) (by decide)
    obtain ⟨line, hmem, rfl | rfl⟩ := mem_separated hinner
    · simp [hindent, hline _ hmem]
    · simp [hindent, hline line hmem]
  have hfirst : '\n' ∉ ("CREATE TABLE " ++ table.qualifiedName ++ " (").toList := by
    simp [qualified_name_one_line h]
  unfold creationText
  rw [rows_append, rows_unlines_append, rows_unlines hrows, rows_single hfirst,
    rows_single (by decide), List.singleton_append]

/-- The names of the columns are read back from the lines of a creation. -/
theorem creation_names {settings : Settings} {creation : String} (h : table.Spelled)
    (hcreation : createTable settings table = .ok creation) :
    creationNames creation = table.columns.map (·.name) := by
  obtain ⟨definitions, hdefinitions, hrows⟩ := create_table_rows h hcreation
  have hlines : List.Forall₂ Begins table.columns (separated "," definitions) := by
    have hboth := (List.forall₂_and_left _ _).2 ⟨fun column hmem => h.column hmem, hdefinitions⟩
    exact separated_begins (hboth.imp fun column line hline =>
      column_definition_begins hline.1 hline.2)
  have hblank : IsBlankText settings.indentUnit := by
    intro c hmem
    rcases mem_indentation hmem with rfl | rfl <;> decide
  rw [creationNames, hrows, List.tail_cons, List.dropLast_concat, List.map_map]
  refine (forall_map_eq hlines fun column line hmem hbegins => ?_).symm
  obtain ⟨rest, rfl, -⟩ := hbegins
  have hword := h.columns column hmem
  rw [Function.comp_apply, ← String.append_assoc, ← String.append_assoc,
    first_word_append hblank hword.name_ne fun c hc => ?_]
  exact storage_char_not_blank (hword.name c hc)

end Schemata.Storage
