import Schemata.Proofs.Storage.Columns

/-!
# Parameters of statements

`placeholders` scans the parameters from the text of a statement: each at sign opens one, and it
ends at a comma, a closing parenthesis, a semicolon or a blank. The scan of a generated statement
yields the parameters that the statement lists, by `by_key_placeholders`, `insert_placeholders` and
`update_placeholders`. In an update they are rotated, because the key is listed first and written
last.
-/

namespace Schemata.Storage

open Text

/-! ## The scan -/

/-- The character ends a parameter. -/
def endsParameter (c : Char) : Bool :=
  c == ',' || c == ')' || c == ';' || isBlank c

/-- The parameters in the rest of a text, of which one may have begun. -/
def placeholdersFrom : Option (List Char) → List Char → List (List Char)
  | none, [] => []
  | some name, [] => [name]
  | none, c :: rest => placeholdersFrom (if c = '@' then some [] else none) rest
  | some name, c :: rest =>
    if endsParameter c then name :: placeholdersFrom none rest
    else placeholdersFrom (some (name ++ [c])) rest

/-- The parameters in the text of a statement, from the left. -/
def placeholders (sql : String) : List String :=
  (placeholdersFrom none sql.toList).map String.ofList

/-- A text without at signs has no parameters. -/
theorem placeholders_behind {left : String} (h : '@' ∉ left.toList) (right : String) :
    placeholders (left ++ right) = placeholders right := by
  have hskip {text rest : List Char} (htext : '@' ∉ text) :
      placeholdersFrom none (text ++ rest) = placeholdersFrom none rest := by
    induction text with
    | nil => rfl
    | cons c text ih =>
        rw [List.mem_cons, not_or] at htext
        rw [List.cons_append, placeholdersFrom, if_neg (Ne.symm htext.1), ih htext.2]
  rw [placeholders, String.toList_append, hskip h, placeholders]

/-- A name goes on up to the first character that ends it. -/
theorem placeholders_from_name {begun name rest : List Char}
    (hname : ∀ c ∈ name, endsParameter c = false) {last : Char}
    (hlast : endsParameter last = true) :
    placeholdersFrom (some begun) (name ++ last :: rest) =
      (begun ++ name) :: placeholdersFrom none rest := by
  induction name generalizing begun with
  | nil => rw [List.nil_append, placeholdersFrom, if_pos hlast, List.append_nil]
  | cons c name ih =>
      rw [List.forall_mem_cons] at hname
      rw [List.cons_append, placeholdersFrom, if_neg (by simp [hname.1]), ih hname.2,
        List.append_assoc, List.singleton_append]

/-- A plain character does not end a parameter. -/
theorem plain_ends_not {c : Char} (h : isPlain c = true) : endsParameter c = false := by
  have hne {d : Char} (hd : isPlain d = false) : (c == d) = false := by
    rw [beq_eq_false_iff_ne]
    rintro rfl
    rw [hd] at h
    cases h
  simp [endsParameter, hne (d := ',') (by decide), hne (d := ')') (by decide),
    hne (d := ';') (by decide), plain_not_blank h]

/-- The text begins with a character that ends a parameter. -/
def StartsEnd (text : String) : Prop :=
  ∃ c ∈ text.toList.head?, endsParameter c = true

/-- The placeholder of a column is scanned as its camel name, if what follows ends it. -/
theorem placeholder_scanned {column : Column} (h : column.Worded) {rest : String}
    (hrest : StartsEnd rest) :
    placeholders (placeholder column ++ rest) = column.camelName :: placeholders rest := by
  obtain ⟨last, hhead, hlast⟩ := hrest
  obtain ⟨others, hchars⟩ := List.head?_eq_some_iff.1 hhead
  have hat : last ≠ '@' := by
    rintro rfl
    exact absurd hlast (by decide)
  have htext : (placeholder column ++ rest).toList =
      '@' :: (column.camelName.toList ++ last :: others) := by
    simp [placeholder, hchars]
  rw [placeholders, htext, placeholdersFrom, if_pos rfl,
    placeholders_from_name (fun c hc => plain_ends_not (h.camelName c hc)) hlast, List.nil_append,
    List.map_cons, String.ofList_toList, placeholders, hchars, placeholdersFrom, if_neg hat]

/-- The binding of a column is scanned as its camel name, if what follows ends it. -/
theorem binding_scanned {column : Column} (h : column.Worded) {rest : String}
    (hrest : StartsEnd rest) :
    placeholders (binding column ++ rest) = column.camelName :: placeholders rest := by
  have hname : '@' ∉ (column.name ++ " = ").toList := by
    simp [h.name.not_mem (c := '@') (by decide)]
  rw [binding, String.append_assoc, placeholders_behind hname, placeholder_scanned h hrest]

/-- Pieces that are scanned as the camel names of columns are scanned in order. -/
theorem pieces_scanned {piece : Column → String} {columns : List Column}
    (hpiece : ∀ column ∈ columns, ∀ rest, StartsEnd rest →
      placeholders (piece column ++ rest) = column.camelName :: placeholders rest)
    {rest : String} (hrest : StartsEnd rest) :
    placeholders (", ".intercalate (columns.map piece) ++ rest) =
      columns.map (·.camelName) ++ placeholders rest := by
  induction columns with
  | nil => simp
  | cons column columns ih =>
      rw [List.forall_mem_cons] at hpiece
      cases columns with
      | nil =>
          rw [List.map_singleton, String.intercalate_singleton, hpiece.1 rest hrest]
          rfl
      | cons next columns =>
          rw [List.map_cons, List.map_cons, String.intercalate_cons_cons, String.append_assoc,
            String.append_assoc, hpiece.1 _ ⟨',', by simp, by decide⟩,
            placeholders_behind (by decide), ← List.map_cons, ih hpiece.2]
          rfl

/-! ## Statements -/

variable {table : Table} {key : Column} {statement : Statement}

/-- A list of columns holds no at sign. -/
theorem at_not_mem_column_list {columns : List Column} (h : ∀ column ∈ columns, column.Worded) :
    '@' ∉ (columnList columns).toList :=
  not_mem_column_list h (by decide) (by decide)

/-- The qualified name of a table holds no at sign if its schema holds none. -/
theorem at_not_mem_qualified_name (h : table.Worded) (hschema : '@' ∉ table.schema.toList) :
    '@' ∉ table.qualifiedName.toList := by
  simp [Table.qualifiedName, hschema, h.name.not_mem (c := '@') (by decide)]

/-- The binding of the key at the end of a statement is its only parameter. -/
theorem key_placeholders {above : String} (habove : '@' ∉ above.toList) (h : key.Worded) :
    placeholders (above ++ " WHERE " ++ binding key ++ ";") = [key.camelName] := by
  have hfront : '@' ∉ (above ++ " WHERE ").toList := by simp [habove]
  rw [String.append_assoc, placeholders_behind hfront,
    binding_scanned h ⟨';', by simp, by decide⟩]
  rfl

/-- The selection and the deletion of a row have the key as their only parameter. -/
theorem by_key_placeholders {select delete : Statement} (h : table.Worded)
    (hschema : '@' ∉ table.schema.toList) (hkey : table.requirePrimaryKey = .ok key)
    (hselect : selectByKey table = .ok select) (hdelete : deleteByKey table = .ok delete) :
    placeholders select.sql = [key.camelName] ∧ select.parameters = [key.camelName] ∧
      placeholders delete.sql = [key.camelName] ∧ delete.parameters = [key.camelName] := by
  have hword := h.columns key (primary_key_mem hkey).1
  have hname := at_not_mem_qualified_name h hschema
  rw [selectByKey, hkey] at hselect
  rw [deleteByKey, hkey] at hdelete
  cases hselect
  cases hdelete
  refine ⟨key_placeholders ?_ hword, rfl, key_placeholders ?_ hword, rfl⟩
  · have hlist := at_not_mem_column_list h.columns
    simp only [selection, String.toList_append, List.mem_append, not_or]
    exact ⟨⟨⟨by decide, hlist⟩, by decide⟩, hname⟩
  · simp [hname]

/-- What a statement returns holds no parameters. -/
theorem returning_no_placeholders {columns : List Column} (h : ∀ column ∈ columns, column.Worded) :
    placeholders ("\nRETURNING " ++ columnList columns ++ ";") = [] := by
  have hlist := at_not_mem_column_list h
  have hfront : '@' ∉ ("\nRETURNING " ++ columnList columns).toList := by
    rw [String.toList_append, List.mem_append, not_or]
    exact ⟨by decide, hlist⟩
  rw [placeholders_behind hfront]
  decide

/-- The parameters of an insertion are those that it lists, one for each column that it supplies. -/
theorem insert_placeholders (h : table.Worded) (hschema : '@' ∉ table.schema.toList)
    (hinsert : insert table = .ok statement) :
    placeholders statement.sql = statement.parameters ∧
      statement.parameters = (suppliedColumns table).map (·.camelName) := by
  obtain ⟨_, -, heq⟩ := bind_eq_ok_iff.1 hinsert
  cases heq
  refine ⟨?_, rfl⟩
  have hsupplied : ∀ column ∈ suppliedColumns table, column.Worded := fun column hmem =>
    h.columns column (List.mem_filter.1 hmem).1
  have hname := at_not_mem_qualified_name h hschema
  have hlist := at_not_mem_column_list hsupplied
  have hreturning := returning_no_placeholders h.columns
  have htext (values : String) : "INSERT INTO " ++ table.qualifiedName ++ values ++ "\nRETURNING "
      ++ columnList table.columns ++ ";" = "INSERT INTO " ++ table.qualifiedName ++ (values ++
        ("\nRETURNING " ++ columnList table.columns ++ ";")) := by
    simp only [String.append_assoc]
  rw [htext, placeholders_behind (by simp [hname]), insertedValues]
  split
  · next hnone =>
      rw [placeholders_behind (by decide), hreturning, hnone]
      rfl
  · have hfront : '@' ∉ (" (" ++ columnList (suppliedColumns table) ++ ")\nVALUES (").toList := by
      simp only [String.toList_append, List.mem_append, not_or]
      exact ⟨⟨by decide, hlist⟩, by decide⟩
    rw [String.append_assoc, String.append_assoc, placeholders_behind hfront,
      pieces_scanned (fun column hmem _ hrest => placeholder_scanned (hsupplied column hmem) hrest)
        ⟨')', by simp, by decide⟩, placeholders_behind (by decide), hreturning, List.append_nil]

/-- The parameters of an update are those that it lists, but the key, which is listed first, comes
last. -/
theorem update_placeholders (h : table.Worded) (hschema : '@' ∉ table.schema.toList)
    (hkey : table.requirePrimaryKey = .ok key) (hupdate : update table = .ok statement) :
    placeholders statement.sql = statement.parameters.tail ++ statement.parameters.take 1 ∧
      statement.parameters = key.camelName :: (changedColumns table).map (·.camelName) := by
  rw [update, hkey] at hupdate
  cases hupdate
  refine ⟨?_, rfl⟩
  have hword := h.columns key (primary_key_mem hkey).1
  have hchanged : ∀ column ∈ changedColumns table, column.Worded := fun column hmem =>
    h.columns column (List.mem_filter.1 hmem).1
  have hname := at_not_mem_qualified_name h hschema
  have hreturning := returning_no_placeholders h.columns
  have htext (values : String) : "UPDATE " ++ table.qualifiedName ++ "\nSET " ++ values ++
      "\nWHERE " ++ binding key ++ "\nRETURNING " ++ columnList table.columns ++ ";" =
        "UPDATE " ++ table.qualifiedName ++ "\nSET " ++ (values ++ ("\nWHERE " ++ (binding key ++
          ("\nRETURNING " ++ columnList table.columns ++ ";")))) := by
    simp only [String.append_assoc]
  have hwhere : placeholders ("\nWHERE " ++ (binding key ++
      ("\nRETURNING " ++ columnList table.columns ++ ";"))) = [key.camelName] := by
    rw [placeholders_behind (by decide), binding_scanned hword ⟨'\n', by simp, by decide⟩,
      hreturning]
  rw [htext, placeholders_behind (by simp [hname]), assignments]
  split
  · next hnone =>
      have hself : '@' ∉ (key.name ++ " = " ++ key.name).toList := by
        simp [hword.name.not_mem (c := '@') (by decide)]
      rw [placeholders_behind hself, hwhere, hnone]
      rfl
  · rw [pieces_scanned (fun column hmem _ hrest => binding_scanned (hchanged column hmem) hrest)
      ⟨'\n', by simp, by decide⟩, hwhere]
    rfl

end Schemata.Storage
