import Schemata.Proofs.Storage.Columns

/-!
# A foreign key names the table it was written for

The header of a table is put in storage spelling twice and a foreign key only once, and the schema
of a foreign key is always the default one. The two still agree where the names are ASCII, because
a storage name of such a name stays as it is. So a foreign key whose names are spelled like those of
a table and of its column, in whatever way, holds the names of this table and this column. By
`references_name_tables` the clause of the key, the dependencies of the table that holds it, and the
statement that creates the other table all have the same text.
-/

namespace Schemata

namespace Definition

variable {schema : String} {texts : List String} {declaration : TableDeclaration} {table : Table}

/-- `Declares schema text declarations tables` says that the text is parsed to the tables and that
the declarations are those of its tokens, each of which denotes the table at its place. -/
structure Declares (schema text : String) (declarations : List TableDeclaration)
    (tables : List Table) : Prop where
  parsed : parse schema text = .ok tables
  derived : ∃ tokens, Token.tokenize text = .ok tokens ∧ File declarations tokens
  denoted : List.Forall₂ (TableDeclaration.Denotes schema) declarations tables

/-- `DeclaredIn schema texts declaration table` says that one of the texts holds the declaration and
that the table is the one that was parsed from it. -/
def DeclaredIn (schema : String) (texts : List String) (declaration : TableDeclaration)
    (table : Table) : Prop :=
  ∃ text ∈ texts, ∃ declarations tables, Declares schema text declarations tables ∧
    (declaration, table) ∈ declarations.zip tables

/-- A declaration denotes the table that was parsed from it. -/
theorem DeclaredIn.denotes (h : DeclaredIn schema texts declaration table) :
    declaration.Denotes schema table := by
  obtain ⟨text, -, declarations, tables, hdeclares, hmem⟩ := h
  exact List.forall₂_zip hdeclares.denoted hmem

/-- Every parsed table has a declaration. -/
theorem exists_declared {text : String} {tables : List Table} (htext : text ∈ texts)
    (hparse : parse schema text = .ok tables) (htable : table ∈ tables) :
    ∃ declaration, DeclaredIn schema texts declaration table := by
  obtain ⟨tokens, declarations, hscan, hfile, -, hdenotes⟩ := parse_sound hparse
  have hzip : List.Forall₂ (fun declaration table => (declaration, table) ∈ declarations.zip tables)
      declarations tables := List.forall₂_iff_zip.2 ⟨hdenotes.length_eq, id⟩
  obtain ⟨declaration, -, hmem⟩ := forall_mem_right hzip htable
  exact ⟨declaration, text, htext, declarations, tables, ⟨hparse, ⟨tokens, hscan, hfile⟩, hdenotes⟩,
    hmem⟩

/-- The declaration has an ASCII name, and its schema is missing or spelled like the default one. -/
structure TableDeclaration.AtHome (schema : String) (declaration : TableDeclaration) : Prop where
  schema : ∀ space ∈ declaration.schema, storageName space = storageName schema
  name : IsAsciiText declaration.name

/-- The names of a table at home are those of its header in storage spelling. -/
theorem TableDeclaration.Denotes.names_at_home (h : declaration.Denotes schema table)
    (hschema : IsAsciiText schema) (hhome : declaration.AtHome schema) :
    table.schema = storageName schema ∧ table.name = storageName declaration.name := by
  constructor
  · have hspace : storageName (declaration.schema.getD schema) = storageName schema := by
      cases hsome : declaration.schema with
      | none => rfl
      | some space => exact hhome.schema space hsome
    rw [h.schema, hspace, storage_name_again hschema]
  · rw [h.name, storage_name_again hhome.name]

end Definition

namespace Storage

variable {settings : Settings} {table : Table} {creation : String}

/-- A table depends on the other tables to which one of its foreign keys points. -/
theorem mem_dependencies_iff {name : String} :
    name ∈ dependencies table ↔ name ≠ table.qualifiedName ∧
      ∃ column ∈ table.columns, ∃ key, column.foreignKey = some key ∧ key.target = name := by
  simp only [dependencies, List.mem_eraseDups, List.mem_filter, List.mem_map, List.mem_filterMap,
    bne_iff_ne]
  constructor
  · rintro ⟨⟨key, ⟨column, hmem, hkey⟩, htarget⟩, hne⟩
    exact ⟨hne, column, hmem, key, hkey, htarget⟩
  · rintro ⟨hne, column, hmem, key, hkey, htarget⟩
    exact ⟨⟨key, ⟨column, hmem, hkey⟩, htarget⟩, hne⟩

/-- `HasLine settings creation text` says that the text begins a line of the creation, behind the
indentation. -/
def HasLine (settings : Settings) (creation text : String) : Prop :=
  ∃ above rest, creation = above ++ "\n" ++ settings.indentUnit ++ text ++ rest

/-- Where a line begins with a text, it begins with the beginning of this text. -/
theorem HasLine.of_append {text : String} (more : String)
    (h : HasLine settings creation (text ++ more)) : HasLine settings creation text := by
  obtain ⟨above, rest, rfl⟩ := h
  refine ⟨above, more ++ rest, ?_⟩
  simp only [String.append_assoc]

/-- Every column has a line in a creation. -/
theorem has_line_of_mem (h : createTable settings table = .ok creation) {column : Column}
    (hcolumn : column ∈ table.columns) :
    ∃ line, columnDefinition column = .ok line ∧ HasLine settings creation line := by
  obtain ⟨lines, hlines, rfl⟩ := create_table_iff.1 h
  obtain ⟨line, hline, hok⟩ := forall_mem_right hlines.flip hcolumn
  refine ⟨line, hok, ?_⟩
  obtain ⟨comma, hcomma⟩ := Text.mem_separated_of_mem "," hline
  have hmem := List.mem_map_of_mem (f := (settings.indentUnit ++ ·)) hcomma
  obtain ⟨above, below, hrows⟩ := unlines_of_mem hmem
  refine ⟨"CREATE TABLE " ++ table.qualifiedName ++ " (" ++ above, comma ++ below ++ ");", ?_⟩
  calc creationText settings table lines
    _ = "CREATE TABLE " ++ table.qualifiedName ++ " (" ++
        ("\n" ++ unlines ((Text.separated "," lines).map (settings.indentUnit ++ ·))) ++ ");" := by
      unfold creationText
      simp only [String.append_assoc]
    _ = "CREATE TABLE " ++ table.qualifiedName ++ " (" ++ above ++ "\n" ++ settings.indentUnit ++
        line ++ (comma ++ below ++ ");") := by
      rw [hrows]
      simp only [String.append_assoc]

/-- A creation begins with the qualified name of its table. -/
theorem create_table_head (h : createTable settings table = .ok creation) :
    ∃ rest, creation = "CREATE TABLE " ++ table.qualifiedName ++ " (" ++ rest := by
  obtain ⟨lines, -, rfl⟩ := create_table_iff.1 h
  refine ⟨"\n" ++ (unlines ((Text.separated "," lines).map (settings.indentUnit ++ ·)) ++ ");"), ?_⟩
  unfold creationText
  simp only [String.append_assoc]

/-- The line of a column begins with its name and ends with the clauses that follow its type, among
them the one of its foreign key. -/
theorem column_definition_references {column : Column} {line : String}
    (h : columnDefinition column = .ok line) :
    ∃ front back, line = column.name ++ " " ++ front ++ referencesClause column ++ back := by
  simp only [columnDefinition, bind_eq_ok_iff] at h
  obtain ⟨generated, -, default, -, heq⟩ := h
  cases heq
  refine ⟨columnType column ++ keyClause column ++ generated ++ notNullClause column,
    default ++ uniqueClause column, ?_⟩
  simp only [String.append_assoc]

/-- `Refers source referrer table column` says that the column `referrer` of the table `source`
refers to a column of another table, or of the same one, with the text by which this column is
created. -/
structure Refers (source : Table) (referrer : Column) (table : Table) (column : Column) : Prop where
  key : referrer.foreignKey = some ⟨table.schema, table.name, column.name⟩
  clause : referencesClause referrer =
    " REFERENCES " ++ table.qualifiedName ++ "(" ++ column.name ++ ")"
  dependency : table.qualifiedName ∈ dependencies source ↔
    table.qualifiedName ≠ source.qualifiedName
  referring {settings : Settings} {creation : String} :
    createTable settings source = .ok creation →
    ∃ type, HasLine settings creation (referrer.name ++ " " ++ type ++ " REFERENCES " ++
      table.qualifiedName ++ "(" ++ column.name ++ ")")
  created {settings : Settings} {creation : String} :
    createTable settings table = .ok creation →
    (∃ rest, creation = "CREATE TABLE " ++ table.qualifiedName ++ " (" ++ rest) ∧
      HasLine settings creation (column.name ++ " ")

/-- A column refers to the column that its foreign key names. -/
theorem refers_of_key {source : Table} {referrer column : Column}
    (hreferrer : referrer ∈ source.columns) (hcolumn : column ∈ table.columns)
    (hkey : referrer.foreignKey = some ⟨table.schema, table.name, column.name⟩) :
    Refers source referrer table column := by
  have hclause : referencesClause referrer =
      " REFERENCES " ++ table.qualifiedName ++ "(" ++ column.name ++ ")" := by
    simp only [referencesClause, hkey, ForeignKey.describe, ForeignKey.target, Table.qualifiedName,
      String.append_assoc]
  refine ⟨hkey, hclause, ?_, fun hcreation => ?_, fun hcreation => ⟨?_, ?_⟩⟩
  · rw [mem_dependencies_iff, and_iff_left]
    exact ⟨referrer, hreferrer, _, hkey, rfl⟩
  · obtain ⟨line, hline, hmem⟩ := has_line_of_mem hcreation hreferrer
    obtain ⟨front, back, rfl⟩ := column_definition_references hline
    rw [hclause] at hmem
    refine ⟨front, .of_append back ?_⟩
    simpa only [String.append_assoc] using hmem
  · exact create_table_head hcreation
  · obtain ⟨line, hline, hmem⟩ := has_line_of_mem hcreation hcolumn
    obtain ⟨front, back, rfl⟩ := column_definition_references hline
    refine .of_append (front ++ referencesClause column ++ back) ?_
    simpa only [String.append_assoc] using hmem

end Storage

open Definition

/-- The foreign keys of a batch name the tables they were written for. The declarations are those of
the parsed tables. Where the header of a table is ASCII and the default schema is its own, the table
is none of its own dependencies, and every foreign key whose names are spelled like the header and a
column of the table holds the names of the table and of the column. The last foreign key of a column
is the one that counts. -/
theorem references_name_tables {schema : String} (hschema : IsAsciiText schema)
    (texts : List String) :
    (∀ text ∈ texts, ∀ tables, parse schema text = .ok tables → ∀ table ∈ tables,
      ∃ declaration, DeclaredIn schema texts declaration table) ∧
    ∀ declaration table, DeclaredIn schema texts declaration table → declaration.AtHome schema →
      storageName schema ++ "." ++ storageName declaration.name ∉ Storage.dependencies table ∧
      ∀ declared column, (declared, column) ∈ declaration.columns.zip table.columns →
        ∀ referring source, DeclaredIn schema texts referring source →
          ∀ holder referrer, (holder, referrer) ∈ referring.columns.zip source.columns →
            ∀ target point, .foreignKey target point ∈ holder.items →
              storageName target = storageName declaration.name →
              storageName point = storageName declared.name →
              ForeignKey.ofNames schema target point =
                ⟨table.schema, table.name, column.name⟩ ∧
              (ForeignKey.ofNames schema target point).target = table.qualifiedName ∧
              (lastOf Item.key? holder.items = some (target, point) →
                Storage.Refers source referrer table column) := by
  refine ⟨fun text htext tables hparse table htable => exists_declared htext hparse htable, ?_⟩
  intro declaration table hdeclared hhome
  obtain ⟨hspace, hname⟩ := hdeclared.denotes.names_at_home hschema hhome
  refine ⟨?_, ?_⟩
  · rw [← hspace, ← hname, Storage.mem_dependencies_iff]
    exact fun hdependency => hdependency.1 rfl
  · intro declared column hcolumn referring source hsource holder referrer hreferrer target point
      hitem htarget hpoint
    have hdenotes := List.forall₂_zip hdeclared.denotes.columns hcolumn
    have hholder := List.forall₂_zip hsource.denotes.columns hreferrer
    have hkey : ForeignKey.ofNames schema target point =
        ⟨table.schema, table.name, column.name⟩ := by
      rw [ForeignKey.ofNames, htarget, hpoint, ← hspace, ← hname, ← hdenotes.name]
    refine ⟨hkey, by rw [hkey]; rfl, fun hlast => ?_⟩
    refine Storage.refers_of_key (List.of_mem_zip hreferrer).2 (List.of_mem_zip hcolumn).2 ?_
    rw [congrArg Modifiers.foreignKey hholder.modifiers, modifiersOf, hlast, Option.map_some, hkey]

/-- A text that declares a single table with a single column. -/
theorem declares_single {schema text name column : String} {items : List Item}
    {tokens : List Token} {table : Table} (hitems : Items items tokens)
    (hscan : Token.tokenize text =
      .ok (.name name :: .openTable :: .name column :: tokens ++ [.closeTable]))
    (hparse : parse schema text = .ok [table])
    (hdenotes : TableDeclaration.Denotes schema ⟨none, name, [⟨column, items⟩]⟩ table) :
    Declares schema text [⟨none, name, [⟨column, items⟩]⟩] [table] := by
  have hnone : Separators [] := by simp [Separators]
  have hbody : Body [⟨column, items⟩] ([] ++ .name column :: tokens ++ []) :=
    .columns hnone (.single (.intro hitems)) hnone
  rw [List.nil_append, List.append_nil] at hbody
  have hlines : LineBreaks [] := by simp [LineBreaks]
  exact ⟨hparse, ⟨_, hscan, File.nil.table (.intro hlines hbody)⟩, .cons hdenotes .nil⟩

/-- A foreign key in one text refers to a table in another one, whose names are spelled in another
way there. -/
theorem other_spelling_refers :
    ∃ texts declaration table declared column referring source holder referrer,
      texts = ["AbC \x7b Id int pk \x7d", "d \x7b x int fk abC.id \x7d"] ∧
      DeclaredIn "public" texts declaration table ∧ declaration.AtHome "public" ∧
      (declared, column) ∈ declaration.columns.zip table.columns ∧
      DeclaredIn "public" texts referring source ∧
      (holder, referrer) ∈ referring.columns.zip source.columns ∧
      lastOf Item.key? holder.items = some ("abC", "id") ∧
      table.qualifiedName = "public.ab_c" ∧
      ForeignKey.ofNames "public" "abC" "id" = ⟨table.schema, table.name, column.name⟩ ∧
      Storage.Refers source referrer table column ∧
      "public.ab_c" ∉ Storage.dependencies table := by
  obtain ⟨_, hscan, rfl⟩ : ∃ tokens, Token.tokenize "AbC \x7b Id int pk \x7d" = .ok tokens ∧
      tokens = [.name "AbC", .openTable, .name "Id", .dataType .int, .primaryKey, .closeTable] :=
    exists_eq_ok (by decide +kernel)
  obtain ⟨_, hparse, rfl⟩ : ∃ tables, parse "public" "AbC \x7b Id int pk \x7d" = .ok tables ∧
      tables = [⟨"public", "ab_c", "AbC",
        [⟨{ primaryKey := true }, "id", "Id", "id", .int, rfl⟩]⟩] :=
    exists_eq_ok (by decide +kernel)
  have htable := declares_single (.snoc (.snoc .nil (.dataType .int)) .primaryKey) hscan hparse
    ⟨rfl, rfl, rfl, .cons ⟨rfl, rfl, rfl, rfl, rfl⟩ .nil⟩
  obtain ⟨_, hscan, rfl⟩ : ∃ tokens, Token.tokenize "d \x7b x int fk abC.id \x7d" = .ok tokens ∧
      tokens = [.name "d", .openTable, .name "x", .dataType .int, .foreignKey,
        .reference "abC" "id", .closeTable] :=
    exists_eq_ok (by decide +kernel)
  obtain ⟨_, hparse, rfl⟩ : ∃ tables, parse "public" "d \x7b x int fk abC.id \x7d" = .ok tables ∧
      tables = [⟨"public", "d", "D",
        [⟨{ foreignKey := some ⟨"public", "ab_c", "id"⟩ }, "x", "X", "x", .int, rfl⟩]⟩] :=
    exists_eq_ok (by decide +kernel)
  have hsource := declares_single (.snoc (.snoc .nil (.dataType .int)) (.foreignKey "abC" "id"))
    hscan hparse ⟨rfl, rfl, rfl, .cons ⟨rfl, rfl, rfl, rfl, rfl⟩ .nil⟩
  have hschema : IsAsciiText "public" := List.all_eq_true.1 (by decide)
  have hhome : TableDeclaration.AtHome "public"
      ⟨none, "AbC", [⟨"Id", [.dataType .int, .primaryKey]⟩]⟩ :=
    ⟨by simp, List.all_eq_true.1 (by decide)⟩
  have hdeclared : DeclaredIn "public" ["AbC \x7b Id int pk \x7d", "d \x7b x int fk abC.id \x7d"]
      _ _ := ⟨_, List.mem_cons_self, _, _, htable, List.mem_cons_self⟩
  have hreferring : DeclaredIn "public"
      ["AbC \x7b Id int pk \x7d", "d \x7b x int fk abC.id \x7d"] _ _ :=
    ⟨_, List.mem_cons_of_mem _ List.mem_cons_self, _, _, hsource, List.mem_cons_self⟩
  obtain ⟨hown, hall⟩ := (references_name_tables hschema _).2 _ _ hdeclared hhome
  obtain ⟨hkey, -, hrefers⟩ := hall _ _ List.mem_cons_self _ _ hreferring _ _ List.mem_cons_self
    "abC" "id" (by decide) rfl rfl
  exact ⟨_, _, _, _, _, _, _, _, _, rfl, hdeclared, hhome, List.mem_cons_self, hreferring,
    List.mem_cons_self, rfl, rfl, hkey, hrefers rfl, hown⟩

end Schemata
