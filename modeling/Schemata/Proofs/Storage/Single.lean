import Schemata.Proofs.Storage.Columns

/-!
# Every statement is a single one

Names are written into statements as they are, and so are the default values of floating-point
columns. Still no name and no default value ends a statement or opens a quotation in it: by
`statements_single` every generated statement has one semicolon, at its end, no double quotes and no
backslashes, and single quotes only where it asks for the current time in universal time. A piece of
a statement with this property but without the semicolon is inert, and inert pieces next to each
other are inert.
-/

namespace Schemata

namespace Text

/-- Single quotes of the text stand only inside of occurrences of the fixed text. -/
def QuotesWithin (fixed text : List Char) : Prop :=
  ∀ i : Nat, text[i]? = some '\'' →
    ∃ left right, text = left ++ fixed ++ right ∧ left.length ≤ i ∧ i < left.length + fixed.length

/-- A text without single quotes has none outside of the fixed text. -/
theorem quotes_within_of_not_mem {fixed text : List Char} (h : '\'' ∉ text) :
    QuotesWithin fixed text := fun _ hi =>
  absurd (List.mem_of_getElem? hi) h

/-- The fixed text has its quotes inside of itself. -/
theorem quotes_within_self (fixed : List Char) : QuotesWithin fixed fixed := by
  intro i hi
  obtain ⟨hlength, -⟩ := List.getElem?_eq_some_iff.1 hi
  exact ⟨[], [], by simp, by simp, by simpa using hlength⟩

/-- Two texts next to each other have no other quotes than each of them. -/
theorem QuotesWithin.append {fixed left right : List Char} (hleft : QuotesWithin fixed left)
    (hright : QuotesWithin fixed right) : QuotesWithin fixed (left ++ right) := by
  intro i hi
  rw [List.getElem?_append] at hi
  split at hi
  · obtain ⟨before, after, heq, hfirst, hlast⟩ := hleft i hi
    exact ⟨before, after ++ right, by simp [heq], hfirst, hlast⟩
  · next hbehind =>
      obtain ⟨before, after, heq, hfirst, hlast⟩ := hright (i - left.length) hi
      refine ⟨left ++ before, after, by simp [heq], ?_, ?_⟩
      · rw [List.length_append]
        omega
      · rw [List.length_append]
        omega

end Text

namespace Storage

open Text

/-- How a statement asks for the current time in universal time. -/
def universalTime : String :=
  "(NOW() at time zone 'utc')"

/-- The text is a single statement: its only semicolon is its last character, and it has no
quotations and no escapes, except for the quotes in the current time. -/
structure IsSingle (sql : String) : Prop where
  one : sql.toList.count ';' = 1
  last : sql.toList.getLast? = some ';'
  quotation : '"' ∉ sql.toList
  escape : '\\' ∉ sql.toList
  quotes : QuotesWithin universalTime.toList sql.toList

/-- The piece of a statement neither ends it nor opens a quotation in it. -/
structure Inert (piece : String) : Prop where
  semicolon : ';' ∉ piece.toList
  quotation : '"' ∉ piece.toList
  escape : '\\' ∉ piece.toList
  quotes : QuotesWithin universalTime.toList piece.toList

/-- The character has no meaning of its own in a statement. -/
def isInert (c : Char) : Bool :=
  c != ';' && c != '"' && c != '\\' && c != '\''

namespace Inert

variable {left right separator piece : String} {pieces : List String}

/-- A text that lacks all characters with a meaning is inert. -/
theorem of_chars (h : ∀ c, isInert c = false → c ∉ piece.toList) : Inert piece :=
  ⟨h _ (by decide), h _ (by decide), h _ (by decide),
    quotes_within_of_not_mem (h _ (by decide))⟩

/-- A text whose characters all have no meaning is inert. -/
theorem of_all (h : piece.toList.all isInert = true) : Inert piece := by
  refine of_chars fun c hc hmem => ?_
  rw [List.all_eq_true.1 h c hmem] at hc
  cases hc

/-- Two inert pieces next to each other are inert. -/
theorem append (hleft : Inert left) (hright : Inert right) : Inert (left ++ right) := by
  refine ⟨?_, ?_, ?_, ?_⟩ <;> rw [String.toList_append]
  · exact List.not_mem_append hleft.semicolon hright.semicolon
  · exact List.not_mem_append hleft.quotation hright.quotation
  · exact List.not_mem_append hleft.escape hright.escape
  · exact hleft.quotes.append hright.quotes

/-- Inert pieces with an inert separator between any two of them are inert. -/
theorem intercalate (hseparator : Inert separator) (h : ∀ piece ∈ pieces, Inert piece) :
    Inert (separator.intercalate pieces) := by
  induction pieces with
  | nil =>
      rw [String.intercalate_nil]
      exact of_all (by decide)
  | cons piece pieces ih =>
      rw [List.forall_mem_cons] at h
      cases pieces with
      | nil => simpa using h.1
      | cons next rest =>
          rw [String.intercalate_cons_cons]
          exact (h.1.append hseparator).append (ih h.2)

/-- Inert pieces one behind the other are inert. -/
theorem join (h : ∀ piece ∈ pieces, Inert piece) : Inert (String.join pieces) := by
  induction pieces with
  | nil => exact of_all (by decide)
  | cons piece pieces ih =>
      rw [List.forall_mem_cons] at h
      rw [String.join_cons]
      exact h.1.append (ih h.2)

/-- With a semicolon at its end the piece is a statement. -/
theorem single (h : Inert piece) : IsSingle (piece ++ ";") := by
  have htext : (piece ++ ";").toList = piece.toList ++ [';'] := by simp
  refine ⟨?_, ?_, ?_, ?_, ?_⟩ <;> rw [htext]
  · rw [List.count_append, List.count_eq_zero.2 h.semicolon]
    rfl
  · exact List.getLast?_concat
  · exact List.not_mem_append h.quotation (by decide)
  · exact List.not_mem_append h.escape (by decide)
  · exact h.quotes.append (quotes_within_of_not_mem (by decide))

end Inert

/-! ## Names -/

/-- A character that is not inert is punctuation. -/
theorem punctuation_of_active {c : Char} (h : isInert c = false) :
    isStorageChar c = false ∧ isPlain c = false ∧ isClauseChar c = false ∧
      Literal.isNumberChar c = false := by
  have hcases : c = ';' ∨ c = '"' ∨ c = '\\' ∨ c = '\'' := by
    simpa [isInert, or_iff_not_imp_left] using h
  rcases hcases with rfl | rfl | rfl | rfl <;> decide

/-- A text of the characters of storage names is inert. -/
theorem inert_storage {name : String} (h : IsStorage name) : Inert name :=
  .of_chars fun _ hc => h.not_mem (punctuation_of_active hc).1

/-- A text of plain characters is inert. -/
theorem inert_plain {name : String} (h : IsPlainText name) : Inert name :=
  .of_chars fun _ hc => h.not_mem (punctuation_of_active hc).2.1

variable {table : Table} {column : Column} {columns : List Column}

/-- The qualified name of a table is inert. -/
theorem qualified_name_inert (h : table.Spelled) : Inert table.qualifiedName :=
  ((inert_storage h.schema).append (.of_all (by decide))).append (inert_storage h.name)

/-- A list of columns is inert. -/
theorem column_list_inert (h : ∀ column ∈ columns, column.Worded) :
    Inert (columnList columns) := by
  refine .intercalate (.of_all (by decide)) fun piece hpiece => ?_
  obtain ⟨column, hcolumn, rfl⟩ := List.mem_map.1 hpiece
  exact inert_storage (h column hcolumn).name

/-- The place of a parameter is inert. -/
theorem placeholder_inert (h : column.Worded) : Inert (placeholder column) :=
  .append (.of_all (by decide)) (inert_plain h.camelName)

/-- The binding of a column is inert. -/
theorem binding_inert (h : column.Worded) : Inert (binding column) :=
  ((inert_storage h.name).append (.of_all (by decide))).append (placeholder_inert h)

/-! ## Statements with parameters -/

/-- A selection is inert. -/
theorem selection_inert (h : table.Spelled) : Inert (selection table) := by
  have hfront : Inert "SELECT " := .of_all (by decide)
  have hfrom : Inert " FROM " := .of_all (by decide)
  exact ((hfront.append (column_list_inert h.columns)).append hfrom).append
    (qualified_name_inert h)

/-- What an insertion inserts is inert. -/
theorem inserted_values_inert (h : ∀ column ∈ table.columns, column.Worded) :
    Inert (insertedValues table) := by
  have hsupplied : ∀ column ∈ suppliedColumns table, column.Worded := fun column hmem =>
    h column (List.mem_filter.1 hmem).1
  unfold insertedValues
  split
  · exact .of_all (by decide)
  · have hopening : Inert " (" := .of_all (by decide)
    have hvalues : Inert ")\nVALUES (" := .of_all (by decide)
    refine (((hopening.append (column_list_inert hsupplied)).append hvalues).append ?_).append
      (.of_all (by decide))
    refine .intercalate (.of_all (by decide)) fun piece hpiece => ?_
    obtain ⟨column, hcolumn, rfl⟩ := List.mem_map.1 hpiece
    exact placeholder_inert (hsupplied column hcolumn)

/-- The assignments of an update are inert. -/
theorem assignments_inert {key : Column} (h : ∀ column ∈ table.columns, column.Worded)
    (hkey : key.Worded) : Inert (assignments table key) := by
  unfold assignments
  split
  · exact ((inert_storage hkey.name).append (.of_all (by decide))).append
      (inert_storage hkey.name)
  · refine .intercalate (.of_all (by decide)) fun piece hpiece => ?_
    obtain ⟨column, hcolumn, rfl⟩ := List.mem_map.1 hpiece
    exact binding_inert (h column (List.mem_filter.1 hcolumn).1)

variable {statement : Statement}

/-- The selection of a row is a single statement. -/
theorem select_by_key_single (h : table.Spelled) (hselect : selectByKey table = .ok statement) :
    IsSingle statement.sql := by
  obtain ⟨key, hkey, heq⟩ := bind_eq_ok_iff.1 hselect
  cases heq
  have hbinding := binding_inert (h.columns key (primary_key_mem hkey).1)
  exact (((selection_inert h).append (.of_all (by decide))).append hbinding).single

/-- The deletion of a row is a single statement. -/
theorem delete_by_key_single (h : table.Spelled) (hdelete : deleteByKey table = .ok statement) :
    IsSingle statement.sql := by
  obtain ⟨key, hkey, heq⟩ := bind_eq_ok_iff.1 hdelete
  cases heq
  have hfront : Inert "DELETE FROM " := .of_all (by decide)
  have hbinding := binding_inert (h.columns key (primary_key_mem hkey).1)
  exact (((hfront.append (qualified_name_inert h)).append (.of_all (by decide))).append
    hbinding).single

/-- The insertion of a row is a single statement. -/
theorem insert_single (h : table.Spelled) (hinsert : insert table = .ok statement) :
    IsSingle statement.sql := by
  obtain ⟨_, -, heq⟩ := bind_eq_ok_iff.1 hinsert
  cases heq
  have hfront : Inert "INSERT INTO " := .of_all (by decide)
  have hvalues := inserted_values_inert h.columns
  exact ((((hfront.append (qualified_name_inert h)).append hvalues).append
    (.of_all (by decide))).append (column_list_inert h.columns)).single

/-- The update of a row is a single statement. -/
theorem update_single (h : table.Spelled) (hupdate : update table = .ok statement) :
    IsSingle statement.sql := by
  obtain ⟨key, hkey, heq⟩ := bind_eq_ok_iff.1 hupdate
  cases heq
  have hword := h.columns key (primary_key_mem hkey).1
  have hfront : Inert "UPDATE " := .of_all (by decide)
  have hset : Inert "\nSET " := .of_all (by decide)
  have hwhere : Inert "\nWHERE " := .of_all (by decide)
  have hreturning : Inert "\nRETURNING " := .of_all (by decide)
  have hchange := ((hfront.append (qualified_name_inert h)).append hset).append
    (assignments_inert h.columns hword)
  exact ((((hchange.append hwhere).append (binding_inert hword)).append hreturning).append
    (column_list_inert h.columns)).single

/-! ## The creation of a table -/

/-- The clause of a foreign key is inert. -/
theorem references_clause_inert (h : ∀ name ∈ column.referredNames, IsStorage name) :
    Inert (referencesClause column) := by
  unfold referencesClause
  split
  · next key hkey =>
      simp only [Column.referredNames, hkey, List.forall_mem_cons] at h
      obtain ⟨hschema, htable, hcolumn, -⟩ := h
      have htarget : Inert key.target :=
        ((inert_storage hschema).append (.of_all (by decide))).append (inert_storage htable)
      exact .append (.of_all (by decide)) (((htarget.append (.of_all (by decide))).append
        (inert_storage hcolumn)).append (.of_all (by decide)))
  · exact .of_all (by decide)

/-- The clause of a default value is inert, also where it has quotes. -/
theorem default_clause_inert {clause : String} (h : defaultClause column = .ok clause) :
    Inert clause := by
  unfold defaultClause at h
  split at h
  · obtain ⟨expression, hexpression, rfl⟩ := map_eq_ok_iff.1 h
    refine .append (.of_all (by decide)) ?_
    rcases default_expression_form hexpression with rfl | rfl | hnumber
    · exact .of_all (by decide)
    · exact ⟨by decide, by decide, by decide, quotes_within_self _⟩
    · exact .of_chars fun c hc => hnumber.not_mem (punctuation_of_active hc).2.2.2
  · cases h
    exact .of_all (by decide)

/-- The line of a column is inert. -/
theorem column_definition_inert {line : String} (hcolumn : column.Spelled)
    (h : columnDefinition column = .ok line) : Inert line := by
  simp only [columnDefinition, bind_eq_ok_iff] at h
  obtain ⟨generated, hgenerated, default, hdefault, heq⟩ := h
  cases heq
  have hclauses {c : Char} (hc : isInert c = false) :=
    not_mem_clauses column (punctuation_of_active hc).2.2.1
  have htype : Inert (columnType column) := .of_chars fun c hc => (hclauses hc).1
  have hkey : Inert (keyClause column) := .of_chars fun c hc => (hclauses hc).2.1
  have hnull : Inert (notNullClause column) := .of_chars fun c hc => (hclauses hc).2.2.1
  have hunique : Inert (uniqueClause column) := .of_chars fun c hc => (hclauses hc).2.2.2
  have hgenerated : Inert generated := .of_chars fun c hc =>
    not_mem_generated_clause hgenerated (punctuation_of_active hc).2.2.1
  have hname := (inert_storage hcolumn.name).append (.of_all (by decide) : Inert " ")
  exact (((((hname.append htype).append hkey).append hgenerated).append hnull).append
    (references_clause_inert hcolumn.referred)).append (default_clause_inert hdefault) |>.append hunique

/-- The creation of a table is a single statement. -/
theorem creation_single {settings : Settings} {creation : String} (h : table.Spelled)
    (hcreation : createTable settings table = .ok creation) : IsSingle creation := by
  obtain ⟨definitions, hdefinitions, heq⟩ := bind_eq_ok_iff.1 hcreation
  cases heq
  have hindent : Inert settings.indentUnit := by
    refine .of_chars fun c hc hmem => ?_
    rcases mem_indentation hmem with rfl | rfl <;> exact absurd hc (by decide)
  have hdefinition : ∀ line ∈ definitions, Inert line := by
    intro line hline
    obtain ⟨column, hcolumn, hok⟩ := forall_mem_right (map_m_eq_ok_iff.1 hdefinitions) hline
    exact column_definition_inert (h.column hcolumn) hok
  have hlines : Inert (String.join
      ((separated "," definitions).map (settings.indentUnit ++ · ++ "\n"))) := by
    refine .join fun piece hpiece => ?_
    obtain ⟨line, hline, rfl⟩ := List.mem_map.1 hpiece
    refine (hindent.append ?_).append (.of_all (by decide))
    obtain ⟨definition, hmem, rfl | rfl⟩ := mem_separated hline
    · exact hdefinition _ hmem
    · exact (hdefinition definition hmem).append (.of_all (by decide))
  have hfront : Inert "CREATE TABLE " := .of_all (by decide)
  have hopening : Inert " (\n" := .of_all (by decide)
  have hclosing : Inert ")" := .of_all (by decide)
  have hsingle := ((((hfront.append (qualified_name_inert h)).append hopening).append
    hlines).append hclosing).single
  rwa [String.append_assoc] at hsingle

/-- The texts of all statements of a table. -/
def Statements.texts (statements : Statements) : List String :=
  [statements.creation, statements.selectAll, statements.selectByKey.sql,
    statements.deleteByKey.sql, statements.insert.sql, statements.update.sql]

end Storage

/-- Every statement of a batch is a single one, whatever names and default values are written in the
texts, if the default schema is a word. -/
theorem statements_single {settings : Settings} {texts : List String} {bundles : List Bundle}
    (hschema : ∀ c ∈ settings.defaultSchema.toList, Token.isNameChar c = true)
    (h : generate settings texts = .ok bundles) :
    ∀ bundle ∈ bundles, ∀ sql ∈ bundle.statements.texts, Storage.IsSingle sql := by
  intro bundle hbundle sql hsql
  obtain ⟨text, -, tables, hparse, table, htable, hok⟩ := generate_ok h hbundle
  obtain ⟨rfl, hgenerated, -, -⟩ := bundle_of_table hok
  have hspelled := Definition.parsed_spelled hschema hparse htable
  simp only [Storage.Statements.texts, List.mem_cons, List.not_mem_nil, or_false] at hsql
  rcases hsql with rfl | rfl | rfl | rfl | rfl | rfl
  · exact Storage.creation_single hspelled hgenerated.creation
  · rw [hgenerated.selectAll]
    exact (Storage.selection_inert hspelled).single
  · exact Storage.select_by_key_single hspelled hgenerated.selectByKey
  · exact Storage.delete_by_key_single hspelled hgenerated.deleteByKey
  · exact Storage.insert_single hspelled hgenerated.insert
  · exact Storage.update_single hspelled hgenerated.update

/-- A table whose default values are written with quotes, a sign and an exponent. -/
theorem quoted_default_single :
    ∃ bundles,
      generate {} ["a-b \x7b id int pk, c datetime df [utcnow], d float df [-1.5E3] \x7d"] =
        .ok bundles ∧
      ∃ bundle ∈ bundles,
        bundle.statements.creation = "CREATE TABLE public.a-b (\n    id int4 PRIMARY KEY,\n" ++
          "    c timestamp NOT NULL DEFAULT (NOW() at time zone 'utc'),\n" ++
          "    d float4 NOT NULL DEFAULT -1.5E3\n);" ∧
        ∀ sql ∈ bundle.statements.texts, Storage.IsSingle sql := by
  have hsome : ∃ bundles,
      generate {} ["a-b \x7b id int pk, c datetime df [utcnow], d float df [-1.5E3] \x7d"] =
        .ok bundles ∧
      bundles.map (·.statements.creation) =
        ["CREATE TABLE public.a-b (\n    id int4 PRIMARY KEY,\n" ++
          "    c timestamp NOT NULL DEFAULT (NOW() at time zone 'utc'),\n" ++
          "    d float4 NOT NULL DEFAULT -1.5E3\n);"] := exists_eq_ok (by decide +kernel)
  obtain ⟨bundles, hok, hcreation⟩ := hsome
  obtain ⟨bundle, rfl, hbundle⟩ := List.map_eq_singleton_iff.1 hcreation
  have hmem := List.mem_singleton_self bundle
  exact ⟨[bundle], hok, bundle, hmem, hbundle,
    statements_single (List.all_eq_true.1 (by decide)) hok bundle hmem⟩

end Schemata
