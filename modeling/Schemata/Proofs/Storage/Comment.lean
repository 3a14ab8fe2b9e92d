import Schemata.Proofs.Bundle
import Schemata.Proofs.Column.Default
import Schemata.Proofs.Definition.Names
import Schemata.Proofs.Storage.Clauses

/-!
# Comments in statements

Names are written into statements as they are, and a hyphen is a character of names. So a name with
two hyphens in a row opens a comment in every statement that mentions it, and the rest of the line
is lost, be it the condition of a deletion. `statement_comment_iff` says that nothing else does: not
a parameter, not a default value, not two pieces of a statement next to each other.
-/

namespace Schemata

open Text

namespace Storage

/-- The texts of all statements of a table, each with the names that are written into it. -/
def Statements.written (statements : Statements) : List (String × List String) :=
  let table := statements.table
  let key := (table.columns.filter (·.primaryKey)).map (·.name)
  [(statements.creation, table.names ++ table.referredNames),
   (statements.selectAll, table.names),
   (statements.selectByKey.sql, table.names),
   (statements.deleteByKey.sql, table.schema :: table.name :: key),
   (statements.insert.sql, table.names),
   (statements.update.sql, table.names)]

/-- The names written into a statement are names of the table or names to which it refers. -/
theorem written_subset {statements : Statements} {entry : String × List String}
    (h : entry ∈ statements.written) :
    entry.2 ⊆ statements.table.names ++ statements.table.referredNames := by
  have hkey : statements.table.schema :: statements.table.name ::
      (statements.table.columns.filter (·.primaryKey)).map (·.name) ⊆ statements.table.names :=
    List.cons_subset_cons _ (List.cons_subset_cons _
      (List.map_subset _ (List.filter_subset_self _)))
  simp only [Statements.written, List.mem_cons, List.not_mem_nil, or_false] at h
  rcases h with rfl | rfl | rfl | rfl | rfl | rfl
  · exact List.Subset.refl _
  · exact List.subset_append_left _ _
  · exact List.subset_append_left _ _
  · exact List.subset_append_of_subset_left _ hkey
  · exact List.subset_append_left _ _
  · exact List.subset_append_left _ _

/-! ## Pieces of statements -/

/-- A name of a table opens a comment exactly if the schema, the name of the table or the name of a
column does. -/
theorem names_comment_iff {table : Table} :
    (∃ name ∈ table.names, OpensComment name) ↔
      (OpensComment table.schema ∨ OpensComment table.name) ∨
        ∃ column ∈ table.columns, OpensComment column.name := by
  simp [Table.names, or_assoc]

/-- The qualified name of a table. -/
theorem qualified_name_comment_iff {table : Table} :
    OpensComment table.qualifiedName ↔ OpensComment table.schema ∨ OpensComment table.name := by
  rw [Table.qualifiedName, opens_comment_around (by decide)]

/-- A list of columns. -/
theorem column_list_comment_iff {columns : List Column} :
    OpensComment (columnList columns) ↔ ∃ column ∈ columns, OpensComment column.name := by
  rw [columnList, opens_comment_intercalate (by decide)]
  simp

/-- A parameter without hyphens. -/
theorem placeholder_no_comment {column : Column} (h : '-' ∉ column.camelName.toList) :
    ¬ OpensComment (placeholder column) := by
  rw [placeholder, opens_comment_behind (by decide)]
  exact not_opens_comment h

/-- A column that is bound to a parameter without hyphens. -/
theorem binding_comment_iff {column : Column} (h : '-' ∉ column.camelName.toList) :
    OpensComment (binding column) ↔ OpensComment column.name := by
  rw [binding, opens_comment_around (by decide), or_iff_left (placeholder_no_comment h)]

section

variable {table : Table} (hcamel : ∀ column ∈ table.columns, '-' ∉ column.camelName.toList)
include hcamel

/-- The values of an insertion open a comment only in the name of a column. -/
theorem inserted_values_comment (h : OpensComment (insertedValues table)) :
    ∃ column ∈ table.columns, OpensComment column.name := by
  unfold insertedValues at h
  split at h
  · exact absurd h (by decide)
  · rw [opens_comment_before (by decide), opens_comment_around (by decide),
      opens_comment_behind (by decide), column_list_comment_iff,
      opens_comment_intercalate (by decide)] at h
    rcases h with ⟨column, hmem, hcomment⟩ | ⟨piece, hpiece, hcomment⟩
    · exact ⟨column, (List.mem_filter.1 hmem).1, hcomment⟩
    · obtain ⟨column, hmem, rfl⟩ := List.mem_map.1 hpiece
      have hcolumn := (List.mem_filter.1 hmem).1
      exact absurd hcomment (placeholder_no_comment (hcamel column hcolumn))

/-- The assignments of an update open a comment only in the name of a column. -/
theorem assignments_comment {key : Column} (hkey : key ∈ table.columns)
    (h : OpensComment (assignments table key)) :
    ∃ column ∈ table.columns, OpensComment column.name := by
  unfold assignments at h
  split at h
  · rw [opens_comment_around (by decide), or_self] at h
    exact ⟨key, hkey, h⟩
  · rw [opens_comment_intercalate (by decide)] at h
    obtain ⟨piece, hpiece, hcomment⟩ := h
    obtain ⟨column, hmem, rfl⟩ := List.mem_map.1 hpiece
    have hcolumn := (List.mem_filter.1 hmem).1
    exact ⟨column, hcolumn, (binding_comment_iff (hcamel column hcolumn)).1 hcomment⟩

/-! ## Statements on rows -/

omit hcamel in
/-- The selection of all columns. -/
theorem selection_comment_iff :
    OpensComment (selection table) ↔ ∃ name ∈ table.names, OpensComment name := by
  rw [selection, opens_comment_around (by decide), opens_comment_behind (by decide),
    column_list_comment_iff, qualified_name_comment_iff, names_comment_iff, or_comm]

/-- The selection of the row with a given key. -/
theorem select_by_key_comment_iff {statement : Statement}
    (h : Storage.selectByKey table = .ok statement) :
    OpensComment statement.sql ↔ ∃ name ∈ table.names, OpensComment name := by
  obtain ⟨key, hkey, heq⟩ := bind_eq_ok_iff.1 h
  cases heq
  have hmem := (primary_key_mem hkey).1
  rw [opens_comment_before (by decide), opens_comment_around (by decide),
    binding_comment_iff (hcamel key hmem), selection_comment_iff, or_iff_left_iff_imp,
    names_comment_iff]
  exact fun hcomment => .inr ⟨key, hmem, hcomment⟩

/-- The deletion of the row with a given key. -/
theorem delete_by_key_comment_iff {statement : Statement}
    (h : Storage.deleteByKey table = .ok statement) :
    OpensComment statement.sql ↔
      ∃ name ∈ table.schema :: table.name :: (table.columns.filter (·.primaryKey)).map (·.name),
        OpensComment name := by
  obtain ⟨key, hkey, heq⟩ := bind_eq_ok_iff.1 h
  cases heq
  rw [opens_comment_before (by decide), opens_comment_around (by decide),
    opens_comment_behind (by decide), binding_comment_iff (hcamel key (primary_key_mem hkey).1),
    qualified_name_comment_iff, require_primary_key_iff.1 hkey]
  simp [or_assoc]

/-- An insertion. -/
theorem insert_comment_iff {statement : Statement} (h : Storage.insert table = .ok statement) :
    OpensComment statement.sql ↔ ∃ name ∈ table.names, OpensComment name := by
  obtain ⟨key?, hkey, heq⟩ := bind_eq_ok_iff.1 h
  cases heq
  -- the name of the table may end in a hyphen, so the values must not start with one
  have hvalues : (insertedValues table).toList.head? ≠ some '-' := by
    unfold insertedValues
    split
    · decide
    · simp
  rw [opens_comment_before (by decide), opens_comment_around (by decide),
    opens_comment_append hvalues, opens_comment_behind (by decide), qualified_name_comment_iff,
    column_list_comment_iff, names_comment_iff, or_assoc,
    or_iff_right_of_imp (inserted_values_comment hcamel)]

/-- An update. -/
theorem update_comment_iff {statement : Statement} (h : Storage.update table = .ok statement) :
    OpensComment statement.sql ↔ ∃ name ∈ table.names, OpensComment name := by
  obtain ⟨key, hkey, heq⟩ := bind_eq_ok_iff.1 h
  cases heq
  have hmem := (primary_key_mem hkey).1
  have hcolumn : OpensComment key.name → ∃ column ∈ table.columns, OpensComment column.name :=
    fun hcomment => ⟨key, hmem, hcomment⟩
  rw [opens_comment_before (by decide), opens_comment_around (by decide),
    opens_comment_around (by decide), opens_comment_around (by decide),
    opens_comment_behind (by decide), binding_comment_iff (hcamel key hmem),
    column_list_comment_iff, or_assoc, or_iff_right_of_imp hcolumn, or_assoc,
    or_iff_right_of_imp (assignments_comment hcamel hmem), qualified_name_comment_iff,
    names_comment_iff]

end

/-! ## The creation of a table -/

/-- The names to which the clause of a foreign key refers. -/
theorem references_clause_comment_iff {column : Column} :
    OpensComment (referencesClause column) ↔
      ∃ name ∈ column.referredNames, OpensComment name := by
  unfold referencesClause Column.referredNames
  cases column.foreignKey with
  | none => simpa using empty_opens_no_comment
  | some key =>
      simp only
      rw [opens_comment_behind (by decide), ForeignKey.describe, ForeignKey.target,
        opens_comment_before (by decide), opens_comment_around (by decide),
        opens_comment_around (by decide)]
      simp [or_assoc]

/-- The clause of a default value opens no comment, also together with what stands in front of
it. -/
theorem default_clause_comment_iff {column : Column} {clause left : String}
    (h : defaultClause column = .ok clause) :
    OpensComment (left ++ clause) ↔ OpensComment left := by
  unfold defaultClause at h
  split at h
  · obtain ⟨expression, hexpression, rfl⟩ := map_eq_ok_iff.1 h
    rw [← String.append_assoc, opens_comment_around (by decide),
      or_iff_left (default_expression_no_comment hexpression)]
  · cases h
    rw [String.append_empty]

/-- The line of a column opens a comment exactly if the column or a name to which it refers does. -/
theorem column_definition_comment_iff {column : Column} {line : String}
    (h : columnDefinition column = .ok line) :
    OpensComment line ↔
      OpensComment column.name ∨ ∃ name ∈ column.referredNames, OpensComment name := by
  simp only [columnDefinition, bind_eq_ok_iff] at h
  obtain ⟨generated, hgenerated, default, hdefault, heq⟩ := h
  cases heq
  obtain ⟨htype, hkey, hnull, hunique⟩ := not_mem_clauses column (c := '-') (by decide)
  have hreferences : (referencesClause column).toList.head? ≠ some '-' := by
    unfold referencesClause
    cases column.foreignKey with
    | none => decide
    | some key => simp
  rw [opens_comment_before hunique, default_clause_comment_iff hdefault,
    opens_comment_append hreferences, opens_comment_before hnull,
    opens_comment_before (not_mem_generated_clause hgenerated (by decide)),
    opens_comment_before hkey, opens_comment_before htype, opens_comment_before (by decide),
    references_clause_comment_iff]

/-- One level of indentation has no hyphens. -/
theorem hyphen_not_mem_indentation (settings : Settings) : '-' ∉ settings.indentUnit.toList := by
  unfold Settings.indentUnit
  split
  · decide
  · simp [List.mem_replicate]

/-- The creation of a table. -/
theorem creation_comment_iff {settings : Settings} {table : Table} {creation : String}
    (h : createTable settings table = .ok creation) :
    OpensComment creation ↔
      ∃ name ∈ table.names ++ table.referredNames, OpensComment name := by
  obtain ⟨definitions, hdefinitions, heq⟩ := bind_eq_ok_iff.1 h
  cases heq
  have hlines := forall_exists_iff (map_m_eq_ok_iff.1 hdefinitions)
    fun column line hline => (column_definition_comment_iff hline).symm
  have hreferred : (∃ name ∈ table.referredNames, OpensComment name) ↔
      ∃ column ∈ table.columns, ∃ name ∈ column.referredNames, OpensComment name := by
    simp only [Table.referredNames, List.mem_flatMap]
    constructor
    · rintro ⟨name, ⟨column, hmem, hname⟩, hcomment⟩
      exact ⟨column, hmem, name, hname, hcomment⟩
    · rintro ⟨column, hmem, name, hname, hcomment⟩
      exact ⟨name, ⟨column, hmem, hname⟩, hcomment⟩
  rw [opens_comment_before (by decide), opens_comment_around (by decide),
    opens_comment_behind (by decide), opens_comment_lines (hyphen_not_mem_indentation settings),
    opens_comment_separated (by decide), ← hlines, qualified_name_comment_iff]
  simp only [List.mem_append, or_and_right, exists_or, names_comment_iff, hreferred, and_or_left,
    or_assoc]

end Storage

/-! ## Bundles -/

/-- A statement of a bundle opens a comment exactly if one of the names written into it does. If the
default schema has no hyphens and no text of the batch opens a comment, then no statement does. -/
theorem statement_comment_iff {settings : Settings}
    (hschema : '-' ∉ settings.defaultSchema.toList) {texts : List String} {bundles : List Bundle}
    (h : generate settings texts = .ok bundles) {bundle : Bundle} (hbundle : bundle ∈ bundles) :
    (∀ entry ∈ bundle.statements.written,
      (OpensComment entry.1 ↔ ∃ name ∈ entry.2, OpensComment name)) ∧
    ((∀ text ∈ texts, ¬ OpensComment text) →
      ∀ entry ∈ bundle.statements.written, ¬ OpensComment entry.1) := by
  obtain ⟨text, htext, tables, hparse, table, htable, hok⟩ := generate_ok h hbundle
  obtain ⟨rfl, hgenerated, -, -⟩ := bundle_of_table hok
  have hcamel := Definition.parsed_camel_names hparse htable
  have hiff : ∀ entry ∈ bundle.statements.written,
      (OpensComment entry.1 ↔ ∃ name ∈ entry.2, OpensComment name) := by
    intro entry hentry
    simp only [Storage.Statements.written, List.mem_cons, List.not_mem_nil, or_false] at hentry
    rcases hentry with rfl | rfl | rfl | rfl | rfl | rfl
    · exact Storage.creation_comment_iff hgenerated.creation
    · show OpensComment bundle.statements.selectAll ↔ _
      rw [hgenerated.selectAll, Storage.selectAll, opens_comment_before (by decide),
        Storage.selection_comment_iff]
    · exact Storage.select_by_key_comment_iff hcamel hgenerated.selectByKey
    · exact Storage.delete_by_key_comment_iff hcamel hgenerated.deleteByKey
    · exact Storage.insert_comment_iff hcamel hgenerated.insert
    · exact Storage.update_comment_iff hcamel hgenerated.update
  refine ⟨hiff, ?_⟩
  intro htexts entry hentry hcomment
  obtain ⟨name, hname, hcomment⟩ := (hiff entry hentry).1 hcomment
  have hname := Storage.written_subset hentry hname
  rcases Definition.parsed_names_comment hparse htable hname hcomment with hspace | htextual
  · exact not_opens_comment hschema hspace
  · exact htexts text htext htextual

/-- A table whose name has two hyphens in a row is deleted from without a condition. -/
theorem comment_in_deletion :
    '-' ∉ ({} : Settings).defaultSchema.toList ∧
    ∃ bundles, generate {} ["a--b \x7b id int pk \x7d"] = .ok bundles ∧
      ∃ bundle ∈ bundles,
        bundle.statements.deleteByKey.sql = "DELETE FROM public.a--b WHERE id = @id;" ∧
        OpensComment bundle.statements.deleteByKey.sql := by
  exact ⟨by decide, exists_eq_ok (by decide +kernel)⟩

/-- Single hyphens in the names of tables and columns and in references. -/
theorem single_hyphens_open_no_comment :
    ∃ bundles, generate {} ["a-b \x7b c-d int pk, e-f int fk g-h.i-j \x7d"] = .ok bundles ∧
      ∃ bundle ∈ bundles, ∀ entry ∈ bundle.statements.written, ¬ OpensComment entry.1 := by
  have hsome : ∃ bundles, generate {} ["a-b \x7b c-d int pk, e-f int fk g-h.i-j \x7d"] =
      .ok bundles ∧ bundles.length = 1 := exists_eq_ok (by decide +kernel)
  obtain ⟨bundles, hok, hlength⟩ := hsome
  obtain ⟨bundle, rfl⟩ := List.length_eq_one_iff.1 hlength
  refine ⟨[bundle], hok, bundle, List.mem_singleton_self bundle, ?_⟩
  exact (statement_comment_iff (by decide) hok (List.mem_singleton_self bundle)).2 (by decide)

end Schemata
