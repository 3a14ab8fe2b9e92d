import Schemata.Proofs.Definition.Names

/-!
# The characters of parsed names

A name of a definition text is made of letters, numerals, underscores and hyphens. So the names of a
parsed table hold no blanks and no punctuation that could be taken for a part of a statement or of a
class, by `parsed_worded`. The schema of a table may also be the default one, which holds what the
settings say.
-/

namespace Schemata

open Text

/-- The names that tokens spell are not empty, and they are made of the characters of names. -/
theorem Token.Spelling.is_name {tokens : List Token} {text : List Char}
    (h : Spelling tokens text) {name : String} (hname : name ∈ tokens.flatMap Token.names) :
    IsName name.toList := by
  induction h with
  | done _ => simp at hname
  | token _ hspells _ _ _ ih =>
      rw [List.flatMap_cons, List.mem_append] at hname
      rcases hname with hname | hname
      · cases hspells with
        | reserved hmem _ =>
            have hnone : ∀ entry ∈ reservedWords, entry.2.names = [] := by decide
            simp [hnone _ hmem] at hname
        | reference htable hcolumn =>
            simp only [Token.names, List.mem_cons, List.not_mem_nil, or_false] at hname
            rcases hname with rfl | rfl
            · rw [String.toList_ofList]
              exact htable
            · rw [String.toList_ofList]
              exact hcolumn
        | name hword _ _ =>
            rw [show name = _ from List.mem_singleton.1 hname, String.toList_ofList]
            exact hword
        | _ => simp [Token.names] at hname
      · exact ih hname

/-- The text is made of the characters of storage names. -/
def IsStorage (text : String) : Prop :=
  ∀ c ∈ text.toList, isStorageChar c = true

/-- The text is made of plain characters. -/
def IsPlainText (text : String) : Prop :=
  ∀ c ∈ text.toList, isPlain c = true

/-- The names of the column are made of the characters of names, and there is at least one in its
storage name. -/
structure Column.Worded (column : Column) : Prop where
  name : IsStorage column.name
  name_ne : column.name.toList ≠ []
  pascalName : IsPlainText column.pascalName
  camelName : IsPlainText column.camelName

/-- The names of the table and of its columns are made of the characters of names. -/
structure Table.Worded (table : Table) : Prop where
  name : IsStorage table.name
  className : IsPlainText table.className
  columns : ∀ column ∈ table.columns, column.Worded

/-- A character of a name can stand in a word. -/
theorem name_char_word {c : Char} (h : Token.isNameChar c = true) : isWordChar c = true := by
  simp only [Token.isNameChar, Bool.or_eq_true] at h
  rcases h with (h | h) | h
  · simp [isWordChar, alphanumeric_plain h]
  · simp [isWordChar, h]
  · simp [isWordChar, h]

/-- The storage name of a name is made of the characters of storage names. -/
theorem Token.IsName.is_storage {name : String} (h : IsName name.toList) :
    IsStorage (storageName name) := fun _ hmem =>
  storage_name_chars (fun c hc => name_char_word (h.2 c hc)) hmem

/-- Putting a storage name in storage spelling once more keeps the characters of storage names. -/
theorem IsStorage.again {text : String} (h : IsStorage text) : IsStorage (storageName text) := by
  refine fun d hd => storage_name_chars (fun c hc => ?_) hd
  have hc := h c hc
  rw [isStorageChar, Bool.and_eq_true] at hc
  exact hc.1

/-- A character of a storage name is not blank. -/
theorem storage_char_not_blank {c : Char} (h : isStorageChar c = true) : isBlank c = false := by
  rw [isStorageChar, Bool.and_eq_true, isWordChar, Bool.or_eq_true, Bool.or_eq_true, beq_iff_eq,
    beq_iff_eq] at h
  rcases h.1 with (hplain | rfl) | rfl
  · exact plain_not_blank hplain
  · decide
  · decide

/-- A character that cannot stand in a storage name is not in one. -/
theorem IsStorage.not_mem {text : String} (h : IsStorage text) {c : Char}
    (hc : isStorageChar c = false) : c ∉ text.toList := fun hmem => by
  rw [h c hmem] at hc
  cases hc

/-- A character that is not plain is not in a text of plain ones. -/
theorem IsPlainText.not_mem {text : String} (h : IsPlainText text) {c : Char}
    (hc : isPlain c = false) : c ∉ text.toList := fun hmem => by
  rw [h c hmem] at hc
  cases hc

/-- All names that statements about the table hold are made of the characters of names: those of the
table and of its columns, its schema, and the names to which its columns refer. -/
structure Table.Spelled (table : Table) : Prop extends table.Worded where
  schema : IsStorage table.schema
  referred : ∀ column ∈ table.columns, ∀ name ∈ column.referredNames, IsStorage name

/-- All names that the line of the column holds are made of the characters of names: its own ones
and those to which it refers. -/
structure Column.Spelled (column : Column) : Prop extends column.Worded where
  referred : ∀ name ∈ column.referredNames, IsStorage name

/-- The columns of a table whose names are made of the characters of names. -/
theorem Table.Spelled.column {table : Table} (h : table.Spelled) {column : Column}
    (hcolumn : column ∈ table.columns) : column.Spelled :=
  ⟨h.columns column hcolumn, h.referred column hcolumn⟩

namespace Definition

variable {schema text : String} {tables : List Table} {table : Table}

/-- A parsed table is denoted by a declaration whose names are names of the text. -/
theorem parsed_declaration (h : parse schema text = .ok tables) (htable : table ∈ tables) :
    ∃ declaration : TableDeclaration, declaration.Denotes schema table ∧
      ∀ name ∈ declaration.names, Token.IsName name.toList := by
  obtain ⟨tokens, declarations, hscan, hfile, -, hdenotes⟩ := parse_sound h
  obtain ⟨declaration, hdeclaration, hdenotes⟩ := forall_mem_right hdenotes htable
  refine ⟨declaration, hdenotes, fun name hname => ?_⟩
  have htoken := hfile.names_subset (List.mem_flatMap.2 ⟨declaration, hdeclaration, hname⟩)
  exact (Token.tokenize_sound hscan).is_name htoken

/-- The names of the columns of a declaration are among its names. -/
theorem TableDeclaration.column_names_subset {declaration : TableDeclaration}
    {column : ColumnDeclaration} (h : column ∈ declaration.columns) :
    column.names ⊆ declaration.names := fun _ hname =>
  List.mem_append_right _ (List.mem_cons_of_mem _ (List.mem_flatMap.2 ⟨column, h, hname⟩))

/-- The names of a parsed table are made of the characters of names. -/
theorem parsed_worded (h : parse schema text = .ok tables) (htable : table ∈ tables) :
    table.Worded := by
  obtain ⟨declaration, hdenotes, hnames⟩ := parsed_declaration h htable
  have hname := hnames declaration.name (by simp [TableDeclaration.names])
  refine ⟨?_, ?_, fun column hcolumn => ?_⟩
  · rw [hdenotes.name]
    exact hname.is_storage.again
  · rw [hdenotes.className]
    exact fun c hc => pascal_name_plain hc
  · obtain ⟨declared, hdeclared, hcolumn⟩ := forall_mem_right hdenotes.columns hcolumn
    have hname := hnames declared.name
      (TableDeclaration.column_names_subset hdeclared List.mem_cons_self)
    refine ⟨?_, ?_, ?_, ?_⟩
    · rw [hcolumn.name]
      exact hname.is_storage
    · rw [hcolumn.name]
      exact storage_name_ne_empty hname.1
    · rw [hcolumn.pascalName]
      exact fun c hc => pascal_name_plain hc
    · rw [hcolumn.camelName]
      exact fun c hc => camel_name_plain hc

/-- The schema of a parsed table is the default one, or it is made of the characters of storage
names. -/
theorem parsed_schema (h : parse schema text = .ok tables) (htable : table ∈ tables) :
    table.schema = storageName (storageName schema) ∨ IsStorage table.schema := by
  obtain ⟨declaration, hdenotes, hnames⟩ := parsed_declaration h htable
  rw [hdenotes.schema]
  cases hspace : declaration.schema with
  | none => exact .inl rfl
  | some space =>
      have hname := hnames space (by simp [TableDeclaration.names, hspace])
      exact .inr hname.is_storage.again

/-- What cannot stand in a word stands in the schema of a parsed table only if it stands in the
default schema. -/
theorem mem_parsed_schema (h : parse schema text = .ok tables) (htable : table ∈ tables) {c : Char}
    (hc : isWordChar c = false) (hmem : c ∈ table.schema.toList) : c ∈ schema.toList := by
  rcases parsed_schema h htable with heq | hwritten
  · simp only [isWordChar, Bool.or_eq_false_iff, beq_eq_false_iff_ne] at hc
    obtain ⟨⟨hplain, hjoin⟩, -⟩ := hc
    rw [heq] at hmem
    exact mem_storage_of_punctuation hplain hjoin (mem_storage_of_punctuation hplain hjoin hmem)
  · exact absurd hmem (hwritten.not_mem (by rw [isStorageChar, hc, Bool.false_and]))

/-- The column that a foreign key of a parsed table points to has names that are made of the
characters of storage names, in the default schema. -/
theorem parsed_foreign_key (h : parse schema text = .ok tables) (htable : table ∈ tables)
    {column : Column} (hcolumn : column ∈ table.columns) {key : ForeignKey}
    (hkey : column.foreignKey = some key) :
    key.schema = storageName schema ∧ IsStorage key.table ∧ IsStorage key.column := by
  obtain ⟨declaration, hdenotes, hnames⟩ := parsed_declaration h htable
  obtain ⟨declared, hdeclared, hcolumn⟩ := forall_mem_right hdenotes.columns hcolumn
  obtain ⟨target, point, hitem, rfl⟩ := hcolumn.key_declared hkey
  have hitem : ∀ name ∈ [target, point], Token.IsName name.toList := fun name hname =>
    hnames name (TableDeclaration.column_names_subset hdeclared
      (ColumnDeclaration.item_names_subset hitem hname))
  exact ⟨rfl, (hitem target (by simp)).is_storage, (hitem point (by simp)).is_storage⟩

/-- All names that statements about a parsed table hold are made of the characters of names, if the
default schema is. -/
theorem parsed_spelled (hschema : ∀ c ∈ schema.toList, Token.isNameChar c = true)
    (h : parse schema text = .ok tables) (htable : table ∈ tables) : table.Spelled := by
  have hdefault : IsStorage (storageName schema) := fun _ hmem =>
    storage_name_chars (fun c hc => name_char_word (hschema c hc)) hmem
  refine ⟨parsed_worded h htable, ?_, fun column hcolumn name hname => ?_⟩
  · rcases parsed_schema h htable with heq | hstorage
    · rw [heq]
      exact hdefault.again
    · exact hstorage
  · unfold Column.referredNames at hname
    split at hname
    · next key hkey =>
        obtain ⟨hspace, htarget, hpoint⟩ := parsed_foreign_key h htable hcolumn hkey
        simp only [List.mem_cons, List.not_mem_nil, or_false] at hname
        rcases hname with rfl | rfl | rfl
        · rw [hspace]
          exact hdefault
        · exact htarget
        · exact hpoint
    · simp at hname

end Definition

end Schemata
