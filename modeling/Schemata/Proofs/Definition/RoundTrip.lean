import Schemata.Proofs.Definition.Canonical
import Schemata.Proofs.Definition.Words

/-!
# Parsed tables can be written down

The canonical text of the tables of an ASCII text parses to the same tables, by
`canonical_round_trip`. What it takes is that the storage spelling of a name is a name again, that
it has the same spellings as the name, and that it is no keyword where the name is none: a capital
behind the first letter leaves an underscore, and no keyword has one. A maximum length is read
back only behind the data type of a string, so a column whose data type was replaced behind its
length is left out.
-/

namespace Schemata

open Text

/-! ## Names and values of a text -/

namespace Token

variable {tokens : List Token} {token : Token} {lexeme text : List Char}

/-- Each token of a text is spelled by some characters. -/
theorem Spelling.token_spelled (h : Spelling tokens text) (hmem : token ∈ tokens) :
    ∃ lexeme, Spells token lexeme := by
  induction h with
  | done _ => cases hmem
  | token _ hspells _ _ _ ih =>
      rcases List.mem_cons.1 hmem with rfl | hmem
      · exact ⟨_, hspells⟩
      · exact ih hmem

/-- A name that is spelled is neither a reserved word nor the keyword of a data type. -/
theorem Spells.of_name {name : String} (h : Spells (.name name) lexeme) :
    (∀ entry ∈ reservedWords, sameWord entry.1 name = false) ∧
      (∀ entry ∈ DataType.keywords, sameWord entry.1 name = false) := by
  generalize htoken : Token.name name = token at h
  cases h with
  | name _ hreserved hkeyword =>
      obtain rfl := Token.name.inj htoken
      exact ⟨hreserved, hkeyword⟩
  | reserved hmem => simp [← htoken, reservedWords] at hmem
  | _ => cases htoken

/-- A value that is spelled can stand in brackets as it is. -/
theorem Spells.of_value {value : String} (h : Spells (.value value) lexeme) :
    IsBracketed value := by
  generalize htoken : Token.value value = token at h
  cases h with
  | @value inner hinner hcontent =>
      obtain rfl := Token.value.inj htoken
      rw [IsBracketed, String.toList_ofList]
      refine ⟨hcontent, fun c hc => ?_⟩
      rw [List.mem_filter] at hc
      exact ⟨(hinner c hc.1).1, by simpa using hc.2⟩
  | reserved hmem => simp [← htoken, reservedWords] at hmem
  | _ => cases htoken

end Token

/-- The text is a name that is made of ASCII characters. -/
structure IsAsciiName (name : String) : Prop where
  isName : Token.IsName name.toList
  ascii : IsAsciiText name

/-- The storage name of an ASCII name is a name. -/
theorem IsAsciiName.storage {name : String} (h : IsAsciiName name) :
    Token.IsName (storageName name).toList := by
  refine ⟨storage_name_ne_empty h.isName.1, fun d hd => ?_⟩
  rcases mem_storage_name hd with ⟨hmem, -⟩ | rfl | ⟨c, hc, -, hlower⟩
  · exact h.isName.2 d hmem
  · decide
  · rw [lower, if_pos (h.ascii c hc), List.mem_singleton] at hlower
    rw [hlower, Token.name_char_to_lower]
    exact h.isName.2 c hc

/-- The storage name of an ASCII name is no keyword of a catalogue where the name is none, if the
keywords have no underscores. -/
theorem IsAsciiName.not_keyword {α : Type} {name : String} {entries : List (String × α)}
    (h : IsAsciiName name) (hentries : ∀ entry ∈ entries, '_' ∉ fold entry.1)
    (hname : ∀ entry ∈ entries, sameWord entry.1 name = false) :
    ∀ entry ∈ entries, sameWord entry.1 (storageName name) = false := by
  intro entry hentry
  have hother := hname entry hentry
  rw [sameWord, beq_eq_false_iff_ne] at hother ⊢
  intro hsame
  have hjoin : '_' ∉ (storageName name).toList := by
    intro hmem
    refine hentries entry hentry ?_
    rw [hsame]
    exact List.mem_map_of_mem hmem
  exact hother (hsame.trans (fold_storage_name h.ascii hjoin))

/-- The storage name of a name that is spelled is spelled as a name. -/
theorem IsAsciiName.storage_spells {name : String} {lexeme : List Char} (h : IsAsciiName name)
    (hspells : Token.Spells (.name name) lexeme) :
    Token.WordSpells (.name (storageName name)) (storageName name) := by
  obtain ⟨hreserved, hkeyword⟩ := hspells.of_name
  have hstored := Token.Spells.name h.storage
    (by simpa using h.not_keyword (by decide) hreserved)
    (by simpa using h.not_keyword (by decide) hkeyword)
  rw [String.ofList_toList] at hstored
  exact ⟨hstored, by simp⟩

namespace Definition

open Token (Spelling Spells)

/-! ## The tokens of declarations -/

section Tokens

variable {tokens : List Token}

/-- The tokens of an item are among those of its column. -/
theorem Items.item_derives {items : List Item} (h : Items items tokens) {item : Item}
    (hitem : item ∈ items) : ∃ lexemes, item.Derives lexemes ∧ lexemes ⊆ tokens := by
  induction h with
  | nil => cases hitem
  | snoc _ hlast ih =>
      rw [List.mem_append, List.mem_singleton] at hitem
      rcases hitem with hitem | rfl
      · obtain ⟨lexemes, hderives, hsubset⟩ := ih hitem
        exact ⟨lexemes, hderives, List.subset_append_of_subset_left _ hsubset⟩
      · exact ⟨_, hlast, List.subset_append_right _ _⟩

/-- The tokens of a column are among those of the columns of its table. -/
theorem Columns.column_derives {columns : List ColumnDeclaration} (h : Columns columns tokens)
    {column : ColumnDeclaration} (hcolumn : column ∈ columns) :
    ∃ lexemes, column.Derives lexemes ∧ lexemes ⊆ tokens := by
  induction h with
  | single hderives =>
      obtain rfl := List.mem_singleton.1 hcolumn
      exact ⟨_, hderives, List.Subset.refl _⟩
  | snoc _ _ _ hlast ih =>
      rw [List.mem_append, List.mem_singleton] at hcolumn
      rcases hcolumn with hcolumn | rfl
      · obtain ⟨lexemes, hderives, hsubset⟩ := ih hcolumn
        exact ⟨lexemes, hderives, List.subset_append_of_subset_left _
          (List.subset_append_of_subset_left _ hsubset)⟩
      · exact ⟨_, hlast, List.subset_append_right _ _⟩

/-- The tokens of a column are among those of its table. -/
theorem TableDeclaration.Derives.column_derives {declaration : TableDeclaration}
    (h : declaration.Derives tokens) {column : ColumnDeclaration}
    (hcolumn : column ∈ declaration.columns) :
    ∃ lexemes, column.Derives lexemes ∧ lexemes ⊆ tokens := by
  cases h with
  | intro _ hbody =>
      cases hbody with
      | empty _ => cases hcolumn
      | columns _ hcolumns _ =>
          obtain ⟨lexemes, hderives, hsubset⟩ := hcolumns.column_derives hcolumn
          exact ⟨lexemes, hderives, fun token hmem => by simp [hsubset hmem]⟩

/-- The tokens of a table are among those of its text. -/
theorem File.table_derives {declarations : List TableDeclaration} (h : File declarations tokens)
    {declaration : TableDeclaration} (hdeclaration : declaration ∈ declarations) :
    ∃ lexemes, declaration.Derives lexemes ∧ lexemes ⊆ tokens := by
  induction h with
  | separators _ => cases hdeclaration
  | snoc _ hlast _ ih =>
      rw [List.mem_append, List.mem_singleton] at hdeclaration
      rcases hdeclaration with hdeclaration | rfl
      · obtain ⟨lexemes, hderives, hsubset⟩ := ih hdeclaration
        exact ⟨lexemes, hderives, List.subset_append_of_subset_left _
          (List.subset_append_of_subset_left _ hsubset)⟩
      · exact ⟨_, hlast, List.subset_append_of_subset_left _ (List.subset_append_right _ _)⟩

end Tokens

/-! ## Parsed tables -/

section Parsed

variable {schema : String} {tokens lexemes : List Token} {text : List Char}

/-- Names in some of the tokens of an ASCII text are ASCII names. -/
theorem spelled_ascii_name (h : Spelling tokens text) (htext : ∀ c ∈ text, isAscii c = true)
    (hsubset : lexemes ⊆ tokens) {names : List String}
    (hnames : names ⊆ lexemes.flatMap Token.names) {name : String} (hname : name ∈ names) :
    IsAsciiName name := by
  obtain ⟨token, htoken, hmem⟩ := List.mem_flatMap.1 (hnames hname)
  have hwithin : name ∈ tokens.flatMap Token.names :=
    List.mem_flatMap.2 ⟨token, hsubset htoken, hmem⟩
  exact ⟨h.is_name hwithin, fun c hc => htext c ((h.name_within hwithin).subset hc)⟩

/-- A foreign key whose names are ASCII names is the one that its storage names give. -/
theorem foreign_key_again {table column : String} (htable : IsAsciiText table)
    (hcolumn : IsAsciiText column) :
    ForeignKey.ofNames schema (storageName table) (storageName column) =
      .ofNames schema table column := by
  rw [ForeignKey.ofNames, ForeignKey.ofNames, storage_name_again htable,
    storage_name_again hcolumn]

/-- The default value of a declared column is given by an item. -/
theorem ColumnDeclaration.Denotes.default_declared {declaration : ColumnDeclaration}
    {column : Column} (h : declaration.Denotes schema column) {value : String}
    (hvalue : column.defaultValue = some value) : .default value ∈ declaration.items := by
  have hsame : column.defaultValue = lastOf Item.default? declaration.items :=
    congrArg Modifiers.defaultValue h.modifiers
  rw [hsame] at hvalue
  obtain ⟨item, hitem, hpick⟩ := last_of_mem hvalue
  cases item <;> cases hpick
  exact hitem

/-- The maximum length of a declared column fits 32 bits. -/
theorem ColumnDeclaration.Denotes.length_fits {declaration : ColumnDeclaration} {column : Column}
    (h : declaration.Denotes schema column) {length : Nat}
    (hlength : column.maxLength = some length) : length ≤ 4294967295 := by
  have hsame : column.maxLength = (lastOf Item.length? declaration.items).bind
      (Literal.unsigned? 32) := congrArg Modifiers.maxLength h.modifiers
  rw [hsame] at hlength
  obtain ⟨text, -, hread⟩ := Option.bind_eq_some_iff.1 hlength
  simp only [Literal.unsigned?, Option.ite_none_right_eq_some, Bool.and_eq_true,
    decide_eq_true_eq, Option.some.injEq] at hread
  obtain ⟨⟨-, hfits⟩, rfl⟩ := hread
  exact Nat.le_of_lt_succ hfits

/-- A column that is declared in an ASCII text can be written down, provided that its maximum
length belongs to a string. -/
theorem declared_column_writable {declaration : ColumnDeclaration} {column : Column}
    (h : Spelling tokens text) (htext : ∀ c ∈ text, isAscii c = true)
    (hderives : declaration.Derives lexemes) (hsubset : lexemes ⊆ tokens)
    (hdenotes : declaration.Denotes schema column)
    (hstring : column.maxLength.isSome = true → column.dataType = .string) :
    WritableColumn schema column := by
  have hnames {name : String} (hname : name ∈ declaration.names) : IsAsciiName name :=
    spelled_ascii_name h htext hsubset hderives.names_subset hname
  have hown : IsAsciiName declaration.name := hnames List.mem_cons_self
  cases hderives with
  | @intro name items rest hitems =>
      refine ⟨?_, ?_, ?_, ?_, ?_, ?_, ?_⟩
      · obtain ⟨lexeme, hspells⟩ := h.token_spelled (hsubset List.mem_cons_self)
        rw [hdenotes.name]
        exact hown.storage_spells hspells
      · rw [hdenotes.name]
        exact storage_name_again hown.ascii
      · rw [hdenotes.name, hdenotes.pascalName]
        exact (pascal_name_storage hown.ascii).symm
      · rw [hdenotes.name, hdenotes.camelName]
        exact (camel_name_storage hown.ascii).symm
      · intro key hkey
        obtain ⟨target, point, hitem, rfl⟩ := hdenotes.key_declared hkey
        have hreferred := ColumnDeclaration.item_names_subset hitem
        have htarget : IsAsciiName target := hnames (hreferred (by simp [Item.names]))
        have hpoint : IsAsciiName point := hnames (hreferred (by simp [Item.names]))
        exact ⟨htarget.storage, hpoint.storage,
          (foreign_key_again htarget.ascii hpoint.ascii).symm⟩
      · intro value hvalue
        obtain ⟨found, hitem, hwithin⟩ := hitems.item_derives (hdenotes.default_declared hvalue)
        cases hitem
        have htoken : .value value ∈ tokens := hsubset (List.mem_cons_of_mem _ (hwithin (by simp)))
        obtain ⟨lexeme, hspells⟩ := h.token_spelled htoken
        exact hspells.of_value
      · intro length hlength
        exact ⟨hstring (by rw [hlength]; rfl), hdenotes.length_fits hlength⟩

/-- A table that is declared in an ASCII text under an ASCII default schema can be written down,
provided that the maximum lengths of its columns belong to strings. -/
theorem declared_table_writable {declaration : TableDeclaration} {table : Table}
    (hschema : IsAsciiName schema) (h : Spelling tokens text)
    (htext : ∀ c ∈ text, isAscii c = true) (hderives : declaration.Derives lexemes)
    (hsubset : lexemes ⊆ tokens) (hdenotes : declaration.Denotes schema table)
    (hstring : ∀ column ∈ table.columns,
      column.maxLength.isSome = true → column.dataType = .string) :
    WritableTable schema table := by
  have hnames {name : String} (hname : name ∈ declaration.names) : IsAsciiName name :=
    spelled_ascii_name h htext hsubset hderives.names_subset hname
  have hspace : IsAsciiName (declaration.schema.getD schema) := by
    cases hsome : declaration.schema with
    | none => exact hschema
    | some space => exact hnames (by simp [TableDeclaration.names, hsome])
  have hname : IsAsciiName declaration.name := hnames (by simp [TableDeclaration.names])
  have hschemaEq := hdenotes.schema
  have hnameEq := hdenotes.name
  rw [storage_name_again hspace.ascii] at hschemaEq
  rw [storage_name_again hname.ascii] at hnameEq
  refine ⟨?_, ?_, ?_, ?_, ?_, fun column hcolumn => ?_⟩
  · rw [hschemaEq]
    exact hspace.storage
  · rw [hschemaEq]
    exact storage_name_again hspace.ascii
  · rw [hnameEq]
    exact hname.storage
  · rw [hnameEq]
    exact storage_name_again hname.ascii
  · rw [hnameEq]
    exact hdenotes.className
  · obtain ⟨declared, hdeclared, hdenoted⟩ := forall_mem_right hdenotes.columns hcolumn
    obtain ⟨found, hcolumnDerives, hwithin⟩ := hderives.column_derives hdeclared
    exact declared_column_writable h htext hcolumnDerives (List.Subset.trans hwithin hsubset) hdenoted
      (hstring column hcolumn)

end Parsed

/-- The canonical text of the tables of an ASCII text parses to the same tables, if the default
schema is an ASCII name and every maximum length belongs to a string. -/
theorem canonical_round_trip {schema text : String} {tables : List Table}
    (hschema : IsAsciiName schema) (htext : IsAsciiText text)
    (h : parse schema text = .ok tables)
    (hstring : ∀ table ∈ tables, ∀ column ∈ table.columns,
      column.maxLength.isSome = true → column.dataType = .string) :
    parse schema (canonicalText tables) = .ok tables := by
  obtain ⟨tokens, declarations, hscan, hfile, -, hdenotes⟩ := parse_sound h
  refine parse_canonical fun table htable => ?_
  obtain ⟨declaration, hdeclaration, hdenoted⟩ := forall_mem_right hdenotes htable
  obtain ⟨lexemes, hderives, hsubset⟩ := hfile.table_derives hdeclaration
  exact declared_table_writable hschema (Token.tokenize_sound hscan) htext hderives hsubset
    hdenoted (hstring table htable)

/-- A table whose names have capitals is written down and read back. -/
theorem mixed_names_round_trip :
    ∃ text written tables,
      text = "AbC\x7bID guid pk ag,byteArray string[+02]uq null df[n a]\nx int fk D.eF\x7d" ∧
      written = "dbo.ab_c \x7b\ni_d guid pk ag\nbyte_array string [2] null uq df [na]\n" ++
        "x int fk d.e_f\n\x7d\n" ∧
      parse "Dbo" text = .ok tables ∧ canonicalText tables = written ∧
      parse "Dbo" written = .ok tables := by
  obtain ⟨tables, h, hwritten, hstring⟩ : ∃ tables,
      parse "Dbo" "AbC\x7bID guid pk ag,byteArray string[+02]uq null df[n a]\nx int fk D.eF\x7d" =
        .ok tables ∧
      canonicalText tables =
        "dbo.ab_c \x7b\ni_d guid pk ag\nbyte_array string [2] null uq df [na]\n" ++
        "x int fk d.e_f\n\x7d\n" ∧
      ∀ table ∈ tables, ∀ column ∈ table.columns,
        column.maxLength.isSome = true → column.dataType = .string :=
    exists_eq_ok (by decide +kernel)
  have hschema : IsAsciiName "Dbo" :=
    ⟨⟨by decide, List.all_eq_true.1 (by decide)⟩, List.all_eq_true.1 (by decide)⟩
  have htext := canonical_round_trip hschema (List.all_eq_true.1 (by decide +kernel)) h hstring
  rw [hwritten] at htext
  exact ⟨_, _, tables, rfl, rfl, h, hwritten, htext⟩

end Definition

end Schemata
