import Schemata.Proofs.Definition.Parsing
import Schemata.Proofs.Naming

/-!
# Names come from the text

The names of a declaration are the names of its tokens, and these are spelled in the text letter by
letter. So every name of a parsed table stands in the text that declares it.
-/

namespace Schemata

open Text

/-- The names that a token holds. -/
def Token.names : Token → List String
  | .name word => [word]
  | .reference left right => [left, right]
  | _ => []

/-- The names that tokens spell stand in the text. -/
theorem Token.Spelling.name_within {tokens : List Token} {text : List Char}
    (h : Spelling tokens text) {name : String} (hname : name ∈ tokens.flatMap Token.names) :
    name.toList <:+: text := by
  induction h with
  | done _ => simp at hname
  | @token gap lexeme rest token tokens _ hspells _ _ _ ih =>
      rw [List.flatMap_cons, List.mem_append] at hname
      rcases hname with hname | hname
      · have hlexeme : name.toList <:+: lexeme := by
          cases hspells with
          | reserved hmem _ =>
              have hnone : ∀ entry ∈ reservedWords, entry.2.names = [] := by decide
              simp [hnone _ hmem] at hname
          | @reference left right _ _ =>
              simp only [Token.names, List.mem_cons, List.not_mem_nil, or_false] at hname
              rcases hname with rfl | rfl
              · rw [String.toList_ofList]
                exact (List.prefix_append left _).isInfix
              · rw [String.toList_ofList]
                exact ((List.suffix_cons '.' right).trans (List.suffix_append left _)).isInfix
          | name _ _ _ =>
              rw [show name = _ from List.mem_singleton.1 hname, String.toList_ofList]
          | _ => simp [Token.names] at hname
        exact hlexeme.trans (List.infix_append gap lexeme rest)
      · exact (ih hname).trans (List.suffix_append _ rest).isInfix

/-- The names of a table and of its columns. -/
def Table.names (table : Table) : List String :=
  table.schema :: table.name :: table.columns.map (·.name)

/-- The names to which a column refers. -/
def Column.referredNames (column : Column) : List String :=
  match column.foreignKey with
  | some key => [key.schema, key.table, key.column]
  | none => []

/-- The names to which the columns of a table refer. -/
def Table.referredNames (table : Table) : List String :=
  table.columns.flatMap Column.referredNames

namespace Definition

/-! ## Names of declarations -/

/-- The names in an item, which are those of a reference. -/
def Item.names : Item → List String
  | .foreignKey table column => [table, column]
  | _ => []

/-- The names in the declaration of a column. -/
def ColumnDeclaration.names (declaration : ColumnDeclaration) : List String :=
  declaration.name :: declaration.items.flatMap Item.names

/-- The names in the declaration of a table. -/
def TableDeclaration.names (declaration : TableDeclaration) : List String :=
  declaration.schema.toList ++ declaration.name ::
    declaration.columns.flatMap ColumnDeclaration.names

variable {tokens : List Token}

/-- The names of an item are names of its tokens. -/
theorem Item.Derives.names_subset {item : Item} (h : item.Derives tokens) :
    item.names ⊆ tokens.flatMap Token.names := by
  cases h <;> simp [Item.names, Token.names]

/-- The names of items are names of their tokens. -/
theorem Items.names_subset {items : List Item} (h : Items items tokens) :
    items.flatMap Item.names ⊆ tokens.flatMap Token.names := by
  induction h with
  | nil => exact List.Subset.refl _
  | snoc _ hitem ih =>
      rw [List.flatMap_append, List.flatMap_append, List.flatMap_singleton]
      exact List.append_subset.2 ⟨List.subset_append_of_subset_left _ ih,
        List.subset_append_of_subset_right _ hitem.names_subset⟩

/-- The names of a column are names of its tokens. -/
theorem ColumnDeclaration.Derives.names_subset {declaration : ColumnDeclaration}
    (h : declaration.Derives tokens) : declaration.names ⊆ tokens.flatMap Token.names := by
  cases h with
  | intro hitems =>
      rw [ColumnDeclaration.names, List.flatMap_cons]
      exact List.cons_subset_cons _ hitems.names_subset

/-- The names of columns are names of their tokens. -/
theorem Columns.names_subset {declarations : List ColumnDeclaration}
    (h : Columns declarations tokens) :
    declarations.flatMap ColumnDeclaration.names ⊆ tokens.flatMap Token.names := by
  induction h with
  | single hcolumn =>
      rw [List.flatMap_singleton]
      exact hcolumn.names_subset
  | snoc _ _ _ hcolumn ih =>
      rw [List.flatMap_append, List.flatMap_append, List.flatMap_append, List.flatMap_singleton,
        List.append_assoc]
      exact List.append_subset.2 ⟨List.subset_append_of_subset_left _ ih,
        List.subset_append_of_subset_right _
          (List.subset_append_of_subset_right _ hcolumn.names_subset)⟩

/-- The names of a body are names of its tokens. -/
theorem Body.names_subset {declarations : List ColumnDeclaration} (h : Body declarations tokens) :
    declarations.flatMap ColumnDeclaration.names ⊆ tokens.flatMap Token.names := by
  cases h with
  | empty _ => exact List.nil_subset _
  | columns _ hcolumns _ =>
      rw [List.flatMap_append, List.flatMap_append]
      exact List.subset_append_of_subset_left _
        (List.subset_append_of_subset_right _ hcolumns.names_subset)

/-- The names of a table are names of its tokens. -/
theorem TableDeclaration.Derives.names_subset {declaration : TableDeclaration}
    (h : declaration.Derives tokens) : declaration.names ⊆ tokens.flatMap Token.names := by
  cases h with
  | @intro schema name columns lines lexemes _ hbody =>
      have hheader : (headerToken schema name).names = schema.toList ++ [name] := by
        cases schema <;> rfl
      intro other hmem
      rw [TableDeclaration.names, List.append_cons, ← hheader, List.mem_append] at hmem
      rcases hmem with hmem | hmem
      · exact List.mem_flatMap.2 ⟨headerToken schema name, by simp, hmem⟩
      · obtain ⟨token, htoken, hother⟩ := List.mem_flatMap.1 (hbody.names_subset hmem)
        exact List.mem_flatMap.2 ⟨token, by simp [htoken], hother⟩

/-- The names of a text are names of its tokens. -/
theorem File.names_subset {declarations : List TableDeclaration} (h : File declarations tokens) :
    declarations.flatMap TableDeclaration.names ⊆ tokens.flatMap Token.names := by
  induction h with
  | separators _ => exact List.nil_subset _
  | snoc _ htable _ ih =>
      rw [List.flatMap_append, List.flatMap_append, List.flatMap_append, List.flatMap_singleton]
      refine List.subset_append_of_subset_left _ (List.append_subset.2 ⟨?_, ?_⟩)
      · exact List.subset_append_of_subset_left _ ih
      · exact List.subset_append_of_subset_right _ htable.names_subset

/-! ## Names of tables -/

variable {schema : String}

/-- The last value that items give is the value of one of them. -/
theorem last_of_mem {α : Type} {pick : Item → Option α} {items : List Item} {value : α}
    (h : lastOf pick items = some value) : ∃ item ∈ items, pick item = some value :=
  List.mem_filterMap.1 (List.mem_of_getLast? h)

/-- The column to which a foreign key of a declared column points is named by an item. -/
theorem ColumnDeclaration.Denotes.key_declared {declaration : ColumnDeclaration} {column : Column}
    (h : declaration.Denotes schema column) {key : ForeignKey}
    (hkey : column.foreignKey = some key) :
    ∃ target point, .foreignKey target point ∈ declaration.items ∧
      key = .ofNames schema target point := by
  have hsame : column.foreignKey =
      (lastOf Item.key? declaration.items).map fun key => .ofNames schema key.1 key.2 :=
    congrArg Modifiers.foreignKey h.modifiers
  rw [hsame] at hkey
  obtain ⟨⟨target, point⟩, hlast, rfl⟩ := Option.map_eq_some_iff.1 hkey
  obtain ⟨item, hitem, hpick⟩ := last_of_mem hlast
  cases item <;> cases hpick
  exact ⟨target, point, hitem, rfl⟩

/-- The names in an item of a declaration are names of the declaration. -/
theorem ColumnDeclaration.item_names_subset {declaration : ColumnDeclaration} {item : Item}
    (h : item ∈ declaration.items) : item.names ⊆ declaration.names := fun _ hname =>
  List.mem_cons_of_mem _ (List.mem_flatMap.2 ⟨item, h, hname⟩)

/-- Where a name to which a column refers opens a comment, a name of the declaration or the default
schema does. -/
theorem ColumnDeclaration.Denotes.referred_comment {declaration : ColumnDeclaration}
    {column : Column} (h : declaration.Denotes schema column) {name : String}
    (hname : name ∈ column.referredNames) (hcomment : OpensComment name) :
    OpensComment schema ∨ ∃ other ∈ declaration.names, OpensComment other := by
  unfold Column.referredNames at hname
  split at hname
  · next key hkey =>
      obtain ⟨target, point, hitem, rfl⟩ := h.key_declared hkey
      have hnames := ColumnDeclaration.item_names_subset hitem
      simp only [ForeignKey.ofNames, List.mem_cons, List.not_mem_nil, or_false] at hname
      rcases hname with rfl | rfl | rfl <;> rw [storage_name_comment_iff] at hcomment
      · exact .inl hcomment
      · exact .inr ⟨target, hnames (by simp [Item.names]), hcomment⟩
      · exact .inr ⟨point, hnames (by simp [Item.names]), hcomment⟩
  · simp at hname

/-- Where a name of a table or a name to which it refers opens a comment, a name of the declaration
or the default schema does. -/
theorem TableDeclaration.Denotes.names_comment {declaration : TableDeclaration} {table : Table}
    (h : declaration.Denotes schema table) {name : String}
    (hname : name ∈ table.names ++ table.referredNames) (hcomment : OpensComment name) :
    OpensComment schema ∨ ∃ other ∈ declaration.names, OpensComment other := by
  have hcolumns : ∀ column ∈ declaration.columns, column.names ⊆ declaration.names := by
    intro column hmem other hother
    rw [TableDeclaration.names]
    refine List.mem_append_right _ (List.mem_cons_of_mem _ ?_)
    exact List.mem_flatMap.2 ⟨column, hmem, hother⟩
  rw [List.mem_append, Table.names, List.mem_cons, List.mem_cons, List.mem_map,
    Table.referredNames, List.mem_flatMap] at hname
  rcases hname with (rfl | rfl | ⟨column, hmem, rfl⟩) | ⟨column, hmem, hname⟩
  · rw [h.schema, storage_name_comment_iff, storage_name_comment_iff] at hcomment
    cases hspace : declaration.schema with
    | none =>
        rw [hspace] at hcomment
        exact .inl hcomment
    | some space =>
        rw [hspace] at hcomment
        exact .inr ⟨space, by simp [TableDeclaration.names, hspace], hcomment⟩
  · rw [h.name, storage_name_comment_iff, storage_name_comment_iff] at hcomment
    exact .inr ⟨declaration.name, by simp [TableDeclaration.names], hcomment⟩
  · obtain ⟨declared, hdeclared, hdenotes⟩ := forall_mem_right h.columns hmem
    rw [hdenotes.name, storage_name_comment_iff] at hcomment
    exact .inr ⟨declared.name, hcolumns declared hdeclared List.mem_cons_self, hcomment⟩
  · obtain ⟨declared, hdeclared, hdenotes⟩ := forall_mem_right h.columns hmem
    refine (hdenotes.referred_comment hname hcomment).imp_right ?_
    rintro ⟨other, hother, hcomment⟩
    exact ⟨other, hcolumns declared hdeclared hother, hcomment⟩

/-- Where a name of a parsed table or a name to which it refers opens a comment, the text or the
default schema does. -/
theorem parsed_names_comment {text : String} {tables : List Table}
    (h : parse schema text = .ok tables) {table : Table} (htable : table ∈ tables) {name : String}
    (hname : name ∈ table.names ++ table.referredNames) (hcomment : OpensComment name) :
    OpensComment schema ∨ OpensComment text := by
  obtain ⟨tokens, declarations, hscan, hfile, -, hdenotes⟩ := parse_sound h
  obtain ⟨declaration, hdeclaration, hdenotes⟩ := forall_mem_right hdenotes htable
  refine (hdenotes.names_comment hname hcomment).imp_right ?_
  rintro ⟨other, hother, hcomment⟩
  have htoken := hfile.names_subset (List.mem_flatMap.2 ⟨declaration, hdeclaration, hother⟩)
  exact List.IsInfix.trans hcomment ((Token.tokenize_sound hscan).name_within htoken)

/-- The camel names of a parsed table have no hyphens. -/
theorem parsed_camel_names {text : String} {tables : List Table}
    (h : parse schema text = .ok tables) {table : Table} (htable : table ∈ tables) :
    ∀ column ∈ table.columns, '-' ∉ column.camelName.toList := by
  intro column hcolumn
  obtain ⟨tokens, declarations, -, -, -, hdenotes⟩ := parse_sound h
  obtain ⟨declaration, -, hdenotes⟩ := forall_mem_right hdenotes htable
  obtain ⟨declared, -, hdenotes⟩ := forall_mem_right hdenotes.columns hcolumn
  rw [hdenotes.camelName]
  exact hyphen_not_mem_camel declared.name

end Definition

end Schemata
