import Schemata.Proofs.Definition.Parsing
import Schemata.Proofs.Script.Lines

/-!
# Canonical definition texts

A table is written down as a definition text with its header on the first line, one column on each
line below, and the closing brace on the last line. A column is its name, its data type, and its
modifiers in a fixed order. By `parse_canonical` the text of tables that can be written down parses
to these tables. `Table.Writable` says which tables this is: their names are spelled as names and
are in storage spelling, and the host names are those that the parser spells from them.
-/

namespace Schemata

/-! ## Texts made of words -/

/-- The text of rows of words: a blank between the words of a row, and each row on its own line. -/
def wordRows (rows : List (List String)) : String :=
  unlines (rows.map (" ".intercalate ·))

namespace Token

open Text

/-- `WordSpells token word` says that `word` spells `token`, which is not a line break. -/
def WordSpells (token : Token) (word : String) : Prop :=
  Spells token word.toList ∧ token ≠ newLine

variable {tokens later : List Token} {words : List String} {gap rest : List Char}

/-- The empty gap. -/
theorem is_gap_nil : IsGap [] :=
  fun _ hmem => absurd hmem List.not_mem_nil

/-- A line feed in front of a text that does not begin with a blank is a line break. -/
theorem Spelling.behind_line (h : Spelling later rest) (hstop : ¬ StartsBlank rest) :
    Spelling (newLine :: later) ('\n' :: rest) := by
  have hspells : Spells newLine ['\n'] := by
    refine .newLine (fun c hc => ?_) ⟨'\n', List.mem_singleton_self _, by decide⟩
    rw [List.mem_singleton.1 hc]
    decide
  exact .token is_gap_nil hspells h (by simp [isWord]) fun _ => ⟨rfl, hstop⟩

/-- A word behind a gap and in front of a blank. -/
theorem Spelling.behind_word {token : Token} {word : String} (h : Spelling later rest)
    (hgap : IsGap gap) (hword : WordSpells token word) (hblank : StartsBlank rest) :
    Spelling (token :: later) (gap ++ word.toList ++ rest) :=
  .token hgap hword.1 h (fun _ _ => hblank) fun hnew => absurd hnew hword.2

/-- A row of words spells their tokens and a line break, in front of a text that does not begin with
a blank. -/
theorem spelling_row (h : List.Forall₂ WordSpells tokens words) (hne : words ≠ [])
    (hgap : IsGap gap) (hrest : Spelling later rest) (hstop : ¬ StartsBlank rest) :
    Spelling (tokens ++ newLine :: later)
      (gap ++ ((" ".intercalate words).toList ++ '\n' :: rest)) := by
  induction h generalizing gap with
  | nil => exact absurd rfl hne
  | @cons token word tokens words hword hwords ih =>
      cases hwords with
      | nil =>
          rw [String.intercalate_singleton, ← List.append_assoc]
          exact (hrest.behind_line hstop).behind_word hgap hword ⟨'\n', rfl, by decide⟩
      | @cons other next others words hother hothers =>
          have hspace : IsGap [' '] := by
            intro c hmem
            rw [List.mem_singleton.1 hmem]
            decide
          rw [String.intercalate_cons_cons, String.toList_append, String.toList_append,
            List.append_assoc, List.append_assoc, ← List.append_assoc gap]
          exact (ih (by simp) hspace).behind_word hgap hword ⟨' ', rfl, by decide⟩

/-- A row of words does not begin with a blank. -/
theorem row_starts (h : List.Forall₂ WordSpells tokens words) (hne : words ≠ []) :
    ¬ StartsBlank ((" ".intercalate words).toList ++ rest) := by
  cases h with
  | nil => exact absurd rfl hne
  | @cons token word tokens words hword hwords =>
      obtain ⟨c, tail, hlexeme, hc⟩ := hword.1.head_not_blank hword.2
      have hhead : ((" ".intercalate (word :: words)).toList ++ rest).head? = some c := by
        cases words <;> simp [hlexeme]
      rintro ⟨d, hd, hblank⟩
      rw [hhead] at hd
      rw [← Option.some.inj hd, hc] at hblank
      cases hblank

/-- Rows of words spell the tokens of each row with a line break behind them. -/
theorem spelling_rows {rows : List (List Token)} {lines : List (List String)}
    (h : List.Forall₂ (List.Forall₂ WordSpells) rows lines) (hne : [] ∉ lines) :
    Spelling (rows.flatMap (· ++ [newLine])) (wordRows lines).toList ∧
      ¬ StartsBlank (wordRows lines).toList := by
  induction h with
  | nil => exact ⟨.done is_gap_nil, by simp [wordRows, unlines, StartsBlank]⟩
  | @cons row line rows lines hrow _ ih =>
      rw [List.mem_cons, not_or] at hne
      obtain ⟨hrest, hstop⟩ := ih hne.2
      have htext : (wordRows (line :: lines)).toList =
          (" ".intercalate line).toList ++ '\n' :: (wordRows lines).toList := by
        simp [wordRows, unlines_cons]
      rw [htext, List.flatMap_cons, List.append_assoc]
      exact ⟨spelling_row hrow (Ne.symm hne.1) is_gap_nil hrest hstop,
        row_starts hrow (Ne.symm hne.1)⟩

/-- The text can stand in brackets as it is. -/
def IsBracketed (text : String) : Prop :=
  text.toList ≠ [] ∧ ∀ c ∈ text.toList, c ≠ ']' ∧ isBlank c = false

/-- A reserved word spells its token. -/
theorem reserved_spells {keyword : String} {token : Token}
    (h : (keyword, token) ∈ reservedWords) : WordSpells token keyword := by
  refine ⟨.reserved h (by simp [sameWord]), ?_⟩
  rintro rfl
  exact absurd (reserved_is_word h) (by decide)

/-- A data type is spelled by the keyword under which it is reported. -/
theorem keyword_spells (type : DataType) : WordSpells (.dataType type) type.keyword := by
  have hmem : (type.keyword, type) ∈ DataType.keywords := by cases type <;> decide
  exact ⟨.dataType hmem (by simp [sameWord]), by simp⟩

/-- Two names with a period between them spell a reference. -/
theorem reference_spells {table column : String} (htable : IsName table.toList)
    (hcolumn : IsName column.toList) :
    WordSpells (.reference table column) (table ++ "." ++ column) := by
  have hspells := Spells.reference htable hcolumn
  rw [String.ofList_toList, String.ofList_toList] at hspells
  refine ⟨?_, by simp⟩
  simpa using hspells

/-- A text in brackets spells a value. -/
theorem value_spells {text : String} (h : IsBracketed text) :
    WordSpells (.value text) ("[" ++ text ++ "]") := by
  have hinner : ∀ c ∈ text.toList, c ≠ ']' ∧ isLineBreak c = false := by
    intro c hc
    refine ⟨(h.2 c hc).1, ?_⟩
    have hblank := (h.2 c hc).2
    by_contra hline
    simp only [isLineBreak, Bool.not_eq_false, Bool.or_eq_true, beq_iff_eq] at hline
    rcases hline with rfl | rfl <;> exact absurd hblank (by decide)
  have hfilter : text.toList.filter (!isBlank ·) = text.toList := by
    rw [List.filter_eq_self]
    intro c hc
    rw [(h.2 c hc).2]
    rfl
  have hspells := Spells.value hinner (by rw [hfilter]; exact h.1)
  rw [hfilter, String.ofList_toList] at hspells
  refine ⟨?_, by simp⟩
  simpa using hspells

end Token

namespace Definition

open Token (WordSpells IsName IsBracketed newLine)

/-! ## Writing tables down -/

namespace Item

/-- The words of an item. -/
def words : Item → List String
  | dataType type => [type.keyword]
  | primaryKey => ["pk"]
  | null => ["null"]
  | unique => ["uq"]
  | autoGenerate => ["ag"]
  | foreignKey table column => ["fk", table ++ "." ++ column]
  | default value => ["df", "[" ++ value ++ "]"]
  | length text => ["[" ++ text ++ "]"]

/-- The tokens of an item, where a maximum length is in brackets. -/
def tokens : Item → List Token
  | dataType type => [.dataType type]
  | primaryKey => [.primaryKey]
  | null => [.null]
  | unique => [.unique]
  | autoGenerate => [.autoGenerate]
  | foreignKey table column => [.foreignKey, .reference table column]
  | default value => [.default, .value value]
  | length text => [.value text]

/-- What the names and values of an item must satisfy for its words to spell it. -/
def Writable : Item → Prop
  | foreignKey table column => IsName table.toList ∧ IsName column.toList
  | default value => IsBracketed value
  | length text => IsBracketed text
  | _ => True

/-- The tokens of an item derive it. -/
theorem derives_tokens (item : Item) : item.Derives item.tokens := by
  cases item <;> constructor

/-- The words of an item spell its tokens. -/
theorem Writable.spells {item : Item} (h : item.Writable) :
    List.Forall₂ WordSpells item.tokens item.words := by
  cases item with
  | dataType type => exact .cons (Token.keyword_spells type) .nil
  | primaryKey | null | unique | autoGenerate =>
      exact .cons (Token.reserved_spells (by decide)) .nil
  | foreignKey table column =>
      exact .cons (Token.reserved_spells (by decide)) (.cons (Token.reference_spells h.1 h.2) .nil)
  | default value =>
      exact .cons (Token.reserved_spells (by decide)) (.cons (Token.value_spells h) .nil)
  | length text => exact .cons (Token.value_spells h) .nil

end Item

/-- The item, if the column has the property that it gives. -/
def given (property : Bool) (item : Item) : Option Item :=
  if property then some item else none

/-- The items that describe a column, in canonical order. -/
def canonicalItems (column : Column) : List Item :=
  [.dataType column.dataType] ++
    (column.maxLength.map fun length => .length (toString length)).toList ++
    (given column.primaryKey .primaryKey).toList ++
    (given column.autoGenerate .autoGenerate).toList ++
    (given column.nullable .null).toList ++
    (given column.unique .unique).toList ++
    (column.foreignKey.map fun key => .foreignKey key.table key.column).toList ++
    (column.defaultValue.map .default).toList

/-- The words of the line of a column. -/
def columnWords (column : Column) : List String :=
  column.name :: (canonicalItems column).flatMap Item.words

/-- The words of the lines of a table: the header, the columns, and the closing brace. -/
def tableRows (table : Table) : List (List String) :=
  [table.qualifiedName, "\x7b"] :: table.columns.map columnWords ++ [["\x7d"]]

/-- The canonical text of tables. -/
def canonicalText (tables : List Table) : String :=
  wordRows (tables.flatMap tableRows)

/-- The column can be written down: its name spells itself and is in storage spelling, its other
names are spelled from it, and its default value, its maximum length and the column that it refers
to can be read back. -/
structure WritableColumn (schema : String) (column : Column) : Prop where
  name : WordSpells (.name column.name) column.name
  stored : storageName column.name = column.name
  pascalName : column.pascalName = Schemata.pascalName column.name
  camelName : column.camelName = Schemata.camelName column.name
  foreignKey {key : ForeignKey} : column.foreignKey = some key →
    IsName key.table.toList ∧ IsName key.column.toList ∧ key = .ofNames schema key.table key.column
  defaultValue {value : String} : column.defaultValue = some value → IsBracketed value
  maxLength {length : Nat} : column.maxLength = some length →
    column.dataType = .string ∧ length ≤ 4294967295

/-! ## The items of a column -/

section Items

variable {schema : String} {column : Column} {items : List Item} {more : Option Item}

/-- An admissible item that may be missing keeps items readable. -/
theorem Readable.optional (h : Readable items)
    (hitem : ∀ item, more = some item → item.Admissible items) :
    Readable (items ++ more.toList) := by
  cases more with
  | none => simpa using h
  | some item => exact h.snoc (hitem item rfl)

/-- What is picked from an item that may be missing. -/
theorem filter_map_optional {α : Type} (pick : Item → Option α) :
    more.toList.filterMap pick = (more.bind pick).toList := by
  cases more with
  | none => rfl
  | some item => cases hpick : pick item <;> simp [hpick]

/-- What is picked from an item that a column has or does not have. -/
theorem given_bind {α : Type} (pick : Item → Option α) (property : Bool) (item : Item) :
    (given property item).bind pick = if property then pick item else none := by
  cases property <;> rfl

/-- The values that the canonical items of a column give are those of the column. -/
theorem canonical_values (column : Column) :
    lastOf Item.type? (canonicalItems column) = some column.dataType ∧
    lastOf Item.default? (canonicalItems column) = column.defaultValue ∧
    lastOf Item.key? (canonicalItems column) =
      column.foreignKey.map (fun key => (key.table, key.column)) ∧
    lastOf Item.length? (canonicalItems column) = column.maxLength.map toString := by
  simp only [lastOf, canonicalItems, List.filterMap_append, filter_map_optional, given_bind,
    Option.bind_map, Function.comp_def, Item.type?, Item.default?, Item.key?, Item.length?]
  refine ⟨?_, ?_, ?_, ?_⟩
  · simp [Item.type?]
  · cases column.defaultValue <;> simp [Item.default?]
  · cases column.foreignKey <;> simp [Item.key?]
  · cases column.maxLength <;> simp [Item.length?]

/-- The properties that the canonical items of a column give are those of the column. -/
theorem canonical_properties (column : Column) :
    (.primaryKey ∈ canonicalItems column ↔ column.primaryKey = true) ∧
    (.autoGenerate ∈ canonicalItems column ↔ column.autoGenerate = true) ∧
    (.null ∈ canonicalItems column ↔ column.nullable = true) ∧
    (.unique ∈ canonicalItems column ↔ column.unique = true) := by
  simp [canonicalItems, given]

/-- The decimal digits of a number. -/
theorem digits_of_number {length : Nat} {c : Char} (h : c ∈ (toString length).toList) :
    c.isDigit = true := by
  rw [Nat.toString_eq_repr, Nat.toList_repr] at h
  exact Nat.isDigit_of_mem_toDigits (by decide) (by decide) h

/-- The decimal digits of a number can stand in brackets. -/
theorem digits_bracketed (length : Nat) : IsBracketed (toString length) := by
  refine ⟨?_, fun c hc => ?_⟩
  · rw [Nat.toString_eq_repr, Nat.toList_repr]
    exact Nat.toDigits_ne_nil
  · have hdigit := digits_of_number hc
    have hascii : Text.isAscii c = true := by
      have hlast : c.toNat ≤ 57 := of_decide_eq_true (Bool.and_eq_true_iff.1 hdigit).2
      rw [Text.isAscii, decide_eq_true_eq]
      omega
    exact Text.forall_ascii (p := fun c => c.isDigit = true → c ≠ ']' ∧ Text.isBlank c = false)
      (by decide) hascii hdigit

/-- The decimal digits of a number that fits 32 bits are read back as the number. -/
theorem unsigned_digits {length : Nat} (h : length ≤ 4294967295) :
    Literal.unsigned? 32 (toString length) = some length := by
  have hvalue : Literal.digitsValue (toString length).toList = length := by
    rw [Nat.toString_eq_repr, Nat.toList_repr]
    exact Nat.ofDigitChars_toDigits (by decide) (by decide)
  obtain ⟨c, rest, hdigits⟩ := List.exists_cons_of_ne_nil (digits_bracketed length).1
  have hall : Literal.isDigits (c :: rest) = true := by
    rw [← hdigits, Literal.isDigits, Bool.and_eq_true, List.all_eq_true]
    exact ⟨by simp, fun d hd => digits_of_number hd⟩
  have hc : c ≠ '+' := by
    rintro rfl
    exact absurd (digits_of_number (hdigits ▸ List.mem_cons_self)) (by decide)
  rw [hdigits] at hvalue
  have hfits : length < Literal.twoPow 32 := Nat.lt_succ_of_le h
  simp only [Literal.unsigned?, hdigits, if_neg hc, hall, hvalue, hfits, decide_true,
    Bool.and_self, if_true]

/-- An item that is given is the one in question, and the column has the property. -/
theorem given_eq_some_iff {property : Bool} {item found : Item} :
    given property item = some found ↔ property = true ∧ found = item := by
  cases property <;> simp [given, eq_comm]

/-- The canonical items of a column that can be written down do not contradict each other. -/
theorem canonical_readable (h : WritableColumn schema column) :
    Readable (canonicalItems column) := by
  obtain ⟨hforeign, hnull, hgenerated, -⟩ := conflict_eq_none_iff.1 column.sound
  have htype : Readable [.dataType column.dataType] := Readable.nil.snoc trivial
  -- each item is admissible behind those in front of it
  refine ((((((htype.optional ?length).optional ?key).optional ?generated).optional ?null).optional
    ?unique).optional ?foreign).optional ?default
  case length =>
      intro item hitem
      obtain ⟨length, hlength, rfl⟩ := Option.map_eq_some_iff.1 hitem
      obtain ⟨hstring, hfits⟩ := h.maxLength hlength
      exact ⟨congrArg some hstring, is_length_iff.2 ⟨length, unsigned_digits hfits⟩⟩
  case key =>
      intro item hitem
      obtain ⟨-, rfl⟩ := given_eq_some_iff.1 hitem
      simp [Item.Admissible]
  case generated =>
      intro item hitem
      obtain ⟨hproperty, rfl⟩ := given_eq_some_iff.1 hitem
      simp [Item.Admissible, given, hgenerated hproperty]
  case null =>
      intro item hitem
      obtain ⟨hproperty, rfl⟩ := given_eq_some_iff.1 hitem
      have hkey : ¬ column.primaryKey = true := fun hkey => hnull hkey hproperty
      simp [Item.Admissible, given, hkey]
  case unique =>
      intro item hitem
      obtain ⟨-, rfl⟩ := given_eq_some_iff.1 hitem
      trivial
  case foreign =>
      intro item hitem
      obtain ⟨key, hkey, rfl⟩ := Option.map_eq_some_iff.1 hitem
      have hprimary : ¬ column.primaryKey = true := fun hprimary =>
        hforeign hprimary (by simp [hkey])
      simp [Item.Admissible, given, hprimary]
  case default =>
      intro item hitem
      obtain ⟨value, -, rfl⟩ := Option.map_eq_some_iff.1 hitem
      trivial

/-- The canonical items of a column stand for its modifiers. -/
theorem canonical_modifiers (h : WritableColumn schema column) :
    modifiersOf schema (canonicalItems column) = column.toModifiers := by
  obtain ⟨-, hdefault, hkey, hlength⟩ := canonical_values column
  obtain ⟨hprimary, hgenerated, hnull, hunique⟩ := canonical_properties column
  have hforeign : (column.foreignKey.map fun key => (key.table, key.column)).map
      (fun key => ForeignKey.ofNames schema key.1 key.2) = column.foreignKey := by
    cases hsome : column.foreignKey with
    | none => rfl
    | some key => exact congrArg some (h.foreignKey hsome).2.2.symm
  have hmax : (column.maxLength.map toString).bind (Literal.unsigned? 32) = column.maxLength := by
    cases hsome : column.maxLength with
    | none => rfl
    | some length => exact unsigned_digits (h.maxLength hsome).2
  simp only [modifiersOf, hdefault, hkey, hlength, hforeign, hmax, hprimary, hgenerated, hnull,
    hunique, Bool.decide_eq_true]

/-- The canonical declaration of a column that can be written down is sound and denotes it. -/
theorem canonical_column (h : WritableColumn schema column) :
    ColumnDeclaration.Sound ⟨column.name, canonicalItems column⟩ ∧
      ColumnDeclaration.Denotes schema ⟨column.name, canonicalItems column⟩ column := by
  have htype := (canonical_values column).1
  have hreadable := canonical_readable h
  have hmodifiers := canonical_modifiers h
  have hconflict : (modifiersOf schema (canonicalItems column)).conflict? = none :=
    hmodifiers ▸ column.sound
  have hdefault := hreadable.conflict_iff.1 hconflict
  refine ⟨{ hreadable with dataType := last_type_iff.1 ⟨_, htype⟩, default := hdefault _ }, ?_⟩
  exact ⟨h.stored.symm, h.pascalName, h.camelName, htype, hmodifiers.symm⟩

end Items

/-! ## Reading tables back -/

/-- The table can be written down: its names are spelled as names and are in storage spelling, and
its class is named after it. -/
structure WritableTable (defaultSchema : String) (table : Table) : Prop where
  schema : IsName table.schema.toList
  schemaStored : storageName table.schema = table.schema
  name : IsName table.name.toList
  nameStored : storageName table.name = table.name
  className : table.className = pascalName table.name
  columns : ∀ column ∈ table.columns, WritableColumn defaultSchema column

/-- The tokens of the line of a column. -/
def columnTokens (column : Column) : List Token :=
  .name column.name :: (canonicalItems column).flatMap Item.tokens

/-- The tokens of the lines of a table. -/
def tableTokens (table : Table) : List (List Token) :=
  [.reference table.schema table.name, .openTable] :: table.columns.map columnTokens ++
    [[.closeTable]]

section Tables

variable {schema : String} {column : Column} {table : Table} {tables earlier : List Table}
  {columns : List Column} {opened : OpenTable}

/-- The canonical items of a column that can be written down can be spelled. -/
theorem canonical_items_writable (h : WritableColumn schema column) :
    ∀ item ∈ canonicalItems column, item.Writable := by
  intro item hitem
  simp only [canonicalItems, List.mem_append, List.mem_singleton, Option.mem_toList,
    Option.map_eq_some_iff, given_eq_some_iff] at hitem
  rcases hitem with ((((((rfl | ⟨length, -, rfl⟩) | ⟨-, rfl⟩) | ⟨-, rfl⟩) | ⟨-, rfl⟩) | ⟨-, rfl⟩) |
    ⟨key, hkey, rfl⟩) | ⟨value, hvalue, rfl⟩
  · trivial
  · exact digits_bracketed length
  iterate 4 trivial
  · exact ⟨(h.foreignKey hkey).1, (h.foreignKey hkey).2.1⟩
  · exact h.defaultValue hvalue

/-- The words of the line of a column spell its tokens. -/
theorem column_words_spell (h : WritableColumn schema column) :
    List.Forall₂ WordSpells (columnTokens column) (columnWords column) := by
  refine .cons h.name ?_
  have hitems := canonical_items_writable h
  generalize canonicalItems column = items at hitems
  induction items with
  | nil => exact .nil
  | cons item items ih =>
      rw [List.forall_mem_cons] at hitems
      exact List.rel_append hitems.1.spells (ih hitems.2)

/-- The words of the lines of a table spell its tokens. -/
theorem table_rows_spell (h : WritableTable schema table) :
    List.Forall₂ (List.Forall₂ WordSpells) (tableTokens table) (tableRows table) := by
  have hopen : WordSpells .openTable "\x7b" := ⟨.openTable, by simp⟩
  have hclose : WordSpells .closeTable "\x7d" := ⟨.closeTable, by simp⟩
  refine .cons (.cons (Token.reference_spells h.schema h.name) (.cons hopen .nil)) ?_
  refine List.rel_append ?_ (.cons (.cons hclose .nil) .nil)
  rw [List.forall₂_map_left_iff, List.forall₂_map_right_iff, List.forall₂_same]
  exact fun column hcolumn => column_words_spell (h.columns column hcolumn)

/-- Items derive from their tokens. -/
theorem items_derive (items : List Item) : Items items (items.flatMap Item.tokens) := by
  induction items using List.reverseRecOn with
  | nil => exact .nil
  | append_singleton items item ih =>
      rw [List.flatMap_append, List.flatMap_singleton]
      exact ih.snoc item.derives_tokens

/-- The line of a column adds it to the open table. -/
theorem column_line_runs (h : WritableColumn schema column) :
    Runs schema ⟨tables, .body opened⟩ (columnTokens column ++ [newLine])
      ⟨tables, .body (opened.add column)⟩ := by
  obtain ⟨hsound, hdenotes⟩ := canonical_column h
  have hderives : ColumnDeclaration.Derives ⟨column.name, canonicalItems column⟩
      (columnTokens column) := .intro (items_derive _)
  have hspelling := Token.spelling_row (column_words_spell h) (List.cons_ne_nil _ _)
    Token.is_gap_nil (.done Token.is_gap_nil) (by simp [Token.StartsBlank])
  have hnames : .name "" ∉ columnTokens column := fun hmem =>
    names_not_empty hspelling (List.mem_append_left _ hmem)
  obtain ⟨draft, hruns, hfinish⟩ := hderives.runs hnames hsound hdenotes
  have hline : Separators [newLine] := by simp [Separators]
  exact hruns.append (hline.runs_column (by simp) (hfinish _))

/-- The lines of columns add them to the open table. -/
theorem column_lines_run (h : ∀ column ∈ columns, WritableColumn schema column) :
    Runs schema ⟨tables, .body opened⟩
      ((columns.map columnTokens).flatMap (· ++ [newLine]))
      ⟨tables, .body (opened.addAll columns)⟩ := by
  induction columns generalizing opened with
  | nil =>
      rw [OpenTable.add_all_nil]
      exact .nil
  | cons column columns ih =>
      rw [List.forall_mem_cons] at h
      have hadd : opened.addAll (column :: columns) = (opened.add column).addAll columns := by
        simp [OpenTable.addAll, OpenTable.add]
      rw [List.map_cons, List.flatMap_cons, hadd]
      exact (column_line_runs h.1).append (ih h.2)

/-- The lines of a table add it to the finished tables. -/
theorem table_lines_run (h : WritableTable schema table) :
    Runs schema ⟨earlier, .betweenTables⟩ ((tableTokens table).flatMap (· ++ [newLine]))
      ⟨earlier ++ [table], .betweenTables⟩ := by
  have hresult : ((OpenTable.ofNames table.schema table.name).addAll table.columns).close =
      table := by
    simp only [OpenTable.close, OpenTable.addAll, OpenTable.ofNames, Table.ofNames,
      h.schemaStored, h.nameStored, ← h.className, List.nil_append]
  rw [tableTokens, List.flatMap_append, List.flatMap_cons]
  have hheader : Runs schema ⟨earlier, .betweenTables⟩
      ([.reference table.schema table.name, .openTable] ++ [newLine])
      ⟨earlier, .body (.ofNames table.schema table.name)⟩ := rfl
  have hclose (opened : OpenTable) : Runs schema ⟨earlier, .body opened⟩ [.closeTable, newLine]
      ⟨earlier ++ [opened.close], .betweenTables⟩ := rfl
  have hfinish := hclose ((OpenTable.ofNames table.schema table.name).addAll table.columns)
  rw [hresult] at hfinish
  exact (hheader.append (column_lines_run h.columns)).append hfinish

/-- The lines of tables add them to the finished tables. -/
theorem table_lines_all_run (h : ∀ table ∈ tables, WritableTable schema table) :
    Runs schema ⟨earlier, .betweenTables⟩
      ((tables.flatMap tableTokens).flatMap (· ++ [newLine]))
      ⟨earlier ++ tables, .betweenTables⟩ := by
  induction tables generalizing earlier with
  | nil =>
      rw [List.append_nil]
      exact .nil
  | cons table tables ih =>
      rw [List.forall_mem_cons] at h
      rw [List.flatMap_cons, List.flatMap_append, List.append_cons]
      exact (table_lines_run h.1).append (ih h.2)

/-- The canonical text of tables that can be written down parses to them. -/
theorem parse_canonical (h : ∀ table ∈ tables, WritableTable schema table) :
    parse schema (canonicalText tables) = .ok tables := by
  have hrows : List.Forall₂ (List.Forall₂ WordSpells) (tables.flatMap tableTokens)
      (tables.flatMap tableRows) := by
    induction tables with
    | nil => exact .nil
    | cons table tables ih =>
        rw [List.forall_mem_cons] at h
        exact List.rel_append (table_rows_spell h.1) (ih h.2)
  have hne : [] ∉ tables.flatMap tableRows := by
    simp [tableRows, columnWords]
  exact parse_spelling_iff.2 ⟨_, (Token.spelling_rows hrows hne).1, table_lines_all_run h⟩

end Tables

end Definition

end Schemata
