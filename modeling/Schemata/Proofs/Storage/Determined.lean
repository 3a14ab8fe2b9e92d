import Schemata.Proofs.Storage.Outline

/-!
# A creation determines its table

The line of a column has a type that stands for a flag as well, and the line of a primary key leaves
clauses out. Still no two columns have the same line unless they agree on everything that matters to
the database, by `agrees_of_outline`. So two tables are created by the same text exactly if they
have the same names and their columns agree, by `creation_determines`. A maximum length, the
spelling of a default value and the uniqueness of a primary key are all that is lost.
-/

namespace Schemata

open Text

namespace Storage

variable {left right column : Column} {line : String}

/-! ## Columns that agree -/

/-- The two columns agree on everything but their maximum length, the spelling of a default value
that is written in the same way, and whether a primary key is declared unique as well. -/
structure Agrees (left right : Column) : Prop where
  name : left.name = right.name
  dataType : left.dataType = right.dataType
  primaryKey : left.primaryKey = right.primaryKey
  autoGenerate : left.autoGenerate = right.autoGenerate
  nullable : left.nullable = right.nullable
  foreignKey : left.foreignKey = right.foreignKey
  defaultValue : left.defaultValue.isSome = right.defaultValue.isSome
  defaultExpression : left.defaultExpression = right.defaultExpression
  unique : left.primaryKey = false → left.unique = right.unique

/-- The text of a foreign key whose names are made of the characters of names determines the key. -/
theorem describe_inj (hleft : left.Spelled) (hright : right.Spelled)
    (h : left.foreignKey.map (·.describe) = right.foreignKey.map (·.describe)) :
    left.foreignKey = right.foreignKey := by
  cases hkey : left.foreignKey with
  | none =>
      rw [hkey] at h
      exact (Option.map_eq_none_iff.1 h.symm).symm
  | some key =>
      rw [hkey] at h
      obtain ⟨other, hother, hdescribe⟩ := Option.map_eq_some_iff.1 h.symm
      have hnames := hleft.referred
      have hotherNames := hright.referred
      simp only [Column.referredNames, hkey, hother, List.forall_mem_cons] at hnames hotherNames
      simp only [ForeignKey.describe, ForeignKey.target, String.append_assoc] at hdescribe
      obtain ⟨hschema, hrest⟩ := piece_before_inj rfl (hotherNames.1.not_mem (by decide))
        (hnames.1.not_mem (by decide)) hdescribe
      obtain ⟨htable, hrest⟩ := piece_before_inj rfl (hotherNames.2.1.not_mem (by decide))
        (hnames.2.1.not_mem (by decide)) hrest
      have hpoint : other.column = key.column := by simpa using hrest
      obtain ⟨_, _, _⟩ := key
      obtain ⟨_, _, _⟩ := other
      cases hschema
      cases htable
      cases hpoint
      exact hother.symm

/-- Data types have different names in the database. -/
theorem type_name_inj {first second : DataType} (h : typeName first = typeName second) :
    first = second := by
  have hnodup : ([.guid, .string, .dateTime, .bool, .short, .int, .long, .decimal, .float, .double,
      .timeSpan, .bytes].map typeName).Nodup := by decide
  have hmem (type : DataType) : type ∈ [.guid, .string, .dateTime, .bool, .short, .int, .long,
      .decimal, .float, .double, .timeSpan, .bytes] := by
    cases type <;> decide
  exact List.inj_on_of_nodup_map hnodup (hmem first) (hmem second) h

/-- No data type has the name of generated integers. -/
theorem type_name_ne_serial (type : DataType) : typeName type ≠ "SERIAL" := by
  cases type <;> decide

/-- The type of a line determines the data type, and whether an integer is generated. -/
theorem column_type_inj (h : columnType left = columnType right) :
    left.dataType = right.dataType ∧
      (left.dataType = .int → left.autoGenerate = right.autoGenerate) := by
  have hserial (column : Column) : columnType column = "SERIAL" ↔
      column.autoGenerate = true ∧ column.dataType = .int := by
    unfold columnType
    split
    · next hgenerated => simpa using hgenerated
    · next hgenerated => simpa [type_name_ne_serial] using hgenerated
  have hsame := hserial left
  rw [h, hserial right] at hsame
  by_cases hleft : left.autoGenerate = true ∧ left.dataType = .int
  · obtain ⟨hgenerated, htype⟩ := hsame.2 hleft
    exact ⟨hleft.2.trans htype.symm, fun _ => hleft.1.trans hgenerated.symm⟩
  · have hright : ¬ (right.autoGenerate = true ∧ right.dataType = .int) := mt hsame.1 hleft
    have hname : typeName left.dataType = typeName right.dataType := by
      simpa [columnType, hleft, hright] using h
    have htype := type_name_inj hname
    refine ⟨htype, fun hint => ?_⟩
    rw [Bool.eq_iff_iff]
    exact ⟨fun hgenerated => absurd ⟨hgenerated, hint⟩ hleft,
      fun hgenerated => absurd ⟨hgenerated, htype ▸ hint⟩ hright⟩

/-- A generated key is told from one with a default value, because identifiers have none. -/
theorem generated_of_outline (hwell : left.WellFormed) (h : outlineOf left = outlineOf right)
    (hgenerated : left.autoGenerate = true) : right.autoGenerate = true := by
  obtain ⟨htype, hserial⟩ := column_type_inj (congrArg Outline.type h)
  rcases hwell.generated hgenerated with hint | hguid
  · rw [← hserial hint]
    exact hgenerated
  · by_contra hnot
    have hvalue : storedValue? left = storedValue? right := congrArg Outline.value h
    simp only [storedValue?, hgenerated, hnot, hguid, if_true] at hvalue
    cases hexpression : right.defaultExpression with
    | error cause => simp [hexpression, Except.toOption] at hvalue
    | ok expression =>
        obtain ⟨rule, -, hrule, -⟩ := default_expression_rule hexpression
        rw [← htype, hguid] at hrule
        cases hrule

/-- A well-formed column has an expression for its default value exactly if it has one. -/
theorem default_value_is_some (hwell : column.WellFormed) :
    column.defaultValue.isSome = column.defaultExpression.toOption.isSome := by
  cases hdefault : column.defaultValue with
  | none =>
      rw [default_expression_of_none hdefault]
      rfl
  | some value =>
      obtain ⟨expression, hexpression⟩ := hwell.default (by rw [hdefault]; rfl)
      rw [hexpression]
      rfl

/-- Columns with the same outline have the same default value, as it is written. -/
theorem default_of_outline (hleft : left.WellFormed) (hright : right.WellFormed)
    (h : outlineOf left = outlineOf right)
    (hgenerated : left.autoGenerate = right.autoGenerate) :
    left.defaultValue.isSome = right.defaultValue.isSome ∧
      left.defaultExpression = right.defaultExpression := by
  have hname : left.name = right.name := congrArg Outline.name h
  have hnone (hleft : left.defaultValue = none) (hright : right.defaultValue = none) :
      left.defaultExpression = right.defaultExpression := by
    rw [default_expression_of_none hleft, default_expression_of_none hright, hname]
  cases hauto : left.autoGenerate with
  | true =>
      obtain ⟨-, -, -, hleftNone⟩ := generated_is_key hauto
      obtain ⟨-, -, -, hrightNone⟩ := generated_is_key (hgenerated ▸ hauto)
      exact ⟨by rw [hleftNone, hrightNone], hnone hleftNone hrightNone⟩
  | false =>
      have hvalue : storedValue? left = storedValue? right := congrArg Outline.value h
      have hoption : left.defaultExpression.toOption = right.defaultExpression.toOption := by
        simpa [storedValue?, hauto, ← hgenerated] using hvalue
      have hsome : left.defaultValue.isSome = right.defaultValue.isSome := by
        rw [default_value_is_some hleft, default_value_is_some hright, hoption]
      refine ⟨hsome, ?_⟩
      cases hdefault : left.defaultValue with
      | none =>
          refine hnone hdefault ?_
          rw [hdefault] at hsome
          simpa using hsome.symm
      | some value =>
          obtain ⟨expression, hexpression⟩ := hleft.default (by rw [hdefault]; rfl)
          obtain ⟨other, hother⟩ := hright.default (by rw [← hsome, hdefault]; rfl)
          rw [hexpression, hother] at hoption ⊢
          exact congrArg Except.ok (Option.some.inj hoption)

/-- A column agrees with another one if their outlines are the same. -/
theorem agrees_of_outline (hleft : left.WellFormed) (hright : right.WellFormed)
    (hleftNames : left.Spelled) (hrightNames : right.Spelled)
    (h : outlineOf left = outlineOf right) : Agrees left right := by
  have hkey : left.primaryKey = right.primaryKey := congrArg Outline.isKey h
  have hnull : (!left.nullable && !left.primaryKey) = (!right.nullable && !right.primaryKey) :=
    congrArg Outline.notNull h
  have hunique : (left.unique && !left.primaryKey) = (right.unique && !right.primaryKey) :=
    congrArg Outline.unique h
  have hgenerated : left.autoGenerate = right.autoGenerate := by
    rw [Bool.eq_iff_iff]
    exact ⟨generated_of_outline hleft h, generated_of_outline hright h.symm⟩
  obtain ⟨hsome, hexpression⟩ := default_of_outline hleft hright h hgenerated
  refine ⟨congrArg Outline.name h, (column_type_inj (congrArg Outline.type h)).1, hkey, hgenerated,
    ?_, describe_inj hleftNames hrightNames (congrArg Outline.reference h), hsome, hexpression,
    fun hother => ?_⟩
  · -- the line of a primary key does not say that it is not nullable
    cases hprimary : left.primaryKey with
    | true =>
        have hnot {column : Column} (hcolumn : column.primaryKey = true) :
            column.nullable = false := by
          simpa using (Definition.conflict_eq_none_iff.1 column.sound).2.1 hcolumn
        rw [hnot hprimary, hnot (hkey ▸ hprimary)]
    | false => simpa [← hkey, hprimary] using hnull
  · simpa [← hkey, hother] using hunique

/-- Columns that agree have the same outline. -/
theorem Agrees.outline_eq (h : Agrees left right) : outlineOf left = outlineOf right := by
  have hunique : (left.unique && !left.primaryKey) = (right.unique && !right.primaryKey) := by
    cases hkey : left.primaryKey with
    | true => simp [← h.primaryKey, hkey]
    | false => simp [← h.primaryKey, hkey, h.unique hkey]
  simp only [outlineOf, columnType, storedValue?, h.name, h.dataType, h.primaryKey, h.autoGenerate,
    h.nullable, h.foreignKey, h.defaultExpression, ← hunique]

/-- A column that agrees with a well-formed one is well formed. -/
theorem Agrees.well_formed (h : Agrees left right) (hleft : left.WellFormed) :
    right.WellFormed := by
  refine ⟨?_, ?_⟩
  · rw [← h.autoGenerate, ← h.dataType]
    exact hleft.generated
  · rw [← h.defaultValue, ← h.defaultExpression]
    exact hleft.default

/-- Columns that agree have the same line. -/
theorem Agrees.same_line (h : Agrees left right) (hline : columnDefinition left = .ok line) :
    columnDefinition right = .ok line := by
  obtain ⟨hwell, rfl⟩ := column_definition_iff.1 hline
  exact column_definition_iff.2 ⟨h.well_formed hwell, by rw [h.outline_eq]⟩

/-- Columns with the same line agree. -/
theorem agrees_of_same_line (hleft : left.Spelled) (hright : right.Spelled)
    (hline : columnDefinition left = .ok line) (hother : columnDefinition right = .ok line) :
    Agrees left right := by
  obtain ⟨hleftWell, rfl⟩ := column_definition_iff.1 hline
  obtain ⟨hrightWell, htext⟩ := column_definition_iff.1 hother
  refine agrees_of_outline hleftWell hrightWell hleft hright ?_
  exact Outline.text_inj (outline_proper hleft) (outline_proper hright) htext

/-! ## Tables that agree -/

/-- The two tables have the same names, and their columns agree one by one. -/
structure TablesAgree (left right : Table) : Prop where
  schema : left.schema = right.schema
  name : left.name = right.name
  columns : List.Forall₂ Agrees left.columns right.columns

variable {settings : Settings} {first second : Table} {creation : String}

/-- The first row of a creation determines the schema and the name of the table. -/
theorem names_of_first_row (hfirst : first.Spelled) (hsecond : second.Spelled)
    (h : "CREATE TABLE " ++ first.qualifiedName ++ " (" =
      "CREATE TABLE " ++ second.qualifiedName ++ " (") :
    first.schema = second.schema ∧ first.name = second.name := by
  have hqualified : first.qualifiedName = second.qualifiedName := by simpa using h
  simp only [Table.qualifiedName, String.append_assoc] at hqualified
  exact piece_before_inj rfl (hfirst.schema.not_mem (by decide))
    (hsecond.schema.not_mem (by decide)) hqualified

/-- Tables that are created by the same text agree. -/
theorem tables_agree_of_same_creation (hfirst : first.Spelled) (hsecond : second.Spelled)
    (h : createTable settings first = .ok creation)
    (hother : createTable settings second = .ok creation) : TablesAgree first second := by
  obtain ⟨lines, hlines, hrows⟩ := create_table_rows hfirst h
  obtain ⟨others, hothers, hotherRows⟩ := create_table_rows hsecond hother
  obtain ⟨hhead, htail⟩ := List.cons.inj (hrows.symm.trans hotherRows)
  have hindented := List.append_cancel_right htail
  have hsame : lines = others := by
    refine separated_inj (List.map_injective_iff.2 (fun a b hab => ?_) hindented)
    simpa using hab
  subst hsame
  obtain ⟨hschema, hname⟩ := names_of_first_row hfirst hsecond hhead
  refine ⟨hschema, hname, forall_join hlines hothers ?_⟩
  intro left right line hleft hright
  exact agrees_of_same_line (hfirst.column hleft) (hsecond.column hright)

/-- Tables that agree are created by the same text. -/
theorem TablesAgree.same_creation (hagree : TablesAgree first second)
    (h : createTable settings first = .ok creation) :
    createTable settings second = .ok creation := by
  obtain ⟨lines, hlines, rfl⟩ := create_table_iff.1 h
  refine create_table_iff.2 ⟨lines, ?_, ?_⟩
  · refine forall_join hagree.columns.flip hlines.flip ?_
    intro right line left _ _ hcolumns hline
    exact hcolumns.same_line hline
  · unfold creationText Table.qualifiedName
    rw [hagree.schema, hagree.name]

end Storage

namespace Definition

/-- The table is one of those that a text is parsed to, under a default schema that is a word. -/
def Parsed (table : Table) : Prop :=
  ∃ schema text tables, (∀ c ∈ schema.toList, Token.isNameChar c = true) ∧
    parse schema text = .ok tables ∧ table ∈ tables

/-- The names of such a table are made of the characters of names. -/
theorem Parsed.spelled {table : Table} (h : Parsed table) : table.Spelled := by
  obtain ⟨schema, text, tables, hschema, hparse, htable⟩ := h
  exact parsed_spelled hschema hparse htable

end Definition

/-- The text that creates a parsed table determines the table: another parsed table is created by it
exactly if the two have the same schema and the same name, and their columns agree one by one. -/
theorem creation_determines {settings : Settings} {first second : Table}
    (hfirst : Definition.Parsed first) (hsecond : Definition.Parsed second) {creation : String}
    (h : Storage.createTable settings first = .ok creation) :
    Storage.createTable settings second = .ok creation ↔ Storage.TablesAgree first second := by
  constructor
  · exact Storage.tables_agree_of_same_creation hfirst.spelled hsecond.spelled h
  · intro hagree
    exact hagree.same_creation h

/-- Two texts whose tables are created by the same statement. They differ in a maximum length, in
the spelling of a default value, and in whether the primary key is declared unique. -/
theorem same_creation_agrees :
    ∃ first second creation, Definition.Parsed first ∧ Definition.Parsed second ∧
      Storage.createTable {} first = .ok creation ∧
      Storage.createTable {} second = .ok creation ∧ first ≠ second ∧
      Storage.TablesAgree first second := by
  have hword : ∀ c ∈ "public".toList, Token.isNameChar c = true := List.all_eq_true.1 (by decide)
  obtain ⟨tables, hparse, first, hmem, hcreation, hlength⟩ : ∃ tables,
      Definition.parse "public" "t \x7b id int pk uq, n string 10, x int df [01] \x7d" =
        .ok tables ∧
      ∃ table ∈ tables, Storage.createTable {} table =
        .ok ("CREATE TABLE public.t (\n    id int4 PRIMARY KEY,\n    n text NOT NULL,\n" ++
          "    x int4 NOT NULL DEFAULT 1\n);") ∧
        table.columns.map (·.maxLength) = [none, some 10, none] := exists_eq_ok (by decide +kernel)
  obtain ⟨others, hotherParse, second, hother, hotherCreation, hotherLength⟩ : ∃ tables,
      Definition.parse "public" "T \x7b Id int pk, n string, x int df [1] \x7d" = .ok tables ∧
      ∃ table ∈ tables, Storage.createTable {} table =
        .ok ("CREATE TABLE public.t (\n    id int4 PRIMARY KEY,\n    n text NOT NULL,\n" ++
          "    x int4 NOT NULL DEFAULT 1\n);") ∧
        table.columns.map (·.maxLength) = [none, none, none] := exists_eq_ok (by decide +kernel)
  have hfirst : Definition.Parsed first := ⟨_, _, tables, hword, hparse, hmem⟩
  have hsecond : Definition.Parsed second := ⟨_, _, others, hword, hotherParse, hother⟩
  refine ⟨first, second, _, hfirst, hsecond, hcreation, hotherCreation, ?_, ?_⟩
  · rintro rfl
    rw [hlength] at hotherLength
    cases hotherLength
  · exact (creation_determines hfirst hsecond hcreation).1 hotherCreation

end Schemata
