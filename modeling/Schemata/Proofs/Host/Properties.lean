import Schemata.Proofs.Host.Columns

/-!
# The properties of a record

The property for a column has the Pascal name of the column, unless that is the name of the class:
then `Value` is put behind it. So no property has the name of the class, but the new name can be the
Pascal name of another column. `properties_distinct_iff` says that this is the only way in which two
properties can have the same name where the Pascal names of the columns are different.
-/

namespace Schemata

open Text Host

/-- The rows of a record that declare properties with the given names for the columns, with an empty
row between any two of them. -/
def propertyRows (unit : String) (columns : List Column) (names : List String) : List String :=
  (List.zipWith (fun column name => margin unit 2 ++ ("public " ++
    fieldType column.nullable column.dataType ++ " " ++ name ++ " \x7b get; set; \x7d"))
    columns names).intersperse ""

/-- The rows of a repository that assign properties with the given names from the positions of the
columns. -/
def assignmentRows (unit : String) (columns : List Column) (names : List String) : List String :=
  (separated "," (List.zipWith
    (fun entry name => name ++ " = " ++ Repository.readExpression entry.1 entry.2)
    columns.zipIdx names)).map (margin unit 4 ++ ·)

/-- `table.NamesProperties names` says that the generated classes of the table have properties with
these names for its columns: the record declares them and the repository assigns them, in order. -/
structure Table.NamesProperties (table : Table) (names : List String) : Prop where
  record (settings : Settings) {statements : Storage.Statements} : statements.table = table →
    ∃ record above below, Host.record settings statements = .ok record ∧
      record.source = above ++ unlines (propertyRows settings.indentUnit table.columns names)
        ++ below
  repository {settings : Settings} {bundle : Bundle} :
    Bundle.ofTable settings table = .ok bundle → ∃ above below, bundle.repository.source =
      above ++ unlines (assignmentRows settings.indentUnit table.columns names) ++ below

namespace Host

variable {className : String} {columns : List Column} {table : Table}

/-! ## Names of properties -/

/-- The property for a column with the name of the class. -/
theorem property_name_of_eq {column : Column} (h : column.pascalName = className) :
    propertyName className column = className ++ "Value" := by
  rw [propertyName, if_pos h]

/-- The property for any other column. -/
theorem property_name_of_ne {column : Column} (h : column.pascalName ≠ className) :
    propertyName className column = column.pascalName := by
  rw [propertyName, if_neg h]

/-- Something behind a name makes it another name. -/
theorem append_value_ne (name : String) : name ++ "Value" ≠ name := by
  intro h
  have hlength := congrArg String.length h
  rw [String.length_append] at hlength
  have hvalue : "Value".length = 5 := rfl
  omega

/-- No property has the name of its class. -/
theorem property_name_ne_class (className : String) (column : Column) :
    propertyName className column ≠ className := by
  by_cases h : column.pascalName = className
  · rw [property_name_of_eq h]
    exact append_value_ne className
  · rw [property_name_of_ne h]
    exact h

/-- Of columns with different Pascal names, two have the same property exactly if one of them has
the name of the class and the other one the name that the first one gets instead. -/
theorem property_names_nodup_iff (h : (columns.map (·.pascalName)).Nodup) :
    (columns.map (propertyName className)).Nodup ↔
      ¬ (className ∈ columns.map (·.pascalName) ∧
        className ++ "Value" ∈ columns.map (·.pascalName)) := by
  have hvalue := append_value_ne className
  have hsame {left right : Column} (hleft : left ∈ columns) (hright : right ∈ columns)
      (heq : left.pascalName = right.pascalName) : left = right :=
    List.inj_on_of_nodup_map h hleft hright heq
  rw [List.nodup_map_iff_inj_on (List.Nodup.of_map _ h)]
  constructor
  · intro hinj ⟨hclass, hother⟩
    obtain ⟨left, hleft, hname⟩ := List.mem_map.1 hclass
    obtain ⟨right, hright, hrenamed⟩ := List.mem_map.1 hother
    have hkept : right.pascalName ≠ className := by
      rw [hrenamed]
      exact hvalue
    have heq : propertyName className left = propertyName className right := by
      rw [property_name_of_eq hname, property_name_of_ne hkept, hrenamed]
    rw [hinj left hleft right hright heq] at hname
    exact hkept hname
  · intro hclash left hleft right hright heq
    by_cases hname : left.pascalName = className
    · by_cases hother : right.pascalName = className
      · exact hsame hleft hright (hname.trans hother.symm)
      · rw [property_name_of_eq hname, property_name_of_ne hother] at heq
        exact absurd ⟨List.mem_map.2 ⟨left, hleft, hname⟩,
          List.mem_map.2 ⟨right, hright, heq.symm⟩⟩ hclash
    · by_cases hother : right.pascalName = className
      · rw [property_name_of_ne hname, property_name_of_eq hother] at heq
        exact absurd ⟨List.mem_map.2 ⟨right, hright, hother⟩,
          List.mem_map.2 ⟨left, hleft, heq⟩⟩ hclash
      · rw [property_name_of_ne hname, property_name_of_ne hother] at heq
        exact hsame hleft hright heq

/-! ## Properties in the generated classes -/

/-- The lines of single lines with empty lines between them. -/
theorem lines_at_spaced_lines (unit : String) (depth : Nat) (texts : List String) :
    Script.linesAt unit depth (Script.spaced (texts.map fun text => [.line text])) =
      (texts.map (margin unit depth ++ ·)).intersperse "" := by
  induction texts with
  | nil => rfl
  | cons text texts ih =>
      cases texts with
      | nil => rfl
      | cons next texts =>
          simp only [List.map_cons] at ih ⊢
          rw [Script.lines_at_spaced_cons, ih, List.intersperse_cons_cons]
          rfl

/-- The record of a table declares the properties for its columns. -/
theorem record_property_rows (settings : Settings) (table : Table) :
    propertyRows settings.indentUnit table.columns
      (table.columns.map (propertyName table.className)) <:+:
        Script.linesAt settings.indentUnit 0 (recordScript settings.classNamespace table) := by
  have hrows : propertyRows settings.indentUnit table.columns
      (table.columns.map (propertyName table.className)) =
        ((table.columns.map (propertyLine table.className)).map
          (margin settings.indentUnit 2 ++ ·)).intersperse "" := by
    rw [propertyRows, List.zipWith_map_right, List.zipWith_self, List.map_map]
    rfl
  have hlines := lines_at_spaced_lines settings.indentUnit 2
    (table.columns.map (propertyLine table.className))
  rw [List.map_map] at hlines
  have hclass : Script.linesAt settings.indentUnit 2 (Script.spaced (table.columns.map
      fun column => [Command.line (propertyLine table.className column)])) <:+:
        Script.linesAt settings.indentUnit 0 (recordScript settings.classNamespace table) := by
    refine ⟨Script.linesAt settings.indentUnit 0 (recordImports table) ++
      [margin settings.indentUnit 0 ++ ("namespace " ++ settings.classNamespace),
        margin settings.indentUnit 0 ++ "\x7b",
        margin settings.indentUnit 1 ++ ("public class " ++ table.className),
        margin settings.indentUnit 1 ++ "\x7b"],
      [margin settings.indentUnit 1 ++ "\x7d", margin settings.indentUnit 0 ++ "\x7d"], ?_⟩
    rw [recordScript]
    simp only [Script.lines_at_append, Script.linesAt, Command.linesAt, Closer.ending,
      List.append_assoc, List.cons_append, List.nil_append, List.append_nil]
  rw [hrows, ← hlines]
  exact hclass

/-- The initializer of a repository assigns the properties for the columns of its table. -/
theorem initializer_property_rows (settings : Settings) (statements : Storage.Statements)
    {record : HostClass} (h : record.className = statements.table.className) :
    (initializerTexts (sharedOf settings statements record)).map
      (margin settings.indentUnit 4 ++ ·) =
        assignmentRows settings.indentUnit statements.table.columns
          (statements.table.columns.map (propertyName statements.table.className)) := by
  have hnames : statements.table.columns.map (propertyName statements.table.className) =
      statements.table.columns.zipIdx.map fun entry => propertyName record.className entry.1 := by
    rw [h, ← List.zipIdx_map_fst 0 statements.table.columns, List.map_map, List.zipIdx_map_fst]
    rfl
  rw [assignmentRows, hnames, List.zipWith_map_right, List.zipWith_self]
  rfl

/-- The repository of a table assigns the properties for its columns. -/
theorem repository_property_rows (settings : Settings) (statements : Storage.Statements)
    {record : HostClass} (h : record.className = statements.table.className) :
    assignmentRows settings.indentUnit statements.table.columns
      (statements.table.columns.map (propertyName statements.table.className)) <:+:
        Script.linesAt settings.indentUnit 0 (repositoryScript settings statements record) := by
  obtain ⟨above, hlines⟩ := repository_lines settings statements record
  rw [hlines, linesBehindHeader, initializer_property_rows settings statements h]
  refine List.IsInfix.trans ?_ (List.suffix_append above _).isInfix
  refine List.IsInfix.trans ?_ (List.suffix_cons _ _).isInfix
  exact List.infix_append _ _ _

/-- The text of rows stands in the text of the lines among which they are. -/
theorem unlines_infix {rows lines : List String} (h : rows <:+: lines) :
    ∃ above below, unlines lines = above ++ unlines rows ++ below := by
  obtain ⟨above, below, rfl⟩ := h
  exact ⟨unlines above, unlines below, by rw [unlines_append, unlines_append]⟩

/-- The generated classes of a table name the properties for its columns. -/
theorem names_properties (table : Table) :
    table.NamesProperties (table.columns.map (propertyName table.className)) where
  record settings statements htable := by
    obtain ⟨above, below, htext⟩ := unlines_infix (record_property_rows settings table)
    refine ⟨_, above, below, record_eq settings statements, ?_⟩
    rw [htable]
    exact htext
  repository {settings bundle} h := by
    obtain ⟨hrecord, hrepository⟩ := bundle_classes h
    obtain ⟨rfl, -, -, -⟩ := bundle_of_table h
    have hclass : bundle.record.className = bundle.statements.table.className := by rw [hrecord]
    rw [hrepository]
    exact unlines_infix (repository_property_rows settings bundle.statements hclass)

/-- The properties that the generated classes of a table have for its columns, where these have
different Pascal names: none of them has the name of the class, and two of them have the same name
exactly if a column has the name of the class and another one has that name with `Value` behind
it. -/
theorem properties_distinct_iff (h : (table.columns.map (·.pascalName)).Nodup) :
    ∃ names, table.NamesProperties names ∧
      names = table.columns.map (propertyName table.className) ∧
      table.className ∉ names ∧
      (names.Nodup ↔ ¬ (table.className ∈ table.columns.map (·.pascalName) ∧
        table.className ++ "Value" ∈ table.columns.map (·.pascalName))) := by
  refine ⟨_, names_properties table, rfl, ?_, property_names_nodup_iff h⟩
  intro hmem
  obtain ⟨column, -, hname⟩ := List.mem_map.1 hmem
  exact property_name_ne_class table.className column hname

/-- A column with the name of its class gets a property of its own. -/
theorem renamed_property_distinct :
    ∃ tables,
      Definition.parse "public" "note \x7b id int pk, note string, memo_value string \x7d" =
        .ok tables ∧
      ∃ table ∈ tables, (table.columns.map (·.pascalName)).Nodup ∧
        table.NamesProperties ["Id", "NoteValue", "MemoValue"] ∧
        table.className ∉ ["Id", "NoteValue", "MemoValue"] := by
  have hsome : ∃ tables,
      Definition.parse "public" "note \x7b id int pk, note string, memo_value string \x7d" =
        .ok tables ∧
      ∃ table ∈ tables, (table.columns.map (·.pascalName)).Nodup ∧
        table.columns.map (propertyName table.className) = ["Id", "NoteValue", "MemoValue"] :=
    exists_eq_ok (by decide +kernel)
  obtain ⟨tables, hparse, table, hmem, hdistinct, hnames⟩ := hsome
  obtain ⟨names, hproperties, rfl, hclass, -⟩ := properties_distinct_iff hdistinct
  rw [hnames] at hproperties hclass
  exact ⟨tables, hparse, table, hmem, hdistinct, hproperties, hclass⟩

/-- Two columns with different Pascal names and the same property: the first one has the name of the
class, and the second one the name that the first one gets instead. -/
theorem renamed_property_clashes :
    ∃ bundles, generate {} ["note \x7b id int pk, note string, note_value string \x7d"] =
        .ok bundles ∧
      ∃ bundle ∈ bundles, (bundle.statements.table.columns.map (·.pascalName)).Nodup ∧
        (declaredProperties bundle.record.source).map Prod.snd =
          ["Id", "NoteValue", "NoteValue"] :=
  exists_eq_ok (by decide +kernel)

end Host

end Schemata
