import Schemata.Proofs.Generation
import Schemata.Proofs.Host.Columns
import Schemata.Proofs.Storage.Columns

/-!
# Columns keep their positions

A repository reads rows by position, so its positions have to be those of the statements it sends,
and the properties it assigns have to be those that the record declares. Everything here is about
the generated texts: the columns are read back from the statements, the properties from the record
and the assignments from the repository. `columns_in_position` says that all of them follow the
columns of the table in the order of their declaration.
-/

namespace Schemata

open Storage Host Text

/-- The assignment of a property, which has the given type and name, from a position of a row. -/
def positionedAssignment (column : Column) (type name : String) (position : Nat) : String :=
  name ++ " = " ++
    (if column.nullable then
      "reader.IsDBNull(" ++ toString position ++ ") ? default(" ++ type ++ ") : "
    else "") ++
    "reader." ++ readerMethod column.dataType ++ "(" ++ toString position ++ ")"

/-- The texts of the bundle list the columns in the given order. Each property of the record is
assigned from the position of its column, and where the column is nullable, the default value that
stands for null has the type that the record declares. -/
structure Bundle.ListsColumns (settings : Settings) (bundle : Bundle) (columns : List Column) :
    Prop where
  selectAll : selectedNames? bundle.statements.selectAll = some (columns.map (·.name))
  selectByKey : selectedNames? bundle.statements.selectByKey.sql = some (columns.map (·.name))
  insert : returnedNames? bundle.statements.insert.sql = some (columns.map (·.name))
  update : returnedNames? bundle.statements.update.sql = some (columns.map (·.name))
  creation : creationNames bundle.statements.creation = columns.map (·.name)
  properties : declaredProperties bundle.record.source = columns.map fun column =>
    (fieldType column.nullable column.dataType, propertyName bundle.objectName column)
  initializers : initializers bundle.repository.source =
    (separated "," ((columns.zip (declaredProperties bundle.record.source)).zipIdx.map
      fun ((column, type, name), position) =>
        positionedAssignment column type name position)).map (margin settings.indentUnit 4 ++ ·)

/-- The assignment that a repository writes is the one from the position of the column. -/
theorem assignment_eq (repository : Repository) (column : Column) (position : Nat) :
    repository.assignment column position =
      positionedAssignment column (fieldType column.nullable column.dataType)
        (propertyName repository.recordClass column) position := by
  unfold Repository.assignment Repository.readExpression positionedAssignment
  split
  · next hnullable => simp only [hnullable, String.append_assoc]
  · simp only [String.append_assoc, String.append_empty]

/-- The assignments follow the properties that a record declares for the columns. -/
theorem initializer_texts_eq (repository : Repository) :
    initializerTexts repository =
      separated "," ((repository.statements.table.columns.zip
        (repository.statements.table.columns.map fun column =>
          (fieldType column.nullable column.dataType,
            propertyName repository.recordClass column))).zipIdx.map
        fun ((column, type, name), position) =>
          positionedAssignment column type name position) := by
  have hzip {f : Column → String × String} {columns : List Column} :
      columns.zip (columns.map f) = columns.map fun column => (column, f column) := by
    simpa using List.zip_map' (f := id) (g := f) (l := columns)
  rw [initializerTexts, hzip, List.zipIdx_map, List.map_map]
  refine congrArg (separated ",") (List.map_congr_left fun entry _ => ?_)
  exact assignment_eq repository entry.1 entry.2

/-- The texts of a bundle list the columns of its table in the order of their declaration. -/
theorem bundle_lists_columns {settings : Settings} {table : Table} {bundle : Bundle}
    (hspace : '\n' ∉ settings.classNamespace.toList) (hspelled : table.Spelled)
    (h : Bundle.ofTable settings table = .ok bundle) :
    bundle.ListsColumns settings table.columns := by
  have hobject := (bundle_names h).1
  obtain ⟨hrecord, hrepository⟩ := bundle_classes h
  obtain ⟨rfl, hgenerated, -, -⟩ := bundle_of_table h
  obtain ⟨key, hkey, -, -⟩ := parameters_of_columns hgenerated
  have hne := List.ne_nil_of_mem (primary_key_mem hkey).1
  obtain ⟨_, -, hselect⟩ := bind_eq_ok_iff.1 hgenerated.selectByKey
  have hclass : bundle.record.className = bundle.statements.table.className := by rw [hrecord]
  have hsource : bundle.record.source = unlines (Script.linesAt settings.indentUnit 0
      (recordScript settings.classNamespace bundle.statements.table)) := by rw [hrecord]
  have hproperties := record_properties settings hspelled.toWorded hspace
  rw [← hsource] at hproperties
  have hname : IsPlainText bundle.record.className := by
    rw [hclass]
    exact hspelled.className
  have hinitializers := repository_initializers settings hname hspelled.columns
    (by rw [hrecord]; exact hspace)
  refine ⟨?_, ?_, ?_, ?_, ?_, ?_, ?_⟩
  · rw [hgenerated.selectAll]
    exact selection_names hspelled.toWorded hne ";"
  · rw [← Except.ok.inj hselect, String.append_assoc, String.append_assoc]
    exact selection_names hspelled.toWorded hne _
  · exact insert_names hspelled hne hgenerated.insert
  · exact update_names hspelled hgenerated.update
  · exact creation_names hspelled hgenerated.creation
  · rw [hproperties, hobject]
  · rw [hproperties, hrepository, hinitializers, initializer_texts_eq, ← hclass]
    rfl

/-- All texts of a bundle list the columns of its table in the order of their declaration, if the
default schema is a word and the namespace of records is written on one line. -/
theorem columns_in_position {settings : Settings} {texts : List String} {bundles : List Bundle}
    (hschema : ∀ c ∈ settings.defaultSchema.toList, Token.isNameChar c = true)
    (hspace : '\n' ∉ settings.classNamespace.toList)
    (h : generate settings texts = .ok bundles) :
    ∃ tables, Parsed settings texts tables ∧
      List.Forall₂ (fun table bundle => bundle.ListsColumns settings table.columns)
        tables.flatten bundles := by
  obtain ⟨tables, hparsed, hbundles⟩ := generate_bundles h
  have hspelled : ∀ table ∈ tables.flatten, table.Spelled := by
    intro table htable
    obtain ⟨found, hfound, hmem⟩ := List.mem_flatten.1 htable
    obtain ⟨text, -, hparse⟩ := forall_mem_right hparsed hfound
    exact Definition.parsed_spelled hschema hparse hmem
  have hboth := (List.forall₂_and_left _ _).2 ⟨hspelled, hbundles⟩
  exact ⟨tables, hparsed, hboth.imp fun table bundle hok =>
    bundle_lists_columns hspace hok.1 hok.2.1⟩

/-- A table with a generated key and a nullable column. -/
theorem user_columns_in_position :
    ∃ tables bundles,
      generate {} ["user \x7b id int pk ag, first_name string, born datetime null \x7d"] =
        .ok bundles ∧
      Parsed {} ["user \x7b id int pk ag, first_name string, born datetime null \x7d"] tables ∧
      bundles.length = 1 ∧
      List.Forall₂ (fun table bundle => bundle.ListsColumns {} table.columns)
        tables.flatten bundles := by
  have hsome : ∃ bundles,
      generate {} ["user \x7b id int pk ag, first_name string, born datetime null \x7d"] =
        .ok bundles ∧ bundles.length = 1 := exists_eq_ok (by decide +kernel)
  obtain ⟨bundles, hok, hlength⟩ := hsome
  obtain ⟨tables, hparsed, hlists⟩ := columns_in_position
    (List.all_eq_true.1 (by decide)) (by decide) hok
  exact ⟨tables, bundles, hok, hparsed, hlength, hlists⟩

end Schemata
