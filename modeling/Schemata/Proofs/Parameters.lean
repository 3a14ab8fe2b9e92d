import Schemata.Proofs.Generation
import Schemata.Proofs.Host.Parameters
import Schemata.Proofs.Storage.Parameters

/-!
# Parameters agree in all texts

The parameters of a statement appear three times: as placeholders in its text, in the list that the
statement keeps, and as names in the method that executes it. `parameters_agree` says that the
placeholders, scanned from the text, are those of the list, and that the method binds exactly the
names of the list, in order. Only an update writes its placeholders in another order than it lists
them: the key is listed first and written last.
-/

namespace Schemata

open Storage Host

/-- The statements of the bundle list the parameters that are scanned from their texts, and the
methods of the repository, which stand one below the other, bind them in order. The table has the
given key. -/
structure Bundle.ParametersAgree (settings : Settings) (bundle : Bundle) (table : Table)
    (key : Column) : Prop where
  primaryKey : table.requirePrimaryKey = .ok key
  selectByKey : placeholders bundle.statements.selectByKey.sql = [key.camelName] ∧
    bundle.statements.selectByKey.parameters = [key.camelName]
  deleteByKey : placeholders bundle.statements.deleteByKey.sql = [key.camelName] ∧
    bundle.statements.deleteByKey.parameters = [key.camelName]
  insert : placeholders bundle.statements.insert.sql = bundle.statements.insert.parameters ∧
    bundle.statements.insert.parameters =
      (table.columns.filter (!·.autoGenerate)).map (·.camelName)
  update : placeholders bundle.statements.update.sql =
      bundle.statements.update.parameters.tail ++ bundle.statements.update.parameters.take 1 ∧
    bundle.statements.update.parameters =
      key.camelName :: (table.columns.filter (!·.primaryKey)).map (·.camelName)
  methods : ExecutedInOrder settings.indentUnit bundle.repository.source
    [(getHeader (qualifiedClassName settings.classNamespace table.className) key,
        bundle.statements.selectByKey),
      (deleteHeader key, bundle.statements.deleteByKey),
      (persistHeader (qualifiedClassName settings.classNamespace table.className) "Create"
        (argumentName (camelName table.className)), bundle.statements.insert),
      (persistHeader (qualifiedClassName settings.classNamespace table.className) "Update"
        (argumentName (camelName table.className)), bundle.statements.update)]
    (currentHeader (qualifiedClassName settings.classNamespace table.className))

/-- The parameters of a bundle agree if no at sign stands in the schema of its table. -/
theorem bundle_parameters_agree {settings : Settings} {table : Table} {bundle : Bundle}
    (hworded : table.Worded) (hschema : '@' ∉ table.schema.toList)
    (h : Bundle.ofTable settings table = .ok bundle) :
    ∃ key, bundle.ParametersAgree settings table key := by
  obtain ⟨hrecord, hrepository⟩ := bundle_classes h
  obtain ⟨rfl, hgenerated, -, -⟩ := bundle_of_table h
  obtain ⟨key, hkey, -, -⟩ := parameters_of_columns hgenerated
  have hclass : bundle.record.className = bundle.statements.table.className := by rw [hrecord]
  have hspace : bundle.record.space = settings.classNamespace := by rw [hrecord]
  obtain ⟨hselect, hselected, hdelete, hdeleted⟩ := by_key_placeholders hworded hschema hkey
    hgenerated.selectByKey hgenerated.deleteByKey
  have hname : IsPlainText bundle.record.className := by
    rw [hclass]
    exact hworded.className
  have hmethods := executed_in_order hgenerated hname hworded.columns hkey
  rw [hclass, hspace] at hmethods
  refine ⟨key, hkey, ⟨hselect, hselected⟩, ⟨hdelete, hdeleted⟩,
    insert_placeholders hworded hschema hgenerated.insert,
    update_placeholders hworded hschema hkey hgenerated.update, ?_⟩
  rw [hrepository]
  exact hmethods

/-- The schema of a parsed table holds an at sign only if the default schema does. -/
theorem at_not_mem_schema {schema text : String} {tables : List Table} {table : Table}
    (hschema : '@' ∉ schema.toList) (h : Definition.parse schema text = .ok tables)
    (htable : table ∈ tables) : '@' ∉ table.schema.toList := fun hmem =>
  hschema (Definition.mem_parsed_schema h htable (by decide) hmem)

/-- In all bundles the placeholders of the statements, the lists of parameters and the names that
the methods bind agree, if no at sign stands in the default schema. -/
theorem parameters_agree {settings : Settings} {texts : List String} {bundles : List Bundle}
    (hschema : '@' ∉ settings.defaultSchema.toList) (h : generate settings texts = .ok bundles) :
    ∃ tables, Parsed settings texts tables ∧
      List.Forall₂ (fun table bundle => ∃ key, bundle.ParametersAgree settings table key)
        tables.flatten bundles := by
  obtain ⟨tables, hparsed, hbundles⟩ := generate_bundles h
  have hnames : ∀ table ∈ tables.flatten, table.Worded ∧ '@' ∉ table.schema.toList := by
    intro table htable
    obtain ⟨found, hfound, hmem⟩ := List.mem_flatten.1 htable
    obtain ⟨text, -, hparse⟩ := forall_mem_right hparsed hfound
    exact ⟨Definition.parsed_worded hparse hmem, at_not_mem_schema hschema hparse hmem⟩
  have hboth := (List.forall₂_and_left _ _).2 ⟨hnames, hbundles⟩
  exact ⟨tables, hparsed, hboth.imp fun table bundle hok =>
    bundle_parameters_agree hok.1.1 hok.1.2 hok.2.1⟩

/-- A table of which only the key exists, and one with a generated key. -/
theorem two_tables_agree :
    ∃ tables bundles,
      generate {} ["tag \x7b code string pk \x7d user \x7b id int pk ag, first_name string \x7d"] =
        .ok bundles ∧
      Parsed {} ["tag \x7b code string pk \x7d user \x7b id int pk ag, first_name string \x7d"]
        tables ∧
      bundles.map (fun bundle => (bundle.statements.insert.parameters,
          bundle.statements.update.parameters)) =
        [(["code"], ["code"]), (["firstName"], ["id", "firstName"])] ∧
      List.Forall₂ (fun table bundle => ∃ key, bundle.ParametersAgree {} table key)
        tables.flatten bundles := by
  have hsome : ∃ bundles,
      generate {} ["tag \x7b code string pk \x7d user \x7b id int pk ag, first_name string \x7d"] =
        .ok bundles ∧
      bundles.map (fun bundle => (bundle.statements.insert.parameters,
          bundle.statements.update.parameters)) =
        [(["code"], ["code"]), (["firstName"], ["id", "firstName"])] :=
    exists_eq_ok (by decide +kernel)
  obtain ⟨bundles, hok, hlists⟩ := hsome
  obtain ⟨tables, hparsed, hagree⟩ := parameters_agree (by decide) hok
  exact ⟨tables, bundles, hok, hparsed, hlists, hagree⟩

end Schemata
