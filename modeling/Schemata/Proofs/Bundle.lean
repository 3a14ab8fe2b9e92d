import Schemata.Bundle
import Schemata.Proofs.Error

/-!
# What a bundle is made of

Where the generation of a bundle succeeds, every part of it succeeded: the statements of a bundle
are those of its table, and its table was parsed from one of the texts.
-/

namespace Schemata

variable {settings : Settings} {table : Table} {key : Column}

/-- A table has a primary key to offer exactly if one column is marked as such. -/
theorem require_primary_key_iff :
    table.requirePrimaryKey = .ok key ↔ table.columns.filter (·.primaryKey) = [key] := by
  unfold Table.requirePrimaryKey Table.primaryKey?
  rw [bind_eq_ok_iff]
  split
  · next hnone => simp [hnone]
  · next only hone => simp [hone, pure, Except.pure]
  · next hmany => simp [hmany]

/-- The primary key that a table offers is one of its columns, and it is marked as such. -/
theorem primary_key_mem (h : table.requirePrimaryKey = .ok key) :
    key ∈ table.columns ∧ key.primaryKey = true := by
  have hfilter := require_primary_key_iff.1 h
  exact List.mem_filter.1 (hfilter ▸ List.mem_singleton_self key)

/-- The statements are generated from the table that they keep. -/
structure Storage.Statements.Generated (settings : Settings) (statements : Statements) : Prop where
  creation : createTable settings statements.table = .ok statements.creation
  selectAll : statements.selectAll = Storage.selectAll statements.table
  selectByKey : Storage.selectByKey statements.table = .ok statements.selectByKey
  deleteByKey : Storage.deleteByKey statements.table = .ok statements.deleteByKey
  insert : Storage.insert statements.table = .ok statements.insert
  update : Storage.update statements.table = .ok statements.update

/-- The statements of a table are generated from it. -/
theorem statements_of_table {statements : Storage.Statements}
    (h : Storage.Statements.ofTable settings table = .ok statements) :
    statements.table = table ∧ statements.Generated settings := by
  simp only [Storage.Statements.ofTable, bind_eq_ok_iff, lift_eq_ok_iff] at h
  obtain ⟨creation, hcreation, select, hselect, delete, hdelete, insert, hinsert, update, hupdate,
    heq⟩ := h
  cases heq
  exact ⟨rfl, hcreation, rfl, hselect, hdelete, hinsert, hupdate⟩

/-- The bundle of a table has the statements of the table and a record and a repository that are
generated from them. -/
theorem bundle_of_table {bundle : Bundle} (h : Bundle.ofTable settings table = .ok bundle) :
    bundle.statements.table = table ∧ bundle.statements.Generated settings ∧
      Host.record settings bundle.statements = .ok bundle.record ∧
      Host.repository settings bundle.statements bundle.record = .ok bundle.repository := by
  simp only [Bundle.ofTable, bind_eq_ok_iff] at h
  obtain ⟨statements, hstatements, record, hrecord, repository, hrepository, heq⟩ := h
  cases heq
  obtain ⟨htable, hgenerated⟩ := statements_of_table hstatements
  exact ⟨htable, hgenerated, hrecord, hrepository⟩

/-- The names of the classes of a bundle come from the name of the class of its table. -/
theorem bundle_names {bundle : Bundle} (h : Bundle.ofTable settings table = .ok bundle) :
    bundle.objectName = table.className ∧
      bundle.repositoryName = table.className ++ settings.repositorySuffix := by
  obtain ⟨htable, -, hrecord, hrepository⟩ := bundle_of_table h
  obtain ⟨_, -, hrecord⟩ := bind_eq_ok_iff.1 hrecord
  obtain ⟨_, -, hrepository⟩ := bind_eq_ok_iff.1 hrepository
  have hobject : bundle.objectName = table.className := by
    simp only [Bundle.ofTable, bind_eq_ok_iff] at h
    obtain ⟨_, -, _, -, _, -, heq⟩ := h
    cases heq
    rfl
  refine ⟨hobject, ?_⟩
  rw [Bundle.repositoryName, ← Except.ok.inj hrepository, ← Except.ok.inj hrecord, htable]

/-- Every bundle of a batch is the bundle of a table that was parsed from one of the texts. -/
theorem generate_ok {texts : List String} {bundles : List Bundle}
    (h : generate settings texts = .ok bundles) {bundle : Bundle} (hbundle : bundle ∈ bundles) :
    ∃ text ∈ texts, ∃ tables, Definition.parse settings.defaultSchema text = .ok tables ∧
      ∃ table ∈ tables, Bundle.ofTable settings table = .ok bundle := by
  obtain ⟨found, hparse, hbundles⟩ := bind_eq_ok_iff.1 h
  obtain ⟨table, htable, hok⟩ := forall_mem_right (map_m_eq_ok_iff.1 hbundles) hbundle
  obtain ⟨tables, htables, hmem⟩ := List.mem_flatten.1 htable
  obtain ⟨text, htext, hparsed⟩ := forall_mem_right (map_m_eq_ok_iff.1 hparse) htables
  exact ⟨text, htext, tables, hparsed, table, hmem, hok⟩

end Schemata
