import Mathlib.Data.List.Nodup
import Schemata.Proofs.Bundle
import Schemata.Proofs.Script.Rendering

/-!
# From which columns parameters are bound

A method that stores a record binds each parameter of its statement from the record property of the
first column whose camel name is the parameter. This is the column that contributed the parameter
unless an earlier column has the same camel name. `binding_iff` says that all parameters of a table
are bound from their own columns exactly if no two columns share a camel name, and that all are
bound to the right values exactly if columns that share a camel name share the value as well.
-/

namespace Schemata.Host

open Storage (Statement suppliedColumns changedColumns)

/-- What the methods of a repository have in common. -/
def sharedOf (settings : Settings) (statements : Storage.Statements) (record : HostClass) :
    Repository where
  statements
  recordType := qualifiedClassName record.space record.className
  recordClass := record.className
  argument := argumentName (camelName record.className)
  field := settings.fieldNaming.fieldName "connectionString"

/-! ## Methods in the text of a class -/

/-- The commands of a script are commands of the script that puts it among others. -/
theorem mem_spaced {scripts : List Script} {script : Script} {command : Command}
    (hscript : script ∈ scripts) (hcommand : command ∈ script) :
    command ∈ Script.spaced scripts := by
  have hmem : script ∈ scripts.intersperse [.blank] := by
    induction scripts with
    | nil => simp at hscript
    | cons first rest ih =>
        cases rest with
        | nil => exact hscript
        | cons second rest =>
            rw [List.intersperse_cons_cons]
            rcases List.mem_cons.1 hscript with rfl | hscript
            · exact List.mem_cons_self
            · exact List.mem_cons_of_mem _ (List.mem_cons_of_mem _ (ih hscript))
  exact List.mem_flatten.2 ⟨script, hmem, hcommand⟩

/-- The text of each member of a repository class stands in the text of the class. -/
theorem member_within {settings : Settings} {statements : Storage.Statements}
    {record generated : HostClass} (h : repository settings statements record = .ok generated)
    {member : Script} {command : Command}
    (hmember : member ∈ (sharedOf settings statements record).members
      (record.className ++ settings.repositorySuffix) settings.fieldNaming)
    (hcommand : command ∈ member) :
    (command.rendering settings.indentUnit 2).1.toList <:+: generated.source.toList := by
  obtain ⟨source, hrender, heq⟩ := bind_eq_ok_iff.1 h
  cases heq
  -- the members stand in the class, the class in the namespace, and the namespace in the file
  have hfile := Writer.render_eq_ok_iff.1 hrender
  have hok := congrArg Prod.snd hfile
  have hspace := Script.body_within hok (List.mem_append_right _ (.tail _ (.head _)))
  have hclass := Script.body_within hspace.1 (.head _)
  have hmethod := Script.command_within hclass.1 (mem_spaced hmember hcommand)
  have hwithin := (hmethod.2.trans hclass.2).trans hspace.2
  rwa [hfile] at hwithin

/-! ## The search for a column -/

section

variable {repository : Repository}

/-- The search finds the first column with the given camel name. -/
theorem column_for_iff {parameter : String} {found : Column} :
    repository.columnFor parameter = .ok found ↔
      repository.statements.table.columns.find? (·.camelName == parameter) = some found := by
  simp only [Repository.columnFor]
  cases repository.statements.table.columns.find? (·.camelName == parameter) <;> simp

/-- What is found is a column of the table with the given camel name. -/
theorem column_for_sound {parameter : String} {found : Column}
    (h : repository.columnFor parameter = .ok found) :
    found ∈ repository.statements.table.columns ∧ found.camelName = parameter := by
  have hfind := column_for_iff.1 h
  have hname := List.find?_some hfind
  exact ⟨List.mem_of_find?_eq_some hfind, eq_of_beq hname⟩

/-- The search for the camel name of a column finds one. -/
theorem column_for_complete {column : Column}
    (h : column ∈ repository.statements.table.columns) :
    ∃ found, repository.columnFor column.camelName = .ok found := by
  have hfind : (repository.statements.table.columns.find?
      (·.camelName == column.camelName)).isSome = true :=
    List.find?_isSome.2 ⟨column, h, beq_self_eq_true _⟩
  obtain ⟨found, hfound⟩ := Option.isSome_iff_exists.1 hfind
  exact ⟨found, column_for_iff.2 hfound⟩

/-- The columns that the search finds for the columns of a list. -/
theorem exists_lookup (repository : Repository) {own : List Column}
    (h : ∀ column ∈ own, column ∈ repository.statements.table.columns) :
    ∃ bound, List.Forall₂ (fun column found => repository.columnFor column.camelName = .ok found)
      own bound := by
  induction own with
  | nil => exact ⟨[], .nil⟩
  | cons column rest ih =>
      obtain ⟨bound, hbound⟩ := ih fun other hmem => h other (List.mem_cons_of_mem _ hmem)
      obtain ⟨found, hfound⟩ := column_for_complete (h column List.mem_cons_self)
      exact ⟨found :: bound, .cons hfound hbound⟩

/-- The columns that are found agree with the columns they are found for exactly if each of them
does. -/
theorem lookup_map_iff {β : Type} {f : Column → β} {own bound : List Column}
    (h : List.Forall₂ (fun column found => repository.columnFor column.camelName = .ok found)
      own bound) :
    bound.map f = own.map f ↔
      ∀ column ∈ own, ∀ found, repository.columnFor column.camelName = .ok found →
        f found = f column := by
  induction h with
  | nil => simp
  | @cons column found own bound hfound _ ih =>
      rw [List.map_cons, List.map_cons, List.cons.injEq, ih, List.forall_mem_cons]
      refine and_congr_left fun _ => ⟨?_, fun hall => hall found hfound⟩
      intro heq other hother
      cases hfound.symm.trans hother
      exact heq

/-- The search agrees with every column of the table exactly if columns with the same camel name
agree with each other. -/
theorem column_for_agrees_iff {β : Type} {f : Column → β} :
    (∀ column ∈ repository.statements.table.columns, ∀ found,
      repository.columnFor column.camelName = .ok found → f found = f column) ↔
    ∀ left ∈ repository.statements.table.columns, ∀ right ∈ repository.statements.table.columns,
      left.camelName = right.camelName → f left = f right := by
  constructor
  · intro h left hleft right hright hsame
    obtain ⟨found, hfound⟩ := column_for_complete hleft
    -- both columns have the first column with their common camel name found for them
    have hother := hfound
    rw [hsame] at hother
    exact (h left hleft found hfound).symm.trans (h right hright found hother)
  · intro h column hcolumn found hfound
    obtain ⟨hmem, hsame⟩ := column_for_sound hfound
    exact h found hmem column hcolumn hsame

/-! ## The bindings of a method -/

/-- The lines that bind the parameters of columns from the properties of other columns. -/
def bindLines (repository : Repository) (own bound : List Column) : Script :=
  if own.isEmpty then []
  else .blank :: List.zipWith
    (fun column found => Repository.bindLine column.camelName (repository.recordValue found))
    own bound

/-- A method binds the parameters of a statement from the columns that the search finds. -/
theorem bind_record_eq {statement : Statement} {own bound : List Column}
    (hparameters : statement.parameters = own.map (·.camelName))
    (h : List.Forall₂ (fun column found => repository.columnFor column.camelName = .ok found)
      own bound) :
    repository.bindRecord statement = bindLines repository own bound := by
  rw [Repository.bindRecord, bindLines, hparameters, List.isEmpty_map]
  congr 2
  clear hparameters
  induction h with
  | nil => rfl
  | cons hfound _ ih =>
      rw [List.map_cons, List.map_cons, ih, List.zipWith_cons_cons, Repository.bindParameter,
        hfound]

end

/-- `Binds repository unit source method statement own bound` says that in a text there is a method
that binds the parameters of a statement, which come from the columns `own`, from the record
properties of the columns `bound`, and that these are the columns that the search finds. -/
structure Binds (repository : Repository) (unit source method : String) (statement : Statement)
    (own bound : List Column) : Prop where
  parameters : statement.parameters = own.map (·.camelName)
  lookup :
    List.Forall₂ (fun column found => repository.columnFor column.camelName = .ok found) own bound
  lines : repository.bindRecord statement = bindLines repository own bound
  source : (Script.rendering unit 2 (repository.persist method statement)).1.toList <:+:
    source.toList

/-- The methods of a repository class bind the parameters of columns of the table. -/
theorem exists_binds {settings : Settings} {statements : Storage.Statements}
    {record generated : HostClass} (h : repository settings statements record = .ok generated)
    (method : String) {statement : Statement} {own : List Column}
    (hmember : (sharedOf settings statements record).persist method statement ∈
      (sharedOf settings statements record).members
        (record.className ++ settings.repositorySuffix) settings.fieldNaming)
    (hparameters : statement.parameters = own.map (·.camelName))
    (hown : ∀ column ∈ own, column ∈ statements.table.columns) :
    ∃ bound, Binds (sharedOf settings statements record) settings.indentUnit generated.source method
      statement own bound := by
  obtain ⟨bound, hbound⟩ := exists_lookup (sharedOf settings statements record) hown
  refine ⟨bound, hparameters, hbound, bind_record_eq hparameters hbound, ?_⟩
  rw [Repository.persist, Script.rendering_singleton]
  exact member_within h hmember (List.mem_singleton_self _)

/-- A column of a table is its primary key or one of the columns that an update changes. -/
theorem mem_key_or_changed {table : Table} {key : Column}
    (hkey : table.requirePrimaryKey = .ok key) {column : Column} :
    column ∈ key :: changedColumns table ↔ column ∈ table.columns := by
  rw [List.mem_cons, changedColumns, List.mem_filter]
  constructor
  · rintro (rfl | hchanged)
    · exact (primary_key_mem hkey).1
    · exact hchanged.1
  · intro hmem
    cases hprimary : column.primaryKey with
    | false => exact .inr ⟨hmem, rfl⟩
    | true =>
        have hone := require_primary_key_iff.1 hkey
        have hfilter : column ∈ table.columns.filter (·.primaryKey) :=
          List.mem_filter.2 ⟨hmem, hprimary⟩
        rw [hone] at hfilter
        exact .inl (List.mem_singleton.1 hfilter)

/-- What is found for the parameters of both methods agrees with the columns that contributed them
exactly if columns with the same camel name agree with each other. -/
theorem found_agrees_iff (repository : Repository) {key : Column} {created updated : List Column}
    (hkey : repository.statements.table.requirePrimaryKey = .ok key)
    (hcreated : List.Forall₂
      (fun column found => repository.columnFor column.camelName = .ok found)
      (suppliedColumns repository.statements.table) created)
    (hupdated : List.Forall₂
      (fun column found => repository.columnFor column.camelName = .ok found)
      (key :: changedColumns repository.statements.table) updated) {β : Type} (f : Column → β) :
    created.map f = (suppliedColumns repository.statements.table).map f ∧
        updated.map f = (key :: changedColumns repository.statements.table).map f ↔
      ∀ left ∈ repository.statements.table.columns,
        ∀ right ∈ repository.statements.table.columns,
          left.camelName = right.camelName → f left = f right := by
  rw [lookup_map_iff hcreated, lookup_map_iff hupdated]
  simp only [mem_key_or_changed hkey]
  rw [← column_for_agrees_iff, and_iff_right_of_imp]
  -- an update has a parameter for every column, so it covers the parameters of an insertion
  intro hall column hsupplied
  exact hall column (List.mem_filter.1 hsupplied).1

/-- For every table whose columns have different storage names, the methods `Create` and `Update`
bind all parameters from the columns that contributed them exactly if the camel names of the columns
are different as well. They bind all parameters to the values of these columns exactly if columns
with the same camel name have the same value. -/
theorem binding_iff {settings : Settings} {texts : List String} {bundles : List Bundle}
    (h : generate settings texts = .ok bundles) {bundle : Bundle} (hbundle : bundle ∈ bundles)
    (hdistinct : (bundle.statements.table.columns.map (·.name)).Nodup) :
    let table := bundle.statements.table
    let shared := sharedOf settings bundle.statements bundle.record
    ∃ key created updated, table.requirePrimaryKey = .ok key ∧
      Binds shared settings.indentUnit bundle.repository.source "Create" bundle.statements.insert
        (suppliedColumns table) created ∧
      Binds shared settings.indentUnit bundle.repository.source "Update" bundle.statements.update
        (key :: changedColumns table) updated ∧
      (created = suppliedColumns table ∧ updated = key :: changedColumns table ↔
        (table.columns.map (·.camelName)).Nodup) ∧
      (created.map shared.recordValue = (suppliedColumns table).map shared.recordValue ∧
        updated.map shared.recordValue = (key :: changedColumns table).map shared.recordValue ↔
        ∀ left ∈ table.columns, ∀ right ∈ table.columns, left.camelName = right.camelName →
          shared.recordValue left = shared.recordValue right) := by
  intro table shared
  obtain ⟨text, -, tables, -, parsed, -, hok⟩ := generate_ok h hbundle
  obtain ⟨-, hgenerated, -, hrepository⟩ := bundle_of_table hok
  obtain ⟨_, -, hinsert⟩ := bind_eq_ok_iff.1 hgenerated.insert
  obtain ⟨key, hkey, hupdate⟩ := bind_eq_ok_iff.1 hgenerated.update
  have hcreate : bundle.statements.insert.parameters =
      (suppliedColumns table).map (·.camelName) := by
    rw [← Except.ok.inj hinsert]
  have hchange : bundle.statements.update.parameters =
      (key :: changedColumns table).map (·.camelName) := by
    rw [← Except.ok.inj hupdate]
    rfl
  obtain ⟨created, hcreated⟩ := exists_binds hrepository "Create"
    (by simp [Repository.members, sharedOf]) hcreate fun column hmem => (List.mem_filter.1 hmem).1
  obtain ⟨updated, hupdated⟩ := exists_binds hrepository "Update"
    (by simp [Repository.members, sharedOf]) hchange
    fun column hmem => (mem_key_or_changed hkey).1 hmem
  have hagrees {β : Type} (f : Column → β) :=
    found_agrees_iff shared hkey hcreated.lookup hupdated.lookup f
  refine ⟨key, created, updated, hkey, hcreated, hupdated, ?_, hagrees shared.recordValue⟩
  have hsame := hagrees id
  simp only [List.map_id] at hsame
  rw [List.nodup_map_iff_inj_on (List.Nodup.of_map _ hdistinct)]
  exact hsame

/-- A table whose parameters are all bound from their own columns. -/
theorem own_columns_bound :
    ∃ bundles, generate {} ["user \x7b id int pk ag, first_name string, born datetime null \x7d"] =
        .ok bundles ∧
      ∃ bundle ∈ bundles, (bundle.statements.table.columns.map (·.name)).Nodup ∧
        ∃ key, Binds (sharedOf {} bundle.statements bundle.record) "    " bundle.repository.source
          "Update" bundle.statements.update (key :: changedColumns bundle.statements.table)
          (key :: changedColumns bundle.statements.table) := by
  have hsome : ∃ bundles,
      generate {} ["user \x7b id int pk ag, first_name string, born datetime null \x7d"] =
        .ok bundles ∧
      ∃ bundle ∈ bundles, (bundle.statements.table.columns.map (·.name)).Nodup ∧
        (bundle.statements.table.columns.map (·.camelName)).Nodup :=
    exists_eq_ok (by decide +kernel)
  obtain ⟨bundles, hok, bundle, hmem, hnames⟩ := hsome
  obtain ⟨key, created, updated, -, -, hupdated, hown, -⟩ := binding_iff hok hmem hnames.1
  obtain ⟨-, rfl⟩ := hown.2 hnames.2
  exact ⟨bundles, hok, bundle, hmem, hnames.1, key, hupdated⟩

/-- Two columns with different storage names and different properties that share a camel name: the
parameter of the second one is bound from the property of the first. -/
theorem other_column_bound :
    ∃ bundles, generate {} ["t \x7b id int pk, ßx int, ẞ-x int \x7d"] = .ok bundles ∧
      ∃ bundle ∈ bundles, (bundle.statements.table.columns.map (·.name)).Nodup ∧
        bundle.statements.insert.parameters = ["id", "ßx", "ßx"] ∧
        (suppliedColumns bundle.statements.table).map
          (sharedOf {} bundle.statements bundle.record).recordValue = ["t.Id", "t.SSx", "t.ẞx"] ∧
        bundle.statements.insert.parameters.map (fun parameter =>
          ((sharedOf {} bundle.statements bundle.record).columnFor parameter).toOption.map
            (sharedOf {} bundle.statements bundle.record).recordValue) =
          [some "t.Id", some "t.SSx", some "t.SSx"] := by
  exact exists_eq_ok (by decide +kernel)

end Schemata.Host
