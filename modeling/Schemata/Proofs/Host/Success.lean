import Schemata.Proofs.Host.Binding
import Schemata.Proofs.Script.Lines

/-!
# Classes are always generated

Where the statements of a table are generated, nothing is left that can fail: a record has no way to
fail at all, and a repository needs a key and a column for each parameter, which generated
statements have. So `record_eq` and `repository_eq` give the texts of both classes, line by line.
-/

namespace Schemata

/-- A command of scripts with empty lines between them is an empty line or a command of one of
them. -/
theorem mem_of_spaced {scripts : List Script} {command : Command}
    (h : command ∈ Script.spaced scripts) :
    command = .blank ∨ ∃ script ∈ scripts, command ∈ script := by
  obtain ⟨script, hscript, hmem⟩ := List.mem_flatten.1 h
  have hfrom : script = [.blank] ∨ script ∈ scripts := by
    clear h
    induction scripts with
    | nil => simp at hscript
    | cons first rest ih =>
        cases rest with
        | nil => exact .inr hscript
        | cons second rest =>
            rw [List.intersperse_cons_cons, List.mem_cons, List.mem_cons] at hscript
            rcases hscript with rfl | rfl | hscript
            · exact .inr List.mem_cons_self
            · exact .inl rfl
            · exact (ih hscript).imp_right (List.mem_cons_of_mem first)
  rcases hfrom with rfl | hfrom
  · exact .inl (List.mem_singleton.1 hmem)
  · exact .inr ⟨script, hfrom, hmem⟩

/-- A script among others stays faultless. -/
theorem spaced_faultless {scripts : List Script}
    (h : ∀ script ∈ scripts, Script.faultless script = true) :
    Script.faultless (Script.spaced scripts) = true := by
  rw [Script.faultless_iff]
  intro command hcommand
  rcases mem_of_spaced hcommand with rfl | ⟨script, hscript, hmem⟩
  · rfl
  · exact Script.faultless_iff.1 (h script hscript) command hmem

namespace Host

open Storage (Statement Statements)

variable {settings : Settings} {statements : Statements} {record : HostClass}

/-! ## Records -/

/-- The file of a record holds no failure. -/
theorem record_script_faultless (space : String) (table : Table) :
    Script.faultless (recordScript space table) = true := by
  have hproperties : Script.faultless (Script.spaced (table.columns.map fun column =>
      [Command.line (propertyLine table.className column)])) = true := by
    refine spaced_faultless fun script hscript => ?_
    obtain ⟨column, -, rfl⟩ := List.mem_map.1 hscript
    rfl
  rw [Script.faultless_iff, recordScript]
  intro command hcommand
  rcases List.mem_append.1 hcommand with hcommand | hcommand
  · unfold recordImports at hcommand
    split at hcommand
    · rcases List.mem_cons.1 hcommand with rfl | hcommand
      · rfl
      · rw [List.mem_singleton.1 hcommand]
        rfl
    · simp at hcommand
  · rw [List.mem_singleton.1 hcommand]
    simp only [Command.faultless, Script.faultless, Bool.and_true]
    exact hproperties

/-- A record is generated for all statements. -/
theorem record_eq (settings : Settings) (statements : Statements) :
    Host.record settings statements =
      .ok ⟨statements.table.className, settings.classNamespace,
        unlines (Script.linesAt settings.indentUnit 0
          (recordScript settings.classNamespace statements.table))⟩ := by
  rw [Host.record, render_faultless (record_script_faultless _ _)]
  rfl

/-! ## Repositories -/

section Members

variable {repository : Repository} {key : Column}

/-- The method that reads the row with a given key, in a table with a key. -/
theorem get_eq (h : repository.key = .ok key) :
    repository.get =
      [Repository.braced
        ("public async Task<" ++ repository.recordType ++ "> Get(" ++ Repository.keyArgument key
          ++ ")")
        [repository.withConnection
          ([Repository.commandFor repository.statements.selectByKey.sql, .blank,
            Repository.bindKey key, .blank] ++ Repository.readSingle)]] := by
  rw [Repository.get, h]
  rfl

/-- The method that deletes the row with a given key, in a table with a key. -/
theorem delete_eq (h : repository.key = .ok key) :
    repository.delete =
      [Repository.braced ("public async Task<bool> Delete(" ++ Repository.keyArgument key ++ ")")
        [repository.withConnection
          [Repository.commandFor repository.statements.deleteByKey.sql, .blank,
           Repository.bindKey key, .blank,
           .line "var affected = await command.ExecuteNonQueryAsync();", .blank,
           .line "return affected > 0;"]]] := by
  rw [Repository.delete, h]
  rfl

/-- Binding parameters holds no failure if each of them has a column. -/
theorem bind_record_faultless {statement : Statement}
    (h : ∀ parameter ∈ statement.parameters, ∃ column,
      repository.columnFor parameter = .ok column) :
    Script.faultless (repository.bindRecord statement) = true := by
  unfold Repository.bindRecord
  split
  · rfl
  · rw [Script.faultless, Command.faultless, Bool.true_and, Script.faultless_iff]
    intro command hcommand
    obtain ⟨parameter, hparameter, rfl⟩ := List.mem_map.1 hcommand
    obtain ⟨column, hcolumn⟩ := h parameter hparameter
    rw [Repository.bindParameter, hcolumn]
    rfl

/-- A method that stores a record holds no failure if each of its parameters has a column. -/
theorem persist_faultless (method : String) {statement : Statement}
    (h : ∀ parameter ∈ statement.parameters, ∃ column,
      repository.columnFor parameter = .ok column) :
    Script.faultless (repository.persist method statement) = true := by
  have hbody : Script.faultless ([.line "await connection.OpenAsync();", .blank] ++
      ([Repository.commandFor statement.sql] ++ repository.bindRecord statement ++ [.blank] ++
        Repository.readSingle)) = true := by
    rw [Script.faultless_iff]
    intro command hcommand
    simp only [List.mem_append] at hcommand
    rcases hcommand with hcommand | ((hcommand | hcommand) | hcommand) | hcommand
    · revert command
      exact Script.faultless_iff.1 rfl
    · rw [List.mem_singleton.1 hcommand]
      rfl
    · exact Script.faultless_iff.1 (bind_record_faultless h) command hcommand
    · rw [List.mem_singleton.1 hcommand]
      rfl
    · revert command
      exact Script.faultless_iff.1 rfl
  simp only [Repository.persist, Repository.withConnection, Repository.braced, Script.faultless,
    Command.faultless, Bool.and_true]
  exact hbody

/-- Turning a row into a record holds no failure. -/
theorem get_current_faultless (repository : Repository) :
    Script.faultless repository.getCurrent = true := by
  simp only [Repository.getCurrent, Repository.braced, Script.faultless, Command.faultless,
    Bool.and_true]
  rw [Script.faultless_iff]
  intro command hcommand
  obtain ⟨text, -, rfl⟩ := List.mem_map.1 hcommand
  rfl

/-- The members of a repository hold no failure if the table has a key and each parameter has a
column. -/
theorem members_faultless (repository : Repository) (className : String) (naming : FieldNaming)
    (hkey : repository.key = .ok key)
    (hinsert : ∀ parameter ∈ repository.statements.insert.parameters, ∃ column,
      repository.columnFor parameter = .ok column)
    (hupdate : ∀ parameter ∈ repository.statements.update.parameters, ∃ column,
      repository.columnFor parameter = .ok column) :
    ∀ member ∈ repository.members className naming, Script.faultless member = true := by
  intro member hmember
  simp only [Repository.members, List.mem_cons, List.not_mem_nil, or_false] at hmember
  rcases hmember with rfl | rfl | rfl | rfl | rfl | rfl | rfl | rfl
  · rfl
  · rfl
  · rfl
  · rw [get_eq hkey]
    rfl
  · rw [delete_eq hkey]
    rfl
  · exact persist_faultless "Create" hinsert
  · exact persist_faultless "Update" hupdate
  · exact get_current_faultless repository

end Members

/-- The file of a repository class. -/
def repositoryScript (settings : Settings) (statements : Statements) (record : HostClass) :
    Script :=
  repositoryUsings settings.effectiveRepositoryNamespace record.space ++
    [.blank,
     Repository.braced ("namespace " ++ settings.effectiveRepositoryNamespace)
      [Repository.braced ("public class " ++ (record.className ++ settings.repositorySuffix))
        (Script.spaced ((sharedOf settings statements record).members
          (record.className ++ settings.repositorySuffix) settings.fieldNaming))]]

/-- The columns whose parameters the statements that store a record bind. -/
theorem parameters_of_columns (h : statements.Generated settings) :
    ∃ key, statements.table.requirePrimaryKey = .ok key ∧
      statements.insert.parameters =
        (Storage.suppliedColumns statements.table).map (·.camelName) ∧
      statements.update.parameters =
        (key :: Storage.changedColumns statements.table).map (·.camelName) := by
  obtain ⟨_, -, hinsert⟩ := bind_eq_ok_iff.1 h.insert
  obtain ⟨key, hkey, hupdate⟩ := bind_eq_ok_iff.1 h.update
  refine ⟨key, hkey, ?_, ?_⟩
  · rw [← Except.ok.inj hinsert]
  · rw [← Except.ok.inj hupdate]
    rfl

/-- Each parameter of the statements that store a record has a column. -/
theorem parameters_found (h : statements.Generated settings) (record : HostClass) :
    (∀ parameter ∈ statements.insert.parameters, ∃ column,
      (sharedOf settings statements record).columnFor parameter = .ok column) ∧
    ∀ parameter ∈ statements.update.parameters, ∃ column,
      (sharedOf settings statements record).columnFor parameter = .ok column := by
  obtain ⟨key, hkey, hinsert, hupdate⟩ := parameters_of_columns h
  have hfound {own : List Column} (hown : ∀ column ∈ own, column ∈ statements.table.columns) :
      ∀ parameter ∈ own.map (·.camelName), ∃ column,
        (sharedOf settings statements record).columnFor parameter = .ok column := by
    intro parameter hparameter
    obtain ⟨column, hcolumn, rfl⟩ := List.mem_map.1 hparameter
    exact column_for_complete (hown column hcolumn)
  rw [hinsert, hupdate]
  exact ⟨hfound fun column hmem => (List.mem_filter.1 hmem).1,
    hfound fun column hmem => (mem_key_or_changed hkey).1 hmem⟩

/-- The file of the repository of generated statements holds no failure. -/
theorem repository_script_faultless (h : statements.Generated settings) (record : HostClass) :
    Script.faultless (repositoryScript settings statements record) = true := by
  obtain ⟨key, hkey, -, -⟩ := parameters_of_columns h
  obtain ⟨hcreate, hchange⟩ := parameters_found h record
  have hmembers := members_faultless (sharedOf settings statements record)
    (record.className ++ settings.repositorySuffix) settings.fieldNaming (lift_eq_ok_iff.2 hkey)
    hcreate hchange
  rw [Script.faultless_iff, repositoryScript]
  intro command hcommand
  rcases List.mem_append.1 hcommand with hcommand | hcommand
  · obtain ⟨space, -, rfl⟩ := List.mem_map.1 hcommand
    rfl
  · rcases List.mem_cons.1 hcommand with rfl | hcommand
    · rfl
    · rw [List.mem_singleton.1 hcommand]
      simp only [Repository.braced, Command.faultless, Script.faultless, Bool.and_true]
      exact spaced_faultless hmembers

/-- A repository is generated for all generated statements. -/
theorem repository_eq (h : statements.Generated settings) (record : HostClass) :
    Host.repository settings statements record =
      .ok ⟨record.className ++ settings.repositorySuffix, settings.effectiveRepositoryNamespace,
        unlines (Script.linesAt settings.indentUnit 0
          (repositoryScript settings statements record))⟩ := by
  have hrender := render_faultless (repository_script_faultless h record) settings.indentUnit
  show (Script.render settings.indentUnit (repositoryScript settings statements record) >>= _) = _
  rw [hrender]
  rfl

/-- The classes of a bundle, line by line. -/
theorem bundle_classes {table : Table} {bundle : Bundle}
    (h : Bundle.ofTable settings table = .ok bundle) :
    bundle.record = ⟨table.className, settings.classNamespace,
      unlines (Script.linesAt settings.indentUnit 0
        (recordScript settings.classNamespace table))⟩ ∧
    bundle.repository = ⟨table.className ++ settings.repositorySuffix,
      settings.effectiveRepositoryNamespace, unlines (Script.linesAt settings.indentUnit 0
        (repositoryScript settings bundle.statements bundle.record))⟩ := by
  obtain ⟨rfl, hgenerated, hrecord, hrepository⟩ := bundle_of_table h
  have hrecord := Except.ok.inj (hrecord.symm.trans (record_eq settings bundle.statements))
  have hrepository :=
    Except.ok.inj (hrepository.symm.trans (repository_eq hgenerated bundle.record))
  have hclass : bundle.record.className = bundle.statements.table.className := by rw [hrecord]
  rw [hclass] at hrepository
  exact ⟨hrecord, hrepository⟩

end Host

end Schemata
