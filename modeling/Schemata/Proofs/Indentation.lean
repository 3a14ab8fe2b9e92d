import Schemata.Proofs.Generation
import Schemata.Proofs.Storage.Columns

/-!
# Indentation is layout and nothing else

The settings say how far a level of nesting is indented. `indentation_keeps_content` compares two
runs of the generator under settings that differ in this only: both fail with the same error, or
they yield the same bundles up to the blanks and tabs in front of the rows of their texts. The
creation is indented by its own loop and the classes are by the writer of scripts; for both
`flush_rows_margin` says that what is put in front of a line does not count, also where a line of a
script is broken by a name that holds a line feed.
-/

namespace Schemata

open Text

/-- The settings with another indentation. -/
def Settings.indentedBy (settings : Settings) (size : Nat) (tabs : Bool) : Settings :=
  { settings with tabSize := size, useTabs := tabs }

/-! ## Rows without their indentation -/

/-- The character is a blank or a tab. -/
def isIndent (c : Char) : Bool :=
  c == ' ' || c == '\t'

/-- The text is made of blanks and tabs. -/
def IsIndentation (text : String) : Prop :=
  ∀ c ∈ text.toList, isIndent c = true

/-- The rows of a text without the blanks and tabs in front of each. -/
def flushRows (text : String) : List String :=
  (rows text).map fun row => String.ofList (row.toList.dropWhile isIndent)

/-- The rows above and below a line feed. -/
theorem flush_rows_append (above below : String) :
    flushRows (above ++ "\n" ++ below) = flushRows above ++ flushRows below := by
  rw [flushRows, rows_append, List.map_append, flushRows, flushRows]

/-- The rows of lines that were written above a text. -/
theorem flush_rows_unlines (lines : List String) (text : String) :
    flushRows (unlines lines ++ text) = lines.flatMap flushRows ++ flushRows text := by
  rw [flushRows, rows_unlines_append, List.map_append, List.map_flatMap]
  rfl

/-- Indentation in front of a text does not count. -/
theorem flush_rows_margin {indentation : String} (h : IsIndentation indentation) (text : String) :
    flushRows (indentation ++ text) = flushRows text := by
  have hfeed : '\n' ∉ indentation.toList := fun hmem => absurd (h '\n' hmem) (by decide)
  -- the indentation is a part of the first row, with or without a line feed behind it
  have hrow {row : String} (hone : '\n' ∉ row.toList) :
      flushRows (indentation ++ row) = flushRows row := by
    have hboth : '\n' ∉ (indentation ++ row).toList := by simp [hfeed, hone]
    rw [flushRows, flushRows, rows_single hboth, rows_single hone, List.map_singleton,
      List.map_singleton, String.toList_append, List.dropWhile_append_of_pos h]
  by_cases hmem : '\n' ∈ text.toList
  · obtain ⟨first, rest, htext, hfirst⟩ := List.eq_append_cons_of_mem hmem
    have hsplit : text = String.ofList first ++ "\n" ++ String.ofList rest := by
      apply String.toList_inj.1
      simp [htext]
    rw [hsplit, ← String.append_assoc, ← String.append_assoc, flush_rows_append,
      flush_rows_append, hrow (by simpa using hfirst)]
  · exact hrow hmem

example : flushRows "a (\n \t b c\n\n)" = ["a (", "b c", "", ")"] := by decide

/-- One level of indentation is made of blanks and tabs. -/
theorem indent_unit_indentation (settings : Settings) : IsIndentation settings.indentUnit := by
  intro c hmem
  rcases mem_indentation hmem with rfl | rfl <;> decide

/-- Indentation at a depth of nesting is made of blanks and tabs. -/
theorem margin_indentation {unit : String} (h : IsIndentation unit) (depth : Nat) :
    IsIndentation (margin unit depth) := fun c hmem => h c (mem_margin hmem)

/-! ## Scripts -/

section Scripts

variable {unit other : String}

/-- Lines with indentation in front have the rows of the lines. -/
theorem flush_rows_indented {indentation : String} (h : IsIndentation indentation)
    (lines : List String) :
    (lines.map (indentation ++ ·)).flatMap flushRows = lines.flatMap flushRows := by
  rw [List.flatMap_map]
  exact List.flatMap_congr fun line _ => flush_rows_margin h line

mutual

/-- The rows of a command do not depend on the unit of indentation. -/
theorem Command.flush_lines (hunit : IsIndentation unit) (hother : IsIndentation other)
    (depth : Nat) (command : Command) :
    (command.linesAt unit depth).flatMap flushRows =
      (command.linesAt other depth).flatMap flushRows := by
  have hmargin := margin_indentation hunit depth
  have hmargin' := margin_indentation hother depth
  cases command with
  | line text =>
      simp only [Command.linesAt, List.flatMap_singleton, flush_rows_margin hmargin,
        flush_rows_margin hmargin']
  | blank => rfl
  | aligned lead text tail =>
      rw [Command.linesAt, Command.linesAt, ← framed_rows, ← framed_rows,
        flush_rows_indented hmargin, flush_rows_indented hmargin']
  | block header closer body =>
      simp only [Command.linesAt, List.flatMap_append, List.flatMap_cons, List.flatMap_nil,
        flush_rows_margin hmargin, flush_rows_margin hmargin',
        Script.flush_lines hunit hother (depth + 1) body]
  | fail cause => rfl
  | attempt command => exact Command.flush_lines hunit hother depth command

/-- The rows of a script do not depend on the unit of indentation. -/
theorem Script.flush_lines (hunit : IsIndentation unit) (hother : IsIndentation other)
    (depth : Nat) (script : List Command) :
    (Script.linesAt unit depth script).flatMap flushRows =
      (Script.linesAt other depth script).flatMap flushRows := by
  cases script with
  | nil => rfl
  | cons command rest =>
      simp only [Script.linesAt, List.flatMap_append,
        Command.flush_lines hunit hother depth command, Script.flush_lines hunit hother depth rest]

end

/-- The text of a script has the same rows under all units of indentation. -/
theorem flush_rows_script (hunit : IsIndentation unit) (hother : IsIndentation other)
    (script : Script) :
    flushRows (unlines (Script.linesAt unit 0 script)) =
      flushRows (unlines (Script.linesAt other 0 script)) := by
  have hrows := flush_rows_unlines (Script.linesAt unit 0 script) ""
  have hrows' := flush_rows_unlines (Script.linesAt other 0 script) ""
  rw [String.append_empty] at hrows hrows'
  rw [hrows, hrows', Script.flush_lines hunit hother 0 script]

end Scripts

/-! ## Bundles -/

/-- The two bundles have the same content: everything is equal but the indentation of the creation
and of the two classes. -/
structure Bundle.SameContent (left right : Bundle) : Prop where
  objectName : left.objectName = right.objectName
  table : left.statements.table = right.statements.table
  selectAll : left.statements.selectAll = right.statements.selectAll
  selectByKey : left.statements.selectByKey = right.statements.selectByKey
  deleteByKey : left.statements.deleteByKey = right.statements.deleteByKey
  insert : left.statements.insert = right.statements.insert
  update : left.statements.update = right.statements.update
  dependencies : left.statements.dependencies = right.statements.dependencies
  recordName : left.record.className = right.record.className
  recordSpace : left.record.space = right.record.space
  repositoryName : left.repository.className = right.repository.className
  repositorySpace : left.repository.space = right.repository.space
  creation : flushRows left.statements.creation = flushRows right.statements.creation
  record : flushRows left.record.source = flushRows right.record.source
  repository : flushRows left.repository.source = flushRows right.repository.source

section Bundles

variable {settings : Settings} {size : Nat} {tabs : Bool} {table : Table}

/-- The rows of a creation are the opening, the lines of the columns and the end. -/
theorem flush_rows_creation (settings : Settings) (table : Table) (lines : List String) :
    flushRows (Storage.creationText settings table lines) =
      flushRows ("CREATE TABLE " ++ table.qualifiedName ++ " (") ++
        ((separated "," lines).flatMap flushRows ++ flushRows ");") := by
  have hlines := flush_rows_unlines ((separated "," lines).map (settings.indentUnit ++ ·)) ");"
  rw [flush_rows_indented (indent_unit_indentation settings)] at hlines
  exact (flush_rows_append _ _).trans (congrArg _ hlines)

/-- The creation of a table has the same rows under all indentations. -/
theorem creation_same_rows {creation other : String}
    (h : Storage.createTable settings table = .ok creation)
    (hother : Storage.createTable (settings.indentedBy size tabs) table = .ok other) :
    flushRows creation = flushRows other := by
  obtain ⟨lines, hlines, rfl⟩ := Storage.create_table_iff.1 h
  obtain ⟨lines', hlines', rfl⟩ := Storage.create_table_iff.1 hother
  obtain rfl : lines = lines' :=
    Except.ok.inj ((map_m_eq_ok_iff.2 hlines).symm.trans (map_m_eq_ok_iff.2 hlines'))
  rw [flush_rows_creation, flush_rows_creation]

/-- Only the creation among the statements of a table depends on the indentation. -/
theorem statements_same_content {statements other : Storage.Statements}
    (h : Storage.Statements.ofTable settings table = .ok statements)
    (hother : Storage.Statements.ofTable (settings.indentedBy size tabs) table = .ok other) :
    other = { statements with creation := other.creation } ∧
      flushRows statements.creation = flushRows other.creation := by
  simp only [Storage.Statements.ofTable, bind_eq_ok_iff, lift_eq_ok_iff] at h hother
  obtain ⟨creation, hcreation, select, hselect, delete, hdelete, insert, hinsert, update, hupdate,
    heq⟩ := h
  obtain ⟨creation', hcreation', select', hselect', delete', hdelete', insert', hinsert', update',
    hupdate', heq'⟩ := hother
  cases hselect.symm.trans hselect'
  cases hdelete.symm.trans hdelete'
  cases hinsert.symm.trans hinsert'
  cases hupdate.symm.trans hupdate'
  cases heq
  cases heq'
  exact ⟨rfl, creation_same_rows hcreation hcreation'⟩

/-- The bundles of a table under two indentations have the same content. -/
theorem bundle_same_content {bundle other : Bundle}
    (h : Bundle.ofTable settings table = .ok bundle)
    (hother : Bundle.ofTable (settings.indentedBy size tabs) table = .ok other) :
    bundle.SameContent other := by
  have hclasses := Host.bundle_classes h
  have hclasses' := Host.bundle_classes hother
  simp only [Bundle.ofTable, bind_eq_ok_iff] at h hother
  obtain ⟨statements, hstatements, record, -, repository, -, heq⟩ := h
  obtain ⟨statements', hstatements', record', -, repository', -, heq'⟩ := hother
  obtain ⟨hsame, hcreation⟩ := statements_same_content hstatements hstatements'
  cases heq
  cases heq'
  obtain ⟨hrecord, hrepository⟩ := hclasses
  obtain ⟨hrecord', hrepository'⟩ := hclasses'
  simp only at hrecord hrecord' hrepository hrepository'
  -- the script of the repository looks at nothing that the indentation changes
  have hscript : Host.repositoryScript (settings.indentedBy size tabs) statements' record' =
      Host.repositoryScript settings statements record := by
    rw [hsame, hrecord, hrecord']
    rfl
  have hunit := indent_unit_indentation settings
  have hunit' := indent_unit_indentation (settings.indentedBy size tabs)
  rw [hscript] at hrepository'
  refine ⟨rfl, ?_, ?_, ?_, ?_, ?_, ?_, ?_, ?_, ?_, ?_, ?_, hcreation, ?_, ?_⟩
  · exact (congrArg Storage.Statements.table hsame).symm
  · exact (congrArg Storage.Statements.selectAll hsame).symm
  · exact (congrArg Storage.Statements.selectByKey hsame).symm
  · exact (congrArg Storage.Statements.deleteByKey hsame).symm
  · exact (congrArg Storage.Statements.insert hsame).symm
  · exact (congrArg Storage.Statements.update hsame).symm
  · exact (congrArg Storage.Statements.dependencies hsame).symm
  · rw [hrecord, hrecord']
  · rw [hrecord, hrecord']
    rfl
  · rw [hrepository, hrepository']
    rfl
  · rw [hrepository, hrepository']
    rfl
  · rw [hrecord, hrecord']
    exact flush_rows_script hunit hunit' _
  · rw [hrepository, hrepository']
    exact flush_rows_script hunit hunit' _

end Bundles

/-- A batch that fails under one indentation fails with the same error under all others. A batch that
is generated is generated under all others, with the same number of bundles and the same content:
only the blanks and tabs in front of the rows of the creation and of the classes may differ. -/
theorem indentation_keeps_content (settings : Settings) (size : Nat) (tabs : Bool)
    (texts : List String) :
    (∃ error, generate settings texts = .error error ∧
      generate (settings.indentedBy size tabs) texts = .error error) ∨
    ∃ bundles others, generate settings texts = .ok bundles ∧
      generate (settings.indentedBy size tabs) texts = .ok others ∧
      List.Forall₂ Bundle.SameContent bundles others := by
  -- errors are those of the texts and of the tables, on which the indentation has no influence
  have herror (error : Error) : generate (settings.indentedBy size tabs) texts = .error error ↔
      generate settings texts = .error error := by
    rw [generate_error_iff, generate_error_iff]
    rfl
  cases hbundles : generate settings texts with
  | error error => exact .inl ⟨error, rfl, (herror error).2 hbundles⟩
  | ok bundles =>
      obtain ⟨others, hothers⟩ : ∃ others,
          generate (settings.indentedBy size tabs) texts = .ok others := by
        rw [exists_ok_iff]
        intro cause hcause
        rw [herror, hbundles] at hcause
        cases hcause
      refine .inr ⟨bundles, others, rfl, hothers, ?_⟩
      obtain ⟨tables, hparsed, hgenerated⟩ := generate_bundles hbundles
      obtain ⟨tables', hparsed', hgenerated'⟩ := generate_bundles hothers
      obtain rfl : tables = tables' :=
        Except.ok.inj ((map_m_eq_ok_iff.2 hparsed).symm.trans (map_m_eq_ok_iff.2 hparsed'))
      refine forall_join hgenerated.flip hgenerated'.flip ?_
      intro bundle other table _ _ hbundle hother
      exact bundle_same_content hbundle.1 hother.1

end Schemata
