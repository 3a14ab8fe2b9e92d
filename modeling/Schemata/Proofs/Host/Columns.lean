import Schemata.Proofs.Definition.Words
import Schemata.Proofs.Host.Success
import Schemata.Proofs.Text.Reading

/-!
# Reading columns back from classes

Two readers of classes: `declaredProperties` reads the types and names of the properties that a
record declares, and `initializers` the rows of the initializer with which `GetCurrent` turns a row
of the database into a record. On generated classes both follow the columns of the table in the
order of their declaration, by `record_properties` and `repository_initializers`.
-/

namespace Schemata

open Text

namespace Host

/-! ## Properties of records -/

/-- The type and the name of the property that a row declares. -/
def declaredProperty? (row : String) : Option (String × String) :=
  match split " " (trimmed row) with
  | [access, type, name, opening, getter, setter, closing] =>
    if [access, opening, getter, setter, closing] = ["public", "\x7b", "get;", "set;", "\x7d"] then
      some (type, name)
    else none
  | _ => none

/-- The types and names of the properties that a text declares, in order. -/
def declaredProperties (source : String) : List (String × String) :=
  (rows source).filterMap declaredProperty?

variable {table : Table} {column : Column}

/-- A blank as a mark of one character. -/
theorem blank_mark : " ".toList = [] ++ ' ' :: [] :=
  rfl

/-- The property for a column is made of plain characters. -/
theorem property_name_plain {className : String} (hclass : IsPlainText className)
    (h : column.Worded) : IsPlainText (propertyName className column) := by
  unfold propertyName
  split
  · intro c hmem
    rw [String.toList_append, List.mem_append] at hmem
    rcases hmem with hmem | hmem
    · exact hclass c hmem
    · have hvalue : ∀ d ∈ "Value".toList, isPlain d = true := List.all_eq_true.1 (by decide)
      exact hvalue c hmem
  · exact h.pascalName

/-- Types of the host language hold no blanks and are written on one line. -/
theorem field_type_chars (nullable : Bool) (type : DataType) :
    ' ' ∉ (fieldType nullable type).toList ∧ '\n' ∉ (fieldType nullable type).toList := by
  cases nullable <;> cases type <;> decide

/-- The declaration of a property is read back. -/
theorem declared_property_line {className : String} (hclass : IsPlainText className)
    (h : column.Worded) :
    declaredProperty? (propertyLine className column) =
      some (fieldType column.nullable column.dataType, propertyName className column) := by
  have hname : ' ' ∉ (propertyName className column).toList :=
    (property_name_plain hclass h).not_mem (by decide)
  have htype := (field_type_chars column.nullable column.dataType).1
  have htext : propertyLine className column = " ".intercalate
      ["public", fieldType column.nullable column.dataType, propertyName className column,
        "\x7b", "get;", "set;", "\x7d"] := by
    simp only [String.intercalate_cons_cons, String.intercalate_singleton, propertyLine]
    have haccessors : " \x7b get; set; \x7d" =
        " " ++ "\x7b" ++ " " ++ "get;" ++ " " ++ "set;" ++ " " ++ "\x7d" := rfl
    rw [haccessors, show "public " = "public" ++ " " from rfl]
    simp only [String.append_assoc]
  have hpieces : split " " (propertyLine className column) =
      ["public", fieldType column.nullable column.dataType, propertyName className column,
        "\x7b", "get;", "set;", "\x7d"] := by
    rw [htext]
    refine split_intercalate blank_mark (by simp) (by simp) ?_
    simp only [List.forall_mem_cons]
    exact ⟨by decide, htype, hname, by decide, by decide, by decide, by decide, by simp⟩
  rw [declaredProperty?, trimmed_eq (by simp [propertyLine]; decide), hpieces]
  rfl

/-- The properties of a text are those of its lines. -/
theorem declared_properties_unlines (lines : List String) :
    declaredProperties (unlines lines) = lines.flatMap declaredProperties := by
  have hempty : (rows "").filterMap declaredProperty? = [] := by decide
  rw [declaredProperties, ← String.append_empty (s := unlines lines), rows_unlines_append,
    List.filterMap_append, hempty, List.append_nil, List.filterMap_flatMap]
  rfl

/-- What a line declares does not depend on its indentation. -/
theorem declared_properties_line (settings : Settings) (depth : Nat) {text : String}
    (h : '\n' ∉ text.toList) :
    declaredProperties (margin settings.indentUnit depth ++ text) =
      (declaredProperty? text).toList := by
  have hline : '\n' ∉ (margin settings.indentUnit depth ++ text).toList := by
    simp [margin_one_line settings depth, h]
  have hsame : declaredProperty? (margin settings.indentUnit depth ++ text) =
      declaredProperty? text := by
    rw [declaredProperty?, trimmed_append (margin_blank settings depth), declaredProperty?]
  rw [declaredProperties, rows_single hline, List.filterMap_cons, List.filterMap_nil, hsame]
  cases declaredProperty? text <;> rfl

/-- A namespace declares no property. -/
theorem declared_property_namespace (space : String) :
    declaredProperty? ("namespace " ++ space) = none := by
  have hpieces : split " " ("namespace " ++ space) = "namespace" :: split " " space := by
    rw [show "namespace " = "namespace" ++ " " from rfl]
    exact split_append blank_mark (by simp) (by decide)
  rw [declaredProperty?, trimmed_eq (by simp; decide), hpieces]
  split
  · next access _ _ _ _ _ _ heq =>
      rw [if_neg]
      rw [← (List.cons.inj heq).1]
      simp
  · rfl

/-- The header of a class declares no property. -/
theorem declared_property_class {className : String} (h : IsPlainText className) :
    declaredProperty? ("public class " ++ className) = none := by
  have hpieces : split " " ("public class " ++ className) = ["public", "class", className] := by
    have htext : "public class " ++ className = " ".intercalate ["public", "class", className] := by
      simp only [String.intercalate_cons_cons, String.intercalate_singleton]
      rw [show "public class " = "public" ++ " " ++ "class" ++ " " from rfl]
      simp only [String.append_assoc]
    rw [htext]
    refine split_intercalate blank_mark (by simp) (by simp) ?_
    simp only [List.forall_mem_cons]
    exact ⟨by decide, by decide, h.not_mem (by decide), by simp⟩
  rw [declaredProperty?, trimmed_eq (by simp; decide), hpieces]

/-- The lines of scripts with empty lines between them declare what the scripts declare. -/
theorem declared_properties_spaced (unit : String) (depth : Nat) (scripts : List Script) :
    (Script.linesAt unit depth (Script.spaced scripts)).flatMap declaredProperties =
      scripts.flatMap fun script =>
        (Script.linesAt unit depth script).flatMap declaredProperties := by
  have hblank : declaredProperties "" = [] := by decide
  induction scripts with
  | nil => rfl
  | cons first rest ih =>
      cases rest with
      | nil => simp [Script.spaced]
      | cons second rest =>
          rw [Script.lines_at_spaced_cons, List.flatMap_append, List.flatMap_cons, hblank,
            List.nil_append, ih]
          rfl

/-- The declaration of a property is written on one line. -/
theorem property_line_one_line {className : String} (hclass : IsPlainText className)
    (h : column.Worded) : '\n' ∉ (propertyLine className column).toList := by
  simp [propertyLine, (field_type_chars column.nullable column.dataType).2,
    (property_name_plain hclass h).not_mem (c := '\n') (by decide)]

/-- A record declares one property for each column of its table, in order. -/
theorem record_properties (settings : Settings) (h : table.Worded) {space : String}
    (hspace : '\n' ∉ space.toList) :
    declaredProperties (unlines (Script.linesAt settings.indentUnit 0 (recordScript space table))) =
      table.columns.map fun column =>
        (fieldType column.nullable column.dataType, propertyName table.className column) := by
  have hclass : '\n' ∉ ("public class " ++ table.className).toList := by
    simp [h.className.not_mem (c := '\n') (by decide)]
  have hnamespace : '\n' ∉ ("namespace " ++ space).toList := by simp [hspace]
  have hbrace (depth : Nat) {brace : String} (hbrace : brace = "\x7b" ∨ brace = "\x7d") :
      declaredProperties (margin settings.indentUnit depth ++ brace) = [] := by
    rcases hbrace with rfl | rfl <;> rw [declared_properties_line settings depth (by decide)] <;>
      decide
  have himports : (Script.linesAt settings.indentUnit 0 (recordImports table)).flatMap
      declaredProperties = [] := by
    unfold recordImports
    split
    · have hline : '\n' ∉ "using System;".toList := by decide
      have husing := declared_properties_line settings 0 hline
      simp only [Script.linesAt, Command.linesAt, List.singleton_append, List.flatMap_cons, husing]
      decide
    · rfl
  have hproperties : (Script.linesAt settings.indentUnit 2 (Script.spaced (table.columns.map
      fun column => [Command.line (propertyLine table.className column)]))).flatMap
        declaredProperties = table.columns.map fun column =>
          (fieldType column.nullable column.dataType, propertyName table.className column) := by
    rw [declared_properties_spaced, List.flatMap_map, ← List.flatMap_pure_eq_map]
    refine List.flatMap_congr fun column hmem => ?_
    have hcolumn := h.columns column hmem
    simp only [Script.linesAt, Command.linesAt, List.append_nil, List.flatMap_singleton]
    rw [declared_properties_line settings 2 (property_line_one_line h.className hcolumn),
      declared_property_line h.className hcolumn]
    rfl
  rw [declared_properties_unlines, recordScript, Script.lines_at_append, List.flatMap_append,
    himports, List.nil_append]
  simp only [Script.linesAt, Command.linesAt, List.flatMap_append, List.flatMap_cons,
    List.flatMap_nil, List.append_nil, hbrace, Closer.ending, List.nil_append, or_true, true_or,
    declared_properties_line settings _ hclass, declared_properties_line settings _ hnamespace,
    declared_property_class h.className, declared_property_namespace, Option.toList_none,
    hproperties]

/-! ## The initializer of a repository -/

/-- The row opens the method that turns a row of the database into a record. -/
def opensGetCurrent (row : String) : Bool :=
  (behind? "private static " (trimmed row)).isSome &&
    " GetCurrent(DbDataReader reader)".toList.isSuffixOf row.toList

/-- The rows behind the first opening brace. -/
def insideBrace (rows : List String) : List String :=
  (rows.dropWhile (trimmed · != "\x7b")).drop 1

/-- The rows of the initializer in the method that turns a row of the database into a record: they
stand behind the second brace of the method and before the brace with a semicolon. -/
def initializers (source : String) : List String :=
  let method := ((rows source).reverse.takeWhile (!opensGetCurrent ·)).reverse
  (insideBrace (insideBrace method)).takeWhile (trimmed · != "\x7d;")

/-- The entries behind the last one with a property. -/
theorem behind_last {α : Type} {p : α → Bool} {before after : List α} {x : α} (h : p x = true)
    (hafter : ∀ y ∈ after, p y = false) :
    ((before ++ x :: after).reverse.takeWhile (!p ·)).reverse = after := by
  have hkeep : ∀ y ∈ after.reverse, (!p y) = true := by
    intro y hy
    rw [hafter y (List.mem_reverse.1 hy)]
    rfl
  rw [List.reverse_append, List.reverse_cons, List.append_assoc,
    List.takeWhile_append_of_pos hkeep, List.singleton_append,
    List.takeWhile_cons_of_neg (by simp [h]), List.append_nil, List.reverse_reverse]

/-- A line that begins otherwise does not open the method. -/
theorem not_opens_get_current (settings : Settings) (depth : Nat) {text : String}
    (h : behind? "private static " (trimmed text) = none) :
    opensGetCurrent (margin settings.indentUnit depth ++ text) = false := by
  rw [opensGetCurrent, trimmed_append (margin_blank settings depth), h]
  rfl

/-- An assignment to a property does not open the method. -/
theorem assignment_not_private {name : String} (h : IsPlainText name) (rest : String) :
    behind? "private static " (trimmed (name ++ " = " ++ rest)) = none := by
  have htext : name ++ " = " ++ rest = name ++ " " ++ ("=" ++ " " ++ rest) := by
    rw [show " = " = " " ++ "=" ++ " " from rfl]
    simp only [String.append_assoc]
  cases hname : name.toList with
  | nil =>
      -- without a name the blank in front of the equals sign is dropped
      have hempty : name = "" := String.toList_eq_nil_iff.1 hname
      have hblank : IsBlankText " " := List.all_eq_true.1 (by decide)
      rw [htext, hempty, String.empty_append, trimmed_append hblank, trimmed_eq (by simp; decide)]
      exact behind_eq_none (by simp) (by decide)
  | cons c others =>
      have hblank : isBlank c = false := plain_not_blank (h c (by simp [hname]))
      rw [trimmed_eq (by simp [hname, hblank]), Option.eq_none_iff_forall_ne_some]
      intro behind hbehind
      -- the second words differ
      have hsame := congrArg (split " ") (behind_eq_some hbehind)
      have hprivate : "private static " ++ behind =
          "private" ++ " " ++ ("static" ++ " " ++ behind) := by
        rw [show "private static " = "private" ++ " " ++ "static" ++ " " from rfl]
        simp only [String.append_assoc]
      rw [htext, hprivate, split_append blank_mark (by simp) (h.not_mem (by decide)),
        split_append blank_mark (by simp) (by decide),
        split_append blank_mark (by simp) (by decide),
        split_append blank_mark (by simp) (by decide)] at hsame
      simp at hsame

variable {settings : Settings} {statements : Storage.Statements} {record : HostClass}

/-- The last of several scripts comes last. -/
theorem spaced_snoc (scripts : List Script) (last : Script) :
    ∃ before, Script.spaced (scripts ++ [last]) = before ++ last := by
  induction scripts with
  | nil => exact ⟨[], by simp [Script.spaced]⟩
  | cons first rest ih =>
      obtain ⟨before, hbefore⟩ := ih
      refine ⟨first ++ [.blank] ++ before, ?_⟩
      obtain ⟨second, others, hcons⟩ : ∃ second others, rest ++ [last] = second :: others :=
        List.exists_cons_of_ne_nil (by simp)
      rw [Script.spaced, hcons] at hbefore
      rw [List.cons_append, hcons, Script.spaced, List.intersperse_cons_cons, List.flatten_cons,
        List.flatten_cons, hbefore, List.append_assoc, List.append_assoc]

/-- The lines of a script of lines. -/
theorem lines_at_map_line (unit : String) (depth : Nat) (texts : List String) :
    Script.linesAt unit depth (texts.map .line) = texts.map (margin unit depth ++ ·) := by
  induction texts with
  | nil => rfl
  | cons text texts ih =>
      rw [List.map_cons, Script.linesAt, ih, Command.linesAt, List.map_cons, List.singleton_append]

/-- The assignments in the initializer of a repository, with commas between them. -/
def initializerTexts (repository : Repository) : List String :=
  separated "," (repository.statements.table.columns.zipIdx.map fun entry =>
    repository.assignment entry.1 entry.2)

/-- The lines that follow the header of the method that turns a row into a record, up to the end of
the file. -/
def linesBehindHeader (unit : String) (repository : Repository) : List String :=
  [margin unit 2 ++ "\x7b", margin unit 3 ++ ("return new " ++ repository.recordType),
    margin unit 3 ++ "\x7b"] ++ (initializerTexts repository).map (margin unit 4 ++ ·) ++
    [margin unit 3 ++ "\x7d;", margin unit 2 ++ "\x7d", margin unit 1 ++ "\x7d",
      margin unit 0 ++ "\x7d"]

/-- The method that turns a row into a record ends the file of a repository. -/
theorem repository_lines (settings : Settings) (statements : Storage.Statements)
    (record : HostClass) :
    ∃ above, Script.linesAt settings.indentUnit 0 (repositoryScript settings statements record) =
      above ++ (margin settings.indentUnit 2 ++ ("private static " ++
        (sharedOf settings statements record).recordType ++ " GetCurrent(DbDataReader reader)")) ::
          linesBehindHeader settings.indentUnit (sharedOf settings statements record) := by
  obtain ⟨before, hbefore⟩ := spaced_snoc
    (((sharedOf settings statements record).members (record.className ++ settings.repositorySuffix)
      settings.fieldNaming).dropLast) (sharedOf settings statements record).getCurrent
  have hmembers : (sharedOf settings statements record).members
      (record.className ++ settings.repositorySuffix) settings.fieldNaming =
        ((sharedOf settings statements record).members
          (record.className ++ settings.repositorySuffix) settings.fieldNaming).dropLast ++
            [(sharedOf settings statements record).getCurrent] := rfl
  rw [← hmembers] at hbefore
  refine ⟨Script.linesAt settings.indentUnit 0
    (repositoryUsings settings.effectiveRepositoryNamespace record.space) ++
      ["", margin settings.indentUnit 0 ++ ("namespace " ++ settings.effectiveRepositoryNamespace),
        margin settings.indentUnit 0 ++ "\x7b", margin settings.indentUnit 1 ++
          ("public class " ++ (record.className ++ settings.repositorySuffix)),
        margin settings.indentUnit 1 ++ "\x7b"] ++ Script.linesAt settings.indentUnit 2 before, ?_⟩
  rw [repositoryScript, hbefore, Repository.getCurrent]
  simp only [Script.lines_at_append, Script.linesAt, Command.linesAt, Repository.braced,
    lines_at_map_line, linesBehindHeader, initializerTexts, Closer.ending, List.append_assoc,
    List.cons_append, List.nil_append, List.append_nil]

/-- The record type of a repository is written on one line. -/
theorem record_type_one_line (settings : Settings) (statements : Storage.Statements)
    (hclass : IsPlainText record.className) (hspace : '\n' ∉ record.space.toList) :
    '\n' ∉ (sharedOf settings statements record).recordType.toList := by
  have hname : '\n' ∉ record.className.toList := hclass.not_mem (by decide)
  show '\n' ∉ (qualifiedClassName record.space record.className).toList
  unfold qualifiedClassName
  split
  · simp [hspace, hname]
  · exact hname

/-- The expression that reads a column begins with the reader and is written on one line. -/
theorem read_expression_chars (column : Column) (position : Nat) :
    (Repository.readExpression column position).toList.head? = some 'r' ∧
      '\n' ∉ (Repository.readExpression column position).toList := by
  have hmethod : '\n' ∉ (readerMethod column.dataType).toList := by
    cases column.dataType <;> decide
  have htype := (field_type_chars true column.dataType).2
  have hposition := number_one_line position
  unfold Repository.readExpression
  split
  · exact ⟨by simp, by simp [hmethod, htype, hposition]⟩
  · exact ⟨by simp, by simp [hmethod, hposition]⟩

/-- The lines of an initializer are assignments to properties. -/
theorem initializer_text_form (repository : Repository)
    (hclass : IsPlainText repository.recordClass)
    (hcolumns : ∀ column ∈ repository.statements.table.columns, column.Worded) {text : String}
    (h : text ∈ initializerTexts repository) :
    ∃ name rest, IsPlainText name ∧ text = name ++ " = " ++ rest ∧
      rest.toList.head? = some 'r' ∧ '\n' ∉ rest.toList := by
  obtain ⟨item, hitem, htext⟩ := mem_separated h
  obtain ⟨⟨column, position⟩, hentry, rfl⟩ := List.mem_map.1 hitem
  have hcolumn := hcolumns column (List.fst_mem_of_mem_zipIdx hentry)
  obtain ⟨hhead, hone⟩ := read_expression_chars column position
  have hname := property_name_plain hclass hcolumn
  rcases htext with rfl | rfl
  · exact ⟨_, _, hname, rfl, hhead, hone⟩
  · refine ⟨_, Repository.readExpression column position ++ ",", hname, ?_, ?_, ?_⟩
    · rw [Repository.assignment, String.append_assoc]
    · simp [hhead]
    · simp [hone]

/-- The lines behind the header are written on one line each, and none of them opens the method once
more. -/
theorem lines_behind_header_chars (settings : Settings) (hclass : IsPlainText record.className)
    (hcolumns : ∀ column ∈ statements.table.columns, column.Worded)
    (hspace : '\n' ∉ record.space.toList) :
    ∀ line ∈ linesBehindHeader settings.indentUnit (sharedOf settings statements record),
      '\n' ∉ line.toList ∧ opensGetCurrent line = false := by
  have hline {depth : Nat} {text : String} (hone : '\n' ∉ text.toList)
      (hprivate : behind? "private static " (trimmed text) = none) :
      '\n' ∉ (margin settings.indentUnit depth ++ text).toList ∧
        opensGetCurrent (margin settings.indentUnit depth ++ text) = false :=
    ⟨by simp [margin_one_line settings depth, hone], not_opens_get_current settings depth hprivate⟩
  have hbrace (depth : Nat) {brace : String} (hbrace : brace ∈ ["\x7b", "\x7d", "\x7d;"]) :
      '\n' ∉ (margin settings.indentUnit depth ++ brace).toList ∧
        opensGetCurrent (margin settings.indentUnit depth ++ brace) = false := by
    have hall : ∀ brace ∈ ["\x7b", "\x7d", "\x7d;"], '\n' ∉ brace.toList ∧
        behind? "private static " (trimmed brace) = none := by decide
    exact hline (hall brace hbrace).1 (hall brace hbrace).2
  have htype := record_type_one_line settings statements hclass hspace
  intro line hmem
  simp only [linesBehindHeader, List.mem_append, List.mem_cons, List.not_mem_nil, or_false,
    List.mem_map] at hmem
  rcases hmem with ((rfl | rfl | rfl) | ⟨text, htext, rfl⟩) | rfl | rfl | rfl | rfl
  · exact hbrace 2 (by simp)
  · refine hline (by simp [htype]) ?_
    rw [trimmed_eq (by simp; decide)]
    exact behind_eq_none (by simp) (by decide)
  · exact hbrace 3 (by simp)
  · obtain ⟨name, rest, hname, rfl, -, hrest⟩ :=
      initializer_text_form (sharedOf settings statements record) hclass hcolumns htext
    refine hline ?_ (assignment_not_private hname rest)
    simp [hname.not_mem (c := '\n') (by decide), hrest]
  · exact hbrace 3 (by simp)
  · exact hbrace 2 (by simp)
  · exact hbrace 1 (by simp)
  · exact hbrace 0 (by simp)

/-- The initializer is read from the lines behind the header. -/
theorem initializer_of_method (hclass : IsPlainText record.className)
    (hcolumns : ∀ column ∈ statements.table.columns, column.Worded) :
    (insideBrace (insideBrace (linesBehindHeader settings.indentUnit
      (sharedOf settings statements record) ++ [""]))).takeWhile (trimmed · != "\x7d;") =
      (initializerTexts (sharedOf settings statements record)).map
        (margin settings.indentUnit 4 ++ ·) := by
  have hbrace (depth : Nat) {brace : String} (hbrace : brace ∈ ["\x7b", "\x7d;"]) :
      trimmed (margin settings.indentUnit depth ++ brace) = brace := by
    have hall : ∀ brace ∈ ["\x7b", "\x7d;"], trimmed brace = brace := by decide
    rw [trimmed_append (margin_blank settings depth), hall brace hbrace]
  have hreturn : trimmed (margin settings.indentUnit 3 ++
      ("return new " ++ (sharedOf settings statements record).recordType)) ≠ "\x7b" := by
    intro heq
    have hletter : 'r' ∈ (margin settings.indentUnit 3 ++
        ("return new " ++ (sharedOf settings statements record).recordType)).toList := by simp
    have hmem := mem_trimmed hletter (by decide)
    rw [heq] at hmem
    exact absurd hmem (by decide)
  have hkeep : ∀ row ∈ (initializerTexts (sharedOf settings statements record)).map
      (margin settings.indentUnit 4 ++ ·), (trimmed row != "\x7d;") = true := by
    intro row hrow
    obtain ⟨text, htext, rfl⟩ := List.mem_map.1 hrow
    obtain ⟨name, rest, -, rfl, hhead, -⟩ :=
      initializer_text_form (sharedOf settings statements record) hclass hcolumns htext
    rw [bne_iff_ne]
    intro heq
    have hletter : 'r' ∈ (margin settings.indentUnit 4 ++ (name ++ " = " ++ rest)).toList := by
      simp [List.mem_of_mem_head? hhead]
    have hmem := mem_trimmed hletter (by decide)
    rw [heq] at hmem
    exact absurd hmem (by decide)
  have hopen (depth : Nat) (below : List String) :
      insideBrace ((margin settings.indentUnit depth ++ "\x7b") :: below) = below := by
    rw [insideBrace, List.dropWhile_cons_of_neg (by simp [hbrace depth]), List.drop_one,
      List.tail_cons]
  have hskip (below : List String) : insideBrace ((margin settings.indentUnit 3 ++
      ("return new " ++ (sharedOf settings statements record).recordType)) :: below) =
        insideBrace below := by
    rw [insideBrace, List.dropWhile_cons_of_pos (by simpa using hreturn), insideBrace]
  simp only [linesBehindHeader, List.append_assoc, List.cons_append, List.nil_append, hopen, hskip]
  rw [List.takeWhile_append_of_pos hkeep, List.takeWhile_cons_of_neg (by simp [hbrace 3]),
    List.append_nil]

/-- The rows of the initializer are read back from the file of a repository. -/
theorem repository_initializers (settings : Settings) (hclass : IsPlainText record.className)
    (hcolumns : ∀ column ∈ statements.table.columns, column.Worded)
    (hspace : '\n' ∉ record.space.toList) :
    initializers (unlines (Script.linesAt settings.indentUnit 0
      (repositoryScript settings statements record))) =
      (initializerTexts (sharedOf settings statements record)).map
        (margin settings.indentUnit 4 ++ ·) := by
  obtain ⟨above, hlines⟩ := repository_lines settings statements record
  have hbehind := lines_behind_header_chars settings hclass hcolumns hspace
  have htype := record_type_one_line settings statements hclass hspace
  have hheader : '\n' ∉ (margin settings.indentUnit 2 ++ ("private static " ++
      (sharedOf settings statements record).recordType ++
        " GetCurrent(DbDataReader reader)")).toList := by
    simp [margin_one_line settings 2, htype]
  have hopens : opensGetCurrent (margin settings.indentUnit 2 ++ ("private static " ++
      (sharedOf settings statements record).recordType ++
        " GetCurrent(DbDataReader reader)")) = true := by
    rw [opensGetCurrent, trimmed_append (margin_blank settings 2), trimmed_eq (by simp; decide),
      ← String.append_assoc, String.toList_append, String.append_assoc, behind_append,
      Option.isSome_some, Bool.true_and, List.isSuffixOf_iff_suffix]
    exact List.suffix_append _ _
  have hafter : ∀ row ∈ linesBehindHeader settings.indentUnit
      (sharedOf settings statements record) ++ [""], opensGetCurrent row = false := by
    intro row hrow
    rcases List.mem_append.1 hrow with hrow | hrow
    · exact (hbehind row hrow).2
    · rw [List.mem_singleton.1 hrow]
      decide
  have hrows : rows (unlines (Script.linesAt settings.indentUnit 0
      (repositoryScript settings statements record))) = above.flatMap rows ++
        (margin settings.indentUnit 2 ++ ("private static " ++
          (sharedOf settings statements record).recordType ++
            " GetCurrent(DbDataReader reader)")) ::
          (linesBehindHeader settings.indentUnit (sharedOf settings statements record) ++
            [""]) := by
    rw [← String.append_empty (s := unlines _), rows_unlines_append, hlines, List.flatMap_append,
      List.flatMap_cons, rows_single hheader, rows_unlines fun line hmem => (hbehind line hmem).1,
      List.append_assoc, List.append_assoc, rows_single (by decide), List.singleton_append]
  rw [initializers, hrows, behind_last hopens hafter]
  exact initializer_of_method hclass hcolumns

end Host

end Schemata
