import Schemata.Proofs.Host.Parameters
import Schemata.Proofs.Host.Properties
import Schemata.Proofs.Text.Letters

/-!
# How identifiers begin

Identifiers are spelled from names, and a name is any run of letters, numerals, hyphens and
underscores. A host spelling drops the hyphens and underscores and keeps the rest in order, so it
begins with a letter exactly if the first letter or numeral of the name is a letter. What is done to
a name on the way to an identifier changes nothing about that. So all identifiers of a bundle begin
with a letter exactly if this is so for the names of the table and its columns, by
`identifiers_begin_iff`.
-/

namespace Schemata

open Text

/-- The text is not empty, and its first character is a letter. -/
def BeginsWithLetter (text : String) : Prop :=
  text.toList.head?.any isAlphabetic = true

instance : DecidablePred BeginsWithLetter := fun text =>
  inferInstanceAs (Decidable (text.toList.head?.any isAlphabetic = true))

/-- The text has a letter or numeral, and the first of them is a letter. -/
def HasLetterFirst (text : String) : Prop :=
  (text.toList.find? isAlphanumeric).any isAlphabetic = true

instance : DecidablePred HasLetterFirst := fun text =>
  inferInstanceAs (Decidable ((text.toList.find? isAlphanumeric).any isAlphabetic = true))

/-! ## Spellings -/

/-- Letters are among the letters and numerals. -/
theorem alphabetic_alphanumeric {c : Char} (h : isAlphabetic c = true) :
    isAlphanumeric c = true := by
  rw [isAlphanumeric, h, Bool.true_or]

/-- The lower-case form of a capital begins with a letter, as the capital does. -/
theorem find_lower {c : Char} (h : isUppercase c = true) (tail rest : List Char) :
    ((lower c ++ tail).find? isAlphanumeric).any isAlphabetic =
      ((c :: rest).find? isAlphanumeric).any isAlphabetic := by
  have hletter := uppercase_alphabetic h
  obtain ⟨first, others, hlower, hfirst⟩ := lower_letter hletter
  rw [hlower, List.cons_append, List.find?_cons, alphabetic_alphanumeric hfirst, List.find?_cons,
    alphabetic_alphanumeric hletter]
  exact hfirst.trans hletter.symm

/-- The storage spelling of the characters behind the first keeps whether a letter comes first. -/
theorem find_storage_inner (text : List Char) :
    ((text.flatMap storageInner).find? isAlphanumeric).any isAlphabetic =
      (text.find? isAlphanumeric).any isAlphabetic := by
  induction text with
  | nil => rfl
  | cons c rest ih =>
      rw [List.flatMap_cons, storageInner]
      split
      · next hupper =>
          have hjoin : isAlphanumeric '_' = false := by decide
          rw [List.cons_append, List.find?_cons, hjoin]
          exact find_lower hupper _ rest
      · rw [List.singleton_append, List.find?_cons, List.find?_cons]
        split
        · rfl
        · exact ih

/-- The storage name of a name has a letter first exactly if the name does. -/
theorem storage_name_letter_iff {name : String} :
    HasLetterFirst (storageName name) ↔ HasLetterFirst name := by
  rw [HasLetterFirst, HasLetterFirst, storageName, String.toList_ofList]
  cases name.toList with
  | nil => rfl
  | cons c rest =>
      rw [storageChars, storageFirst]
      split
      · next hupper => rw [find_lower hupper _ rest]
      · rw [List.singleton_append, List.find?_cons, List.find?_cons]
        split
        · rfl
        · rw [find_storage_inner]

section

variable {initial : Char → List Char}
  (hinitial : ∀ {c}, isAlphabetic c = true →
    ∃ first rest, initial c = first :: rest ∧ isAlphabetic first = true)

include hinitial

/-- A host spelling is empty if there are no letters and numerals, and else it begins with a letter
or numeral, which is a letter exactly if the first of them is. -/
theorem host_chars_cases (opensWord : Bool) (text : List Char) :
    (hostChars initial false opensWord text = [] ∧ text.find? isAlphanumeric = none) ∨
      ∃ first rest c, hostChars initial false opensWord text = first :: rest ∧
        text.find? isAlphanumeric = some c ∧ isAlphanumeric first = true ∧
        isAlphabetic first = isAlphabetic c := by
  induction text generalizing opensWord with
  | nil => exact .inl ⟨rfl, rfl⟩
  | cons c rest ih =>
      rw [hostChars, List.find?_cons]
      cases hletter : isAlphabetic c with
      | true =>
          obtain ⟨first, others, hform, hfirst⟩ := hinitial hletter
          rw [alphabetic_alphanumeric hletter, Bool.not_false, Bool.true_and, if_pos rfl, hform]
          exact .inr ⟨first, _, c, rfl, rfl, alphabetic_alphanumeric hfirst,
            hfirst.trans hletter.symm⟩
      | false =>
          cases hnumeral : isAlphanumeric c with
          | true =>
              -- a numeral is its own form, so it stays as it is where it opens a word
              have hform : (if opensWord then upper c else [c]) = [c] := by
                rw [upper_of_not_letter hletter, ite_self]
              rw [Bool.and_false, if_neg Bool.false_ne_true, if_pos rfl, hform]
              exact .inr ⟨c, _, c, rfl, rfl, hnumeral, rfl⟩
          | false => exact ih (c == '_')

/-- A host spelling begins with a letter exactly if the first letter or numeral is a letter. -/
theorem host_chars_head (opensWord : Bool) (text : List Char) :
    (hostChars initial false opensWord text).head?.any isAlphabetic =
      (text.find? isAlphanumeric).any isAlphabetic := by
  rcases host_chars_cases hinitial opensWord text with ⟨hempty, hnone⟩ | hfound
  · rw [hempty, hnone]
    rfl
  · obtain ⟨first, rest, c, hchars, hfind, -, hsame⟩ := hfound
    rw [hchars, hfind]
    exact hsame

/-- The first letter or numeral of a host spelling is its first character. -/
theorem host_chars_find (opensWord : Bool) (text : List Char) :
    ((hostChars initial false opensWord text).find? isAlphanumeric).any isAlphabetic =
      (text.find? isAlphanumeric).any isAlphabetic := by
  rcases host_chars_cases hinitial opensWord text with ⟨hempty, hnone⟩ | hfound
  · rw [hempty, hnone]
    rfl
  · obtain ⟨first, rest, c, hchars, hfind, hnumeral, hsame⟩ := hfound
    rw [hchars, hfind, List.find?_cons, hnumeral]
    exact hsame

end

/-- A Pascal name begins with a letter exactly if the name has a letter first. -/
theorem pascal_name_begins_iff {name : String} :
    BeginsWithLetter (pascalName name) ↔ HasLetterFirst name := by
  rw [BeginsWithLetter, HasLetterFirst, pascalName, String.toList_ofList,
    host_chars_head upper_letter]

/-- A camel name begins with a letter exactly if the name has a letter first. -/
theorem camel_name_begins_iff {name : String} :
    BeginsWithLetter (camelName name) ↔ HasLetterFirst name := by
  rw [BeginsWithLetter, HasLetterFirst, camelName, String.toList_ofList,
    host_chars_head lower_letter]

/-- A Pascal name has a letter first exactly if the name does. -/
theorem pascal_name_letter_iff {name : String} :
    HasLetterFirst (pascalName name) ↔ HasLetterFirst name := by
  rw [HasLetterFirst, HasLetterFirst, pascalName, String.toList_ofList,
    host_chars_find upper_letter]

/-! ## Identifiers -/

/-- The identifier without the at sign with which it can begin. -/
def unescaped (identifier : String) : String :=
  match identifier.toList with
  | '@' :: rest => String.ofList rest
  | _ => identifier

/-- Something behind a text that is not empty keeps how it begins. -/
theorem begins_append_iff {text : String} (h : text ≠ "") (tail : String) :
    BeginsWithLetter (text ++ tail) ↔ BeginsWithLetter text := by
  have htext : text.toList ≠ [] := fun hnil => h (String.toList_eq_nil_iff.1 hnil)
  rw [BeginsWithLetter, BeginsWithLetter, String.toList_append, List.head?_append_of_ne_nil _ htext]

/-- A name without at signs is unescaped. -/
theorem unescaped_eq {name : String} (h : '@' ∉ name.toList) : unescaped name = name := by
  unfold unescaped
  split
  · next hname => simp [hname] at h
  · rfl

namespace Host

/-- An argument begins with a letter exactly if its name does. -/
theorem argument_begins_iff {name : String} (h : '@' ∉ name.toList) :
    BeginsWithLetter (unescaped (argumentName name)) ↔ BeginsWithLetter name := by
  have hnames : ∀ used ∈ repositoryNames,
      BeginsWithLetter used ∧ BeginsWithLetter (unescaped (used ++ "Value")) := by decide
  unfold argumentName escapeIdentifier
  split
  · next hused => exact iff_of_true (hnames name hused).2 (hnames name hused).1
  · split
    · rw [unescaped, String.toList_append]
      exact iff_of_eq (congrArg _ (String.ofList_toList))
    · rw [unescaped_eq h]

/-- A property begins with a letter exactly if the Pascal name of its column does, in a class with a
name. -/
theorem property_begins_iff {className : String} (h : className ≠ "") (column : Column) :
    BeginsWithLetter (propertyName className column) ↔ BeginsWithLetter column.pascalName := by
  unfold propertyName
  split
  · next hsame => rw [hsame, begins_append_iff h]
  · rfl

/-! ## Identifiers in the generated classes -/

/-- The lines of a command of a script are lines of the script. -/
theorem lines_at_of_mem {unit row : String} {depth : Nat} {command : Command} {script : Script}
    (hcommand : command ∈ script) (hrow : row ∈ command.linesAt unit depth) :
    row ∈ Script.linesAt unit depth script := by
  obtain ⟨before, after, rfl⟩ := List.append_of_mem hcommand
  rw [Script.lines_at_append, Script.linesAt]
  exact List.mem_append_right _ (List.mem_append_left _ hrow)

/-- The header of each method stands on a line of the file of a repository. -/
theorem header_row (settings : Settings) (statements : Storage.Statements) (record : HostClass)
    {header : String} {member body : Script} (hmember : member = [Repository.braced header body])
    (h : member ∈ (sharedOf settings statements record).members
      (record.className ++ settings.repositorySuffix) settings.fieldNaming) :
    margin settings.indentUnit 2 ++ header ∈
      Script.linesAt settings.indentUnit 0 (repositoryScript settings statements record) := by
  subst hmember
  -- the method stands in the class, the class in the namespace, and the namespace in the file
  have hblock {unit row : String} {depth : Nat} {header : String} {body : Script}
      (hrow : row ∈ Script.linesAt unit (depth + 1) body) :
      row ∈ (Repository.braced header body).linesAt unit depth := by
    rw [Repository.braced, Command.linesAt]
    exact List.mem_append_left _ (List.mem_append_right _ hrow)
  have hheader : margin settings.indentUnit 2 ++ header ∈
      (Repository.braced header body).linesAt settings.indentUnit 2 := by
    rw [Repository.braced, Command.linesAt]
    exact List.mem_cons_self
  have hclass := lines_at_of_mem (mem_spaced h (List.mem_singleton_self _)) hheader
  exact lines_at_of_mem (List.mem_append_right _ (.tail _ (.head _)))
    (hblock (lines_at_of_mem (List.mem_singleton_self _) (hblock hclass)))

/-- The headers of the methods that take a key or a record, with their arguments. -/
def argumentHeaders (recordType : String) (key : Column) (keyArgument recordArgument : String) :
    List String :=
  ["public async Task<" ++ recordType ++ "> Get(" ++
      (typeName key.dataType ++ " " ++ keyArgument) ++ ")",
    "public async Task<bool> Delete(" ++ (typeName key.dataType ++ " " ++ keyArgument) ++ ")",
    persistHeader recordType "Create" recordArgument,
    persistHeader recordType "Update" recordArgument]

/-- The methods of a repository have these headers. -/
theorem argument_header_rows (settings : Settings) {statements : Storage.Statements}
    (record : HostClass) {key : Column} (hkey : statements.table.requirePrimaryKey = .ok key) :
    ∀ header ∈ argumentHeaders (qualifiedClassName record.space record.className) key
        (argumentName key.camelName) (argumentName (camelName record.className)),
      margin settings.indentUnit 2 ++ header ∈
        Script.linesAt settings.indentUnit 0 (repositoryScript settings statements record) := by
  have hshared : (sharedOf settings statements record).key = .ok key := lift_eq_ok_iff.2 hkey
  have hget := header_row settings statements record (get_eq hshared) (by simp [Repository.members])
  have hdelete :=
    header_row settings statements record (delete_eq hshared) (by simp [Repository.members])
  have hpersist (method : String) (statement : Storage.Statement) :
      (sharedOf settings statements record).persist method statement =
        [Repository.braced (persistHeader (qualifiedClassName record.space record.className) method
          (argumentName (camelName record.className))) _] := rfl
  intro header hheader
  simp only [argumentHeaders, List.mem_cons, List.not_mem_nil, or_false] at hheader
  rcases hheader with rfl | rfl | rfl | rfl
  · exact hget
  · exact hdelete
  · exact header_row settings statements record (hpersist "Create" statements.insert)
      (by simp [Repository.members, sharedOf])
  · exact header_row settings statements record (hpersist "Update" statements.update)
      (by simp [Repository.members, sharedOf])

/-- The identifiers of the generated classes of a table. -/
structure Identifiers where
  className : String
  properties : List String
  keyArgument : String
  recordArgument : String

/-- All identifiers, without at signs. -/
def Identifiers.all (identifiers : Identifiers) : List String :=
  identifiers.className :: unescaped identifiers.keyArgument ::
    unescaped identifiers.recordArgument :: identifiers.properties

end Host

open Host

/-- `bundle.Names settings key identifiers` says that these are the identifiers in the classes of
the bundle: the record class is declared under its name, the properties stand in both classes, and
the headers of the methods hold the arguments. -/
structure Bundle.Names (settings : Settings) (bundle : Bundle) (key : Column)
    (identifiers : Identifiers) : Prop where
  className : bundle.record.className = identifiers.className
  declaration : ∃ rows, bundle.record.source = unlines rows ∧
    margin settings.indentUnit 1 ++ ("public class " ++ identifiers.className) ∈ rows
  properties : bundle.statements.table.NamesProperties identifiers.properties
  arguments : ∃ rows, bundle.repository.source = unlines rows ∧
    ∀ header ∈ argumentHeaders (qualifiedClassName settings.classNamespace identifiers.className)
        key identifiers.keyArgument identifiers.recordArgument,
      margin settings.indentUnit 2 ++ header ∈ rows

namespace Host

/-- The identifiers of a table with the given key. -/
def identifiersOf (table : Table) (key : Column) : Identifiers where
  className := table.className
  properties := table.columns.map (propertyName table.className)
  keyArgument := argumentName key.camelName
  recordArgument := argumentName (camelName table.className)

/-- A record declares its class. -/
theorem class_row (unit space : String) (table : Table) :
    margin unit 1 ++ ("public class " ++ table.className) ∈
      Script.linesAt unit 0 (recordScript space table) := by
  simp [recordScript, Script.lines_at_append, Script.linesAt, Command.linesAt]

/-- The classes of a bundle hold the identifiers of its table. -/
theorem names_identifiers {settings : Settings} {table : Table} {bundle : Bundle}
    (h : Bundle.ofTable settings table = .ok bundle) {key : Column}
    (hkey : table.requirePrimaryKey = .ok key) :
    bundle.Names settings key (identifiersOf table key) := by
  obtain ⟨hrecord, hrepository⟩ := bundle_classes h
  obtain ⟨rfl, -, -, -⟩ := bundle_of_table h
  have hclass : bundle.record.className = bundle.statements.table.className := by rw [hrecord]
  have hspace : bundle.record.space = settings.classNamespace := by rw [hrecord]
  have hrows := argument_header_rows settings bundle.record hkey
  rw [hclass, hspace] at hrows
  exact ⟨hclass, ⟨_, by rw [hrecord], class_row _ _ _⟩, names_properties _,
    ⟨_, by rw [hrepository], hrows⟩⟩

/-! ## Identifiers of parsed tables -/

/-- The class of a parsed table begins with a letter exactly if the name of the table has one
first. -/
theorem class_name_begins_iff {schema text : String} {tables : List Table}
    (h : Definition.parse schema text = .ok tables) {table : Table} (htable : table ∈ tables) :
    BeginsWithLetter table.className ↔ HasLetterFirst table.name := by
  obtain ⟨declaration, hdenotes, -⟩ := Definition.parsed_declaration h htable
  rw [hdenotes.name, storage_name_letter_iff, hdenotes.className, pascal_name_begins_iff]

/-- The record argument of a class begins with a letter exactly if the class does. -/
theorem record_argument_begins_iff {schema text : String} {tables : List Table}
    (h : Definition.parse schema text = .ok tables) {table : Table} (htable : table ∈ tables) :
    BeginsWithLetter (unescaped (argumentName (camelName table.className))) ↔
      BeginsWithLetter table.className := by
  obtain ⟨declaration, hdenotes, -⟩ := Definition.parsed_declaration h htable
  have hat : '@' ∉ (camelName table.className).toList := fun hmem =>
    absurd (camel_name_plain hmem) (by decide)
  rw [argument_begins_iff hat, camel_name_begins_iff, hdenotes.className, pascal_name_letter_iff,
    pascal_name_begins_iff]

/-- The host names of a parsed column begin with a letter exactly if the name of the column has one
first. -/
theorem column_names_begin_iff {schema text : String} {tables : List Table}
    (h : Definition.parse schema text = .ok tables) {table : Table} (htable : table ∈ tables)
    {column : Column} (hcolumn : column ∈ table.columns) :
    (BeginsWithLetter column.pascalName ↔ HasLetterFirst column.name) ∧
      (BeginsWithLetter (unescaped (argumentName column.camelName)) ↔
        HasLetterFirst column.name) := by
  obtain ⟨declaration, hdenotes, -⟩ := Definition.parsed_declaration h htable
  obtain ⟨declared, -, hcolumn⟩ := forall_mem_right hdenotes.columns hcolumn
  have hat : '@' ∉ column.camelName.toList := fun hmem => by
    rw [hcolumn.camelName] at hmem
    exact absurd (camel_name_plain hmem) (by decide)
  rw [argument_begins_iff hat, hcolumn.pascalName, hcolumn.camelName, hcolumn.name,
    pascal_name_begins_iff, camel_name_begins_iff, storage_name_letter_iff]
  exact ⟨Iff.rfl, Iff.rfl⟩

/-- In the classes of every bundle, the class and the record argument begin with a letter exactly if
the name of the table has a letter first, the key argument exactly if the name of the key does, and,
unless the class has no name at all, each property exactly if the name of its column does. So all
identifiers begin with a letter exactly if the names of the table and its columns have one first. -/
theorem identifiers_begin_iff {settings : Settings} {texts : List String} {bundles : List Bundle}
    (h : generate settings texts = .ok bundles) {bundle : Bundle} (hbundle : bundle ∈ bundles) :
    let table := bundle.statements.table
    ∃ key identifiers, table.requirePrimaryKey = .ok key ∧
      bundle.Names settings key identifiers ∧
      (BeginsWithLetter identifiers.className ↔ HasLetterFirst table.name) ∧
      (BeginsWithLetter (unescaped identifiers.recordArgument) ↔ HasLetterFirst table.name) ∧
      (BeginsWithLetter (unescaped identifiers.keyArgument) ↔ HasLetterFirst key.name) ∧
      (identifiers.className ≠ "" → List.Forall₂
        (fun column property => BeginsWithLetter property ↔ HasLetterFirst column.name)
        table.columns identifiers.properties) ∧
      ((∀ identifier ∈ identifiers.all, BeginsWithLetter identifier) ↔
        HasLetterFirst table.name ∧ ∀ column ∈ table.columns, HasLetterFirst column.name) := by
  obtain ⟨text, -, tables, hparse, table, htable, hok⟩ := generate_ok h hbundle
  have hstatements := (bundle_of_table hok).1
  obtain ⟨key, hkey, -⟩ := parameters_of_columns (bundle_of_table hok).2.1
  rw [hstatements] at hkey
  intro parsed
  rw [show parsed = table from hstatements]
  have hclass := class_name_begins_iff hparse htable
  have hargument := record_argument_begins_iff hparse htable
  have hcolumns {column : Column} (hcolumn : column ∈ table.columns) :=
    column_names_begin_iff hparse htable hcolumn
  have hmember := (primary_key_mem hkey).1
  have hproperty (hname : table.className ≠ "") {column : Column}
      (hcolumn : column ∈ table.columns) :
      BeginsWithLetter (propertyName table.className column) ↔ HasLetterFirst column.name :=
    (property_begins_iff hname column).trans (hcolumns hcolumn).1
  refine ⟨key, identifiersOf table key, hkey, names_identifiers hok hkey, hclass,
    hargument.trans hclass, (hcolumns hmember).2, fun hname => ?_, ?_⟩
  · rw [identifiersOf, List.forall₂_map_right_iff, List.forall₂_same]
    exact fun column hcolumn => hproperty hname hcolumn
  · have hname : BeginsWithLetter table.className → table.className ≠ "" := by
      rintro hbegins hempty
      rw [hempty] at hbegins
      exact absurd hbegins (by decide)
    simp only [Identifiers.all, identifiersOf, List.forall_mem_cons, List.forall_mem_map]
    constructor
    · rintro ⟨hfirst, -, -, hproperties⟩
      exact ⟨hclass.1 hfirst, fun column hcolumn =>
        (hproperty (hname hfirst) hcolumn).1 (hproperties column hcolumn)⟩
    · rintro ⟨htable, hall⟩
      have hfirst := hclass.2 htable
      exact ⟨hfirst, (hcolumns hmember).2.2 (hall key hmember), hargument.2 hfirst,
        fun column hcolumn => (hproperty (hname hfirst) hcolumn).2 (hall column hcolumn)⟩

/-- A table in whose classes all identifiers begin with a letter but the property of one column. -/
theorem one_property_without_letter :
    ∃ bundles, generate {} ["connection \x7b _class guid pk, 1st string null \x7d"] = .ok bundles ∧
      ∃ bundle ∈ bundles, ∃ key identifiers, bundle.Names {} key identifiers ∧
        BeginsWithLetter identifiers.className ∧
        BeginsWithLetter (unescaped identifiers.recordArgument) ∧
        BeginsWithLetter (unescaped identifiers.keyArgument) ∧
        ¬ ∀ identifier ∈ identifiers.all, BeginsWithLetter identifier := by
  have hsome : ∃ bundles,
      generate {} ["connection \x7b _class guid pk, 1st string null \x7d"] = .ok bundles ∧
      ∃ bundle ∈ bundles, HasLetterFirst bundle.statements.table.name ∧
        (∀ column ∈ bundle.statements.table.columns,
          column.primaryKey = true → HasLetterFirst column.name) ∧
        ∃ column ∈ bundle.statements.table.columns, ¬ HasLetterFirst column.name :=
    exists_eq_ok (by decide +kernel)
  obtain ⟨bundles, hok, bundle, hmem, htable, hkeys, column, hcolumn, hnone⟩ := hsome
  obtain ⟨key, identifiers, hkey, hnames, hclass, hrecord, hargument, -, hall⟩ :=
    identifiers_begin_iff hok hmem
  obtain ⟨hmember, hprimary⟩ := primary_key_mem hkey
  refine ⟨bundles, hok, bundle, hmem, key, identifiers, hnames, hclass.2 htable, hrecord.2 htable,
    hargument.2 (hkeys key hmember hprimary), fun hbegin => ?_⟩
  exact hnone ((hall.1 hbegin).2 column hcolumn)

/-- A table and a column whose names have a numeral first, and a table and a column whose names have
neither letters nor numerals: the class of the first one begins with a numeral, as its property
does, and the class of the second one has no name at all. -/
theorem class_without_letter :
    ∃ bundles, generate {} ["1t \x7b 2 int pk \x7d", "- \x7b - int pk \x7d"] = .ok bundles ∧
      bundles.map (·.record.className) = ["1T", ""] ∧
      bundles.map (fun bundle => declaredProperties bundle.record.source) =
        [[("int", "2")], [("int", "Value")]] ∧
      ∀ bundle ∈ bundles, ¬ BeginsWithLetter bundle.record.className :=
  exists_eq_ok (by decide +kernel)

end Host

end Schemata
