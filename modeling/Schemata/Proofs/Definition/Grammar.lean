import Mathlib.Data.List.Forall2
import Schemata.Definition.Parse

/-!
# The grammar of definition texts

A definition text is a sequence of table declarations, and a table declaration is a header and a
body with column declarations. `File declarations tokens` says that the tokens derive the
declarations. The grammar allows more than the language does: `ColumnDeclaration.Sound` says which
column declarations make sense. `ColumnDeclaration.Denotes` and `TableDeclaration.Denotes` give the
columns and the tables that declarations stand for.

Items may be repeated. Where they contradict each other the last one counts, and a column has a
property as soon as one item gives it.
-/

namespace Schemata.Definition

/-- An item of a column declaration: a data type, a modifier, or a maximum length. -/
inductive Item where
  | dataType (type : DataType)
  | primaryKey
  | null
  | unique
  | autoGenerate
  | foreignKey (table column : String)
  | default (value : String)
  | length (text : String)
  deriving DecidableEq, Repr

/-- `item.Derives tokens` says that the tokens derive the item. A maximum length is a bracketed
value or a name made of digits. -/
inductive Item.Derives : Item → List Token → Prop where
  | dataType (type : DataType) : Derives (.dataType type) [.dataType type]
  | primaryKey : Derives .primaryKey [.primaryKey]
  | null : Derives .null [.null]
  | unique : Derives .unique [.unique]
  | autoGenerate : Derives .autoGenerate [.autoGenerate]
  | foreignKey (table column : String) :
      Derives (.foreignKey table column) [.foreignKey, .reference table column]
  | default (value : String) : Derives (.default value) [.default, .value value]
  | lengthValue (text : String) : Derives (.length text) [.value text]
  | lengthName (text : String) :
      text.toList.all Char.isDigit = true → Derives (.length text) [.name text]

/-- `Items items tokens` says that the tokens derive the items one after the other. -/
inductive Items : List Item → List Token → Prop where
  | nil : Items [] []
  | snoc {items : List Item} {item : Item} {tokens lexemes : List Token} :
      Items items tokens → item.Derives lexemes → Items (items ++ [item]) (tokens ++ lexemes)

/-- A column as it is declared. -/
structure ColumnDeclaration where
  name : String
  items : List Item
  deriving DecidableEq, Repr

/-- A column declaration is a name and items. -/
inductive ColumnDeclaration.Derives : ColumnDeclaration → List Token → Prop where
  | intro {name : String} {items : List Item} {tokens : List Token} :
      Items items tokens → Derives ⟨name, items⟩ (.name name :: tokens)

/-- The tokens are commas and line breaks. -/
def Separators (tokens : List Token) : Prop :=
  ∀ token ∈ tokens, token = .comma ∨ token = .newLine

/-- `Columns columns tokens` says that the tokens derive one or more columns with separators between
any two of them. -/
inductive Columns : List ColumnDeclaration → List Token → Prop where
  | single {column : ColumnDeclaration} {tokens : List Token} :
      column.Derives tokens → Columns [column] tokens
  | snoc {columns : List ColumnDeclaration} {column : ColumnDeclaration}
      {tokens separators lexemes : List Token} :
      Columns columns tokens → Separators separators → separators ≠ [] →
      column.Derives lexemes → Columns (columns ++ [column]) (tokens ++ separators ++ lexemes)

/-- The inside of the braces of a table: separators, and possibly columns and more separators. -/
inductive Body : List ColumnDeclaration → List Token → Prop where
  | empty {separators : List Token} : Separators separators → Body [] separators
  | columns {columns : List ColumnDeclaration} {before tokens after : List Token} :
      Separators before → Columns columns tokens → Separators after →
      Body columns (before ++ tokens ++ after)

/-- A table as it is declared. The schema is missing if the header is a plain name. -/
structure TableDeclaration where
  schema : Option String
  name : String
  columns : List ColumnDeclaration
  deriving DecidableEq, Repr

/-- The token of a table header. -/
def headerToken : Option String → String → Token
  | none, name => .name name
  | some schema, name => .reference schema name

/-- The tokens are line breaks. -/
def LineBreaks (tokens : List Token) : Prop :=
  ∀ token ∈ tokens, token = .newLine

/-- A table declaration is a header, possibly line breaks, and a body in braces. -/
inductive TableDeclaration.Derives : TableDeclaration → List Token → Prop where
  | intro {schema : Option String} {name : String} {columns : List ColumnDeclaration}
      {lines tokens : List Token} :
      LineBreaks lines → Body columns tokens →
      Derives ⟨schema, name, columns⟩
        (headerToken schema name :: lines ++ .openTable :: tokens ++ [.closeTable])

/-- `File declarations tokens` says that the tokens derive the table declarations, with separators
before, between and after them. -/
inductive File : List TableDeclaration → List Token → Prop where
  | separators {separators : List Token} : Separators separators → File [] separators
  | snoc {declarations : List TableDeclaration} {declaration : TableDeclaration}
      {tokens lexemes separators : List Token} :
      File declarations tokens → declaration.Derives lexemes → Separators separators →
      File (declarations ++ [declaration]) (tokens ++ lexemes ++ separators)

/-! ## What declarations mean -/

namespace Item

/-- The data type that an item gives. -/
def type? : Item → Option DataType
  | dataType type => some type
  | _ => none

/-- The table and column to which an item refers. -/
def key? : Item → Option (String × String)
  | foreignKey table column => some (table, column)
  | _ => none

/-- The default value that an item gives. -/
def default? : Item → Option String
  | default value => some value
  | _ => none

/-- The text of the maximum length that an item gives. -/
def length? : Item → Option String
  | length text => some text
  | _ => none

end Item

/-- The last of the values that the items give. -/
def lastOf {α : Type} (pick : Item → Option α) (items : List Item) : Option α :=
  (items.filterMap pick).getLast?

/-- The text is an unsigned number of 32 bits: digits with an optional plus sign in front. -/
def IsLength (text : String) : Prop :=
  ∃ digits, (text.toList = digits ∨ text.toList = '+' :: digits) ∧ digits ≠ [] ∧
    (∀ c ∈ digits, c.isDigit = true) ∧ Literal.digitsValue digits ≤ 4294967295

/-- The items do not contradict each other as far as they can be judged one after the other: a
maximum length follows a data type, the latest of which is a string, an automatically generated
column was made the primary key before, and a primary key is neither a foreign key nor nullable. -/
structure Readable (items : List Item) : Prop where
  length {before after : List Item} {text : String} :
    items = before ++ .length text :: after →
      lastOf Item.type? before = some .string ∧ IsLength text
  autoGenerate {before after : List Item} :
    items = before ++ .autoGenerate :: after → .primaryKey ∈ before
  foreignKey {table column : String} : .primaryKey ∈ items → .foreignKey table column ∉ items
  null : .primaryKey ∈ items → .null ∉ items

/-- The declaration describes a column: its items do not contradict each other, one of them is a
data type, and an automatically generated column has no default value. -/
structure ColumnDeclaration.Sound (declaration : ColumnDeclaration) : Prop
    extends Readable declaration.items where
  dataType : ∃ type, .dataType type ∈ declaration.items
  default {value : String} :
    .autoGenerate ∈ declaration.items → .default value ∉ declaration.items

/-- The modifiers that items stand for, where foreign keys point into the given schema. -/
def modifiersOf (schema : String) (items : List Item) : Modifiers where
  defaultValue := lastOf Item.default? items
  primaryKey := .primaryKey ∈ items
  autoGenerate := .autoGenerate ∈ items
  nullable := .null ∈ items
  unique := .unique ∈ items
  foreignKey := (lastOf Item.key? items).map fun key => .ofNames schema key.1 key.2
  maxLength := (lastOf Item.length? items).bind (Literal.unsigned? 32)

/-- `declaration.Denotes schema column` says that `column` is the column that is declared. Its three
names are spelled from the declared one and its data type is the last one given. -/
structure ColumnDeclaration.Denotes (schema : String) (declaration : ColumnDeclaration)
    (column : Column) : Prop where
  name : column.name = storageName declaration.name
  pascalName : column.pascalName = Schemata.pascalName declaration.name
  camelName : column.camelName = Schemata.camelName declaration.name
  dataType : lastOf Item.type? declaration.items = some column.dataType
  modifiers : column.toModifiers = modifiersOf schema declaration.items

/-- `declaration.Denotes defaultSchema table` says that `table` is the table that is declared. The
names are put in storage spelling twice, and the name of the class is spelled from the name put in
storage spelling once. -/
structure TableDeclaration.Denotes (defaultSchema : String) (declaration : TableDeclaration)
    (table : Table) : Prop where
  schema : table.schema = storageName (storageName (declaration.schema.getD defaultSchema))
  name : table.name = storageName (storageName declaration.name)
  className : table.className = pascalName (storageName declaration.name)
  columns :
    List.Forall₂ (ColumnDeclaration.Denotes defaultSchema) declaration.columns table.columns

end Schemata.Definition
