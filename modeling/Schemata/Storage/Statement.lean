import Schemata.Table

/-!
# Statements with parameters

The statements that read and change the rows of a table. A parameter is written as an at sign and
the camel name of its column, and a statement lists the parameters it binds in the order in which
they are bound.
-/

namespace Schemata.Storage

/-- The text of a statement and the parameters it binds, in order. -/
structure Statement where
  sql : String
  parameters : List String
  deriving DecidableEq, Repr

/-- The names of columns, separated by commas. -/
def columnList (columns : List Column) : String :=
  ", ".intercalate (columns.map (·.name))

/-- The place that a parameter takes in a statement. -/
def placeholder (column : Column) : String :=
  "@" ++ column.camelName

/-- A column set to or compared with its parameter. -/
def binding (column : Column) : String :=
  column.name ++ " = " ++ placeholder column

/-- The selection of all columns, without the end of the statement. -/
def selection (table : Table) : String :=
  "SELECT " ++ columnList table.columns ++ " FROM " ++ table.qualifiedName

/-- Selects all rows. -/
def selectAll (table : Table) : String :=
  selection table ++ ";"

/-- Selects the row with the given key. -/
def selectByKey (table : Table) : Except SemanticError Statement := do
  let key ← table.requirePrimaryKey
  pure ⟨selection table ++ " WHERE " ++ binding key ++ ";", [key.camelName]⟩

/-- Deletes the row with the given key. -/
def deleteByKey (table : Table) : Except SemanticError Statement := do
  let key ← table.requirePrimaryKey
  pure ⟨"DELETE FROM " ++ table.qualifiedName ++ " WHERE " ++ binding key ++ ";", [key.camelName]⟩

/-- The columns whose values an insertion supplies. The database generates the others. -/
def suppliedColumns (table : Table) : List Column :=
  table.columns.filter (!·.autoGenerate)

/-- What an insertion inserts. -/
def insertedValues (table : Table) : String :=
  match suppliedColumns table with
  | [] => " DEFAULT VALUES"
  | supplied =>
    " (" ++ columnList supplied ++ ")\nVALUES (" ++ ", ".intercalate (supplied.map placeholder)
      ++ ")"

/-- Inserts a row and returns all of its columns. -/
def insert (table : Table) : Except SemanticError Statement := do
  let _ ← table.primaryKey?
  pure ⟨"INSERT INTO " ++ table.qualifiedName ++ insertedValues table ++ "\nRETURNING "
    ++ columnList table.columns ++ ";", (suppliedColumns table).map (·.camelName)⟩

/-- The columns that an update changes. -/
def changedColumns (table : Table) : List Column :=
  table.columns.filter (!·.primaryKey)

/-- The assignments of an update. There has to be at least one, so a table of which only the key
exists assigns the key to itself. -/
def assignments (table : Table) (key : Column) : String :=
  match changedColumns table with
  | [] => key.name ++ " = " ++ key.name
  | changed => ", ".intercalate (changed.map binding)

/-- Updates the row with the given key and returns all of its columns. The key is bound first. -/
def update (table : Table) : Except SemanticError Statement := do
  let key ← table.requirePrimaryKey
  pure ⟨"UPDATE " ++ table.qualifiedName ++ "\nSET " ++ assignments table key ++ "\nWHERE "
    ++ binding key ++ "\nRETURNING " ++ columnList table.columns ++ ";",
    key.camelName :: (changedColumns table).map (·.camelName)⟩

end Schemata.Storage
