import Schemata.Column

/-!
# Tables

A table has a schema, a name, the name of the class that stands for it in the host program, and its
columns in the order of their declaration. A table can be defined with any number of primary keys,
but most statements about it need exactly one.
-/

namespace Schemata

/-- A table. -/
structure Table where
  schema : String
  name : String
  className : String
  columns : List Column
  deriving DecidableEq, Repr

namespace Table

/-- The table whose schema and name are given in any spelling. -/
def ofNames (schema name : String) (columns : List Column) : Table :=
  ⟨storageName schema, storageName name, pascalName name, columns⟩

/-- The name of a table with its schema in front. -/
def qualifiedName (table : Table) : String :=
  table.schema ++ "." ++ table.name

/-- The primary key of a table, if it has one. More than one is an error. -/
def primaryKey? (table : Table) : Except SemanticError (Option Column) :=
  match table.columns.filter (·.primaryKey) with
  | [] => .ok none
  | [key] => .ok (some key)
  | first :: second :: _ =>
    .error (.multiplePrimaryKeys table.qualifiedName first.name second.name)

/-- The primary key of a table. Having none is an error as well. -/
def requirePrimaryKey (table : Table) : Except SemanticError Column := do
  match ← table.primaryKey? with
  | some key => pure key
  | none => .error (.missingPrimaryKey table.qualifiedName)

end Table

end Schemata
