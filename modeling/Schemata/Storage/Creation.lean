import Schemata.Column.Default
import Schemata.Settings
import Schemata.Table
import Schemata.Text.Listing

/-!
# Creating a table

The statement that creates a table in the database, with one line for each column. A column line is
the name, the type and the clauses that its modifiers call for, in a fixed order. A generated key is
a serial number or a random identifier; other types have no generated form. A primary key is neither
null nor repeated, so it gets no clause for that.
-/

namespace Schemata.Storage

/-- The type of a column in the database. -/
def typeName : DataType → String
  | .guid => "uuid"
  | .string => "text"
  | .dateTime => "timestamp"
  | .bool => "bool"
  | .short => "int2"
  | .int => "int4"
  | .long => "int8"
  | .decimal => "numeric"
  | .float => "float4"
  | .double => "float8"
  | .timeSpan => "interval"
  | .bytes => "bytea"

/-- The type written in a column line. A generated integer has a type of its own. -/
def columnType (column : Column) : String :=
  if column.autoGenerate && column.dataType = .int then "SERIAL" else typeName column.dataType

/-- The clause that marks the primary key. -/
def keyClause (column : Column) : String :=
  if column.primaryKey then " PRIMARY KEY" else ""

/-- The clause that lets the database generate the key. -/
def generatedClause (column : Column) : Except Error String :=
  if column.autoGenerate then
    match column.dataType with
    | .guid => .ok " DEFAULT uuid_generate_v4()"
    | .int => .ok ""
    | type => .error (.unsupported (.autoGenerateType column.name type))
  else
    .ok ""

/-- The clause that forbids nulls. -/
def notNullClause (column : Column) : String :=
  if !column.nullable && !column.primaryKey then " NOT NULL" else ""

/-- The clause of a foreign key. -/
def referencesClause (column : Column) : String :=
  match column.foreignKey with
  | some key => " REFERENCES " ++ key.describe
  | none => ""

/-- The clause of a default value. -/
def defaultClause (column : Column) : Except Error String :=
  if column.defaultValue.isSome then column.defaultExpression.map (" DEFAULT " ++ ·) else .ok ""

/-- The clause that forbids repeated values. -/
def uniqueClause (column : Column) : String :=
  if column.unique && !column.primaryKey then " UNIQUE" else ""

/-- The line of a column, without indentation and separator. -/
def columnDefinition (column : Column) : Except Error String := do
  let generated ← generatedClause column
  let default ← defaultClause column
  pure (column.name ++ " " ++ columnType column ++ keyClause column ++ generated
    ++ notNullClause column ++ referencesClause column ++ default ++ uniqueClause column)

/-- The statement that creates a table. -/
def createTable (settings : Settings) (table : Table) : Except Error String := do
  let definitions ← table.columns.mapM columnDefinition
  let lines := (Text.separated "," definitions).map (settings.indentUnit ++ · ++ "\n")
  pure ("CREATE TABLE " ++ table.qualifiedName ++ " (\n" ++ String.join lines ++ ");")

end Schemata.Storage
