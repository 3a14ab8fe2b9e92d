import Schemata.Host.Record

/-!
# Repository classes

The repository class of a table has one asynchronous method for each statement: `GetAll`, `Get`,
`Delete`, `Create` and `Update`. Each method opens a connection, embeds the text of its statement,
binds the parameters, and reads the rows that come back. `GetCurrent` turns a row into a record by
position, in the order in which all statements list the columns.
-/

namespace Schemata.Host

/-- The namespaces that every repository imports. -/
def repositoryImports : List String :=
  ["System", "System.Collections.Generic", "System.Data.Common", "System.Threading.Tasks",
   "Npgsql"]

/-- What the methods of one repository have in common. -/
structure Repository where
  statements : Storage.Statements
  /-- The record type as it is written in signatures. -/
  recordType : String
  /-- The record class, which owns the properties. -/
  recordClass : String
  /-- The argument that holds a record. -/
  argument : String
  /-- The field that holds the connection string. -/
  field : String

namespace Repository

/-- The key column of the table. -/
def key (repository : Repository) : Except Error Column :=
  Error.liftSemantic repository.statements.table.requirePrimaryKey

/-- The column that supplies a parameter. -/
def columnFor (repository : Repository) (parameter : String) : Except Error Column :=
  let table := repository.statements.table
  match table.columns.find? (·.camelName == parameter) with
  | some column => .ok column
  | none => .error (.semantic (.unknownParameter table.qualifiedName parameter))

/-- The declaration of the argument that holds a key. -/
def keyArgument (key : Column) : String :=
  typeName key.dataType ++ " " ++ argumentName key.camelName

/-- A text inside a verbatim string literal, in which a double quote is written twice. -/
def verbatim (text : String) : String :=
  String.ofList (text.toList.flatMap fun c => if c = '"' then ['"', '"'] else [c])

/-- The command that holds a statement. -/
def commandFor (sql : String) : Command :=
  .aligned "var command = new NpgsqlCommand(@\"" (verbatim sql) "\", connection);"

/-- A block of statements under a header. -/
def braced (header : String) (body : Script) : Command :=
  .block header .statement body

/-- A script that runs with an open connection. -/
def withConnection (repository : Repository) (body : Script) : Command :=
  braced ("using (var connection = new NpgsqlConnection(" ++ repository.field ++ "))")
    ([.line "await connection.OpenAsync();", .blank] ++ body)

/-- A script that runs with a reader over the rows that a command yields. -/
def withReader (body : Script) : Command :=
  braced "using (var reader = await command.ExecuteReaderAsync())" body

/-- Reads at most one row and returns its record, or null if there is none. -/
def readSingle : Script :=
  [withReader [braced "if (await reader.ReadAsync())" [.line "return GetCurrent(reader);"]],
   .blank, .line "return null;"]

/-- The line that binds a parameter to a value. -/
def bindLine (parameter value : String) : Command :=
  .line ("command.Parameters.AddWithValue(\"" ++ parameter ++ "\", " ++ value ++ ");")

/-- Binds the key to the argument that holds it. -/
def bindKey (key : Column) : Command :=
  bindLine key.camelName (argumentName key.camelName)

/-- The value that a record argument has for a column. Nulls are passed as the null of the
database. -/
def recordValue (repository : Repository) (column : Column) : String :=
  let value := repository.argument ++ "." ++ propertyName repository.recordClass column
  if column.nullable then "(object)" ++ value ++ " ?? DBNull.Value" else value

/-- Binds a parameter to the property of its column. -/
def bindParameter (repository : Repository) (parameter : String) : Command :=
  match repository.columnFor parameter with
  | .ok column => bindLine parameter (repository.recordValue column)
  | .error cause => .fail cause

/-- Binds all parameters of a statement to properties of the record argument. -/
def bindRecord (repository : Repository) (statement : Storage.Statement) : Script :=
  if statement.parameters.isEmpty then []
  else .blank :: statement.parameters.map repository.bindParameter

/-- The method that reads all rows. -/
def getAll (repository : Repository) : Script :=
  [braced ("public async Task<IEnumerable<" ++ repository.recordType ++ ">> GetAll()")
    [repository.withConnection
      [commandFor repository.statements.selectAll, .blank,
       withReader
        [.line ("var result = new List<" ++ repository.recordType ++ ">();"),
         braced "while (await reader.ReadAsync())" [.line "result.Add(GetCurrent(reader));"],
         .blank, .line "return result;"]]]]

/-- The method that reads the row with a given key. -/
def get (repository : Repository) : Script :=
  Script.ofExcept do
    let key ← repository.key
    let header := "public async Task<" ++ repository.recordType ++ "> Get(" ++ keyArgument key
      ++ ")"
    pure [braced header
      [repository.withConnection
        ([commandFor repository.statements.selectByKey.sql, .blank, bindKey key, .blank]
          ++ readSingle)]]

/-- The method that deletes the row with a given key. -/
def delete (repository : Repository) : Script :=
  Script.ofExcept do
    let key ← repository.key
    pure [braced ("public async Task<bool> Delete(" ++ keyArgument key ++ ")")
      [repository.withConnection
        [commandFor repository.statements.deleteByKey.sql, .blank, bindKey key, .blank,
         .line "var affected = await command.ExecuteNonQueryAsync();", .blank,
         .line "return affected > 0;"]]]

/-- A method that stores a record and returns it as the database holds it afterwards. -/
def persist (repository : Repository) (method : String) (statement : Storage.Statement) : Script :=
  let header := "public async Task<" ++ repository.recordType ++ "> " ++ method ++ "("
    ++ repository.recordType ++ " " ++ repository.argument ++ ")"
  [braced header
    [repository.withConnection
      ([commandFor statement.sql] ++ repository.bindRecord statement ++ [.blank] ++ readSingle)]]

/-- The expression that reads a column at a position of the current row. -/
def readExpression (column : Column) (position : Nat) : String :=
  let read := "reader." ++ readerMethod column.dataType ++ "(" ++ toString position ++ ")"
  if column.nullable then
    "reader.IsDBNull(" ++ toString position ++ ") ? default(" ++ fieldType true column.dataType
      ++ ") : " ++ read
  else read

/-- The assignment of a property from a position of the current row. -/
def assignment (repository : Repository) (column : Column) (position : Nat) : String :=
  propertyName repository.recordClass column ++ " = " ++ readExpression column position

/-- The method that turns the current row into a record. -/
def getCurrent (repository : Repository) : Script :=
  let assignments := repository.statements.table.columns.zipIdx.map fun (column, position) =>
    repository.assignment column position
  [braced ("private static " ++ repository.recordType ++ " GetCurrent(DbDataReader reader)")
    [.block ("return new " ++ repository.recordType) .initializer
      ((Text.separated "," assignments).map .line)]]

/-- The constructor, which stores the connection string. -/
def constructor (repository : Repository) (className : String) (naming : FieldNaming) : Script :=
  let target :=
    match naming with
    | .camelCase => "this." ++ repository.field
    | .underscore => repository.field
  [braced ("public " ++ className ++ "(string connectionString)")
    [.line (target ++ " = connectionString;")]]

/-- The members of the class, in order. -/
def members (repository : Repository) (className : String) (naming : FieldNaming) : List Script :=
  [[.line ("private readonly string " ++ repository.field ++ ";")],
   repository.constructor className naming,
   repository.getAll,
   repository.get,
   repository.delete,
   repository.persist "Create" repository.statements.insert,
   repository.persist "Update" repository.statements.update,
   repository.getCurrent]

end Repository

/-- The imports of a repository in the given namespace, whose record may be in another one. -/
def repositoryUsings (space recordSpace : String) : Script :=
  let spaces := if recordSpace = space then [] else [recordSpace]
  (repositoryImports ++ spaces).map fun space => .line ("using " ++ space ++ ";")

/-- Generates the repository class that goes with a record. -/
def repository (settings : Settings) (statements : Storage.Statements) (record : HostClass) :
    Except Error HostClass := do
  let className := record.className ++ settings.repositorySuffix
  let space := settings.effectiveRepositoryNamespace
  let shared : Repository :=
    { statements
      recordType := qualifiedClassName record.space record.className
      recordClass := record.className
      argument := argumentName (camelName record.className)
      field := settings.fieldNaming.fieldName "connectionString" }
  let script : Script :=
    repositoryUsings space record.space ++
      [.blank,
       Repository.braced ("namespace " ++ space)
        [Repository.braced ("public class " ++ className)
          (Script.spaced (shared.members className settings.fieldNaming))]]
  let source ← script.render settings.indentUnit
  pure ⟨className, space, source⟩

end Schemata.Host
