import Schemata.Host.Identifier
import Schemata.Host.ValueType
import Schemata.Script
import Schemata.Storage.Statements

/-!
# Record classes

The record class of a table has one property for each column, in the order of their declaration.
-/

namespace Schemata.Host

/-- A generated class: its name, its namespace, and the text of its file. -/
structure HostClass where
  className : String
  space : String
  source : String
  deriving DecidableEq, Repr

/-- The declaration of the property for a column. -/
def propertyLine (className : String) (column : Column) : String :=
  "public " ++ fieldType column.nullable column.dataType ++ " " ++ propertyName className column
    ++ " \x7b get; set; \x7d"

/-- The import that a record needs if one of its types is declared in `System`. -/
def recordImports (table : Table) : Script :=
  if table.columns.any (needsSystem ·.dataType) then [.line "using System;", .blank] else []

/-- The file of the record class of a table. -/
def recordScript (space : String) (table : Table) : Script :=
  let properties :=
    table.columns.map fun column => [Command.line (propertyLine table.className column)]
  recordImports table ++
    [.block ("namespace " ++ space) .statement
      [.block ("public class " ++ table.className) .statement (Script.spaced properties)]]

/-- Generates the record class of a table. -/
def record (settings : Settings) (statements : Storage.Statements) : Except Error HostClass := do
  let table := statements.table
  let source ← (recordScript settings.classNamespace table).render settings.indentUnit
  pure ⟨table.className, settings.classNamespace, source⟩

end Schemata.Host
