import Schemata.Storage.Creation
import Schemata.Storage.Statement

/-!
# All statements of a table

The statement that creates a table, the five statements that work on its rows, and the tables that
have to exist before it.
-/

namespace Schemata.Storage

/-- The statements of a table and the qualified names of the tables it refers to. -/
structure Statements where
  table : Table
  creation : String
  selectAll : String
  selectByKey : Statement
  deleteByKey : Statement
  insert : Statement
  update : Statement
  dependencies : List String
  deriving DecidableEq, Repr

/-- The other tables that the foreign keys of a table point to, each once, in the order in which the
columns mention them first. -/
def dependencies (table : Table) : List String :=
  let targets := (table.columns.filterMap (·.foreignKey)).map (·.target)
  (targets.filter (· != table.qualifiedName)).eraseDups

/-- Generates the statements of a table. A fault in a column is reported before a fault in the
number of keys. -/
def Statements.ofTable (settings : Settings) (table : Table) : Except Error Statements := do
  let creation ← createTable settings table
  let selectByKey ← Error.liftSemantic (Storage.selectByKey table)
  let deleteByKey ← Error.liftSemantic (Storage.deleteByKey table)
  let insert ← Error.liftSemantic (Storage.insert table)
  let update ← Error.liftSemantic (Storage.update table)
  pure
    { table, creation, selectAll := Storage.selectAll table, selectByKey, deleteByKey, insert,
      update, dependencies := Storage.dependencies table }

end Schemata.Storage
