import Schemata.Definition.Parse
import Schemata.Host.Repository

/-!
# Generating everything for a batch of definition texts

A bundle is everything that is generated for one table. `generate` parses all texts of a batch
before it generates anything, so an error in a later text is reported in place of an earlier table
that has no generated form.
-/

namespace Schemata

/-- Everything that is generated for one table. -/
structure Bundle where
  objectName : String
  statements : Storage.Statements
  record : Host.HostClass
  repository : Host.HostClass
  deriving DecidableEq, Repr

namespace Bundle

/-- The name of the repository class. -/
def repositoryName (bundle : Bundle) : String :=
  bundle.repository.className

/-- Generates the bundle of a table. -/
def ofTable (settings : Settings) (table : Table) : Except Error Bundle := do
  let statements ← Storage.Statements.ofTable settings table
  let record ← Host.record settings statements
  let repository ← Host.repository settings statements record
  pure ⟨table.className, statements, record, repository⟩

end Bundle

/-- Generates the bundles of all tables of a batch of definition texts, in order. -/
def generate (settings : Settings) (texts : List String) : Except Error (List Bundle) := do
  let tables ← texts.mapM (Definition.parse settings.defaultSchema)
  tables.flatten.mapM (Bundle.ofTable settings)

end Schemata
