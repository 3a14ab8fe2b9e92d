import Schemata.Bundle
import Schemata.Event

/-!
# The events of generating a batch

`trace` lists what happens while `generate` works on a batch, in order. If generating fails, the
trace ends where the failure arises.
-/

namespace Schemata

namespace Definition

/-- The events of one step of the parser. -/
def stepEvents (before after : State) : List Event :=
  match before.phase, after.phase with
  | .betweenTables, .header table => [.openingTable table.label]
  | .body table, .betweenTables => [.closingTable table.label table.columns.length]
  | .column table _, .betweenTables => [.closingTable table.label (table.columns.length + 1)]
  | _, _ => []

/-- The events of parsing tokens from a state, up to the first error. -/
def tokenEvents (schema : String) (state : State) : List Token → List Event
  | [] => []
  | token :: rest =>
    match step schema state token with
    | .ok next => stepEvents state next ++ tokenEvents schema next rest
    | .error _ => []

/-- The events of parsing a definition text. -/
def events (schema text : String) : List Event :=
  tokenEvents schema .initial (Token.scan text).tokens

end Definition

/-- The events of parsing the texts of a batch, of which the first has the given index. -/
def parseEvents (schema : String) (index : Nat) : List String → List Event
  | [] => []
  | text :: rest =>
    Definition.events schema text ++
      match Definition.parse schema text with
      | .ok tables => .parsedInput index tables.length :: parseEvents schema (index + 1) rest
      | .error _ => []

/-- The events of generating the bundle of a table. -/
def tableEvents (settings : Settings) (table : Table) : List Event :=
  match Storage.Statements.ofTable settings table with
  | .error _ => []
  | .ok statements =>
    .generatedStatements table.qualifiedName ::
      match Host.record settings statements with
      | .error _ => []
      | .ok record =>
        .generatedRecord record.className ::
          match Host.repository settings statements record with
          | .error _ => []
          | .ok repository => [.generatedRepository repository.className]

/-- The events of generating the bundles of tables, of which `count` were generated before. -/
def tablesEvents (settings : Settings) (count : Nat) : List Table → List Event
  | [] => [.generatedArtifacts count]
  | table :: rest =>
    tableEvents settings table ++
      match Bundle.ofTable settings table with
      | .ok _ => tablesEvents settings (count + 1) rest
      | .error _ => []

/-- The events of generating a batch. -/
def trace (settings : Settings) (texts : List String) : List Event :=
  parseEvents settings.defaultSchema 0 texts ++
    match texts.mapM (Definition.parse settings.defaultSchema) with
    | .ok tables => tablesEvents settings 0 tables.flatten
    | .error _ => []

end Schemata
