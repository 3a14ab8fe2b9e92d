import Schemata.Definition.Draft
import Schemata.Table
import Schemata.Token.Scan

/-!
# Parsing a definition text

A definition text is a list of tables. A table is a header, a name with or without a schema, and a
body in braces. The columns of a body are separated by commas or line breaks, and a column is a name
followed by modifiers. `step` says how one token moves the parser from one phase to the next, and
`parse` runs it over all tokens. The first token that does not fit ends the parse, also if the text
has a lexical error further on.
-/

namespace Schemata.Definition

/-- A table whose header was read and whose closing brace was not. -/
structure OpenTable where
  schema : String
  name : String
  columns : List Column := []
  deriving DecidableEq, Repr

namespace OpenTable

/-- Opens a table whose schema and name are given in any spelling. -/
def ofNames (schema name : String) : OpenTable :=
  { schema := storageName schema, name := storageName name }

/-- The name under which errors report the table. -/
def label (table : OpenTable) : String :=
  table.schema ++ "." ++ table.name

/-- The table with one more column. -/
def add (table : OpenTable) (column : Column) : OpenTable :=
  { table with columns := table.columns ++ [column] }

/-- The finished table. -/
def close (table : OpenTable) : Table :=
  Table.ofNames table.schema table.name table.columns

end OpenTable

/-- Where in the grammar the parser is. -/
inductive Phase where
  /-- Outside of all tables. -/
  | betweenTables
  /-- Behind a table header, in front of its opening brace. -/
  | header (table : OpenTable)
  /-- Inside a table and outside of its columns. -/
  | body (table : OpenTable)
  /-- Inside a column. -/
  | column (table : OpenTable) (draft : Column.Draft)
  /-- Behind `fk`, in front of the column it refers to. -/
  | reference (table : OpenTable) (draft : Column.Draft)
  /-- Behind `df`, in front of the default value. -/
  | default (table : OpenTable) (draft : Column.Draft)
  deriving DecidableEq, Repr

/-- The table that is open in a phase. -/
def Phase.table? : Phase → Option OpenTable
  | betweenTables => none
  | header table | body table | column table _ | reference table _ | default table _ => some table

/-- The state of the parser: the tables finished so far, in order, and the phase. -/
structure State where
  tables : List Table := []
  phase : Phase := .betweenTables
  deriving DecidableEq, Repr

namespace State

/-- The state in front of a text. -/
def initial : State := {}

/-- The state with another phase. -/
def enter (state : State) (phase : Phase) : State :=
  { state with phase }

/-- The state after an open table was closed. -/
def finish (state : State) (table : OpenTable) : State :=
  ⟨state.tables ++ [table.close], .betweenTables⟩

end State

open Error (liftSemantic)

/-- One token outside of all tables. A header without a schema belongs to the default schema. -/
def stepBetween (schema : String) (token : Token) : Except Error Phase :=
  match token with
  | .comma | .newLine => .ok .betweenTables
  | .name name => .ok (.header (.ofNames schema name))
  | .reference schema name => .ok (.header (.ofNames schema name))
  | .closeTable => .error (.grammar .closeOutsideTable)
  | .openTable => .error (.grammar (.unexpectedToken token none))
  | _ => .error (.grammar (.outsideColumn token none))

/-- One token behind a table header. Only line breaks may stand in front of the brace. -/
def stepHeader (table : OpenTable) (token : Token) : Except Error Phase :=
  match token with
  | .openTable => .ok (.body table)
  | .newLine => .ok (.header table)
  | _ => .error (.grammar (.expectedOpenTable table.label token))

/-- One token inside a table and outside of its columns. -/
def stepBody (state : State) (table : OpenTable) (token : Token) : Except Error State :=
  match token with
  | .comma | .newLine => .ok (state.enter (.body table))
  | .name name => .ok (state.enter (.column table (.ofName name)))
  | .closeTable => .ok (state.finish table)
  | .reference left right =>
    .error (.grammar (.referenceOutsideForeignKey (left ++ "." ++ right) (some table.label)))
  | .openTable => .error (.grammar (.unexpectedToken token (some table.label)))
  | _ => .error (.grammar (.outsideColumn token (some table.label)))

/-- One token behind the name of a column. A name made of digits is a maximum length, because no
other name is allowed there. -/
def stepColumn (state : State) (table : OpenTable) (draft : Column.Draft) (token : Token) :
    Except Error State :=
  let stay (draft : Column.Draft) : State := state.enter (.column table draft)
  let completed := (liftSemantic (draft.finish table.label)).map table.add
  match token with
  | .comma | .newLine => completed.map fun table => state.enter (.body table)
  | .closeTable => completed.map state.finish
  | .dataType type => .ok (stay (draft.withType type))
  | .primaryKey => (liftSemantic draft.withPrimaryKey).map stay
  | .null => (liftSemantic draft.withNull).map stay
  | .unique => .ok (stay draft.withUnique)
  | .autoGenerate => (liftSemantic draft.withAutoGenerate).map stay
  | .foreignKey =>
    (liftSemantic draft.beforeForeignKey).map fun draft => state.enter (.reference table draft)
  | .default => .ok (state.enter (.default table draft))
  | .value text => (liftSemantic (draft.withLength text)).map stay
  | .name text =>
    if text.toList.all Char.isDigit then (liftSemantic (draft.withLength text)).map stay
    else .error (.grammar (.unexpectedToken token (some table.label)))
  | .reference left right =>
    .error (.grammar (.referenceOutsideForeignKey (left ++ "." ++ right) (some table.label)))
  | .openTable => .error (.grammar (.unexpectedToken token (some table.label)))

/-- One token behind `fk`. The table of a reference is in the default schema. -/
def stepReference (schema : String) (table : OpenTable) (draft : Column.Draft) (token : Token) :
    Except Error Phase :=
  match token with
  | .reference target column =>
    .ok (.column table (draft.withForeignKey (.ofNames schema target column)))
  | _ => .error (.grammar (.expectedReference draft.name token))

/-- One token behind `df`. -/
def stepDefault (table : OpenTable) (draft : Column.Draft) (token : Token) :
    Except Error Phase :=
  match token with
  | .value text => .ok (.column table (draft.withDefault text))
  | _ => .error (.grammar (.expectedDefaultValue draft.name token))

/-- The state after one more token, where `schema` is the default schema. -/
def step (schema : String) (state : State) (token : Token) : Except Error State :=
  match state.phase with
  | .betweenTables => (stepBetween schema token).map state.enter
  | .header table => (stepHeader table token).map state.enter
  | .body table => stepBody state table token
  | .column table draft => stepColumn state table draft token
  | .reference table draft => (stepReference schema table draft token).map state.enter
  | .default table draft => (stepDefault table draft token).map state.enter

/-- The tables of a text whose last token led to the given state. -/
def State.conclude (state : State) : Except Error (List Table) :=
  match state.phase.table? with
  | none => .ok state.tables
  | some table => .error (.grammar (.unterminatedTable table.label))

/-- Parses a definition text under a default schema into its tables, in order. -/
def parse (schema text : String) : Except Error (List Table) := do
  let scan := Token.scan text
  let state ← scan.tokens.foldlM (step schema) .initial
  match scan.failure with
  | some fault => .error (.lexical fault)
  | none => state.conclude

end Schemata.Definition
