import Schemata.Definition.Parse

/-!
# The parser as a machine with flags

A `Machine` reads a definition text like the parser, but it does not know its phase. It keeps the
table and the column that are open, the token that it read last, and flags that say what it expects
next, and decides by them. Not every combination of them makes sense: functions of the machine are
prepared for a table or a column that is missing.
-/

namespace Schemata.Definition

/-- The state of the machine. -/
structure Machine where
  /-- The next name opens a table. -/
  expectsTable : Bool := true
  /-- A table header was read, and the brace behind it was not. -/
  mustOpenTable : Bool := false
  /-- The next comma or line break ends a column. -/
  mindsSeparators : Bool := false
  /-- The token that was read last, but for those between a header and its brace. -/
  preceding : Option Token := none
  table : Option OpenTable := none
  column : Option Column.Draft := none
  tables : List Table := []
  deriving DecidableEq, Repr

namespace Machine

open Error (liftSemantic)

/-- The label of the open table. -/
def label? (machine : Machine) : Option String :=
  machine.table.map OpenTable.label

/-- The error for a token that fits nowhere. -/
def unexpected (machine : Machine) (token : Token) : Error :=
  .grammar (.unexpectedToken token machine.label?)

/-- The open column, or the error for a token that needs one. -/
def openColumn (machine : Machine) (token : Token) : Except Error Column.Draft :=
  match machine.column with
  | some draft => .ok draft
  | none => .error (.grammar (.outsideColumn token machine.label?))

/-- Changes the open column, as a token asks for. -/
def changeColumn (machine : Machine) (token : Token)
    (change : Column.Draft → Except SemanticError Column.Draft) : Except Error Machine := do
  let draft ← machine.openColumn token
  let changed ← liftSemantic (change draft)
  pure { machine with column := some changed }

/-- Sets the maximum length of the open column. -/
def setMaxLength (machine : Machine) (text : String) : Except Error Machine :=
  machine.changeColumn (.value text) (Column.Draft.withLength text)

/-- Takes the token behind `fk`. -/
def attachForeignKey (machine : Machine) (schema : String) (token : Token) :
    Except Error Machine := do
  let draft ← machine.openColumn .foreignKey
  match token with
  | .reference target column =>
    pure { machine with
      column := some (draft.withForeignKey (.ofNames schema target column))
      preceding := some token }
  | _ => .error (.grammar (.expectedReference draft.name token))

/-- Takes the token behind `df`. -/
def attachDefault (machine : Machine) (token : Token) : Except Error Machine := do
  let draft ← machine.openColumn .default
  match token with
  | .value text =>
    pure { machine with
      column := some (draft.withDefault text)
      preceding := some token }
  | _ => .error (.grammar (.expectedDefaultValue draft.name token))

/-- Opens a table. -/
def openTable (machine : Machine) (schema name : String) : Machine :=
  { machine with
    table := some (.ofNames schema name)
    expectsTable := false
    mustOpenTable := true }

/-- Completes the open column, if there is one, and adds it to the open table. -/
def finishColumn (machine : Machine) : Except Error Machine :=
  match machine.column with
  | none => .ok { machine with mindsSeparators := false }
  | some draft => do
    let column ← liftSemantic (draft.finish (machine.label?.getD ""))
    pure { machine with
      column := none
      table := machine.table.map (·.add column)
      mindsSeparators := false }

/-- Closes the open table. -/
def closeTable (machine : Machine) : Except Error Machine :=
  if machine.table.isNone || machine.expectsTable then .error (.grammar .closeOutsideTable)
  else do
    let finished ← machine.finishColumn
    pure { finished with
      tables := finished.tables ++ (finished.table.map OpenTable.close).toList
      table := none
      expectsTable := true
      mustOpenTable := false
      mindsSeparators := false
      preceding := none }

/-- Takes a token that is not announced by the one before. -/
def dispatch (machine : Machine) (schema : String) (token : Token) : Except Error Machine :=
  match token with
  | .newLine | .comma =>
    if machine.mindsSeparators && machine.table.isSome then machine.finishColumn else .ok machine
  | .name name =>
    if machine.expectsTable then .ok (machine.openTable schema name)
    else if machine.column.isNone then
      if machine.table.isNone then .error (machine.unexpected token)
      else .ok { machine with column := some (.ofName name), mindsSeparators := true }
    else if name.toList.all Char.isDigit then machine.setMaxLength name
    else .error (machine.unexpected token)
  | .reference left right =>
    if machine.expectsTable then .ok (machine.openTable left right)
    else .error (.grammar (.referenceOutsideForeignKey (left ++ "." ++ right) machine.label?))
  | .dataType type => machine.changeColumn token fun draft => .ok (draft.withType type)
  | .primaryKey => machine.changeColumn token Column.Draft.withPrimaryKey
  | .foreignKey => machine.changeColumn token Column.Draft.beforeForeignKey
  | .null => machine.changeColumn token Column.Draft.withNull
  | .unique => machine.changeColumn token fun draft => .ok draft.withUnique
  | .autoGenerate => machine.changeColumn token Column.Draft.withAutoGenerate
  | .default => machine.changeColumn token .ok
  | .value text => do
    let _ ← machine.openColumn token
    machine.setMaxLength text
  | .closeTable => machine.closeTable
  | .openTable => .error (machine.unexpected token)

/-- The machine after one more token, where `schema` is the default schema. -/
def step (schema : String) (machine : Machine) (token : Token) : Except Error Machine :=
  if machine.mustOpenTable then
    match token with
    | .openTable => .ok { machine with mustOpenTable := false }
    | .newLine => .ok machine
    | _ => .error (.grammar (.expectedOpenTable (machine.label?.getD "") token))
  else if machine.preceding = some .foreignKey then machine.attachForeignKey schema token
  else if machine.preceding = some .default then machine.attachDefault token
  else (machine.dispatch schema token).map fun next => { next with preceding := some token }

/-- The tables of a text whose last token was taken. -/
def conclude (machine : Machine) : Except Error (List Table) :=
  match machine.table with
  | some table => .error (.grammar (.unterminatedTable table.label))
  | none => .ok machine.tables

/-- Parses a definition text under a default schema into its tables, in order. -/
def parse (schema text : String) : Except Error (List Table) := do
  let scan := Token.scan text
  let machine ← scan.tokens.foldlM (step schema) {}
  match scan.failure with
  | some fault => .error (.lexical fault)
  | none => machine.conclude

end Machine

end Schemata.Definition
