import Schemata.Error
import Schemata.Naming

/-!
# Columns

A column has a name, a data type and modifiers. Four combinations of modifiers contradict each
other; `Modifiers.conflict?` finds the first of them, and a `Column` carries the proof that it has
none. A `Column.Draft` is a column whose declaration is still being read, so its data type may be
missing and its modifiers may conflict.
-/

namespace Schemata

/-- The column that a foreign key points to, by storage names. Whether it exists is not checked. -/
structure ForeignKey where
  schema : String
  table : String
  column : String
  deriving DecidableEq, Repr

namespace ForeignKey

/-- The foreign key to a column whose names are given in any spelling. -/
def ofNames (schema table column : String) : ForeignKey :=
  ⟨storageName schema, storageName table, storageName column⟩

/-- The qualified name of the table that the key points to. -/
def target (key : ForeignKey) : String :=
  key.schema ++ "." ++ key.table

/-- The key as it is written behind `REFERENCES`. -/
def describe (key : ForeignKey) : String :=
  key.target ++ "(" ++ key.column ++ ")"

end ForeignKey

/-- What a column declaration says besides the name and the data type. -/
structure Modifiers where
  defaultValue : Option String := none
  primaryKey : Bool := false
  autoGenerate : Bool := false
  nullable : Bool := false
  unique : Bool := false
  foreignKey : Option ForeignKey := none
  maxLength : Option Nat := none
  deriving DecidableEq, Repr

/-- Two modifiers that contradict each other. -/
inductive Conflict where
  | primaryAndForeignKey
  | nullablePrimaryKey
  | autoGenerateWithoutPrimaryKey
  | defaultOnAutoGenerate
  deriving DecidableEq, Repr

/-- The error that reports a conflict on a column. -/
def Conflict.error (column : String) : Conflict → SemanticError
  | primaryAndForeignKey => .primaryAndForeignKey column
  | nullablePrimaryKey => .nullablePrimaryKey column
  | autoGenerateWithoutPrimaryKey => .autoGenerateWithoutPrimaryKey column
  | defaultOnAutoGenerate => .defaultOnAutoGenerate column

/-- The first conflict among the modifiers, if there is one. -/
def Modifiers.conflict? (modifiers : Modifiers) : Option Conflict :=
  if modifiers.primaryKey && modifiers.foreignKey.isSome then some .primaryAndForeignKey
  else if modifiers.primaryKey && modifiers.nullable then some .nullablePrimaryKey
  else if modifiers.autoGenerate && !modifiers.primaryKey then some .autoGenerateWithoutPrimaryKey
  else if modifiers.autoGenerate && modifiers.defaultValue.isSome then some .defaultOnAutoGenerate
  else none

/-- A column: its three names, its data type, and modifiers without a conflict. -/
structure Column extends Modifiers where
  name : String
  pascalName : String
  camelName : String
  dataType : DataType
  sound : toModifiers.conflict? = none
  deriving DecidableEq, Repr

namespace Column

/-- Everything that determines a column, with its name as it was written. -/
structure Spec extends Modifiers where
  name : String
  dataType : DataType
  deriving DecidableEq, Repr

/-- The column of a specification. Conflicts are reported under the name as it was written. -/
def ofSpec (spec : Spec) : Except SemanticError Column :=
  match h : spec.toModifiers.conflict? with
  | some conflict => .error (conflict.error spec.name)
  | none =>
    .ok
      { spec.toModifiers with
        name := storageName spec.name
        pascalName := Schemata.pascalName spec.name
        camelName := Schemata.camelName spec.name
        dataType := spec.dataType
        sound := h }

/-- A column whose declaration is being read. -/
structure Draft extends Modifiers where
  name : String
  dataType : Option DataType := none
  deriving DecidableEq, Repr

namespace Draft

/-- The draft of a column of which only the name is known. -/
def ofName (name : String) : Draft :=
  { name }

/-- Completes the draft of a column in the table with the given label. -/
def finish (table : String) (draft : Draft) : Except SemanticError Column :=
  match draft.dataType with
  | none => .error (.incompleteColumn table draft.name)
  | some dataType =>
    if draft.name.isEmpty then .error (.incompleteColumn table draft.name)
    else ofSpec { draft.toModifiers with name := draft.name, dataType }

end Draft

end Column

end Schemata
