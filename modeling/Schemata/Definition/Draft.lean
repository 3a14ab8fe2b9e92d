import Schemata.Column
import Schemata.Literal.Decimal

/-!
# Reading the modifiers of a column

The modifiers of a column follow its name in any order. Each of them changes the draft of the
column, and those that contradict what was read before are refused on the spot: a primary key is
neither a foreign key nor nullable, only a primary key is generated automatically, and only a string
has a maximum length.
-/

namespace Schemata.Column.Draft

/-- Sets the data type. A later data type replaces an earlier one. -/
def withType (type : DataType) (draft : Draft) : Draft :=
  { draft with dataType := some type }

/-- Makes the column the primary key. -/
def withPrimaryKey (draft : Draft) : Except SemanticError Draft :=
  if draft.foreignKey.isSome then .error (.primaryAndForeignKey draft.name)
  else if draft.nullable then .error (.nullablePrimaryKey draft.name)
  else .ok { draft with primaryKey := true }

/-- Lets the column hold nulls. -/
def withNull (draft : Draft) : Except SemanticError Draft :=
  if draft.primaryKey then .error (.nullablePrimaryKey draft.name)
  else .ok { draft with nullable := true }

/-- Makes the values of the column unique. -/
def withUnique (draft : Draft) : Draft :=
  { draft with unique := true }

/-- Lets the database generate the values of the column. -/
def withAutoGenerate (draft : Draft) : Except SemanticError Draft :=
  if draft.primaryKey then .ok { draft with autoGenerate := true }
  else .error (.autoGenerateWithoutPrimaryKey draft.name)

/-- The column may get a foreign key, which is announced but not read yet. -/
def beforeForeignKey (draft : Draft) : Except SemanticError Draft :=
  if draft.primaryKey then .error (.primaryAndForeignKey draft.name) else .ok draft

/-- Sets the foreign key. -/
def withForeignKey (key : ForeignKey) (draft : Draft) : Draft :=
  { draft with foreignKey := some key }

/-- Sets the default value. -/
def withDefault (value : String) (draft : Draft) : Draft :=
  { draft with defaultValue := some value }

/-- The length that a text gives, which is an unsigned number of 32 bits on a string column. -/
def length? (draft : Draft) (text : String) : Option Nat :=
  if draft.dataType = some .string then Literal.unsigned? 32 text else none

/-- Sets the maximum length. -/
def withLength (text : String) (draft : Draft) : Except SemanticError Draft :=
  match draft.length? text with
  | some length => .ok { draft with maxLength := some length }
  | none => .error (.invalidMaxLength draft.name text)

end Schemata.Column.Draft
