import Schemata.Position
import Schemata.Token

/-!
# Errors

Every error is fatal: once one arises nothing is generated. There are four families. A lexical error
is a text that is no sequence of tokens; a grammar error is a token outside the context that allows
it; a semantic error is a well-formed definition that contradicts itself; an unsupported
configuration is a combination that has no generated form. Each family has one function that words
its errors.
-/

namespace Schemata

/-- A text that is no sequence of tokens, with the position of the fault. -/
inductive LexError where
  | unexpectedChar (char : Char) (place : Position)
  | unterminatedValue (place : Position)
  | newlineInValue (place : Position)
  | emptyValue (place : Position)
  | multipleDots (word : String) (place : Position)
  | emptyReferencePart (word : String) (place : Position)
  deriving DecidableEq, Repr

/-- The wording of a lexical error. -/
def LexError.message : LexError → String
  | unexpectedChar char place =>
    "Unexpected character '" ++ String.singleton char ++ "' at " ++ place.describe
  | unterminatedValue place => "Unterminated value starting at " ++ place.describe
  | newlineInValue place => "Newline inside value starting at " ++ place.describe
  | emptyValue place => "Empty value at " ++ place.describe
  | multipleDots word place => "Multiple periods in '" ++ word ++ "' at " ++ place.describe
  | emptyReferencePart word place =>
    "Reference '" ++ word ++ "' needs a name on both sides of the period at " ++ place.describe

/-- A token outside the context that allows it. Tables are named by their label. -/
inductive GrammarError where
  | expectedOpenTable (table : String) (found : Token)
  | outsideColumn (found : Token) (table : Option String)
  | expectedReference (column : String) (found : Token)
  | expectedDefaultValue (column : String) (found : Token)
  | referenceOutsideForeignKey (reference : String) (table : Option String)
  | unexpectedToken (found : Token) (table : Option String)
  | closeOutsideTable
  | unterminatedTable (table : String)
  deriving DecidableEq, Repr

/-- The words that say in which table an error arose, if it arose in one. -/
def inTable : Option String → String
  | some table => " in table '" ++ table ++ "'"
  | none => ""

/-- The wording of a grammar error. -/
def GrammarError.message : GrammarError → String
  | expectedOpenTable table found =>
    "Expected '\x7b' after table name '" ++ table ++ "', found " ++ found.describe
  | outsideColumn found table => found.describe ++ " used outside a column" ++ inTable table
  | expectedReference column found =>
    "Expected a 'table.column' reference after 'fk' on column '" ++ column ++ "', found "
      ++ found.describe
  | expectedDefaultValue column found =>
    "Expected a '[value]' after 'df' on column '" ++ column ++ "', found " ++ found.describe
  | referenceOutsideForeignKey reference table =>
    "Reference '" ++ reference ++ "' found outside a foreign key" ++ inTable table
  | unexpectedToken found table => "Unexpected " ++ found.describe ++ inTable table
  | closeOutsideTable => "Found end of table marker '\x7d' outside of a table"
  | unterminatedTable table => "Input ended before table '" ++ table ++ "' was closed"

/-- A well-formed definition that contradicts itself. -/
inductive SemanticError where
  | primaryAndForeignKey (column : String)
  | nullablePrimaryKey (column : String)
  | autoGenerateWithoutPrimaryKey (column : String)
  | defaultOnAutoGenerate (column : String)
  | incompleteColumn (table column : String)
  | multiplePrimaryKeys (table first second : String)
  | missingPrimaryKey (table : String)
  | noDefaultValue (column : String)
  | invalidDefault (column : String) (type : DataType) (value : String)
  | invalidMaxLength (column value : String)
  | unknownParameter (table parameter : String)
  deriving DecidableEq, Repr

/-- The wording of a semantic error. -/
def SemanticError.message : SemanticError → String
  | primaryAndForeignKey column =>
    "Column '" ++ column ++ "' cannot be both a primary and a foreign key"
  | nullablePrimaryKey column =>
    "Column '" ++ column ++ "' is a primary key, it cannot be nullable"
  | autoGenerateWithoutPrimaryKey column =>
    "Column '" ++ column ++ "' is not a primary key, it cannot be auto generated"
  | defaultOnAutoGenerate column =>
    "Column '" ++ column ++ "' is auto generated, it cannot have a default value"
  | incompleteColumn table column =>
    "Column '" ++ column ++ "' in table '" ++ table ++ "' needs at least a name and a data type"
  | multiplePrimaryKeys table first second =>
    "Both '" ++ first ++ "' and '" ++ second ++ "' are primary keys in table '" ++ table ++ "'"
  | missingPrimaryKey table => "Table '" ++ table ++ "' has no primary key"
  | noDefaultValue column => "Column '" ++ column ++ "' has no default value"
  | invalidDefault column type value =>
    "Invalid default value '" ++ value ++ "' for " ++ type.keyword ++ " column '" ++ column ++ "'"
  | invalidMaxLength column value =>
    "Value '" ++ value ++ "' on column '" ++ column ++ "' is not a max length of a string column"
  | unknownParameter table parameter =>
    "Parameter '@" ++ parameter ++ "' matches no column of table '" ++ table ++ "'"

/-- A combination that has no generated form. -/
inductive UnsupportedError where
  | autoGenerateType (column : String) (type : DataType)
  | defaultValueType (column : String) (type : DataType) (value : String)
  deriving DecidableEq, Repr

/-- The wording of an unsupported combination. -/
def UnsupportedError.message : UnsupportedError → String
  | autoGenerateType column type =>
    "Auto generated primary keys are unsupported for " ++ type.keyword ++ " column '" ++ column
      ++ "'"
  | defaultValueType column type value =>
    "Default values are not implemented for " ++ type.keyword ++ " column '" ++ column
      ++ "' (value '" ++ value ++ "')"

/-- An error of any family. -/
inductive Error where
  | lexical (cause : LexError)
  | grammar (cause : GrammarError)
  | semantic (cause : SemanticError)
  | unsupported (cause : UnsupportedError)
  deriving DecidableEq, Repr

namespace Error

/-- A computation that fails with semantic errors, as one that fails with errors of any family. -/
def liftSemantic {α : Type} : Except SemanticError α → Except Error α :=
  Except.mapError semantic

/-- The wording of the cause, without the name of its family. -/
def causeMessage : Error → String
  | lexical cause => cause.message
  | grammar cause => cause.message
  | semantic cause => cause.message
  | unsupported cause => cause.message

/-- The words that name the family of an error. -/
def family : Error → String
  | lexical _ => "Lexical error"
  | grammar _ => "Grammar error"
  | semantic _ => "Semantic error"
  | unsupported _ => "Unsupported configuration"

/-- The wording of an error: its family, then its cause. -/
def message (error : Error) : String :=
  error.family ++ ": " ++ error.causeMessage

end Error

end Schemata
