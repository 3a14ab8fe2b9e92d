import Schemata.Text.Fold

/-!
# Column data types

The fixed catalogue of data types a column can have, with the keywords that name them in a
definition text. A keyword is recognised in any ASCII case, and two types have a second keyword.
-/

namespace Schemata

/-- The data type of a column. -/
inductive DataType where
  | guid
  | string
  | dateTime
  | bool
  | short
  | int
  | long
  | decimal
  | float
  | double
  | timeSpan
  | bytes
  deriving DecidableEq, Repr

namespace DataType

/-- The keywords of the catalogue. -/
def keywords : List (String × DataType) :=
  [("guid", guid), ("string", string), ("datetime", dateTime), ("bool", bool), ("short", short),
   ("int", int), ("long", long), ("decimal", decimal), ("float", float), ("single", float),
   ("double", double), ("timespan", timeSpan), ("bytes", bytes), ("byte-array", bytes)]

/-- The data type that a word names, if it names one. -/
def ofKeyword? (word : String) : Option DataType :=
  (keywords.find? fun entry => Text.sameWord entry.1 word).map Prod.snd

/-- The keyword under which a data type is reported. -/
def keyword : DataType → String
  | guid => "guid"
  | string => "string"
  | dateTime => "datetime"
  | bool => "bool"
  | short => "short"
  | int => "int"
  | long => "long"
  | decimal => "decimal"
  | float => "float"
  | double => "double"
  | timeSpan => "timespan"
  | bytes => "bytes"

end DataType

end Schemata
