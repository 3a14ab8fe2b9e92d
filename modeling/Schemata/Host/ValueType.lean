import Schemata.DataType

/-!
# Data types of the host language

The C# type in which the values of a column are held, and the method of a data reader that reads it.
Strings and byte arrays are references and can be null as they are; every other type needs a mark
behind it to hold null.
-/

namespace Schemata.Host

/-- The type that holds the values of a data type. -/
def typeName : DataType → String
  | .guid => "Guid"
  | .string => "string"
  | .dateTime => "DateTime"
  | .bool => "bool"
  | .short => "short"
  | .int => "int"
  | .long => "long"
  | .decimal => "decimal"
  | .float => "float"
  | .double => "double"
  | .timeSpan => "TimeSpan"
  | .bytes => "byte[]"

/-- The type cannot hold null by itself. -/
def isValueType : DataType → Bool
  | .string | .bytes => false
  | _ => true

/-- The type that holds the values of a column, which may be nullable. -/
def fieldType (nullable : Bool) (type : DataType) : String :=
  if nullable && isValueType type then typeName type ++ "?" else typeName type

/-- The method that reads a value of the type from a data reader. -/
def readerMethod : DataType → String
  | .guid => "GetGuid"
  | .string => "GetString"
  | .dateTime => "GetDateTime"
  | .bool => "GetBoolean"
  | .short => "GetInt16"
  | .int => "GetInt32"
  | .long => "GetInt64"
  | .decimal => "GetDecimal"
  | .float => "GetFloat"
  | .double => "GetDouble"
  | .timeSpan => "GetFieldValue<TimeSpan>"
  | .bytes => "GetFieldValue<byte[]>"

/-- The type is declared in the namespace `System`. -/
def needsSystem : DataType → Bool
  | .guid | .dateTime | .timeSpan => true
  | _ => false

end Schemata.Host
