import Schemata.Column
import Schemata.Literal.Scientific

/-!
# Default values

The default of a column is a text, and the data type decides which texts are allowed and how they
are written in the database. Integers and decimals are written in canonical form, floating-point
numbers as they are, and a moment is one of two words for the current time. The other data types
have no default values.
-/

namespace Schemata

/-- The expression for a moment: `now` is the current local time and `utcnow` the current time in
coordinated universal time. -/
def momentText? (text : String) : Option String :=
  if Text.sameWord text "now" then some "NOW()"
  else if Text.sameWord text "utcnow" then some "(NOW() at time zone 'utc')"
  else none

/-- How a data type writes its default values. There is no rule for a data type without defaults,
and a rule has no expression for a text that is no value of the type. -/
def DataType.defaultRule? : DataType → Option (String → Option String)
  | .dateTime => some momentText?
  | .short => some (Literal.integerText? 16)
  | .int => some (Literal.integerText? 32)
  | .long => some (Literal.integerText? 64)
  | .float => some Literal.singleText?
  | .double => some Literal.doubleText?
  | .decimal => some Literal.decimalText?
  | .guid | .string | .bool | .timeSpan | .bytes => none

/-- The expression for the default value of a column. -/
def Column.defaultExpression (column : Column) : Except Error String :=
  match column.defaultValue with
  | none => .error (.semantic (.noDefaultValue column.name))
  | some value =>
    match column.dataType.defaultRule? with
    | none => .error (.unsupported (.defaultValueType column.name column.dataType value))
    | some rule =>
      match rule value with
      | none => .error (.semantic (.invalidDefault column.name column.dataType value))
      | some expression => .ok expression

end Schemata
