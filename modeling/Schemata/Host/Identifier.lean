import Schemata.Column

/-!
# Identifiers of the host language

Names of tables and columns become identifiers of C#. Three things can stand in the way: a name can
be a reserved word, it can be one of the names that the methods of a repository use themselves, and
a property can have the name of its class. The class `Task` would hide the type of asynchronous
methods, so it is written with its namespace.
-/

namespace Schemata.Host

/-- The reserved words of the language. -/
def reservedWords : List String :=
  ["abstract", "as", "base", "bool", "break", "byte", "case", "catch", "char", "checked",
   "class", "const", "continue", "decimal", "default", "delegate", "do", "double", "else",
   "enum", "event", "explicit", "extern", "false", "finally", "fixed", "float", "for",
   "foreach", "goto", "if", "implicit", "in", "int", "interface", "internal", "is", "lock",
   "long", "namespace", "new", "null", "object", "operator", "out", "override", "params",
   "private", "protected", "public", "readonly", "ref", "return", "sbyte", "sealed", "short",
   "sizeof", "stackalloc", "static", "string", "struct", "switch", "this", "throw", "true",
   "try", "typeof", "uint", "ulong", "unchecked", "unsafe", "ushort", "using", "virtual",
   "void", "volatile", "while"]

/-- The names that the methods of a repository use themselves. -/
def repositoryNames : List String :=
  ["connection", "command", "reader", "result", "affected", "connectionString"]

/-- The identifier for a name. A reserved word gets an at sign in front. -/
def escapeIdentifier (name : String) : String :=
  if name ∈ reservedWords then "@" ++ name else name

/-- The identifier for the argument of a repository method. -/
def argumentName (name : String) : String :=
  if name ∈ repositoryNames then name ++ "Value" else escapeIdentifier name

/-- The property for a column in the class with the given name. -/
def propertyName (className : String) (column : Column) : String :=
  if column.pascalName = className then className ++ "Value" else column.pascalName

/-- The name by which other classes refer to a class in the given namespace. -/
def qualifiedClassName (space className : String) : String :=
  if className = "Task" then space ++ "." ++ className else className

end Schemata.Host
