import Schemata.DataType

/-!
# Tokens of a definition text

A definition text is a sequence of words, bracketed values and punctuation. A word is one of six
reserved words, the keyword of a data type, a reference made of two names with a period between
them, or else a name. A run of blanks that crosses a line is a token of its own, because line breaks
separate columns.
-/

namespace Schemata

/-- A token of a definition text. -/
inductive Token where
  | name (word : String)
  | dataType (type : DataType)
  | value (text : String)
  /-- Two names joined by a period: a table and its column, or a schema and its table. -/
  | reference (table column : String)
  | primaryKey
  | foreignKey
  | null
  | unique
  | autoGenerate
  | default
  | comma
  | newLine
  | openTable
  | closeTable
  deriving DecidableEq, Repr

namespace Token

/-- The reserved words. -/
def reservedWords : List (String × Token) :=
  [("pk", primaryKey), ("null", null), ("fk", foreignKey), ("df", default), ("uq", unique),
   ("ag", autoGenerate)]

/-- The token of a reserved word, in any ASCII case. -/
def ofReserved? (word : String) : Option Token :=
  (reservedWords.find? fun entry => Text.sameWord entry.1 word).map Prod.snd

/-- The token as an error message names it. -/
def describe : Token → String
  | name word => "name '" ++ word ++ "'"
  | dataType type => "data type '" ++ type.keyword ++ "'"
  | value text => "value '[" ++ text ++ "]'"
  | reference table column => "reference '" ++ table ++ "." ++ column ++ "'"
  | primaryKey => "'pk'"
  | foreignKey => "'fk'"
  | null => "'null'"
  | unique => "'uq'"
  | autoGenerate => "'ag'"
  | default => "'df'"
  | comma => "','"
  | newLine => "newline"
  | openTable => "'\x7b'"
  | closeTable => "'\x7d'"

end Token

end Schemata
