/-!
# Positions in a text

A position counts lines and columns from one. Only a line feed ends a line, and every other
character, a carriage return included, takes one column.
-/

namespace Schemata

/-- A place in a text. -/
structure Position where
  line : Nat := 1
  column : Nat := 1
  deriving DecidableEq, Repr

namespace Position

/-- The first position of a text. -/
def start : Position := {}

/-- The position behind a character that stands at this one. -/
def after (position : Position) (c : Char) : Position :=
  if c = '\n' then ⟨position.line + 1, 1⟩ else ⟨position.line, position.column + 1⟩

/-- The position behind a text that starts at this one. -/
def advance (position : Position) (text : List Char) : Position :=
  text.foldl after position

/-- The position as an error message names it. -/
def describe (position : Position) : String :=
  "line " ++ toString position.line ++ ", column " ++ toString position.column

end Position

end Schemata
