/-!
# Lines of a text

A line ends at a line feed, and a carriage return right before that line feed belongs to the line
end. The last line may lack its line end, in which case a trailing carriage return is part of the
line. A text that ends in a line feed has no further empty line after it, and the empty text has no
line at all.
-/

namespace Schemata.Text

/-- The line without the carriage return that ends it, if there is one. -/
def dropReturn (line : List Char) : List Char :=
  if line.getLast? = some '\r' then line.dropLast else line

/-- The lines of the text `current ++ rest`, of which `current` has no line feed. -/
def linesFrom (current : List Char) : List Char → List (List Char)
  | [] => if current.isEmpty then [] else [current]
  | c :: rest =>
    if c = '\n' then dropReturn current :: linesFrom [] rest
    else linesFrom (current ++ [c]) rest

/-- The lines of a text, in order and without their line ends. -/
def lines (text : String) : List String :=
  (linesFrom [] text.toList).map String.ofList

end Schemata.Text
