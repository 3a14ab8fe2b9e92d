import Schemata.Text.CodeRange

/-!
# Blank characters

A blank is a character with the Unicode property White_Space: the six ASCII blanks, the no-break
space, the line and paragraph separators and the typographic spaces. Line breaks are the two of them
that end a line of a definition text.
-/

namespace Schemata.Text

/-- The characters with the property White_Space. -/
def blanks : List CodeRange :=
  [⟨0x09, 0x0D⟩, ⟨0x20, 0x20⟩, ⟨0x85, 0x85⟩, ⟨0xA0, 0xA0⟩, ⟨0x1680, 0x1680⟩, ⟨0x2000, 0x200A⟩,
   ⟨0x2028, 0x2029⟩, ⟨0x202F, 0x202F⟩, ⟨0x205F, 0x205F⟩, ⟨0x3000, 0x3000⟩]

/-- The character separates words. -/
def isBlank (c : Char) : Bool :=
  inRanges blanks c

/-- The character is a line feed or a carriage return. -/
def isLineBreak (c : Char) : Bool :=
  c == '\n' || c == '\r'

end Schemata.Text
