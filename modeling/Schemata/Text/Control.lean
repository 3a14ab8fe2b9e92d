import Schemata.Text.CodeRange

/-!
# Terminal controls

Some control characters make a terminal ring, erase or obey. In a message they are shown by their
code instead: in two hexadecimal digits if they are in ASCII, and in braces if they are beyond it.
Tabs, line breaks and the other control characters are left as they are.
-/

namespace Schemata.Text

/-- The characters that a terminal acts on: bell, backspace, form feed, escape, delete, and the
control characters beyond ASCII. -/
def terminalControls : List CodeRange :=
  [⟨0x07, 0x08⟩, ⟨0x0C, 0x0C⟩, ⟨0x1B, 0x1B⟩, ⟨0x7F, 0x9F⟩]

/-- The code of a character in hexadecimal digits, at least two of them. -/
def hexCode (c : Char) : List Char :=
  let digits := Nat.toDigits 16 c.toNat
  if c.toNat < 0x10 then '0' :: digits else digits

/-- A character as a message shows it. -/
def shownChar (c : Char) : List Char :=
  if !inRanges terminalControls c then [c]
  else if c.toNat < 0x80 then "\\x".toList ++ hexCode c
  else "\\u\x7b".toList ++ hexCode c ++ "\x7d".toList

/-- A text as a message shows it. -/
def shown (text : String) : String :=
  String.ofList (text.toList.flatMap shownChar)

end Schemata.Text
