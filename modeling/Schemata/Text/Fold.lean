/-!
# Comparing words without regard to ASCII case

Keywords are recognised in any mixture of upper and lower case. Only the letters `A` to `Z` are
identified with their small forms; every other character has to agree exactly.
-/

namespace Schemata.Text

/-- The word with its ASCII letters in lower case. -/
def fold (word : String) : List Char :=
  word.toList.map Char.toLower

/-- The two words differ at most in the case of ASCII letters. -/
def sameWord (left right : String) : Bool :=
  fold left == fold right

end Schemata.Text
