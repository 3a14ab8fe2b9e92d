import Schemata.Text.Casing
import Schemata.Text.Numeric
import Schemata.Text.Uppercase

/-!
# The three spellings of a name

A table or column has one name with three spellings. The storage name is the one in the database,
`created_date`; the Pascal name is the one of a class or property, `CreatedDate`; the camel name is
the one of a parameter or variable, `createdDate`. Pascal and camel names are the host names: they
hold letters and numerals only and differ in the case of their first letter.
-/

namespace Schemata

open Text

/-- The storage spelling of a character after the first: a capital becomes an underscore and its
lower-case form. -/
def storageInner (c : Char) : List Char :=
  if isUppercase c then '_' :: lower c else [c]

/-- The storage spelling of the first character: a capital becomes its lower-case form. -/
def storageFirst (c : Char) : List Char :=
  if isUppercase c then lower c else [c]

/-- The storage spelling of a name, character by character. -/
def storageChars : List Char → List Char
  | [] => []
  | c :: rest => storageFirst c ++ rest.flatMap storageInner

/-- The storage name: each capital after the first character opens a new word, and words are joined
by underscores. A name without capitals is unchanged. -/
def storageName (name : String) : String :=
  String.ofList (storageChars name.toList)

/-- The host spelling of the characters of a name. The first letter takes the form that `initial`
gives it, a letter or numeral right after an underscore is put in upper case, other letters and
numerals stay, and everything else is dropped. The two flags say whether a letter was already seen
and whether the preceding character is an underscore. -/
def hostChars (initial : Char → List Char) (begun opensWord : Bool) : List Char → List Char
  | [] => []
  | c :: rest =>
    let piece :=
      if !begun && isAlphabetic c then initial c
      else if isAlphanumeric c then
        if opensWord then upper c else [c]
      else []
    piece ++ hostChars initial (begun || isAlphabetic c) (c == '_') rest

/-- The host name whose first letter is in upper case. -/
def pascalName (name : String) : String :=
  String.ofList (hostChars upper false false name.toList)

/-- The host name whose first letter is in lower case. -/
def camelName (name : String) : String :=
  String.ofList (hostChars lower false false name.toList)

end Schemata
