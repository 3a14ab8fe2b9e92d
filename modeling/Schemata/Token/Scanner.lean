import Schemata.Token.Scan

/-!
# Scanning on demand

A scanner hands out the tokens of a text one at a time, as they are asked for. At a lexical error it
hands out the error, and from then on nothing.
-/

namespace Schemata.Token

/-- A scanner on its way through a text: where it stands, the text in front of it, and whether it
has met a lexical error. -/
structure Scanner where
  place : Position
  rest : List Char
  failed : Bool
  deriving DecidableEq, Repr

namespace Scanner

/-- The scanner at the beginning of a text. -/
def ofText (text : String) : Scanner :=
  ⟨.start, text.toList, false⟩

/-- What the scanner hands out when it is asked, and the scanner afterwards. -/
def ask (scanner : Scanner) : Option (Except LexError Token) × Scanner :=
  if scanner.failed then (none, scanner)
  else
    match Token.next scanner.place scanner.rest with
    | .error fault => (some (.error fault), { scanner with failed := true })
    | .ok none => (none, scanner)
    | .ok (some found) =>
      (some (.ok found.token), ⟨scanner.place.advance found.consumed, found.behind, false⟩)

/-- What the scanner hands out when it has been asked the given number of times before. -/
def answer (scanner : Scanner) : Nat → Option (Except LexError Token)
  | 0 => scanner.ask.1
  | asked + 1 => scanner.ask.2.answer asked

end Scanner

end Schemata.Token
