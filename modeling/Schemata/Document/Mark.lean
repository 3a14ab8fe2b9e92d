import Schemata.Document.Quoted

/-!
# Marks of a settings document

The marks of a settings document are its words, quoted texts, punctuation and line breaks. Blanks
and comments separate marks and are dropped. A word is a run of letters, digits, underscores,
hyphens and plus signs; whether it is a key, a number or a truth value depends on where it stands.
-/

namespace Schemata.Document

/-- A mark of a settings document. -/
inductive Mark where
  | word (text : String)
  /-- A quoted text, which may be written over several lines. -/
  | quoted (multiline : Bool) (text : String)
  | dot
  | equals
  | comma
  | openBracket
  | closeBracket
  | openBrace
  | closeBrace
  | newLine
  deriving DecidableEq, Repr

/-- The characters of bare keys. -/
def isKeyChar (c : Char) : Bool :=
  c.isAlphanum || c == '_' || c == '-'

/-- The characters of words. -/
def isWordChar (c : Char) : Bool :=
  isKeyChar c || c == '+'

/-- The mark that a character is by itself. -/
def punctuation? (c : Char) : Option Mark :=
  match c with
  | '.' => some .dot
  | '=' => some .equals
  | ',' => some .comma
  | '[' => some .openBracket
  | ']' => some .closeBracket
  | '\x7b' => some .openBrace
  | '\x7d' => some .closeBrace
  | '\n' => some .newLine
  | _ => none

/-- Reads the quoted text behind an opening quote. Three quotes open a text over several lines, and
two quotes alone are an empty text. -/
def readQuoted (quote : Char) (text : List Char) : Option (Mark × List Char) :=
  let mark (multiline : Bool) (found : List Char × List Char) : Mark × List Char :=
    (.quoted multiline (String.ofList found.1), found.2)
  let style (multiline : Bool) : QuoteStyle := ⟨quote, quote == '"', multiline⟩
  if text.take 2 = [quote, quote] then
    (stringFrom (style true) .plain [] (dropBreak (text.drop 2))).map (mark true)
  else
    (stringFrom (style false) .plain [] text).map (mark false)

/-- Reads what begins with the character `c`: a mark, or blanks and comments, which are none.
Returns the text behind it. -/
def readMark (c : Char) (text : List Char) : Option (Option Mark × List Char) :=
  if isSpace c then some (none, text)
  else if c = '#' then some (none, text.dropWhile isPrintable)
  else if c = '\r' then
    if text.head? = some '\n' then some (some .newLine, text.drop 1) else none
  else if c = '"' ∨ c = '\x27' then
    (readQuoted c text).map fun found => (some found.1, found.2)
  else if isWordChar c then
    some (some (.word (String.ofList (c :: text.takeWhile isWordChar))), text.dropWhile isWordChar)
  else
    (punctuation? c).map fun mark => (some mark, text)

/-- A quoted text is read off the front of the text behind its first quote. -/
theorem readQuoted_length {quote : Char} {text behind : List Char} {mark : Mark}
    (h : readQuoted quote text = some (mark, behind)) : behind.length ≤ text.length := by
  unfold readQuoted at h
  simp only at h
  split at h
  · obtain ⟨⟨content, rest⟩, hread, heq⟩ := Option.map_eq_some_iff.1 h
    simp only [Prod.mk.injEq] at heq
    have hlength := stringFrom_length hread
    have hbreak := dropBreak_length (text.drop 2)
    simp only [List.length_drop] at hbreak
    rw [← heq.2]
    omega
  · obtain ⟨⟨content, rest⟩, hread, heq⟩ := Option.map_eq_some_iff.1 h
    simp only [Prod.mk.injEq] at heq
    exact heq.2 ▸ stringFrom_length hread

/-- A mark is read off the front of the text behind its first character. -/
theorem readMark_length {c : Char} {text behind : List Char} {mark : Option Mark}
    (h : readMark c text = some (mark, behind)) : behind.length ≤ text.length := by
  unfold readMark at h
  split at h
  · simp_all
  split at h
  · simp only [Option.some.injEq, Prod.mk.injEq] at h
    exact h.2 ▸ (List.dropWhile_suffix _).length_le
  split at h
  · split at h
    · simp only [Option.some.injEq, Prod.mk.injEq] at h
      simp [← h.2]
    · simp at h
  split at h
  · obtain ⟨⟨found, rest⟩, hread, heq⟩ := Option.map_eq_some_iff.1 h
    simp only [Prod.mk.injEq] at heq
    exact heq.2 ▸ readQuoted_length hread
  split at h
  · simp only [Option.some.injEq, Prod.mk.injEq] at h
    exact h.2 ▸ (List.dropWhile_suffix _).length_le
  · obtain ⟨found, _, heq⟩ := Option.map_eq_some_iff.1 h
    simp only [Prod.mk.injEq] at heq
    simp [← heq.2]

/-- The marks of a text, if it is made of marks, blanks and comments. -/
def marksOf (text : List Char) : Option (List Mark) :=
  match text with
  | [] => some []
  | c :: rest =>
    match h : readMark c rest with
    | none => none
    | some (mark, behind) =>
      have : behind.length < (c :: rest).length := Nat.lt_succ_of_le (readMark_length h)
      (marksOf behind).map (mark.toList ++ ·)
termination_by text.length
decreasing_by assumption

/-- The marks of a document, which may begin with a byte order mark. -/
def marks (text : String) : Option (List Mark) :=
  match text.toList with
  | '\uFEFF' :: rest => marksOf rest
  | chars => marksOf chars

end Schemata.Document
