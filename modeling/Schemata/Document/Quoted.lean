/-!
# Quoted texts of a settings document

A settings document is written in TOML, which has four kinds of quoted text: between double quotes
or single quotes, on one line or over several. Between double quotes a backslash introduces an
escape. A text over several lines is enclosed in three quotes; one or two further quotes may stand
inside it or right before its end, a line break behind the opening quotes does not count, and a
backslash at the end of a line drops the line break and all blanks behind it. Control characters are
not allowed.

A quoted text is read character by character by an automaton. `stringFrom_length` says that it never
leaves more text than it was given.
-/

namespace Schemata.Document

/-- The kinds of quoted text. -/
structure QuoteStyle where
  quote : Char
  escapes : Bool
  multiline : Bool
  deriving DecidableEq, Repr

/-- What the automaton has just read. -/
inductive QuoteMode where
  /-- An ordinary character. -/
  | plain
  /-- So many quotes in a row. -/
  | quotes (count : Nat)
  /-- A carriage return, which a line feed has to follow. -/
  | carriage
  /-- A backslash. -/
  | escape
  /-- The beginning of an escaped code point: the hexadecimal digits still to come and the value of
  those read. -/
  | code (left value : Nat)
  /-- Blanks behind a backslash, across a line break or not yet. -/
  | trim (broken : Bool)
  /-- A carriage return among those blanks. -/
  | trimCarriage
  deriving DecidableEq, Repr

/-- What one character does: it is refused, or it leads to another mode with the text found so far,
or it ends the text. A text can also end right before the character. -/
inductive QuoteStep where
  | refuse
  | proceed (mode : QuoteMode) (found : List Char)
  | finish (found : List Char)
  | finishBefore (found : List Char)
  deriving DecidableEq, Repr

/-- The characters that may stand in a comment or a quoted text: all but the control characters,
of which only the tab is allowed. -/
def isPrintable (c : Char) : Bool :=
  c == '\t' || (' ' ≤ c && c != '\x7f')

/-- A space or a tab. -/
def isSpace (c : Char) : Bool :=
  c == ' ' || c == '\t'

/-- The character that a one-letter escape stands for. -/
def escaped? (c : Char) : Option Char :=
  match c with
  | 'b' => some '\x08'
  | 't' => some '\t'
  | 'n' => some '\n'
  | 'f' => some '\x0c'
  | 'r' => some '\r'
  | 'e' => some '\x1b'
  | '"' => some '"'
  | '\\' => some '\\'
  | _ => none

/-- The number of hexadecimal digits that follow a letter in an escaped code point. -/
def codeLength? (c : Char) : Option Nat :=
  match c with
  | 'x' => some 2
  | 'u' => some 4
  | 'U' => some 8
  | _ => none

/-- The value of a hexadecimal digit. -/
def hexDigit? (c : Char) : Option Nat :=
  if c.isDigit then some (c.toNat - '0'.toNat)
  else if 'a' ≤ c ∧ c ≤ 'f' then some (c.toNat - 'a'.toNat + 10)
  else if 'A' ≤ c ∧ c ≤ 'F' then some (c.toNat - 'A'.toNat + 10)
  else none

/-- The character with a code point, which must not be a surrogate. -/
def scalar? (code : Nat) : Option Char :=
  if code < 0xD800 ∨ 0xDFFF < code ∧ code < 0x110000 then some (Char.ofNat code) else none

/-- One character behind an ordinary one. -/
def plainStep (style : QuoteStyle) (found : List Char) (c : Char) : QuoteStep :=
  if c = style.quote then
    if style.multiline then .proceed (.quotes 1) found else .finish found
  else if c = '\\' ∧ style.escapes then .proceed .escape found
  else if c = '\n' ∧ style.multiline then .proceed .plain (found ++ [c])
  else if c = '\r' ∧ style.multiline then .proceed .carriage (found ++ [c])
  else if isPrintable c then .proceed .plain (found ++ [c])
  else .refuse

/-- One character behind quotes in a row. Five quotes are two that belong to the text and three that
end it. -/
def quotesStep (style : QuoteStyle) (count : Nat) (found : List Char) (c : Char) : QuoteStep :=
  if c = style.quote then
    if count = 4 then .finish (found ++ List.replicate 2 style.quote)
    else .proceed (.quotes (count + 1)) found
  else if 3 ≤ count then .finishBefore (found ++ List.replicate (count - 3) style.quote)
  else plainStep style (found ++ List.replicate count style.quote) c

/-- One character behind a backslash. -/
def escapeStep (style : QuoteStyle) (found : List Char) (c : Char) : QuoteStep :=
  match escaped? c, codeLength? c with
  | some char, _ => .proceed .plain (found ++ [char])
  | none, some length => .proceed (.code length 0) found
  | none, none =>
    if !style.multiline then .refuse
    else if isSpace c then .proceed (.trim false) found
    else if c = '\n' then .proceed (.trim true) found
    else if c = '\r' then .proceed .trimCarriage found
    else .refuse

/-- One hexadecimal digit of an escaped code point. -/
def codeStep (left value : Nat) (found : List Char) (c : Char) : QuoteStep :=
  match hexDigit? c with
  | none => .refuse
  | some digit =>
    let code := 16 * value + digit
    if 1 < left then .proceed (.code (left - 1) code) found
    else
      match scalar? code with
      | some char => .proceed .plain (found ++ [char])
      | none => .refuse

/-- One character behind the blanks that a backslash drops. -/
def trimStep (style : QuoteStyle) (broken : Bool) (found : List Char) (c : Char) : QuoteStep :=
  if isSpace c then .proceed (.trim broken) found
  else if c = '\n' then .proceed (.trim true) found
  else if c = '\r' then .proceed .trimCarriage found
  else if broken then plainStep style found c
  else .refuse

/-- One character of a quoted text. -/
def quoteStep (style : QuoteStyle) (mode : QuoteMode) (found : List Char) (c : Char) : QuoteStep :=
  match mode with
  | .plain => plainStep style found c
  | .quotes count => quotesStep style count found c
  | .carriage => if c = '\n' then .proceed .plain (found ++ [c]) else .refuse
  | .escape => escapeStep style found c
  | .code left value => codeStep left value found c
  | .trim broken => trimStep style broken found c
  | .trimCarriage => if c = '\n' then .proceed (.trim true) found else .refuse

/-- Reads a quoted text behind its opening quotes. Returns the text and what stands behind it. -/
def stringFrom (style : QuoteStyle) (mode : QuoteMode) (found : List Char) :
    List Char → Option (List Char × List Char)
  | [] =>
    match mode with
    | .quotes count =>
      if 3 ≤ count then some (found ++ List.replicate (count - 3) style.quote, []) else none
    | _ => none
  | c :: rest =>
    match quoteStep style mode found c with
    | .refuse => none
    | .proceed mode found => stringFrom style mode found rest
    | .finish found => some (found, rest)
    | .finishBefore found => some (found, c :: rest)

/-- A quoted text is read off the front of a text. -/
theorem stringFrom_length {style : QuoteStyle} {mode : QuoteMode}
    {found text content behind : List Char}
    (h : stringFrom style mode found text = some (content, behind)) :
    behind.length ≤ text.length := by
  induction text generalizing mode found with
  | nil =>
      simp only [stringFrom] at h
      split at h
      · split at h
        · simp only [Option.some.injEq, Prod.mk.injEq] at h
          simp [← h.2]
        · simp at h
      · simp at h
  | cons c rest ih =>
      simp only [stringFrom] at h
      split at h
      · simp at h
      · exact Nat.le_succ_of_le (ih h)
      · simp only [Option.some.injEq, Prod.mk.injEq] at h
        simp [← h.2]
      · simp only [Option.some.injEq, Prod.mk.injEq] at h
        simp [← h.2]

/-- The text without the line break at its front. -/
def dropBreak (text : List Char) : List Char :=
  match text with
  | '\n' :: rest => rest
  | '\r' :: '\n' :: rest => rest
  | _ => text

/-- Dropping a line break leaves no more text. -/
theorem dropBreak_length (text : List Char) : (dropBreak text).length ≤ text.length := by
  unfold dropBreak
  split <;> simp
  omega

end Schemata.Document
