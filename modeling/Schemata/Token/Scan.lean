import Schemata.Error
import Schemata.Text.Blank
import Schemata.Text.Numeric

/-!
# Scanning a definition text into tokens

`Token.next` reads one token from the front of a text and `Token.scan` reads all of them, up to the
first lexical error. Blanks are skipped unless they cross a line. A word extends as far as possible,
up to a blank or one of the five delimiters; within a word only letters, numerals, underscores,
hyphens and one period are allowed, and the first character that breaks this rule is reported.
Inside a bracketed value blanks are dropped. `next_append` says that reading a token splits the text
in two without losing a character, and `next_length` that it always makes progress.
-/

namespace Schemata.Token

open Text

/-- The characters that end a word without being blank. -/
def isDelimiter (c : Char) : Bool :=
  c == '[' || c == ']' || c == '\x7b' || c == '\x7d' || c == ','

/-- The characters that continue a word, allowed in it or not. -/
def continuesWord (c : Char) : Bool :=
  !isBlank c && !isDelimiter c

/-- The characters a name is made of. -/
def isNameChar (c : Char) : Bool :=
  isAlphanumeric c || c == '_' || c == '-'

/-- The first fault of a word that starts at `start`, where `before` is the part of the word already
found sound: a second period, or a character that no word may hold. -/
def wordFault? (start : Position) (before : List Char) : List Char → Option LexError
  | [] => none
  | c :: rest =>
    if c = '.' then
      if '.' ∈ before then some (.multipleDots (String.ofList (before ++ [c])) start)
      else wordFault? start (before ++ [c]) rest
    else if isNameChar c then wordFault? start (before ++ [c]) rest
    else some (.unexpectedChar c (start.advance before))

/-- The part of a word before its first period. -/
def beforeDot (word : List Char) : List Char :=
  word.takeWhile (· != '.')

/-- The part of a word after its first period. -/
def afterDot (word : List Char) : List Char :=
  (word.dropWhile (· != '.')).drop 1

/-- The token a sound word stands for. Reserved words come first, then references, then the keywords
of data types, and every other word is a name. -/
def classify (start : Position) (word : List Char) : Except LexError Token :=
  let text := String.ofList word
  match ofReserved? text with
  | some token => .ok token
  | none =>
    if '.' ∈ word then
      if (beforeDot word).isEmpty || (afterDot word).isEmpty then
        .error (.emptyReferencePart text start)
      else
        .ok (reference (String.ofList (beforeDot word)) (String.ofList (afterDot word)))
    else
      match DataType.ofKeyword? text with
      | some type => .ok (dataType type)
      | none => .ok (name text)

/-- The token of a word that starts at `start`. -/
def ofWord (start : Position) (word : List Char) : Except LexError Token :=
  match wordFault? start [] word with
  | some fault => .error fault
  | none => classify start word

/-- A token read from the front of a text: the characters that were consumed to read it, skipped
blanks included, and the text behind it. -/
structure Reading where
  token : Token
  consumed : List Char
  behind : List Char
  deriving DecidableEq, Repr

/-- Reads a bracketed value whose opening bracket stands at `start`, in front of `text`. -/
def readValue (start : Position) (text : List Char) : Except LexError Reading :=
  let inner := text.takeWhile (· != ']')
  if inner.any isLineBreak then .error (.newlineInValue start)
  else
    match text.dropWhile (· != ']') with
    | [] => .error (.unterminatedValue start)
    | closing :: behind =>
      let content := inner.filter (!isBlank ·)
      if content.isEmpty then .error (.emptyValue start)
      else .ok ⟨value (String.ofList content), '[' :: inner ++ [closing], behind⟩

/-- Reads the word that begins with the character `c` at `start`. -/
def readWord (start : Position) (c : Char) (text : List Char) : Except LexError Reading :=
  let word := c :: text.takeWhile continuesWord
  match ofWord start word with
  | .error fault => .error fault
  | .ok token => .ok ⟨token, word, text.dropWhile continuesWord⟩

/-- Reads the token that begins with the character `c` at `start`, which is not blank. -/
def lexeme (start : Position) (c : Char) (text : List Char) : Except LexError Reading :=
  if c = ',' then .ok ⟨comma, [c], text⟩
  else if c = '\x7b' then .ok ⟨openTable, [c], text⟩
  else if c = '\x7d' then .ok ⟨closeTable, [c], text⟩
  else if c = ']' then .error (.unexpectedChar c start)
  else if c = '[' then readValue start text
  else readWord start c text

/-- Reads the first token of a text that starts at `start`. The answer is `none` if only blanks
without a line break are left. -/
def next (start : Position) (text : List Char) : Except LexError (Option Reading) :=
  let blanks := text.takeWhile isBlank
  let rest := text.dropWhile isBlank
  if blanks.any isLineBreak then .ok (some ⟨newLine, blanks, rest⟩)
  else
    match rest with
    | [] => .ok none
    | c :: behind =>
      match lexeme (start.advance blanks) c behind with
      | .error fault => .error fault
      | .ok found => .ok (some { found with consumed := blanks ++ found.consumed })

/-- A bracketed value is read off the front of the text behind its bracket. -/
theorem readValue_append {start : Position} {text : List Char} {found : Reading}
    (h : readValue start text = .ok found) : found.consumed ++ found.behind = '[' :: text := by
  unfold readValue at h
  simp only at h
  split at h
  · simp at h
  · split at h
    · simp at h
    · rename_i closing behind hdrop
      split at h
      · simp at h
      · cases h
        simp only [List.cons_append, List.append_assoc, List.nil_append, ← hdrop,
          List.takeWhile_append_dropWhile]

/-- The token that begins with a character is read off the front of the text. -/
theorem lexeme_append {start : Position} {c : Char} {text : List Char} {found : Reading}
    (h : lexeme start c text = .ok found) :
    found.consumed ++ found.behind = c :: text ∧ found.consumed ≠ [] := by
  unfold lexeme at h
  split at h
  · cases h; simp
  split at h
  · cases h; simp
  split at h
  · cases h; simp
  split at h
  · simp at h
  split at h
  · rename_i hopen
    have happend := readValue_append h
    refine ⟨hopen ▸ happend, fun hnil => ?_⟩
    unfold readValue at h
    simp only at h
    split at h
    · simp at h
    · split at h
      · simp at h
      · split at h
        · simp at h
        · cases h; simp at hnil
  · unfold readWord at h
    simp only at h
    split at h
    · simp at h
    · cases h; simp

/-- Reading a token splits the text into what was consumed, which is not empty, and the rest. -/
theorem next_append {start : Position} {text : List Char} {found : Reading}
    (h : next start text = .ok (some found)) :
    found.consumed ++ found.behind = text ∧ found.consumed ≠ [] := by
  unfold next at h
  simp only at h
  split at h
  · rename_i hbreak
    cases h
    refine ⟨List.takeWhile_append_dropWhile, fun hnil => ?_⟩
    simp only at hnil
    simp [hnil] at hbreak
  · split at h
    · simp at h
    · rename_i c behind hrest
      split at h
      · simp at h
      · rename_i token htoken
        cases h
        obtain ⟨happend, hne⟩ := lexeme_append htoken
        refine ⟨?_, by simp [hne]⟩
        simp only [List.append_assoc, happend, ← hrest, List.takeWhile_append_dropWhile]

/-- Reading a token leaves a shorter text. -/
theorem next_length {start : Position} {text : List Char} {found : Reading}
    (h : next start text = .ok (some found)) : found.behind.length < text.length := by
  obtain ⟨happend, hne⟩ := next_append h
  have hpos := List.length_pos_iff.2 hne
  rw [← happend, List.length_append]
  omega

/-- What scanning a text yields: the tokens before the first lexical error, and that error if the
text has one. -/
structure Scan where
  tokens : List Token
  failure : Option LexError
  deriving DecidableEq, Repr

/-- The scan with one more token in front. -/
def Scan.push (token : Token) (scan : Scan) : Scan :=
  { scan with tokens := token :: scan.tokens }

/-- Scans a text that starts at `start`. -/
def scanFrom (start : Position) (text : List Char) : Scan :=
  match h : next start text with
  | .error fault => ⟨[], some fault⟩
  | .ok none => ⟨[], none⟩
  | .ok (some found) =>
    have : found.behind.length < text.length := next_length h
    (scanFrom (start.advance found.consumed) found.behind).push found.token
termination_by text.length
decreasing_by assumption

/-- Scans a whole text. -/
def scan (text : String) : Scan :=
  scanFrom .start text.toList

/-- The tokens of a text, or its first lexical error. -/
def tokenize (text : String) : Except LexError (List Token) :=
  match scan text with
  | ⟨_, some fault⟩ => .error fault
  | ⟨tokens, none⟩ => .ok tokens

end Schemata.Token
