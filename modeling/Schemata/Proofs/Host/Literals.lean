import Schemata.Host.Repository
import Schemata.Proofs.Definition.Words
import Schemata.Proofs.Text.Reading

/-!
# String literals of classes

`literals` reads the string literals from a text of the host language, each with the code of its row
in front of it. In an ordinary literal a backslash escapes the next character. A literal behind an
at sign is verbatim: a double quote is written twice in it, and it can go on over several rows. By
`reads_command` a statement that a repository embeds in a verbatim literal is read back, with the
indentation of its rows, and by `reads_bind_line` so is the name of a parameter that it binds.
-/

namespace Schemata.Host

open Text
open Repository (verbatim)

/-! ## Texts in verbatim literals -/

/-- The characters of a text inside a verbatim literal. -/
def verbatimChars (text : List Char) : List Char :=
  text.flatMap fun c => if c = '"' then ['"', '"'] else [c]

/-- A text in front of another one inside a verbatim literal. -/
theorem verbatim_chars_append (left right : List Char) :
    verbatimChars (left ++ right) = verbatimChars left ++ verbatimChars right :=
  List.flatMap_append

/-- A character that is not a double quote stays as it is. -/
theorem verbatim_chars_cons {c : Char} (h : c ≠ '"') (rest : List Char) :
    verbatimChars (c :: rest) = c :: verbatimChars rest := by
  rw [verbatimChars, List.flatMap_cons, if_neg h]
  rfl

/-- A double quote is written twice. -/
theorem verbatim_chars_quote (rest : List Char) :
    verbatimChars ('"' :: rest) = '"' :: '"' :: verbatimChars rest :=
  rfl

/-- A text without double quotes stays as it is. -/
theorem verbatim_chars_eq {text : List Char} (h : '"' ∉ text) : verbatimChars text = text := by
  induction text with
  | nil => rfl
  | cons c text ih =>
      rw [List.mem_cons, not_or] at h
      rw [verbatim_chars_cons (Ne.symm h.1), ih h.2]

/-- The end of a line inside a verbatim literal. -/
theorem drop_return_verbatim (line : List Char) :
    dropReturn (verbatimChars line) = verbatimChars (dropReturn line) := by
  rcases List.eq_nil_or_concat line with rfl | ⟨init, last, rfl⟩
  · rfl
  · rw [List.concat_eq_append]
    by_cases hquote : last = '"'
    · have hlast : verbatimChars ['"'] = ['"', '"'] := rfl
      simp [dropReturn, hquote, verbatim_chars_append, hlast]
    · have hlast : verbatimChars [last] = [last] := verbatim_chars_cons hquote []
      by_cases hreturn : last = '\r'
      · rw [hreturn] at hlast
        simp [dropReturn, hreturn, verbatim_chars_append, hlast]
      · simp [dropReturn, hreturn, verbatim_chars_append, hlast]

/-- The lines of a text inside a verbatim literal are those of the text. -/
theorem lines_from_verbatim (current text : List Char) :
    linesFrom (verbatimChars current) (verbatimChars text) =
      (linesFrom current text).map verbatimChars := by
  induction text generalizing current with
  | nil =>
      have hempty : (verbatimChars current).isEmpty = current.isEmpty := by
        cases current with
        | nil => rfl
        | cons c current =>
            by_cases hquote : c = '"'
            · rw [hquote, verbatim_chars_quote]
              rfl
            · rw [verbatim_chars_cons hquote]
              rfl
      rw [show verbatimChars [] = [] from rfl, linesFrom, linesFrom, hempty]
      split <;> rfl
  | cons c text ih =>
      by_cases hquote : c = '"'
      · have hnext : verbatimChars (current ++ ['"']) =
            verbatimChars current ++ ['"'] ++ ['"'] := by
          rw [verbatim_chars_append, List.append_assoc]
          rfl
        rw [hquote, verbatim_chars_quote, linesFrom, if_neg (by decide), linesFrom,
          if_neg (by decide), linesFrom, if_neg (by decide), ← hnext, ih]
      · rw [verbatim_chars_cons hquote, linesFrom, linesFrom]
        split
        · rw [drop_return_verbatim, List.map_cons]
          exact congrArg _ (ih [])
        · rw [← ih, verbatim_chars_append, verbatim_chars_cons hquote]
          rfl

/-- The characters of a text inside a verbatim literal. -/
theorem verbatim_chars (text : String) : (verbatim text).toList = verbatimChars text.toList :=
  String.toList_ofList

/-- The lines of a text inside a verbatim literal are those of the text. -/
theorem lines_verbatim (text : String) : lines (verbatim text) = (lines text).map verbatim := by
  have hfrom := lines_from_verbatim [] text.toList
  rw [lines, verbatim_chars, lines, List.map_map]
  refine (congrArg (List.map String.ofList) hfrom).trans ?_
  rw [List.map_map]
  refine List.map_congr_left fun line _ => String.toList_inj.1 ?_
  rw [Function.comp_apply, Function.comp_apply, verbatim_chars, String.toList_ofList,
    String.toList_ofList]

/-- Texts inside a verbatim literal with a separator between them. -/
theorem verbatim_intercalate {separator : String} (h : '"' ∉ separator.toList)
    (pieces : List String) :
    (separator.intercalate (pieces.map verbatim)).toList =
      verbatimChars (separator.intercalate pieces).toList := by
  induction pieces with
  | nil => rfl
  | cons piece rest ih =>
      cases rest with
      | nil =>
          rw [List.map_singleton, String.intercalate_singleton, String.intercalate_singleton,
            verbatim_chars]
      | cons next rest =>
          rw [List.map_cons] at ih
          simp only [List.map_cons, String.intercalate_cons_cons, String.toList_append, ih,
            verbatim_chars, verbatim_chars_append, verbatim_chars_eq h]

/-- A text that is not empty has a line. -/
theorem lines_ne_nil {text : String} (h : text.toList ≠ []) : lines text ≠ [] := by
  have hfrom {current chars : List Char} (hne : current ++ chars ≠ []) :
      linesFrom current chars ≠ [] := by
    induction chars generalizing current with
    | nil =>
        rw [List.append_nil] at hne
        simp [linesFrom, hne]
    | cons c chars ih =>
        rw [linesFrom]
        split
        · simp
        · exact ih (by simp)
  rw [lines, ne_eq, List.map_eq_nil_iff]
  exact hfrom h

/-! ## The reader -/

/-- Where a reader of string literals stands. Behind code it keeps what it has seen of the row, and
in a literal the code in front of it and what it has seen of the literal. -/
inductive Place where
  | code (front : List Char)
  | ordinary (front content : List Char)
  /-- Behind a backslash in an ordinary literal. -/
  | escape (front content : List Char)
  | verbatim (front content : List Char)
  /-- Behind a double quote in a verbatim literal, which ends the literal unless a second one
  follows. -/
  | quote (front content : List Char)

/-- The reader stands in code behind one more character. -/
def Place.behind (front : List Char) (c : Char) : Place :=
  if c = '\n' then .code [] else .code (front ++ [c])

/-- The string literals in the rest of a text, each with the code of its row in front of it. -/
def literalsFrom : Place → List Char → List (String × String)
  | .quote front content, [] => [(.ofList front, .ofList content)]
  | _, [] => []
  | .code front, c :: rest =>
    if c ≠ '"' then literalsFrom (.behind front c) rest
    else if front.getLast? = some '@' then literalsFrom (.verbatim front []) rest
    else literalsFrom (.ordinary front []) rest
  | .ordinary front content, c :: rest =>
    if c = '"' then (.ofList front, .ofList content) :: literalsFrom (.code []) rest
    else if c = '\\' then literalsFrom (.escape front content) rest
    else literalsFrom (.ordinary front (content ++ [c])) rest
  | .escape front content, c :: rest => literalsFrom (.ordinary front (content ++ ['\\', c])) rest
  | .verbatim front content, c :: rest =>
    if c = '"' then literalsFrom (.quote front content) rest
    else literalsFrom (.verbatim front (content ++ [c])) rest
  | .quote front content, c :: rest =>
    if c = '"' then literalsFrom (.verbatim front (content ++ ['"'])) rest
    else (.ofList front, .ofList content) :: literalsFrom (.behind [] c) rest

/-- The string literals in a text, each with the code of its row in front of it. -/
def literals (source : String) : List (String × String) :=
  literalsFrom (.code []) source.toList

/-- The string literals in a text that stand behind the given code, in order. -/
def literalsBehind (call source : String) : List String :=
  ((literals source).filter fun literal => call.toList.isSuffixOf literal.1.toList).map (·.2)

/-- The text is read as the given literals, and the reader stands at the start of a row behind
it. -/
def Reads (text : String) (found : List (String × String)) : Prop :=
  ∀ rest, literalsFrom (.code []) (text.toList ++ rest) = found ++ literalsFrom (.code []) rest

/-- Texts are read one after the other. -/
theorem Reads.append {left right : String} {first second : List (String × String)}
    (hleft : Reads left first) (hright : Reads right second) :
    Reads (left ++ right) (first ++ second) := by
  intro rest
  rw [String.toList_append, List.append_assoc, hleft, hright, List.append_assoc]

/-- The literals of a text that is read as a whole. -/
theorem Reads.literals_eq {text : String} {found : List (String × String)} (h : Reads text found) :
    literals text = found := by
  have hall := h []
  rw [List.append_nil, show literalsFrom (.code []) [] = [] from rfl, List.append_nil] at hall
  exact hall

section Rows

variable {front begun rest : List Char}

/-- Code without double quotes is skipped up to the end of its row. -/
theorem code_skipped {text : List Char} (h : '"' ∉ text) :
    literalsFrom (.code front) (text ++ '\n' :: rest) = literalsFrom (.code []) rest := by
  induction text generalizing front with
  | nil => rw [List.nil_append, literalsFrom, if_pos (by decide), Place.behind, if_pos rfl]
  | cons c text ih =>
      rw [List.mem_cons, not_or] at h
      rw [List.cons_append, literalsFrom, if_pos (Ne.symm h.1), Place.behind]
      split
      · exact ih h.2
      · exact ih h.2

/-- Code without double quotes is kept within its row. -/
theorem code_kept {text : List Char} (h : '"' ∉ text) (hrow : '\n' ∉ text) :
    literalsFrom (.code front) (text ++ rest) = literalsFrom (.code (front ++ text)) rest := by
  induction text generalizing front with
  | nil => rw [List.nil_append, List.append_nil]
  | cons c text ih =>
      rw [List.mem_cons, not_or] at h hrow
      rw [List.cons_append, literalsFrom, if_pos (Ne.symm h.1), Place.behind,
        if_neg (Ne.symm hrow.1), ih h.2 hrow.2, List.append_assoc, List.singleton_append]

/-- An ordinary literal ends at the next double quote if nothing in it is escaped. -/
theorem ordinary_read {text : List Char} (h : '"' ∉ text) (hescape : '\\' ∉ text) :
    literalsFrom (.ordinary front begun) (text ++ '"' :: rest) =
      (.ofList front, .ofList (begun ++ text)) :: literalsFrom (.code []) rest := by
  induction text generalizing begun with
  | nil => rw [List.nil_append, literalsFrom, if_pos rfl, List.append_nil]
  | cons c text ih =>
      rw [List.mem_cons, not_or] at h hescape
      rw [List.cons_append, literalsFrom, if_neg (Ne.symm h.1), if_neg (Ne.symm hescape.1),
        ih h.2 hescape.2, List.append_assoc, List.singleton_append]

/-- A text in a verbatim literal is read back. -/
theorem verbatim_read {c : Char} (h : c ≠ '"') (text : List Char) :
    literalsFrom (.verbatim front begun) (verbatimChars text ++ '"' :: c :: rest) =
      (.ofList front, .ofList (begun ++ text)) :: literalsFrom (.behind [] c) rest := by
  induction text generalizing begun with
  | nil =>
      rw [show verbatimChars [] = [] from rfl, List.nil_append, literalsFrom, if_pos rfl,
        literalsFrom, if_neg h, List.append_nil]
  | cons d text ih =>
      by_cases hquote : d = '"'
      · rw [hquote, verbatim_chars_quote, List.cons_append, List.cons_append, literalsFrom,
          if_pos rfl, literalsFrom, if_pos rfl, ih, List.append_assoc, List.singleton_append]
      · rw [verbatim_chars_cons hquote, List.cons_append, literalsFrom, if_neg hquote, ih,
          List.append_assoc, List.singleton_append]

end Rows

/-! ## Rows of a method -/

/-- A row of code without double quotes holds no literal. -/
theorem reads_code {text : String} (h : '"' ∉ text.toList) : Reads (text ++ "\n") [] := by
  intro rest
  rw [String.toList_append, List.append_assoc, List.nil_append]
  exact code_skipped h

/-- Rows of code without double quotes hold no literal. -/
theorem reads_unlines {lines : List String} (h : ∀ line ∈ lines, '"' ∉ line.toList) :
    Reads (unlines lines) [] := by
  induction lines with
  | nil => exact fun rest => rfl
  | cons line lines ih =>
      rw [List.forall_mem_cons] at h
      rw [unlines_cons]
      exact (reads_code h.1).append (ih h.2)

variable {indentation : String} (hindentation : IsBlankText indentation)

include hindentation

/-- Indentation holds no double quote. -/
theorem quote_not_mem_indentation : '"' ∉ indentation.toList := fun hmem =>
  absurd (hindentation _ hmem) (by decide)

/-- The row that binds a parameter holds the name of the parameter. -/
theorem reads_bind_line (hrow : '\n' ∉ indentation.toList) {parameter value : String}
    (hparameter : IsPlainText parameter) (hvalue : '"' ∉ value.toList) :
    Reads (indentation ++ ("command.Parameters.AddWithValue(\"" ++ parameter ++ "\", " ++ value
      ++ ");") ++ "\n") [(indentation ++ "command.Parameters.AddWithValue(", parameter)] := by
  intro rest
  have hchars : (indentation ++ ("command.Parameters.AddWithValue(\"" ++ parameter ++ "\", "
      ++ value ++ ");") ++ "\n").toList ++ rest =
        (indentation ++ "command.Parameters.AddWithValue(").toList ++ ('"' :: (parameter.toList ++
          '"' :: ((", " ++ value ++ ");").toList ++ '\n' :: rest))) := by
    simp
  have hfront : '"' ∉ (indentation ++ "command.Parameters.AddWithValue(").toList := by
    simp [quote_not_mem_indentation hindentation]
  rw [hchars, code_kept hfront (by simp [hrow]), List.nil_append, literalsFrom,
    if_neg (by simp), if_neg (by simp), ordinary_read (hparameter.not_mem (by decide))
    (hparameter.not_mem (by decide)), code_skipped (by simp [hvalue]), String.ofList_toList,
    List.nil_append, String.ofList_toList, List.singleton_append]

/-- The rows of a command hold the statement, whose lines are indented. -/
theorem reads_command (hrow : '\n' ∉ indentation.toList) {sql : String} (hsql : sql.toList ≠ []) :
    Reads (unlines (alignedRows indentation "var command = new NpgsqlCommand(@\""
      "\", connection);" (brokenLines (verbatim sql))))
      [(indentation ++ "var command = new NpgsqlCommand(@",
        ("\n" ++ indentation).intercalate (lines sql))] := by
  intro rest
  rw [← lines_eq]
  have hbreak : '"' ∉ ("\n" ++ indentation).toList := by
    simp [quote_not_mem_indentation hindentation]
  have hlines : lines (verbatim sql) ≠ [] := by
    rw [lines_verbatim, ne_eq, List.map_eq_nil_iff]
    exact lines_ne_nil hsql
  have hchars : (unlines (alignedRows indentation "var command = new NpgsqlCommand(@\""
      "\", connection);" (lines (verbatim sql)))).toList ++ rest =
        (indentation ++ "var command = new NpgsqlCommand(@").toList ++ ('"' :: (verbatimChars
          (("\n" ++ indentation).intercalate (lines sql)).toList ++ '"' :: ',' ::
            (" connection);".toList ++ '\n' :: rest))) := by
    rw [unlines_aligned_rows _ _ _ hlines, lines_verbatim]
    simp only [String.toList_append, verbatim_intercalate hbreak]
    simp
  have hfront : '"' ∉ (indentation ++ "var command = new NpgsqlCommand(@").toList := by
    simp [quote_not_mem_indentation hindentation]
  rw [hchars, code_kept hfront (by simp [hrow]), List.nil_append, literalsFrom,
    if_neg (by simp), if_pos (by simp), verbatim_read (by decide), Place.behind,
    if_neg (by decide), code_skipped (by decide), String.ofList_toList, List.nil_append,
    String.ofList_toList, List.singleton_append]

end Schemata.Host
