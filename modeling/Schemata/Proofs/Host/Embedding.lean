import Schemata.Proofs.Host.Literals
import Schemata.Proofs.Indentation

/-!
# Statements embedded in classes

A repository embeds the text of a statement in a verbatim literal, where a double quote is written
twice and every row but the first is indented. `embedded_statement` says that nothing of the text is
lost: `readVerbatim` reads the literal up to the first double quote that is not one of a pair, which
is the closing one, and `withoutIndentation?` takes the indentation off its rows. What is left is
the text of the statement, whatever quotes, empty rows and blanks it holds.
-/

namespace Schemata

open Text

namespace Host

open Repository (verbatim)

/-! ## The readers -/

/-- The content of a verbatim literal, and the text behind the double quote that closes it. The
literal begins behind the double quote that opens it. Two double quotes in a row stand for one, and
the first that is not one of a pair closes the literal. -/
def readVerbatim : List Char → Option (List Char × List Char)
  | [] => none
  | '"' :: '"' :: rest => (readVerbatim rest).map fun (content, behind) => ('"' :: content, behind)
  | '"' :: rest => some ([], rest)
  | c :: rest => (readVerbatim rest).map fun (content, behind) => (c :: content, behind)

/-- The text without the indentation behind each of its line feeds, if it stands behind all of
them. -/
def withoutIndentation? (indentation text : String) : Option String :=
  match rows text with
  | [] => none
  | first :: others =>
    (others.mapM (behind? indentation)).map fun others => "\n".intercalate (first :: others)

example : readVerbatim "a \"\"b\"\"\", c".toList = some ("a \"b\"".toList, ", c".toList) := by
  decide

example : withoutIndentation? "  " "a\n    b\n  " = some "a\n  b\n" := by
  decide

/-- A text inside a verbatim literal is read up to the double quote behind it. -/
theorem read_verbatim_chars {c : Char} (h : c ≠ '"') (text rest : List Char) :
    readVerbatim (verbatimChars text ++ '"' :: c :: rest) = some (text, c :: rest) := by
  induction text with
  | nil =>
      rw [show verbatimChars [] = [] from rfl, List.nil_append, readVerbatim]
      rintro others heq
      exact h (List.cons.inj heq).1
  | cons d text ih =>
      by_cases hquote : d = '"'
      · rw [hquote, verbatim_chars_quote, List.cons_append, List.cons_append, readVerbatim, ih]
        rfl
      · rw [verbatim_chars_cons hquote, List.cons_append, readVerbatim, ih]
        · rfl
        · rintro others rfl
          exact fun _ => hquote rfl
        · exact hquote

/-! ## Lines with indentation between them -/

/-- A line has no line feed. -/
theorem lines_from_one_line {current text : List Char} (h : '\n' ∉ current) :
    ∀ line ∈ linesFrom current text, '\n' ∉ line := by
  induction text generalizing current with
  | nil =>
      intro line hline
      unfold linesFrom at hline
      split at hline
      · simp at hline
      · rwa [List.mem_singleton.1 hline]
  | cons c text ih =>
      rw [linesFrom]
      split
      · rw [List.forall_mem_cons]
        refine ⟨fun hmem => h ?_, ih (by simp)⟩
        unfold dropReturn at hmem
        split at hmem
        · exact List.dropLast_subset current hmem
        · exact hmem
      · next hfeed => exact ih (by simp [h, Ne.symm hfeed])

/-- The lines of a text without carriage returns, put together with line feeds, are the text, unless
it ends with a line feed. -/
theorem intercalate_lines_from (current : List Char) {text : List Char}
    (hreturn : '\r' ∉ current) (hreturn' : '\r' ∉ text)
    (hend : text.getLast? ≠ some '\n') (hne : current ++ text ≠ []) :
    ['\n'].intercalate (linesFrom current text) = current ++ text := by
  induction text generalizing current with
  | nil =>
      rw [List.append_nil] at hne ⊢
      rw [linesFrom, if_neg (by simpa using hne), List.intercalate_singleton]
  | cons c text ih =>
      rw [List.mem_cons, not_or] at hreturn'
      rw [linesFrom]
      split
      · next hfeed =>
          -- the line feed is not the last character, so there are lines behind it
          subst hfeed
          have htext : text ≠ [] := by
            rintro rfl
            exact hend rfl
          have hlast : text.getLast? ≠ some '\n' := by
            rwa [List.getLast?_cons_of_ne_nil htext] at hend
          have hrest := ih [] (by simp) hreturn'.2 hlast (by simpa using htext)
          have hkept : dropReturn current = current :=
            if_neg fun hmem => hreturn (List.mem_of_getLast? hmem)
          have hlines : linesFrom [] text ≠ [] := by
            intro hnone
            rw [hnone, List.intercalate_nil, List.nil_append] at hrest
            exact htext hrest.symm
          rw [hkept, List.intercalate_cons_of_ne_nil hlines, hrest]
          simp
      · have hlast : text.getLast? ≠ some '\n' := by
          intro hmem
          rw [List.getLast?_cons_of_ne_nil (List.ne_nil_of_mem (List.mem_of_getLast? hmem))] at hend
          exact hend hmem
        rw [ih _ (by simp [hreturn, hreturn'.1]) hreturn'.2 hlast (by simp), List.append_assoc,
          List.singleton_append]

/-- The lines of a text without carriage returns, put together with line feeds, are the text, unless
it ends with a line feed. -/
theorem intercalate_lines {text : String} (hne : text ≠ "") (hreturn : '\r' ∉ text.toList)
    (hend : text.toList.getLast? ≠ some '\n') : "\n".intercalate (lines text) = text := by
  have hchars : text.toList ≠ [] := fun hnil => hne (String.toList_eq_nil_iff.1 hnil)
  have hlines := intercalate_lines_from [] (by simp) hreturn hend hchars
  apply String.toList_inj.1
  rw [String.toList_intercalate, lines, List.map_map]
  simpa [Function.comp_def] using hlines

/-- A line of a text has no line feed. -/
theorem lines_one_line (text : String) : ∀ line ∈ lines text, '\n' ∉ line.toList := by
  intro line hline
  obtain ⟨chars, hchars, rfl⟩ := List.mem_map.1 hline
  rw [String.toList_ofList]
  exact lines_from_one_line (by simp) chars hchars

/-- The rows of lines that are indented, all but the first. -/
theorem rows_intercalate {indentation first : String} {others : List String}
    (hindentation : '\n' ∉ indentation.toList)
    (h : ∀ line ∈ first :: others, '\n' ∉ line.toList) :
    rows (("\n" ++ indentation).intercalate (first :: others)) =
      first :: others.map (indentation ++ ·) := by
  induction others generalizing first with
  | nil =>
      rw [String.intercalate_singleton, List.map_nil]
      exact rows_single (h first (by simp))
  | cons next rest ih =>
      rw [List.forall_mem_cons, List.forall_mem_cons] at h
      have hnext : '\n' ∉ (indentation ++ next).toList := by simp [hindentation, h.2.1]
      rw [String.intercalate_cons_cons, ← String.append_assoc, String.append_assoc,
        ← String.intercalate_cons_append, rows_append, rows_single h.1, ih (List.forall_mem_cons.2 ⟨hnext, h.2.2⟩),
        List.singleton_append, List.map_cons]

/-- Indentation in front of all rows but the first is taken off. -/
theorem without_indentation_intercalate {indentation : String} {lines : List String}
    (hindentation : '\n' ∉ indentation.toList) (hne : lines ≠ [])
    (h : ∀ line ∈ lines, '\n' ∉ line.toList) :
    withoutIndentation? indentation (("\n" ++ indentation).intercalate lines) =
      some ("\n".intercalate lines) := by
  obtain ⟨first, others, rfl⟩ := List.exists_cons_of_ne_nil hne
  have hbehind : (others.map (indentation ++ ·)).mapM (behind? indentation) = some others := by
    clear h hne
    induction others with
    | nil => rfl
    | cons line others ih => simp [behind_append, ih]
  rw [withoutIndentation?, rows_intercalate hindentation h]
  simp only [hbehind, Option.map_some]

/-! ## The command that holds a statement -/

/-- What a writer appends for a statement is one call at the indentation of the open blocks, whose
first argument is a verbatim literal. The first double quote in it that is not one of a pair is the
closing one, and its content is the text of the statement with indentation behind its line feeds. So
the text is read back, unless it holds a carriage return or ends with a line feed. -/
theorem embedded_statement {writer : Writer} {sql : String} (hunit : IsIndentation writer.unit)
    (hne : sql ≠ "") (hreturn : '\r' ∉ sql.toList) (hend : sql.toList.getLast? ≠ some '\n') :
    ∃ literal content,
      writer.exec (Repository.commandFor sql) =
        (writer.append (margin writer.unit writer.closers.length ++
          "var command = new NpgsqlCommand(@\"" ++ literal ++ "\", connection);" ++ "\n"), .ok ()) ∧
      readVerbatim (literal ++ "\", connection);" ++ "\n").toList =
        some (content.toList, ", connection);\n".toList) ∧
      withoutIndentation? (margin writer.unit writer.closers.length) content = some sql := by
  have hmargin := margin_indentation hunit writer.closers.length
  have hfeed : '\n' ∉ (margin writer.unit writer.closers.length).toList := fun hmem =>
    absurd (hmargin _ hmem) (by decide)
  have hquote : '"' ∉ (margin writer.unit writer.closers.length).toList := fun hmem =>
    absurd (hmargin _ hmem) (by decide)
  have hsome : lines sql ≠ [] := lines_ne_nil fun hnil => hne (String.toList_eq_nil_iff.1 hnil)
  refine ⟨("\n" ++ margin writer.unit writer.closers.length).intercalate ((lines sql).map verbatim),
    ("\n" ++ margin writer.unit writer.closers.length).intercalate (lines sql), ?_, ?_, ?_⟩
  · rw [Writer.exec_eq, Command.rendering_faultless rfl, Repository.commandFor, Command.linesAt,
      ← lines_eq, lines_verbatim, unlines_aligned_rows _ _ _ (by simpa using hsome)]
  · have hchars : ("\", connection);" ++ "\n").toList =
        '"' :: ',' :: " connection);\n".toList := by decide
    rw [String.append_assoc, String.toList_append, verbatim_intercalate (by simp [hquote]), hchars,
      read_verbatim_chars (by decide)]
    rfl
  · rw [without_indentation_intercalate hfeed hsome (lines_one_line sql),
      intercalate_lines hne hreturn hend]

/-- A text with a double quote at the end of a row, an empty row, a row that begins with blanks and
a double quote at its end, inside of two blocks that are indented by a tab each. -/
theorem quoted_rows_embedded :
    ∃ literal content,
      (Writer.mk "" "\t" [.statement, .statement]).exec
          (Repository.commandFor "SELECT \"a\"\n\n  FROM \"b\"") =
        ((Writer.mk "" "\t" [.statement, .statement]).append (margin "\t" 2 ++
          "var command = new NpgsqlCommand(@\"" ++ literal ++ "\", connection);" ++ "\n"), .ok ()) ∧
      readVerbatim (literal ++ "\", connection);" ++ "\n").toList =
        some (content.toList, ", connection);\n".toList) ∧
      withoutIndentation? (margin "\t" 2) content = some "SELECT \"a\"\n\n  FROM \"b\"" :=
  embedded_statement (List.all_eq_true.1 (by decide)) (by decide) (by decide) (by decide)

end Host

end Schemata
