import Mathlib.Algebra.Group.Nat.Even
import Mathlib.Data.List.Infix
import Schemata.Proofs.Script.Lines

/-!
# Brackets that match

A text is bracketed if its braces match, its parentheses match, and its double quotes come in pairs.
Only the braces, parentheses and double quotes of a text count for this, which are its marks. A
script is bracketed if the text of each of its commands is, and by `bracketed_lines` it then writes
a bracketed text: indentation and line ends have no marks, and the braces of a block enclose its
body.
-/

namespace Schemata

namespace Text

/-- Brackets of one kind match: no beginning of the text closes more of them than it opens, and the
whole text closes as many as it opens. -/
structure Balanced (opening closing : Char) (text : List Char) : Prop where
  above : ∀ front, front <+: text → front.count closing ≤ front.count opening
  level : text.count opening = text.count closing

/-- The braces of the text match, its parentheses match, and the number of its double quotes is
even. -/
structure Bracketed (text : List Char) : Prop where
  braces : Balanced '\x7b' '\x7d' text
  parentheses : Balanced '(' ')' text
  quotes : Even (text.count '"')

instance (opening closing : Char) (text : List Char) :
    Decidable (Balanced opening closing text) :=
  decidable_of_iff ((∀ front ∈ text.inits, front.count closing ≤ front.count opening) ∧
      text.count opening = text.count closing)
    ⟨fun h => ⟨fun front hfront => h.1 front ((List.mem_inits _ _).2 hfront), h.2⟩,
      fun h => ⟨fun front hfront => h.above front ((List.mem_inits _ _).1 hfront), h.level⟩⟩

instance (text : List Char) : Decidable (Bracketed text) :=
  decidable_of_iff (Balanced '\x7b' '\x7d' text ∧ Balanced '(' ')' text ∧ Even (text.count '"'))
    ⟨fun h => ⟨h.1, h.2.1, h.2.2⟩, fun h => ⟨h.braces, h.parentheses, h.quotes⟩⟩

section Balance

variable {opening closing : Char} {left right text : List Char}

/-- Brackets match in two texts next to each other if they match in both. -/
theorem Balanced.append (hleft : Balanced opening closing left)
    (hright : Balanced opening closing right) : Balanced opening closing (left ++ right) := by
  refine ⟨?_, ?_⟩
  · rintro front ⟨behind, hbehind⟩
    rcases List.append_eq_append_iff.1 hbehind with ⟨rest, rfl, -⟩ | ⟨rest, rfl, hrest⟩
    · exact hleft.above front (List.prefix_append _ _)
    · have hlevel := hleft.level
      have habove := hright.above rest (hrest ▸ List.prefix_append _ _)
      rw [List.count_append, List.count_append]
      omega
  · rw [List.count_append, List.count_append, hleft.level, hright.level]

/-- Brackets match in a text that they enclose if they match inside. -/
theorem Balanced.enclosed (hne : opening ≠ closing) (h : Balanced opening closing text) :
    Balanced opening closing (opening :: text ++ [closing]) := by
  have hlevel := h.level
  refine ⟨?_, ?_⟩
  · rintro front hfront
    rcases List.prefix_concat_iff.1 hfront with rfl | hfront
    · simp only [List.count_append, List.count_cons_self, List.count_cons_of_ne hne,
        List.count_cons_of_ne hne.symm, List.count_nil]
      omega
    · cases front with
      | nil => exact Nat.le_refl _
      | cons c front =>
          obtain ⟨rfl, hrest⟩ := List.cons_prefix_cons.1 hfront
          have habove := h.above front hrest
          rw [List.count_cons_self, List.count_cons_of_ne hne]
          omega
  · simp only [List.count_append, List.count_cons_self, List.count_cons_of_ne hne,
      List.count_cons_of_ne hne.symm, List.count_nil]
    omega

/-- Bracketed texts next to each other are bracketed. -/
theorem Bracketed.append (hleft : Bracketed left) (hright : Bracketed right) :
    Bracketed (left ++ right) := by
  refine ⟨hleft.braces.append hright.braces, hleft.parentheses.append hright.parentheses, ?_⟩
  rw [List.count_append]
  exact hleft.quotes.add hright.quotes

/-- A bracketed text in braces is bracketed. -/
theorem Bracketed.braced (h : Bracketed text) : Bracketed ('\x7b' :: text ++ ['\x7d']) := by
  have hopening : Balanced '(' ')' ['\x7b'] := by decide
  have hclosing : Balanced '(' ')' ['\x7d'] := by decide
  refine ⟨h.braces.enclosed (by decide), (hopening.append h.parentheses).append hclosing, ?_⟩
  simpa [List.count_append, List.count_cons] using h.quotes

/-- A bracketed text in double quotes and parentheses is bracketed. -/
theorem Bracketed.called (h : Bracketed text) :
    Bracketed (['(', '"'] ++ text ++ ['"', ')']) := by
  have hquoted : Balanced '(' ')' ('"' :: text ++ ['"']) :=
    ((by decide : Balanced '(' ')' ['"']).append h.parentheses).append (by decide)
  refine ⟨?_, ?_, ?_⟩
  · exact ((by decide : Balanced '\x7b' '\x7d' ['(', '"']).append h.braces).append (by decide)
  · have henclosed := hquoted.enclosed (by decide)
    rwa [← List.cons_append, List.append_assoc] at henclosed
  · have hcount : (['(', '"'] ++ text ++ ['"', ')']).count '"' = 2 + text.count '"' := by
      rw [List.count_append, List.count_append, show ['(', '"'].count '"' = 1 from rfl,
        show ['"', ')'].count '"' = 1 from rfl]
      omega
    rw [hcount]
    exact (by decide : Even 2).add h.quotes

end Balance

/-! ## Marks -/

/-- The character is a brace, a parenthesis or a double quote. -/
def isMark (c : Char) : Bool :=
  c == '\x7b' || c == '\x7d' || c == '(' || c == ')' || c == '"'

/-- The marks of a text, in order. -/
def marks (text : String) : List Char :=
  text.toList.filter isMark

/-- The marks of two texts next to each other. -/
theorem marks_append (left right : String) : marks (left ++ right) = marks left ++ marks right := by
  rw [marks, String.toList_append, List.filter_append, marks, marks]

/-- The text has no marks. -/
theorem marks_eq_nil_iff {text : String} :
    marks text = [] ↔ ∀ c, isMark c = true → c ∉ text.toList := by
  rw [marks, List.filter_eq_nil_iff]
  exact ⟨fun h c hc hmem => h c hmem hc, fun h c hmem hc => h c hc hmem⟩

/-- The marks of texts with a separator without marks between them. -/
theorem marks_intercalate {separator : String} (h : marks separator = []) (pieces : List String) :
    marks (separator.intercalate pieces) = pieces.flatMap marks := by
  induction pieces with
  | nil => rfl
  | cons piece rest ih =>
      cases rest with
      | nil => rw [String.intercalate_singleton, List.flatMap_singleton]
      | cons next rest =>
          rw [String.intercalate_cons_cons, marks_append, marks_append, h, ih, List.append_nil]
          exact List.flatMap_cons.symm

/-- A text is bracketed if its marks are. -/
theorem Bracketed.of_marks {text : String} (h : Bracketed (marks text)) :
    Bracketed text.toList := by
  have hbalanced {opening closing : Char} (hopening : isMark opening = true)
      (hclosing : isMark closing = true) (hmarks : Balanced opening closing (marks text)) :
      Balanced opening closing text.toList := by
    refine ⟨fun front hfront => ?_, ?_⟩
    · have habove := hmarks.above (front.filter isMark) (hfront.filter isMark)
      rwa [List.count_filter hopening, List.count_filter hclosing] at habove
    · have hlevel := hmarks.level
      rwa [marks, List.count_filter hopening, List.count_filter hclosing] at hlevel
  refine ⟨hbalanced rfl rfl h.braces, hbalanced rfl rfl h.parentheses, ?_⟩
  have hquotes := h.quotes
  rwa [marks, List.count_filter rfl] at hquotes

end Text

open Text

/-! ## Lines -/

/-- Lines one below the other have the marks of the lines. -/
theorem marks_unlines (lines : List String) : marks (unlines lines) = lines.flatMap marks := by
  induction lines with
  | nil => rfl
  | cons line lines ih =>
      rw [unlines_cons, marks_append, marks_append, ih, List.flatMap_cons,
        show marks "\n" = [] by decide, List.append_nil]

/-- Indentation has no marks. -/
theorem marks_margin {unit : String} (h : marks unit = []) (depth : Nat) :
    marks (margin unit depth) = [] := by
  induction depth with
  | zero => rfl
  | succ depth ih =>
      rw [margin, List.replicate_succ, String.join_cons, marks_append, h, List.nil_append]
      exact ih

/-- The lines of a text have the marks of the text. -/
theorem marks_lines (text : String) : (lines text).flatMap marks = marks text := by
  have hreturn (line : List Char) : (dropReturn line).filter isMark = line.filter isMark := by
    unfold dropReturn
    split
    · next hlast =>
        obtain ⟨init, rfl⟩ := List.getLast?_eq_some_iff.1 hlast
        rw [List.dropLast_concat, List.filter_append]
        exact (List.append_nil _).symm
    · rfl
  have hfrom (current rest : List Char) :
      (linesFrom current rest).flatMap (·.filter isMark) = (current ++ rest).filter isMark := by
    induction rest generalizing current with
    | nil =>
        rw [linesFrom, List.append_nil]
        split
        · next hempty =>
            rw [List.isEmpty_iff.1 hempty]
            rfl
        · rw [List.flatMap_singleton]
    | cons c rest ih =>
        rw [linesFrom]
        split
        · next hfeed =>
            rw [List.flatMap_cons, hreturn, ih, hfeed, List.nil_append, List.filter_append,
              List.filter_cons_of_neg (by decide)]
        · rw [ih, List.append_assoc, List.singleton_append]
  rw [lines, List.flatMap_map]
  simpa [marks, Function.comp_def] using hfrom [] text.toList

/-! ## Scripts -/

mutual

/-- The texts that the command writes are bracketed, where braces around the body of a block do not
count. -/
def Command.Bracketed : Command → Prop
  | .line text => Text.Bracketed (marks text)
  | .aligned lead text tail => Text.Bracketed (marks lead ++ marks text ++ marks tail)
  | .block header _ body => Text.Bracketed (marks header) ∧ Script.Bracketed body
  | .attempt command => command.Bracketed
  | .blank | .fail _ => True

/-- The texts that the commands of the script write are bracketed. -/
def Script.Bracketed : List Command → Prop
  | [] => True
  | command :: rest => command.Bracketed ∧ Script.Bracketed rest

end

/-- A script is bracketed if its commands are. -/
theorem Script.bracketed_iff {script : List Command} :
    Script.Bracketed script ↔ ∀ command ∈ script, command.Bracketed := by
  induction script with
  | nil => simp [Script.Bracketed]
  | cons command rest ih => simp [Script.Bracketed, ih]

/-- Two bracketed scripts one after the other are bracketed. -/
theorem Script.bracketed_append {first second : List Command} :
    Script.Bracketed (first ++ second) ↔ Script.Bracketed first ∧ Script.Bracketed second := by
  simp only [Script.bracketed_iff, List.mem_append, or_imp, forall_and]

section Lines

variable {unit : String}

mutual

/-- The lines of a bracketed command are bracketed. -/
theorem Command.bracketed_lines (hunit : marks unit = []) (depth : Nat) (command : Command)
    (h : command.Bracketed) :
    Text.Bracketed ((command.linesAt unit depth).flatMap marks) := by
  have hmargin := marks_margin hunit depth
  cases command with
  | line text =>
      rw [Command.linesAt, List.flatMap_singleton, marks_append, hmargin, List.nil_append]
      exact h
  | blank => exact (by decide : Text.Bracketed [])
  | aligned lead text tail =>
      rw [Command.linesAt, ← Text.lines_eq, ← marks_unlines]
      by_cases hnone : lines text = []
      · rw [hnone]
        exact (by decide : Text.Bracketed [])
      · have hbreak : marks ("\n" ++ margin unit depth) = [] := by
          rw [marks_append, hmargin]
          decide
        rw [unlines_aligned_rows _ _ _ hnone]
        simp only [marks_append, hmargin, marks_intercalate hbreak, marks_lines,
          show marks "\n" = [] by decide, List.nil_append, List.append_nil]
        exact h
  | block header closer body =>
      have hbody := Script.bracketed_lines hunit (depth + 1) body h.2
      have hopening : marks "\x7b" = ['\x7b'] := by decide
      have hclosing : marks closer.ending = ['\x7d'] := by cases closer <;> decide
      simp only [Command.linesAt, List.flatMap_append, List.flatMap_cons, List.flatMap_nil,
        marks_append, hmargin, List.nil_append, List.append_nil, hopening, hclosing]
      rw [List.append_assoc, List.append_assoc]
      exact h.1.append hbody.braced
  | fail cause => exact (by decide : Text.Bracketed [])
  | attempt command => exact Command.bracketed_lines hunit depth command h

/-- The lines of a bracketed script are bracketed. -/
theorem Script.bracketed_lines (hunit : marks unit = []) (depth : Nat) (script : List Command)
    (h : Script.Bracketed script) :
    Text.Bracketed ((Script.linesAt unit depth script).flatMap marks) := by
  cases script with
  | nil => exact (by decide : Text.Bracketed [])
  | cons command rest =>
      rw [Script.linesAt, List.flatMap_append]
      exact (Command.bracketed_lines hunit depth command h.1).append
        (Script.bracketed_lines hunit depth rest h.2)

end

/-- A bracketed script writes a bracketed text. -/
theorem bracketed_text (hunit : marks unit = []) (depth : Nat) {script : Script}
    (h : Script.Bracketed script) :
    Text.Bracketed (unlines (Script.linesAt unit depth script)).toList := by
  apply Bracketed.of_marks
  rw [marks_unlines]
  exact Script.bracketed_lines hunit depth script h

end Lines

end Schemata
