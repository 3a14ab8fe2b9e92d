import Mathlib.Data.List.Basic
import Schemata.Proofs.Token.Scanning

/-!
# Scanning texts one below the other

A line break between two texts keeps their tokens apart. By `scan_joined` the scan of the upper
text, one line break and the scan of the lower text follow each other, where line breaks at the seam
become one, and the lower text has its errors on lower lines. A lexical error of the upper text
stays as it is by `scan_fault_stays`, unless it is a value that is still open at the end, and the
tokens in front of an error are always the same by `scan_tokens_stay`.
-/

namespace Schemata

/-- The position when lines are put above its text. -/
def Position.below (lines : Nat) (position : Position) : Position :=
  ⟨position.line + lines, position.column⟩

/-- The error when lines are put above its text. Nothing but the line of its place changes. -/
def LexError.below (lines : Nat) : LexError → LexError
  | unexpectedChar char place => unexpectedChar char (place.below lines)
  | unterminatedValue place => unterminatedValue (place.below lines)
  | newlineInValue place => newlineInValue (place.below lines)
  | emptyValue place => emptyValue (place.below lines)
  | multipleDots word place => multipleDots word (place.below lines)
  | emptyReferencePart word place => emptyReferencePart word (place.below lines)

/-- The error is a bracketed value that is open at the end of the text. -/
def LexError.isUnterminated : LexError → Bool
  | unterminatedValue _ => true
  | _ => false

namespace Position

/-- An empty text takes no place. -/
theorem advance_nil (position : Position) : position.advance [] = position :=
  rfl

/-- The position behind two texts. -/
theorem advance_append (position : Position) (left right : List Char) :
    position.advance (left ++ right) = (position.advance left).advance right :=
  List.foldl_append

/-- Lines above a text do not change how positions advance in it. -/
theorem advance_below (lines : Nat) (position : Position) (text : List Char) :
    (position.below lines).advance text = (position.advance text).below lines := by
  induction text generalizing position with
  | nil => rfl
  | cons c rest ih =>
      have hafter : (position.below lines).after c = (position.after c).below lines := by
        unfold after
        split
        · simp only [below, Nat.add_right_comm]
        · rfl
      show ((position.below lines).after c).advance rest = _
      rw [hafter, ih]
      rfl

/-- The line behind a text. -/
theorem advance_line (position : Position) (text : List Char) :
    (position.advance text).line = position.line + text.count '\n' := by
  induction text generalizing position with
  | nil => rfl
  | cons c rest ih =>
      show ((position.after c).advance rest).line = _
      rw [ih, after]
      split
      · next hc =>
          rw [hc, List.count_cons_self]
          show position.line + 1 + _ = _
          omega
      · next hc => rw [List.count_cons_of_ne hc]

/-- Behind a text and a line feed a new line starts. -/
theorem advance_line_feed (text : List Char) :
    start.advance (text ++ ['\n']) = start.below (1 + text.count '\n') := by
  rw [advance_append]
  show (⟨(start.advance text).line + 1, 1⟩ : Position) = _
  rw [advance_line]
  simp only [below, start, Position.mk.injEq, and_true]
  omega

end Position

namespace Token

open Text

variable {start : Position} {text rest : List Char} {fault : LexError}

/-! ## Lines above a text -/

/-- The fault of a word below other lines. -/
theorem word_fault_below (lines : Nat) (start : Position) (before word : List Char) :
    wordFault? (start.below lines) before word =
      (wordFault? start before word).map (LexError.below lines) := by
  induction word generalizing before with
  | nil => rfl
  | cons c rest ih =>
      simp only [wordFault?]
      split
      · split
        · rfl
        · exact ih _
      · split
        · exact ih _
        · rw [Position.advance_below]
          rfl

/-- The token of a word below other lines. -/
theorem of_word_below (lines : Nat) (start : Position) (word : List Char) :
    ofWord (start.below lines) word = (ofWord start word).mapError (LexError.below lines) := by
  unfold ofWord
  rw [word_fault_below]
  cases wordFault? start [] word with
  | some fault => rfl
  | none =>
      simp only [Option.map_none, classify]
      split
      · rfl
      · split
        · split <;> rfl
        · split <;> rfl

/-- A token that begins with a character, below other lines. -/
theorem lexeme_below (lines : Nat) (start : Position) (c : Char) (text : List Char) :
    lexeme (start.below lines) c text =
      (lexeme start c text).mapError (LexError.below lines) := by
  unfold lexeme
  repeat' split
  · rfl
  · rfl
  · rfl
  · rfl
  · simp only [readValue]
    split
    · rfl
    · split
      · rfl
      · split <;> rfl
  · simp only [readWord, of_word_below]
    cases ofWord start (c :: text.takeWhile continuesWord) <;> rfl

/-- The first token of a text below other lines. -/
theorem next_below (lines : Nat) (start : Position) (text : List Char) :
    next (start.below lines) text = (next start text).mapError (LexError.below lines) := by
  unfold next
  simp only [Position.advance_below, lexeme_below]
  split
  · rfl
  · split
    · rfl
    · next c behind _ => cases lexeme (start.advance (text.takeWhile isBlank)) c behind <;> rfl

/-- Scanning a text that begins with a lexical error. -/
theorem scan_from_error (h : next start text = .error fault) :
    scanFrom start text = ⟨[], some fault⟩ := by
  rw [scanFrom]
  split
  · next hnext =>
      cases h.symm.trans hnext
      rfl
  · next hnext => cases h.symm.trans hnext
  · next hnext => cases h.symm.trans hnext

/-- The scan of a text below other lines has the same tokens, and its error is on a lower line. -/
theorem scan_from_below (lines : Nat) (start : Position) (text : List Char) :
    scanFrom (start.below lines) text =
      ⟨(scanFrom start text).tokens, (scanFrom start text).failure.map (LexError.below lines)⟩ := by
  have hbelow := next_below lines start text
  fun_induction scanFrom start text with
  | case1 start text fault hnext =>
      rw [hnext] at hbelow
      exact scan_from_error hbelow
  | case2 start text hnext =>
      rw [hnext] at hbelow
      exact scan_from_none hbelow
  | case3 start text found hnext _ ih =>
      rw [hnext] at hbelow
      rw [scan_from_some hbelow, Position.advance_below, ih (next_below lines _ _)]
      rfl

/-! ## Text behind a text -/

/-- The longest run of characters of a class is the same with more text behind, if the run ends
before it does. -/
theorem span_extend {p : Char → Bool}
    (h : ∀ c ∈ (text.dropWhile p ++ rest).head?, p c = false) :
    (text ++ rest).takeWhile p = text.takeWhile p ∧
      (text ++ rest).dropWhile p = text.dropWhile p ++ rest := by
  have hrun : ∀ c ∈ text.takeWhile p, p c = true := fun c hc => List.mem_takeWhile_imp hc
  have hspan := span_append hrun h
  rwa [← List.append_assoc, List.takeWhile_append_dropWhile] at hspan

/-- A run that ends inside a text still does with more text behind. -/
theorem head_drop_extend {p : Char → Bool} (h : text.dropWhile p ≠ []) (rest : List Char) :
    ∀ c ∈ (text.dropWhile p ++ rest).head?, p c = false := by
  rw [List.head?_append_of_ne_nil _ h]
  exact head_drop_while

/-- A run that a text ends still does so behind another text. -/
theorem head_append {p : Char → Bool} {left : List Char} (hleft : ∀ c ∈ left.head?, p c = false)
    (hrest : ∀ c ∈ rest.head?, p c = false) : ∀ c ∈ (left ++ rest).head?, p c = false := by
  cases left with
  | nil => exact hrest
  | cons c left => exact hleft

/-- A value that is refused for what it holds is refused with more text behind. -/
theorem read_value_extend (h : readValue start text = .error fault)
    (hfault : fault.isUnterminated = false) : readValue start (text ++ rest) = .error fault := by
  simp only [readValue] at h ⊢
  split at h
  · next hbreak =>
      have hlonger : ((text ++ rest).takeWhile (· != ']')).any isLineBreak = true := by
        rw [List.takeWhile_append]
        split
        · next hall =>
            rw [List.any_append, Bool.or_eq_true]
            have hsame := (List.takeWhile_prefix (· != ']')).eq_of_length hall
            exact .inl (hsame ▸ hbreak)
        · exact hbreak
      rw [if_pos hlonger]
      exact h
  · next hbreak =>
      split at h
      · cases h
        simp [LexError.isUnterminated] at hfault
      · next closing behind hdrop =>
          have hne : text.dropWhile (· != ']') ≠ [] := by simp [hdrop]
          obtain ⟨htake, hdropped⟩ := span_extend (head_drop_extend hne rest)
          rw [htake, if_neg hbreak, hdropped, hdrop, List.cons_append]
          simp only
          split at h
          · next hempty =>
              rw [if_pos hempty]
              exact h
          · cases h

/-- What is refused at a character is refused with more text behind, provided that a word ends where
the text does. -/
theorem lexeme_extend {c : Char} (h : lexeme start c text = .error fault)
    (hfault : fault.isUnterminated = false) (hends : EndsWord rest) :
    lexeme start c (text ++ rest) = .error fault := by
  unfold lexeme at h ⊢
  split
  · next hc => simp [hc] at h
  split
  · next hc => simp [hc] at h
  split
  · next hc => simp [hc] at h
  split
  · next hc => simpa [hc] using h
  split
  · next hc =>
      simp only [hc] at h
      exact read_value_extend h hfault
  · simp_all only [if_false]
    have hstop : ∀ d ∈ (text.dropWhile continuesWord ++ rest).head?, continuesWord d = false :=
      head_append head_drop_while hends
    obtain ⟨htake, -⟩ := span_extend hstop
    simp only [readWord, htake] at h ⊢
    split at h
    · exact h
    · cases h

/-- A lexical error at the front of a text is the same with more text behind. -/
theorem next_extend_error (h : next start text = .error fault)
    (hfault : fault.isUnterminated = false) (hends : EndsWord rest) :
    next start (text ++ rest) = .error fault := by
  simp only [next] at h ⊢
  split at h
  · cases h
  · next hbreak =>
      split at h
      · cases h
      · next c behind hdrop =>
          have hne : text.dropWhile isBlank ≠ [] := by simp [hdrop]
          obtain ⟨htake, hdropped⟩ := span_extend (head_drop_extend hne rest)
          rw [htake, if_neg hbreak, hdropped, hdrop, List.cons_append]
          split at h
          · next cause hlexeme =>
              cases h
              simp only [lexeme_extend hlexeme hfault hends]
          · cases h

/-- The first token of a text is read alike with more text behind, provided that a word ends where
the text does and that a line break does not go on. -/
theorem next_extend {found : Reading} (h : next start text = .ok (some found))
    (hends : EndsWord rest)
    (hline : found.token = newLine → ¬ StartsBlank (found.behind ++ rest)) :
    next start (text ++ rest) = .ok (some { found with behind := found.behind ++ rest }) := by
  obtain ⟨gap, lexeme, htext, hgap, hspells, hword, hnew⟩ := next_sound h
  have hconsumed : found.consumed = gap ++ lexeme :=
    List.append_cancel_right ((next_append h).1.trans htext)
  have hread : next start (gap ++ lexeme ++ (found.behind ++ rest)) = _ :=
    next_complete hgap hspells (fun hw => head_append (hword hw) hends)
      (fun hn => ⟨(hnew hn).1, hline hn⟩)
  rw [htext, List.append_assoc, hread, hconsumed]

/-- A line break that ends inside a text does not go on with more text behind. -/
theorem line_break_ends {found : Reading} (h : next start text = .ok (some found))
    (hbehind : found.behind ≠ []) (hnew : found.token = newLine) :
    ¬ StartsBlank (found.behind ++ rest) := by
  obtain ⟨_, _, -, -, -, -, hline⟩ := next_sound h
  rw [StartsBlank, List.head?_append_of_ne_nil _ hbehind]
  exact (hline hnew).2

/-! ## A line feed behind a text -/

/-- A line feed ends a word. -/
theorem line_feed_ends_word (rest : List Char) : EndsWord ('\n' :: rest) := by
  intro c hc
  obtain rfl := Option.some.inj hc
  decide

/-- Blanks and a line feed are a line break, together with the blanks behind them. -/
theorem next_line_feed {blanks : List Char} (h : ∀ c ∈ blanks, isBlank c = true) :
    next start (blanks ++ '\n' :: rest) =
      .ok (some ⟨newLine, blanks ++ '\n' :: rest.takeWhile isBlank, rest.dropWhile isBlank⟩) := by
  have hfeed : isBlank '\n' = true := by decide
  have hbreak : isLineBreak '\n' = true := by decide
  simp only [next, List.takeWhile_append_of_pos h, List.dropWhile_append_of_pos h,
    List.takeWhile_cons_of_pos hfeed, List.dropWhile_cons_of_pos hfeed, List.any_append,
    List.any_cons, hbreak, Bool.true_or, Bool.or_true, if_true]

/-- With a line feed behind the text, a token is read as before, unless it is a line break at the
end of the text, which takes the blanks behind the line feed as well. -/
theorem next_joined {found : Reading} (h : next start text = .ok (some found))
    (rest : List Char) :
    (found.token = newLine ∧ found.behind = [] ∧
      next start (text ++ '\n' :: rest) =
        .ok (some ⟨newLine, text ++ '\n' :: rest.takeWhile isBlank, rest.dropWhile isBlank⟩)) ∨
    next start (text ++ '\n' :: rest) =
      .ok (some { found with behind := found.behind ++ '\n' :: rest }) := by
  by_cases hlast : found.token = newLine ∧ found.behind = []
  · refine .inl ⟨hlast.1, hlast.2, next_line_feed ?_⟩
    obtain ⟨gap, lexeme, htext, -, hspells, -, hnew⟩ := next_sound h
    rw [htext, (hnew hlast.1).1, hlast.2, List.nil_append, List.append_nil]
    rw [hlast.1] at hspells
    cases hspells with
    | newLine hblank _ => exact hblank
    | reserved hmem => exact absurd (reserved_is_word hmem) (by decide)
  · rw [not_and] at hlast
    exact .inr (next_extend h (line_feed_ends_word rest) fun hnew =>
      line_break_ends h (hlast hnew) hnew)

/-- A lexical error of a text stays with more text behind, provided that a word ends where the text
does and that the error is not a value that is open at the end. -/
theorem scan_fault_stays (h : (scanFrom start text).failure = some fault)
    (hfault : fault.isUnterminated = false) (hends : EndsWord rest) :
    scanFrom start (text ++ rest) = scanFrom start text := by
  fun_induction scanFrom start text with
  | case1 start text cause hnext =>
      cases h
      exact scan_from_error (next_extend_error hnext hfault hends)
  | case2 start text hnext => cases h
  | case3 start text found hnext _ ih =>
      have hbehind : found.behind ≠ [] := by
        intro hbehind
        have hnone : next (start.advance found.consumed) found.behind = .ok none := by
          rw [hbehind]
          rfl
        -- where nothing is left there is no error
        rw [scan_from_none hnone] at h
        cases h
      rw [scan_from_some (next_extend hnext hends (line_break_ends hnext hbehind)), ih h]

/-- The tokens of a text up to its end or its first lexical error stay with more lines below. -/
theorem scan_tokens_stay (start : Position) (text rest : List Char) :
    (scanFrom start text).tokens <+: (scanFrom start (text ++ '\n' :: rest)).tokens := by
  fun_induction scanFrom start text with
  | case1 => exact List.nil_prefix
  | case2 => exact List.nil_prefix
  | case3 start text found hnext _ ih =>
      rcases next_joined hnext rest with ⟨htoken, hbehind, hjoined⟩ | hjoined
      · have hnone : next (start.advance found.consumed) found.behind = .ok none := by
          rw [hbehind]
          rfl
        rw [scan_from_some hjoined, scan_from_none hnone, htoken]
        exact (List.prefix_append [newLine] _)
      · rw [scan_from_some hjoined]
        exact List.prefix_cons_inj _ |>.2 ih

/-! ## Two texts -/

/-- Without a line break the blanks at the front of a text are skipped. -/
theorem next_of_gap {c : Char} {behind : List Char}
    (hbreak : ¬ (text.takeWhile isBlank).any isLineBreak = true)
    (hrest : text.dropWhile isBlank = c :: behind) :
    next start text = (lexeme (start.advance (text.takeWhile isBlank)) c behind).map fun found =>
      some { found with consumed := text.takeWhile isBlank ++ found.consumed } := by
  simp only [next, if_neg hbreak, hrest]
  cases lexeme (start.advance (text.takeWhile isBlank)) c behind <;> rfl

/-- Blanks at the front of a text are a line break or nothing. -/
theorem scan_from_blanks (start : Position) (text : List Char) :
    scanFrom start text =
      if (text.takeWhile isBlank).any isLineBreak then
        (scanFrom (start.advance (text.takeWhile isBlank)) (text.dropWhile isBlank)).push newLine
      else scanFrom (start.advance (text.takeWhile isBlank)) (text.dropWhile isBlank) := by
  split
  · next hbreak =>
      have hnext : next start text =
          .ok (some ⟨newLine, text.takeWhile isBlank, text.dropWhile isBlank⟩) := by
        simp only [next, hbreak, if_true]
      exact scan_from_some hnext
  · next hbreak =>
      cases hrest : text.dropWhile isBlank with
      | nil =>
          have hnone : next start text = .ok none := by simp only [next, if_neg hbreak, hrest]
          rw [scan_from_none hnone, scan_from_none rfl]
      | cons c behind =>
          have hstop : ∀ d ∈ (text.dropWhile isBlank).head?, isBlank d = false := head_drop_while
          have hc : ¬ isBlank c = true := by simpa [hrest] using hstop
          have hskipped : next start text = _ := next_of_gap hbreak hrest
          have hplain : next (start.advance (text.takeWhile isBlank)) (c :: behind) = _ :=
            next_of_gap (by simp [hc]) (List.dropWhile_cons_of_neg hc)
          rw [List.takeWhile_cons_of_neg hc, Position.advance_nil] at hplain
          cases hlexeme : lexeme (start.advance (text.takeWhile isBlank)) c behind with
          | error fault =>
              rw [hlexeme] at hskipped hplain
              rw [scan_from_error hskipped, scan_from_error hplain]
          | ok found =>
              rw [hlexeme] at hskipped hplain
              rw [scan_from_some hskipped, scan_from_some hplain, Position.advance_append]
              rfl

/-- The scan of a text without lexical errors and of lines below it. A line break at the end of the
text and the blanks at the beginning of the lines become one line break. -/
theorem scan_from_joined (h : (scanFrom start text).failure = none) (rest : List Char) :
    ∃ earlier,
      ((scanFrom start text).tokens = earlier ∨
        (scanFrom start text).tokens = earlier ++ [newLine]) ∧
      ∀ below, below = scanFrom (start.advance (text ++ '\n' :: rest.takeWhile isBlank))
          (rest.dropWhile isBlank) →
        scanFrom start (text ++ '\n' :: rest) =
          ⟨earlier ++ newLine :: below.tokens, below.failure⟩ := by
  fun_induction scanFrom start text with
  | case1 start text fault hnext => cases h
  | case2 start text hnext =>
      have hblank : ∀ c ∈ text, isBlank c = true := fun c hc => (next_eq_none_iff.1 hnext c hc).1
      refine ⟨[], .inl rfl, ?_⟩
      rintro _ rfl
      exact scan_from_some (next_line_feed hblank)
  | case3 start text found hnext _ ih =>
      rcases next_joined hnext rest with ⟨htoken, hbehind, hjoined⟩ | hjoined
      · have hnone : next (start.advance found.consumed) found.behind = .ok none := by
          rw [hbehind]
          rfl
        rw [scan_from_none hnone, htoken]
        refine ⟨[], .inr rfl, ?_⟩
        rintro _ rfl
        exact scan_from_some hjoined
      · obtain ⟨earlier, htokens, hscan⟩ := ih h
        refine ⟨found.token :: earlier, htokens.imp (congrArg _) (congrArg _), ?_⟩
        rintro _ rfl
        have hplace : (start.advance found.consumed).advance
            (found.behind ++ '\n' :: rest.takeWhile isBlank) =
              start.advance (text ++ '\n' :: rest.takeWhile isBlank) := by
          rw [← Position.advance_append, ← List.append_assoc, (next_append hnext).1]
        rw [scan_from_some hjoined, hscan _ rfl, hplace]
        rfl

/-- The scan of a text without lexical errors and of a text below it: the tokens of both with one
line break between them, which replaces line breaks at the end of the first and at the beginning of
the second. An error of the second is on a lower line. -/
theorem scan_joined {upper : String} (h : (scan upper).failure = none) (lower : String) :
    ∃ earlier later,
      ((scan upper).tokens = earlier ∨ (scan upper).tokens = earlier ++ [newLine]) ∧
      ((scan lower).tokens = later ∨ (scan lower).tokens = newLine :: later) ∧
      scan (upper ++ "\n" ++ lower) = ⟨earlier ++ newLine :: later,
        (scan lower).failure.map (LexError.below (1 + upper.toList.count '\n'))⟩ := by
  obtain ⟨earlier, htokens, hscan⟩ := scan_from_joined h lower.toList
  have hplace : Position.start.advance
      (upper.toList ++ '\n' :: lower.toList.takeWhile isBlank) =
        (Position.start.advance (lower.toList.takeWhile isBlank)).below
          (1 + upper.toList.count '\n') := by
    rw [← Position.advance_below, ← Position.advance_line_feed, ← Position.advance_append,
      List.append_assoc, List.singleton_append]
  have hlower := scan_from_blanks .start lower.toList
  have hboth := hscan _ rfl
  rw [hplace, scan_from_below] at hboth
  have htext : (upper ++ "\n" ++ lower).toList = upper.toList ++ '\n' :: lower.toList := by simp
  refine ⟨earlier, _, htokens, ?_, by rw [scan, htext, hboth, scan, hlower]; split <;> rfl⟩
  rw [scan, hlower]
  split
  · exact .inr rfl
  · exact .inl rfl

end Token

end Schemata
