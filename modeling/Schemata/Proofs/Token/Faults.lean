import Mathlib.Data.List.DropRight
import Schemata.Proofs.Token.Joining
import Schemata.Token.Scanner

/-!
# Where lexical errors point

A lexical error names a place, and `fault_located` says what stands there: the character that it
reports, the bracket of the value that it reports, or the first character of the word that it
reports. Lines and columns are counted off the text in front of that place by `Position.behind`,
while the scanner keeps them up to date token by token; both agree by `Position.start_advance`. The
text in front of the token that fails is a text without lexical errors, and a scanner hands out its
tokens, then the error, and then nothing.
-/

namespace Schemata

/-! ## Positions -/

/-- The position behind a text: its line is told by the line feeds in the text, and its column by
the characters behind the last of them. -/
def Position.behind (text : List Char) : Position :=
  ⟨1 + text.count '\n', 1 + (text.rtakeWhile (· != '\n')).length⟩

/-- Positions that are advanced character by character count lines and columns. -/
theorem Position.start_advance (text : List Char) : start.advance text = behind text := by
  induction text using List.reverseRecOn with
  | nil => rfl
  | append_singleton text c ih =>
      have hstep : start.advance (text ++ [c]) = (behind text).after c := by
        rw [advance_append, ih]
        rfl
      rw [hstep, after, behind, behind]
      split
      · next hfeed =>
          rw [hfeed, List.rtakeWhile_concat_neg _ _ _ (by decide), List.count_append,
            List.count_singleton_self, ← Nat.add_assoc]
          rfl
      · next hother =>
          rw [List.rtakeWhile_concat_pos _ _ _ (by simpa using hother), List.count_append,
            List.count_singleton, beq_false_of_ne hother, List.length_append, ← Nat.add_assoc]
          rfl

/-- The place that a lexical error names. -/
def LexError.place : LexError → Position
  | unexpectedChar _ place | unterminatedValue place | newlineInValue place | emptyValue place
  | multipleDots _ place | emptyReferencePart _ place => place

namespace Token

open Text

/-! ## What an error reports -/

/-- A word begins at the index: the character there continues a word, and the one in front of it, if
there is one, does not. -/
def BeginsWord (text : List Char) (index : Nat) : Prop :=
  (∃ c, text[index]? = some c ∧ continuesWord c = true) ∧
    ∀ c ∈ (text.take index).getLast?, continuesWord c = false

/-- What the error reports stands at the index `culprit` of the text, in the token that begins at
the index `first`. -/
def Reports (text : List Char) (first culprit : Nat) : LexError → Prop
  | .unexpectedChar char _ =>
    text[culprit]? = some char ∧ first ≤ culprit ∧
      (first = culprit ∧ char = ']' ∨
        BeginsWord text first ∧ ∀ c ∈ (text.take culprit).drop first, continuesWord c = true)
  | .unterminatedValue _ | .newlineInValue _ | .emptyValue _ =>
    first = culprit ∧ text[culprit]? = some '['
  | .multipleDots word _ =>
    first = culprit ∧ BeginsWord text culprit ∧ word.toList <+: text.drop culprit ∧
      word.toList.getLast? = some '.' ∧ word.toList.count '.' = 2
  | .emptyReferencePart word _ =>
    first = culprit ∧ BeginsWord text culprit ∧
      word.toList = (text.drop culprit).takeWhile continuesWord

/-- No word goes on from one text into the other. -/
def Apart (front rest : List Char) : Prop :=
  (∀ c ∈ front.getLast?, continuesWord c = false) ∨ EndsWord rest

variable {start : Position} {text front rest : List Char} {fault : LexError} {offset : Nat}

/-- A word at the beginning of a text begins a word behind a text that is apart from it. -/
theorem BeginsWord.behind (h : BeginsWord rest 0) (hapart : Apart front rest) :
    BeginsWord (front ++ rest) front.length := by
  obtain ⟨⟨c, hc, hword⟩, -⟩ := h
  refine ⟨⟨c, ?_, hword⟩, ?_⟩
  · rw [List.getElem?_append_right (Nat.le_refl _), Nat.sub_self, hc]
  · rw [List.take_left]
    refine hapart.resolve_right fun hends => ?_
    rw [hends c (List.head?_eq_getElem? ▸ hc)] at hword
    cases hword

/-- What an error reports at the beginning of a text it reports behind a text that is apart from
it. -/
theorem Reports.behind (h : Reports rest 0 offset fault) (hapart : Apart front rest) :
    Reports (front ++ rest) front.length (front.length + offset) fault := by
  have hchar : (front ++ rest)[front.length + offset]? = rest[offset]? := by
    rw [List.getElem?_append_right (Nat.le_add_right _ _), Nat.add_sub_cancel_left]
  cases fault with
  | unexpectedChar char place =>
      obtain ⟨hculprit, -, hcases⟩ := h
      refine ⟨hchar.trans hculprit, Nat.le_add_right _ _, hcases.imp ?_ ?_⟩
      · rintro ⟨rfl, hbracket⟩
        exact ⟨rfl, hbracket⟩
      · rintro ⟨hbegins, hword⟩
        refine ⟨hbegins.behind hapart, ?_⟩
        rwa [List.take_length_add_append, List.drop_left]
  | unterminatedValue place | newlineInValue place | emptyValue place =>
      obtain ⟨rfl, hculprit⟩ := h
      exact ⟨rfl, hchar.trans hculprit⟩
  | multipleDots word place =>
      obtain ⟨rfl, hbegins, hwithin, hshape⟩ := h
      refine ⟨rfl, hbegins.behind hapart, ?_, hshape⟩
      rwa [Nat.add_zero, List.drop_left]
  | emptyReferencePart word place =>
      obtain ⟨rfl, hbegins, hword⟩ := h
      refine ⟨rfl, hbegins.behind hapart, ?_⟩
      rwa [Nat.add_zero, List.drop_left]

/-! ## Errors at the front of a text -/

/-- The fault of a word is its second period or a character that no word may hold. -/
theorem word_fault_cases {before word : List Char} (hbefore : before.count '.' ≤ 1)
    (h : wordFault? start before word = some fault) :
    (∃ sound, sound ++ ['.'] <+: before ++ word ∧ sound.count '.' = 1 ∧
        fault = .multipleDots (String.ofList (sound ++ ['.'])) start) ∨
      ∃ sound c, sound ++ [c] <+: before ++ word ∧
        fault = .unexpectedChar c (start.advance sound) := by
  induction word generalizing before with
  | nil => simp [wordFault?] at h
  | cons c rest ih =>
      have hshift : before ++ c :: rest = before ++ [c] ++ rest := by simp
      rw [wordFault?] at h
      rw [hshift]
      split at h
      · next hdot =>
          subst hdot
          split at h
          · next hsecond =>
              have hpos : 0 < before.count '.' := List.count_pos_iff.2 hsecond
              exact .inl ⟨before, List.prefix_append _ _, by omega, (Option.some.inj h).symm⟩
          · next hfirst =>
              refine ih ?_ h
              rw [List.count_append, List.count_eq_zero.2 hfirst]
              decide
      · next hdot =>
          split at h
          · refine ih ?_ h
            rw [List.count_append, List.count_singleton, beq_false_of_ne hdot]
            simpa using hbefore
          · exact .inr ⟨before, c, List.prefix_append _ _, (Option.some.inj h).symm⟩

/-- A refused word names the place of its fault, and what it reports stands there. -/
theorem read_word_fault {c : Char} (hc : continuesWord c = true)
    (h : readWord start c text = .error fault) :
    ∃ offset, fault.place = start.advance ((c :: text).take offset) ∧
      Reports (c :: text) 0 offset fault := by
  have hbegins : BeginsWord (c :: text) 0 := ⟨⟨c, rfl, hc⟩, by simp⟩
  have hword : c :: text.takeWhile continuesWord = (c :: text).takeWhile continuesWord :=
    (List.takeWhile_cons_of_pos hc).symm
  simp only [readWord, hword] at h
  split at h
  · next cause hcause =>
      cases h
      unfold ofWord at hcause
      split at hcause
      · next found hfound =>
          cases hcause
          rcases word_fault_cases (by simp) hfound with
            ⟨sound, hsound, hcount, rfl⟩ | ⟨sound, d, hsound, rfl⟩
          · rw [List.nil_append] at hsound
            refine ⟨0, rfl, rfl, hbegins, ?_, ?_, ?_⟩
            · rw [String.toList_ofList, List.drop_zero]
              exact hsound.trans (List.takeWhile_prefix _)
            · rw [String.toList_ofList, List.getLast?_concat]
            · rw [String.toList_ofList, List.count_append, hcount]
              rfl
          · rw [List.nil_append] at hsound
            obtain ⟨behind, hbehind⟩ := hsound.trans (List.takeWhile_prefix _)
            rw [List.append_assoc, List.singleton_append] at hbehind
            refine ⟨sound.length, ?_, ?_, Nat.zero_le _, .inr ⟨hbegins, ?_⟩⟩
            · rw [← hbehind, List.take_left]
              rfl
            · rw [← hbehind, List.getElem?_append_right (Nat.le_refl _), Nat.sub_self]
              rfl
            · rw [← hbehind, List.take_left, List.drop_zero]
              exact fun e he => List.mem_takeWhile_imp (hsound.subset (by simp [he]))
      · unfold classify at hcause
        simp only at hcause
        split at hcause
        · cases hcause
        · split at hcause
          · split at hcause
            · cases hcause
              refine ⟨0, rfl, rfl, hbegins, ?_⟩
              rw [String.toList_ofList, List.drop_zero]
            · cases hcause
          · split at hcause <;> cases hcause
  · cases h

/-- A refused value names the place of its bracket. -/
theorem read_value_fault (h : readValue start text = .error fault) :
    fault.place = start ∧ Reports ('[' :: text) 0 0 fault := by
  simp only [readValue] at h
  split at h
  · cases h
    exact ⟨rfl, rfl, rfl⟩
  · split at h
    · cases h
      exact ⟨rfl, rfl, rfl⟩
    · split at h
      · cases h
        exact ⟨rfl, rfl, rfl⟩
      · cases h

/-- What is refused at a character that is not blank stands at the place that the error names. -/
theorem lexeme_fault {c : Char} (hblank : isBlank c = false)
    (h : lexeme start c text = .error fault) :
    ∃ offset, fault.place = start.advance ((c :: text).take offset) ∧
      Reports (c :: text) 0 offset fault := by
  unfold lexeme at h
  split at h
  · cases h
  split at h
  · cases h
  split at h
  · cases h
  split at h
  · next hc =>
      cases h
      exact ⟨0, rfl, rfl, Nat.le_refl _, .inl ⟨rfl, hc⟩⟩
  split at h
  · next hc =>
      subst hc
      exact ⟨0, read_value_fault h⟩
  · next hcomma hopen hclose hbracket hvalue =>
      refine read_word_fault ?_ h
      simp [continuesWord, isDelimiter, hblank, hcomma, hopen, hclose, hbracket, hvalue]

/-- A text that begins with a lexical error has a gap in front of the token that fails. -/
theorem next_fault (h : next start text = .error fault) :
    ∃ gap rest offset, text = gap ++ rest ∧ IsGap gap ∧ Reports rest 0 offset fault ∧
      fault.place = start.advance (gap ++ rest.take offset) := by
  simp only [next] at h
  split at h
  · cases h
  · next hbreak =>
      split at h
      · cases h
      · next c behind hrest =>
          split at h
          · next cause hcause =>
              cases h
              have hblank : isBlank c = false := by
                have hstop : ∀ d ∈ (text.dropWhile isBlank).head?, isBlank d = false :=
                  head_drop_while
                simpa [hrest] using hstop
              obtain ⟨offset, hplace, hreports⟩ := lexeme_fault hblank hcause
              refine ⟨text.takeWhile isBlank, c :: behind, offset, ?_, fun d hd => ⟨?_, ?_⟩,
                hreports, ?_⟩
              · rw [← hrest, List.takeWhile_append_dropWhile]
              · exact List.mem_takeWhile_imp hd
              · by_contra hline
                exact hbreak (List.any_eq_true.2 ⟨d, hd, by simpa using hline⟩)
              · rw [hplace, Position.advance_append]
          · cases h

/-! ## The first error of a text -/

/-- No word goes on behind a token. -/
theorem next_apart {found : Reading} (h : next start text = .ok (some found)) :
    Apart found.consumed found.behind := by
  obtain ⟨gap, lexeme, htext, -, hspells, hword, -⟩ := next_sound h
  have hconsumed : found.consumed = gap ++ lexeme :=
    List.append_cancel_right ((next_append h).1.trans htext)
  cases htoken : found.token.isWord with
  | true => exact .inr (hword htoken)
  | false =>
      -- a lexeme that is no word ends with a delimiter or with a blank
      refine .inl fun c hc => ?_
      have hlast (init : List Char) {last : Char} (heq : lexeme = init ++ [last]) : c = last := by
        rw [hconsumed, heq, ← List.append_assoc, List.getLast?_concat] at hc
        exact (Option.some.inj hc).symm
      generalize found.token = token at hspells htoken
      cases hspells with
      | comma | openTable | closeTable =>
          rw [hlast [] rfl]
          decide
      | value _ _ =>
          rw [hlast _ (List.cons_append ..).symm]
          decide
      | newLine hblank hbreak =>
          obtain ⟨d, hd, -⟩ := hbreak
          obtain ⟨init, last, heq⟩ := List.eq_nil_or_concat lexeme |>.resolve_left
            (List.ne_nil_of_mem hd)
          rw [List.concat_eq_append] at heq
          rw [hlast init heq]
          simp [continuesWord, hblank last (by simp [heq])]
      | reserved hmem => exact absurd (reserved_is_word hmem) (by simp [htoken])
      | dataType | reference | name => simp [isWord] at htoken

/-- A lexeme in front of a beginning of the rest of a text, instead of the whole rest. -/
theorem Spelling.shortened {found : Reading} {tokens : List Token}
    (h : next start text = .ok (some found)) (hsplit : found.behind = front ++ rest)
    (hfront : Spelling tokens front) :
    Spelling (found.token :: tokens) (found.consumed ++ front) := by
  obtain ⟨gap, lexeme, htext, hgap, hspells, hword, hline⟩ := next_sound h
  have hconsumed : found.consumed = gap ++ lexeme :=
    List.append_cancel_right ((next_append h).1.trans htext)
  have hhead : ∀ c ∈ front.head?, c ∈ found.behind.head? := by
    intro c hc
    rw [hsplit, List.head?_append, hc]
    rfl
  rw [hconsumed]
  refine .token hgap hspells hfront (fun htoken => ?_) fun htoken => ⟨(hline htoken).1, ?_⟩
  · exact hfront.ends_word_iff.1 fun c hc => hword htoken c (hhead c hc)
  · rintro ⟨c, hc, hblank⟩
    exact (hline htoken).2 ⟨c, hhead c hc, hblank⟩

/-- A text with a lexical error falls in two: a text that spells the tokens in front of the error,
and one that begins with the token that fails. -/
theorem scan_from_fault (h : (scanFrom start text).failure = some fault) :
    ∃ front rest offset, text = front ++ rest ∧ Apart front rest ∧ Reports rest 0 offset fault ∧
      fault.place = start.advance (front ++ rest.take offset) ∧
      Spelling (scanFrom start text).tokens front := by
  fun_induction scanFrom start text with
  | case1 start text cause hnext =>
      cases h
      obtain ⟨gap, rest, offset, htext, hgap, hreports, hplace⟩ := next_fault hnext
      refine ⟨gap, rest, offset, htext, .inl fun c hc => ?_, hreports, hplace, .done hgap⟩
      simp [continuesWord, (hgap c (List.mem_of_mem_getLast? hc)).1]
  | case2 start text hnext => cases h
  | case3 start text found hnext _ ih =>
      obtain ⟨front, rest, offset, hbehind, hapart, hreports, hplace, hspelling⟩ := ih h
      refine ⟨found.consumed ++ front, rest, offset, ?_, ?_, hreports, ?_,
        hspelling.shortened hnext hbehind⟩
      · rw [List.append_assoc, ← hbehind, (next_append hnext).1]
      · -- without anything in front, the token that fails follows the one that was read
        cases hlast : front.getLast? with
        | none =>
            obtain rfl := List.getLast?_eq_none_iff.1 hlast
            rw [List.nil_append] at hbehind
            rw [List.append_nil, ← hbehind]
            exact next_apart hnext
        | some last =>
            refine hapart.imp_left fun hfront c hc => hfront c ?_
            rw [List.getLast?_append, hlast] at hc
            rw [hlast]
            exact hc
      · rw [hplace, ← Position.advance_append, List.append_assoc]

/-! ## Scanning on demand -/

/-- What a scan hands out, in order: its tokens and its error. -/
def Scan.handedOut (scan : Scan) : List (Except LexError Token) :=
  scan.tokens.map .ok ++ (scan.failure.map .error).toList

/-- A scanner that has met an error hands out nothing. -/
theorem Scanner.answer_failed (scanner : Scanner) (h : scanner.failed = true) (asked : Nat) :
    scanner.answer asked = none := by
  have hask : scanner.ask = (none, scanner) := by rw [ask, if_pos h]
  induction asked with
  | zero => rw [answer, hask]
  | succ asked ih => rw [answer, hask, ih]

/-- A scanner hands out what the scan of its text yields, one after the other, and then nothing. -/
theorem Scanner.answer_eq (start : Position) (text : List Char) (asked : Nat) :
    (Scanner.mk start text false).answer asked = (scanFrom start text).handedOut[asked]? := by
  fun_induction scanFrom start text generalizing asked with
  | case1 start text fault hnext =>
      have hask : (Scanner.mk start text false).ask = (some (.error fault), ⟨start, text, true⟩) := by
        simp [ask, hnext]
      cases asked with
      | zero =>
          rw [answer, hask]
          rfl
      | succ asked =>
          rw [answer, hask, answer_failed _ rfl]
          rfl
  | case2 start text hnext =>
      have hask : (Scanner.mk start text false).ask = (none, ⟨start, text, false⟩) := by
        simp [ask, hnext]
      induction asked with
      | zero =>
          rw [answer, hask]
          rfl
      | succ asked ih => rw [answer, hask, ih]; rfl
  | case3 start text found hnext _ ih =>
      have hask : (Scanner.mk start text false).ask =
          (some (.ok found.token), ⟨start.advance found.consumed, found.behind, false⟩) := by
        simp [ask, hnext]
      cases asked with
      | zero =>
          rw [answer, hask]
          rfl
      | succ asked =>
          rw [answer, hask, ih]
          rfl

/-- A lexical error points at what it reports. For every text with a lexical error there is an index
at which the reported character, the bracket of the reported value or the reported word stands, and
the place that the error names is the one behind the text in front of that index. The text in front
of the token that fails has no lexical error, and a scanner hands out its tokens, then the error,
and then nothing. -/
theorem fault_located {text : String} {fault : LexError} (h : tokenize text = .error fault) :
    ∃ first culprit tokens,
      fault.place = Position.behind (text.toList.take culprit) ∧
      Reports text.toList first culprit fault ∧
      tokenize (String.ofList (text.toList.take first)) = .ok tokens ∧
      ∀ asked, (Scanner.ofText text).answer asked =
        (tokens.map Except.ok ++ [.error fault])[asked]? := by
  have hfailure : (scan text).failure = some fault := by
    unfold tokenize at h
    split at h
    · next hscan =>
        cases h
        rw [hscan]
    · cases h
  obtain ⟨front, rest, offset, htext, hapart, hreports, hplace, hspelling⟩ :=
    scan_from_fault hfailure
  refine ⟨front.length, front.length + offset, (scan text).tokens, ?_, ?_, ?_, fun asked => ?_⟩
  · rw [hplace, Position.start_advance, htext, List.take_length_add_append]
  · rw [htext]
    exact hreports.behind hapart
  · rw [htext, List.take_left, tokenize_ok_iff, String.toList_ofList]
    exact hspelling
  · have hanswer := Scanner.answer_eq .start text.toList asked
    have hscan : scanFrom .start text.toList = scan text := rfl
    rw [hscan, Scan.handedOut, hfailure] at hanswer
    exact hanswer

/-- A character in the middle of a word, behind a line break of two characters and a tab. -/
theorem stray_character_located :
    tokenize "é\r\n\tna$me [x" = .error (.unexpectedChar '$' ⟨2, 4⟩) ∧
    ∃ first culprit tokens,
      (⟨2, 4⟩ : Position) = Position.behind ("é\r\n\tna$me [x".toList.take culprit) ∧
      Reports "é\r\n\tna$me [x".toList first culprit (.unexpectedChar '$' ⟨2, 4⟩) ∧
      tokenize (String.ofList ("é\r\n\tna$me [x".toList.take first)) = .ok tokens ∧
      ∀ asked, (Scanner.ofText "é\r\n\tna$me [x").answer asked =
        (tokens.map Except.ok ++ [.error (.unexpectedChar '$' ⟨2, 4⟩)])[asked]? := by
  have hfails : tokenize "é\r\n\tna$me [x" = .error (.unexpectedChar '$' ⟨2, 4⟩) := by
    decide +kernel
  exact ⟨hfails, fault_located hfails⟩

end Token

end Schemata
