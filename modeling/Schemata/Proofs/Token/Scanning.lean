import Schemata.Proofs.Token.Spelling

/-!
# Scanning follows the lexical grammar

Reading a token takes the gap and the lexeme off the front of a text, and every reading is of this
kind. From this `tokenize_ok_iff` shows that scanning accepts exactly the texts of the lexical
grammar and returns the tokens that they spell, so a text spells at most one list of tokens.
-/

namespace Schemata.Token

open Text

/-! ## Reading one token -/

/-- The text does not go on with a character that continues a word. -/
def EndsWord (rest : List Char) : Prop :=
  ∀ c ∈ rest.head?, continuesWord c = false

/-- The longest run of characters of a class is cut off a text where the run ends. -/
theorem span_append {p : Char → Bool} {run rest : List Char} (hrun : ∀ c ∈ run, p c = true)
    (hrest : ∀ c ∈ rest.head?, p c = false) :
    (run ++ rest).takeWhile p = run ∧ (run ++ rest).dropWhile p = rest := by
  rw [List.takeWhile_append_of_pos hrun, List.dropWhile_append_of_pos hrun]
  cases rest with
  | nil => simp
  | cons c behind =>
      have hc : p c = false := hrest c rfl
      simp [hc]

/-- Behind the longest run of characters of a class there is none of them. -/
theorem head_drop_while {p : Char → Bool} {text : List Char} :
    ∀ c ∈ (text.dropWhile p).head?, p c = false := by
  intro c hc
  have hstop := List.head?_dropWhile_not p text
  rw [hc] at hstop
  exact hstop

/-- The lexeme of a word is not empty, and its characters continue a word. -/
theorem Spells.word_chars {token : Token} {lexeme : List Char} (h : Spells token lexeme)
    (hword : token.isWord = true) :
    (∃ c tail, lexeme = c :: tail ∧ isNameChar c = true) ∧
      ∀ c ∈ lexeme, continuesWord c = true := by
  have of_name : ∀ {word : List Char}, IsName word →
      (∃ c tail, word = c :: tail ∧ isNameChar c = true) ∧
        ∀ c ∈ word, continuesWord c = true := by
    intro word hname
    obtain ⟨c, tail, rfl⟩ := List.exists_cons_of_ne_nil hname.1
    exact ⟨⟨c, tail, rfl, hname.2 c (by simp)⟩, fun d hd => name_char_continues (hname.2 d hd)⟩
  cases h with
  | comma | openTable | closeTable | newLine | value => simp [isWord] at hword
  | reserved hmem hsame => exact of_name (is_name_of_same_word (reserved_is_name hmem) hsame)
  | dataType hmem hsame => exact of_name (is_name_of_same_word (keyword_is_name hmem) hsame)
  | name hname => exact of_name hname
  | reference htable hcolumn =>
      obtain ⟨⟨c, tail, rfl, hc⟩, hall⟩ := of_name htable
      refine ⟨⟨c, _, rfl, hc⟩, fun d hd => ?_⟩
      rcases List.mem_append.1 hd with hd | hd
      · exact hall d hd
      · rcases List.mem_cons.1 hd with rfl | hd
        · decide
        · exact (of_name hcolumn).2 d hd

/-- The lexeme of a token other than a line break starts with a character that is not blank. -/
theorem Spells.head_not_blank {token : Token} {lexeme : List Char} (h : Spells token lexeme)
    (hline : token ≠ Token.newLine) : ∃ c tail, lexeme = c :: tail ∧ isBlank c = false := by
  cases hword : token.isWord with
  | true =>
      obtain ⟨c, tail, hlexeme, hc⟩ := (h.word_chars hword).1
      exact ⟨c, tail, hlexeme, name_char_not_blank hc⟩
  | false =>
      cases h with
      | newLine => exact absurd rfl hline
      | comma | openTable | closeTable | value => exact ⟨_, _, rfl, by decide⟩
      | reserved hmem => exact absurd (reserved_is_word hmem) (by simp [hword])
      | dataType | reference | name => simp [isWord] at hword

/-- A word is read off the front of a text where it ends. -/
theorem lexeme_word {start : Position} {c : Char} {tail rest : List Char} {token : Token}
    (h : Spells token (c :: tail)) (hword : token.isWord = true) (hends : EndsWord rest) :
    lexeme start c (tail ++ rest) = .ok ⟨token, c :: tail, rest⟩ := by
  obtain ⟨⟨d, _, hcons, hname⟩, hchars⟩ := h.word_chars hword
  obtain ⟨rfl, -⟩ := List.cons.inj hcons
  have hne : ∀ d, isNameChar d = false → c ≠ d := by
    rintro d hd rfl
    rw [hname] at hd
    exact absurd hd (by decide)
  obtain ⟨htake, hdrop⟩ := span_append (fun d hd => hchars d (List.mem_cons_of_mem c hd)) hends
  rw [lexeme, if_neg (hne _ (by decide)), if_neg (hne _ (by decide)), if_neg (hne _ (by decide)),
    if_neg (hne _ (by decide)), if_neg (hne _ (by decide)), readWord]
  simp only [htake, hdrop, (of_word_eq_ok_iff (List.cons_ne_nil c tail)).2 ⟨hword, h⟩]

/-- A bracketed value is read off the front of a text. -/
theorem read_value_append {start : Position} {inner rest : List Char}
    (hinner : ∀ c ∈ inner, c ≠ ']' ∧ isLineBreak c = false)
    (hcontent : inner.filter (!isBlank ·) ≠ []) :
    readValue start (inner ++ ']' :: rest) =
      .ok ⟨value (String.ofList (inner.filter (!isBlank ·))), '[' :: (inner ++ [']']), rest⟩ := by
  have hclosing : ∀ c ∈ (']' :: rest).head?, (c != ']') = false := by simp
  obtain ⟨htake, hdrop⟩ :=
    span_append (fun c hc => by simpa using (hinner c hc).1) hclosing
  have hbreak : inner.any isLineBreak = false := by
    rw [List.any_eq_false]
    intro c hc
    simp [(hinner c hc).2]
  simp only [readValue, htake, hdrop, hbreak, Bool.false_eq_true, if_false, List.isEmpty_iff,
    hcontent, List.cons_append]

/-- The lexeme of a token other than a line break is read off the front of a text, provided that a
word ends there. -/
theorem lexeme_complete {start : Position} {c : Char} {tail rest : List Char} {token : Token}
    (h : Spells token (c :: tail)) (hline : token ≠ newLine)
    (hends : token.isWord = true → EndsWord rest) :
    lexeme start c (tail ++ rest) = .ok ⟨token, c :: tail, rest⟩ := by
  cases hword : token.isWord with
  | true => exact lexeme_word h hword (hends hword)
  | false =>
      -- the lexeme gets a name, since the cases on how it is spelled need a variable
      obtain ⟨chars, hchars⟩ : ∃ chars, chars = c :: tail := ⟨_, rfl⟩
      rw [← hchars] at h
      cases h with
      | comma | openTable | closeTable =>
          obtain ⟨rfl, rfl⟩ := List.cons.inj hchars
          rfl
      | newLine => exact absurd rfl hline
      | value hinner hcontent =>
          obtain ⟨rfl, rfl⟩ := List.cons.inj hchars
          rw [List.append_assoc, List.singleton_append]
          exact read_value_append hinner hcontent
      | reserved hmem => exact absurd (reserved_is_word hmem) (by simp [hword])
      | dataType | reference | name => simp [isWord] at hword

/-- What is read at a character that is not blank is a token other than a line break, together with
its lexeme, and a word is read up to its end. -/
theorem lexeme_sound {start : Position} {c : Char} {text : List Char} {found : Reading}
    (h : lexeme start c text = .ok found) :
    Spells found.token found.consumed ∧ found.token ≠ newLine ∧
      (found.token.isWord = true → EndsWord found.behind) := by
  unfold lexeme at h
  split at h
  · next hc =>
      cases h
      exact ⟨hc ▸ .comma, by simp, by simp [isWord]⟩
  split at h
  · next hc =>
      cases h
      exact ⟨hc ▸ .openTable, by simp, by simp [isWord]⟩
  split at h
  · next hc =>
      cases h
      exact ⟨hc ▸ .closeTable, by simp, by simp [isWord]⟩
  split at h
  · simp at h
  split at h
  · simp only [readValue] at h
    split at h
    · simp at h
    · next hbreak =>
        split at h
        · simp at h
        · next closing behind hdrop =>
            split at h
            · simp at h
            · next hcontent =>
                cases h
                -- the value was cut off at the first closing bracket
                have hclosing : closing = ']' := by
                  have hstop : ∀ d ∈ (text.dropWhile (· != ']')).head?, (d != ']') = false :=
                    head_drop_while
                  simpa [hdrop] using hstop
                subst hclosing
                refine ⟨.value (fun d hd => ⟨?_, ?_⟩) (by simpa using hcontent), by simp,
                  by simp [isWord]⟩
                · simpa using List.mem_takeWhile_imp hd
                · exact List.any_eq_false.1 (by simpa using hbreak) d hd |> Bool.eq_false_iff.2
  · simp only [readWord] at h
    split at h
    · simp at h
    · next token htoken =>
        cases h
        obtain ⟨hword, hspells⟩ := (of_word_eq_ok_iff (List.cons_ne_nil _ _)).1 htoken
        refine ⟨hspells, ?_, fun _ => head_drop_while⟩
        rintro (rfl : token = newLine)
        exact absurd hword (by decide)

/-- The text holds only blanks without a line break exactly if there is no token in it. -/
theorem next_eq_none_iff {start : Position} {text : List Char} :
    next start text = .ok none ↔ IsGap text := by
  constructor
  · intro h
    simp only [next] at h
    split at h
    · simp at h
    · next hbreak =>
        split at h
        · next hrest =>
            have hblank := List.dropWhile_eq_nil_iff.1 hrest
            rw [List.takeWhile_eq_self_iff.2 hblank] at hbreak
            intro c hc
            refine ⟨hblank c hc, ?_⟩
            by_contra hline
            exact hbreak (List.any_eq_true.2 ⟨c, hc, by simpa using hline⟩)
        · split at h <;> simp at h
  · intro h
    have hblank : ∀ c ∈ text, isBlank c = true := fun c hc => (h c hc).1
    have hbreak : text.any isLineBreak = false := by
      rw [List.any_eq_false]
      intro c hc
      simp [(h c hc).2]
    simp [next, List.takeWhile_eq_self_iff.2 hblank, List.dropWhile_eq_nil_iff.2 hblank, hbreak]

/-- A token behind a gap is read, provided that a word ends where it should and that a line break
takes all blanks around it. -/
theorem next_complete {start : Position} {gap lexeme rest : List Char} {token : Token}
    (hgap : IsGap gap) (h : Spells token lexeme) (hword : token.isWord = true → EndsWord rest)
    (hline : token = newLine → gap = [] ∧ ¬ StartsBlank rest) :
    next start (gap ++ lexeme ++ rest) = .ok (some ⟨token, gap ++ lexeme, rest⟩) := by
  by_cases hnew : token = newLine
  · subst hnew
    obtain ⟨rfl, hrest⟩ := hline rfl
    cases h with
    | newLine hblank hbreak =>
        have hstop : ∀ c ∈ rest.head?, isBlank c = false := by
          intro c hc
          by_contra hcblank
          exact hrest ⟨c, hc, by simpa using hcblank⟩
        obtain ⟨htake, hdrop⟩ := span_append hblank hstop
        rw [List.nil_append]
        simp only [next, htake, hdrop, List.any_eq_true.2 hbreak, if_true]
    | reserved hmem => exact absurd (reserved_is_word hmem) (by decide)
  · obtain ⟨c, tail, rfl, hc⟩ := h.head_not_blank hnew
    have hbreak : gap.any isLineBreak = false := by
      rw [List.any_eq_false]
      intro d hd
      simp [(hgap d hd).2]
    have hstop : ∀ d ∈ (c :: (tail ++ rest)).head?, isBlank d = false := by simpa using hc
    obtain ⟨htake, hdrop⟩ := span_append (fun d hd => (hgap d hd).1) hstop
    rw [List.append_assoc, List.cons_append]
    simp only [next, htake, hdrop, hbreak, Bool.false_eq_true, if_false,
      lexeme_complete h hnew hword]

/-- Whatever is read is a gap and the lexeme of the token. A word is read up to its end, and a line
break takes all blanks around it. -/
theorem next_sound {start : Position} {text : List Char} {found : Reading}
    (h : next start text = .ok (some found)) :
    ∃ gap lexeme, text = gap ++ lexeme ++ found.behind ∧ IsGap gap ∧ Spells found.token lexeme ∧
      (found.token.isWord = true → EndsWord found.behind) ∧
      (found.token = newLine → gap = [] ∧ ¬ StartsBlank found.behind) := by
  have hsplit := (next_append h).1
  simp only [next] at h
  split at h
  · next hbreak =>
      cases h
      refine ⟨[], _, hsplit.symm, by simp [IsGap], .newLine ?_ (List.any_eq_true.1 hbreak),
        by simp [isWord], fun _ => ⟨rfl, ?_⟩⟩
      · exact fun c hc => List.mem_takeWhile_imp hc
      · rintro ⟨c, hc, hblank⟩
        rw [head_drop_while c hc] at hblank
        exact absurd hblank (by decide)
  · next hbreak =>
      split at h
      · simp at h
      · split at h
        · simp at h
        · next found' hfound =>
            cases h
            obtain ⟨hspells, hline, hword⟩ := lexeme_sound hfound
            refine ⟨_, found'.consumed, hsplit.symm, fun c hc => ⟨List.mem_takeWhile_imp hc, ?_⟩,
              hspells, hword, fun hnew => absurd hnew hline⟩
            by_contra hbreakc
            exact hbreak (List.any_eq_true.2 ⟨c, hc, by simpa using hbreakc⟩)

/-! ## Scanning a text -/

/-- A blank ends a word. -/
theorem StartsBlank.ends_word {rest : List Char} (h : StartsBlank rest) : EndsWord rest := by
  obtain ⟨c, hc, hblank⟩ := h
  intro d hd
  obtain rfl : c = d := Option.some.inj (hc.symm.trans hd)
  simp [continuesWord, hblank]

/-- In front of a spelling a word ends exactly if a blank follows whenever another word does. -/
theorem Spelling.ends_word_iff {tokens : List Token} {rest : List Char}
    (h : Spelling tokens rest) :
    EndsWord rest ↔ (StartsWord tokens → StartsBlank rest) := by
  -- what follows the word is the end, a gap, or a lexeme with no gap in front of it
  cases h with
  | done hgap =>
      refine iff_of_true (fun c hc => ?_) (by simp [StartsWord])
      simp [continuesWord, (hgap c (List.mem_of_mem_head? hc)).1]
  | @token gap lexeme rest token tokens hgap hspells _ _ _ =>
      cases gap with
      | cons blank gap =>
          have hblank : StartsBlank (blank :: gap ++ lexeme ++ rest) :=
            ⟨blank, rfl, (hgap blank (by simp)).1⟩
          exact iff_of_true hblank.ends_word fun _ => hblank
      | nil =>
          rw [List.nil_append]
          cases hword : token.isWord with
          | true =>
              obtain ⟨c, tail, rfl, hname⟩ := (hspells.word_chars hword).1
              refine iff_of_false (fun hends => ?_) (fun hblank => ?_)
              · have hc := hends c rfl
                rw [name_char_continues hname] at hc
                exact absurd hc (by decide)
              · obtain ⟨d, hd, hblank⟩ := hblank ⟨token, rfl, hword⟩
                obtain rfl : c = d := Option.some.inj hd
                rw [name_char_not_blank hname] at hblank
                exact absurd hblank (by decide)
          | false =>
              refine iff_of_true ?_ (by simp [StartsWord, hword])
              cases hspells with
              | comma | openTable | closeTable | value =>
                  intro c hc
                  obtain rfl := Option.some.inj hc
                  decide
              | newLine hblank hbreak =>
                  obtain ⟨c, hc, -⟩ := hbreak
                  obtain ⟨d, run, rfl⟩ := List.exists_cons_of_ne_nil (List.ne_nil_of_mem hc)
                  exact StartsBlank.ends_word ⟨d, rfl, hblank d (by simp)⟩
              | reserved hmem => exact absurd (reserved_is_word hmem) (by simp [hword])
              | dataType | reference | name => simp [isWord] at hword

/-- Scanning a text without tokens. -/
theorem scan_from_none {start : Position} {text : List Char} (h : next start text = .ok none) :
    scanFrom start text = ⟨[], none⟩ := by
  rw [scanFrom]
  split
  · next hnext => cases h.symm.trans hnext
  · rfl
  · next hnext => cases h.symm.trans hnext

/-- Scanning a text reads its first token and goes on behind it. -/
theorem scan_from_some {start : Position} {text : List Char} {found : Reading}
    (h : next start text = .ok (some found)) :
    scanFrom start text =
      (scanFrom (start.advance found.consumed) found.behind).push found.token := by
  rw [scanFrom]
  split
  · next hnext => cases h.symm.trans hnext
  · next hnext => cases h.symm.trans hnext
  · next hnext =>
      cases h.symm.trans hnext
      rfl

/-- A text that is scanned to its end spells the tokens of the scan. -/
theorem scan_from_sound {start : Position} {text : List Char}
    (h : (scanFrom start text).failure = none) :
    Spelling (scanFrom start text).tokens text := by
  fun_induction scanFrom start text with
  | case1 start text fault hnext => simp at h
  | case2 start text hnext => exact .done (next_eq_none_iff.1 hnext)
  | case3 start text found hnext _ ih =>
      have hrest := ih h
      obtain ⟨gap, lexeme, htext, hgap, hspells, hword, hline⟩ := next_sound hnext
      rw [htext]
      exact .token hgap hspells hrest (fun hw => hrest.ends_word_iff.1 (hword hw)) hline

/-- A text that spells tokens is scanned to its end and yields them. -/
theorem scan_from_complete {tokens : List Token} {text : List Char} (h : Spelling tokens text)
    (start : Position) : scanFrom start text = ⟨tokens, none⟩ := by
  induction h generalizing start with
  | done hgap => exact scan_from_none (next_eq_none_iff.2 hgap)
  | token hgap hspells hrest hword hline ih =>
      rw [scan_from_some (next_complete hgap hspells
        (fun hw => hrest.ends_word_iff.2 (hword hw)) hline), ih, Scan.push]

/-- A text spells the tokens that are scanned. -/
theorem tokenize_sound {text : String} {tokens : List Token} (h : tokenize text = .ok tokens) :
    Spelling tokens text.toList := by
  unfold tokenize scan at h
  split at h
  · simp at h
  · next found hscan =>
      cases h
      have hsound := scan_from_sound (congrArg Scan.failure hscan)
      rwa [hscan] at hsound

/-- Scanning accepts exactly the texts of the lexical grammar and returns the tokens that they
spell. -/
theorem tokenize_ok_iff {text : String} {tokens : List Token} :
    tokenize text = .ok tokens ↔ Spelling tokens text.toList := by
  constructor
  · exact tokenize_sound
  · intro h
    rw [tokenize, scan, scan_from_complete h]

end Schemata.Token
