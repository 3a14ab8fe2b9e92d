import Schemata.Proofs.Token.Joining

/-!
# The inside of tables and of values

Braces and brackets split a text into regions, and where a character stands can be told from the
characters in front of it. For a text of the lexical grammar the regions follow the tokens by
`Spelling.region_behind`. Such a text can be cut at a separator: by `Spelling.cut` what stands in
front of it and what stands behind it are texts of the grammar, and `Spelling.join_comma` and
`Spelling.join_line` say what the pieces spell with a separator put between them again.
-/

namespace Schemata

/-- Where in a text a character stands: inside of the braces of a table or not, and inside of the
brackets of a value or not. -/
structure Region where
  table : Bool := false
  value : Bool := false
  deriving DecidableEq, Repr

namespace Region

/-- The region behind one more character. Inside of a value only the closing bracket counts. -/
def after (region : Region) (c : Char) : Region :=
  if region.value then { region with value := c != ']' }
  else if c = '[' then { region with value := true }
  else if c = '\x7b' then { region with table := true }
  else if c = '\x7d' then { region with table := false }
  else region

/-- The region behind a text. -/
def behind (region : Region) (text : List Char) : Region :=
  text.foldl after region

/-- The character neither opens nor closes a region. -/
def isNeutral (c : Char) : Bool :=
  !(c == '[' || c == ']' || c == '\x7b' || c == '\x7d')

/-- The region behind two texts. -/
theorem behind_append (region : Region) (left right : List Char) :
    region.behind (left ++ right) = (region.behind left).behind right :=
  List.foldl_append

/-- A text whose characters do not leave the region stays in it. -/
theorem behind_stay {region : Region} {text : List Char}
    (h : ∀ c ∈ text, region.after c = region) : region.behind text = region := by
  induction text with
  | nil => rfl
  | cons c rest ih =>
      rw [List.forall_mem_cons] at h
      show (region.after c).behind rest = region
      rw [h.1]
      exact ih h.2

/-- Characters that neither open nor close a region stay in it. -/
theorem after_neutral {c : Char} (h : isNeutral c = true) (region : Region) :
    region.after c = region := by
  simp only [isNeutral, Bool.not_eq_true', Bool.or_eq_false_iff, beq_eq_false_iff_ne] at h
  obtain ⟨table, value⟩ := region
  cases value <;> simp [after, h]

/-- A text of such characters stays in its region. -/
theorem behind_neutral {text : List Char} (h : ∀ c ∈ text, isNeutral c = true) (region : Region) :
    region.behind text = region :=
  behind_stay fun c hc => after_neutral (h c hc) region

/-- A value goes on up to its closing bracket. -/
theorem behind_inner {inner : List Char} (h : ∀ c ∈ inner, c ≠ ']') (table : Bool) :
    behind ⟨table, true⟩ inner = ⟨table, true⟩ :=
  behind_stay fun c hc => by simp [after, h c hc]

/-- The characters of a class without braces and brackets neither open nor close a region. -/
theorem neutral_of_class {p : Char → Bool} (hbrackets : p '[' = false ∧ p ']' = false)
    (hbraces : p '\x7b' = false ∧ p '\x7d' = false) {c : Char} (h : p c = true) :
    isNeutral c = true := by
  by_contra hneutral
  simp only [isNeutral, Bool.not_eq_true', Bool.not_eq_false, Bool.or_eq_true, beq_iff_eq]
    at hneutral
  rcases hneutral with ((rfl | rfl) | rfl) | rfl <;> simp [h] at hbrackets hbraces

end Region

namespace Token

open Text

variable {token : Token} {tokens earlier later : List Token} {gap lexeme before after : List Char}

/-- Whether a table is open behind a token, if `inside` says whether it was in front of it. -/
def keepsInside (inside : Bool) : Token → Bool
  | openTable => true
  | closeTable => false
  | _ => inside

/-! ## The regions of tokens -/

/-- A blank neither opens nor closes a region. -/
theorem blank_neutral {c : Char} (h : isBlank c = true) : Region.isNeutral c = true :=
  Region.neutral_of_class (by decide) (by decide) h

/-- A character that continues a word neither opens nor closes a region. -/
theorem word_char_neutral {c : Char} (h : continuesWord c = true) : Region.isNeutral c = true :=
  Region.neutral_of_class (by decide) (by decide) h

/-- A gap stays in its region. -/
theorem IsGap.region_behind (h : IsGap gap) (region : Region) : region.behind gap = region :=
  Region.behind_neutral (fun c hc => blank_neutral (h c hc).1) region

/-- Outside of values, the lexeme of a token ends outside of values, and only braces open and close
tables. -/
theorem Spells.region_behind (h : Spells token lexeme) (table : Bool) :
    Region.behind ⟨table, false⟩ lexeme = ⟨token.keepsInside table, false⟩ := by
  cases hword : token.isWord with
  | true =>
      have hchars := (h.word_chars hword).2
      rw [Region.behind_neutral fun c hc => word_char_neutral (hchars c hc)]
      cases token <;> simp_all [isWord, keepsInside]
  | false =>
      cases h with
      | comma | openTable | closeTable => rfl
      | newLine hblank _ => exact Region.behind_neutral (fun c hc => blank_neutral (hblank c hc)) _
      | @value inner hinner _ =>
          have hopen : Region.after ⟨table, false⟩ '[' = ⟨table, true⟩ := rfl
          show (Region.after ⟨table, false⟩ '[').behind (inner ++ [']']) = ⟨table, false⟩
          rw [hopen, Region.behind_append, Region.behind_inner fun c hc => (hinner c hc).1]
          rfl
      | reserved hmem => exact absurd (reserved_is_word hmem) (by simp [hword])
      | dataType | reference | name => simp [isWord] at hword

/-- The regions of a text of the lexical grammar follow its tokens. -/
theorem Spelling.region_behind {text : List Char} (h : Spelling tokens text) (table : Bool) :
    Region.behind ⟨table, false⟩ text = ⟨tokens.foldl keepsInside table, false⟩ := by
  induction h generalizing table with
  | done hgap => exact hgap.region_behind _
  | token hgap hspells _ _ _ ih =>
      rw [Region.behind_append, Region.behind_append, hgap.region_behind, hspells.region_behind, ih]
      rfl

/-! ## Cutting a text at a separator -/

/-- A text spells at most one list of tokens. -/
theorem Spelling.unique {text : List Char} (h : Spelling tokens text)
    (hother : Spelling earlier text) : tokens = earlier := by
  have hscan := (scan_from_complete h .start).symm.trans (scan_from_complete hother .start)
  exact congrArg Scan.tokens hscan

/-- With blanks in front of it a text still spells tokens. -/
theorem Spelling.behind_blanks {blanks text : List Char} (h : Spelling tokens text)
    (hblanks : ∀ c ∈ blanks, isBlank c = true) (htext : ¬ StartsBlank text) :
    ∃ found, Spelling found (blanks ++ text) := by
  have hstop : ∀ c ∈ text.head?, isBlank c = false := by
    intro c hc
    by_contra hblank
    exact htext ⟨c, hc, by simpa using hblank⟩
  obtain ⟨htake, hdrop⟩ := span_append hblanks hstop
  have hscan := scan_from_blanks .start (blanks ++ text)
  rw [htake, hdrop, scan_from_complete h] at hscan
  have hfailure : (scanFrom .start (blanks ++ text)).failure = none := by
    rw [hscan]
    split <;> rfl
  exact ⟨_, scan_from_sound hfailure⟩

/-- The character is one of the two that separate columns. -/
def IsSeparator (c : Char) : Prop :=
  c = ',' ∨ c = '\n'

/-- There is no separator in a gap. -/
theorem IsGap.no_separator {c : Char} (h : IsGap gap) (hc : IsSeparator c) : c ∉ gap := by
  intro hmem
  obtain ⟨hblank, hline⟩ := h c hmem
  rcases hc with rfl | rfl
  · exact absurd hblank (by decide)
  · exact absurd hline (by decide)

/-- A separator in a lexeme is a comma on its own, a part of a line break, or a comma in a value. -/
theorem Spells.separator {c : Char} (h : Spells token (before ++ c :: after))
    (hc : IsSeparator c) :
    (token = Token.comma ∧ before = [] ∧ after = []) ∨
      (token = Token.newLine ∧ ∀ d ∈ before ++ after, isBlank d = true) ∨
      (c = ',' ∧ ∃ inner, before = '[' :: inner ∧ ∀ d ∈ inner, d ≠ ']') := by
  have hmem : c ∈ before ++ c :: after := by simp
  generalize hlexeme : before ++ c :: after = lexeme at h hmem
  cases hword : token.isWord with
  | true =>
      have hends := (h.word_chars hword).2 c hmem
      rcases hc with rfl | rfl <;> exact absurd hends (by decide)
  | false =>
      cases h with
      | comma =>
          obtain ⟨rfl, hrest⟩ | ⟨_, rfl, hrest⟩ := List.append_eq_cons_iff.1 hlexeme
          · exact .inl ⟨rfl, rfl, (List.cons.inj hrest).2⟩
          · simp at hrest
      | openTable | closeTable =>
          obtain rfl := List.mem_singleton.1 hmem
          rcases hc with hc | hc <;> exact absurd hc (by decide)
      | newLine hblank _ =>
          refine .inr (.inl ⟨rfl, fun d hd => hblank d ?_⟩)
          rw [← hlexeme]
          simp only [List.mem_append, List.mem_cons] at hd ⊢
          exact hd.imp_right .inr
      | @value inner hinner _ =>
          -- line breaks are not allowed in a value
          have hcomma : c = ',' := by
            refine hc.resolve_right ?_
            rintro rfl
            simp only [List.mem_cons, List.mem_append, List.not_mem_nil, or_false] at hmem
            rcases hmem with hmem | hmem | hmem
            · exact absurd hmem (by decide)
            · exact absurd (hinner _ hmem).2 (by decide)
            · exact absurd hmem (by decide)
          subst hcomma
          obtain ⟨rfl, hrest⟩ | ⟨part, rfl, hrest⟩ := List.append_eq_cons_iff.1 hlexeme
          · exact absurd (List.cons.inj hrest).1 (by decide)
          · refine .inr (.inr ⟨rfl, part, rfl, fun d hd => ?_⟩)
            -- the comma is not the closing bracket, so the part before it is within the value
            have hpart : part <+: inner := by
              rcases List.prefix_concat_iff.1 ⟨_, hrest.symm⟩ with hall | hpart
              · simp [hall] at hrest
              · exact hpart
            exact (hinner d (hpart.subset hd)).1
      | reserved hmem => exact absurd (reserved_is_word hmem) (by simp [hword])
      | dataType | reference | name => simp [isWord] at hword

/-- A character of a text in two pieces stands in the second piece or in the first one. -/
theorem append_eq_append_cons {left right : List Char} {c : Char}
    (h : left ++ right = before ++ c :: after) :
    (∃ front, before = left ++ front ∧ right = front ++ c :: after) ∨
      ∃ back, left = before ++ c :: back ∧ after = back ++ right := by
  rcases List.append_eq_append_iff.1 h with ⟨front, hbefore, hright⟩ | ⟨back, hleft, hafter⟩
  · exact .inl ⟨front, hbefore, hright⟩
  · cases back with
    | nil => exact .inl ⟨[], by simpa using hleft.symm, by simpa using hafter.symm⟩
    | cons d back =>
        obtain ⟨rfl, rfl⟩ := List.cons.inj hafter
        exact .inr ⟨back, hleft, rfl⟩

/-- A text of the lexical grammar falls into two at a separator outside of values that is its first
token or a part of it. -/
theorem Spelling.cut_lexeme {c : Char} {part back rest : List Char} {table : Bool}
    (h : Spelling tokens rest) (hc : IsSeparator c) (hgap : IsGap gap)
    (hspells : Spells token (part ++ c :: back))
    (hline : token = newLine → gap = [] ∧ ¬ StartsBlank rest)
    (hvalue : c = ',' → (Region.behind ⟨table, false⟩ (gap ++ part)).value = false) :
    ∃ earlier later, Spelling earlier (gap ++ part) ∧ Spelling later (back ++ rest) := by
  rcases hspells.separator hc with
    ⟨-, rfl, rfl⟩ | ⟨hnew, hblanks⟩ | ⟨hcomma, inner, rfl, hinner⟩
  · rw [List.append_nil]
    exact ⟨[], tokens, .done hgap, h⟩
  · obtain ⟨rfl, hstop⟩ := hline hnew
    have hempty : Spelling [] [] := .done (by simp [IsGap])
    obtain ⟨earlier, hearlier⟩ := hempty.behind_blanks
      (fun d hd => hblanks d (List.mem_append_left back hd)) (by simp [StartsBlank])
    obtain ⟨later, hlater⟩ := h.behind_blanks
      (fun d hd => hblanks d (List.mem_append_right part hd)) hstop
    rw [List.append_nil] at hearlier
    exact ⟨earlier, later, hearlier, hlater⟩
  · have hinside := hvalue hcomma
    have hopen : Region.behind ⟨table, false⟩ ('[' :: inner) = ⟨table, true⟩ :=
      Region.behind_inner hinner table
    rw [Region.behind_append, hgap.region_behind, hopen] at hinside
    cases hinside

/-- A text of the lexical grammar falls into two at a separator outside of values. -/
theorem Spelling.cut {text : List Char} {c : Char} (h : Spelling tokens text) (table : Bool)
    (hc : IsSeparator c) (htext : text = before ++ c :: after)
    (hvalue : c = ',' → (Region.behind ⟨table, false⟩ before).value = false) :
    ∃ earlier later, Spelling earlier before ∧ Spelling later after := by
  induction h generalizing before table with
  | done hgap => exact absurd (htext ▸ by simp) (hgap.no_separator hc)
  | @token gap lexeme rest token tokens hgap hspells hrest hword hline ih =>
      rcases append_eq_append_cons htext with ⟨front, rfl, rfl⟩ | ⟨back, hfirst, rfl⟩
      · -- the separator stands behind the first token
        rw [Region.behind_append, Region.behind_append, hgap.region_behind,
          hspells.region_behind] at hvalue
        obtain ⟨earlier, later, hearlier, hlater⟩ := ih _ rfl hvalue
        have hhead {d : Char} (hd : d ∈ front.head?) : d ∈ (front ++ c :: after).head? := by
          rw [List.head?_append, hd]
          rfl
        refine ⟨token :: earlier, later, .token hgap hspells hearlier (fun hw => ?_) ?_, hlater⟩
        · have hends := hrest.ends_word_iff.2 (hword hw)
          exact hearlier.ends_word_iff.1 fun d hd => hends d (hhead hd)
        · intro hnew
          refine ⟨(hline hnew).1, ?_⟩
          rintro ⟨d, hd, hblank⟩
          exact (hline hnew).2 ⟨d, hhead hd, hblank⟩
      · rcases append_eq_append_cons hfirst with ⟨part, rfl, rfl⟩ | ⟨blanks, rfl, -⟩
        · exact hrest.cut_lexeme hc hgap hspells hline hvalue
        · exact absurd (by simp) (hgap.no_separator hc)

/-- Two texts with a comma between them spell their tokens with a comma between them. -/
theorem Spelling.join_comma (h : Spelling earlier before) (hafter : Spelling later after) :
    Spelling (earlier ++ comma :: later) (before ++ ',' :: after) := by
  induction h with
  | done hgap =>
      have hcomma : Spelling (comma :: later) (_ ++ [','] ++ after) :=
        .token hgap .comma hafter (by simp [isWord]) (by simp)
      rwa [List.append_assoc, List.singleton_append] at hcomma
  | @token gap lexeme rest token tokens hgap hspells hrest hword hline ih =>
      rw [List.append_assoc, List.cons_append]
      have hends (hends : EndsWord rest) : EndsWord (rest ++ ',' :: after) :=
        head_append hends (by simp; decide)
      refine .token hgap hspells ih (fun hw => ?_) (fun hnew => ⟨(hline hnew).1, ?_⟩)
      · exact ih.ends_word_iff.1 (hends (hrest.ends_word_iff.2 (hword hw)))
      · have hstop := (hline hnew).2
        rintro ⟨c, hmem, hblank⟩
        cases rest with
        | nil =>
            obtain rfl := Option.some.inj hmem
            exact absurd hblank (by decide)
        | cons d rest => exact hstop ⟨c, hmem, hblank⟩

/-- Two texts with a line feed between them spell their tokens with a line break between them, which
replaces line breaks at the end of the first and at the beginning of the second. -/
theorem Spelling.join_line (h : Spelling tokens before) {others : List Token}
    (hafter : Spelling others after) :
    ∃ earlier later, (tokens = earlier ∨ tokens = earlier ++ [newLine]) ∧
      (others = later ∨ others = newLine :: later) ∧
      Spelling (earlier ++ newLine :: later) (before ++ '\n' :: after) := by
  have hbefore : scan (String.ofList before) = ⟨tokens, none⟩ := by
    rw [scan, String.toList_ofList, scan_from_complete h]
  have hbehind : scan (String.ofList after) = ⟨others, none⟩ := by
    rw [scan, String.toList_ofList, scan_from_complete hafter]
  have hjoined := scan_joined (congrArg Scan.failure hbefore) (String.ofList after)
  rw [hbefore, hbehind] at hjoined
  obtain ⟨earlier, later, hearlier, hlater, hscan⟩ := hjoined
  have htext : (String.ofList before ++ "\n" ++ String.ofList after).toList =
      before ++ '\n' :: after := by simp
  rw [scan, htext] at hscan
  have hspelling := scan_from_sound (congrArg Scan.failure hscan)
  rw [hscan] at hspelling
  exact ⟨earlier, later, hearlier, hlater, hspelling⟩

end Token

end Schemata
