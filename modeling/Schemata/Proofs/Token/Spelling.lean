import Mathlib.Data.List.TakeWhile
import Schemata.Proofs.Text.Classes
import Schemata.Token.Scan

/-!
# The lexical grammar

`Spells token lexeme` says which characters spell one token, and `Spelling tokens text` that a text
spells a list of tokens: their lexemes in order, with blanks inside a line wherever one likes.
Two words need a blank between them, and a line break token takes the whole run of blanks it stands
in. For words the grammar and the scanner agree by `of_word_eq_ok_iff`: a word is read as the token
that it spells, and a word that spells none is refused.
-/

namespace Schemata.Token

open Text

/-- A possibly empty run of blanks inside a line. -/
def IsGap (gap : List Char) : Prop :=
  ∀ c ∈ gap, isBlank c = true ∧ isLineBreak c = false

/-- A non-empty sequence of letters, numerals, underscores and hyphens. -/
def IsName (word : List Char) : Prop :=
  word ≠ [] ∧ ∀ c ∈ word, isNameChar c = true

/-- The tokens that are spelled by words. -/
def isWord : Token → Bool
  | comma | newLine | openTable | closeTable | value _ => false
  | _ => true

/-- `Spells token lexeme` says that the characters `lexeme` spell `token`. -/
inductive Spells : Token → List Char → Prop where
  | comma : Spells comma [',']
  | openTable : Spells openTable ['\x7b']
  | closeTable : Spells closeTable ['\x7d']
  | newLine {run : List Char} :
      (∀ c ∈ run, isBlank c = true) → (∃ c ∈ run, isLineBreak c = true) → Spells newLine run
  | value {inner : List Char} :
      (∀ c ∈ inner, c ≠ ']' ∧ isLineBreak c = false) → inner.filter (!isBlank ·) ≠ [] →
      Spells (value (String.ofList (inner.filter (!isBlank ·)))) ('[' :: (inner ++ [']']))
  | reserved {keyword : String} {token : Token} {word : List Char} :
      (keyword, token) ∈ reservedWords → sameWord keyword (String.ofList word) = true →
      Spells token word
  | dataType {keyword : String} {type : DataType} {word : List Char} :
      (keyword, type) ∈ DataType.keywords → sameWord keyword (String.ofList word) = true →
      Spells (dataType type) word
  | reference {table column : List Char} :
      IsName table → IsName column →
      Spells (reference (String.ofList table) (String.ofList column)) (table ++ '.' :: column)
  | name {word : List Char} :
      IsName word →
      (∀ entry ∈ reservedWords, sameWord entry.1 (String.ofList word) = false) →
      (∀ entry ∈ DataType.keywords, sameWord entry.1 (String.ofList word) = false) →
      Spells (name (String.ofList word)) word

/-- The text begins with a blank. -/
def StartsBlank (text : List Char) : Prop :=
  ∃ c ∈ text.head?, isBlank c = true

/-- The first token is spelled by a word. -/
def StartsWord (tokens : List Token) : Prop :=
  ∃ token ∈ tokens.head?, token.isWord = true

/-- `Spelling tokens text` says that `text` is the lexemes of `tokens` in order, with gaps before,
between and after them. A gap between two words is not empty, and there is no blank on either side
of the run that spells a line break. -/
inductive Spelling : List Token → List Char → Prop where
  | done {gap : List Char} : IsGap gap → Spelling [] gap
  | token {gap lexeme rest : List Char} {token : Token} {tokens : List Token} :
      IsGap gap → Spells token lexeme → Spelling tokens rest →
      (token.isWord = true → StartsWord tokens → StartsBlank rest) →
      (token = newLine → gap = [] ∧ ¬ StartsBlank rest) →
      Spelling (token :: tokens) (gap ++ lexeme ++ rest)

/-! ## Characters of words -/

/-- A character of a name is not blank. -/
theorem name_char_not_blank {c : Char} (h : isNameChar c = true) : isBlank c = false := by
  simp only [isNameChar, Bool.or_eq_true, beq_iff_eq] at h
  rcases h with (h | rfl) | rfl
  · exact plain_not_blank (alphanumeric_plain h)
  · decide
  · decide

/-- A character of a name continues a word. -/
theorem name_char_continues {c : Char} (h : isNameChar c = true) : continuesWord c = true := by
  have hblank := name_char_not_blank h
  have hdelimiter : isDelimiter c = false := by
    by_contra hd
    simp only [isDelimiter, Bool.not_eq_false, Bool.or_eq_true, beq_iff_eq] at hd
    rcases hd with (((rfl | rfl) | rfl) | rfl) | rfl <;> exact absurd h (by decide)
  simp [continuesWord, hblank, hdelimiter]

/-- A period is no character of a name. -/
theorem dot_not_name_char : isNameChar '.' = false := by
  decide

/-- Putting an ASCII letter in lower case neither makes nor breaks a character of a name. -/
theorem name_char_to_lower (c : Char) : isNameChar c.toLower = isNameChar c := by
  by_cases hcapital : c.val ≥ 'A'.val ∧ c.val ≤ 'Z'.val
  · have hascii : isAscii c = true := by
      have hlast : c.toNat ≤ 90 := hcapital.2
      rw [isAscii, decide_eq_true_eq]
      omega
    exact forall_ascii (p := fun c => isNameChar c.toLower = isNameChar c) (by decide) hascii
  · have hsame : c.toLower = c := dif_neg hcapital
    rw [hsame]

/-! ## Keywords -/

/-- A keyword of a catalogue without repetitions is found under each of its case variants. -/
theorem find_keyword {α : Type} {entries : List (String × α)}
    (hdistinct : (entries.map fun entry => fold entry.1).Nodup) {entry : String × α}
    {word : String} (hmem : entry ∈ entries) (hsame : sameWord entry.1 word = true) :
    entries.find? (fun entry => sameWord entry.1 word) = some entry := by
  induction entries with
  | nil => simp at hmem
  | cons first others ih =>
      rw [List.map_cons, List.nodup_cons] at hdistinct
      by_cases hfirst : sameWord first.1 word = true
      · simp only [List.find?_cons, hfirst]
        rcases List.mem_cons.1 hmem with rfl | hmem
        · rfl
        · -- two entries with the same word would have the same folded keyword
          have hfold : fold first.1 = fold entry.1 := by
            rw [sameWord, beq_iff_eq] at hfirst hsame
            rw [hfirst, hsame]
          exact absurd (hfold ▸ List.mem_map_of_mem hmem) hdistinct.1
      · simp only [List.find?_cons, hfirst]
        rcases List.mem_cons.1 hmem with rfl | hmem
        · exact absurd hsame hfirst
        · exact ih hdistinct.2 hmem

/-- Looking a word up in a catalogue without repetitions finds the entry whose keyword it is. -/
theorem lookup_eq_some_iff {α : Type} {entries : List (String × α)}
    (hdistinct : (entries.map fun entry => fold entry.1).Nodup) {word : String} {value : α} :
    (entries.find? fun entry => sameWord entry.1 word).map Prod.snd = some value ↔
      ∃ keyword, (keyword, value) ∈ entries ∧ sameWord keyword word = true := by
  constructor
  · intro h
    obtain ⟨⟨keyword, found⟩, hfind, rfl⟩ := Option.map_eq_some_iff.1 h
    exact ⟨keyword, List.mem_of_find?_eq_some hfind, by simpa using List.find?_some hfind⟩
  · rintro ⟨keyword, hmem, hsame⟩
    rw [find_keyword hdistinct hmem hsame, Option.map_some]

/-- Looking a word up in a catalogue fails exactly if it is no keyword of the catalogue. -/
theorem lookup_eq_none_iff {α : Type} {entries : List (String × α)} {word : String} :
    (entries.find? fun entry => sameWord entry.1 word).map Prod.snd = none ↔
      ∀ entry ∈ entries, sameWord entry.1 word = false := by
  rw [Option.map_eq_none_iff, List.find?_eq_none]
  simp only [Bool.not_eq_true]

/-- The reserved word that a word is, up to case. -/
theorem of_reserved_eq_some_iff {word : String} {token : Token} :
    ofReserved? word = some token ↔
      ∃ keyword, (keyword, token) ∈ reservedWords ∧ sameWord keyword word = true :=
  lookup_eq_some_iff (by decide)

/-- The data type whose keyword a word is, up to case. -/
theorem of_keyword_eq_some_iff {word : String} {type : DataType} :
    DataType.ofKeyword? word = some type ↔
      ∃ keyword, (keyword, type) ∈ DataType.keywords ∧ sameWord keyword word = true :=
  lookup_eq_some_iff (by decide)

/-- A case variant of a name is a name. -/
theorem is_name_of_same_word {keyword : String} {word : List Char}
    (hname : IsName keyword.toList) (hsame : sameWord keyword (String.ofList word) = true) :
    IsName word := by
  have hfold : keyword.toList.map Char.toLower = word.map Char.toLower := by
    simpa [sameWord, fold] using hsame
  refine ⟨?_, fun c hc => ?_⟩
  · rintro rfl
    exact hname.1 (by simpa using hfold)
  · have hlower : c.toLower ∈ keyword.toList.map Char.toLower :=
      hfold ▸ List.mem_map_of_mem hc
    obtain ⟨k, hk, hkc⟩ := List.mem_map.1 hlower
    rw [← name_char_to_lower, ← hkc, name_char_to_lower]
    exact hname.2 k hk

/-- Every reserved word is a name. -/
theorem reserved_is_name {keyword : String} {token : Token}
    (h : (keyword, token) ∈ reservedWords) : IsName keyword.toList := by
  have hall : ∀ entry ∈ reservedWords, entry.1.toList ≠ [] ∧
      entry.1.toList.all isNameChar = true := by decide
  exact ⟨(hall _ h).1, List.all_eq_true.1 (hall _ h).2⟩

/-- Every keyword of a data type is a name. -/
theorem keyword_is_name {keyword : String} {type : DataType}
    (h : (keyword, type) ∈ DataType.keywords) : IsName keyword.toList := by
  have hall : ∀ entry ∈ DataType.keywords, entry.1.toList ≠ [] ∧
      entry.1.toList.all isNameChar = true := by decide
  exact ⟨(hall _ h).1, List.all_eq_true.1 (hall _ h).2⟩

/-! ## Words -/

/-- A name has no period. -/
theorem IsName.no_dot {word : List Char} (h : IsName word) : '.' ∉ word := by
  intro hdot
  have hname := h.2 '.' hdot
  rw [dot_not_name_char] at hname
  exact absurd hname (by decide)

/-- A word has no fault exactly if it is made of characters of names and at most one period. -/
theorem word_fault_eq_none_iff {start : Position} {before word : List Char}
    (hbefore : before.count '.' ≤ 1) :
    wordFault? start before word = none ↔
      (∀ c ∈ word, c ≠ '.' → isNameChar c = true) ∧ (before ++ word).count '.' ≤ 1 := by
  induction word generalizing before with
  | nil => simp [wordFault?, hbefore]
  | cons c rest ih =>
      have hshift : before ++ c :: rest = before ++ [c] ++ rest := by simp
      by_cases hdot : c = '.'
      · subst hdot
        by_cases hsecond : '.' ∈ before
        · have hpos : 0 < before.count '.' := List.count_pos_iff.2 hsecond
          have hcount : ¬ (before ++ '.' :: rest).count '.' ≤ 1 := by
            rw [List.count_append, List.count_cons_self]
            omega
          rw [wordFault?, if_pos rfl, if_pos hsecond]
          exact iff_of_false (by simp) (fun h => hcount h.2)
        · have hzero : before.count '.' = 0 := List.count_eq_zero.2 hsecond
          have hnext : (before ++ ['.']).count '.' ≤ 1 := by
            rw [List.count_append, hzero]
            decide
          rw [wordFault?, if_pos rfl, if_neg hsecond, ih hnext, hshift]
          simp
      · have hnext : (before ++ [c]).count '.' ≤ 1 := by
          rw [List.count_append, List.count_singleton, beq_false_of_ne hdot]
          simpa using hbefore
        by_cases hname : isNameChar c = true
        · rw [wordFault?, if_neg hdot, if_pos hname, ih hnext, hshift]
          simp [hdot, hname]
        · simp [wordFault?, hdot, hname]

/-- A name has no fault. -/
theorem IsName.no_fault {word : List Char} (h : IsName word) (start : Position) :
    wordFault? start [] word = none := by
  rw [word_fault_eq_none_iff (by simp)]
  refine ⟨fun c hc _ => h.2 c hc, ?_⟩
  rw [List.nil_append, List.count_eq_zero.2 h.no_dot]
  exact Nat.zero_le 1

/-- A word with a period falls into what stands before it and what stands after it. -/
theorem before_dot_append {word : List Char} (h : '.' ∈ word) :
    word = beforeDot word ++ '.' :: afterDot word := by
  have hdrop : ∃ rest, word.dropWhile (· != '.') = '.' :: rest := by
    induction word with
    | nil => simp at h
    | cons c rest ih =>
        by_cases hc : c = '.'
        · exact ⟨rest, by simp [hc]⟩
        · have hrest : '.' ∈ rest := by simpa [Ne.symm hc] using h
          simpa [hc] using ih hrest
  obtain ⟨rest, hrest⟩ := hdrop
  have hsplit := List.takeWhile_append_dropWhile (p := (· != '.')) (l := word)
  rw [hrest] at hsplit
  rw [beforeDot, afterDot, hrest, List.drop_one, List.tail_cons, hsplit]

/-- Splitting two names with a period between them gives them back. -/
theorem split_dot {table column : List Char} (h : '.' ∉ table) :
    beforeDot (table ++ '.' :: column) = table ∧ afterDot (table ++ '.' :: column) = column := by
  have hall : ∀ c ∈ table, (c != '.') = true := by
    intro c hc
    rw [bne_iff_ne]
    rintro rfl
    exact h hc
  constructor
  · rw [beforeDot, List.takeWhile_append_of_pos hall]
    simp
  · rw [afterDot, List.dropWhile_append_of_pos hall]
    simp

/-- The tokens of reserved words are spelled by words. -/
theorem reserved_is_word {keyword : String} {token : Token}
    (h : (keyword, token) ∈ reservedWords) : token.isWord = true := by
  have hall : ∀ entry ∈ reservedWords, entry.2.isWord = true := by decide
  exact hall _ h

/-- No keyword of a data type is a reserved word. -/
theorem of_reserved_of_keyword {keyword : String} {type : DataType} {word : String}
    (hmem : (keyword, type) ∈ DataType.keywords) (hsame : sameWord keyword word = true) :
    ofReserved? word = none := by
  have hapart : ∀ entry ∈ reservedWords, ∀ other ∈ DataType.keywords,
      fold entry.1 ≠ fold other.1 := by decide
  refine lookup_eq_none_iff.2 fun entry hentry => ?_
  rw [sameWord, beq_iff_eq] at hsame
  rw [sameWord, ← hsame]
  exact beq_false_of_ne (hapart entry hentry _ hmem)

/-- A word with a period is no reserved word. -/
theorem of_reserved_of_dot {word : List Char} (h : '.' ∈ word) :
    ofReserved? (String.ofList word) = none := by
  rw [Option.eq_none_iff_forall_ne_some]
  intro token htoken
  obtain ⟨keyword, hmem, hsame⟩ := of_reserved_eq_some_iff.1 htoken
  exact (is_name_of_same_word (reserved_is_name hmem) hsame).no_dot h

/-- A name has the token that it spells. -/
theorem classify_sound {start : Position} {word : List Char} {token : Token} (hname : IsName word)
    (h : classify start word = .ok token) : token.isWord = true ∧ Spells token word := by
  simp only [classify, hname.no_dot, if_false] at h
  split at h
  · next found hfound =>
      cases h
      obtain ⟨keyword, hmem, hsame⟩ := of_reserved_eq_some_iff.1 hfound
      exact ⟨reserved_is_word hmem, .reserved hmem hsame⟩
  · next hreserved =>
      split at h
      · next type htype =>
          cases h
          obtain ⟨keyword, hmem, hsame⟩ := of_keyword_eq_some_iff.1 htype
          exact ⟨rfl, .dataType hmem hsame⟩
      · next htype =>
          cases h
          exact ⟨rfl, .name hname (lookup_eq_none_iff.1 hreserved) (lookup_eq_none_iff.1 htype)⟩

/-- A sound word with a period has the reference that it spells. -/
theorem classify_dot_sound {start : Position} {word : List Char} {token : Token}
    (hdot : '.' ∈ word) (hfault : wordFault? start [] word = none)
    (h : classify start word = .ok token) : token.isWord = true ∧ Spells token word := by
  obtain ⟨hchars, hcount⟩ := (word_fault_eq_none_iff (by simp)).1 hfault
  have hsplit := before_dot_append hdot
  -- the one period is the one at which the word was split
  have hparts : '.' ∉ beforeDot word ∧ '.' ∉ afterDot word := by
    rw [List.nil_append, hsplit, List.count_append, List.count_cons_self] at hcount
    exact ⟨List.count_eq_zero.1 (by omega), List.count_eq_zero.1 (by omega)⟩
  simp only [classify, of_reserved_of_dot hdot, hdot, if_true] at h
  split at h
  · simp at h
  · next hempty =>
      cases h
      simp only [Bool.or_eq_true, List.isEmpty_iff, not_or] at hempty
      have hbefore : IsName (beforeDot word) := by
        refine ⟨hempty.1, fun c hc => hchars c ?_ (ne_of_mem_of_not_mem hc hparts.1)⟩
        rw [hsplit]
        exact List.mem_append_left _ hc
      have hafter : IsName (afterDot word) := by
        refine ⟨hempty.2, fun c hc => hchars c ?_ (ne_of_mem_of_not_mem hc hparts.2)⟩
        rw [hsplit]
        exact List.mem_append_right _ (List.mem_cons_of_mem _ hc)
      have hspells := Spells.reference hbefore hafter
      rw [← hsplit] at hspells
      exact ⟨rfl, hspells⟩

/-- A word is read as the token that it spells, and a word that spells none is refused. -/
theorem of_word_eq_ok_iff {start : Position} {word : List Char} {token : Token} (hne : word ≠ []) :
    ofWord start word = .ok token ↔ token.isWord = true ∧ Spells token word := by
  constructor
  · intro h
    unfold ofWord at h
    split at h
    · simp at h
    · next hfault =>
        by_cases hdot : '.' ∈ word
        · exact classify_dot_sound hdot hfault h
        · have hchars := ((word_fault_eq_none_iff (by simp)).1 hfault).1
          have hname : IsName word :=
            ⟨hne, fun c hc => hchars c hc (ne_of_mem_of_not_mem hc hdot)⟩
          exact classify_sound hname h
  · rintro ⟨hword, hspells⟩
    cases hspells with
    | comma | openTable | closeTable | newLine | value => simp [isWord] at hword
    | reserved hmem hsame =>
        have hname := is_name_of_same_word (reserved_is_name hmem) hsame
        simp only [ofWord, hname.no_fault, classify,
          of_reserved_eq_some_iff.2 ⟨_, hmem, hsame⟩]
    | dataType hmem hsame =>
        have hname := is_name_of_same_word (keyword_is_name hmem) hsame
        simp only [ofWord, hname.no_fault, classify, of_reserved_of_keyword hmem hsame,
          hname.no_dot, if_false, of_keyword_eq_some_iff.2 ⟨_, hmem, hsame⟩]
    | @reference table column htable hcolumn =>
        obtain ⟨hbefore, hafter⟩ : beforeDot (table ++ '.' :: column) = table ∧
            afterDot (table ++ '.' :: column) = column := split_dot htable.no_dot
        have hdot : '.' ∈ table ++ '.' :: column := by simp
        have hfault : wordFault? start [] (table ++ '.' :: column) = none := by
          rw [word_fault_eq_none_iff (by simp)]
          refine ⟨fun c hc hne => ?_, ?_⟩
          · rcases List.mem_append.1 hc with hc | hc
            · exact htable.2 c hc
            · exact hcolumn.2 c ((List.mem_cons.1 hc).resolve_left hne)
          · rw [List.nil_append, List.count_append, List.count_cons_self,
              List.count_eq_zero.2 htable.no_dot, List.count_eq_zero.2 hcolumn.no_dot]
        simp only [ofWord, hfault, classify, of_reserved_of_dot hdot, hdot, if_true, hbefore,
          hafter, Bool.or_eq_true, List.isEmpty_iff, htable.1, hcolumn.1, or_self, if_false]
    | name hname hreserved hkeyword =>
        have hnotReserved : ofReserved? (String.ofList word) = none :=
          lookup_eq_none_iff.2 hreserved
        have hnotKeyword : DataType.ofKeyword? (String.ofList word) = none :=
          lookup_eq_none_iff.2 hkeyword
        simp only [ofWord, hname.no_fault, classify, hnotReserved, hname.no_dot, if_false,
          hnotKeyword]

end Schemata.Token
