import Schemata.Proofs.Definition.Items
import Schemata.Proofs.Error
import Schemata.Proofs.Literal.Pattern
import Schemata.Proofs.Naming

/-!
# Names in snake case

A name in snake case is a sequence of words with underscores between them, and a word is made of
small letters and digits and begins with a letter. A host spelling drops each underscore and puts
the letter behind it in upper case, and the storage spelling puts an underscore in front of each
capital, so the storage spelling of a host spelling is the name itself, by `storage_chars_host`.
Hence both host spellings of a name in snake case determine it, by `snake_case_inverse`.
-/

namespace Schemata

open Text Literal RegularExpression

/-! ## The pattern -/

/-- The letters from `a` to `z`. -/
def smallLetters : List Char :=
  "abcdefghijklmnopqrstuvwxyz".toList

/-- The pattern `[a-z][a-z0-9]*`. -/
def wordPattern : RegularExpression Char :=
  oneOf smallLetters * star (oneOf smallLetters + digit)

/-- The pattern `[a-z][a-z0-9]*(_[a-z][a-z0-9]*)*`. -/
def snakePattern : RegularExpression Char :=
  wordPattern * star (char '_' * wordPattern)

/-- The name is in snake case. -/
def IsSnakeCase (name : String) : Prop :=
  Matches name.toList snakePattern

/-- The character is a small letter or a digit. -/
def IsSmall (c : Char) : Prop :=
  c ∈ smallLetters ∨ c.isDigit = true

/-- The text is made of small letters and digits and begins with a letter. -/
inductive IsWord : List Char → Prop where
  | intro {c : Char} {rest : List Char} : c ∈ smallLetters → (∀ d ∈ rest, IsSmall d) →
      IsWord (c :: rest)

variable {text rest : List Char} {words : List (List Char)} {c : Char}

/-- Matches for the pattern of words are words. -/
theorem matches_word (h : Matches text wordPattern) : IsWord text := by
  obtain ⟨first, others, hfirst, hothers, rfl⟩ := matches_append_iff.1 h
  obtain ⟨c, hc, rfl⟩ := matches_one_of_iff.1 hfirst
  refine .intro hc fun d hd => ?_
  obtain ⟨pieces, rfl, hpieces⟩ := matches_star_iff.1 hothers
  obtain ⟨piece, hpiece, hmem⟩ := List.mem_flatten.1 hd
  rcases matches_or_iff.1 (hpieces piece hpiece) with hletter | hdigit
  · obtain ⟨e, he, rfl⟩ := matches_one_of_iff.1 hletter
    exact .inl (List.mem_singleton.1 hmem ▸ he)
  · obtain ⟨e, he, rfl⟩ := matches_digit_iff.1 hdigit
    exact .inr (List.mem_singleton.1 hmem ▸ he)

/-- Matches for repeated words with underscores in front of them are such words. -/
theorem matches_joined_words (h : Matches text (star (char '_' * wordPattern))) :
    ∃ words : List (List Char), (∀ word ∈ words, IsWord word) ∧
      text = words.flatMap ('_' :: ·) := by
  obtain ⟨pieces, rfl, hpieces⟩ := matches_star_iff.1 h
  clear h
  induction pieces with
  | nil => exact ⟨[], by simp, rfl⟩
  | cons piece pieces ih =>
      rw [List.forall_mem_cons] at hpieces
      obtain ⟨join, word, hjoin, hword, rfl⟩ := matches_append_iff.1 hpieces.1
      obtain ⟨words, hwords, heq⟩ := ih hpieces.2
      refine ⟨word :: words, List.forall_mem_cons.2 ⟨matches_word hword, hwords⟩, ?_⟩
      rw [List.flatten_cons, heq, matches_char_iff.1 hjoin, List.flatMap_cons]
      rfl

/-! ## Spellings of words -/

/-- A small letter and its capital have each other as forms. -/
theorem small_letter_forms (h : c ∈ smallLetters) :
    (isAlphabetic c = true ∧ (c == '_') = false) ∧ (lower c = [c] ∧ upper c = [c.toUpper]) ∧
      storageFirst c = [c] ∧ storageFirst c.toUpper = [c] ∧
      storageInner c.toUpper = ['_', c] :=
  forall_listed (p := fun c =>
    (isAlphabetic c = true ∧ (c == '_') = false) ∧ (lower c = [c] ∧ upper c = [c.toUpper]) ∧
      storageFirst c = [c] ∧ storageFirst c.toUpper = [c] ∧
      storageInner c.toUpper = ['_', c]) (by decide +kernel) h

/-- Small letters and digits are kept by all spellings. -/
theorem small_kept (h : IsSmall c) :
    isAlphanumeric c = true ∧ (c == '_') = false ∧ isUppercase c = false := by
  have hmem : c ∈ smallLetters ++ ['0', '1', '2', '3', '4', '5', '6', '7', '8', '9'] :=
    List.mem_append.2 (h.imp_right is_digit_iff.1)
  exact forall_listed (p := fun c =>
    isAlphanumeric c = true ∧ (c == '_') = false ∧ isUppercase c = false) (by decide +kernel) hmem

/-- Small letters and digits inside of a word stay as they are in host spelling. -/
theorem host_chars_small (initial : Char → List Char) (h : ∀ c ∈ text, IsSmall c)
    (rest : List Char) :
    hostChars initial true false (text ++ rest) = text ++ hostChars initial true false rest := by
  induction text with
  | nil => rfl
  | cons c text ih =>
      rw [List.forall_mem_cons] at h
      obtain ⟨hnumeral, hjoin, -⟩ := small_kept h.1
      rw [List.cons_append, hostChars, hnumeral, hjoin, Bool.true_or, ih h.2]
      rfl

/-- The storage spelling of the host spelling of words behind the first one gives them back. -/
theorem storage_inner_host (initial : Char → List Char) (h : ∀ word ∈ words, IsWord word) :
    (hostChars initial true false (words.flatMap ('_' :: ·))).flatMap storageInner =
      words.flatMap ('_' :: ·) := by
  induction words with
  | nil => rfl
  | cons word words ih =>
      rw [List.forall_mem_cons] at h
      cases h.1 with
      | @intro c rest hc hrest =>
          obtain ⟨hletter, ⟨-, hupper⟩, -, -, hstorage⟩ := small_letter_forms hc
          have hsmall : rest.flatMap storageInner = rest :=
            storage_inner_of_small fun d hd => (small_kept (hrest d hd)).2.2
          -- the underscore is dropped and turns the letter behind it into a capital
          rw [List.flatMap_cons, List.cons_append, host_chars_underscore, List.cons_append,
            host_chars_letter _ _ _ hletter, host_chars_small initial hrest, if_pos rfl, if_pos rfl,
            hupper]
          -- the capital is put in lower case and gives the underscore back
          rw [List.flatMap_append, List.flatMap_singleton, List.flatMap_append, hstorage, hsmall,
            ih h.2]
          rfl

/-- The storage spelling of a host spelling of a name in snake case is the name, if it takes the
first letter back to what it was. -/
theorem storage_chars_host {initial : Char → List Char}
    (hinitial : ∀ c ∈ smallLetters, ∃ d, initial c = [d] ∧ storageFirst d = [c])
    (h : Matches text snakePattern) : storageChars (hostChars initial false false text) = text := by
  obtain ⟨word, others, hword, hothers, rfl⟩ := matches_append_iff.1 h
  obtain ⟨words, hwords, rfl⟩ := matches_joined_words hothers
  cases matches_word hword with
  | @intro c rest hc hrest =>
      obtain ⟨hletter, -⟩ := small_letter_forms hc
      obtain ⟨d, hform, hback⟩ := hinitial c hc
      have hsmall : rest.flatMap storageInner = rest :=
        storage_inner_of_small fun e he => (small_kept (hrest e he)).2.2
      rw [List.cons_append, host_chars_letter _ _ _ hletter, host_chars_small initial hrest,
        if_neg Bool.false_ne_true, hform, List.singleton_append, storageChars, hback,
        List.flatMap_append, hsmall, storage_inner_host initial hwords]
      rfl

/-! ## Names -/

/-- The storage name of the Pascal name of a name in snake case is the name. -/
theorem storage_name_pascal {name : String} (h : IsSnakeCase name) :
    storageName (pascalName name) = name := by
  rw [storageName, pascalName, String.toList_ofList, storage_chars_host ?_ h, String.ofList_toList]
  intro c hc
  obtain ⟨-, ⟨-, hupper⟩, -, hback, -⟩ := small_letter_forms hc
  exact ⟨c.toUpper, hupper, hback⟩

/-- The storage name of the camel name of a name in snake case is the name. -/
theorem storage_name_camel {name : String} (h : IsSnakeCase name) :
    storageName (camelName name) = name := by
  rw [storageName, camelName, String.toList_ofList, storage_chars_host ?_ h, String.ofList_toList]
  intro c hc
  obtain ⟨-, ⟨hlower, -⟩, hback, -⟩ := small_letter_forms hc
  exact ⟨c, hlower, hback⟩

/-- Columns with different names in snake case differ in a spelling whose storage name is the
name. -/
theorem spellings_distinct {specs : List Column.Spec} {columns : List Column}
    (hcolumns : specs.mapM Column.ofSpec = .ok columns)
    (hsnake : ∀ spec ∈ specs, IsSnakeCase spec.name) (hdistinct : (specs.map (·.name)).Nodup)
    {spelling : Column → String} (hinverse : ∀ spec column, IsSnakeCase spec.name →
      Column.ofSpec spec = .ok column → storageName (spelling column) = spec.name) :
    (columns.map spelling).Nodup := by
  have hpaired := (List.forall₂_and_left _ _).2 ⟨hsnake, map_m_eq_ok_iff.1 hcolumns⟩
  have hnames : specs.map (·.name) = columns.map fun column => storageName (spelling column) :=
    forall_map_eq hpaired fun spec column _ h => (hinverse spec column h.1 h.2).symm
  rw [hnames] at hdistinct
  refine List.Nodup.of_map storageName ?_
  rw [List.map_map]
  exact hdistinct

/-- The Pascal and camel names of a name in snake case determine it: their storage name is the name
itself. So columns with different names in snake case have different Pascal and camel names. -/
theorem snake_case_inverse :
    (∀ name, IsSnakeCase name →
      storageName (pascalName name) = name ∧ storageName (camelName name) = name ∧
        pascalName (storageName (pascalName name)) = pascalName name ∧
        camelName (storageName (camelName name)) = camelName name) ∧
      ∀ (specs : List Column.Spec) (columns : List Column),
        specs.mapM Column.ofSpec = .ok columns → (∀ spec ∈ specs, IsSnakeCase spec.name) →
        (specs.map (·.name)).Nodup →
          (columns.map (·.pascalName)).Nodup ∧ (columns.map (·.camelName)).Nodup := by
  constructor
  · intro name h
    rw [storage_name_pascal h, storage_name_camel h]
    exact ⟨rfl, rfl, rfl, rfl⟩
  · intro specs columns hcolumns hsnake hdistinct
    constructor
    · refine spellings_distinct hcolumns hsnake hdistinct fun spec column hspec h => ?_
      rw [(Definition.of_spec_eq_ok_iff.1 h).2.2.1, storage_name_pascal hspec]
    · refine spellings_distinct hcolumns hsnake hdistinct fun spec column hspec h => ?_
      rw [(Definition.of_spec_eq_ok_iff.1 h).2.2.2.1, storage_name_camel hspec]

/-- Two columns whose names differ in the place of an underscore. -/
theorem underscore_place_told :
    storageName (pascalName "a_b1c") = "a_b1c" ∧ storageName (camelName "a_b1c") = "a_b1c" ∧
      ∃ columns, [{ name := "a_b1c", dataType := .int }, { name := "ab1_c", dataType := .int }].mapM
          Column.ofSpec = .ok columns ∧
        (columns.map (·.pascalName)).Nodup ∧ (columns.map (·.camelName)).Nodup := by
  have hsnake : ∀ name ∈ ["a_b1c", "ab1_c"], IsSnakeCase name := by
    intro name hname
    refine (rmatch_iff_matches' _ _).1 ?_
    revert name
    decide +kernel
  obtain ⟨hpascal, hcamel, -⟩ := snake_case_inverse.1 "a_b1c" (hsnake _ (by decide))
  obtain ⟨columns, hcolumns, -⟩ : ∃ columns,
      [{ name := "a_b1c", dataType := .int }, { name := "ab1_c", dataType := .int }].mapM
        Column.ofSpec = .ok columns ∧ columns.length = 2 := exists_eq_ok (by decide +kernel)
  have hdistinct := snake_case_inverse.2 _ columns hcolumns
    (fun spec hspec => hsnake spec.name (by
      rcases List.mem_pair.1 hspec with rfl | rfl <;> decide)) (by decide)
  exact ⟨hpascal, hcamel, columns, hcolumns, hdistinct⟩

end Schemata
