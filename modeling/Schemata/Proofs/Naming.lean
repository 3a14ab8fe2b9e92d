import Schemata.Naming
import Schemata.Proofs.Text.Classes
import Schemata.Proofs.Text.Comment
import Schemata.Text.Fold

/-!
# What the spellings of a name keep

The storage spelling keeps hyphens where they are and adds none, so it opens a comment exactly if
the name does, by `storage_name_comment_iff`. It has no ASCII capitals, and it has blanks and
punctuation where the name has them, by `storage_name_chars` and `mem_storage_of_punctuation`. The
storage spelling of an ASCII name has no capitals at all, so it stays as it is when it is spelled
once more, by `storage_name_again`, and it has the host names of the name, by `pascal_name_storage`
and `camel_name_storage`. The host spellings drop everything but letters and numerals, by
`pascal_name_plain` and `camel_name_plain`.
-/

namespace Schemata

open Text

/-- A hyphen is not plain. -/
theorem hyphen_not_mem_of_plain {text : List Char} (h : ∀ c ∈ text, isPlain c = true) :
    '-' ∉ text := by
  intro hmem
  exact absurd (h '-' hmem) (by decide)

/-! ## Storage names -/

/-- The lower-case form of a capital has no hyphens. -/
theorem hyphen_not_mem_lower {c : Char} (h : isUppercase c = true) : '-' ∉ lower c :=
  hyphen_not_mem_of_plain fun _ hmem => lower_plain (uppercase_plain h) hmem

/-- A capital is not a hyphen. -/
theorem uppercase_ne_hyphen {c : Char} (h : isUppercase c = true) : c ≠ '-' := by
  rintro rfl
  exact absurd h (by decide)

/-- The storage spelling begins with a hyphen where the characters do. -/
theorem storage_inner_head_iff {text : List Char} :
    (text.flatMap storageInner).head? = some '-' ↔ text.head? = some '-' := by
  cases text with
  | nil => rfl
  | cons c rest =>
      rw [List.flatMap_cons, storageInner]
      split
      · next hupper =>
          have hc := uppercase_ne_hyphen hupper
          simp [hc]
      · rfl

/-- The storage spelling of the characters behind the first opens a comment exactly if they do. -/
theorem storage_inner_comment_iff {text : List Char} :
    CommentIn (text.flatMap storageInner) ↔ CommentIn text := by
  induction text with
  | nil => rfl
  | cons c rest ih =>
      rw [List.flatMap_cons, storageInner, comment_in_cons]
      split
      · next hupper =>
          have hhyphen : '-' ∉ '_' :: lower c := by simp [hyphen_not_mem_lower hupper]
          rw [comment_in_behind hhyphen, ih, or_iff_right]
          exact fun hfirst => uppercase_ne_hyphen hupper hfirst.1
      · rw [List.singleton_append, comment_in_cons, storage_inner_head_iff, ih]

/-- A storage name opens a comment exactly if the name does. -/
theorem storage_name_comment_iff {name : String} :
    OpensComment (storageName name) ↔ OpensComment name := by
  unfold OpensComment storageName
  rw [String.toList_ofList]
  cases name.toList with
  | nil => rfl
  | cons c rest =>
      rw [storageChars, storageFirst, comment_in_cons]
      split
      · next hupper =>
          rw [comment_in_behind (hyphen_not_mem_lower hupper), storage_inner_comment_iff,
            or_iff_right]
          exact fun hfirst => uppercase_ne_hyphen hupper hfirst.1
      · rw [List.singleton_append, comment_in_cons, storage_inner_head_iff,
          storage_inner_comment_iff]

/-- A character of a storage name stands in the name, or it comes from a capital that was put in
lower case. -/
theorem mem_storage_name {name : String} {d : Char} (h : d ∈ (storageName name).toList) :
    (d ∈ name.toList ∧ isUppercase d = false) ∨ d = '_' ∨
      ∃ c ∈ name.toList, isUppercase c = true ∧ d ∈ lower c := by
  have hinner {text : List Char} (hd : d ∈ text.flatMap storageInner) :
      (d ∈ text ∧ isUppercase d = false) ∨ d = '_' ∨
        ∃ c ∈ text, isUppercase c = true ∧ d ∈ lower c := by
    obtain ⟨c, hc, hd⟩ := List.mem_flatMap.1 hd
    rw [storageInner] at hd
    split at hd
    · next hupper =>
        rcases List.mem_cons.1 hd with rfl | hd
        · exact .inr (.inl rfl)
        · exact .inr (.inr ⟨c, hc, hupper, hd⟩)
    · next hupper =>
        rw [List.mem_singleton.1 hd]
        exact .inl ⟨hc, by simpa using hupper⟩
  rw [storageName, String.toList_ofList] at h
  cases hname : name.toList with
  | nil => simp [hname, storageChars] at h
  | cons c rest =>
      rw [hname, storageChars, List.mem_append] at h
      rcases h with h | h
      · rw [storageFirst] at h
        split at h
        · next hupper => exact .inr (.inr ⟨c, List.mem_cons_self, hupper, h⟩)
        · next hupper =>
            rw [List.mem_singleton.1 h]
            exact .inl ⟨List.mem_cons_self, by simpa using hupper⟩
      · rcases hinner h with ⟨hmem, hupper⟩ | heq | ⟨c, hmem, hc⟩
        · exact .inl ⟨List.mem_cons_of_mem _ hmem, hupper⟩
        · exact .inr (.inl heq)
        · exact .inr (.inr ⟨c, List.mem_cons_of_mem _ hmem, hc⟩)

/-- The character is plain or joins the words of a name. -/
def isWordChar (c : Char) : Bool :=
  isPlain c || c == '_' || c == '-'

/-- The character can stand in a storage name: ASCII capitals cannot. -/
def isStorageChar (c : Char) : Bool :=
  isWordChar c && !c.isUpper

/-- The storage name of a name is made of characters that can stand in it. -/
theorem storage_name_chars {name : String} (h : ∀ c ∈ name.toList, isWordChar c = true) {d : Char}
    (hd : d ∈ (storageName name).toList) : isStorageChar d = true := by
  rw [isStorageChar, Bool.and_eq_true, Bool.not_eq_true']
  rcases mem_storage_name hd with ⟨hmem, hupper⟩ | rfl | ⟨c, hc, hupper, hlower⟩
  · refine ⟨h d hmem, ?_⟩
    rw [Bool.eq_false_iff]
    intro hcapital
    have hascii : isAscii d = true := by
      have hlast : d.toNat ≤ 90 := (of_decide_eq_true hcapital).2
      rw [isAscii, decide_eq_true_eq]
      omega
    rw [isUppercase, if_pos hascii, hcapital] at hupper
    cases hupper
  · decide
  · have hplain := lower_plain (uppercase_plain hupper) hlower
    exact ⟨by simp [isWordChar, hplain], lower_not_capital hupper hlower⟩

/-- The lower-case form of a character is not empty. -/
theorem lower_ne_nil (c : Char) : lower c ≠ [] := by
  unfold lower CaseTable.form
  split
  · simp
  · split
    · next codes hfind =>
        have hforms : ∀ entry ∈ lowerTable.expansions, entry.2 ≠ [] := by decide
        simpa using hforms _ (List.mem_of_find?_eq_some hfind)
    · split <;> simp

/-- The storage name of a name that is not empty is not empty. -/
theorem storage_name_ne_empty {name : String} (h : name.toList ≠ []) :
    (storageName name).toList ≠ [] := by
  obtain ⟨c, rest, hname⟩ := List.exists_cons_of_ne_nil h
  rw [storageName, String.toList_ofList, hname, storageChars, storageFirst]
  split
  · simp [lower_ne_nil]
  · simp

/-- What is neither plain nor an underscore stands in a storage name only if it stands in the
name. -/
theorem mem_storage_of_punctuation {name : String} {d : Char} (hplain : isPlain d = false)
    (hjoin : d ≠ '_') (hd : d ∈ (storageName name).toList) : d ∈ name.toList := by
  rcases mem_storage_name hd with ⟨hmem, -⟩ | heq | ⟨c, -, hupper, hlower⟩
  · exact hmem
  · exact absurd heq hjoin
  · rw [lower_plain (uppercase_plain hupper) hlower] at hplain
    cases hplain

/-- The text is made of ASCII characters. -/
def IsAsciiText (text : String) : Prop :=
  ∀ c ∈ text.toList, isAscii c = true

/-- Characters without capitals stay as they are in storage spelling. -/
theorem storage_inner_of_small {text : List Char} (h : ∀ c ∈ text, isUppercase c = false) :
    text.flatMap storageInner = text := by
  induction text with
  | nil => rfl
  | cons c rest ih =>
      rw [List.forall_mem_cons] at h
      rw [List.flatMap_cons, storageInner, h.1, ih h.2]
      rfl

/-- A name without capitals is its own storage name. -/
theorem storage_name_of_small {name : String} (h : ∀ c ∈ name.toList, isUppercase c = false) :
    storageName name = name := by
  apply String.toList_inj.1
  rw [storageName, String.toList_ofList]
  cases hname : name.toList with
  | nil => rfl
  | cons c rest =>
      rw [hname, List.forall_mem_cons] at h
      rw [storageChars, storageFirst, h.1, storage_inner_of_small h.2]
      rfl

/-- The storage name of an ASCII name has no capitals. -/
theorem storage_name_small {name : String} (h : IsAsciiText name) {d : Char}
    (hd : d ∈ (storageName name).toList) : isUppercase d = false := by
  rcases mem_storage_name hd with ⟨-, hupper⟩ | rfl | ⟨c, hc, -, hlower⟩
  · exact hupper
  · decide
  · rw [lower, if_pos (h c hc), List.mem_singleton] at hlower
    rw [hlower]
    exact forall_ascii (p := fun c => isUppercase c.toLower = false) (by decide) (h c hc)

/-- The storage name of an ASCII name is its own storage name. -/
theorem storage_name_again {name : String} (h : IsAsciiText name) :
    storageName (storageName name) = storageName name :=
  storage_name_of_small fun _ hd => storage_name_small h hd

/-- The storage name of an ASCII name differs from it in case only, if it has no underscore. -/
theorem fold_storage_name {name : String} (h : IsAsciiText name)
    (hjoin : '_' ∉ (storageName name).toList) : fold (storageName name) = fold name := by
  rw [storageName, String.toList_ofList] at hjoin
  rw [fold, fold, storageName, String.toList_ofList]
  cases hname : name.toList with
  | nil => rfl
  | cons c rest =>
      have hc : isAscii c = true := h c (by simp [hname])
      rw [hname, storageChars, List.mem_append, not_or] at hjoin
      -- a capital behind the first character would have put an underscore in front of it
      have hsmall : ∀ d ∈ rest, isUppercase d = false := by
        intro d hd
        by_contra hupper
        refine hjoin.2 (List.mem_flatMap.2 ⟨d, hd, ?_⟩)
        rw [storageInner, if_pos (by simpa using hupper)]
        exact List.mem_cons_self
      have hfirst : (storageFirst c).map Char.toLower = [c.toLower] := by
        rw [storageFirst, lower, if_pos hc]
        exact forall_ascii (p := fun c => (if isUppercase c then [c.toLower] else [c]).map
          Char.toLower = [c.toLower]) (by decide) hc
      rw [storageChars, storage_inner_of_small hsmall, List.map_append, hfirst]
      rfl

/-! ## Host names -/

/-- A host spelling is made of plain characters if its first letter is. -/
theorem host_chars_plain {initial : Char → List Char}
    (hinitial : ∀ c d, isPlain c = true → d ∈ initial c → isPlain d = true) {begun opensWord : Bool}
    {text : List Char} {d : Char} (hmem : d ∈ hostChars initial begun opensWord text) :
    isPlain d = true := by
  induction text generalizing begun opensWord with
  | nil => simp [hostChars] at hmem
  | cons c rest ih =>
      simp only [hostChars, List.mem_append] at hmem
      rcases hmem with hmem | hmem
      · split at hmem
        · next hfirst =>
            simp only [Bool.and_eq_true] at hfirst
            have halphanumeric : isAlphanumeric c = true := by simp [isAlphanumeric, hfirst.2]
            exact hinitial c d (alphanumeric_plain halphanumeric) hmem
        · split at hmem
          · next halphanumeric =>
              have hplain := alphanumeric_plain halphanumeric
              split at hmem
              · exact upper_plain hplain hmem
              · rw [List.mem_singleton.1 hmem]
                exact hplain
          · simp at hmem
      · exact ih hmem

/-- Camel names are made of plain characters. -/
theorem camel_name_plain {name : String} {c : Char} (hmem : c ∈ (camelName name).toList) :
    isPlain c = true := by
  rw [camelName, String.toList_ofList] at hmem
  exact host_chars_plain (fun _ _ hplain hlower => lower_plain hplain hlower) hmem

/-- Pascal names are made of plain characters. -/
theorem pascal_name_plain {name : String} {c : Char} (hmem : c ∈ (pascalName name).toList) :
    isPlain c = true := by
  rw [pascalName, String.toList_ofList] at hmem
  exact host_chars_plain (fun _ _ hplain hupper => upper_plain hplain hupper) hmem

/-- A camel name has no hyphens. -/
theorem hyphen_not_mem_camel (name : String) : '-' ∉ (camelName name).toList :=
  hyphen_not_mem_of_plain fun _ hmem => camel_name_plain hmem

/-! ## Host names of storage names -/

/-- An ASCII capital and its lower-case form are letters other than the underscore. -/
theorem capital_letters {c : Char} (h : isAscii c = true) (hupper : isUppercase c = true) :
    (isAlphabetic c = true ∧ (c == '_') = false) ∧
      (isAlphabetic c.toLower = true ∧ (c.toLower == '_') = false) :=
  forall_ascii (p := fun c => isUppercase c = true →
    (isAlphabetic c = true ∧ (c == '_') = false) ∧
      (isAlphabetic c.toLower = true ∧ (c.toLower == '_') = false)) (by decide) h hupper

/-- An ASCII capital and its lower-case form have the same forms. -/
theorem capital_forms {c : Char} (h : isAscii c = true) (hupper : isUppercase c = true) :
    (lower c = [c.toLower] ∧ lower c.toLower = [c.toLower]) ∧
      (upper c = [c] ∧ upper c.toLower = [c]) :=
  forall_ascii (p := fun c => isUppercase c = true →
    (lower c = [c.toLower] ∧ lower c.toLower = [c.toLower]) ∧
      (upper c = [c] ∧ upper c.toLower = [c])) (by decide) h hupper

/-- The host spelling of a letter at the front. -/
theorem host_chars_letter (initial : Char → List Char) (begun opensWord : Bool) {c : Char}
    {rest : List Char} (h : isAlphabetic c = true ∧ (c == '_') = false) :
    hostChars initial begun opensWord (c :: rest) =
      (if begun then if opensWord then upper c else [c] else initial c) ++
        hostChars initial true false rest := by
  have halphanumeric : isAlphanumeric c = true := by simp [isAlphanumeric, h.1]
  rw [hostChars, h.2, h.1, halphanumeric]
  cases begun <;> simp

/-- An underscore at the front is dropped and opens a word. -/
theorem host_chars_underscore (initial : Char → List Char) (begun opensWord : Bool)
    (rest : List Char) :
    hostChars initial begun opensWord ('_' :: rest) = hostChars initial begun true rest := by
  have hletter : isAlphabetic '_' = false := by decide
  have halphanumeric : isAlphanumeric '_' = false := by decide
  rw [hostChars, hletter, halphanumeric]
  simp

section

variable {initial : Char → List Char} {text : List Char}

/-- The storage spelling of ASCII characters behind the first has the same host spelling, if the
form of the first letter does not depend on its case. -/
theorem host_chars_storage_inner
    (hinitial : ∀ c, isAscii c = true → isUppercase c = true → initial c.toLower = initial c)
    (h : ∀ c ∈ text, isAscii c = true) (begun opensWord : Bool) :
    hostChars initial begun opensWord (text.flatMap storageInner) =
      hostChars initial begun opensWord text := by
  induction text generalizing begun opensWord with
  | nil => rfl
  | cons c rest ih =>
      rw [List.forall_mem_cons] at h
      rw [List.flatMap_cons, storageInner]
      split
      · next hupper =>
          -- the underscore opens a word, which gives the letter its capital back
          obtain ⟨⟨hlower, -⟩, hcapital, hback⟩ := capital_forms h.1 hupper
          obtain ⟨hletter, hsmall⟩ := capital_letters h.1 hupper
          rw [hlower, List.cons_append, List.singleton_append, host_chars_underscore,
            host_chars_letter _ _ _ hsmall, host_chars_letter _ _ _ hletter, ih h.2, hcapital,
            hback, hinitial c h.1 hupper]
          cases begun <;> cases opensWord <;> rfl
      · rw [List.singleton_append, hostChars, hostChars, ih h.2]

/-- The storage spelling of ASCII characters has the same host spelling, if the form of the first
letter does not depend on its case. -/
theorem host_chars_storage
    (hinitial : ∀ c, isAscii c = true → isUppercase c = true → initial c.toLower = initial c)
    (h : ∀ c ∈ text, isAscii c = true) :
    hostChars initial false false (storageChars text) = hostChars initial false false text := by
  cases text with
  | nil => rfl
  | cons c rest =>
      rw [List.forall_mem_cons] at h
      rw [storageChars, storageFirst]
      split
      · next hupper =>
          obtain ⟨⟨hlower, -⟩, -⟩ := capital_forms h.1 hupper
          obtain ⟨hletter, hsmall⟩ := capital_letters h.1 hupper
          rw [hlower, List.singleton_append, host_chars_letter _ _ _ hsmall,
            host_chars_letter _ _ _ hletter, host_chars_storage_inner hinitial h.2,
            hinitial c h.1 hupper]
          rfl
      · rw [List.singleton_append, hostChars, hostChars, host_chars_storage_inner hinitial h.2]

end

/-- The storage name of an ASCII name has the same Pascal name. -/
theorem pascal_name_storage {name : String} (h : IsAsciiText name) :
    pascalName (storageName name) = pascalName name := by
  rw [pascalName, storageName, String.toList_ofList, host_chars_storage ?_ h, pascalName]
  intro c hascii hupper
  obtain ⟨-, hcapital, hback⟩ := capital_forms hascii hupper
  rw [hcapital, hback]

/-- The storage name of an ASCII name has the same camel name. -/
theorem camel_name_storage {name : String} (h : IsAsciiText name) :
    camelName (storageName name) = camelName name := by
  rw [camelName, storageName, String.toList_ofList, host_chars_storage ?_ h, camelName]
  intro c hascii hupper
  obtain ⟨⟨hlower, hsmall⟩, -⟩ := capital_forms hascii hupper
  rw [hlower, hsmall]

end Schemata
