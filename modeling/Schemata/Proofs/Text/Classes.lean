import Schemata.Text.Blank
import Schemata.Text.Casing
import Schemata.Text.Numeric
import Schemata.Text.Uppercase

/-!
# How the character classes relate

The classes of characters are stored as tables, and everything that is known about them is checked
on the tables. A plain character is neither blank nor ASCII punctuation. Letters, numerals and
capitals are plain, by `alphanumeric_plain` and `uppercase_plain`, and a case mapping never leaves
the plain characters, by `lower_plain` and `upper_plain`. So no blank and no punctuation ever comes
out of a name that did not have it before. No ASCII capital is left where capitals are put in lower
case, by `lower_not_capital`.
-/

namespace Schemata.Text

/-- The character is neither blank nor one of the ASCII characters besides letters and digits. -/
def isPlain (c : Char) : Bool :=
  if isAscii c then c.isAlphanum else !isBlank c

/-- The ASCII characters can be checked one by one. -/
theorem forall_ascii {p : Char → Prop} (h : ∀ n < 0x80, p (Char.ofNat n)) {c : Char}
    (hascii : isAscii c = true) : p c := by
  rw [← Char.ofNat_toNat c]
  exact h c.toNat (by simpa only [isAscii, decide_eq_true_eq] using hascii)

/-- The characters of a list can be checked one by one. -/
theorem forall_listed {p : Char → Prop} [DecidablePred p] {listed : List Char}
    (h : listed.all (fun c => decide (p c)) = true) {c : Char} (hmem : c ∈ listed) : p c :=
  of_decide_eq_true (List.all_eq_true.1 h c hmem)

/-- No code point lies in a range of both lists. -/
def apart (left right : List CodeRange) : Bool :=
  left.all fun l => right.all fun r => l.last < r.first || r.last < l.first

/-- A character in one of two lists of ranges that are apart is not in the other. -/
theorem not_in_ranges_of_apart {left right : List CodeRange} (hapart : apart left right = true)
    {c : Char} (h : inRanges left c = true) : inRanges right c = false := by
  simp only [inRanges, List.any_eq_true, CodeRange.covers, Bool.and_eq_true,
    decide_eq_true_eq] at h
  obtain ⟨l, hl, hfirst, hlast⟩ := h
  simp only [apart, List.all_eq_true, Bool.or_eq_true, decide_eq_true_eq] at hapart
  rw [inRanges, List.any_eq_false]
  intro r hr
  have := hapart l hl r hr
  simp only [CodeRange.covers, Bool.and_eq_true, decide_eq_true_eq]
  omega

/-- No letter beyond ASCII is blank. -/
theorem letters_apart_blanks : apart letters blanks = true := by
  decide +kernel

/-- No numeral beyond ASCII is blank. -/
theorem numerals_apart_blanks : apart numerals blanks = true := by
  decide +kernel

/-- Letters and numerals are plain. -/
theorem alphanumeric_plain {c : Char} (h : isAlphanumeric c = true) : isPlain c = true := by
  by_cases hascii : isAscii c = true
  · exact forall_ascii (p := fun c => isAlphanumeric c = true → isPlain c = true) (by decide)
      hascii h
  · simp only [isAlphanumeric, isAlphabetic, isNumeric, isPlain, hascii, Bool.false_eq_true,
      ite_false, Bool.or_eq_true] at h ⊢
    rw [isBlank]
    rcases h with h | h
    · simp [not_in_ranges_of_apart letters_apart_blanks h]
    · simp [not_in_ranges_of_apart numerals_apart_blanks h]

/-- No capital beyond ASCII is blank. -/
theorem capitals_apart_blanks :
    apart (capitals.map fun run => ⟨run.first, run.last⟩) blanks = true := by
  decide +kernel

/-- Capitals are plain. -/
theorem uppercase_plain {c : Char} (h : isUppercase c = true) : isPlain c = true := by
  by_cases hascii : isAscii c = true
  · exact forall_ascii (p := fun c => isUppercase c = true → isPlain c = true) (by decide) hascii h
  · rw [isUppercase, if_neg hascii, inRuns, List.any_eq_true] at h
    rw [isPlain, if_neg hascii]
    obtain ⟨run, hmem, hcovers⟩ := h
    simp only [CodeRun.covers, Bool.and_eq_true, decide_eq_true_eq] at hcovers
    have hrange : inRanges (capitals.map fun run => ⟨run.first, run.last⟩) c = true := by
      rw [inRanges, List.any_map, List.any_eq_true]
      exact ⟨run, hmem, by simp [CodeRange.covers, hcovers.1]⟩
    rw [isBlank, not_in_ranges_of_apart capitals_apart_blanks hrange]
    rfl

/-- A plain character is not blank. -/
theorem plain_not_blank {c : Char} (h : isPlain c = true) : isBlank c = false := by
  by_cases hascii : isAscii c = true
  · exact forall_ascii (p := fun c => isPlain c = true → isBlank c = false) (by decide) hascii h
  · rw [isPlain, if_neg hascii] at h
    simpa using h

/-! ## Case mappings -/

/-- Every code point of the range is a plain character: an ASCII letter, or a character beyond ASCII
that is not blank. -/
def plainRange (range : CodeRange) : Bool :=
  (0x41 ≤ range.first && range.last ≤ 0x5A) || (0x61 ≤ range.first && range.last ≤ 0x7A) ||
    (0x80 ≤ range.first && (range.last < 0xD800 || 0xE000 ≤ range.first && range.last < 0x110000) &&
      apart [range] blanks)

/-- The code point of a character that is given by its code point. -/
theorem toNat_of_valid {code : Nat} (h : code.isValidChar) : (Char.ofNat code).toNat = code := by
  rw [Char.ofNat, dif_pos h]
  rfl

/-- The code points of a plain range are those of characters. -/
theorem toNat_of_range {range : CodeRange} (hrange : plainRange range = true) {code : Nat}
    (hfirst : range.first ≤ code) (hlast : code ≤ range.last) :
    (Char.ofNat code).toNat = code := by
  simp only [plainRange, Bool.or_eq_true, Bool.and_eq_true, decide_eq_true_eq] at hrange
  refine toNat_of_valid ?_
  unfold Nat.isValidChar
  omega

/-- The code points of a plain range are plain characters. -/
theorem plain_of_range {range : CodeRange} (hrange : plainRange range = true) {code : Nat}
    (hfirst : range.first ≤ code) (hlast : code ≤ range.last) :
    isPlain (Char.ofNat code) = true := by
  have hcode := toNat_of_range hrange hfirst hlast
  simp only [plainRange, Bool.or_eq_true, Bool.and_eq_true, decide_eq_true_eq] at hrange
  unfold isPlain isAscii
  rw [hcode]
  rcases hrange with hletter | ⟨⟨hlow, -⟩, hapart⟩
  · have hletters : ∀ n < 0x80, (0x41 ≤ n ∧ n ≤ 0x5A ∨ 0x61 ≤ n ∧ n ≤ 0x7A) →
        (Char.ofNat n).isAlphanum = true := by decide
    rw [if_pos (by simp only [decide_eq_true_eq]; omega)]
    exact hletters code (by omega) (by omega)
  · rw [if_neg (by simp only [decide_eq_true_eq]; omega), Bool.not_eq_true']
    refine not_in_ranges_of_apart hapart ?_
    simp only [inRanges, List.any_cons, List.any_nil, CodeRange.covers, hcode, Bool.or_false,
      Bool.and_eq_true, decide_eq_true_eq]
    exact ⟨hfirst, hlast⟩

/-- The form of a character is its expansion, or the character to which a run moves it, or the
character itself. -/
theorem form_cases (table : CaseTable) (c : Char) :
    (∃ codes, (c.toNat, codes) ∈ table.expansions ∧ table.form c = codes.map Char.ofNat) ∨
      (∃ run ∈ table.runs, run.covers c.toNat = true ∧ table.form c = [shiftBy run.shift c]) ∨
      table.form c = [c] := by
  unfold CaseTable.form
  split
  · next code codes hfind =>
      have hcode : code = c.toNat := by simpa using List.find?_some hfind
      exact .inl ⟨codes, hcode ▸ List.mem_of_find?_eq_some hfind, rfl⟩
  · split
    · next run hfind =>
        have hcovers := List.find?_some hfind
        exact .inr (.inl ⟨run, List.mem_of_find?_eq_some hfind, hcovers, rfl⟩)
    · exact .inr (.inr rfl)

/-- Every form of the table is made of plain characters. -/
def CaseTable.plain (table : CaseTable) : Bool :=
  table.expansions.all (fun entry => entry.2.all fun code => plainRange ⟨code, code⟩) &&
    table.runs.all fun run =>
      0 ≤ run.first + run.shift &&
        plainRange ⟨(run.first + run.shift).toNat, (run.last + run.shift).toNat⟩

/-- A case mapping whose forms are plain keeps plain characters plain. -/
theorem form_plain {table : CaseTable} (htable : table.plain = true) {c d : Char}
    (h : isPlain c = true) (hmem : d ∈ table.form c) : isPlain d = true := by
  simp only [CaseTable.plain, Bool.and_eq_true, List.all_eq_true, decide_eq_true_eq] at htable
  rcases form_cases table c with ⟨codes, hentry, hform⟩ | ⟨run, hrun, hcovers, hform⟩ | hform
  · rw [hform] at hmem
    obtain ⟨code, hcode, rfl⟩ := List.mem_map.1 hmem
    exact plain_of_range (htable.1 _ hentry code hcode) code.le_refl code.le_refl
  · rw [hform, List.mem_singleton] at hmem
    rw [hmem]
    simp only [CaseRun.covers, CodeRun.covers, Bool.and_eq_true, decide_eq_true_eq] at hcovers
    obtain ⟨hlow, hplain⟩ := htable.2 run hrun
    refine plain_of_range hplain ?_ ?_
    · show (run.first + run.shift).toNat ≤ (c.toNat + run.shift).toNat
      omega
    · show (c.toNat + run.shift).toNat ≤ (run.last + run.shift).toNat
      omega
  · rw [hform, List.mem_singleton] at hmem
    rw [hmem]
    exact h

/-- The lower-case forms beyond ASCII are plain. -/
theorem lower_table_plain : lowerTable.plain = true := by
  decide +kernel

/-- The upper-case forms beyond ASCII are plain. -/
theorem upper_table_plain : upperTable.plain = true := by
  decide +kernel

/-- The lower-case form of a plain character is made of plain characters. -/
theorem lower_plain {c d : Char} (h : isPlain c = true) (hmem : d ∈ lower c) :
    isPlain d = true := by
  unfold lower at hmem
  split at hmem
  · next hascii =>
      rw [List.mem_singleton.1 hmem]
      exact forall_ascii (p := fun c => isPlain c = true → isPlain c.toLower = true) (by decide)
        hascii h
  · exact form_plain lower_table_plain h hmem

/-- The upper-case form of a plain character is made of plain characters. -/
theorem upper_plain {c d : Char} (h : isPlain c = true) (hmem : d ∈ upper c) :
    isPlain d = true := by
  unfold upper at hmem
  split at hmem
  · next hascii =>
      rw [List.mem_singleton.1 hmem]
      exact forall_ascii (p := fun c => isPlain c = true → isPlain c.toUpper = true) (by decide)
        hascii h
  · exact form_plain upper_table_plain h hmem

/-! ## Small letters -/

/-- No form of the table is an ASCII character up to the capital `Z`. -/
def CaseTable.small (table : CaseTable) : Bool :=
  table.expansions.all (fun entry => entry.2.all (0x5A < ·)) &&
    table.runs.all fun run => 0x5A < run.first + run.shift

/-- A case mapping whose forms are small yields small forms. -/
theorem form_small {table : CaseTable} (hplain : table.plain = true) (htable : table.small = true)
    {c d : Char} (hascii : isAscii c = false) (hmem : d ∈ table.form c) : 0x5A < d.toNat := by
  simp only [CaseTable.plain, Bool.and_eq_true, List.all_eq_true, decide_eq_true_eq] at hplain
  simp only [CaseTable.small, Bool.and_eq_true, List.all_eq_true, decide_eq_true_eq] at htable
  rcases form_cases table c with ⟨codes, hentry, hform⟩ | ⟨run, hrun, hcovers, hform⟩ | hform
  · rw [hform] at hmem
    obtain ⟨code, hcode, rfl⟩ := List.mem_map.1 hmem
    rw [toNat_of_range (hplain.1 _ hentry code hcode) code.le_refl code.le_refl]
    exact htable.1 _ hentry code hcode
  · rw [hform, List.mem_singleton] at hmem
    rw [hmem]
    simp only [CaseRun.covers, CodeRun.covers, Bool.and_eq_true, decide_eq_true_eq] at hcovers
    obtain ⟨hlow, hrange⟩ := hplain.2 run hrun
    have hsmall := htable.2 run hrun
    rw [shiftBy, toNat_of_range hrange (by dsimp only; omega) (by dsimp only; omega)]
    omega
  · rw [hform, List.mem_singleton] at hmem
    rw [hmem]
    simp only [isAscii, decide_eq_false_iff_not] at hascii
    omega

/-- The lower-case forms beyond ASCII are small. -/
theorem lower_table_small : lowerTable.small = true := by
  decide +kernel

/-- The lower-case form of a capital holds no ASCII capitals. -/
theorem lower_not_capital {c d : Char} (h : isUppercase c = true) (hmem : d ∈ lower c) :
    d.isUpper = false := by
  unfold lower at hmem
  split at hmem
  · next hascii =>
      rw [List.mem_singleton.1 hmem]
      exact forall_ascii (p := fun c => isUppercase c = true → c.toLower.isUpper = false)
        (by decide) hascii h
  · next hascii =>
      have hsmall := form_small lower_table_plain lower_table_small (by simpa using hascii) hmem
      refine decide_eq_false ?_
      rintro ⟨-, hlast⟩
      have hlast : d.toNat ≤ 90 := hlast
      omega

end Schemata.Text
