import Schemata.Proofs.Text.Classes

/-!
# Letters and their cases

Only letters have another case, and the other case of a letter begins with a letter: `upper_letter`
and `lower_letter` say what comes first, `upper_of_not_letter` that everything else stays as it is.
Capitals are letters, by `uppercase_alphabetic`. Like the classes of characters themselves, all of
this is checked on the tables.
-/

namespace Schemata.Text

/-! ## Intervals of code points -/

/-- The intervals that hold the code points of a run: the run as a whole if it has no gaps, and else
its code points one by one. -/
def CodeRun.intervals (run : CodeRun) : List CodeRange :=
  if run.step = 1 then [⟨run.first, run.last⟩]
  else (List.range ((run.last - run.first) / run.step + 1)).map fun place =>
    ⟨run.first + run.step * place, run.first + run.step * place⟩

/-- The code points of a run lie in its intervals. -/
theorem exists_interval {run : CodeRun} {code : Nat} (h : run.covers code = true) :
    ∃ interval ∈ run.intervals, interval.first ≤ code ∧ code ≤ interval.last := by
  simp only [CodeRun.covers, Bool.and_eq_true, decide_eq_true_eq, beq_iff_eq] at h
  obtain ⟨⟨hfirst, hlast⟩, hstep⟩ := h
  unfold CodeRun.intervals
  split
  · exact ⟨⟨run.first, run.last⟩, List.mem_singleton_self _, hfirst, hlast⟩
  · have hplace := Nat.div_add_mod (code - run.first) run.step
    have hcode : run.first + run.step * ((code - run.first) / run.step) = code := by omega
    refine ⟨⟨code, code⟩, ?_, Nat.le_refl code, Nat.le_refl code⟩
    refine List.mem_map.2 ⟨(code - run.first) / run.step, List.mem_range.2 ?_, by rw [hcode]⟩
    exact Nat.lt_succ_of_le (Nat.div_le_div_right (by omega))

/-- Every interval lies in one of the ranges. The search for it begins where the last one was found,
and at the first range only if that is too far. -/
def within (ranges : List CodeRange) : List CodeRange → List CodeRange → Bool
  | _, [] => true
  | rest, interval :: others =>
    let start := if rest.head?.all (·.first.ble interval.first) then rest else ranges
    match start.dropWhile (·.last.blt interval.last) with
    | [] => false
    | range :: rest => range.first.ble interval.first && within ranges (range :: rest) others

/-- The ranges in which the intervals lie are among those that are searched. -/
theorem exists_range {ranges rest intervals : List CodeRange} (hrest : rest ⊆ ranges)
    (h : within ranges rest intervals = true) {interval : CodeRange}
    (hinterval : interval ∈ intervals) :
    ∃ range ∈ ranges, range.first ≤ interval.first ∧ interval.last ≤ range.last := by
  induction intervals generalizing rest with
  | nil => simp at hinterval
  | cons first others ih =>
      rw [within] at h
      split at h
      · cases h
      · next range later hfound =>
          rw [Bool.and_eq_true, Nat.ble_eq] at h
          have hstop := List.head?_dropWhile_not (·.last.blt first.last)
            (if rest.head?.all (·.first.ble first.first) then rest else ranges)
          have hmem : range :: later ⊆ ranges := by
            rw [← hfound]
            refine List.Subset.trans (List.dropWhile_sublist _).subset ?_
            split
            · exact hrest
            · exact List.Subset.refl ranges
          rcases List.mem_cons.1 hinterval with rfl | hinterval
          · refine ⟨range, hmem List.mem_cons_self, h.1, Nat.le_of_not_lt fun hlast => ?_⟩
            have hblt : range.last.blt interval.last = false := by
              simpa only [hfound, List.head?_cons] using hstop
            rw [← Nat.blt_eq, hblt] at hlast
            cases hlast
          · exact ih hmem h.2 hinterval

/-! ## Letters -/

/-- The letters, with those among the ASCII characters. -/
def allLetters : List CodeRange :=
  ⟨0x41, 0x5A⟩ :: ⟨0x61, 0x7A⟩ :: letters

/-- A character whose code point lies in a range of letters is a letter. -/
theorem alphabetic_of_range {range : CodeRange} (hrange : range ∈ allLetters) {c : Char}
    (hfirst : range.first ≤ c.toNat) (hlast : c.toNat ≤ range.last) : isAlphabetic c = true := by
  have hletters : ∀ n < 0x80, (0x41 ≤ n ∧ n ≤ 0x5A ∨ 0x61 ≤ n ∧ n ≤ 0x7A) →
      (Char.ofNat n).isAlpha = true := by decide
  have hbeyond : ∀ range ∈ letters, 0x80 ≤ range.first := by decide +kernel
  unfold isAlphabetic isAscii
  by_cases hascii : c.toNat < 0x80
  · rw [if_pos (decide_eq_true hascii), ← Char.ofNat_toNat c]
    refine hletters c.toNat hascii ?_
    simp only [allLetters, List.mem_cons] at hrange
    rcases hrange with rfl | rfl | hrange
    · exact .inl ⟨hfirst, hlast⟩
    · exact .inr ⟨hfirst, hlast⟩
    · have hlow := hbeyond range hrange
      omega
  · rw [if_neg (by simpa using hascii), inRanges, List.any_eq_true]
    simp only [allLetters, List.mem_cons] at hrange
    rcases hrange with rfl | rfl | hrange
    · simp only at hlast
      omega
    · simp only at hlast
      omega
    · exact ⟨range, hrange, by simp [CodeRange.covers, hfirst, hlast]⟩

/-- The capitals beyond ASCII are letters. -/
theorem capitals_within_letters :
    within allLetters allLetters (capitals.flatMap CodeRun.intervals) = true := by
  decide +kernel

/-- Capitals are letters. -/
theorem uppercase_alphabetic {c : Char} (h : isUppercase c = true) : isAlphabetic c = true := by
  by_cases hascii : isAscii c = true
  · exact forall_ascii (p := fun c => isUppercase c = true → isAlphabetic c = true) (by decide)
      hascii h
  · rw [isUppercase, if_neg hascii, inRuns, List.any_eq_true] at h
    obtain ⟨run, hrun, hcovers⟩ := h
    obtain ⟨interval, hinterval, hfirst, hlast⟩ := exists_interval hcovers
    obtain ⟨range, hrange, hlow, hhigh⟩ := exists_range (List.Subset.refl _)
      capitals_within_letters (List.mem_flatMap.2 ⟨run, hrun, hinterval⟩)
    exact alphabetic_of_range hrange (by omega) (by omega)

/-! ## Case mappings -/

/-- The run of code points that a run of the case mapping moves. -/
def CaseRun.sources (run : CaseRun) : CodeRun :=
  ⟨run.first, run.last, run.step⟩

/-- The intervals to which a run of the case mapping moves its code points. -/
def CaseRun.images (run : CaseRun) : List CodeRange :=
  run.sources.intervals.map fun interval =>
    ⟨(interval.first + run.shift).toNat, (interval.last + run.shift).toNat⟩

/-- Only letters have a form of their own. -/
def CaseTable.changesLetters (table : CaseTable) : Bool :=
  within allLetters allLetters (table.expansions.map fun entry => ⟨entry.1, entry.1⟩) &&
    within allLetters allLetters (table.runs.flatMap (·.sources.intervals))

/-- The forms of the table begin with letters. -/
def CaseTable.yieldsLetters (table : CaseTable) : Bool :=
  table.expansions.all (fun entry => !entry.2.isEmpty) &&
    within allLetters allLetters (table.expansions.flatMap fun entry =>
      (entry.2.take 1).map fun code => ⟨code, code⟩) &&
    within allLetters allLetters (table.runs.flatMap CaseRun.images)

/-- The lower-case forms beyond ASCII begin with letters. -/
theorem lower_table_yields_letters : lowerTable.yieldsLetters = true := by
  decide +kernel

/-- The upper-case forms beyond ASCII begin with letters. -/
theorem upper_table_yields_letters : upperTable.yieldsLetters = true := by
  decide +kernel

/-- Only letters have an upper-case form beyond ASCII. -/
theorem upper_table_changes_letters : upperTable.changesLetters = true := by
  decide +kernel

/-- The code points that a run moves lie in its intervals. -/
theorem exists_source {run : CaseRun} {code : Nat} (h : run.covers code = true) :
    ∃ interval ∈ run.sources.intervals, interval.first ≤ code ∧ code ≤ interval.last :=
  exists_interval h

/-- A code point that a run moves lies in one of its images after the move. -/
theorem exists_image {run : CaseRun} {code : Nat} (h : run.covers code = true) :
    ∃ image ∈ run.images, image.first ≤ (code + run.shift).toNat ∧
      (code + run.shift).toNat ≤ image.last := by
  obtain ⟨interval, hinterval, hfirst, hlast⟩ := exists_source h
  refine ⟨_, List.mem_map_of_mem hinterval, ?_, ?_⟩
  · dsimp only
    omega
  · dsimp only
    omega

/-- The form of a letter begins with a letter, if those of the table do. -/
theorem form_letter {table : CaseTable} (hplain : table.plain = true)
    (htable : table.yieldsLetters = true) {c : Char} (h : isAlphabetic c = true) :
    ∃ first rest, table.form c = first :: rest ∧ isAlphabetic first = true := by
  simp only [CaseTable.plain, Bool.and_eq_true, List.all_eq_true, decide_eq_true_eq] at hplain
  simp only [CaseTable.yieldsLetters, Bool.and_eq_true, List.all_eq_true] at htable
  obtain ⟨⟨hforms, hexpansions⟩, hruns⟩ := htable
  rcases form_cases table c with ⟨codes, hentry, hform⟩ | ⟨run, hrun, hcovers, hform⟩ | hform
  · obtain ⟨code, others, rfl⟩ : ∃ code others, codes = code :: others :=
      List.exists_cons_of_ne_nil (by simpa using hforms _ hentry)
    refine ⟨Char.ofNat code, others.map Char.ofNat, hform, ?_⟩
    have hcode := hplain.1 _ hentry code List.mem_cons_self
    obtain ⟨range, hrange, hlow, hhigh⟩ := exists_range (List.Subset.refl _) hexpansions
      (List.mem_flatMap.2 ⟨_, hentry, List.mem_map_of_mem List.mem_cons_self⟩)
    refine alphabetic_of_range hrange ?_ ?_ <;>
      rwa [toNat_of_range hcode code.le_refl code.le_refl]
  · refine ⟨_, [], hform, ?_⟩
    obtain ⟨image, himage, hfirst, hlast⟩ := exists_image hcovers
    obtain ⟨range, hrange, hlow, hhigh⟩ := exists_range (List.Subset.refl _) hruns
      (List.mem_flatMap.2 ⟨run, hrun, himage⟩)
    simp only [CaseRun.covers, CodeRun.covers, Bool.and_eq_true, decide_eq_true_eq] at hcovers
    obtain ⟨-, hplain⟩ := hplain.2 run hrun
    have hcode : (shiftBy run.shift c).toNat = (c.toNat + run.shift).toNat :=
      toNat_of_range hplain (by dsimp only; omega) (by dsimp only; omega)
    exact alphabetic_of_range hrange (by omega) (by omega)
  · exact ⟨c, [], hform, h⟩

/-- The lower-case form of a letter begins with a letter. -/
theorem lower_letter {c : Char} (h : isAlphabetic c = true) :
    ∃ first rest, lower c = first :: rest ∧ isAlphabetic first = true := by
  unfold lower
  split
  · next hascii =>
      refine ⟨c.toLower, [], rfl, ?_⟩
      exact forall_ascii (p := fun c => isAlphabetic c = true → isAlphabetic c.toLower = true)
        (by decide) hascii h
  · exact form_letter lower_table_plain lower_table_yields_letters h

/-- The upper-case form of a letter begins with a letter. -/
theorem upper_letter {c : Char} (h : isAlphabetic c = true) :
    ∃ first rest, upper c = first :: rest ∧ isAlphabetic first = true := by
  unfold upper
  split
  · next hascii =>
      refine ⟨c.toUpper, [], rfl, ?_⟩
      exact forall_ascii (p := fun c => isAlphabetic c = true → isAlphabetic c.toUpper = true)
        (by decide) hascii h
  · exact form_letter upper_table_plain upper_table_yields_letters h

/-- What is not a letter is its own form, if the table changes letters only. -/
theorem form_of_not_letter {table : CaseTable} (htable : table.changesLetters = true) {c : Char}
    (h : isAlphabetic c = false) : table.form c = [c] := by
  simp only [CaseTable.changesLetters, Bool.and_eq_true] at htable
  -- a character that the table changes would lie in a range of letters
  have hletter {intervals : List CodeRange} {interval : CodeRange}
      (hwithin : within allLetters allLetters intervals = true) (hinterval : interval ∈ intervals)
      (hfirst : interval.first ≤ c.toNat) (hlast : c.toNat ≤ interval.last) : False := by
    obtain ⟨range, hrange, hlow, hhigh⟩ := exists_range (List.Subset.refl _) hwithin hinterval
    rw [alphabetic_of_range hrange (by omega) (by omega)] at h
    cases h
  rcases form_cases table c with ⟨codes, hentry, -⟩ | ⟨run, hrun, hcovers, -⟩ | hform
  · exact (hletter htable.1 (List.mem_map_of_mem hentry) (Nat.le_refl _) (Nat.le_refl _)).elim
  · obtain ⟨interval, hinterval, hfirst, hlast⟩ := exists_source hcovers
    exact (hletter htable.2 (List.mem_flatMap.2 ⟨run, hrun, hinterval⟩) hfirst hlast).elim
  · exact hform

/-- What is not a letter is its own upper-case form. -/
theorem upper_of_not_letter {c : Char} (h : isAlphabetic c = false) : upper c = [c] := by
  unfold upper
  split
  · next hascii =>
      exact forall_ascii (p := fun c => isAlphabetic c = false → [c.toUpper] = [c]) (by decide)
        hascii h
  · exact form_of_not_letter upper_table_changes_letters h

end Schemata.Text
