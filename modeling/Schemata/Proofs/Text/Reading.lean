import Schemata.Proofs.Script.Lines
import Schemata.Settings
import Schemata.Text.Blank
import Schemata.Text.Listing

/-!
# Reading texts

Simple readers of generated texts: the rows of a text, the pieces between the occurrences of a mark,
what follows a beginning, and the words of a row. A mark splits a text where it was put in if it
holds a character that the pieces do not hold, by `split_append` and `split_intercalate`. Rows that
were written one below the other are read back by `rows_unlines`.
-/

namespace Schemata.Text

/-! ## Pieces between marks -/

/-- The pieces of the text `current ++ rest` between the occurrences of a mark, where `current`
holds none and the first `skip` characters of `rest` belong to an occurrence. -/
def splitChars (mark : List Char) (skip : Nat) (current : List Char) :
    List Char → List (List Char)
  | [] => [current]
  | c :: rest =>
    match skip with
    | skip + 1 => splitChars mark skip current rest
    | 0 =>
      if mark.isPrefixOf (c :: rest) then current :: splitChars mark (mark.length - 1) [] rest
      else splitChars mark 0 (current ++ [c]) rest

/-- The pieces of a text between the occurrences of a mark, from the left. -/
def split (mark text : String) : List String :=
  (splitChars mark.toList 0 [] text.toList).map String.ofList

section Splitting

variable {before behind piece current rest : List Char} {d : Char}

/-- The rest of an occurrence is skipped. -/
theorem split_chars_skip (mark skipped current rest : List Char) :
    splitChars mark skipped.length current (skipped ++ rest) = splitChars mark 0 current rest := by
  induction skipped with
  | nil => rfl
  | cons c skipped ih =>
      rw [List.length_cons, List.cons_append, splitChars]
      exact ih

/-- A mark does not occur before the first of its characters that the text in front lacks. -/
theorem not_prefix_of_not_mem {c : Char} (hbefore : d ∉ before) (hpiece : d ∉ c :: piece)
    (behind rest : List Char) :
    ¬ (before ++ d :: behind) <+: c :: piece ++ (before ++ d :: behind) ++ rest := by
  rintro ⟨tail, htail⟩
  -- the first `d` stands behind `before` on one side, and further to the right on the other
  have hother {part : List Char} (hpart : d ∉ part) : ∀ e ∈ part, (e != d) = true := by
    intro e he
    rw [bne_iff_ne]
    rintro rfl
    exact hpart he
  have hright : d ∉ c :: piece ++ before := by
    rw [List.mem_append, not_or]
    exact ⟨hpiece, hbefore⟩
  have hfirst := congrArg (List.takeWhile (· != d)) htail
  rw [List.append_assoc, List.takeWhile_append_of_pos (hother hbefore), List.append_assoc,
    List.append_assoc, ← List.append_assoc, List.takeWhile_append_of_pos (hother hright)] at hfirst
  have hlength := congrArg List.length hfirst
  simp at hlength
  omega

/-- A mark ends the first piece if it holds a character that neither the piece nor the beginning of
the mark holds. -/
theorem split_chars_append (hbefore : d ∉ before) (hpiece : d ∉ piece) :
    splitChars (before ++ d :: behind) 0 current (piece ++ (before ++ d :: behind) ++ rest) =
      (current ++ piece) :: splitChars (before ++ d :: behind) 0 [] rest := by
  induction piece generalizing current with
  | nil =>
      obtain ⟨first, others, hmark⟩ : ∃ first others, before ++ d :: behind = first :: others :=
        List.exists_cons_of_ne_nil (by simp)
      rw [hmark, List.nil_append, List.cons_append, splitChars, if_pos (by simp),
        List.length_cons, Nat.add_sub_cancel, split_chars_skip, List.append_nil]
  | cons c piece ih =>
      have hbegins := not_prefix_of_not_mem hbefore hpiece behind rest
      rw [List.cons_append, List.cons_append, splitChars, if_neg (by simpa using hbegins),
        ih fun hmem => hpiece (List.mem_cons_of_mem c hmem), List.append_assoc,
        List.singleton_append]

/-- A text that lacks a character of the mark is one piece. -/
theorem split_chars_single {mark text : List Char} (hmark : d ∈ mark) (htext : d ∉ text) :
    splitChars mark 0 current text = [current ++ text] := by
  induction text generalizing current with
  | nil => rw [splitChars, List.append_nil]
  | cons c text ih =>
      have hbegins : ¬ mark.isPrefixOf (c :: text) = true := by
        rw [List.isPrefixOf_iff_prefix]
        exact fun hbegins => htext (hbegins.subset hmark)
      rw [splitChars, if_neg hbegins, ih fun hmem => htext (List.mem_cons_of_mem c hmem),
        List.append_assoc, List.singleton_append]

end Splitting

variable {mark : String} {before behind : List Char} {d : Char}

/-- A mark ends the first piece of a text if it holds a character that neither the piece nor the
beginning of the mark holds. -/
theorem split_append (hmark : mark.toList = before ++ d :: behind) (hbefore : d ∉ before)
    {piece rest : String} (hpiece : d ∉ piece.toList) :
    split mark (piece ++ mark ++ rest) = piece :: split mark rest := by
  unfold split
  rw [String.toList_append, String.toList_append, hmark, split_chars_append hbefore hpiece,
    List.map_cons, List.nil_append, String.ofList_toList]

/-- A text that lacks a character of the mark is one piece. -/
theorem split_single (hmark : d ∈ mark.toList) {text : String} (htext : d ∉ text.toList) :
    split mark text = [text] := by
  rw [split, split_chars_single hmark htext, List.nil_append, List.map_singleton,
    String.ofList_toList]

/-- Pieces that are put together with a mark are read back. -/
theorem split_intercalate (hmark : mark.toList = before ++ d :: behind) (hbefore : d ∉ before)
    {pieces : List String} (hne : pieces ≠ []) (hpieces : ∀ piece ∈ pieces, d ∉ piece.toList) :
    split mark (mark.intercalate pieces) = pieces := by
  induction pieces with
  | nil => exact absurd rfl hne
  | cons piece rest ih =>
      rw [List.forall_mem_cons] at hpieces
      cases rest with
      | nil =>
          rw [String.intercalate_singleton]
          exact split_single (by simp [hmark]) hpieces.1
      | cons next rest =>
          rw [String.intercalate_cons_cons, split_append hmark hbefore hpieces.1,
            ih (by simp) hpieces.2]

/-- What follows a beginning. -/
def behind? (beginning text : String) : Option String :=
  (text.toList.dropPrefix? beginning.toList).map String.ofList

/-- What follows a beginning that was put in front. -/
theorem behind_append (beginning text : String) :
    behind? beginning (beginning ++ text) = some text := by
  have hdrop : (beginning ++ text).toList.dropPrefix? beginning.toList = some text.toList := by
    rw [List.dropPrefix?_eq_some_iff, String.toList_append]
    exact ⟨beginning.toList, rfl, by simp⟩
  rw [behind?, hdrop, Option.map_some, String.ofList_toList]

/-- What follows a beginning stands behind it. -/
theorem behind_eq_some {beginning text rest : String} (h : behind? beginning text = some rest) :
    text = beginning ++ rest := by
  obtain ⟨chars, hchars, rfl⟩ := Option.map_eq_some_iff.1 h
  obtain ⟨beginning', heq, hsame⟩ := List.dropPrefix?_eq_some_iff.1 hchars
  rw [beq_iff_eq] at hsame
  apply String.toList_inj.1
  rw [heq, hsame, String.toList_append, String.toList_ofList]

/-- Nothing follows a beginning where the first characters differ. -/
theorem behind_eq_none {beginning text : String}
    (h : text.toList.head? ≠ beginning.toList.head?) (hne : beginning.toList ≠ []) :
    behind? beginning text = none := by
  rw [Option.eq_none_iff_forall_ne_some]
  intro rest hrest
  obtain ⟨c, others, hcons⟩ := List.exists_cons_of_ne_nil hne
  rw [behind_eq_some hrest, String.toList_append, hcons] at h
  exact h rfl

/-- A character that neither the separator nor a piece holds is not in what is put together from
them. -/
theorem not_mem_intercalate {separator : String} {pieces : List String} {c : Char}
    (hseparator : c ∉ separator.toList) (h : ∀ piece ∈ pieces, c ∉ piece.toList) :
    c ∉ (separator.intercalate pieces).toList := by
  induction pieces with
  | nil => simp
  | cons piece rest ih =>
      rw [List.forall_mem_cons] at h
      cases rest with
      | nil =>
          rw [String.intercalate_singleton]
          exact h.1
      | cons next rest =>
          simp only [String.intercalate_cons_cons, String.toList_append, List.mem_append, not_or]
          exact ⟨⟨h.1, hseparator⟩, ih h.2⟩

/-- A line of a listing is an item, with the separator behind it or without. -/
theorem mem_separated {separator text : String} {items : List String}
    (h : text ∈ separated separator items) :
    ∃ item ∈ items, text = item ∨ text = item ++ separator := by
  induction items with
  | nil => simp [separated] at h
  | cons item rest ih =>
      cases rest with
      | nil => exact ⟨item, List.mem_cons_self, .inl (List.mem_singleton.1 h)⟩
      | cons next rest =>
          rw [separated, List.mem_cons] at h
          rcases h with rfl | h
          · exact ⟨item, List.mem_cons_self, .inr rfl⟩
          · obtain ⟨found, hmem, htext⟩ := ih h
            exact ⟨found, List.mem_cons_of_mem item hmem, htext⟩

/-- Every item has a line of a listing, which begins with it. -/
theorem mem_separated_of_mem (separator : String) {item : String} {items : List String}
    (h : item ∈ items) : ∃ rest, item ++ rest ∈ separated separator items := by
  induction items with
  | nil => simp at h
  | cons first others ih =>
      cases others with
      | nil => exact ⟨"", by simpa [separated] using h⟩
      | cons next others =>
          rw [separated]
          rcases List.mem_cons.1 h with rfl | h
          · exact ⟨separator, List.mem_cons_self⟩
          · obtain ⟨rest, hrest⟩ := ih h
            exact ⟨rest, List.mem_cons_of_mem _ hrest⟩

/-- A listing has one line for each item. -/
theorem length_separated (separator : String) (items : List String) :
    (separated separator items).length = items.length := by
  induction items with
  | nil => rfl
  | cons item rest ih =>
      cases rest with
      | nil => rfl
      | cons next rest => rw [separated, List.length_cons, ih, ← List.length_cons]

/-- The items of a listing are read back. -/
theorem separated_inj {separator : String} {items others : List String}
    (h : separated separator items = separated separator others) : items = others := by
  have hlength : items.length = others.length := by
    rw [← length_separated separator items, h, length_separated]
  induction items generalizing others with
  | nil => exact (List.length_eq_zero_iff.1 hlength.symm).symm
  | cons item rest ih =>
      obtain ⟨other, behind, rfl⟩ := List.exists_cons_of_length_eq_add_one hlength.symm
      cases rest with
      | nil =>
          obtain rfl : behind = [] := by simpa using hlength.symm
          exact h
      | cons next rest =>
          obtain ⟨second, behind, rfl⟩ :=
            List.exists_cons_of_length_eq_add_one (Nat.succ.inj hlength).symm
          obtain ⟨hfirst, hrest⟩ := List.cons.inj h
          rw [ih hrest (Nat.succ.inj hlength), show item = other by simpa using hfirst]

/-- A number is written on one line. -/
theorem number_one_line (number : Nat) : '\n' ∉ Nat.toDigits 10 number := fun hmem =>
  absurd (Nat.isDigit_of_mem_toDigits (by decide) (by decide) hmem) (by decide)

/-! ## Rows -/

/-- The rows of a text, which line feeds separate. -/
def rows (text : String) : List String :=
  (text.toList.splitOn '\n').map String.ofList

/-- The rows of a text that has no line feed. -/
theorem rows_single {text : String} (h : '\n' ∉ text.toList) : rows text = [text] := by
  rw [rows, List.splitOn_eq_singleton h, List.map_singleton, String.ofList_toList]

/-- The rows above and below a line feed. -/
theorem rows_append (above below : String) :
    rows (above ++ "\n" ++ below) = rows above ++ rows below := by
  have hlist : (above ++ "\n" ++ below).toList = above.toList ++ '\n' :: below.toList := by simp
  rw [rows, hlist, List.splitOn_append_cons_self, List.map_append]
  rfl

/-- Lines that were written above a text. -/
theorem rows_unlines_append (lines : List String) (text : String) :
    rows (unlines lines ++ text) = lines.flatMap rows ++ rows text := by
  induction lines with
  | nil => rw [unlines_nil, String.empty_append, List.flatMap_nil, List.nil_append]
  | cons line lines ih =>
      rw [unlines_cons, String.append_assoc, rows_append, ih, List.flatMap_cons, List.append_assoc]

/-- Lines without line feeds that were written one below the other. -/
theorem rows_unlines {lines : List String} (h : ∀ line ∈ lines, '\n' ∉ line.toList) :
    lines.flatMap rows = lines := by
  induction lines with
  | nil => rfl
  | cons line lines ih =>
      rw [List.forall_mem_cons] at h
      rw [List.flatMap_cons, rows_single h.1, ih h.2, List.singleton_append]

/-! ## Words of a row -/

/-- A row without the blanks in front. -/
def trimmed (row : String) : String :=
  String.ofList (row.toList.dropWhile isBlank)

/-- The first word of a row. -/
def firstWord (row : String) : String :=
  String.ofList ((row.toList.dropWhile isBlank).takeWhile (!isBlank ·))

/-- The text is made of blanks. -/
def IsBlankText (text : String) : Prop :=
  ∀ c ∈ text.toList, isBlank c = true

/-- One level of indentation is made of blanks and tabs. -/
theorem mem_indentation {settings : Settings} {c : Char}
    (h : c ∈ settings.indentUnit.toList) : c = ' ' ∨ c = '\t' := by
  unfold Settings.indentUnit at h
  split at h
  · exact .inr (List.mem_singleton.1 h)
  · rw [String.toList_ofList] at h
    exact .inl (List.eq_of_mem_replicate h)

/-- A character of the indentation at a depth of nesting is one of a level. -/
theorem mem_margin {unit : String} {depth : Nat} {c : Char} (h : c ∈ (margin unit depth).toList) :
    c ∈ unit.toList := by
  induction depth with
  | zero => simp [margin] at h
  | succ depth ih =>
      rw [margin, List.replicate_succ, String.join_cons, String.toList_append,
        List.mem_append] at h
      exact h.elim id ih

/-- Indentation is made of blanks. -/
theorem margin_blank (settings : Settings) (depth : Nat) :
    IsBlankText (margin settings.indentUnit depth) := by
  intro c hmem
  rcases mem_indentation (mem_margin hmem) with rfl | rfl <;> decide

/-- Indentation is written on one line. -/
theorem margin_one_line (settings : Settings) (depth : Nat) :
    '\n' ∉ (margin settings.indentUnit depth).toList := fun hmem =>
  absurd (mem_indentation (mem_margin hmem)) (by decide)

/-- Blanks in front are dropped. -/
theorem trimmed_append {indentation : String} (h : IsBlankText indentation) (text : String) :
    trimmed (indentation ++ text) = trimmed text := by
  rw [trimmed, String.toList_append, List.dropWhile_append_of_pos h, trimmed]

/-- Nothing is dropped in front of a character that is not blank. -/
theorem trimmed_eq {text : String} (h : ∀ c ∈ text.toList.head?, isBlank c = false) :
    trimmed text = text := by
  cases htext : text.toList with
  | nil => rw [trimmed, htext, List.dropWhile_nil, ← htext, String.ofList_toList]
  | cons c rest =>
      have hc : isBlank c = false := h c (by rw [htext]; rfl)
      rw [trimmed, htext, List.dropWhile_cons_of_neg (by simp [hc]), ← htext, String.ofList_toList]

/-- Characters that are not blank stay. -/
theorem mem_trimmed {row : String} {c : Char} (h : c ∈ row.toList) (hblank : isBlank c = false) :
    c ∈ (trimmed row).toList := by
  rw [← List.takeWhile_append_dropWhile (p := isBlank) (l := row.toList), List.mem_append] at h
  rw [trimmed, String.toList_ofList]
  refine h.resolve_left fun hmem => ?_
  have hall := List.all_eq_true.1 (List.all_takeWhile (p := isBlank) (l := row.toList)) c hmem
  rw [hall] at hblank
  cases hblank

/-- The first word of a row ends at the first blank behind it. -/
theorem first_word_append {indentation word : String} (h : IsBlankText indentation)
    (hne : word.toList ≠ []) (hword : ∀ c ∈ word.toList, isBlank c = false) (rest : String) :
    firstWord (indentation ++ word ++ " " ++ rest) = word := by
  have htrimmed : (indentation ++ word ++ " " ++ rest).toList.dropWhile isBlank =
      word.toList ++ ' ' :: rest.toList := by
    have hlist : (indentation ++ word ++ " " ++ rest).toList =
        indentation.toList ++ (word.toList ++ ' ' :: rest.toList) := by simp
    obtain ⟨c, others, hcons⟩ := List.exists_cons_of_ne_nil hne
    rw [hlist, List.dropWhile_append_of_pos h, hcons, List.cons_append,
      List.dropWhile_cons_of_neg (by simp [hword c, hcons])]
  rw [firstWord, htrimmed, List.takeWhile_append_of_pos (by simpa using hword),
    List.takeWhile_cons_of_neg (by decide), List.append_nil, String.ofList_toList]

end Schemata.Text
