import Mathlib.Data.List.Infix
import Schemata.Text.Listing

/-!
# Comments in generated text

Two hyphens in a row open a comment that lasts to the end of the line. A text that is put together
from pieces opens a comment only inside a piece, unless one piece ends with a hyphen where the next
one begins with a hyphen. The lemmas follow the ways in which statements are put together: pieces
around a separator without hyphens, pieces that do not begin with a hyphen, and lists of pieces.
-/

namespace Schemata.Text

/-- The characters open a comment. -/
def CommentIn (text : List Char) : Prop :=
  ['-', '-'] <:+: text

/-- The text opens a comment. -/
def OpensComment (text : String) : Prop :=
  CommentIn text.toList

/-- Whether a text opens a comment can be decided by looking through it. -/
instance (text : String) : Decidable (OpensComment text) :=
  inferInstanceAs (Decidable (_ <:+: _))

/-- The text keeps the pieces around it apart: it is not empty and has no hyphens. -/
def Separates (text : String) : Prop :=
  text ≠ "" ∧ '-' ∉ text.toList

/-- `Separates` is decidable by comparing characters. -/
instance (text : String) : Decidable (Separates text) :=
  inferInstanceAs (Decidable (_ ∧ _))

/-! ## Lists of characters -/

/-- A comment is opened by the first two characters or behind the first. -/
theorem comment_in_cons {c : Char} {text : List Char} :
    CommentIn (c :: text) ↔ (c = '-' ∧ text.head? = some '-') ∨ CommentIn text := by
  unfold CommentIn
  rw [List.infix_cons_iff, List.cons_prefix_cons]
  cases text with
  | nil => simp
  | cons d rest => simp [eq_comm]

/-- Without hyphens there is no comment. -/
theorem not_comment_in_of_not_mem {text : List Char} (h : '-' ∉ text) : ¬ CommentIn text :=
  fun hcomment => h (hcomment.subset (by simp))

/-- A piece that does not begin with a hyphen opens no comment together with what stands in front of
it. -/
theorem comment_in_append {left right : List Char} (h : right.head? ≠ some '-') :
    CommentIn (left ++ right) ↔ CommentIn left ∨ CommentIn right := by
  induction left with
  | nil => simp [CommentIn]
  | cons c left ih =>
      rw [List.cons_append, comment_in_cons, comment_in_cons, ih, or_assoc]
      cases left with
      | nil => simp [h]
      | cons d rest => simp

/-- Characters without hyphens open no comment together with what stands behind them. -/
theorem comment_in_behind {left right : List Char} (h : '-' ∉ left) :
    CommentIn (left ++ right) ↔ CommentIn right := by
  induction left with
  | nil => rfl
  | cons c left ih =>
      rw [List.mem_cons, not_or] at h
      rw [List.cons_append, comment_in_cons, ih h.2, or_iff_right]
      exact fun hfirst => h.1 hfirst.1.symm

/-! ## Texts -/

/-- A text without hyphens opens no comment. -/
theorem not_opens_comment {text : String} (h : '-' ∉ text.toList) : ¬ OpensComment text :=
  not_comment_in_of_not_mem h

/-- The empty text opens no comment. -/
theorem empty_opens_no_comment : ¬ OpensComment "" := by
  decide

/-- A piece behind a text without hyphens. -/
theorem opens_comment_behind {left right : String} (h : '-' ∉ left.toList) :
    OpensComment (left ++ right) ↔ OpensComment right := by
  unfold OpensComment
  rw [String.toList_append, comment_in_behind h]

/-- A piece that does not begin with a hyphen, behind another one. -/
theorem opens_comment_append {left right : String} (h : right.toList.head? ≠ some '-') :
    OpensComment (left ++ right) ↔ OpensComment left ∨ OpensComment right := by
  unfold OpensComment
  rw [String.toList_append, comment_in_append h]

/-- A piece in front of a text without hyphens. -/
theorem opens_comment_before {left right : String} (h : '-' ∉ right.toList) :
    OpensComment (left ++ right) ↔ OpensComment left := by
  have hhead : right.toList.head? ≠ some '-' := fun hhead => h (List.mem_of_mem_head? hhead)
  rw [opens_comment_append hhead, or_iff_left (not_opens_comment h)]

/-- Two pieces that are kept apart. -/
theorem opens_comment_around {left separator right : String} (h : Separates separator) :
    OpensComment (left ++ separator ++ right) ↔ OpensComment left ∨ OpensComment right := by
  obtain ⟨hne, hhyphen⟩ := h
  have hhead : (separator ++ right).toList.head? ≠ some '-' := by
    obtain ⟨c, rest, hsplit⟩ := List.exists_cons_of_ne_nil (mt String.toList_eq_nil_iff.1 hne)
    rw [hsplit, List.mem_cons, not_or] at hhyphen
    rw [String.toList_append, hsplit, List.cons_append, List.head?_cons]
    exact fun heq => hhyphen.1 (Option.some.inj heq).symm
  rw [String.append_assoc, opens_comment_append hhead, opens_comment_behind hhyphen]

/-- Pieces any two of which are kept apart. -/
theorem opens_comment_intercalate {separator : String} {pieces : List String}
    (h : Separates separator) :
    OpensComment (separator.intercalate pieces) ↔ ∃ piece ∈ pieces, OpensComment piece := by
  induction pieces with
  | nil => simpa using empty_opens_no_comment
  | cons piece pieces ih =>
      cases pieces with
      | nil => simp
      | cons next rest =>
          rw [String.intercalate_cons_cons, opens_comment_around h, ih]
          simp

/-- Items of a listing whose separator has no hyphens. -/
theorem opens_comment_separated {separator : String} {items : List String}
    (h : '-' ∉ separator.toList) :
    (∃ item ∈ separated separator items, OpensComment item) ↔
      ∃ item ∈ items, OpensComment item := by
  fun_induction separated separator items with
  | case1 => simp
  | case2 => simp
  | case3 item next rest ih =>
      rw [List.exists_mem_cons_iff, List.exists_mem_cons_iff, ih, opens_comment_before h]

/-- Lines one below the other, each behind an indentation without hyphens. -/
theorem opens_comment_lines {indentation : String} {lines : List String}
    (h : '-' ∉ indentation.toList) :
    OpensComment (String.join (lines.map (indentation ++ · ++ "\n"))) ↔
      ∃ line ∈ lines, OpensComment line := by
  induction lines with
  | nil => simpa using empty_opens_no_comment
  | cons line lines ih =>
      rw [List.map_cons, String.join_cons, opens_comment_around (by decide), ih,
        opens_comment_behind h, List.exists_mem_cons_iff]

end Schemata.Text
