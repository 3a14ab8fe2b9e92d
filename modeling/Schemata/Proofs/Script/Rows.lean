import Schemata.Proofs.Text.Lines
import Schemata.Script

/-!
# Rows one below the other

What a script writes is made of rows at a margin. The rows of an aligned text and the row that ends
a block are given here without a writer. By `framed_rows` a writer frames rows in the same way, and
by `line_eq_ending` it ends blocks in the same way. What aligned rows read like as one text is said
by `unlines_aligned_rows`.
-/

namespace Schemata

/-- What stands in front of a row at a depth of nesting. -/
def margin (unit : String) (depth : Nat) : String :=
  String.join (List.replicate depth unit)

/-- The text of rows one below the other. -/
def unlines (rows : List String) : String :=
  String.join (rows.map (· ++ "\n"))

/-- No rows are no text. -/
theorem unlines_nil : unlines [] = "" :=
  rfl

/-- One row above others. -/
theorem unlines_cons (row : String) (rows : List String) :
    unlines (row :: rows) = row ++ "\n" ++ unlines rows := by
  rw [unlines, List.map_cons, String.join_cons, unlines]

/-- Rows above others. -/
theorem unlines_append (above below : List String) :
    unlines (above ++ below) = unlines above ++ unlines below := by
  induction above with
  | nil => rw [List.nil_append, unlines_nil, String.empty_append]
  | cons row above ih =>
      rw [List.cons_append, unlines_cons, unlines_cons, ih, String.append_assoc,
        String.append_assoc, String.append_assoc]

/-- A row stands behind a line feed, if there is one in front of the first row. -/
theorem unlines_of_mem {row : String} {rows : List String} (h : row ∈ rows) :
    ∃ above below, "\n" ++ unlines rows = above ++ "\n" ++ row ++ below := by
  obtain ⟨before, after, rfl⟩ := List.append_of_mem h
  rw [unlines_append, unlines_cons]
  rcases List.eq_nil_or_concat before with rfl | ⟨others, last, rfl⟩
  · refine ⟨"", "\n" ++ unlines after, ?_⟩
    simp only [unlines_nil, String.empty_append, String.append_assoc]
  · refine ⟨"\n" ++ unlines others ++ last, "\n" ++ unlines after, ?_⟩
    rw [List.concat_eq_append, unlines_append, unlines_cons, unlines_nil]
    simp only [String.append_empty, String.append_assoc]

/-! ## Aligned rows -/

/-- Rows at an indentation, with `lead` in front of the first and `tail` behind the last. -/
def alignedRows (indentation lead tail : String) (rows : List String) : List String :=
  rows.mapIdx fun i row =>
    indentation ++ (if i = 0 then lead else "") ++ row ++
      (if i + 1 = rows.length then tail else "")

section Aligned

variable (indentation lead tail : String)

/-- The only row is the first and the last. -/
theorem aligned_rows_singleton (row : String) :
    alignedRows indentation lead tail [row] = [indentation ++ lead ++ row ++ tail] :=
  rfl

/-- Nothing stands in front of the rows below the first. -/
theorem aligned_rows_cons (row next : String) (rest : List String) :
    alignedRows indentation lead tail (row :: next :: rest) =
      (indentation ++ lead ++ row) :: alignedRows indentation "" tail (next :: rest) := by
  simp [alignedRows]

/-- A text is put behind the last of some rows. -/
theorem with_tail_rows (rows : List String) :
    (Writer.withTail tail rows).map (indentation ++ ·) = alignedRows indentation "" tail rows := by
  induction rows with
  | nil => rfl
  | cons row rest ih =>
      cases rest with
      | nil =>
          rw [Writer.withTail, aligned_rows_singleton, String.append_empty, String.append_assoc]
          rfl
      | cons next rest =>
          rw [Writer.withTail, List.map_cons, ih, aligned_rows_cons, String.append_empty]

/-- A writer frames rows as they are aligned. -/
theorem framed_rows (rows : List String) :
    (Writer.framed lead tail rows).map (indentation ++ ·) =
      alignedRows indentation lead tail rows := by
  cases rows with
  | nil => rfl
  | cons row rest =>
      cases rest with
      | nil =>
          rw [aligned_rows_singleton, Writer.framed, Writer.withTail]
          simp only [List.map_cons, List.map_nil, String.append_assoc]
      | cons next rest =>
          rw [aligned_rows_cons, ← with_tail_rows, Writer.framed, Writer.withTail]
          simp only [List.map_cons, String.append_assoc]

/-- Aligned rows as a text: the rows with line feeds and indentation between them. -/
theorem unlines_aligned_rows {rows : List String} (h : rows ≠ []) :
    unlines (alignedRows indentation lead tail rows) =
      indentation ++ lead ++ ("\n" ++ indentation).intercalate rows ++ tail ++ "\n" := by
  induction rows generalizing lead with
  | nil => exact absurd rfl h
  | cons row rest ih =>
      cases rest with
      | nil =>
          rw [aligned_rows_singleton, unlines_cons, unlines_nil, String.intercalate_singleton,
            String.append_empty]
      | cons next rest =>
          rw [aligned_rows_cons, unlines_cons, ih "" (by simp), String.intercalate_cons_cons]
          simp only [String.append_empty, String.append_assoc]

end Aligned

/-! ## The ends of blocks -/

/-- The row that ends a block: a brace, with a semicolon behind it for an initializer. -/
def Closer.ending : Closer → String
  | statement => "\x7d"
  | initializer => "\x7d;"

/-- A writer closes a block with its ending. -/
theorem Closer.line_eq_ending (closer : Closer) : closer.line = closer.ending := by
  cases closer with
  | statement => rfl
  | initializer => rfl

end Schemata
