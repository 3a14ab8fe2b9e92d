import Mathlib.Data.List.Infix
import Schemata.Text.Lines

/-!
# The lines of a text are what its line feeds separate

`lines` reads a text character by character. `brokenLines` says the same of the text as a whole: the
pieces between the line feeds are its lines, where every piece but the last loses a carriage return
at its end, and the last piece is no line if it is empty. Both agree by `lines_eq`.
-/

namespace Schemata.Text

/-- The piece without one carriage return at its end, if there is one. -/
def withoutReturn (piece : List Char) : List Char :=
  (piece.dropSuffix? ['\r']).getD piece

/-- The lines of a text with the given pieces between its line feeds. -/
def pieceLines : List (List Char) → List (List Char)
  | [] => []
  | [last] => if last = [] then [] else [last]
  | piece :: next :: rest => withoutReturn piece :: pieceLines (next :: rest)

/-- The lines of a text, by its line feeds. -/
def brokenLines (text : String) : List String :=
  (pieceLines (text.toList.splitOn '\n')).map String.ofList

/-- A carriage return at the end is dropped either way. -/
theorem drop_return_eq (piece : List Char) : dropReturn piece = withoutReturn piece := by
  unfold dropReturn withoutReturn
  split
  · next hlast =>
      obtain ⟨init, rfl⟩ := List.getLast?_eq_some_iff.1 hlast
      have hdrop : (init ++ ['\r']).dropSuffix? ['\r'] = some init :=
        List.dropSuffix?_eq_some_iff.2 ⟨['\r'], rfl, BEq.rfl⟩
      rw [List.dropLast_concat, hdrop, Option.getD_some]
  · next hlast =>
      have hnone : piece.dropSuffix? ['\r'] = none := by
        rw [Option.eq_none_iff_forall_ne_some]
        intro init hinit
        obtain ⟨suffix, rfl, hsuffix⟩ := List.dropSuffix?_eq_some_iff.1 hinit
        rw [eq_of_beq hsuffix] at hlast
        exact hlast List.getLast?_concat
      rw [hnone, Option.getD_none]

/-- The lines of a text whose beginning, which has no line feed, was read. -/
theorem lines_from_eq {current : List Char} (h : '\n' ∉ current) (rest : List Char) :
    linesFrom current rest = pieceLines ((current ++ rest).splitOn '\n') := by
  induction rest generalizing current with
  | nil =>
      rw [List.append_nil, List.splitOn_eq_singleton h, linesFrom, pieceLines]
      simp only [List.isEmpty_iff]
  | cons c rest ih =>
      rw [linesFrom]
      split
      · next hfeed =>
          -- the line feed ends the piece that was read, and another piece begins
          have hpieces : rest.splitOn '\n' ≠ [] := List.splitOn_ne_nil _ _
          obtain ⟨piece, others, hcons⟩ := List.exists_cons_of_ne_nil hpieces
          rw [hfeed, List.splitOn_append_cons_self_of_not_mem h, ih List.not_mem_nil,
            List.nil_append, hcons, pieceLines, drop_return_eq]
      · next hother =>
          have hcurrent : '\n' ∉ current ++ [c] := by
            rw [List.mem_append, List.mem_singleton, not_or]
            exact ⟨h, Ne.symm hother⟩
          rw [ih hcurrent, List.append_assoc, List.singleton_append]

/-- The lines of a text are what its line feeds separate. -/
theorem lines_eq (text : String) : lines text = brokenLines text := by
  rw [lines, lines_from_eq List.not_mem_nil, List.nil_append, brokenLines]

end Schemata.Text
