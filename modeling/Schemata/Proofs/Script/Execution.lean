import Schemata.Proofs.Script.Lines

/-!
# What carrying out a script does

A script is carried out up to its first failure that is not dropped. `Script.raised` lists the
failures of a script that are not dropped, and `Script.executed` is the part of the script that is
carried out, where a block whose body fails is cut short but is still a block. By
`execution_faithful` a writer appends the lines of this part to its output, at the depth of its open
blocks, and reports the first of the failures; it has the same open blocks as before, also where a
body fails midway, so a writer that starts without open blocks has none to close at the end.
-/

namespace Schemata

mutual

/-- The failures of a command that are not dropped, in order. -/
def Command.raised : Command → List Error
  | .line _ | .blank | .aligned .. | .attempt _ => []
  | .block _ _ body => Script.raised body
  | .fail cause => [cause]

/-- The failures of a script that are not dropped, in order. -/
def Script.raised : List Command → List Error
  | [] => []
  | command :: rest => command.raised ++ Script.raised rest

end

mutual

/-- The part of a command that is carried out. -/
def Command.executed : Command → Command
  | .line text => .line text
  | .blank => .blank
  | .aligned lead text tail => .aligned lead text tail
  | .block header closer body => .block header closer (Script.executed body)
  | .fail cause => .fail cause
  | .attempt command => .attempt command.executed

/-- The part of a script that is carried out, up to the first command with a failure that is not
dropped. -/
def Script.executed : List Command → List Command
  | [] => []
  | command :: rest =>
    if command.raised.isEmpty then command.executed :: Script.executed rest
    else [command.executed]

end

/-- The outcome of a run with the given failures, of which the first ends the run. -/
def outcomeOf : List Error → Except Error Unit
  | [] => .ok ()
  | cause :: _ => .error cause

mutual

/-- A command writes the lines of the part that is carried out and fails with its first failure that
is not dropped. -/
theorem Command.rendering_eq (unit : String) (depth : Nat) (command : Command) :
    command.rendering unit depth =
      (unlines (command.executed.linesAt unit depth), outcomeOf command.raised) := by
  cases command with
  | line text => exact Command.rendering_faultless rfl unit depth
  | blank => rfl
  | aligned lead text tail => exact Command.rendering_faultless rfl unit depth
  | block header closer body =>
      have hbody := Script.rendering_eq unit (depth + 1) body
      rw [Command.rendering, hbody]
      simp only [Command.executed, Command.linesAt, Command.raised, unlines_append, unlines_cons,
        unlines_nil, String.append_empty]
      rfl
  | fail cause => rfl
  | attempt command =>
      rw [Command.rendering, Command.rendering_eq unit depth command]
      rfl

/-- A script writes the lines of the part that is carried out and fails with its first failure that
is not dropped. -/
theorem Script.rendering_eq (unit : String) (depth : Nat) (script : List Command) :
    Script.rendering unit depth script =
      (unlines (Script.linesAt unit depth (Script.executed script)),
        outcomeOf (Script.raised script)) := by
  cases script with
  | nil => rfl
  | cons command rest =>
      rw [Script.rendering, Command.rendering_eq unit depth command, Script.executed,
        Script.raised]
      cases hraised : command.raised with
      | nil =>
          -- the command succeeds, and the rest is carried out behind it
          simp only [outcomeOf, Script.rendering_eq unit depth rest, List.isEmpty_nil, if_true,
            Script.linesAt, unlines_append, List.nil_append]
      | cons cause causes =>
          simp only [outcomeOf, List.isEmpty_cons, Bool.false_eq_true, if_false, Script.linesAt,
            List.append_nil, List.cons_append]

end

/-- Closing all open blocks adds nothing where none is open. -/
theorem Writer.finish_of_closed {writer : Writer} (h : writer.closers = []) :
    writer.finish = writer.output := by
  rw [finish, h, List.foldl_nil]

/-- Carrying out a script keeps the open blocks and the unit of indentation of a writer, whether the
script fails or not. The output grows by the lines of the part of the script that is carried out, at
the depth of the open blocks, and the result is the first failure that is not dropped. A writer
without output and without open blocks has nothing to close afterwards. -/
theorem execution_faithful (writer : Writer) (script : Script) :
    (writer.execAll script).1.closers = writer.closers ∧
    (writer.execAll script).1.unit = writer.unit ∧
    (writer.execAll script).1.output = writer.output ++
      unlines (Script.linesAt writer.unit writer.closers.length (Script.executed script)) ∧
    (writer.execAll script).2 = outcomeOf (Script.raised script) ∧
    ∀ unit, ((Writer.ofUnit unit).execAll script).1.finish =
      ((Writer.ofUnit unit).execAll script).1.output := by
  have hexec := Writer.exec_all_eq writer script
  rw [Script.rendering_eq] at hexec
  refine ⟨?_, ?_, ?_, ?_, fun unit => Writer.finish_of_closed ?_⟩
  · rw [hexec]
    rfl
  · rw [hexec]
    rfl
  · rw [hexec]
    rfl
  · rw [hexec]
  · rw [Writer.exec_all_eq]
    rfl

example :
    Script.linesAt "  " 1 (Script.executed
      [.attempt (.block "a" .initializer [.line "b", .fail (.grammar .closeOutsideTable), .line "c"]),
        .blank, .block "d" .statement [.fail (.grammar .closeOutsideTable)], .line "e"]) =
      ["  a", "  \x7b", "    b", "  \x7d;", "", "  d", "  \x7b", "  \x7d"] := by
  decide +kernel

end Schemata
