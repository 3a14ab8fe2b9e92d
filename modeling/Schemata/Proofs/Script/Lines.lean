import Schemata.Proofs.Script.Rendering

/-!
# The lines of a script

A script that holds no failure, not even one that would be dropped, writes a fixed list of lines.
`Script.linesAt` gives these lines at a depth of nesting, and by `render_faultless` they are what is
rendered, one below the other.
-/

namespace Schemata

mutual

/-- The command holds no failure. -/
def Command.faultless : Command → Bool
  | .line _ | .blank | .aligned .. => true
  | .block _ _ body => Script.faultless body
  | .fail _ | .attempt _ => false

/-- No command of the script holds a failure. -/
def Script.faultless : List Command → Bool
  | [] => true
  | command :: rest => command.faultless && Script.faultless rest

end

mutual

/-- The lines of a command at a depth of nesting. -/
def Command.linesAt (unit : String) (depth : Nat) : Command → List String
  | .line text => [margin unit depth ++ text]
  | .blank => [""]
  | .aligned lead text tail =>
    alignedRows (margin unit depth) lead tail (Text.brokenLines text)
  | .block header closer body =>
    [margin unit depth ++ header, margin unit depth ++ "\x7b"] ++
      Script.linesAt unit (depth + 1) body ++ [margin unit depth ++ closer.ending]
  | .fail _ => []
  | .attempt command => command.linesAt unit depth

/-- The lines of a script at a depth of nesting. -/
def Script.linesAt (unit : String) (depth : Nat) : List Command → List String
  | [] => []
  | command :: rest => command.linesAt unit depth ++ Script.linesAt unit depth rest

end

namespace Script

/-- A script is faultless if its commands are. -/
theorem faultless_iff {script : List Command} :
    faultless script = true ↔ ∀ command ∈ script, command.faultless = true := by
  induction script with
  | nil => simp [faultless]
  | cons command rest ih => simp [faultless, ih]

/-- The lines of two scripts one after the other. -/
theorem lines_at_append (unit : String) (depth : Nat) (first second : List Command) :
    linesAt unit depth (first ++ second) =
      linesAt unit depth first ++ linesAt unit depth second := by
  induction first with
  | nil => rw [List.nil_append, linesAt, List.nil_append]
  | cons command first ih =>
      rw [List.cons_append, linesAt, linesAt, ih, List.append_assoc]

/-- The lines of scripts with empty lines between them. -/
theorem lines_at_spaced_cons (unit : String) (depth : Nat) (first second : Script)
    (rest : List Script) :
    linesAt unit depth (spaced (first :: second :: rest)) =
      linesAt unit depth first ++ "" :: linesAt unit depth (spaced (second :: rest)) := by
  rw [spaced, List.intersperse_cons_cons, List.flatten_cons, List.flatten_cons, lines_at_append,
    lines_at_append]
  rfl

end Script

mutual

/-- A faultless command writes its lines. -/
theorem Command.rendering_faultless {command : Command} (h : command.faultless = true)
    (unit : String) (depth : Nat) :
    command.rendering unit depth = (unlines (command.linesAt unit depth), .ok ()) := by
  cases command with
  | line text =>
      rw [Command.rendering, Command.linesAt, unlines_cons, unlines_nil, String.append_empty]
      rfl
  | blank => rfl
  | aligned lead text tail => rw [Command.rendering, Command.linesAt]
  | block header closer body =>
      have hbody := Script.rendering_faultless h unit (depth + 1)
      rw [Command.rendering, Command.linesAt, hbody]
      simp only [unlines_append, unlines_cons, unlines_nil, String.append_empty]
      rfl
  | fail cause => cases h
  | attempt command => cases h

/-- A faultless script writes its lines. -/
theorem Script.rendering_faultless {script : List Command} (h : Script.faultless script = true)
    (unit : String) (depth : Nat) :
    Script.rendering unit depth script = (unlines (Script.linesAt unit depth script), .ok ()) := by
  cases script with
  | nil => rfl
  | cons command rest =>
      rw [Script.faultless, Bool.and_eq_true] at h
      have hfirst := Command.rendering_faultless h.1 unit depth
      have hrest := Script.rendering_faultless h.2 unit depth
      rw [Script.rendering, Script.linesAt, hfirst, unlines_append]
      simp only [hrest]

end

/-- A faultless script is rendered, and its text is that of its lines. -/
theorem render_faultless {script : Script} (h : Script.faultless script = true) (unit : String) :
    script.render unit = .ok (unlines (Script.linesAt unit 0 script)) :=
  Writer.render_eq_ok_iff.2 (Script.rendering_faultless h unit 0)

end Schemata
