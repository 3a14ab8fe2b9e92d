import Schemata.Proofs.Script.Rows

/-!
# What a script writes

`Command.rendering` says what a command writes at a depth of nesting and whether it fails, without a
writer. By `exec_eq` a writer appends exactly this to its output and keeps its open blocks. So the
text of a script that does not fail holds the text of each of its commands, however deep it is
nested.
-/

namespace Schemata

/-- A line at a depth of nesting. -/
def indented (unit : String) (depth : Nat) (text : String) : String :=
  margin unit depth ++ text ++ "\n"

mutual

/-- What a command writes at a depth of nesting, and its outcome. -/
def Command.rendering (unit : String) (depth : Nat) : Command → String × Except Error Unit
  | .line text => (indented unit depth text, .ok ())
  | .blank => ("\n", .ok ())
  | .aligned lead text tail =>
    (unlines (alignedRows (margin unit depth) lead tail (Text.brokenLines text)), .ok ())
  | .block header closer body =>
    let (inner, outcome) := Script.rendering unit (depth + 1) body
    (indented unit depth header ++ indented unit depth "\x7b" ++ inner
      ++ indented unit depth closer.ending, outcome)
  | .fail cause => ("", .error cause)
  | .attempt command => ((Command.rendering unit depth command).1, .ok ())

/-- What a script writes at a depth of nesting, up to the first command that fails, and its
outcome. -/
def Script.rendering (unit : String) (depth : Nat) : List Command → String × Except Error Unit
  | [] => ("", .ok ())
  | command :: rest =>
    match Command.rendering unit depth command with
    | (text, .ok _) =>
      let (more, outcome) := Script.rendering unit depth rest
      (text ++ more, outcome)
    | (text, .error cause) => (text, .error cause)

end

namespace Writer

/-- The writer after more text was written. -/
def append (writer : Writer) (text : String) : Writer :=
  { writer with output := writer.output ++ text }

/-- Text that is written in two pieces. -/
theorem append_append (writer : Writer) (first second : String) :
    (writer.append first).append second = writer.append (first ++ second) := by
  simp only [append, String.append_assoc]

/-- Writing nothing. -/
theorem append_empty (writer : Writer) : writer.append "" = writer := by
  rw [append, String.append_empty]

/-- A line is written at the depth of the open blocks. -/
theorem line_eq (writer : Writer) (text : String) :
    writer.line text = writer.append (indented writer.unit writer.closers.length text) := by
  simp only [line, append, indented, indentation, margin, String.append_assoc]

/-- Lines are written one below the other. -/
theorem lines_eq (writer : Writer) (lines : List String) :
    lines.foldl line writer =
      writer.append (unlines (lines.map (margin writer.unit writer.closers.length ++ ·))) := by
  induction lines generalizing writer with
  | nil => rw [List.map_nil, unlines_nil, append_empty, List.foldl_nil]
  | cons text lines ih =>
      rw [List.foldl_cons, ih, line_eq, append_append, List.map_cons, unlines_cons]
      rfl

/-- An aligned text is written as the rows that are its lines. -/
theorem aligned_eq (writer : Writer) (lead text tail : String) :
    writer.aligned lead text tail = writer.append (unlines (alignedRows
      (margin writer.unit writer.closers.length) lead tail (Text.brokenLines text))) := by
  rw [aligned, lines_eq, framed_rows, Text.lines_eq]

/-- A block is closed at the depth at which it was opened. -/
theorem close_block_append (writer : Writer) (header : String) (closer : Closer) (inner : String) :
    ((writer.openBlock header closer).append inner).closeBlock =
      writer.append (indented writer.unit writer.closers.length header ++
        indented writer.unit writer.closers.length "\x7b" ++ inner ++
        indented writer.unit writer.closers.length closer.ending) := by
  simp only [openBlock, line_eq, append, closeBlock, Closer.line_eq_ending, String.append_assoc]

mutual

/-- A command appends its rendering to the output and keeps the open blocks. -/
theorem exec_eq (writer : Writer) (command : Command) :
    writer.exec command =
      (writer.append (command.rendering writer.unit writer.closers.length).1,
        (command.rendering writer.unit writer.closers.length).2) := by
  cases command with
  | line text => rw [exec, Command.rendering, line_eq]
  | blank => rw [exec, Command.rendering]; rfl
  | aligned lead text tail => rw [exec, Command.rendering, aligned_eq]
  | block header closer body =>
      -- the body is written by a writer with one more open block
      have hbody := exec_all_eq (writer.openBlock header closer) body
      have hunit : (writer.openBlock header closer).unit = writer.unit := rfl
      have hdepth : (writer.openBlock header closer).closers.length = writer.closers.length + 1 :=
        rfl
      rw [hunit, hdepth] at hbody
      rw [exec, Command.rendering, hbody]
      simp only [Prod.mk.injEq, and_true]
      exact close_block_append writer header closer _
  | fail cause => rw [exec, Command.rendering, append_empty]
  | attempt command => rw [exec, Command.rendering, exec_eq writer command]

/-- A script appends its rendering to the output and keeps the open blocks. -/
theorem exec_all_eq (writer : Writer) (script : List Command) :
    writer.execAll script =
      (writer.append (Script.rendering writer.unit writer.closers.length script).1,
        (Script.rendering writer.unit writer.closers.length script).2) := by
  cases script with
  | nil => rw [execAll, Script.rendering, append_empty]
  | cons command rest =>
      rw [execAll, Script.rendering, exec_eq writer command]
      obtain ⟨text, outcome⟩ := command.rendering writer.unit writer.closers.length
      cases outcome with
      | error cause => rfl
      | ok done =>
          have hrest := exec_all_eq (writer.append text) rest
          simp only [hrest, append_append]
          rfl

end

/-- The text of a script is its rendering outside of all blocks. -/
theorem render_eq_ok_iff {unit source : String} {script : Script} :
    script.render unit = .ok source ↔ Script.rendering unit 0 script = (source, .ok ()) := by
  have hexec := exec_all_eq (ofUnit unit) script
  have hunit : (ofUnit unit).unit = unit := rfl
  have hdepth : (ofUnit unit).closers.length = 0 := rfl
  rw [hunit, hdepth] at hexec
  rw [Script.render, hexec]
  obtain ⟨text, outcome⟩ := Script.rendering unit 0 script
  cases outcome with
  | error cause => simp
  | ok done => simp [append, ofUnit, finish]

end Writer

namespace Script

variable {unit : String} {depth : Nat} {script : List Command}

/-- The text of a script of one command is the text of the command. -/
theorem rendering_singleton (unit : String) (depth : Nat) (command : Command) :
    (rendering unit depth [command]).1 = (command.rendering unit depth).1 := by
  rw [rendering, rendering]
  cases command.rendering unit depth with
  | mk text outcome => cases outcome <;> simp

/-- The text of a command stands in the text of a script that does not fail. -/
theorem command_within (hok : (rendering unit depth script).2 = .ok ()) {command : Command}
    (hmem : command ∈ script) :
    (command.rendering unit depth).2 = .ok () ∧
      (command.rendering unit depth).1.toList <:+: (rendering unit depth script).1.toList := by
  induction script with
  | nil => simp at hmem
  | cons first rest ih =>
      rw [rendering] at hok ⊢
      cases hfirst : first.rendering unit depth with
      | mk text outcome =>
          rw [hfirst] at hok
          cases outcome with
          | error cause => simp at hok
          | ok done =>
              simp only [String.toList_append] at hok ⊢
              rcases List.mem_cons.1 hmem with rfl | hmem
              · rw [hfirst]
                exact ⟨rfl, (List.prefix_append _ _).isInfix⟩
              · obtain ⟨hcommand, hwithin⟩ := ih hok hmem
                exact ⟨hcommand, hwithin.trans (List.suffix_append _ _).isInfix⟩

/-- The text of the body of a block stands in the text of a script that does not fail. -/
theorem body_within (hok : (rendering unit depth script).2 = .ok ()) {header : String}
    {closer : Closer} {body : List Command} (hmem : .block header closer body ∈ script) :
    (rendering unit (depth + 1) body).2 = .ok () ∧
      (rendering unit (depth + 1) body).1.toList <:+: (rendering unit depth script).1.toList := by
  obtain ⟨hblock, hwithin⟩ := command_within hok hmem
  rw [Command.rendering] at hblock hwithin
  refine ⟨hblock, List.IsInfix.trans ?_ hwithin⟩
  simp only [String.toList_append]
  exact List.infix_append _ _ _

end Script

end Schemata
