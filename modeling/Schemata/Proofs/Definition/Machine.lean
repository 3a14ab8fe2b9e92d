import Schemata.Definition.Machine
import Schemata.Proofs.Definition.Parsing

/-!
# The machine and the parser

The machine with flags and the parser with phases take the same steps. In every state of the parser
the flags of the machine have certain values, and only the token that was read last is left open:
the machine does not keep the tokens between a header and its brace. `step_agrees` goes through the
phases, and from it follows by `machine_parse_eq` that both parse the same texts to the same tables,
and refuse the others with the same errors.
-/

namespace Schemata.Definition

open Error (liftSemantic)

variable {schema : String} {state : State} {machine : Machine} {table : OpenTable}
  {draft : Column.Draft} {token : Token}

/-! ## The machine in a state of the parser -/

/-- The machine in a state of the parser, behind the given token. -/
def Machine.ofState (state : State) (preceding : Option Token) : Machine :=
  match state.phase with
  | .betweenTables => { preceding, tables := state.tables }
  | .header table =>
    { expectsTable := false
      mustOpenTable := true
      preceding
      table := some table
      tables := state.tables }
  | .body table => { expectsTable := false, preceding, table := some table, tables := state.tables }
  | .column table draft | .reference table draft | .default table draft =>
    { expectsTable := false
      mindsSeparators := true
      preceding
      table := some table
      column := some draft
      tables := state.tables }

/-- The token that was read last tells whether the parser is behind `fk` or `df`. -/
def Phase.Follows (preceding : Option Token) : Phase → Prop
  | reference _ _ => preceding = some .foreignKey
  | default _ _ => preceding = some .default
  | _ => preceding ≠ some .foreignKey ∧ preceding ≠ some .default

/-- The machine is in a state of the parser. -/
def Machine.IsIn (machine : Machine) (state : State) : Prop :=
  ∃ preceding, state.phase.Follows preceding ∧ machine = ofState state preceding

/-- The parser and the machine fail alike, or the machine is in the state of the parser. -/
inductive Agree : Except Error State → Except Error Machine → Prop
  | error (error : Error) : Agree (.error error) (.error error)
  | ok {state : State} {machine : Machine} (h : machine.IsIn state) :
    Agree (.ok state) (.ok machine)

/-- What the parser and the machine make of one result or of one semantic error. -/
theorem Agree.lift {α : Type} {computation : Except SemanticError α} {f : α → State}
    {g : α → Machine} {mark : Machine → Machine} (h : ∀ a, (mark (g a)).IsIn (f a)) :
    Agree ((liftSemantic computation).map f) (((liftSemantic computation).map g).map mark) := by
  cases computation with
  | error cause => exact .error _
  | ok a => exact .ok (h a)

/-! ## Steps -/

namespace Machine

/-- A token that is not announced is dispatched. -/
theorem step_eq_dispatch (hopen : machine.mustOpenTable = false)
    (hforeign : machine.preceding ≠ some .foreignKey)
    (hdefault : machine.preceding ≠ some .default) :
    machine.step schema token =
      (machine.dispatch schema token).map fun next => { next with preceding := some token } := by
  simp [step, hopen, hforeign, hdefault]

/-- The open column is there if there is one. -/
theorem open_column_eq (h : machine.column = some draft) :
    machine.openColumn token = .ok draft := by
  rw [openColumn, h]

/-- Changing an open column. -/
theorem change_column_eq {change : Column.Draft → Except SemanticError Column.Draft}
    (h : machine.column = some draft) :
    machine.changeColumn token change =
      (liftSemantic (change draft)).map fun changed => { machine with column := some changed } := by
  rw [changeColumn, open_column_eq h]
  show (liftSemantic (change draft) >>= _) = _
  cases liftSemantic (change draft) <;> rfl

/-- Completing an open column. -/
theorem finish_column_eq (hcolumn : machine.column = some draft)
    (htable : machine.table = some table) :
    machine.finishColumn =
      (liftSemantic (draft.finish table.label)).map fun column =>
        { machine with
          column := none
          table := some (table.add column)
          mindsSeparators := false } := by
  rw [finishColumn, hcolumn, label?, htable]
  show (liftSemantic (draft.finish table.label) >>= _) = _
  cases liftSemantic (draft.finish table.label) <;> rfl

end Machine

/-- One token outside of all tables. -/
theorem step_between_agrees {tables : List Table} {preceding : Option Token}
    (h : Phase.betweenTables.Follows preceding) :
    Agree (step schema ⟨tables, .betweenTables⟩ token)
      ((Machine.ofState ⟨tables, .betweenTables⟩ preceding).step schema token) := by
  rw [Machine.step_eq_dispatch rfl h.1 h.2]
  cases token with
  | comma | newLine | name | reference => exact .ok ⟨_, ⟨by simp, by simp⟩, rfl⟩
  | _ => exact .error _

/-- One token behind a header. The machine does not keep it. -/
theorem step_header_agrees {tables : List Table} {preceding : Option Token}
    (h : (Phase.header table).Follows preceding) :
    Agree (step schema ⟨tables, .header table⟩ token)
      ((Machine.ofState ⟨tables, .header table⟩ preceding).step schema token) := by
  cases token with
  | openTable | newLine => exact .ok ⟨preceding, h, rfl⟩
  | _ => exact .error _

/-- One token inside a table and outside of its columns. -/
theorem step_body_agrees {tables : List Table} {preceding : Option Token}
    (h : (Phase.body table).Follows preceding) :
    Agree (step schema ⟨tables, .body table⟩ token)
      ((Machine.ofState ⟨tables, .body table⟩ preceding).step schema token) := by
  rw [Machine.step_eq_dispatch rfl h.1 h.2]
  cases token with
  | comma | newLine | name | closeTable => exact .ok ⟨_, ⟨by simp, by simp⟩, rfl⟩
  | _ => exact .error _

/-- One token that changes a column, and leads behind `fk` or `df` or into the column. -/
theorem change_agrees {tables : List Table} {preceding : Option Token} (asked : Token)
    {change : Column.Draft → Except SemanticError Column.Draft} {phase : Column.Draft → Phase}
    (hfollows : ∀ changed, (phase changed).Follows (some token))
    (hphase : ∀ changed, Machine.ofState ⟨tables, phase changed⟩ (some token) =
      Machine.ofState ⟨tables, .column table changed⟩ (some token)) :
    Agree ((liftSemantic (change draft)).map fun changed => ⟨tables, phase changed⟩)
      (((Machine.ofState ⟨tables, .column table draft⟩ preceding).changeColumn asked change).map
        fun next => { next with preceding := some token }) := by
  have hcolumn :
      (Machine.ofState ⟨tables, .column table draft⟩ preceding).column = some draft := rfl
  rw [Machine.change_column_eq hcolumn]
  exact .lift fun changed => ⟨_, hfollows changed, (hphase changed).symm⟩

/-- One token inside a column. -/
theorem step_column_agrees {tables : List Table} {preceding : Option Token}
    (h : (Phase.column table draft).Follows preceding) :
    Agree (step schema ⟨tables, .column table draft⟩ token)
      ((Machine.ofState ⟨tables, .column table draft⟩ preceding).step schema token) := by
  have hfinish : (Machine.ofState ⟨tables, .column table draft⟩ preceding).finishColumn = _ :=
    Machine.finish_column_eq rfl rfl
  rw [Machine.step_eq_dispatch rfl h.1 h.2]
  cases token with
  | comma | newLine =>
      show Agree (((liftSemantic (draft.finish table.label)).map table.add).map _)
        ((Machine.ofState ⟨tables, .column table draft⟩ preceding).finishColumn.map _)
      rw [hfinish]
      cases draft.finish table.label with
      | error cause => exact .error _
      | ok column => exact .ok ⟨_, ⟨by simp, by simp⟩, rfl⟩
  | closeTable =>
      show Agree (((liftSemantic (draft.finish table.label)).map table.add).map _)
        (((Machine.ofState ⟨tables, .column table draft⟩ preceding).finishColumn >>= _).map _)
      rw [hfinish]
      cases draft.finish table.label with
      | error cause => exact .error _
      | ok column => exact .ok ⟨_, ⟨by simp, by simp⟩, rfl⟩
  | dataType | unique => exact .ok ⟨_, ⟨by simp, by simp⟩, rfl⟩
  | default => exact .ok ⟨_, rfl, rfl⟩
  | primaryKey | null | autoGenerate =>
      exact change_agrees _ (fun _ => ⟨by simp, by simp⟩) fun _ => rfl
  | value text => exact change_agrees (.value text) (fun _ => ⟨by simp, by simp⟩) fun _ => rfl
  | foreignKey => exact change_agrees _ (fun _ => rfl) fun _ => rfl
  | name text =>
      -- a name inside of a column is a maximum length or an error
      show Agree (if text.toList.all Char.isDigit then _ else _)
        (Except.map _ (if text.toList.all Char.isDigit then _ else _))
      split
      · exact change_agrees _ (fun _ => ⟨by simp, by simp⟩) fun _ => rfl
      · exact .error _
  | reference | openTable => exact .error _

/-- One token behind `fk`. -/
theorem step_reference_agrees {tables : List Table} {preceding : Option Token}
    (h : (Phase.reference table draft).Follows preceding) :
    Agree (step schema ⟨tables, .reference table draft⟩ token)
      ((Machine.ofState ⟨tables, .reference table draft⟩ preceding).step schema token) := by
  obtain rfl := h
  cases token with
  | reference => exact .ok ⟨_, ⟨by simp, by simp⟩, rfl⟩
  | _ => exact .error _

/-- One token behind `df`. -/
theorem step_default_agrees {tables : List Table} {preceding : Option Token}
    (h : (Phase.default table draft).Follows preceding) :
    Agree (step schema ⟨tables, .default table draft⟩ token)
      ((Machine.ofState ⟨tables, .default table draft⟩ preceding).step schema token) := by
  obtain rfl := h
  cases token with
  | value => exact .ok ⟨_, ⟨by simp, by simp⟩, rfl⟩
  | _ => exact .error _

/-- The parser and the machine take the same steps. -/
theorem step_agrees (h : machine.IsIn state) (token : Token) :
    Agree (step schema state token) (machine.step schema token) := by
  obtain ⟨preceding, hfollows, rfl⟩ := h
  obtain ⟨tables, phase⟩ := state
  cases phase with
  | betweenTables => exact step_between_agrees hfollows
  | header table => exact step_header_agrees hfollows
  | body table => exact step_body_agrees hfollows
  | column table draft => exact step_column_agrees hfollows
  | reference table draft => exact step_reference_agrees hfollows
  | default table draft => exact step_default_agrees hfollows

/-! ## Runs -/

/-- The parser and the machine agree after any number of tokens. -/
theorem run_agrees (schema : String) (h : machine.IsIn state) (tokens : List Token) :
    Agree (tokens.foldlM (step schema) state) (tokens.foldlM (Machine.step schema) machine) := by
  induction tokens generalizing state machine with
  | nil => exact .ok h
  | cons token tokens ih =>
      rw [List.foldlM_cons, List.foldlM_cons]
      have hstep : Agree (step schema state token) (machine.step schema token) :=
        step_agrees h token
      generalize step schema state token = parsed, machine.step schema token = taken at hstep
      cases hstep with
      | error error => exact .error error
      | ok h => exact ih h

/-- At the beginning the machine is in the initial state. -/
theorem initial_is_in : Machine.IsIn {} .initial :=
  ⟨none, ⟨by simp, by simp⟩, rfl⟩

/-- The machine concludes a text as the parser does. -/
theorem Machine.IsIn.conclude_eq (h : machine.IsIn state) : machine.conclude = state.conclude := by
  obtain ⟨preceding, -, rfl⟩ := h
  obtain ⟨tables, phase⟩ := state
  cases phase <;> rfl

/-- The machine parses all texts as the parser does. -/
theorem machine_parse_eq (schema text : String) :
    Machine.parse schema text = parse schema text := by
  unfold Machine.parse parse
  obtain ⟨tokens, failure⟩ := Token.scan text
  have hrun := run_agrees schema initial_is_in tokens
  dsimp only
  generalize tokens.foldlM (step schema) .initial = parsed,
    tokens.foldlM (Machine.step schema) {} = taken at hrun
  cases hrun with
  | error error => rfl
  | ok h =>
      cases failure with
      | some fault => rfl
      | none => exact h.conclude_eq

end Schemata.Definition
