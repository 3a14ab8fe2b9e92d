import Schemata.Proofs.Definition.Machine
import Schemata.Proofs.Token.Faults

/-!
# The flags of the machine never contradict each other

Every state that the parser reaches is sound: a table in front of its brace has no columns, and the
draft of a column holds no two modifiers that the parser refuses together. What holds of the states
carries over to the flags of the machine, by `machine_coherent`. Several checks that the machine
makes can therefore never fail, and its errors always find the table or the column that they name.
-/

namespace Schemata

/-! ## Drafts without contradictions -/

/-- The modifiers of a column that were read so far do not contradict each other, and the column has
a name. A default value on an automatically generated column is not noticed yet. -/
structure Column.Draft.Consistent (draft : Column.Draft) : Prop where
  keys : ¬ (draft.primaryKey = true ∧ draft.foreignKey.isSome = true)
  nulls : ¬ (draft.primaryKey = true ∧ draft.nullable = true)
  generated : draft.autoGenerate = true → draft.primaryKey = true
  named : draft.name ≠ ""

namespace Column.Draft.Consistent

variable {draft : Column.Draft}

/-- A column of which only the name is known. -/
theorem of_name {name : String} (h : name ≠ "") : (Column.Draft.ofName name).Consistent where
  keys := by simp [Column.Draft.ofName]
  nulls := by simp [Column.Draft.ofName]
  generated := by simp [Column.Draft.ofName]
  named := h

/-- The only conflict of a consistent draft is a default value on an automatically generated
column. -/
theorem conflict (h : draft.Consistent) {conflict : Conflict}
    (hconflict : draft.toModifiers.conflict? = some conflict) :
    conflict = .defaultOnAutoGenerate ∧ draft.autoGenerate = true ∧
      draft.defaultValue.isSome = true := by
  simp only [Modifiers.conflict?, Bool.and_eq_true, Bool.not_eq_true'] at hconflict
  split at hconflict
  · next hboth => exact absurd hboth h.keys
  · split at hconflict
    · next hboth => exact absurd hboth h.nulls
    · split at hconflict
      · next hboth => simp [h.generated hboth.1] at hboth
      · split at hconflict
        · next hboth => exact ⟨(Option.some.inj hconflict).symm, hboth⟩
        · cases hconflict

/-- Completing a consistent draft fails if it has no data type, or a default value although it is
generated automatically. -/
theorem finish_error (h : draft.Consistent) {label : String} {cause : SemanticError}
    (hfinish : draft.finish label = .error cause) :
    (draft.dataType = none ∧ cause = .incompleteColumn label draft.name) ∨
      (draft.autoGenerate = true ∧ draft.defaultValue.isSome = true ∧
        cause = .defaultOnAutoGenerate draft.name) := by
  unfold finish at hfinish
  split at hfinish
  · next htype => exact .inl ⟨htype, (Except.error.inj hfinish).symm⟩
  · split at hfinish
    · next hempty => exact absurd (by simpa using hempty) h.named
    · unfold ofSpec at hfinish
      split at hfinish
      · next conflict hconflict =>
          obtain ⟨rfl, hgenerated⟩ := h.conflict hconflict
          exact .inr ⟨hgenerated.1, hgenerated.2, (Except.error.inj hfinish).symm⟩
      · cases hfinish

end Column.Draft.Consistent

namespace Definition

variable {schema : String} {state : State} {machine : Machine} {table : OpenTable}
  {draft : Column.Draft} {token : Token}

/-- A consistent draft stays consistent when an item is read. -/
theorem read_consistent {item : Item} {read : Column.Draft} (hdraft : draft.Consistent)
    (h : item.read schema draft = .ok read) : read.Consistent := by
  obtain ⟨hkeys, hnulls, hgenerated, hnamed⟩ := hdraft
  cases item with
  | dataType | unique | default =>
      cases h
      exact ⟨hkeys, hnulls, hgenerated, hnamed⟩
  | primaryKey =>
      simp only [Item.read, Column.Draft.withPrimaryKey] at h
      split at h
      · cases h
      · next hforeign =>
          split at h
          · cases h
          · next hnull =>
              cases h
              exact ⟨fun h => hforeign h.2, fun h => hnull h.2, fun _ => rfl, hnamed⟩
  | null =>
      simp only [Item.read, Column.Draft.withNull] at h
      split at h
      · cases h
      · next hprimary =>
          cases h
          exact ⟨hkeys, fun h => hprimary h.1, hgenerated, hnamed⟩
  | autoGenerate =>
      simp only [Item.read, Column.Draft.withAutoGenerate] at h
      split at h
      · next hprimary =>
          cases h
          exact ⟨hkeys, hnulls, fun _ => hprimary, hnamed⟩
      · cases h
  | foreignKey table column =>
      simp only [Item.read, map_eq_ok_iff, before_foreign_key_iff] at h
      obtain ⟨_, ⟨hprimary, rfl⟩, rfl⟩ := h
      refine ⟨fun h => ?_, hnulls, hgenerated, hnamed⟩
      exact absurd (hprimary.symm.trans h.1) (by decide)
  | length text =>
      simp only [Item.read, Column.Draft.withLength] at h
      split at h
      · cases h
        exact ⟨hkeys, hnulls, hgenerated, hnamed⟩
      · cases h

/-! ## Phases that are reached -/

/-- What the parser knows in a phase: a table whose brace is missing has no columns, the drafts of
columns are consistent, and a column behind `fk` is not the primary key. -/
def Phase.Sound : Phase → Prop
  | betweenTables | body _ => True
  | header table => table.columns = []
  | column _ draft | default _ draft => draft.Consistent
  | reference _ draft => draft.Consistent ∧ draft.primaryKey = false

/-- A step leads to a sound phase. -/
theorem step_sound {next : State} (hname : token ≠ .name "") (hsound : state.phase.Sound)
    (h : step schema state token = .ok next) : next.phase.Sound := by
  obtain ⟨tables, phase⟩ := state
  cases phase with
  | betweenTables =>
      simp only [step, map_eq_ok_iff, step_between_iff] at h
      obtain ⟨_, ⟨-, rfl⟩ | ⟨_, _, -, rfl⟩, rfl⟩ := h
      · trivial
      · rfl
  | header table =>
      simp only [step, map_eq_ok_iff, step_header_iff] at h
      obtain ⟨_, ⟨-, rfl⟩ | ⟨-, rfl⟩, rfl⟩ := h
      · exact hsound
      · trivial
  | body table =>
      simp only [step, step_body_iff] at h
      obtain ⟨-, rfl⟩ | ⟨name, rfl, rfl⟩ | ⟨-, rfl⟩ := h
      · trivial
      · exact .of_name fun hempty => hname (congrArg _ hempty)
      · trivial
  | column table draft =>
      simp only [step, step_column_iff schema] at h
      obtain ⟨-, column, -, rfl⟩ | ⟨-, column, -, rfl⟩ | ⟨item, -, read, hread, rfl⟩ |
        ⟨-, hprimary, rfl⟩ | ⟨-, rfl⟩ := h
      · trivial
      · trivial
      · exact read_consistent hsound hread
      · exact ⟨hsound, hprimary⟩
      · exact hsound
  | reference table draft =>
      simp only [step, map_eq_ok_iff, step_reference_iff] at h
      obtain ⟨_, ⟨target, column, -, rfl⟩, rfl⟩ := h
      obtain ⟨hdraft, hprimary⟩ := hsound
      have hread : (Item.foreignKey target column).read schema draft = .ok _ :=
        map_eq_ok_iff.2 ⟨draft, before_foreign_key_iff.2 ⟨hprimary, rfl⟩, rfl⟩
      exact read_consistent hdraft hread
  | default table draft =>
      simp only [step, map_eq_ok_iff, step_default_iff] at h
      obtain ⟨_, ⟨value, -, rfl⟩, rfl⟩ := h
      have hread : (Item.default value).read schema draft = .ok (draft.withDefault value) := rfl
      exact read_consistent hsound hread

/-- All phases that the parser reaches are sound. -/
theorem Runs.sound {next : State} {tokens : List Token} (hnames : .name "" ∉ tokens)
    (hsound : state.phase.Sound) (h : Runs schema state tokens next) : next.phase.Sound := by
  induction tokens generalizing state with
  | nil =>
      cases h
      exact hsound
  | cons token tokens ih =>
      rw [Runs, List.foldlM_cons, bind_eq_ok_iff] at h
      obtain ⟨middle, hstep, hrest⟩ := h
      rw [List.mem_cons, not_or] at hnames
      exact ih hnames.2 (step_sound (Ne.symm hnames.1) hsound hstep) hrest

/-- The names that are scanned are not empty, also in front of a lexical error. -/
theorem scanned_names (text : String) : .name "" ∉ (Token.scan text).tokens := by
  cases hfailure : (Token.scan text).failure with
  | some fault =>
      obtain ⟨front, _, _, -, -, -, -, hspelling⟩ := Token.scan_from_fault hfailure
      exact names_not_empty hspelling
  | none => exact names_not_empty (Token.scan_from_sound hfailure)

/-! ## Machines that are reached -/

namespace Machine

/-- The machine has taken tokens of a text, from the first one on. -/
def Reached (schema text : String) (machine : Machine) : Prop :=
  ∃ taken rest, (Token.scan text).tokens = taken ++ rest ∧
    taken.foldlM (step schema) {} = .ok machine

/-- The flags of the machine and what it keeps do not contradict each other. -/
structure Coherent (machine : Machine) : Prop where
  expectsTable : machine.expectsTable = true ↔ machine.table = none
  mustOpenTable : machine.mustOpenTable = true →
    (∃ table, machine.table = some table ∧ table.columns = []) ∧ machine.column = none
  mindsSeparators : machine.mindsSeparators = true ↔ machine.column.isSome = true
  inTable : machine.column.isSome = true → machine.table.isSome = true
  announced : machine.preceding = some .foreignKey ∨ machine.preceding = some .default →
    machine.column.isSome = true
  reference : machine.preceding = some .foreignKey →
    ∀ draft, machine.column = some draft → draft.primaryKey = false
  consistent : ∀ draft, machine.column = some draft → draft.Consistent

/-- A machine that is reached is in a sound state of the parser. -/
theorem Reached.is_in {text : String} (h : machine.Reached schema text) :
    ∃ state, machine.IsIn state ∧ state.phase.Sound := by
  obtain ⟨taken, rest, htokens, hrun⟩ := h
  have hagrees := run_agrees schema initial_is_in taken
  rw [hrun] at hagrees
  generalize hparsed : taken.foldlM (Definition.step schema) .initial = parsed at hagrees
  cases hagrees with
  | @ok state _ hin =>
      have hnames : .name "" ∉ taken := by
        intro hmem
        refine scanned_names text ?_
        rw [htokens]
        exact List.mem_append_left rest hmem
      have hinitial : State.initial.phase.Sound := trivial
      exact ⟨state, hin, Runs.sound hnames hinitial hparsed⟩

/-- In a sound state of the parser the machine is coherent. -/
theorem IsIn.coherent (h : machine.IsIn state) (hsound : state.phase.Sound) :
    machine.Coherent := by
  obtain ⟨preceding, hfollows, rfl⟩ := h
  obtain ⟨tables, phase⟩ := state
  -- all flags have fixed values in a phase
  cases phase with
  | betweenTables | body =>
      obtain ⟨hforeign, hdefault⟩ := hfollows
      constructor <;> simp [ofState, hforeign, hdefault]
  | header table =>
      obtain ⟨hforeign, hdefault⟩ := hfollows
      have hcolumns : table.columns = [] := hsound
      constructor <;> simp [ofState, hforeign, hdefault, hcolumns]
  | column table draft =>
      obtain ⟨hforeign, hdefault⟩ := hfollows
      have hdraft : draft.Consistent := hsound
      constructor <;> simp [ofState, hforeign, hdraft]
  | reference table draft =>
      obtain ⟨hdraft, hprimary⟩ := hsound
      constructor <;> simp [ofState, hdraft, hprimary]
  | default table draft =>
      have hdraft : draft.Consistent := hsound
      obtain rfl := hfollows
      constructor <;> simp [ofState, hdraft]

end Machine

/-! ## What never happens -/

/-- A missing brace is reported behind a header only, under the label of its table. -/
theorem expected_open_table_phase {label : String} {found : Token}
    (h : step schema state token = .error (.grammar (.expectedOpenTable label found))) :
    ∃ table, state.phase = .header table ∧ label = table.label := by
  obtain ⟨tables, phase⟩ := state
  cases phase with
  | betweenTables => cases token <;> simp [step, stepBetween, Except.map] at h
  | header table =>
      cases token <;> simp [step, stepHeader, Except.map] at h <;>
        exact ⟨table, rfl, h.1.symm⟩
  | body table => cases token <;> simp [step, stepBody] at h
  | column table draft =>
      cases token with
      | name text =>
          simp only [step, stepColumn] at h
          split at h
          · simp [map_eq_error_iff, lift_eq_error_iff] at h
          · simp at h
      | _ => simp [step, stepColumn, map_eq_error_iff, lift_eq_error_iff] at h
  | reference table draft => cases token <;> simp [step, stepReference, Except.map] at h
  | default table draft => cases token <;> simp [step, stepDefault, Except.map] at h

namespace Machine

variable {found : Token}

/-- Behind `fk` a column is open. -/
theorem Coherent.attach_foreign_key (h : machine.Coherent)
    (hpreceding : machine.preceding = some .foreignKey) {label : Option String} :
    machine.attachForeignKey schema token ≠ .error (.grammar (.outsideColumn found label)) := by
  obtain ⟨draft, hdraft⟩ := Option.isSome_iff_exists.1 (h.announced (.inl hpreceding))
  rw [attachForeignKey, open_column_eq hdraft]
  cases token <;> simp [bind, Except.bind, pure, Except.pure]

/-- Behind `df` a column is open. -/
theorem Coherent.attach_default (h : machine.Coherent)
    (hpreceding : machine.preceding = some .default) {label : Option String} :
    machine.attachDefault token ≠ .error (.grammar (.outsideColumn found label)) := by
  obtain ⟨draft, hdraft⟩ := Option.isSome_iff_exists.1 (h.announced (.inr hpreceding))
  rw [attachDefault, open_column_eq hdraft]
  cases token <;> simp [bind, Except.bind, pure, Except.pure]

/-- A missing brace is reported under the label of the open table. -/
theorem IsIn.expected_open_table {state : State} (h : machine.IsIn state) {label : String}
    (hstep : machine.step schema token = .error (.grammar (.expectedOpenTable label found))) :
    ∃ table, machine.table = some table ∧ label = table.label := by
  have hagrees : Agree (Definition.step schema state token) (machine.step schema token) :=
    step_agrees h token
  rw [hstep] at hagrees
  generalize hparsed : Definition.step schema state token = parsed at hagrees
  cases hagrees with
  | error =>
      obtain ⟨table, hphase, hlabel⟩ := expected_open_table_phase hparsed
      obtain ⟨preceding, -, rfl⟩ := h
      refine ⟨table, ?_, hlabel⟩
      rw [ofState, hphase]

/-- Completing the open column fails if it has no data type, or a default value although it is
generated automatically. -/
theorem Coherent.finish_column (h : machine.Coherent) {error : Error}
    (hfinish : machine.finishColumn = .error error) :
    ∃ table draft, machine.table = some table ∧ machine.column = some draft ∧
      ((draft.dataType = none ∧ error = .semantic (.incompleteColumn table.label draft.name)) ∨
        (draft.autoGenerate = true ∧ draft.defaultValue.isSome = true ∧
          error = .semantic (.defaultOnAutoGenerate draft.name))) := by
  cases hcolumn : machine.column with
  | none =>
      rw [finishColumn, hcolumn] at hfinish
      cases hfinish
  | some draft =>
      obtain ⟨table, htable⟩ := Option.isSome_iff_exists.1 (h.inTable (by simp [hcolumn]))
      rw [finish_column_eq hcolumn htable, map_eq_error_iff, lift_eq_error_iff] at hfinish
      obtain ⟨cause, hcause, rfl⟩ := hfinish
      refine ⟨table, draft, htable, rfl, ?_⟩
      rcases (h.consistent draft hcolumn).finish_error hcause with
        ⟨htype, rfl⟩ | ⟨hgenerated, hvalue, rfl⟩
      · exact .inl ⟨htype, rfl⟩
      · exact .inr ⟨hgenerated, hvalue, rfl⟩

end Machine

/-- The machine parses all texts as the parser does. After any number of tokens its flags are
coherent. So behind `fk` and behind `df` a column is always open, a missing brace is always reported
under the label of a table, a name is never read where neither a table is open nor one is expected,
and a column that ends is refused only if it has no data type, or if it is generated automatically
and has a default value. -/
theorem machine_coherent (schema text : String) :
    Machine.parse schema text = parse schema text ∧
    ∀ machine : Machine, machine.Reached schema text →
      machine.Coherent ∧
      (∀ token found label, machine.preceding = some .foreignKey →
        machine.attachForeignKey schema token ≠ .error (.grammar (.outsideColumn found label))) ∧
      (∀ token found label, machine.preceding = some .default →
        machine.attachDefault token ≠ .error (.grammar (.outsideColumn found label))) ∧
      (∀ token label found,
        machine.step schema token = .error (.grammar (.expectedOpenTable label found)) →
        ∃ table, machine.table = some table ∧ label = table.label) ∧
      ¬ (machine.expectsTable = false ∧ machine.column = none ∧ machine.table = none) ∧
      ∀ error, machine.finishColumn = .error error →
        ∃ table draft, machine.table = some table ∧ machine.column = some draft ∧
          ((draft.dataType = none ∧ error = .semantic (.incompleteColumn table.label draft.name)) ∨
            (draft.autoGenerate = true ∧ draft.defaultValue.isSome = true ∧
              error = .semantic (.defaultOnAutoGenerate draft.name))) := by
  refine ⟨machine_parse_eq schema text, fun machine hreached => ?_⟩
  obtain ⟨state, hin, hsound⟩ := hreached.is_in
  have hcoherent := hin.coherent hsound
  refine ⟨hcoherent, ?_, ?_, ?_, ?_, ?_⟩
  · exact fun token found label hpreceding => hcoherent.attach_foreign_key hpreceding
  · exact fun token found label hpreceding => hcoherent.attach_default hpreceding
  · exact fun token label found hstep => hin.expected_open_table hstep
  · rintro ⟨hexpects, -, htable⟩
    rw [hcoherent.expectsTable.2 htable] at hexpects
    cases hexpects
  · exact fun error hfinish => hcoherent.finish_column hfinish

/-- Behind `fk` the column that is being read is open, and it is not the primary key. -/
theorem machine_behind_foreign_key :
    ∃ machine : Machine,
      machine.Reached "public" "t \x7b id int fk u.id \x7d" ∧
      machine.preceding = some .foreignKey ∧
      ∃ draft, machine.column = some draft ∧ draft.primaryKey = false ∧ draft.Consistent := by
  have htaken : ∃ machine : Machine,
      [Token.name "t", .openTable, .name "id", .dataType .int, .foreignKey].foldlM
        (Machine.step "public") {} = .ok machine ∧ machine.preceding = some .foreignKey :=
    exists_eq_ok (by decide +kernel)
  obtain ⟨machine, hrun, hpreceding⟩ := htaken
  have hreached : machine.Reached "public" "t \x7b id int fk u.id \x7d" :=
    ⟨_, [.reference "u" "id", .closeTable], by decide +kernel, hrun⟩
  obtain ⟨hcoherent, -⟩ := (machine_coherent "public" _).2 machine hreached
  obtain ⟨draft, hdraft⟩ := Option.isSome_iff_exists.1 (hcoherent.announced (.inl hpreceding))
  exact ⟨machine, hreached, hpreceding, draft, hdraft, hcoherent.reference hpreceding draft hdraft,
    hcoherent.consistent draft hdraft⟩

end Definition

end Schemata
