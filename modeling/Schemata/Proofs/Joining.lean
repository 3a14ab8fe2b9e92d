import Schemata.Proofs.Bundle
import Schemata.Proofs.Definition.Parsing
import Schemata.Proofs.Token.Joining

/-!
# Definition texts one below the other

A definition text that parses leaves the parser as it found it, outside of all tables, and a step of
the parser does not look at the tables that are finished. So a text can be parsed below another one
as it is parsed on its own, and by `texts_join` a batch can be written into one text. A text that
does not parse fails in the same way whatever is written below it, unless it just ends too early.
-/

namespace Schemata

/-- The error when lines are put above its text. Only lexical errors have a place. -/
def Error.below (lines : Nat) : Error → Error
  | lexical cause => lexical (cause.below lines)
  | error => error

/-- The error says that the text ends too early, inside of a table or of a value. -/
def Error.isUnterminated : Error → Bool
  | lexical cause => cause.isUnterminated
  | grammar (.unterminatedTable _) => true
  | _ => false

namespace Definition

variable {schema : String} {state : State} {earlier tables : List Table} {tokens : List Token}
  {token : Token} {error : Error}

/-! ## Finished tables -/

/-- The state when other tables were finished before. -/
def State.behind (earlier : List Table) (state : State) : State :=
  { state with tables := earlier ++ state.tables }

/-- Finishing a table behind other tables. -/
theorem finish_behind (table : OpenTable) :
    (state.behind earlier).finish table = (state.finish table).behind earlier := by
  simp only [State.finish, State.behind, List.append_assoc]

/-- A step inside of a column does not look at finished tables. -/
theorem step_column_behind (table : OpenTable) (draft : Column.Draft) :
    stepColumn (state.behind earlier) table draft token =
      (stepColumn state table draft token).map (·.behind earlier) := by
  cases token with
  | comma | newLine =>
      simp only [stepColumn]
      cases draft.finish table.label <;> rfl
  | closeTable =>
      simp only [stepColumn]
      cases draft.finish table.label with
      | error cause => rfl
      | ok column => exact congrArg Except.ok (finish_behind (table.add column))
  | primaryKey =>
      simp only [stepColumn]
      cases draft.withPrimaryKey <;> rfl
  | null =>
      simp only [stepColumn]
      cases draft.withNull <;> rfl
  | autoGenerate =>
      simp only [stepColumn]
      cases draft.withAutoGenerate <;> rfl
  | foreignKey =>
      simp only [stepColumn]
      cases draft.beforeForeignKey <;> rfl
  | value text =>
      simp only [stepColumn]
      cases draft.withLength text <;> rfl
  | name text =>
      simp only [stepColumn]
      split
      · cases draft.withLength text <;> rfl
      · rfl
  | dataType | unique | default | reference | openTable => rfl

/-- A step of the parser does not look at finished tables. -/
theorem step_behind :
    step schema (state.behind earlier) token =
      (step schema state token).map (·.behind earlier) := by
  obtain ⟨tables, phase⟩ := state
  cases phase with
  | betweenTables =>
      show (stepBetween schema token).map _ = ((stepBetween schema token).map _).map _
      cases stepBetween schema token <;> rfl
  | header table =>
      show (stepHeader table token).map _ = ((stepHeader table token).map _).map _
      cases stepHeader table token <;> rfl
  | body table =>
      cases token with
      | closeTable => exact congrArg Except.ok (finish_behind table)
      | _ => rfl
  | column table draft => exact step_column_behind table draft
  | reference table draft =>
      show (stepReference schema table draft token).map _ =
        ((stepReference schema table draft token).map _).map _
      cases stepReference schema table draft token <;> rfl
  | default table draft =>
      show (stepDefault table draft token).map _ = ((stepDefault table draft token).map _).map _
      cases stepDefault table draft token <;> rfl

/-- A run of the parser does not look at finished tables. -/
theorem run_behind :
    tokens.foldlM (step schema) (state.behind earlier) =
      (tokens.foldlM (step schema) state).map (·.behind earlier) := by
  induction tokens generalizing state with
  | nil => rfl
  | cons token tokens ih =>
      rw [List.foldlM_cons, List.foldlM_cons, step_behind]
      cases step schema state token with
      | error cause => rfl
      | ok next => exact ih

/-! ## Errors of the parser -/

/-- A step of the parser reports no lexical errors. -/
theorem step_error_below (lines : Nat) (h : step schema state token = .error error) :
    error.below lines = error := by
  have hlift {α : Type} {computation : Except SemanticError α}
      (hcomputation : Error.liftSemantic computation = .error error) :
      error.below lines = error := by
    obtain ⟨cause, -, rfl⟩ := lift_eq_error_iff.1 hcomputation
    rfl
  unfold step at h
  split at h
  · rw [map_eq_error_iff] at h
    cases token <;> cases h <;> rfl
  · rw [map_eq_error_iff] at h
    cases token <;> cases h <;> rfl
  · cases token <;> cases h <;> rfl
  · cases token with
    | comma | newLine | closeTable | primaryKey | null | autoGenerate | foreignKey | value =>
        simp only [stepColumn, map_eq_error_iff] at h
        exact hlift h
    | name text =>
        simp only [stepColumn] at h
        split at h
        · rw [map_eq_error_iff] at h
          exact hlift h
        · cases h
          rfl
    | dataType | unique | default => cases h
    | reference | openTable =>
        cases h
        rfl
  · rw [map_eq_error_iff] at h
    cases token <;> cases h <;> rfl
  · rw [map_eq_error_iff] at h
    cases token <;> cases h <;> rfl

/-- A run of the parser reports no lexical errors. -/
theorem run_error_below (lines : Nat) (h : tokens.foldlM (step schema) state = .error error) :
    error.below lines = error := by
  induction tokens generalizing state with
  | nil => cases h
  | cons token tokens ih =>
      rw [List.foldlM_cons, bind_eq_error_iff] at h
      rcases h with hstep | ⟨next, -, hrest⟩
      · exact step_error_below lines hstep
      · exact ih hrest

/-! ## The result of a scan -/

/-- What the parser makes of a scan if it goes on from the given state. -/
def outcome (schema : String) (state : State) (scan : Token.Scan) : Except Error (List Table) := do
  let last ← scan.tokens.foldlM (step schema) state
  match scan.failure with
  | some fault => .error (.lexical fault)
  | none => last.conclude

/-- Parsing a text goes on from the initial state. -/
theorem parse_eq_outcome (schema text : String) :
    parse schema text = outcome schema .initial (Token.scan text) :=
  rfl

/-- A run in front of the other tokens of a scan. -/
theorem outcome_append {next : State} (h : Runs schema state tokens next) (rest : List Token)
    (failure : Option LexError) :
    outcome schema state ⟨tokens ++ rest, failure⟩ = outcome schema next ⟨rest, failure⟩ := by
  simp only [outcome, List.foldlM_append]
  rw [show tokens.foldlM (step schema) state = .ok next from h]
  rfl

/-- The tables finished before stand in front of those of the scan. -/
theorem outcome_behind (scan : Token.Scan) :
    outcome schema (state.behind earlier) scan =
      (outcome schema state scan).map (earlier ++ ·) := by
  simp only [outcome, run_behind]
  cases scan.tokens.foldlM (step schema) state with
  | error cause => rfl
  | ok last =>
      obtain ⟨tables, phase⟩ := last
      cases scan.failure with
      | some fault => rfl
      | none => cases phase <;> rfl

/-- A scan below other lines has its lexical error on a lower line, and nothing else changes. -/
theorem outcome_below (lines : Nat) (state : State) (tokens : List Token)
    (failure : Option LexError) :
    outcome schema state ⟨tokens, failure.map (LexError.below lines)⟩ =
      (outcome schema state ⟨tokens, failure⟩).mapError (Error.below lines) := by
  unfold outcome
  cases hrun : tokens.foldlM (step schema) state with
  | error cause =>
      show Except.error cause = .error (cause.below lines)
      rw [run_error_below lines hrun]
  | ok last =>
      obtain ⟨tables, phase⟩ := last
      cases failure with
      | some fault => rfl
      | none => cases phase <;> rfl

/-! ## A text below another one -/

/-- A line break leads to a state outside of all tables only from there. -/
theorem step_new_line (h : step schema state .newLine = .ok ⟨tables, .betweenTables⟩) :
    state = ⟨tables, .betweenTables⟩ := by
  obtain ⟨found, phase⟩ := state
  cases phase with
  | betweenTables => exact Except.ok.inj h
  | column table draft =>
      obtain ⟨_, -, hnext⟩ := map_eq_ok_iff.1 h
      cases hnext
  | header | body | reference | default => cases h

/-- A text below a text that parses is parsed as it is on its own: its tables stand behind those of
the upper text, and a lexical error is as many lines lower as the upper text has. -/
theorem parse_below {upper : String} (h : parse schema upper = .ok tables) (lower : String) :
    parse schema (upper ++ "\n" ++ lower) =
      ((parse schema lower).mapError (Error.below (1 + upper.toList.count '\n'))).map
        (tables ++ ·) := by
  obtain ⟨tokens, hscan, hruns⟩ := parse_runs_iff.1 h
  obtain ⟨hfailure, rfl⟩ : (Token.scan upper).failure = none ∧
      (Token.scan upper).tokens = tokens := by
    unfold Token.tokenize at hscan
    split at hscan
    · cases hscan
    · next hupper =>
        cases hscan
        simp [hupper]
  obtain ⟨before, after, hbefore, hafter, hboth⟩ := Token.scan_joined hfailure lower
  -- a line break at the end of the upper text does not count
  have hupper : Runs schema .initial before ⟨tables, .betweenTables⟩ := by
    rcases hbefore with heq | heq
    · rwa [heq] at hruns
    · rw [heq, Runs, List.foldlM_append] at hruns
      obtain ⟨middle, hmiddle, hlast⟩ := bind_eq_ok_iff.1 hruns
      rw [List.foldlM_cons] at hlast
      obtain ⟨last, hstep, hlast⟩ := bind_eq_ok_iff.1 hlast
      cases hlast
      rwa [step_new_line hstep] at hmiddle
  -- neither does one at the beginning of the lower text
  have hlower : parse schema lower =
      outcome schema .initial ⟨after, (Token.scan lower).failure⟩ := by
    rw [parse_eq_outcome]
    generalize Token.scan lower = scan at hafter
    obtain ⟨tokens, failure⟩ := scan
    rcases hafter with rfl | rfl <;> rfl
  have hfront : (⟨tables, .betweenTables⟩ : State) = State.initial.behind tables := by
    rw [State.behind, State.initial, List.append_nil]
  calc parse schema (upper ++ "\n" ++ lower)
      = outcome schema ⟨tables, .betweenTables⟩ ⟨.newLine :: after,
          (Token.scan lower).failure.map (LexError.below (1 + upper.toList.count '\n'))⟩ := by
        rw [parse_eq_outcome, hboth, outcome_append hupper]
    _ = outcome schema ⟨tables, .betweenTables⟩ ⟨after,
          (Token.scan lower).failure.map (LexError.below (1 + upper.toList.count '\n'))⟩ := rfl
    _ = _ := by rw [hfront, outcome_behind, outcome_below, ← hlower]

/-- A text that does not parse fails in the same way with more lines below, unless it ends too
early. -/
theorem parse_fails_above {upper : String} (h : parse schema upper = .error error)
    (hends : error.isUnterminated = false) (lower : String) :
    parse schema (upper ++ "\n" ++ lower) = .error error := by
  have htext : (upper ++ "\n" ++ lower).toList = upper.toList ++ '\n' :: lower.toList := by simp
  obtain ⟨rest, hrest⟩ := Token.scan_tokens_stay .start upper.toList lower.toList
  rw [← htext] at hrest
  rw [parse_eq_outcome, outcome, bind_eq_error_iff] at h
  rcases h with hrun | ⟨last, hrun, hlast⟩
  · -- the token that does not fit comes before anything that depends on the lower text
    rw [parse_eq_outcome, outcome, Token.scan, ← hrest, List.foldlM_append]
    rw [show (Token.scanFrom .start upper.toList).tokens.foldlM (step schema) .initial =
      .error error from hrun]
    rfl
  · cases hfailure : (Token.scan upper).failure with
    | some fault =>
        simp only [hfailure] at hlast
        cases hlast
        have hsame := Token.scan_fault_stays hfailure hends
          (Token.line_feed_ends_word lower.toList)
        rw [← htext] at hsame
        rw [parse_eq_outcome, Token.scan, hsame, outcome]
        rw [show (Token.scanFrom .start upper.toList).tokens.foldlM (step schema) .initial =
          .ok last from hrun, show (Token.scanFrom .start upper.toList).failure = some fault from
          hfailure]
        rfl
    | none =>
        simp only [hfailure, State.conclude] at hlast
        split at hlast
        · cases hlast
        · cases hlast
          cases hends

/-! ## Batches -/

/-- A batch whose texts parse can be written into one text. -/
theorem parse_intercalate {texts : List String} {found : List (List Table)}
    (h : texts.mapM (parse schema) = .ok found) :
    parse schema ("\n".intercalate texts) = .ok found.flatten := by
  have hparsed := map_m_eq_ok_iff.1 h
  clear h
  induction hparsed with
  | nil =>
      show parse schema "" = .ok []
      rw [parse_eq_outcome, Token.scan, Token.scan_from_none rfl]
      rfl
  | @cons text tables texts found htext hrest ih =>
      cases hrest with
      | nil => simpa using htext
      | cons =>
          rw [String.intercalate_cons_cons, parse_below htext, ih]
          rfl

end Definition

open Definition (parse)

/-- A text below a text that parses adds its tables, or it fails as it does on its own, where a
lexical error is on a lower line. A text that does not parse fails in the same way with any text
below it, unless it ends inside of a table or of a value. So a batch whose texts parse yields what
its texts yield in one text, be it bundles or an error. -/
theorem texts_join :
    (∀ schema upper lower : String,
      (∀ tables, parse schema upper = .ok tables →
        (∀ more, parse schema lower = .ok more →
          parse schema (upper ++ "\n" ++ lower) = .ok (tables ++ more)) ∧
        ∀ error, parse schema lower = .error error →
          parse schema (upper ++ "\n" ++ lower) =
            .error (error.below (1 + upper.toList.count '\n'))) ∧
      ∀ error, parse schema upper = .error error → error.isUnterminated = false →
        parse schema (upper ++ "\n" ++ lower) = .error error) ∧
    ∀ (settings : Settings) (texts : List String),
      (∀ text ∈ texts, ∃ tables, parse settings.defaultSchema text = .ok tables) →
      generate settings texts = generate settings ["\n".intercalate texts] := by
  refine ⟨fun schema upper lower => ⟨fun tables hupper => ⟨?_, ?_⟩, ?_⟩, ?_⟩
  · intro more hlower
    rw [Definition.parse_below hupper, hlower]
    rfl
  · intro error hlower
    rw [Definition.parse_below hupper, hlower]
    rfl
  · intro error hupper hends
    exact Definition.parse_fails_above hupper hends lower
  · intro settings texts hparse
    have hall : ∃ found, texts.mapM (parse settings.defaultSchema) = .ok found := by
      rw [exists_ok_iff]
      intro cause hcause
      obtain ⟨_, text, _, rfl, -, hfails⟩ := map_m_eq_error_iff.1 hcause
      obtain ⟨tables, htables⟩ := hparse text (by simp)
      rw [htables] at hfails
      cases hfails
    obtain ⟨found, hfound⟩ := hall
    have hone : ["\n".intercalate texts].mapM (parse settings.defaultSchema) =
        .ok [found.flatten] :=
      map_m_eq_ok_iff.2 (.cons (Definition.parse_intercalate hfound) .nil)
    rw [generate, generate, hfound, hone]
    simp only [bind, Except.bind, List.flatten_singleton]

/-- Two tables in two texts or in one, a lexical error below a table and a blank line, and an error
above a text. -/
theorem two_texts_join :
    generate {} ["a \x7b id int pk \x7d", "b \x7b id guid pk \x7d"] =
      generate {} ["a \x7b id int pk \x7d\nb \x7b id guid pk \x7d"] ∧
    parse "public" ("a \x7b id int pk \x7d\n" ++ "\n" ++ "b \x7b $ \x7d") =
      .error (.lexical (.unexpectedChar '$' ⟨3, 5⟩)) ∧
    parse "public" ("a \x7b \x7d \x7d" ++ "\n" ++ "b [c") =
      .error (.grammar .closeOutsideTable) := by
  have hfirst : ∃ tables, parse "public" "a \x7b id int pk \x7d" = .ok tables ∧
      tables.length = 1 := exists_eq_ok (by decide +kernel)
  have hsecond : ∃ tables, parse "public" "b \x7b id guid pk \x7d" = .ok tables ∧
      tables.length = 1 := exists_eq_ok (by decide +kernel)
  have hblank : ∃ tables, parse "public" "a \x7b id int pk \x7d\n" = .ok tables ∧
      tables.length = 1 := exists_eq_ok (by decide +kernel)
  obtain ⟨first, hfirst, -⟩ := hfirst
  obtain ⟨second, hsecond, -⟩ := hsecond
  obtain ⟨above, hblank, -⟩ := hblank
  refine ⟨?_, ?_, ?_⟩
  · refine texts_join.2 {} _ fun text htext => ?_
    simp only [List.mem_cons, List.not_mem_nil, or_false] at htext
    rcases htext with rfl | rfl
    · exact ⟨first, hfirst⟩
    · exact ⟨second, hsecond⟩
  · have hbelow : parse "public" "b \x7b $ \x7d" =
        .error (.lexical (.unexpectedChar '$' ⟨1, 5⟩)) := by
      decide +kernel
    exact ((texts_join.1 "public" _ "b \x7b $ \x7d").1 above hblank).2 _ hbelow
  · have habove : parse "public" "a \x7b \x7d \x7d" = .error (.grammar .closeOutsideTable) := by
      decide +kernel
    exact (texts_join.1 "public" _ "b [c").2 _ habove rfl

end Schemata
