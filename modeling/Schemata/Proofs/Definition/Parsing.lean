import Schemata.Proofs.Definition.Derivation
import Schemata.Proofs.Token.Scanning

/-!
# The parser accepts exactly its language

A derivation drives the parser: every part of it takes the parser from the state in front of the
part to the state that holds what the part denotes. Together with the converse, by which the parser
keeps to a derivation, `parse_ok_iff` says which texts are parsed and to which tables.
-/

namespace Schemata.Definition

/-- `Runs schema state tokens next` says that the parser accepts the tokens one after the other and
that they take it from `state` to `next`. -/
def Runs (schema : String) (state : State) (tokens : List Token) (next : State) : Prop :=
  tokens.foldlM (step schema) state = .ok next

/-- The table with more columns. -/
def OpenTable.addAll (table : OpenTable) (columns : List Column) : OpenTable :=
  { table with columns := table.columns ++ columns }

/-- Without more columns the table stays as it is. -/
theorem OpenTable.add_all_nil (table : OpenTable) : table.addAll [] = table := by
  rw [addAll, List.append_nil]

/-- The last of more columns is added behind the others. -/
theorem OpenTable.add_all_snoc (table : OpenTable) (columns : List Column) (column : Column) :
    table.addAll (columns ++ [column]) = (table.addAll columns).add column := by
  simp only [addAll, add, List.append_assoc]

namespace Runs

variable {schema : String} {state middle next : State} {tokens lexemes : List Token}
  {token : Token}

/-- Without tokens the parser does not move. -/
theorem nil : Runs schema state [] state :=
  rfl

/-- A first token and a run behind it. -/
theorem cons (hstep : step schema state token = .ok middle) (h : Runs schema middle tokens next) :
    Runs schema state (token :: tokens) next := by
  rw [Runs, List.foldlM_cons, hstep]
  exact h

/-- A single token. -/
theorem single (hstep : step schema state token = .ok next) : Runs schema state [token] next :=
  cons hstep nil

/-- A run goes on where another one ended. -/
theorem append (hfirst : Runs schema state tokens middle)
    (hsecond : Runs schema middle lexemes next) :
    Runs schema state (tokens ++ lexemes) next := by
  rw [Runs, List.foldlM_append, hfirst]
  exact hsecond

/-- Tokens that do not move the parser one by one do not move it together. -/
theorem stay (h : ∀ token ∈ tokens, step schema state token = .ok state) :
    Runs schema state tokens state := by
  induction tokens with
  | nil => exact nil
  | cons token tokens ih =>
      refine cons (h token List.mem_cons_self) (ih fun other hmem => ?_)
      exact h other (List.mem_cons_of_mem token hmem)

end Runs

section

variable {schema : String} {tables : List Table} {table : OpenTable} {tokens lexemes : List Token}

/-! ## Separators -/

/-- Separators do not move the parser outside of all tables. -/
theorem Separators.runs_between (h : Separators tokens) :
    Runs schema ⟨tables, .betweenTables⟩ tokens ⟨tables, .betweenTables⟩ := by
  refine Runs.stay fun token hmem => ?_
  rcases h token hmem with rfl | rfl <;> rfl

/-- Separators do not move the parser outside of the columns of a table. -/
theorem Separators.runs_body (h : Separators tokens) :
    Runs schema ⟨tables, .body table⟩ tokens ⟨tables, .body table⟩ := by
  refine Runs.stay fun token hmem => ?_
  rcases h token hmem with rfl | rfl <;> rfl

/-- Separators behind a column complete it. The first of them ends the column, and the others do not
move the parser. -/
theorem Separators.runs_column {draft : Column.Draft} {column : Column} (h : Separators tokens)
    (hne : tokens ≠ []) (hfinish : draft.finish table.label = .ok column) :
    Runs schema ⟨tables, .column table draft⟩ tokens ⟨tables, .body (table.add column)⟩ := by
  obtain ⟨separator, others, rfl⟩ := List.exists_cons_of_ne_nil hne
  have hothers : Separators others := fun other hmem => h other (List.mem_cons_of_mem _ hmem)
  refine .cons ?_ hothers.runs_body
  exact (step_column_iff schema).2 (.inl ⟨h separator List.mem_cons_self, column, hfinish, rfl⟩)

/-- Line breaks do not move the parser behind a header. -/
theorem LineBreaks.runs_header (h : LineBreaks tokens) :
    Runs schema ⟨tables, .header table⟩ tokens ⟨tables, .header table⟩ := by
  refine Runs.stay fun token hmem => ?_
  rw [h token hmem]
  rfl

/-! ## Columns -/

/-- The tokens of an item take the parser through what the item does to the draft. -/
theorem Item.Derives.runs {item : Item} {draft read : Column.Draft} (h : item.Derives tokens)
    (hread : item.read schema draft = .ok read) :
    Runs schema ⟨tables, .column table draft⟩ tokens ⟨tables, .column table read⟩ := by
  -- all items but foreign keys and default values are a single token
  have hone {token : Token} (hitem : item.Derives [token]) :
      step schema ⟨tables, .column table draft⟩ token = .ok ⟨tables, .column table read⟩ :=
    (step_column_iff schema).2 (.inr (.inr (.inl ⟨item, hitem, read, hread, rfl⟩)))
  cases h with
  | foreignKey target column =>
      obtain ⟨announced, hannounced, rfl⟩ := map_eq_ok_iff.1 hread
      obtain ⟨hkey, rfl⟩ := before_foreign_key_iff.1 hannounced
      have hfirst : step schema ⟨tables, .column table announced⟩ .foreignKey =
          .ok ⟨tables, .reference table announced⟩ :=
        (step_column_iff schema).2 (.inr (.inr (.inr (.inl ⟨rfl, hkey, rfl⟩))))
      exact .cons hfirst (.single rfl)
  | default value =>
      cases hread
      exact .cons rfl (.single rfl)
  | lengthName text hdigits => exact .single (hone (.lengthName text hdigits))
  | dataType type => exact .single (hone (.dataType type))
  | primaryKey => exact .single (hone .primaryKey)
  | null => exact .single (hone .null)
  | unique => exact .single (hone .unique)
  | autoGenerate => exact .single (hone .autoGenerate)
  | lengthValue text => exact .single (hone (.lengthValue text))

/-- The items of a column fill its draft. -/
theorem Items.runs {name : String} {items : List Item} (h : Items items tokens)
    (hreadable : Readable items) :
    Runs schema ⟨tables, .column table (.ofName name)⟩ tokens
      ⟨tables, .column table (draftOf schema name items)⟩ := by
  induction h with
  | nil => exact .nil
  | snoc hitems hitem ih =>
      refine (ih hreadable.init).append (hitem.runs ?_)
      exact read_eq_ok_iff.2 ⟨hreadable.last, rfl⟩

/-- The declaration of a column leads to a draft that can be completed to the column. -/
theorem ColumnDeclaration.Derives.runs {declaration : ColumnDeclaration} {column : Column}
    (h : declaration.Derives tokens) (hnames : .name "" ∉ tokens) (hsound : declaration.Sound)
    (hdenotes : declaration.Denotes schema column) :
    ∃ draft, Runs schema ⟨tables, .body table⟩ tokens ⟨tables, .column table draft⟩ ∧
      ∀ label, draft.finish label = .ok column := by
  cases h with
  | @intro name items lexemes hitems =>
      have hname : name ≠ "" := by
        rintro rfl
        exact hnames List.mem_cons_self
      have hreadable : Readable items := hsound.toReadable
      refine ⟨draftOf schema name items, .cons rfl (hitems.runs hreadable), fun label => ?_⟩
      exact (finish_eq_ok_iff ⟨name, items⟩ hreadable).2 ⟨hname, hsound, hdenotes⟩

/-- The declarations of columns lead to a draft of the last column behind the others. -/
theorem Columns.runs {declarations : List ColumnDeclaration} {columns : List Column}
    (h : Columns declarations tokens) (hnames : .name "" ∉ tokens)
    (hsound : ∀ declaration ∈ declarations, declaration.Sound)
    (hdenotes : List.Forall₂ (ColumnDeclaration.Denotes schema) declarations columns) :
    ∃ earlier last draft, columns = earlier ++ [last] ∧
      Runs schema ⟨tables, .body table⟩ tokens ⟨tables, .column (table.addAll earlier) draft⟩ ∧
      ∀ label, draft.finish label = .ok last := by
  -- the last column stays a draft, because only what follows the columns completes it
  induction h generalizing columns with
  | @single declaration _ hcolumn =>
      cases hdenotes with
      | cons hone hnone =>
          cases hnone
          obtain ⟨draft, hruns, hfinish⟩ := hcolumn.runs hnames (hsound declaration (by simp)) hone
          refine ⟨[], _, draft, rfl, ?_, hfinish⟩
          rw [OpenTable.add_all_nil]
          exact hruns
  | @snoc declarations declaration _ separators _ hcolumns hseparators hne hcolumn ih =>
      obtain ⟨columns, column, rfl, hearlier, hone⟩ := forall_snoc hdenotes
      simp only [List.mem_append, not_or] at hnames
      obtain ⟨earlier, last, draft, rfl, hruns, hfinish⟩ := ih hnames.1.1
        (fun other hmem => hsound other (List.mem_append_left _ hmem)) hearlier
      have hgap := hruns.append (hseparators.runs_column hne (hfinish _))
      obtain ⟨draft, hlast, hfinish⟩ := hcolumn.runs hnames.2 (hsound declaration (by simp)) hone
      refine ⟨earlier ++ [last], column, draft, rfl, hgap.append ?_, hfinish⟩
      rw [OpenTable.add_all_snoc]
      exact hlast

/-! ## Tables -/

/-- A body and a closing brace finish the table with the columns that the body declares. -/
theorem Body.runs {declarations : List ColumnDeclaration} {columns : List Column}
    (h : Body declarations tokens) (hnames : .name "" ∉ tokens)
    (hsound : ∀ declaration ∈ declarations, declaration.Sound)
    (hdenotes : List.Forall₂ (ColumnDeclaration.Denotes schema) declarations columns) :
    Runs schema ⟨tables, .body table⟩ (tokens ++ [.closeTable])
      ⟨tables ++ [(table.addAll columns).close], .betweenTables⟩ := by
  cases h with
  | empty hseparators =>
      cases hdenotes
      rw [OpenTable.add_all_nil]
      exact hseparators.runs_body.append (.single rfl)
  | @columns _ before lexemes after hbefore hcolumns hafter =>
      simp only [List.mem_append, not_or] at hnames
      obtain ⟨earlier, last, draft, rfl, hruns, hfinish⟩ := hcolumns.runs hnames.1.2 hsound hdenotes
      rw [OpenTable.add_all_snoc, List.append_assoc]
      refine (hbefore.runs_body.append hruns).append ?_
      -- the closing brace completes the last column unless a separator did
      by_cases hne : after = []
      · rw [hne]
        refine .single ?_
        exact (step_column_iff schema).2 (.inr (.inl ⟨rfl, last, hfinish _, rfl⟩))
      · exact (hafter.runs_column hne (hfinish _)).append (.single rfl)

/-- A table declaration adds the table that it denotes. -/
theorem TableDeclaration.Derives.runs {declaration : TableDeclaration} {result : Table}
    (h : declaration.Derives tokens) (hnames : .name "" ∉ tokens)
    (hsound : ∀ column ∈ declaration.columns, column.Sound)
    (hdenotes : declaration.Denotes schema result) :
    Runs schema ⟨tables, .betweenTables⟩ tokens ⟨tables ++ [result], .betweenTables⟩ := by
  cases h with
  | @intro space name columns lines lexemes hlines hbody =>
      have hheader : step schema ⟨tables, .betweenTables⟩ (headerToken space name) =
          .ok ⟨tables, .header (.ofNames (space.getD schema) name)⟩ := by
        cases space <;> rfl
      have hresult : ((OpenTable.ofNames (space.getD schema) name).addAll result.columns).close =
          result := by
        cases result
        obtain ⟨rfl, rfl, rfl, -⟩ := hdenotes
        rfl
      have hinside : Token.name "" ∉ lexemes := fun hmem => hnames (by simp [hmem])
      rw [List.append_assoc, List.cons_append]
      refine .cons hheader (hlines.runs_header.append (.cons rfl ?_))
      rw [← hresult]
      exact hbody.runs hinside hsound hdenotes.columns

/-- The declarations of a text add the tables that they denote. -/
theorem File.runs {declarations : List TableDeclaration} (h : File declarations tokens)
    (hnames : .name "" ∉ tokens)
    (hsound : ∀ declaration ∈ declarations, ∀ column ∈ declaration.columns, column.Sound)
    (hdenotes : List.Forall₂ (TableDeclaration.Denotes schema) declarations tables) :
    Runs schema .initial tokens ⟨tables, .betweenTables⟩ := by
  induction h generalizing tables with
  | separators hseparators =>
      cases hdenotes
      exact hseparators.runs_between
  | snoc hfile htable hseparators ih =>
      obtain ⟨earlier, last, rfl, hearlier, hlast⟩ := forall_snoc hdenotes
      simp only [List.mem_append, not_or] at hnames
      have hfirst := ih hnames.1.1
        (fun declaration hmem => hsound declaration (List.mem_append_left _ hmem)) hearlier
      refine (hfirst.append (htable.runs hnames.1.2 ?_ hlast)).append hseparators.runs_between
      exact hsound _ (List.mem_append_right _ List.mem_cons_self)

end

/-! ## Texts -/

/-- The names that are scanned are not empty. -/
theorem names_not_empty {tokens : List Token} {text : List Char}
    (h : Token.Spelling tokens text) : .name "" ∉ tokens := by
  induction h with
  | done _ => exact List.not_mem_nil
  | token _ hspells _ _ _ ih =>
      rw [List.mem_cons, not_or]
      refine ⟨?_, ih⟩
      intro hname
      generalize hempty : "" = text at hname
      subst hname
      cases hspells with
      | reserved hmem hsame => simp [Token.reservedWords] at hmem
      | name hword _ _ =>
          exact hword.1 (String.ofList_injective hempty.symm)

/-- Only a state outside of all tables concludes a text. -/
theorem conclude_eq_ok_iff {state : State} {tables : List Table} :
    state.conclude = .ok tables ↔ state = ⟨tables, .betweenTables⟩ := by
  obtain ⟨found, phase⟩ := state
  cases phase <;> simp [State.conclude, Phase.table?]

/-- Parsing a text scans it, runs over its tokens and ends outside of all tables. -/
theorem parse_runs_iff {schema text : String} {tables : List Table} :
    parse schema text = .ok tables ↔
      ∃ tokens, Token.tokenize text = .ok tokens ∧
        Runs schema .initial tokens ⟨tables, .betweenTables⟩ := by
  unfold parse Token.tokenize
  obtain ⟨tokens, failure⟩ := Token.scan text
  rw [bind_eq_ok_iff]
  cases failure with
  | some fault => simp
  | none => simp [conclude_eq_ok_iff, Runs]

/-- A text parses to tables exactly if it spells tokens that lead the parser to them. -/
theorem parse_spelling_iff {schema text : String} {tables : List Table} :
    parse schema text = .ok tables ↔
      ∃ tokens, Token.Spelling tokens text.toList ∧
        Runs schema .initial tokens ⟨tables, .betweenTables⟩ := by
  have hscan {tokens : List Token} :
      Token.tokenize text = .ok tokens ↔ Token.Spelling tokens text.toList := by
    refine ⟨Token.tokenize_sound, fun h => ?_⟩
    rw [Token.tokenize, Token.scan, Token.scan_from_complete h]
  simp only [parse_runs_iff, hscan]

/-- The tables of a text are those that its declarations denote. -/
theorem parse_sound {schema text : String} {tables : List Table}
    (h : parse schema text = .ok tables) :
    ∃ tokens declarations, Token.tokenize text = .ok tokens ∧ File declarations tokens ∧
      (∀ declaration ∈ declarations, ∀ column ∈ declaration.columns, column.Sound) ∧
      List.Forall₂ (TableDeclaration.Denotes schema) declarations tables := by
  obtain ⟨tokens, hscan, hruns⟩ := parse_runs_iff.1 h
  cases Reads.of_run hruns with
  | between hfile hsound hdenotes => exact ⟨tokens, _, hscan, hfile, hsound, hdenotes⟩

/-- The parser accepts a text exactly if the text is scanned to tokens that derive table
declarations with sound columns, and then it returns the tables that these declarations denote. -/
theorem parse_ok_iff {schema text : String} {tables : List Table} :
    parse schema text = .ok tables ↔
      ∃ tokens declarations, Token.tokenize text = .ok tokens ∧ File declarations tokens ∧
        (∀ declaration ∈ declarations, ∀ column ∈ declaration.columns, column.Sound) ∧
        List.Forall₂ (TableDeclaration.Denotes schema) declarations tables := by
  constructor
  · exact parse_sound
  · rintro ⟨tokens, declarations, hscan, hfile, hsound, hdenotes⟩
    have hnames := names_not_empty (Token.tokenize_sound hscan)
    exact parse_runs_iff.2 ⟨tokens, hscan, hfile.runs hnames hsound hdenotes⟩

end Schemata.Definition
