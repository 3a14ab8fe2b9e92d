import Schemata.Proofs.Definition.Steps

/-!
# Every parsed text has a derivation

`Reads schema tokens state` says that the tokens read so far are the beginning of a derivation and
that the state holds what this beginning denotes. A step of the parser keeps this by `Reads.step`,
so a whole run keeps it by `Reads.of_run`, and in a state outside of all tables the beginning is a
derivation of a whole text.
-/

namespace Schemata.Definition

/-! ## Extending derivations at their end -/

/-- One more separator. -/
theorem Separators.snoc {tokens : List Token} {token : Token} (h : Separators tokens)
    (htoken : token = .comma ∨ token = .newLine) : Separators (tokens ++ [token]) := by
  intro other hother
  rcases List.mem_append.1 hother with hother | hother
  · exact h other hother
  · rw [List.mem_singleton.1 hother]
    exact htoken

/-- A text without tables and separators. -/
theorem File.nil : File [] [] :=
  .separators (by simp [Separators])

/-- One more separator behind tables. -/
theorem File.separator {declarations : List TableDeclaration} {tokens : List Token} {token : Token}
    (h : File declarations tokens) (htoken : token = .comma ∨ token = .newLine) :
    File declarations (tokens ++ [token]) := by
  cases h with
  | separators hseparators => exact .separators (hseparators.snoc htoken)
  | snoc hfile htable hseparators =>
      rw [List.append_assoc]
      exact .snoc hfile htable (hseparators.snoc htoken)

/-- One more table. -/
theorem File.table {declarations : List TableDeclaration} {declaration : TableDeclaration}
    {tokens lexemes : List Token} (h : File declarations tokens)
    (hdeclaration : declaration.Derives lexemes) :
    File (declarations ++ [declaration]) (tokens ++ lexemes) := by
  have hempty : Separators [] := by simp [Separators]
  have hfile := File.snoc h hdeclaration hempty
  rwa [List.append_nil] at hfile

/-- The beginning of a body after which a column may start: there is no column yet, or a separator
stands behind the last one. -/
inductive BeforeColumn : List ColumnDeclaration → List Token → Prop where
  | empty {separators : List Token} : Separators separators → BeforeColumn [] separators
  | columns {columns : List ColumnDeclaration} {before tokens after : List Token} :
      Separators before → Columns columns tokens → Separators after → after ≠ [] →
      BeforeColumn columns (before ++ tokens ++ after)

namespace BeforeColumn

variable {columns : List ColumnDeclaration} {declaration : ColumnDeclaration}
  {tokens lexemes : List Token} {token : Token}

/-- The body may end where a column may start. -/
theorem body (h : BeforeColumn columns tokens) : Body columns tokens := by
  cases h with
  | empty hseparators => exact .empty hseparators
  | columns hbefore hcolumns hafter _ => exact .columns hbefore hcolumns hafter

/-- One more separator. -/
theorem separator (h : BeforeColumn columns tokens) (htoken : token = .comma ∨ token = .newLine) :
    BeforeColumn columns (tokens ++ [token]) := by
  cases h with
  | empty hseparators => exact .empty (hseparators.snoc htoken)
  | columns hbefore hcolumns hafter _ =>
      rw [List.append_assoc]
      exact .columns hbefore hcolumns (hafter.snoc htoken) (by simp)

/-- One more column, as the last one of the columns. -/
theorem extend (h : BeforeColumn columns tokens) (hcolumn : declaration.Derives lexemes) :
    ∃ before rest, tokens ++ lexemes = before ++ rest ∧ Separators before ∧
      Columns (columns ++ [declaration]) rest := by
  cases h with
  | empty hseparators => exact ⟨_, _, rfl, hseparators, .single hcolumn⟩
  | columns hbefore hcolumns hafter hne =>
      exact ⟨_, _, by simp only [List.append_assoc], hbefore, .snoc hcolumns hafter hne hcolumn⟩

/-- The body may end behind a column. -/
theorem body_extend (h : BeforeColumn columns tokens) (hcolumn : declaration.Derives lexemes) :
    Body (columns ++ [declaration]) (tokens ++ lexemes) := by
  obtain ⟨before, rest, heq, hbefore, hcolumns⟩ := h.extend hcolumn
  have hempty : Separators [] := by simp [Separators]
  have hbody := Body.columns hbefore hcolumns hempty
  rwa [List.append_nil, ← heq] at hbody

/-- A column may start behind a column and a separator. -/
theorem extend_separator (h : BeforeColumn columns tokens) (hcolumn : declaration.Derives lexemes)
    (htoken : token = .comma ∨ token = .newLine) :
    BeforeColumn (columns ++ [declaration]) (tokens ++ lexemes ++ [token]) := by
  obtain ⟨before, rest, heq, hbefore, hcolumns⟩ := h.extend hcolumn
  rw [heq]
  exact .columns hbefore hcolumns (by simpa [Separators] using htoken) (by simp)

end BeforeColumn

/-! ## Beginnings of derivations -/

/-- `Reads schema tokens state` says that the tokens are the beginning of a derivation and that the
state holds the tables, the columns and the items that it derives so far. -/
inductive Reads (schema : String) : List Token → State → Prop where
  | between {declarations : List TableDeclaration} {tokens : List Token} {tables : List Table} :
      File declarations tokens →
      (∀ declaration ∈ declarations, ∀ column ∈ declaration.columns, column.Sound) →
      List.Forall₂ (TableDeclaration.Denotes schema) declarations tables →
      Reads schema tokens ⟨tables, .betweenTables⟩
  | header {tokens lines : List Token} {tables : List Table} (space : Option String)
      (name : String) :
      Reads schema tokens ⟨tables, .betweenTables⟩ → LineBreaks lines →
      Reads schema (tokens ++ headerToken space name :: lines)
        ⟨tables, .header (.ofNames (space.getD schema) name)⟩
  | body {tokens lexemes : List Token} {tables : List Table} {table : OpenTable}
      {declarations : List ColumnDeclaration} {columns : List Column} :
      Reads schema tokens ⟨tables, .header table⟩ → BeforeColumn declarations lexemes →
      (∀ column ∈ declarations, column.Sound) →
      List.Forall₂ (ColumnDeclaration.Denotes schema) declarations columns →
      Reads schema (tokens ++ .openTable :: lexemes) ⟨tables, .body { table with columns }⟩
  | column {tokens lexemes : List Token} {tables : List Table} {table : OpenTable}
      {items : List Item} (name : String) :
      Reads schema tokens ⟨tables, .body table⟩ → Items items lexemes → Readable items →
      Reads schema (tokens ++ .name name :: lexemes)
        ⟨tables, .column table (draftOf schema name items)⟩
  | reference {tokens : List Token} {tables : List Table} {table : OpenTable}
      {draft : Column.Draft} :
      Reads schema tokens ⟨tables, .column table draft⟩ → draft.primaryKey = false →
      Reads schema (tokens ++ [.foreignKey]) ⟨tables, .reference table draft⟩
  | default {tokens : List Token} {tables : List Table} {table : OpenTable}
      {draft : Column.Draft} :
      Reads schema tokens ⟨tables, .column table draft⟩ →
      Reads schema (tokens ++ [.default]) ⟨tables, .default table draft⟩

namespace Reads

variable {schema : String} {tokens lexemes : List Token} {tables : List Table}
  {table : OpenTable} {draft : Column.Draft} {next : State} {token : Token}

/-- Nothing was read in front of a text. -/
theorem initial : Reads schema [] .initial :=
  .between .nil (by simp) .nil

/-- A closing brace behind a body ends the table. -/
theorem close {declarations : List ColumnDeclaration} {columns : List Column}
    (h : Reads schema tokens ⟨tables, .header table⟩) (hbody : Body declarations lexemes)
    (hsound : ∀ column ∈ declarations, column.Sound)
    (hdenotes : List.Forall₂ (ColumnDeclaration.Denotes schema) declarations columns) :
    Reads schema (tokens ++ .openTable :: lexemes ++ [.closeTable])
      (State.finish ⟨tables, .betweenTables⟩ { table with columns }) := by
  cases h with
  | @header before lines _ space name hbetween hlines =>
      cases hbetween with
      | @between declared _ _ hfile hcolumns htables =>
          have htable : TableDeclaration.Derives ⟨space, name, declarations⟩
              (headerToken space name :: lines ++ .openTable :: lexemes ++ [.closeTable]) :=
            .intro hlines hbody
          have hfile := hfile.table htable
          simp only [← List.append_assoc] at hfile ⊢
          refine .between hfile ?_ (List.rel_append htables ?_)
          · intro declaration hmem
            rcases List.mem_append.1 hmem with hmem | hmem
            · exact hcolumns declaration hmem
            · rw [List.mem_singleton.1 hmem]
              exact hsound
          · exact .cons ⟨rfl, rfl, rfl, hdenotes⟩ .nil

/-- The end of a column adds it to the columns before. -/
theorem add_column {declarations : List ColumnDeclaration} {columns : List Column}
    {column : Column} {label : String} (declaration : ColumnDeclaration)
    (hsound : ∀ column ∈ declarations, column.Sound)
    (hdenotes : List.Forall₂ (ColumnDeclaration.Denotes schema) declarations columns)
    (hreadable : Readable declaration.items)
    (hfinish : (draftOf schema declaration.name declaration.items).finish label = .ok column) :
    (∀ column ∈ declarations ++ [declaration], column.Sound) ∧
      List.Forall₂ (ColumnDeclaration.Denotes schema) (declarations ++ [declaration])
        (columns ++ [column]) := by
  obtain ⟨-, hlast, hcolumn⟩ := (finish_eq_ok_iff declaration hreadable).1 hfinish
  constructor
  · intro other hmem
    rcases List.mem_append.1 hmem with hmem | hmem
    · exact hsound other hmem
    · rw [List.mem_singleton.1 hmem]
      exact hlast
  · exact List.rel_append hdenotes (.cons hcolumn .nil)

/-- A separator behind a column ends the column. -/
theorem column_separator {column : Column} (h : Reads schema tokens ⟨tables, .column table draft⟩)
    (hfinish : draft.finish table.label = .ok column)
    (htoken : token = .comma ∨ token = .newLine) :
    Reads schema (tokens ++ [token]) ⟨tables, .body (table.add column)⟩ := by
  cases h with
  | @column earlier lexemes _ _ items name hbody hitems hreadable =>
      cases hbody with
      | body hheader hbefore hsound hdenotes =>
          have hcolumn : ColumnDeclaration.Derives ⟨name, items⟩ (.name name :: lexemes) :=
            .intro hitems
          obtain ⟨hsound, hdenotes⟩ := add_column ⟨name, items⟩ hsound hdenotes hreadable hfinish
          have hread := body hheader (hbefore.extend_separator hcolumn htoken) hsound hdenotes
          simpa only [List.append_assoc, List.cons_append, OpenTable.add] using hread

/-- A closing brace behind a column ends the column and the table. -/
theorem column_close {column : Column} (h : Reads schema tokens ⟨tables, .column table draft⟩)
    (hfinish : draft.finish table.label = .ok column) :
    Reads schema (tokens ++ [.closeTable])
      (State.finish ⟨tables, .betweenTables⟩ (table.add column)) := by
  cases h with
  | @column earlier lexemes _ _ items name hbody hitems hreadable =>
      cases hbody with
      | body hheader hbefore hsound hdenotes =>
          have hcolumn : ColumnDeclaration.Derives ⟨name, items⟩ (.name name :: lexemes) :=
            .intro hitems
          obtain ⟨hsound, hdenotes⟩ := add_column ⟨name, items⟩ hsound hdenotes hreadable hfinish
          have hread := hheader.close (hbefore.body_extend hcolumn) hsound hdenotes
          simpa only [List.append_assoc, List.cons_append, OpenTable.add] using hread

/-- One more item of a column. -/
theorem item {name : String} {items : List Item} {item : Item} {read : Column.Draft}
    {lexemes : List Token} (h : Reads schema tokens ⟨tables, .body table⟩)
    (hitems : Items items lexemes) (hreadable : Readable items) {more : List Token}
    (hitem : item.Derives more) (hread : item.read schema (draftOf schema name items) = .ok read) :
    Reads schema (tokens ++ .name name :: lexemes ++ more) ⟨tables, .column table read⟩ := by
  obtain ⟨hadmissible, rfl⟩ := read_eq_ok_iff.1 hread
  have hcolumn := column name h (hitems.snoc hitem) (hreadable.snoc hadmissible)
  simpa only [List.append_assoc, List.cons_append] using hcolumn

/-- A token that the parser accepts continues the derivation, and the state keeps to it. -/
theorem step (h : Reads schema tokens state) (hstep : step schema state token = .ok next) :
    Reads schema (tokens ++ [token]) next := by
  cases h with
  | between hfile hsound hdenotes =>
      obtain ⟨phase, hphase, rfl⟩ := map_eq_ok_iff.1 hstep
      rcases step_between_iff.1 hphase with ⟨htoken, rfl⟩ | ⟨space, name, rfl, rfl⟩
      · exact .between (hfile.separator htoken) hsound hdenotes
      · exact .header space name (.between hfile hsound hdenotes) (by simp [LineBreaks])
  | @header before lines _ space name hbetween hlines =>
      obtain ⟨phase, hphase, rfl⟩ := map_eq_ok_iff.1 hstep
      rcases step_header_iff.1 hphase with ⟨rfl, rfl⟩ | ⟨rfl, rfl⟩
      · have hmore : LineBreaks (lines ++ [.newLine]) := by
          intro other hmem
          rcases List.mem_append.1 hmem with hmem | hmem
          · exact hlines other hmem
          · exact List.mem_singleton.1 hmem
        simpa [State.enter] using header space name hbetween hmore
      · exact body (header space name hbetween hlines) (.empty (by simp [Separators])) (by simp)
          .nil
  | body hheader hbefore hsound hdenotes =>
      rcases step_body_iff.1 hstep with ⟨htoken, rfl⟩ | ⟨name, rfl, rfl⟩ | ⟨rfl, rfl⟩
      · simpa [State.enter] using body hheader (hbefore.separator htoken) hsound hdenotes
      · exact column name (body hheader hbefore hsound hdenotes) .nil .nil
      · exact hheader.close hbefore.body hsound hdenotes
  | column name hbody hitems hreadable =>
      have hcolumn := column name hbody hitems hreadable
      rcases (step_column_iff schema).1 hstep with ⟨htoken, column, hfinish, rfl⟩ |
        ⟨rfl, column, hfinish, rfl⟩ | ⟨item, hitem, read, hread, rfl⟩ | ⟨rfl, hkey, rfl⟩ |
        ⟨rfl, rfl⟩
      · exact hcolumn.column_separator hfinish htoken
      · exact hcolumn.column_close hfinish
      · exact hbody.item hitems hreadable hitem hread
      · exact .reference hcolumn hkey
      · exact .default hcolumn
  | reference hcolumn hkey =>
      obtain ⟨phase, hphase, rfl⟩ := map_eq_ok_iff.1 hstep
      obtain ⟨target, column, rfl, rfl⟩ := step_reference_iff.1 hphase
      -- the two tokens together are the item, so the column was last read in front of the first
      cases hcolumn with
      | @column _ _ _ _ items name hbody hitems hreadable =>
          have hannounced := before_foreign_key_iff.2 ⟨hkey, rfl⟩
          rw [List.append_assoc]
          refine hbody.item hitems hreadable (.foreignKey target column) ?_
          rw [Item.read, hannounced]
          rfl
  | default hcolumn =>
      obtain ⟨phase, hphase, rfl⟩ := map_eq_ok_iff.1 hstep
      obtain ⟨text, rfl, rfl⟩ := step_default_iff.1 hphase
      cases hcolumn with
      | column name hbody hitems hreadable =>
          rw [List.append_assoc]
          exact hbody.item hitems hreadable (.default text) rfl

/-- A run of the parser over a whole list of tokens keeps to a derivation. -/
theorem of_run (hrun : tokens.foldlM (Definition.step schema) .initial = .ok next) :
    Reads schema tokens next := by
  induction tokens using List.reverseRecOn generalizing next with
  | nil =>
      cases hrun
      exact initial
  | append_singleton tokens token ih =>
      rw [List.foldlM_append] at hrun
      obtain ⟨state, hstate, hstep⟩ := bind_eq_ok_iff.1 hrun
      rw [List.foldlM_cons] at hstep
      obtain ⟨_, hstep, hlast⟩ := bind_eq_ok_iff.1 hstep
      cases hlast
      exact (ih hstate).step hstep

end Reads

end Schemata.Definition
