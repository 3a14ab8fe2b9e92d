import Schemata.Proofs.Definition.Interchange
import Schemata.Proofs.Joining

/-!
# The order of the items of a column

The items of a column follow its name in any order, except that an automatically generated column
must have been made the primary key before. By `modifier_order_irrelevant` the parser reads the same
column from any other such order, and items that contradict each other are refused in any order.
Which items can be read one after the other is said by `Readable`, and what they are read as by
`draftOf`. If no value is given twice and there is no maximum length, then the draft does not depend
on the order, and only the place of `ag` matters for whether the items can be read.
-/

namespace Schemata.Definition

variable {schema name : String} {found tables : List Table} {table : OpenTable}
  {draft : Column.Draft} {item other : Item} {items others : List Item} {token : Token}
  {tokens rest : List Token} {next : State} {column : Column} {declaration : ColumnDeclaration}

/-! ## Reading a declaration -/

/-- A token derives at most one item on its own. -/
theorem derives_one (h : item.Derives [token]) (hother : other.Derives [token]) :
    other = item := by
  cases h <;> cases hother <;> rfl

/-- The parser accepts the tokens of an item exactly if the item can be read into the draft. -/
theorem Item.Derives.runs_iff (h : item.Derives tokens) :
    Runs schema ⟨found, .column table draft⟩ tokens next ↔
      ∃ read, item.read schema draft = .ok read ∧ next = ⟨found, .column table read⟩ := by
  refine ⟨fun hruns => ?_, fun ⟨read, hread, hnext⟩ => hnext ▸ h.runs hread⟩
  have hone {token : Token} (hitem : item.Derives [token])
      (htoken : Runs schema ⟨found, .column table draft⟩ [token] next) :
      ∃ read, item.read schema draft = .ok read ∧ next = ⟨found, .column table read⟩ := by
    obtain ⟨middle, hstep, hnext⟩ := runs_cons_iff.1 htoken
    cases hnext
    rcases (step_column_iff schema).1 hstep with ⟨rfl | rfl, -⟩ | ⟨rfl, -⟩ |
      ⟨other, hother, read, hread, rfl⟩ | ⟨rfl, -⟩ | ⟨rfl, -⟩
    iterate 3 cases hitem
    · obtain rfl := derives_one hitem hother
      exact ⟨read, hread, rfl⟩
    iterate 2 cases hitem
  cases h with
  | foreignKey target column =>
      obtain ⟨middle, hfirst, hsecond⟩ := runs_cons_iff.1 hruns
      simp only [step, stepColumn, map_eq_ok_iff, lift_eq_ok_iff] at hfirst
      obtain ⟨announced, hannounced, rfl⟩ := hfirst
      cases hsecond
      exact ⟨_, map_eq_ok_iff.2 ⟨announced, hannounced, rfl⟩, rfl⟩
  | default value =>
      cases hruns
      exact ⟨_, rfl, rfl⟩
  | dataType type => exact hone (.dataType type) hruns
  | primaryKey => exact hone .primaryKey hruns
  | null => exact hone .null hruns
  | unique => exact hone .unique hruns
  | autoGenerate => exact hone .autoGenerate hruns
  | lengthValue text => exact hone (.lengthValue text) hruns
  | lengthName text hdigits => exact hone (.lengthName text hdigits) hruns

/-- The parser accepts the tokens of items exactly if the items are readable. -/
theorem Items.runs_iff (h : Items items tokens) :
    Runs schema ⟨found, .column table (.ofName name)⟩ tokens next ↔
      Readable items ∧ next = ⟨found, .column table (draftOf schema name items)⟩ := by
  refine ⟨fun hruns => ?_, fun ⟨hreadable, hnext⟩ => hnext ▸ h.runs hreadable⟩
  induction h generalizing next with
  | nil =>
      cases hruns
      exact ⟨.nil, rfl⟩
  | snoc _ hitem ih =>
      obtain ⟨middle, hitems, hlast⟩ := runs_append_iff.1 hruns
      obtain ⟨hreadable, rfl⟩ := ih hitems
      obtain ⟨read, hread, rfl⟩ := hitem.runs_iff.1 hlast
      obtain ⟨hadmissible, rfl⟩ := read_eq_ok_iff.1 hread
      exact ⟨hreadable.snoc hadmissible, rfl⟩

/-- The parser accepts the tokens of a declaration exactly if its items are readable. -/
theorem ColumnDeclaration.Derives.runs_iff (h : declaration.Derives tokens) :
    Runs schema ⟨found, .body table⟩ tokens next ↔
      Readable declaration.items ∧
        next = ⟨found, .column table (draftOf schema declaration.name declaration.items)⟩ := by
  cases h with
  | intro hitems =>
      rw [← hitems.runs_iff, runs_cons_iff]
      constructor
      · rintro ⟨_, hstep, hruns⟩
        cases hstep
        exact hruns
      · exact fun hruns => ⟨_, rfl, hruns⟩

/-- `DeclaresColumn schema found table tokens column` says that the parser, inside of `table` and
after the tables `found`, accepts the tokens as a column and that this column is complete and is
`column`. -/
def DeclaresColumn (schema : String) (found : List Table) (table : OpenTable) (tokens : List Token)
    (column : Column) : Prop :=
  ∃ draft, Runs schema ⟨found, .body table⟩ tokens ⟨found, .column table draft⟩ ∧
    draft.finish table.label = .ok column

/-- The columns that the parser reads from a declaration are those that it denotes if it is
sound. -/
theorem declares_column_iff (h : declaration.Derives tokens) :
    DeclaresColumn schema found table tokens column ↔
      declaration.name ≠ "" ∧ declaration.Sound ∧ declaration.Denotes schema column := by
  simp only [DeclaresColumn, h.runs_iff]
  constructor
  · rintro ⟨draft, ⟨hreadable, hdraft⟩, hfinish⟩
    cases hdraft
    exact (finish_eq_ok_iff declaration hreadable).1 hfinish
  · intro hdeclared
    have hreadable : Readable declaration.items := hdeclared.2.1.toReadable
    exact ⟨_, ⟨hreadable, rfl⟩, (finish_eq_ok_iff declaration hreadable).2 hdeclared⟩

/-- What may follow the declaration of a column: a separator, the closing brace of the table, or
nothing if the text ends too early. -/
def EndsColumn (rest : List Token) : Prop :=
  ∀ token ∈ rest.head?, token = .comma ∨ token = .newLine ∨ token = .closeTable

/-- If the parser gets through a declaration and the rest of a text, then the declaration is a
complete column. -/
theorem declares_column_of_runs (h : declaration.Derives tokens) (hrest : EndsColumn rest)
    (hruns : Runs schema ⟨found, .body table⟩ (tokens ++ rest) ⟨tables, .betweenTables⟩) :
    ∃ column, DeclaresColumn schema found table tokens column := by
  obtain ⟨middle, hfront, hback⟩ := runs_append_iff.1 hruns
  obtain ⟨-, rfl⟩ := h.runs_iff.1 hfront
  cases rest with
  | nil => cases hback
  | cons token rest =>
      obtain ⟨next, hstep, -⟩ := runs_cons_iff.1 hback
      have hfinish : ∃ column,
          (draftOf schema declaration.name declaration.items).finish table.label = .ok column := by
        rcases hrest token rfl with rfl | rfl | rfl
        all_goals
          simp only [step, stepColumn, map_eq_ok_iff, lift_eq_ok_iff] at hstep
          obtain ⟨_, ⟨column, hfinish, -⟩, -⟩ := hstep
          exact ⟨column, hfinish⟩
      obtain ⟨column, hfinish⟩ := hfinish
      exact ⟨column, _, hfront, hfinish⟩

/-- If the parser makes tables of a scan, then it gets through all of its tokens. -/
theorem runs_of_outcome {state : State} {scan : Token.Scan}
    (h : outcome schema state scan = .ok tables) :
    Runs schema state scan.tokens ⟨tables, .betweenTables⟩ := by
  obtain ⟨last, hruns, hlast⟩ := bind_eq_ok_iff.1 h
  cases hfailure : scan.failure with
  | some fault => simp [hfailure] at hlast
  | none =>
      simp only [hfailure, conclude_eq_ok_iff] at hlast
      rwa [hlast] at hruns

/-! ## Items in another order -/

/-- No data type, no foreign key and no default value is given twice, and no maximum length at
all. -/
structure SingleValued (items : List Item) : Prop where
  dataType : (items.filterMap Item.type?).length ≤ 1
  foreignKey : (items.filterMap Item.key?).length ≤ 1
  default : (items.filterMap Item.default?).length ≤ 1
  length : items.filterMap Item.length? = []

/-- Every `ag` of the items comes after a `pk`. -/
def KeyFirst (items : List Item) : Prop :=
  ∀ before after, items = before ++ .autoGenerate :: after → .primaryKey ∈ before

/-- Every `ag` comes after a `pk` exactly if there is none in front of the first `pk`. -/
theorem key_first_iff :
    KeyFirst items ↔ .autoGenerate ∉ items.takeWhile (· != .primaryKey) := by
  constructor
  · intro h hmem
    obtain ⟨before, after, hfront⟩ := List.append_of_mem hmem
    have hsplit := List.takeWhile_append_dropWhile (p := (· != Item.primaryKey)) (l := items)
    rw [hfront, List.append_assoc, List.cons_append] at hsplit
    have hkey : .primaryKey ∈ items.takeWhile (· != .primaryKey) :=
      hfront ▸ List.mem_append_left _ (h before _ hsplit.symm)
    simpa using List.mem_takeWhile_imp hkey
  · rintro h before after rfl
    by_contra hkey
    refine h ?_
    rw [List.takeWhile_append_of_pos (fun item hmem => by
      simpa using fun heq : item = .primaryKey => hkey (heq ▸ hmem))]
    simp

instance (items : List Item) : Decidable (KeyFirst items) :=
  decidable_of_iff _ key_first_iff.symm

/-- The items contradict each other or give no data type. -/
def Contradictory (items : List Item) : Prop :=
  (.primaryKey ∈ items ∧ ∃ table column, .foreignKey table column ∈ items) ∨
  (.primaryKey ∈ items ∧ .null ∈ items) ∨
  (.autoGenerate ∈ items ∧ ∃ value, .default value ∈ items) ∨
  ∀ type, .dataType type ∉ items

/-- The value that the items give is the same in any order if it is given once. -/
theorem last_of_perm {α : Type} {pick : Item → Option α} (h : others.Perm items)
    (hone : (items.filterMap pick).length ≤ 1) : lastOf pick others = lastOf pick items := by
  have hvalues := h.filterMap pick
  rw [lastOf, lastOf]
  generalize items.filterMap pick = values at hvalues hone ⊢
  cases values with
  | nil => rw [List.perm_nil.1 hvalues]
  | cons value more =>
      obtain rfl : more = [] := by
        rw [List.length_cons] at hone
        exact List.length_eq_zero_iff.1 (by omega)
      rw [List.perm_singleton.1 hvalues]

/-- The draft of a column is the same in any order of its items. -/
theorem draft_of_perm (h : others.Perm items) (hsingle : SingleValued items) :
    draftOf schema name others = draftOf schema name items := by
  have hlength : (items.filterMap Item.length?).length ≤ 1 := by simp [hsingle.length]
  simp only [draftOf, modifiersOf, last_of_perm h hsingle.dataType,
    last_of_perm h hsingle.foreignKey, last_of_perm h hsingle.default, last_of_perm h hlength,
    h.mem_iff]

/-- Readable items are readable in any order in which every `ag` comes after a `pk`. -/
theorem Readable.perm (hitems : Readable items) (h : others.Perm items)
    (hsingle : SingleValued items) (hkey : KeyFirst others) : Readable others where
  length {before after text} hplace := by
    have hmem : .length text ∈ items := h.mem_iff.1 (by simp [hplace])
    have hlength : text ∈ items.filterMap Item.length? := List.mem_filterMap.2 ⟨_, hmem, rfl⟩
    rw [hsingle.length] at hlength
    cases hlength
  autoGenerate hplace := hkey _ _ hplace
  foreignKey hprimary hforeign := hitems.foreignKey (h.mem_iff.1 hprimary) (h.mem_iff.1 hforeign)
  null hprimary hnull := hitems.null (h.mem_iff.1 hprimary) (h.mem_iff.1 hnull)

/-- The items of a sound declaration do not contradict each other in any order. -/
theorem ColumnDeclaration.Sound.not_contradictory (hsound : declaration.Sound)
    (h : declaration.items.Perm items) : ¬ Contradictory items := by
  rintro (⟨hkey, target, column, hforeign⟩ | ⟨hkey, hnull⟩ | ⟨hgenerated, value, hdefault⟩ | htype)
  · exact hsound.foreignKey (h.mem_iff.2 hkey) (h.mem_iff.2 hforeign)
  · exact hsound.null (h.mem_iff.2 hkey) (h.mem_iff.2 hnull)
  · exact hsound.default (h.mem_iff.2 hgenerated) (h.mem_iff.2 hdefault)
  · obtain ⟨type, hmem⟩ := hsound.dataType
    exact htype type (h.mem_iff.1 hmem)

/-! ## Declarations in another order -/

/-- A declaration that is accepted leads to the same draft in another order of its items in which
every `ag` comes after a `pk`. -/
theorem runs_perm {lexemes permuted : List Token} (h : others.Perm items)
    (hsingle : SingleValued items) (hkey : KeyFirst others)
    (hitems : ColumnDeclaration.Derives ⟨name, items⟩ lexemes)
    (hothers : ColumnDeclaration.Derives ⟨name, others⟩ permuted)
    (hruns : Runs schema ⟨found, .body table⟩ lexemes next) :
    Runs schema ⟨found, .body table⟩ permuted next := by
  obtain ⟨hreadable, rfl⟩ := hitems.runs_iff.1 hruns
  rw [hothers.runs_iff]
  exact ⟨hreadable.perm h hsingle hkey, by rw [draft_of_perm h hsingle]⟩

/-- Let the items of a column declaration in a text be put in another order. If no value is given
twice, the declaration is accepted, and every `ag` still comes after a `pk`, then the new
declaration is accepted as the same column, and the new text parses as the old one does. If the
items contradict each other or give no data type, then the new text does not parse. -/
theorem modifier_order_irrelevant {lexemes permuted before : List Token}
    {failure : Option LexError} {reordered : String} (hperm : others.Perm items)
    (hitems : ColumnDeclaration.Derives ⟨name, items⟩ lexemes)
    (hothers : ColumnDeclaration.Derives ⟨name, others⟩ permuted)
    (hbefore : Runs schema .initial before ⟨found, .body table⟩) (hrest : EndsColumn rest)
    (hreordered : Token.scan reordered = ⟨before ++ permuted ++ rest, failure⟩) :
    (∀ column, SingleValued items → KeyFirst others →
      DeclaresColumn schema found table lexemes column →
        DeclaresColumn schema found table permuted column ∧
          ∀ text, Token.scan text = ⟨before ++ lexemes ++ rest, failure⟩ →
            parse schema reordered = parse schema text) ∧
    (Contradictory items → ∃ error, parse schema reordered = .error error) := by
  constructor
  · rintro column hsingle hkey ⟨draft, hruns, hfinish⟩
    have hpermuted := runs_perm hperm hsingle hkey hitems hothers hruns
    refine ⟨⟨draft, hpermuted, hfinish⟩, fun text htext => ?_⟩
    calc parse schema reordered
        = outcome schema ⟨found, .column table draft⟩ ⟨rest, failure⟩ := by
          rw [parse_eq_outcome, hreordered, outcome_append (hbefore.append hpermuted)]
      _ = parse schema text := by
          rw [parse_eq_outcome, htext, outcome_append (hbefore.append hruns)]
  · intro hcontradictory
    cases hparse : parse schema reordered with
    | error error => exact ⟨error, rfl⟩
    | ok tables =>
        rw [parse_eq_outcome, hreordered, List.append_assoc, outcome_append hbefore] at hparse
        obtain ⟨column, hdeclares⟩ := declares_column_of_runs hothers hrest (runs_of_outcome hparse)
        obtain ⟨-, hsound, -⟩ := (declares_column_iff hothers).1 hdeclares
        exact absurd hcontradictory (hsound.not_contradictory hperm)

/-- The declaration of a generated key in two orders, and a primary key that is a foreign key. -/
theorem generated_key_reordered :
    (∃ column,
      DeclaresColumn "dbo" [] (.ofNames "dbo" "a")
        [.name "id", .dataType .int, .primaryKey, .unique, .autoGenerate] column ∧
      DeclaresColumn "dbo" [] (.ofNames "dbo" "a")
        [.name "id", .primaryKey, .autoGenerate, .dataType .int, .unique] column ∧
      parse "dbo" "a \x7bid pk ag int uq\x7d" = parse "dbo" "a \x7bid int pk uq ag\x7d") ∧
    ∃ error, parse "dbo" "a \x7bid fk b.c int pk\x7d" = .error error := by
  have hbefore : Runs "dbo" .initial [.name "a", .openTable] ⟨[], .body (.ofNames "dbo" "a")⟩ := rfl
  have hrest : EndsColumn [.closeTable] := by simp [EndsColumn]
  constructor
  · obtain ⟨column, hfinish, -⟩ : ∃ column,
        (draftOf "dbo" "id" [.dataType .int, .primaryKey, .unique, .autoGenerate]).finish "dbo.a" =
          .ok column ∧ column.unique = true := exists_eq_ok (by decide +kernel)
    have hdeclares : DeclaresColumn "dbo" [] (.ofNames "dbo" "a")
        [.name "id", .dataType .int, .primaryKey, .unique, .autoGenerate] column :=
      ⟨_, rfl, hfinish⟩
    have hscan : Token.scan "a \x7bid pk ag int uq\x7d" =
        ⟨[.name "a", .openTable] ++
          [.name "id", .primaryKey, .autoGenerate, .dataType .int, .unique] ++ [.closeTable],
          none⟩ := by
      decide +kernel
    obtain ⟨hcolumn, hparse⟩ := (modifier_order_irrelevant (by decide)
      (.intro (.snoc (.snoc (.snoc (.snoc .nil (.dataType .int)) .primaryKey) .unique)
        .autoGenerate))
      (.intro (.snoc (.snoc (.snoc (.snoc .nil .primaryKey) .autoGenerate) (.dataType .int))
        .unique)) hbefore hrest hscan).1 column ⟨by decide, by decide, by decide, by decide⟩
      (by decide) hdeclares
    exact ⟨column, hdeclares, hcolumn, hparse _ (by decide +kernel)⟩
  · have hscan : Token.scan "a \x7bid fk b.c int pk\x7d" =
        ⟨[.name "a", .openTable] ++
          [.name "id", .foreignKey, .reference "b" "c", .dataType .int, .primaryKey] ++
          [.closeTable], none⟩ := by
      decide +kernel
    have hitems : Items [.primaryKey, .dataType .int, .foreignKey "b" "c"]
        [.primaryKey, .dataType .int, .foreignKey, .reference "b" "c"] :=
      .snoc (.snoc (.snoc .nil .primaryKey) (.dataType .int)) (.foreignKey "b" "c")
    exact (modifier_order_irrelevant (by decide) (.intro hitems)
      (.intro (.snoc (.snoc (.snoc .nil (.foreignKey "b" "c")) (.dataType .int)) .primaryKey))
      hbefore hrest hscan).2 (.inl ⟨by decide, "b", "c", by decide⟩)

end Schemata.Definition
