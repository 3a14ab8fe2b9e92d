import Mathlib.Data.List.Induction
import Schemata.Proofs.Definition.Grammar

/-!
# Reading the items of a column

The draft of a column holds what the items read so far stand for. `read_eq_ok_iff` says when one
more item can be read and what it does to the draft, and `finish_eq_ok_iff` which drafts can be
completed and to which columns.
-/

namespace Schemata.Definition

/-! ## Lists of items -/

/-- One more item gives the last value if it gives any. -/
theorem last_of_snoc {α : Type} (pick : Item → Option α) (items : List Item) (item : Item) :
    lastOf pick (items ++ [item]) = (pick item).or (lastOf pick items) := by
  rw [lastOf, lastOf, List.filterMap_append, List.getLast?_append]
  cases h : pick item <;> simp [h]

/-- There is a last value exactly if one of the items gives a value. -/
theorem last_of_is_some_iff {α : Type} {pick : Item → Option α} {items : List Item} :
    (lastOf pick items).isSome = true ↔ ∃ item ∈ items, (pick item).isSome = true := by
  induction items using List.reverseRecOn with
  | nil => simp [lastOf]
  | append_singleton items item ih =>
      rw [last_of_snoc, Option.isSome_or, Bool.or_eq_true, ih]
      simp [or_and_right, exists_or, or_comm]

/-- The place of an item in a list with one more item: it is the last one or stands before it. -/
theorem snoc_eq_append_cons {items before after : List Item} {item found : Item}
    (h : items ++ [item] = before ++ found :: after) :
    (items = before ∧ item = found) ∨ ∃ rest, items = before ++ found :: rest := by
  rcases List.eq_nil_or_concat after with rfl | ⟨rest, last, rfl⟩
  · obtain ⟨hitems, hitem⟩ := List.append_inj' h rfl
    exact .inl ⟨hitems, List.singleton_inj.1 hitem⟩
  · have hassoc : items ++ [item] = (before ++ found :: rest) ++ [last] := by simpa using h
    exact .inr ⟨rest, (List.append_inj' hassoc rfl).1⟩

/-- What the items read so far must satisfy for one more item to be read. -/
def Item.Admissible (items : List Item) : Item → Prop
  | dataType _ | unique | default _ => True
  | primaryKey => (∀ table column, .foreignKey table column ∉ items) ∧ .null ∉ items
  | null => .primaryKey ∉ items
  | autoGenerate => .primaryKey ∈ items
  | foreignKey _ _ => .primaryKey ∉ items
  | length text => lastOf Item.type? items = some .string ∧ IsLength text

/-- Without items there is nothing to contradict. -/
theorem Readable.nil : Readable [] where
  length h := by simp at h
  autoGenerate h := by simp at h
  foreignKey h := by simp at h
  null h := by simp at h

/-- The items in front of readable items are readable. -/
theorem Readable.init {items : List Item} {item : Item} (h : Readable (items ++ [item])) :
    Readable items where
  length hplace := h.length (by rw [hplace, List.append_assoc, List.cons_append])
  autoGenerate hplace := h.autoGenerate (by rw [hplace, List.append_assoc, List.cons_append])
  foreignKey hkey hforeign :=
    h.foreignKey (List.mem_append_left _ hkey) (List.mem_append_left _ hforeign)
  null hkey hnull := h.null (List.mem_append_left _ hkey) (List.mem_append_left _ hnull)

/-- The last of readable items is admissible behind the others. -/
theorem Readable.last {items : List Item} {item : Item} (h : Readable (items ++ [item])) :
    item.Admissible items := by
  have hlast : item ∈ items ++ [item] := List.mem_append_right _ (List.mem_singleton_self item)
  cases item with
  | dataType | unique | default => trivial
  | primaryKey =>
      exact ⟨fun table column hkey => h.foreignKey hlast (List.mem_append_left _ hkey),
        fun hnull => h.null hlast (List.mem_append_left _ hnull)⟩
  | null => exact fun hkey => h.null (List.mem_append_left _ hkey) hlast
  | autoGenerate => exact h.autoGenerate rfl
  | foreignKey table column => exact fun hkey => h.foreignKey (List.mem_append_left _ hkey) hlast
  | length text => exact h.length rfl

/-- An admissible item behind readable items keeps them readable. -/
theorem Readable.snoc {items : List Item} {item : Item} (h : Readable items)
    (hitem : item.Admissible items) : Readable (items ++ [item]) where
  length hplace := by
    rcases snoc_eq_append_cons hplace with ⟨rfl, rfl⟩ | ⟨rest, hrest⟩
    · exact hitem
    · exact h.length hrest
  autoGenerate hplace := by
    rcases snoc_eq_append_cons hplace with ⟨rfl, rfl⟩ | ⟨rest, hrest⟩
    · exact hitem
    · exact h.autoGenerate hrest
  foreignKey {table column} hkey hforeign := by
    rw [List.mem_append, List.mem_singleton] at hkey hforeign
    rcases hkey with hkey | rfl
    · rcases hforeign with hforeign | rfl
      · exact h.foreignKey hkey hforeign
      · exact hitem hkey
    · exact hitem.1 table column (hforeign.resolve_right (by simp))
  null hkey hnull := by
    rw [List.mem_append, List.mem_singleton] at hkey hnull
    rcases hkey with hkey | rfl
    · rcases hnull with hnull | rfl
      · exact h.null hkey hnull
      · exact hitem hkey
    · exact hitem.2 (hnull.resolve_right (by simp))

/-! ## Drafts -/

/-- The draft of a column of which the given items were read. -/
def draftOf (schema name : String) (items : List Item) : Column.Draft :=
  { modifiersOf schema items with name, dataType := lastOf Item.type? items }

/-- What one item does to the draft of a column. -/
def Item.read (schema : String) (draft : Column.Draft) : Item → Except SemanticError Column.Draft
  | dataType type => .ok (draft.withType type)
  | primaryKey => draft.withPrimaryKey
  | null => draft.withNull
  | unique => .ok draft.withUnique
  | autoGenerate => draft.withAutoGenerate
  | foreignKey table column =>
    draft.beforeForeignKey.map (·.withForeignKey (.ofNames schema table column))
  | default value => .ok (draft.withDefault value)
  | length text => draft.withLength text

/-- What one more item adds to the draft of a column. -/
theorem draft_of_snoc (schema name : String) (items : List Item) (item : Item) :
    draftOf schema name (items ++ [item]) =
      match item with
      | .dataType type => (draftOf schema name items).withType type
      | .primaryKey => { draftOf schema name items with primaryKey := true }
      | .null => { draftOf schema name items with nullable := true }
      | .unique => (draftOf schema name items).withUnique
      | .autoGenerate => { draftOf schema name items with autoGenerate := true }
      | .foreignKey table column =>
          (draftOf schema name items).withForeignKey (.ofNames schema table column)
      | .default value => (draftOf schema name items).withDefault value
      | .length text =>
        { draftOf schema name items with maxLength := Literal.unsigned? 32 text } := by
  cases item <;>
    simp [draftOf, modifiersOf, last_of_snoc, Item.type?, Item.key?, Item.default?, Item.length?,
      Column.Draft.withType, Column.Draft.withUnique, Column.Draft.withForeignKey,
      Column.Draft.withDefault]

/-- Items give a foreign key exactly if one of them is a foreign key. -/
theorem modifiers_foreign_key_iff {schema : String} {items : List Item} :
    (modifiersOf schema items).foreignKey.isSome = true ↔
      ∃ table column, .foreignKey table column ∈ items := by
  rw [show (modifiersOf schema items).foreignKey.isSome = (lastOf Item.key? items).isSome from
    Option.isSome_map, last_of_is_some_iff]
  constructor
  · rintro ⟨item, hmem, hkey⟩
    cases item <;> simp [Item.key?] at hkey
    exact ⟨_, _, hmem⟩
  · rintro ⟨table, column, hmem⟩
    exact ⟨_, hmem, rfl⟩

/-- Items give a default value exactly if one of them is a default value. -/
theorem modifiers_default_iff {schema : String} {items : List Item} :
    (modifiersOf schema items).defaultValue.isSome = true ↔ ∃ value, .default value ∈ items := by
  rw [show (modifiersOf schema items).defaultValue = lastOf Item.default? items from rfl,
    last_of_is_some_iff]
  constructor
  · rintro ⟨item, hmem, hdefault⟩
    cases item <;> simp [Item.default?] at hdefault
    exact ⟨_, hmem⟩
  · rintro ⟨value, hmem⟩
    exact ⟨_, hmem, rfl⟩

/-- Items give a data type exactly if one of them is a data type. -/
theorem last_type_iff {items : List Item} :
    (∃ type, lastOf Item.type? items = some type) ↔ ∃ type, .dataType type ∈ items := by
  rw [← Option.isSome_iff_exists, last_of_is_some_iff]
  constructor
  · rintro ⟨item, hmem, htype⟩
    cases item <;> simp [Item.type?] at htype
    exact ⟨_, hmem⟩
  · rintro ⟨type, hmem⟩
    exact ⟨_, hmem, rfl⟩

/-- A text is read as an unsigned number of 32 bits exactly if it is one. -/
theorem is_length_iff {text : String} :
    IsLength text ↔ ∃ length, Literal.unsigned? 32 text = some length := by
  have hvalid : ∀ digits, (Literal.isDigits digits &&
      decide (Literal.digitsValue digits < Literal.twoPow 32)) = true ↔
        digits ≠ [] ∧ (∀ c ∈ digits, c.isDigit = true) ∧
          Literal.digitsValue digits ≤ 4294967295 := by
    intro digits
    rw [show Literal.twoPow 32 = 4294967296 by decide, Bool.and_eq_true, Literal.isDigits,
      Bool.and_eq_true, List.all_eq_true, decide_eq_true_eq, Nat.lt_succ_iff, and_assoc]
    simp
  constructor
  · rintro ⟨digits, htext, hdigits⟩
    refine ⟨Literal.digitsValue digits, ?_⟩
    rcases htext with htext | htext
    · obtain ⟨c, rest, rfl⟩ := List.exists_cons_of_ne_nil hdigits.1
      have hc : c ≠ '+' := by
        rintro rfl
        exact absurd (hdigits.2.1 '+' (by simp)) (by decide)
      simp only [Literal.unsigned?, htext, if_neg hc, if_pos ((hvalid _).2 hdigits)]
    · simp only [Literal.unsigned?, htext, if_true, if_pos ((hvalid _).2 hdigits)]
  · rintro ⟨length, h⟩
    simp only [Literal.unsigned?, Option.ite_none_right_eq_some, hvalid] at h
    split at h
    · exact absurd rfl h.1.1
    · next c rest htext =>
        by_cases hc : c = '+'
        · rw [if_pos hc] at h
          exact ⟨rest, .inr (hc ▸ htext), h.1⟩
        · rw [if_neg hc] at h
          exact ⟨c :: rest, .inl htext, h.1⟩

/-- One more item can be read into a draft exactly if it is admissible, and then the draft holds
what all items stand for. -/
theorem read_eq_ok_iff {schema name : String} {items : List Item} {item : Item}
    {draft : Column.Draft} :
    item.read schema (draftOf schema name items) = .ok draft ↔
      item.Admissible items ∧ draft = draftOf schema name (items ++ [item]) := by
  have hprimary : (draftOf schema name items).primaryKey = decide (.primaryKey ∈ items) := rfl
  rw [draft_of_snoc]
  cases item with
  | dataType | unique | default => simp [Item.read, Item.Admissible, eq_comm]
  | primaryKey =>
      have hnull : (draftOf schema name items).nullable = decide (.null ∈ items) := rfl
      have hkey : (draftOf schema name items).foreignKey.isSome = true ↔
          ∃ table column, .foreignKey table column ∈ items := modifiers_foreign_key_iff
      by_cases hforeign : ∃ table column, .foreignKey table column ∈ items
      · rw [Item.read, Column.Draft.withPrimaryKey, if_pos (hkey.2 hforeign)]
        obtain ⟨table, column, hmem⟩ := hforeign
        exact iff_of_false (by simp) (fun h => h.1.1 table column hmem)
      · rw [Item.read, Column.Draft.withPrimaryKey, if_neg (fun h => hforeign (hkey.1 h))]
        push Not at hforeign
        by_cases hmem : .null ∈ items
        · rw [if_pos (by rw [hnull, decide_eq_true hmem])]
          exact iff_of_false (by simp) (fun h => h.1.2 hmem)
        · rw [if_neg (by rw [hnull, decide_eq_false hmem]; decide)]
          simp [hmem, hforeign, Item.Admissible, eq_comm]
  | null =>
      simp only [Item.read, Column.Draft.withNull, hprimary, decide_eq_true_eq]
      split <;> simp [Item.Admissible, *, eq_comm]
  | autoGenerate =>
      simp only [Item.read, Column.Draft.withAutoGenerate, hprimary, decide_eq_true_eq]
      split <;> simp [Item.Admissible, *, eq_comm]
  | foreignKey table column =>
      simp only [Item.read, Column.Draft.beforeForeignKey, hprimary, decide_eq_true_eq]
      split <;> simp [Item.Admissible, Except.map, *, eq_comm]
  | length text =>
      -- the length is read only if the latest data type is a string
      have htype : (draftOf schema name items).dataType = lastOf Item.type? items := rfl
      simp only [Item.read, Column.Draft.withLength, Column.Draft.length?, htype, Item.Admissible,
        is_length_iff]
      split
      · next length hlength =>
          split at hlength
          · next hstring => simp [hstring, hlength, eq_comm]
          · simp at hlength
      · next hlength =>
          refine iff_of_false (by simp) ?_
          rintro ⟨⟨hstring, length, hsome⟩, -⟩
          rw [if_pos hstring, hsome] at hlength
          exact absurd hlength (by simp)

/-! ## Completing a draft -/

/-- The column of a specification has its modifiers and its data type, and names spelled from its
name. There is no such column if the modifiers conflict. -/
theorem of_spec_eq_ok_iff {spec : Column.Spec} {column : Column} :
    Column.ofSpec spec = .ok column ↔
      column.toModifiers = spec.toModifiers ∧ column.name = storageName spec.name ∧
        column.pascalName = pascalName spec.name ∧ column.camelName = camelName spec.name ∧
        column.dataType = spec.dataType := by
  unfold Column.ofSpec
  constructor
  · intro h
    split at h
    · simp at h
    · cases h
      exact ⟨rfl, rfl, rfl, rfl, rfl⟩
  · rintro ⟨hmodifiers, hname, hpascal, hcamel, htype⟩
    have hsound := column.sound
    rw [hmodifiers] at hsound
    split
    · next hconflict => simp [hsound] at hconflict
    · cases column
      simp_all

/-- Four combinations of modifiers conflict, and no others. -/
theorem conflict_eq_none_iff {modifiers : Modifiers} :
    modifiers.conflict? = none ↔
      (modifiers.primaryKey = true → ¬ modifiers.foreignKey.isSome = true) ∧
      (modifiers.primaryKey = true → ¬ modifiers.nullable = true) ∧
      (modifiers.autoGenerate = true → modifiers.primaryKey = true) ∧
      (modifiers.autoGenerate = true → ¬ modifiers.defaultValue.isSome = true) := by
  unfold Modifiers.conflict?
  cases modifiers.primaryKey <;> cases modifiers.autoGenerate <;> cases modifiers.nullable <;>
    cases modifiers.foreignKey <;> cases modifiers.defaultValue <;> simp

/-- The only conflict that reading items one after the other leaves is a default value on an
automatically generated column. -/
theorem Readable.conflict_iff {schema : String} {items : List Item} (h : Readable items) :
    (modifiersOf schema items).conflict? = none ↔
      ∀ value, .autoGenerate ∈ items → .default value ∉ items := by
  have hgenerated : .autoGenerate ∈ items → .primaryKey ∈ items := by
    intro hmem
    obtain ⟨before, after, hplace⟩ := List.append_of_mem hmem
    rw [hplace]
    exact List.mem_append_left _ (h.autoGenerate hplace)
  rw [conflict_eq_none_iff, modifiers_foreign_key_iff, modifiers_default_iff]
  simp only [modifiersOf, decide_eq_true_eq]
  constructor
  · rintro ⟨-, -, -, hclash⟩ value hmem hvalue
    exact hclash hmem ⟨value, hvalue⟩
  · intro hclash
    refine ⟨?_, h.null, hgenerated, ?_⟩
    · rintro hkey ⟨table, column, hmem⟩
      exact h.foreignKey hkey hmem
    · rintro hmem ⟨value, hvalue⟩
      exact hclash value hmem hvalue

/-- The draft of a column can be completed exactly if its declaration is sound, and then it becomes
the column that the declaration denotes. -/
theorem finish_eq_ok_iff {schema label : String} (declaration : ColumnDeclaration)
    {column : Column} (h : Readable declaration.items) :
    (draftOf schema declaration.name declaration.items).finish label = .ok column ↔
      declaration.name ≠ "" ∧ declaration.Sound ∧ declaration.Denotes schema column := by
  have htype : (draftOf schema declaration.name declaration.items).dataType =
      lastOf Item.type? declaration.items := rfl
  rw [Column.Draft.finish, htype]
  cases hlast : lastOf Item.type? declaration.items with
  | none =>
      refine iff_of_false (by simp) ?_
      rintro ⟨-, hsound, -⟩
      obtain ⟨type, hsome⟩ := last_type_iff.2 hsound.dataType
      rw [hlast] at hsome
      exact absurd hsome (by simp)
  | some type =>
      by_cases hname : declaration.name = ""
      · simp [draftOf, hname]
      · have hempty :
            ¬ (draftOf schema declaration.name declaration.items).name.isEmpty = true := by
          simpa [draftOf] using hname
        simp only [if_neg hempty, of_spec_eq_ok_iff]
        constructor
        · rintro ⟨hmodifiers, hstorage, hpascal, hcamel, hdata⟩
          have hclash := h.conflict_iff.1 (hmodifiers ▸ column.sound)
          exact ⟨hname,
            { h with dataType := last_type_iff.1 ⟨type, hlast⟩, default := hclash _ },
            hstorage, hpascal, hcamel, by rw [hlast, hdata], hmodifiers⟩
        · rintro ⟨-, -, hdenotes⟩
          refine ⟨hdenotes.modifiers, hdenotes.name, hdenotes.pascalName, hdenotes.camelName, ?_⟩
          exact Option.some.inj (hdenotes.dataType.symm.trans hlast)

end Schemata.Definition
