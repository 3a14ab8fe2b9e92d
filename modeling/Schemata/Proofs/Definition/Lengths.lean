import Schemata.Proofs.Definition.Names

/-!
# Which columns have a maximum length

A maximum length is allowed only where the latest data type is a string, but a data type behind the
length still replaces that string and leaves the length where it is. `lengths_on_strings_iff` says
that the columns of a text whose maximum length does not belong to a string are exactly those that
are declared in this way. A column that is declared with one data type is never among them.
-/

namespace Schemata

/-- If the column has a maximum length, it is a string. -/
def Column.LengthOnString (column : Column) : Prop :=
  column.maxLength.isSome = true → column.dataType = .string

instance (column : Column) : Decidable column.LengthOnString :=
  inferInstanceAs (Decidable (_ → _))

namespace Definition

variable {schema : String} {declaration : ColumnDeclaration} {column : Column}

/-- Behind a maximum length there are data types, and the last of them is not a string. -/
def ColumnDeclaration.Retyped (declaration : ColumnDeclaration) : Prop :=
  ∃ before text after type, declaration.items = before ++ .length text :: after ∧
    lastOf Item.type? after = some type ∧ type ≠ .string

/-- The data types that a column is declared with, in order. -/
def ColumnDeclaration.types (declaration : ColumnDeclaration) : List DataType :=
  declaration.items.filterMap Item.type?

/-- Items behind others give the last value if they give any. -/
theorem last_of_append {α : Type} (pick : Item → Option α) (before after : List Item) :
    lastOf pick (before ++ after) = (lastOf pick after).or (lastOf pick before) := by
  rw [lastOf, lastOf, lastOf, List.filterMap_append, List.getLast?_append]

/-- The last data type around a maximum length is the last one behind it, or the string that it
was given for. -/
theorem Readable.type_around_length {items before after : List Item} {text : String}
    (h : Readable items) (hplace : items = before ++ .length text :: after) :
    lastOf Item.type? items = (lastOf Item.type? after).or (some .string) := by
  have hstring := (h.length hplace).1
  rw [hplace, last_of_append, hstring]
  rfl

/-- A declared column has a maximum length exactly if one of its items is a maximum length. -/
theorem ColumnDeclaration.Denotes.length_iff (hsound : declaration.Sound)
    (h : declaration.Denotes schema column) :
    column.maxLength.isSome = true ↔ ∃ text, .length text ∈ declaration.items := by
  have hsame : column.maxLength = (lastOf Item.length? declaration.items).bind
      (Literal.unsigned? 32) := congrArg Modifiers.maxLength h.modifiers
  have hitem : (lastOf Item.length? declaration.items).isSome = true ↔
      ∃ text, .length text ∈ declaration.items := by
    rw [last_of_is_some_iff]
    constructor
    · rintro ⟨item, hmem, hlength⟩
      cases item <;> simp [Item.length?] at hlength
      exact ⟨_, hmem⟩
    · rintro ⟨text, hmem⟩
      exact ⟨_, hmem, rfl⟩
  rw [hsame, ← hitem]
  cases hlast : lastOf Item.length? declaration.items with
  | none => rfl
  | some text =>
      -- the text of the last length was checked when it was read
      obtain ⟨item, hmem, hpick⟩ := last_of_mem hlast
      cases item <;> cases hpick
      obtain ⟨before, after, hplace⟩ := List.append_of_mem hmem
      obtain ⟨length, hread⟩ := is_length_iff.1 (hsound.length hplace).2
      simp [hread]

/-- The maximum length of a declared column belongs to a string unless a data type behind it
replaces the string. -/
theorem ColumnDeclaration.Denotes.length_on_string_iff (hsound : declaration.Sound)
    (h : declaration.Denotes schema column) :
    column.LengthOnString ↔ ¬ declaration.Retyped := by
  have htype := h.dataType
  constructor
  · intro hstring ⟨before, text, after, type, hplace, hafter, hother⟩
    rw [hsound.type_around_length hplace, hafter, Option.some_or, Option.some.injEq] at htype
    refine hother ?_
    rw [htype]
    refine hstring ((h.length_iff hsound).2 ⟨text, ?_⟩)
    rw [hplace]
    exact List.mem_append_right _ List.mem_cons_self
  · intro hkept hlength
    by_contra hother
    obtain ⟨text, hmem⟩ := (h.length_iff hsound).1 hlength
    obtain ⟨before, after, hplace⟩ := List.append_of_mem hmem
    rw [hsound.type_around_length hplace] at htype
    cases hafter : lastOf Item.type? after with
    | none =>
        rw [hafter, Option.none_or, Option.some.injEq] at htype
        exact hother htype.symm
    | some type =>
        rw [hafter, Option.some_or, Option.some.injEq] at htype
        exact hkept ⟨before, text, after, type, hplace, hafter, htype ▸ hother⟩

/-- A data type that replaces another one is the second one at least. -/
theorem ColumnDeclaration.Retyped.types_length (hsound : declaration.Sound)
    (h : declaration.Retyped) : 1 < declaration.types.length := by
  obtain ⟨before, text, after, type, hplace, hafter, -⟩ := h
  have hbefore := (hsound.length hplace).1
  have hcount {items : List Item} {found : DataType}
      (hlast : lastOf Item.type? items = some found) : 0 < (items.filterMap Item.type?).length :=
    List.length_pos_of_mem (List.mem_of_getLast? hlast)
  have hfirst := hcount hbefore
  have hsecond := hcount hafter
  have hnone : Item.type? (.length text) = none := rfl
  rw [types, hplace, List.filterMap_append, List.filterMap_cons_none hnone, List.length_append]
  omega

/-- In every text that parses, the maximum length of a column belongs to a string exactly if no data
type behind it replaces the string. So it does if the column is declared with one data type. -/
theorem lengths_on_strings_iff {text : String} {tables : List Table}
    (h : parse schema text = .ok tables) :
    ∃ tokens declarations, Token.tokenize text = .ok tokens ∧ File declarations tokens ∧
      List.Forall₂ (TableDeclaration.Denotes schema) declarations tables ∧
      List.Forall₂ (fun declaration table => List.Forall₂ (fun declared column =>
        (column.LengthOnString ↔ ¬ declared.Retyped) ∧
          (declared.types.length = 1 → column.LengthOnString))
        declaration.columns table.columns) declarations tables := by
  obtain ⟨tokens, declarations, hscan, hfile, hsound, hdenotes⟩ := parse_sound h
  refine ⟨tokens, declarations, hscan, hfile, hdenotes, ?_⟩
  have hboth := (List.forall₂_and_left _ _).2 ⟨hsound, hdenotes⟩
  refine hboth.imp fun declaration table hdeclaration => ?_
  have hcolumns := (List.forall₂_and_left _ _).2 ⟨hdeclaration.1, hdeclaration.2.columns⟩
  refine hcolumns.imp fun declared column hdeclared => ?_
  have hiff := hdeclared.2.length_on_string_iff hdeclared.1
  refine ⟨hiff, fun hone => hiff.2 fun hretyped => ?_⟩
  have hmore := hretyped.types_length hdeclared.1
  omega

/-- A column whose data type is given twice, where the string comes last. -/
theorem later_string_has_length :
    ∃ tables, parse "public" "t \x7b a int string [10] uq, b string 5 \x7d" = .ok tables ∧
      (tables.flatMap fun table => table.columns.map (·.maxLength)) = [some 10, some 5] ∧
      ∃ declarations, List.Forall₂ (TableDeclaration.Denotes "public") declarations tables ∧
        List.Forall₂ (fun declaration table => List.Forall₂ (fun declared column =>
          (column.LengthOnString ↔ ¬ declared.Retyped) ∧
            (declared.types.length = 1 → column.LengthOnString))
          declaration.columns table.columns) declarations tables := by
  have hsome : ∃ tables, parse "public" "t \x7b a int string [10] uq, b string 5 \x7d" =
      .ok tables ∧ (tables.flatMap fun table => table.columns.map (·.maxLength)) =
        [some 10, some 5] := exists_eq_ok (by decide +kernel)
  obtain ⟨tables, hparse, hlengths⟩ := hsome
  obtain ⟨tokens, declarations, -, -, hdenotes, hcolumns⟩ := lengths_on_strings_iff hparse
  exact ⟨tables, hparse, hlengths, declarations, hdenotes, hcolumns⟩

/-- An integer column with a maximum length, which was given when the column was a string. -/
theorem retyped_keeps_length :
    ∃ tables, parse "public" "t \x7b a string [10] int \x7d" = .ok tables ∧
      ∃ table ∈ tables, ∃ column ∈ table.columns,
        column.maxLength = some 10 ∧ column.dataType = .int ∧ ¬ column.LengthOnString :=
  exists_eq_ok (by decide +kernel)

end Definition

end Schemata
