import Schemata.Proofs.Generation
import Schemata.Proofs.Storage.Columns

/-!
# The outline of a column line

The line of a column is its name, its type and optional clauses. The outline of a column lists what
its line says, and by `column_definition_iff` the line is the text of the outline. By
`Outline.text_inj` this text can be read in one way only: every clause begins with a blank and a
letter that no clause behind it begins with, and what stands in front of it ends there.
-/

namespace Schemata

namespace Storage

/-! ## Optional clauses -/

/-- A clause that is written if it has an argument. -/
def clause (keyword : String) (argument : Option String) : String :=
  (argument.map (keyword ++ ·)).getD ""

/-- The argument of a clause that is only a keyword. -/
def bare (present : Bool) : Option String :=
  if present then some "" else none

/-- The argument of a keyword says whether it is present. -/
theorem bare_inj {left right : Bool} (h : bare left = bare right) : left = right := by
  cases left <;> cases right <;> simp_all [bare]

/-- `Opens letters text` says that the text is empty or begins with a blank and one of the
letters. -/
def Opens (letters : List Char) (text : String) : Prop :=
  text = "" ∨ ∃ letter ∈ letters, ∃ rest, text.toList = ' ' :: letter :: rest

variable {keyword rest other : String} {letter : Char} {letters : List Char}

/-- A clause opens with its letter, or with what follows it. -/
theorem opens_clause {behind : List Char} (hkeyword : keyword.toList = ' ' :: letter :: behind)
    (h : Opens letters rest) (argument : Option String) :
    Opens (letter :: letters) (clause keyword argument ++ rest) := by
  cases argument with
  | none =>
      rw [show clause keyword none = "" from rfl, String.empty_append]
      refine h.imp_right ?_
      rintro ⟨found, hmem, htext⟩
      exact ⟨found, List.mem_cons_of_mem letter hmem, htext⟩
  | some text =>
      refine .inr ⟨letter, List.mem_cons_self, behind ++ text.toList ++ rest.toList, ?_⟩
      simp [clause, hkeyword]

/-- What opens with other letters does not begin with a keyword. -/
theorem Opens.ne_append {behind : List Char} (h : Opens letters rest)
    (hkeyword : keyword.toList = ' ' :: letter :: behind) (hletter : letter ∉ letters)
    (more : String) : rest ≠ keyword ++ more := by
  rintro rfl
  rcases h with hempty | ⟨found, hmem, tail, htext⟩
  · have hlist := congrArg String.toList hempty
    simp [hkeyword] at hlist
  · rw [String.toList_append, hkeyword] at htext
    cases htext
    exact hletter hmem

/-- Two texts that begin with the same optional clause have the same argument for it, where the
argument can be told from what follows. -/
theorem clause_inj {behind : List Char} (hkeyword : keyword.toList = ' ' :: letter :: behind)
    (hletter : letter ∉ letters) (hrest : Opens letters rest) (hother : Opens letters other)
    {left right : Option String}
    (hargument : ∀ a ∈ left, ∀ b ∈ right, a ++ rest = b ++ other → a = b ∧ rest = other)
    (h : clause keyword left ++ rest = clause keyword right ++ other) :
    left = right ∧ rest = other := by
  cases left with
  | none =>
      cases right with
      | none => exact ⟨rfl, by simpa [clause] using h⟩
      | some b =>
          have hbegins : rest = keyword ++ (b ++ other) := by
            simpa [clause, String.append_assoc] using h
          exact absurd hbegins (hrest.ne_append hkeyword hletter _)
  | some a =>
      cases right with
      | none =>
          have hbegins : other = keyword ++ (a ++ rest) := by
            simpa [clause, String.append_assoc] using h.symm
          exact absurd hbegins (hother.ne_append hkeyword hletter _)
      | some b =>
          have hbehind : a ++ rest = b ++ other := by
            have hsame : keyword ++ (a ++ rest) = keyword ++ (b ++ other) := by
              simpa [clause, String.append_assoc] using h
            simpa using hsame
          obtain ⟨rfl, heq⟩ := hargument a rfl b rfl hbehind
          exact ⟨rfl, heq⟩

/-- Two texts that begin with the same optional keyword have it or not. -/
theorem keyword_inj {behind : List Char} (hkeyword : keyword.toList = ' ' :: letter :: behind)
    (hletter : letter ∉ letters) (hrest : Opens letters rest) (hother : Opens letters other)
    {left right : Bool}
    (h : clause keyword (bare left) ++ rest = clause keyword (bare right) ++ other) :
    left = right ∧ rest = other := by
  have hempty {present : Bool} {argument : String} (hargument : argument ∈ bare present) :
      argument = "" := by
    cases present <;> simp_all [bare]
  obtain ⟨hmark, heq⟩ := clause_inj hkeyword hletter hrest hother (fun a ha b hb hsame => by
    rw [hempty ha, hempty hb] at hsame ⊢
    exact ⟨rfl, by simpa using hsame⟩) h
  exact ⟨bare_inj hmark, heq⟩

/-- Where two texts begin with pieces that lack a character and go on with this character, or not at
all, the pieces are the same. -/
theorem piece_inj {c : Char} {left right : String} (hleft : c ∉ left.toList)
    (hright : c ∉ right.toList) (hrest : ∀ d ∈ rest.toList.head?, d = c)
    (hother : ∀ d ∈ other.toList.head?, d = c) (h : left ++ rest = right ++ other) :
    left = right ∧ rest = other := by
  have hfirst {piece tail : String} (hpiece : c ∉ piece.toList)
      (htail : ∀ d ∈ tail.toList.head?, d = c) :
      (piece ++ tail).toList.takeWhile (· != c) = piece.toList := by
    have hall : ∀ d ∈ piece.toList, (d != c) = true := by
      intro d hd
      rw [bne_iff_ne]
      rintro rfl
      exact hpiece hd
    rw [String.toList_append, List.takeWhile_append_of_pos hall]
    cases hlist : tail.toList with
    | nil => simp
    | cons d others =>
        rw [htail d (by rw [hlist]; rfl)]
        simp
  have hpieces : left = right := by
    apply String.toList_inj.1
    rw [← hfirst hleft hrest, h, hfirst hright hother]
  subst hpieces
  exact ⟨rfl, by simpa using h⟩

/-- A piece that lacks a character is read back where this character stands behind it. -/
theorem piece_before_inj {c : Char} {point left right : String} (hpoint : point.toList = [c])
    (hleft : c ∉ left.toList) (hright : c ∉ right.toList)
    (h : left ++ (point ++ rest) = right ++ (point ++ other)) : left = right ∧ rest = other := by
  have hhead (tail : String) : ∀ d ∈ (point ++ tail).toList.head?, d = c := by simp [hpoint]
  obtain ⟨hpiece, hbehind⟩ := piece_inj hleft hright (hhead rest) (hhead other) h
  exact ⟨hpiece, by simpa using hbehind⟩

/-- What opens with letters begins with a blank. -/
theorem Opens.head (h : Opens letters rest) : ∀ c ∈ rest.toList.head?, c = ' ' := by
  rcases h with rfl | ⟨letter, -, tail, htext⟩
  · simp
  · simp [htext]

/-! ## Outlines -/

/-- What the line of a column says, in the order in which it says it. -/
@[ext]
structure Outline where
  name : String
  type : String
  isKey : Bool
  notNull : Bool
  reference : Option String
  value : Option String
  unique : Bool

namespace Outline

/-- The end of the line from the default value on. -/
def valuePart (outline : Outline) : String :=
  clause " DEFAULT " outline.value ++ clause " UNIQUE" (bare outline.unique)

/-- The end of the line from the foreign key on. -/
def referencePart (outline : Outline) : String :=
  clause " REFERENCES " outline.reference ++ outline.valuePart

/-- The end of the line from the clause about nulls on. -/
def nullPart (outline : Outline) : String :=
  clause " NOT NULL" (bare outline.notNull) ++ outline.referencePart

/-- The end of the line from the clause about the primary key on. -/
def keyPart (outline : Outline) : String :=
  clause " PRIMARY KEY" (bare outline.isKey) ++ outline.nullPart

/-- The line of an outline. -/
def text (outline : Outline) : String :=
  outline.name ++ (" " ++ (outline.type ++ outline.keyPart))

/-- The words of the outline have no blanks, and its default value cannot be taken for a clause
behind it. -/
structure Proper (outline : Outline) : Prop where
  name : ' ' ∉ outline.name.toList
  type : ' ' ∉ outline.type.toList
  reference : ∀ key ∈ outline.reference, ' ' ∉ key.toList
  value : ∀ expression ∈ outline.value, 'U' ∉ expression.toList

variable {left right : Outline}

/-- The last clause opens with its letter. -/
theorem opens_unique (outline : Outline) :
    Opens ['U'] (clause " UNIQUE" (bare outline.unique)) := by
  have hopens : Opens ['U'] (clause " UNIQUE" (bare outline.unique) ++ "") :=
    opens_clause rfl (.inl rfl) (bare outline.unique)
  rwa [String.append_empty] at hopens

/-- The letters with which the end of the line from the default value on may open. -/
theorem opens_value_part (outline : Outline) : Opens ['D', 'U'] outline.valuePart :=
  opens_clause rfl outline.opens_unique outline.value

/-- The letters with which the end of the line from the foreign key on may open. -/
theorem opens_reference_part (outline : Outline) : Opens ['R', 'D', 'U'] outline.referencePart :=
  opens_clause rfl outline.opens_value_part outline.reference

/-- The letters with which the end of the line from the clause about nulls on may open. -/
theorem opens_null_part (outline : Outline) : Opens ['N', 'R', 'D', 'U'] outline.nullPart :=
  opens_clause rfl outline.opens_reference_part (bare outline.notNull)

/-- The letters with which the end of the line from the clause about the primary key on may open. -/
theorem opens_key_part (outline : Outline) : Opens ['P', 'N', 'R', 'D', 'U'] outline.keyPart :=
  opens_clause rfl outline.opens_null_part (bare outline.isKey)

/-- The last clause is read back. -/
theorem unique_inj
    (h : clause " UNIQUE" (bare left.unique) = clause " UNIQUE" (bare right.unique)) :
    left.unique = right.unique := by
  have hempty : Opens [] "" := .inl rfl
  exact (keyword_inj rfl (by decide) hempty hempty (congrArg (· ++ "") h)).1

/-- A default value ends where the last clause begins, or with the line. -/
theorem value_argument_inj {expression other : String} (hexpression : 'U' ∉ expression.toList)
    (hother : 'U' ∉ other.toList)
    (h : expression ++ clause " UNIQUE" (bare left.unique) =
      other ++ clause " UNIQUE" (bare right.unique)) :
    expression = other ∧
      clause " UNIQUE" (bare left.unique) = clause " UNIQUE" (bare right.unique) := by
  -- only the last clause has the letter, so both lines have the clause or none has
  have hletter {text : String} {present : Bool} (htext : 'U' ∉ text.toList) :
      'U' ∈ (text ++ clause " UNIQUE" (bare present)).toList ↔ present = true := by
    cases present <;> simp [clause, bare, htext]
  have hunique : left.unique = right.unique := by
    rw [Bool.eq_iff_iff, ← hletter hexpression, h, hletter hother]
  rw [hunique] at h ⊢
  exact ⟨by simpa using h, rfl⟩

/-- The default value and the last clause are read back. -/
theorem value_part_inj (hleft : left.Proper) (hright : right.Proper)
    (h : left.valuePart = right.valuePart) :
    left.value = right.value ∧ left.unique = right.unique := by
  have hsplit := clause_inj rfl (by decide) left.opens_unique right.opens_unique
    (fun a ha b hb => value_argument_inj (hleft.value a ha) (hright.value b hb)) h
  exact ⟨hsplit.1, unique_inj hsplit.2⟩

/-- The foreign key is read back with what follows it. -/
theorem reference_part_inj (hleft : left.Proper) (hright : right.Proper)
    (h : left.referencePart = right.referencePart) :
    left.reference = right.reference ∧ left.valuePart = right.valuePart :=
  clause_inj rfl (by decide) left.opens_value_part right.opens_value_part
    (fun a ha b hb => piece_inj (hleft.reference a ha) (hright.reference b hb)
      left.opens_value_part.head right.opens_value_part.head) h

/-- A line can be read in one way only. -/
theorem text_inj (hleft : left.Proper) (hright : right.Proper) (h : left.text = right.text) :
    left = right := by
  obtain ⟨hname, hbehind⟩ := piece_before_inj rfl hleft.name hright.name h
  obtain ⟨htype, hkeyPart⟩ := piece_inj hleft.type hright.type left.opens_key_part.head
    right.opens_key_part.head hbehind
  obtain ⟨hkey, hnullPart⟩ :=
    keyword_inj rfl (by decide) left.opens_null_part right.opens_null_part hkeyPart
  obtain ⟨hnull, hreferencePart⟩ :=
    keyword_inj rfl (by decide) left.opens_reference_part right.opens_reference_part hnullPart
  obtain ⟨hreference, hvaluePart⟩ := reference_part_inj hleft hright hreferencePart
  obtain ⟨hvalue, hunique⟩ := value_part_inj hleft hright hvaluePart
  exact Outline.ext hname htype hkey hnull hreference hvalue hunique

end Outline

/-! ## The outline of a column -/

/-- The expression that a new row gets for a column that it leaves out. -/
def storedValue? (column : Column) : Option String :=
  if column.autoGenerate then
    if column.dataType = .guid then some "uuid_generate_v4()" else none
  else
    column.defaultExpression.toOption

/-- What the line of a column says. -/
def outlineOf (column : Column) : Outline where
  name := column.name
  type := columnType column
  isKey := column.primaryKey
  notNull := !column.nullable && !column.primaryKey
  reference := column.foreignKey.map (·.describe)
  value := storedValue? column
  unique := column.unique && !column.primaryKey

variable {column : Column} {line : String}

/-- A generated column is a primary key and nothing else. -/
theorem generated_is_key (h : column.autoGenerate = true) :
    column.primaryKey = true ∧ column.nullable = false ∧ column.foreignKey = none ∧
      column.defaultValue = none := by
  obtain ⟨hforeign, hnull, hkey, hdefault⟩ := Definition.conflict_eq_none_iff.1 column.sound
  refine ⟨hkey h, ?_, ?_, ?_⟩
  · simpa using hnull (hkey h)
  · simpa using hforeign (hkey h)
  · simpa using hdefault h

/-- The clauses of a generated key and of a default value exclude each other, and so do the first
one and the clauses between them. -/
theorem value_clauses (h : column.WellFormed) :
    ∃ generated default, generatedClause column = .ok generated ∧
      defaultClause column = .ok default ∧
      generated ++ notNullClause column ++ referencesClause column ++ default =
        notNullClause column ++ referencesClause column ++
          clause " DEFAULT " (storedValue? column) := by
  cases hauto : column.autoGenerate with
  | true =>
      obtain ⟨hkey, hnull, hforeign, hdefault⟩ := generated_is_key hauto
      rcases h.generated hauto with htype | htype
      · refine ⟨"", "", ?_, ?_, ?_⟩ <;>
          simp [generatedClause, defaultClause, storedValue?, clause, hauto, htype, hdefault]
      · refine ⟨" DEFAULT uuid_generate_v4()", "", ?_, ?_, ?_⟩ <;>
          simp [generatedClause, defaultClause, notNullClause, referencesClause, storedValue?,
            clause, hauto, htype, hdefault, hkey, hforeign]
  | false =>
      cases hdefault : column.defaultValue with
      | none =>
          have hnone := default_expression_of_none hdefault
          refine ⟨"", "", ?_, ?_, ?_⟩ <;>
            simp [generatedClause, defaultClause, storedValue?, clause, hauto, hdefault, hnone,
              Except.toOption]
      | some value =>
          obtain ⟨expression, hexpression⟩ := h.default (by rw [hdefault]; rfl)
          refine ⟨"", " DEFAULT " ++ expression, ?_, ?_, ?_⟩ <;>
            simp [generatedClause, defaultClause, storedValue?, clause, hauto, hdefault,
              hexpression, Except.toOption, Except.map]

/-- The clauses whose text does not depend on other clauses. -/
theorem fixed_clauses (column : Column) :
    keyClause column = clause " PRIMARY KEY" (bare column.primaryKey) ∧
      notNullClause column = clause " NOT NULL" (bare (!column.nullable && !column.primaryKey)) ∧
      referencesClause column = clause " REFERENCES " (column.foreignKey.map (·.describe)) ∧
      uniqueClause column = clause " UNIQUE" (bare (column.unique && !column.primaryKey)) := by
  have hmark (keyword : String) (present : Bool) :
      (if present then keyword else "") = clause keyword (bare present) := by
    cases present <;> simp [clause, bare]
  refine ⟨hmark _ _, hmark _ _, ?_, hmark _ _⟩
  unfold referencesClause
  cases column.foreignKey <;> rfl

/-- The line of a column is the text of its outline. -/
theorem column_definition_iff :
    columnDefinition column = .ok line ↔ column.WellFormed ∧ line = (outlineOf column).text := by
  have hline (hwell : column.WellFormed) :
      columnDefinition column = .ok (outlineOf column).text := by
    obtain ⟨generated, default, hgenerated, hdefault, hclauses⟩ := value_clauses hwell
    obtain ⟨hkey, hnull, hreference, hunique⟩ := fixed_clauses column
    have hbehind := congrArg (· ++ uniqueClause column) hclauses
    rw [columnDefinition, hgenerated, hdefault]
    refine congrArg Except.ok ?_
    simp only [hkey, hnull, hreference, hunique, String.append_assoc] at hbehind ⊢
    rw [hbehind]
    rfl
  constructor
  · intro h
    have hwell : column.WellFormed := by
      refine column_well_formed_iff.2 fun cause hfails => ?_
      rw [column_definition_error_iff.2 hfails] at h
      cases h
    exact ⟨hwell, Except.ok.inj (h.symm.trans (hline hwell))⟩
  · rintro ⟨hwell, rfl⟩
    exact hline hwell

/-- The default value of a column cannot be taken for the last clause. -/
theorem stored_value_letter {expression : String} (h : storedValue? column = some expression) :
    'U' ∉ expression.toList := by
  unfold storedValue? at h
  split at h
  · obtain ⟨-, heq⟩ := Option.ite_none_right_eq_some.1 h
    cases heq
    decide
  · cases hexpression : column.defaultExpression with
    | error cause => simp [hexpression, Except.toOption] at h
    | ok text =>
        obtain rfl : text = expression := by simpa [hexpression, Except.toOption] using h
        rcases default_expression_form hexpression with rfl | rfl | hnumber
        · decide
        · decide
        · exact hnumber.not_mem (by decide)

/-- The outline of a column can be read back if the names of the column are made of the characters
of names. -/
theorem outline_proper (h : column.Spelled) : (outlineOf column).Proper := by
  refine ⟨h.name.not_mem (by decide), ?_, ?_, fun _ => stored_value_letter⟩
  · show ' ' ∉ (columnType column).toList
    unfold columnType
    split
    · decide
    · cases column.dataType <;> decide
  · intro text htext
    obtain ⟨key, hkey, rfl⟩ := Option.map_eq_some_iff.1 htext
    have hreferred := h.referred
    simp only [Column.referredNames, hkey, List.forall_mem_cons] at hreferred
    obtain ⟨hschema, htable, hpoint, -⟩ := hreferred
    simp [ForeignKey.describe, ForeignKey.target, hschema.not_mem (c := ' ') (by decide),
      htable.not_mem (c := ' ') (by decide), hpoint.not_mem (c := ' ') (by decide)]

end Storage

end Schemata
