import Schemata.Proofs.Definition.Items
import Schemata.Proofs.Error
import Schemata.Proofs.Naming
import Schemata.Proofs.Text.Letters
import Schemata.Table

/-!
# The spellings of an ASCII name agree

A name is spelled from the word in a definition text, from its storage name or from another spelling
of it. For ASCII names all of these ways lead to the same spellings, by `CoherentSpellings`. What
makes them agree is the shape of a host spelling: it consists of the numerals in front of the first
letter, the form of that letter, and letters and numerals that no further host spelling changes, by
`host_chars_shape`. So columns and tables do not depend on whether their names are given as they
are written or in storage spelling, by `spellings_coherent`.
-/

namespace Schemata

open Text

variable {text before : List Char} {name other : String}

/-! ## The shape of a host spelling -/

/-- The character is a numeral and not a letter. -/
def IsNumeral (c : Char) : Prop :=
  isAlphabetic c = false ∧ isAlphanumeric c = true

/-- An underscore is neither a letter nor a numeral. -/
theorem alphanumeric_ne_underscore {c : Char} (h : isAlphanumeric c = true) : (c == '_') = false := by
  rw [beq_eq_false_iff_ne]
  rintro rfl
  exact absurd h (by decide)

/-- Behind the first letter the form that it takes does not matter. -/
theorem host_chars_begun (initial form : Char → List Char) (opensWord : Bool) (text : List Char) :
    hostChars initial true opensWord text = hostChars form true opensWord text := by
  induction text generalizing opensWord with
  | nil => rfl
  | cons c rest ih => rw [hostChars, hostChars, Bool.true_or, ih]; rfl

/-- Behind the first letter a host spelling of ASCII characters is made of letters and numerals. -/
theorem host_chars_alphanumeric (initial : Char → List Char) (opensWord : Bool)
    (h : ∀ c ∈ text, isAscii c = true) :
    ∀ d ∈ hostChars initial true opensWord text, isAlphanumeric d = true := by
  induction text generalizing opensWord with
  | nil => exact fun d hd => absurd hd List.not_mem_nil
  | cons c rest ih =>
      rw [List.forall_mem_cons] at h
      rw [hostChars, Bool.true_or]
      refine List.forall_mem_append.2 ⟨?_, ih _ h.2⟩
      rw [Bool.not_true, Bool.false_and, if_neg Bool.false_ne_true]
      split
      · next hnumeral =>
          have hupper : isAlphanumeric c.toUpper = true :=
            forall_ascii (p := fun c => isAlphanumeric c = true → isAlphanumeric c.toUpper = true)
              (by decide) h.1 hnumeral
          rw [upper, if_pos h.1]
          cases opensWord with
          | true => exact List.forall_mem_singleton.2 hupper
          | false => exact List.forall_mem_singleton.2 hnumeral
      · exact fun d hd => absurd hd List.not_mem_nil

/-- Letters and numerals behind the first letter stay as they are. -/
theorem host_chars_of_alphanumeric (initial : Char → List Char)
    (h : ∀ c ∈ text, isAlphanumeric c = true) : hostChars initial true false text = text := by
  induction text with
  | nil => rfl
  | cons c rest ih =>
      rw [List.forall_mem_cons] at h
      rw [hostChars, h.1, alphanumeric_ne_underscore h.1, Bool.true_or, ih h.2]
      rfl

/-- Numerals in front of the first letter stay as they are. -/
theorem host_chars_numerals (initial : Char → List Char) (h : ∀ c ∈ before, IsNumeral c)
    (text : List Char) :
    hostChars initial false false (before ++ text) =
      before ++ hostChars initial false false text := by
  induction before with
  | nil => rfl
  | cons c rest ih =>
      rw [List.forall_mem_cons] at h
      rw [List.cons_append, hostChars, h.1.1, h.1.2, alphanumeric_ne_underscore h.1.2,
        Bool.false_or, ih h.2]
      rfl

/-- A host spelling of ASCII characters is made of numerals, or it has numerals in front of the form
of the first letter, and behind it letters and numerals that do not depend on this form. -/
theorem host_chars_shape (opensWord : Bool) (h : ∀ c ∈ text, isAscii c = true) :
    (∃ numerals, (∀ c ∈ numerals, IsNumeral c) ∧
      ∀ initial, hostChars initial false opensWord text = numerals) ∨
    ∃ numerals c after, (∀ d ∈ numerals, IsNumeral d) ∧
      (isAscii c = true ∧ isAlphabetic c = true) ∧ (∀ d ∈ after, isAlphanumeric d = true) ∧
      ∀ initial, hostChars initial false opensWord text = numerals ++ (initial c ++ after) := by
  induction text generalizing opensWord with
  | nil => exact .inl ⟨[], by simp, fun _ => rfl⟩
  | cons c rest ih =>
      rw [List.forall_mem_cons] at h
      cases hletter : isAlphabetic c with
      | true =>
          refine .inr ⟨[], c, hostChars upper true (c == '_') rest, by simp, ⟨h.1, hletter⟩,
            host_chars_alphanumeric upper _ h.2, fun initial => ?_⟩
          rw [hostChars, hletter, Bool.false_or, host_chars_begun initial upper]
          rfl
      | false =>
          -- a numeral stays as it is, also where it opens a word, and all else is dropped
          have hstep (initial : Char → List Char) : hostChars initial false opensWord (c :: rest) =
              (if isAlphanumeric c then [c] else []) ++
                hostChars initial false (c == '_') rest := by
            rw [hostChars, hletter, upper_of_not_letter hletter, ite_self]
            rfl
          have hpiece : ∀ d ∈ (if isAlphanumeric c then [c] else []), IsNumeral d := by
            split
            · next hnumeral => exact List.forall_mem_singleton.2 ⟨hletter, hnumeral⟩
            · exact fun d hd => absurd hd List.not_mem_nil
          rcases ih (c == '_') h.2 with ⟨numerals, hnumerals, heq⟩ |
            ⟨numerals, first, after, hnumerals, hfirst, hafter, heq⟩
          · exact .inl ⟨_, List.forall_mem_append.2 ⟨hpiece, hnumerals⟩, fun initial => by
              rw [hstep, heq]⟩
          · exact .inr ⟨_, first, after, List.forall_mem_append.2 ⟨hpiece, hnumerals⟩, hfirst,
              hafter, fun initial => by rw [hstep, heq, List.append_assoc]⟩

/-- The host spelling of a host spelling of ASCII characters is the one of the characters, if the
form of the first letter takes back what was done to it before. -/
theorem host_chars_again {inner outer : Char → List Char}
    (hforms : ∀ c, isAscii c = true → isAlphabetic c = true →
      ∃ d, inner c = [d] ∧ isAlphabetic d = true ∧ outer d = outer c)
    (h : ∀ c ∈ text, isAscii c = true) :
    hostChars outer false false (hostChars inner false false text) =
      hostChars outer false false text := by
  rcases host_chars_shape false h with ⟨numerals, hnumerals, heq⟩ |
    ⟨numerals, c, after, hnumerals, hfirst, hafter, heq⟩
  · have hempty := host_chars_numerals outer hnumerals []
    rw [List.append_nil] at hempty
    rw [heq, heq, hempty]
    exact List.append_nil numerals
  · obtain ⟨d, hinner, hletter, houter⟩ := hforms c hfirst.1 hfirst.2
    have hjoin := alphanumeric_ne_underscore (by rw [isAlphanumeric, hletter, Bool.true_or])
    rw [heq, heq, hinner, host_chars_numerals outer hnumerals, List.singleton_append,
      host_chars_letter _ _ _ ⟨hletter, hjoin⟩, if_neg Bool.false_ne_true,
      host_chars_of_alphanumeric outer hafter, houter]

/-! ## Spellings of a name -/

/-- The case forms of an ASCII letter. -/
theorem letter_forms {c : Char} (h : isAscii c = true) (hletter : isAlphabetic c = true) :
    (upper c = [c.toUpper] ∧ isAlphabetic c.toUpper = true ∧ lower c.toUpper = lower c) ∧
      (lower c = [c.toLower] ∧ isAlphabetic c.toLower = true ∧ upper c.toLower = upper c) :=
  forall_ascii (p := fun c => isAlphabetic c = true →
    (upper c = [c.toUpper] ∧ isAlphabetic c.toUpper = true ∧ lower c.toUpper = lower c) ∧
      (lower c = [c.toLower] ∧ isAlphabetic c.toLower = true ∧ upper c.toLower = upper c))
    (by decide) h hletter

/-- The Pascal name of an ASCII name has the same camel name. -/
theorem camel_name_pascal (h : IsAsciiText name) :
    camelName (pascalName name) = camelName name := by
  rw [camelName, pascalName, String.toList_ofList, host_chars_again ?_ h, camelName]
  exact fun c hascii hletter => ⟨c.toUpper, (letter_forms hascii hletter).1⟩

/-- The camel name of an ASCII name has the same Pascal name. -/
theorem pascal_name_camel (h : IsAsciiText name) :
    pascalName (camelName name) = pascalName name := by
  rw [pascalName, camelName, String.toList_ofList, host_chars_again ?_ h, pascalName]
  exact fun c hascii hletter => ⟨c.toLower, (letter_forms hascii hletter).2⟩

/-- `SameButFirstCase left right` says that two texts are equal except for the case of their first
letter, which can be upper case in the one and lower case in the other. -/
def SameButFirstCase (left right : List Char) : Prop :=
  left = right ∨ ∃ before c after, (∀ d ∈ before, isAlphabetic d = false) ∧
    isAlphabetic c = true ∧ left = before ++ c.toUpper :: after ∧
    right = before ++ c.toLower :: after

/-- Texts that are equal except for the case of their first letter are equally long. -/
theorem SameButFirstCase.length_eq {left right : List Char} (h : SameButFirstCase left right) :
    left.length = right.length := by
  rcases h with rfl | ⟨before, c, after, -, -, rfl, rfl⟩
  · rfl
  · rw [List.length_append, List.length_append, List.length_cons, List.length_cons]

/-- The Pascal name and the camel name of an ASCII name are equal except for the case of the first
letter. -/
theorem pascal_camel_same (h : IsAsciiText name) :
    SameButFirstCase (pascalName name).toList (camelName name).toList := by
  rw [pascalName, camelName, String.toList_ofList, String.toList_ofList]
  rcases host_chars_shape false h with ⟨numerals, -, heq⟩ |
    ⟨numerals, c, after, hnumerals, hfirst, -, heq⟩
  · exact .inl (by rw [heq, heq])
  · obtain ⟨⟨hupper, -⟩, hlower, -⟩ := letter_forms hfirst.1 hfirst.2
    refine .inr ⟨numerals, c, after, fun d hd => (hnumerals d hd).1, hfirst.2, ?_, ?_⟩
    · rw [heq, hupper]
      rfl
    · rw [heq, hlower]
      rfl

/-- The spellings of a name agree, whichever of them they are spelled from. -/
structure CoherentSpellings (name : String) : Prop where
  storageOfStorage : storageName (storageName name) = storageName name
  pascalOfStorage : pascalName (storageName name) = pascalName name
  camelOfStorage : camelName (storageName name) = camelName name
  camelOfPascal : camelName (pascalName name) = camelName name
  pascalOfCamel : pascalName (camelName name) = pascalName name
  length : (pascalName name).length = (camelName name).length
  firstCase : SameButFirstCase (pascalName name).toList (camelName name).toList

/-- The spellings of an ASCII name agree. -/
theorem IsAsciiText.coherent (h : IsAsciiText name) : CoherentSpellings name where
  storageOfStorage := storage_name_again h
  pascalOfStorage := pascal_name_storage h
  camelOfStorage := camel_name_storage h
  camelOfPascal := camel_name_pascal h
  pascalOfCamel := pascal_name_camel h
  length := (pascal_camel_same h).length_eq
  firstCase := pascal_camel_same h

/-! ## Columns and tables -/

/-- `Respells name other` says that `other` is the ASCII name `name` or its storage name. -/
def Respells (name other : String) : Prop :=
  IsAsciiText name ∧ (other = name ∨ other = storageName name)

/-- A name that is respelled has the same spellings. -/
theorem Respells.spellings (h : Respells name other) :
    storageName other = storageName name ∧ pascalName other = pascalName name ∧
      camelName other = camelName name := by
  obtain ⟨hascii, rfl | rfl⟩ := h
  · exact ⟨rfl, rfl, rfl⟩
  · exact ⟨storage_name_again hascii, pascal_name_storage hascii, camel_name_storage hascii⟩

/-- A specification with its name respelled succeeds or fails as it does, and with the same
column. -/
theorem of_spec_respelled {spec : Column.Spec} (h : Respells spec.name other) (column : Column) :
    Column.ofSpec { spec with name := other } = .ok column ↔ Column.ofSpec spec = .ok column := by
  obtain ⟨hstorage, hpascal, hcamel⟩ := h.spellings
  rw [Definition.of_spec_eq_ok_iff, Definition.of_spec_eq_ok_iff, hstorage, hpascal, hcamel]

/-- Two computations have the same result, or none, exactly if they have each result together. -/
theorem to_option_eq_iff {ε α : Type} {left right : Except ε α} :
    left.toOption = right.toOption ↔ ∀ a, left = .ok a ↔ right = .ok a := by
  have hsome {computation : Except ε α} {a : α} :
      computation.toOption = some a ↔ computation = .ok a := by
    cases computation <;> simp [Except.toOption]
  simp only [Option.ext_iff, hsome]

/-- All spellings of an ASCII name agree, whichever of them they are spelled from. So a column, a
foreign key and a table are the same whether their names are given as they are written or in storage
spelling, and a column cannot be made of the one exactly if it cannot be made of the other. -/
theorem spellings_coherent :
    (∀ name, IsAsciiText name → CoherentSpellings name) ∧
      (∀ (spec : Column.Spec) (other : String), Respells spec.name other →
        (Column.ofSpec { spec with name := other }).toOption = (Column.ofSpec spec).toOption) ∧
      (∀ schema space table target column point, Respells schema space → Respells table target →
        Respells column point →
          ForeignKey.ofNames space target point = .ofNames schema table column) ∧
      ∀ schema space name other columns, Respells schema space → Respells name other →
        Table.ofNames space other columns = .ofNames schema name columns := by
  refine ⟨fun name h => h.coherent, fun spec other h => ?_, ?_, ?_⟩
  · exact to_option_eq_iff.2 (of_spec_respelled h)
  · intro schema space table target column point hschema htable hcolumn
    rw [ForeignKey.ofNames, ForeignKey.ofNames, hschema.spellings.1, htable.spellings.1,
      hcolumn.spellings.1]
  · intro schema space name other columns hschema hname
    rw [Table.ofNames, Table.ofNames, hschema.spellings.1, hname.spellings.1, hname.spellings.2.1]

/-- A name with capitals, a numeral in front and several joins, as it is written and in storage
spelling. -/
theorem mixed_name_respelled :
    IsAsciiText "7-Order__ID" ∧ storageName "7-Order__ID" = "7-_order___i_d" ∧
      CoherentSpellings "7-Order__ID" ∧
      (∃ column, Column.ofSpec { name := "7-Order__ID", dataType := .int } = .ok column ∧
        Column.ofSpec { name := "7-_order___i_d", dataType := .int } = .ok column) ∧
      Table.ofNames "public" "7-_order___i_d" [] = .ofNames "public" "7-Order__ID" [] := by
  have hascii : IsAsciiText "7-Order__ID" :=
    fun _ => forall_listed (p := fun c => isAscii c = true) (by decide)
  have hpublic : IsAsciiText "public" :=
    fun _ => forall_listed (p := fun c => isAscii c = true) (by decide)
  have hstorage : "7-_order___i_d" = storageName "7-Order__ID" := by decide +kernel
  obtain ⟨hcoherent, hcolumn, -, htable⟩ := spellings_coherent
  obtain ⟨column, hok, -⟩ : ∃ column,
      Column.ofSpec { name := "7-Order__ID", dataType := .int } = .ok column ∧
        column.camelName = "7orderID" := exists_eq_ok (by decide +kernel)
  have hsame := hcolumn { name := "7-Order__ID", dataType := .int } _ ⟨hascii, .inr hstorage⟩
  exact ⟨hascii, hstorage.symm, hcoherent _ hascii,
    ⟨column, hok, (to_option_eq_iff.1 hsame column).2 hok⟩,
    htable _ _ _ _ [] ⟨hpublic, .inl rfl⟩ ⟨hascii, .inr hstorage⟩⟩

end Schemata
