import Schemata.Proofs.Definition.Parsing
import Schemata.Proofs.Token.Regions

/-!
# Commas and line breaks are interchangeable

Columns are separated by commas or by line breaks. By `separators_interchange` any of the commas of
a text can be replaced by line feeds, and inside of a table any of the line feeds by commas, and the
text still parses to the same tables. Behind the header of a table only line breaks are allowed, so
the second direction ends there. One separator is replaced at a time: the parser accepts a line
break wherever it accepts a comma and reaches the same state, inside of a table it accepts a comma
wherever it accepts a line break, and once it has read a separator more of them do not move it.
-/

namespace Schemata.Definition

open Token (newLine comma)

variable {schema : String} {state middle next : State} {token : Token}
  {tokens lexemes earlier later : List Token} {tables : List Table}

/-! ## Separators in front of the parser -/

/-- The phase is inside of the braces of a table. -/
def Phase.isInside : Phase → Bool
  | betweenTables | header _ => false
  | body _ | column _ _ | reference _ _ | default _ _ => true

/-- A step into a table or out of it is a step over a brace. -/
theorem step_inside (h : step schema state token = .ok next) :
    next.phase.isInside = token.keepsInside state.phase.isInside := by
  obtain ⟨found, phase⟩ := state
  cases phase with
  | betweenTables =>
      obtain ⟨phase, hphase, rfl⟩ := map_eq_ok_iff.1 h
      rcases step_between_iff.1 hphase with ⟨rfl | rfl, rfl⟩ | ⟨_ | space, name, rfl, rfl⟩ <;> rfl
  | header table =>
      obtain ⟨phase, hphase, rfl⟩ := map_eq_ok_iff.1 h
      rcases step_header_iff.1 hphase with ⟨rfl, rfl⟩ | ⟨rfl, rfl⟩ <;> rfl
  | body table =>
      rcases step_body_iff.1 h with ⟨rfl | rfl, rfl⟩ | ⟨name, rfl, rfl⟩ | ⟨rfl, rfl⟩ <;> rfl
  | column table draft =>
      rcases (step_column_iff schema).1 h with ⟨rfl | rfl, column, -, rfl⟩ | ⟨rfl, column, -, rfl⟩ |
        ⟨item, hitem, read, -, rfl⟩ | ⟨rfl, -, rfl⟩ | ⟨rfl, rfl⟩
      iterate 3 rfl
      · cases hitem <;> rfl
      iterate 2 rfl
  | reference table draft =>
      obtain ⟨phase, hphase, rfl⟩ := map_eq_ok_iff.1 h
      obtain ⟨target, column, rfl, rfl⟩ := step_reference_iff.1 hphase
      rfl
  | default table draft =>
      obtain ⟨phase, hphase, rfl⟩ := map_eq_ok_iff.1 h
      obtain ⟨text, rfl, rfl⟩ := step_default_iff.1 hphase
      rfl

/-- A run over two lists of tokens is a run over each of them. -/
theorem runs_append_iff :
    Runs schema state (tokens ++ lexemes) next ↔
      ∃ middle, Runs schema state tokens middle ∧ Runs schema middle lexemes next := by
  refine ⟨fun h => ?_, fun ⟨_, hfirst, hsecond⟩ => hfirst.append hsecond⟩
  rw [Runs, List.foldlM_append] at h
  exact bind_eq_ok_iff.1 h

/-- A run over a token and more tokens is a step and a run behind it. -/
theorem runs_cons_iff :
    Runs schema state (token :: tokens) next ↔
      ∃ middle, step schema state token = .ok middle ∧ Runs schema middle tokens next :=
  bind_eq_ok_iff

/-- After a run of the parser its tokens tell whether a table is open. -/
theorem Runs.inside (h : Runs schema state tokens next) :
    next.phase.isInside = tokens.foldl Token.keepsInside state.phase.isInside := by
  induction tokens generalizing state with
  | nil =>
      cases h
      rfl
  | cons token tokens ih =>
      obtain ⟨middle, hstep, hrest⟩ := runs_cons_iff.1 h
      rw [List.foldl_cons, ← step_inside hstep]
      exact ih hrest

/-- Where the parser accepts a comma it accepts a line break alike. -/
theorem step_comma_line (h : step schema state comma = .ok next) :
    step schema state newLine = .ok next := by
  obtain ⟨found, phase⟩ := state
  cases phase with
  | betweenTables | body | column => exact h
  | header | reference | default => cases h

/-- Inside of a table, where the parser accepts a line break it accepts a comma alike. -/
theorem step_line_comma (h : step schema state newLine = .ok next)
    (hinside : state.phase.isInside = true) : step schema state comma = .ok next := by
  obtain ⟨found, phase⟩ := state
  cases phase with
  | body | column => exact h
  | reference | default => cases h
  | betweenTables | header => cases hinside

/-- Behind a line break another one does not move the parser. -/
theorem step_line_again (h : step schema state newLine = .ok next) :
    step schema next newLine = .ok next := by
  obtain ⟨found, phase⟩ := state
  cases phase with
  | betweenTables | header | body =>
      cases h
      rfl
  | column table draft =>
      obtain ⟨_, -, rfl⟩ := map_eq_ok_iff.1 h
      rfl
  | reference | default => cases h

/-- Two line breaks in a row do what one does. -/
theorem runs_line_twice :
    Runs schema state (newLine :: newLine :: tokens) next ↔
      Runs schema state (newLine :: tokens) next := by
  simp only [runs_cons_iff]
  constructor
  · rintro ⟨middle, hstep, again, hagain, hrest⟩
    rw [step_line_again hstep] at hagain
    cases hagain
    exact ⟨middle, hstep, hrest⟩
  · rintro ⟨middle, hstep, hrest⟩
    exact ⟨middle, hstep, middle, step_line_again hstep, hrest⟩

/-- A line break takes up another one in front of it and another one behind it. -/
theorem runs_line_around (hfront : tokens = earlier ∨ tokens = earlier ++ [newLine])
    (hback : lexemes = later ∨ lexemes = newLine :: later) :
    Runs schema state (tokens ++ newLine :: lexemes) next ↔
      Runs schema state (earlier ++ newLine :: later) next := by
  rcases hfront with rfl | rfl <;> rcases hback with rfl | rfl <;>
    simp only [List.append_assoc, List.singleton_append, runs_append_iff, runs_line_twice]

/-! ## One separator of a text -/

variable {before after : List Char}

/-- A comma outside of values can be replaced by a line feed. -/
theorem comma_to_line (h : parse schema (String.ofList (before ++ ',' :: after)) = .ok tables)
    (hvalue : (Region.behind {} before).value = false) :
    parse schema (String.ofList (before ++ '\n' :: after)) = .ok tables := by
  obtain ⟨tokens, hspelling, hruns⟩ := parse_spelling_iff.1 h
  rw [String.toList_ofList] at hspelling
  obtain ⟨front, back, hfront, hback⟩ := hspelling.cut false (.inl rfl) rfl fun _ => hvalue
  obtain rfl := hspelling.unique (hfront.join_comma hback)
  obtain ⟨earlier, later, hearlier, hlater, hline⟩ := hfront.join_line hback
  rw [parse_spelling_iff, String.toList_ofList]
  refine ⟨_, hline, (runs_line_around hearlier hlater).1 ?_⟩
  obtain ⟨middle, hbefore, hbehind⟩ := runs_append_iff.1 hruns
  obtain ⟨next, hstep, hafter⟩ := runs_cons_iff.1 hbehind
  exact hbefore.append (.cons (step_comma_line hstep) hafter)

/-- A line feed inside of a table can be replaced by a comma. -/
theorem line_to_comma (h : parse schema (String.ofList (before ++ '\n' :: after)) = .ok tables)
    (htable : (Region.behind {} before).table = true) :
    parse schema (String.ofList (before ++ ',' :: after)) = .ok tables := by
  obtain ⟨tokens, hspelling, hruns⟩ := parse_spelling_iff.1 h
  rw [String.toList_ofList] at hspelling
  obtain ⟨front, back, hfront, hback⟩ := hspelling.cut false (.inr rfl) rfl (by simp)
  obtain ⟨earlier, later, hearlier, hlater, hline⟩ := hfront.join_line hback
  obtain rfl := hspelling.unique hline
  rw [parse_spelling_iff, String.toList_ofList]
  refine ⟨_, hfront.join_comma hback, ?_⟩
  have hsame := (runs_line_around hearlier hlater).2 hruns
  obtain ⟨middle, hbefore, hbehind⟩ := runs_append_iff.1 hsame
  obtain ⟨next, hstep, hafter⟩ := runs_cons_iff.1 hbehind
  -- the region of the line feed is the phase in which the parser reaches it
  have hinside : middle.phase.isInside = true := by
    rw [hbefore.inside, ← htable, hfront.region_behind]
    rfl
  exact hbefore.append (.cons (step_line_comma hstep hinside) hafter)

/-! ## Any separators of a text -/

/-- `Exchanged old new allowed region text other` says that `other` is `text`, which begins in
`region`, with `new` in the place of any of the characters `old` in regions that are allowed. -/
def Exchanged (old new : Char) (allowed : Region → Bool) :
    Region → List Char → List Char → Prop
  | _, [], other => other = []
  | _, _ :: _, [] => False
  | region, c :: text, d :: other =>
    (d = c ∨ c = old ∧ d = new ∧ allowed region = true) ∧
      Exchanged old new allowed (region.after c) text other

instance (old new : Char) (allowed : Region → Bool) :
    ∀ region text other, Decidable (Exchanged old new allowed region text other)
  | _, [], other => inferInstanceAs (Decidable (other = []))
  | _, _ :: _, [] => inferInstanceAs (Decidable False)
  | region, c :: text, d :: other =>
    have := instDecidableExchanged old new allowed (region.after c) text other
    inferInstanceAs (Decidable ((d = c ∨ c = old ∧ d = new ∧ allowed region = true) ∧
      Exchanged old new allowed (region.after c) text other))

/-- If one character of a text can be replaced wherever it is allowed, then any of them can. -/
theorem parse_exchanged {old new : Char} {allowed : Region → Bool}
    (hneutral : Region.isNeutral old = true ∧ Region.isNeutral new = true)
    (hone : ∀ {before after : List Char}, allowed (Region.behind {} before) = true →
      parse schema (String.ofList (before ++ old :: after)) = .ok tables →
        parse schema (String.ofList (before ++ new :: after)) = .ok tables)
    {text other : List Char} (h : Exchanged old new allowed (Region.behind {} before) text other)
    (hparse : parse schema (String.ofList (before ++ text)) = .ok tables) :
    parse schema (String.ofList (before ++ other)) = .ok tables := by
  -- the part before the text grows by the characters that are done
  induction text generalizing before other with
  | nil => exact h ▸ hparse
  | cons c text ih =>
      cases other with
      | nil => cases h
      | cons d other =>
          obtain ⟨hhead, htail⟩ := h
          have hshift (c : Char) (rest : List Char) :
              before ++ c :: rest = before ++ [c] ++ rest := List.append_cons before c rest
          rw [hshift]
          rcases hhead with rfl | ⟨rfl, rfl, hallowed⟩
          · rw [hshift] at hparse
            exact ih (by rwa [Region.behind_append]) hparse
          · have hnext := hone hallowed hparse
            rw [hshift] at hnext
            -- neither of the two characters leaves the region
            refine ih ?_ hnext
            rw [Region.after_neutral hneutral.1] at htail
            rwa [Region.behind_append, Region.behind_neutral (by simpa using hneutral.2)]

/-- If a text parses to tables, then it parses to the same tables with line feeds in the place of
any of its commas outside of values, and with commas in the place of any of its line feeds inside of
tables. -/
theorem separators_interchange {text : String} (h : parse schema text = .ok tables)
    (other : String) :
    (Exchanged ',' '\n' (fun region => !region.value) {} text.toList other.toList →
      parse schema other = .ok tables) ∧
    (Exchanged '\n' ',' (fun region => region.table) {} text.toList other.toList →
      parse schema other = .ok tables) := by
  have hparse : parse schema (String.ofList ([] ++ text.toList)) = .ok tables := by simpa using h
  have hother : other = String.ofList ([] ++ other.toList) := by simp
  rw [hother]
  constructor
  · intro hexchanged
    rw [← hother] at hexchanged
    refine parse_exchanged (by decide) (fun hallowed hcomma => ?_) hexchanged hparse
    exact comma_to_line hcomma (by simpa using hallowed)
  · intro hexchanged
    rw [← hother] at hexchanged
    refine parse_exchanged (by decide) (fun hallowed hline => ?_) hexchanged hparse
    exact line_to_comma hline hallowed

/-- The columns of a table on one line and on lines of their own. -/
theorem mixed_separators_interchange :
    ∃ tables, parse "dbo" "a\n\x7bid int pk, n string df [x,y]\n\n\x7d," = .ok tables ∧
      parse "dbo" "a\n\x7bid int pk\n n string df [x,y]\n\n\x7d\n" = .ok tables ∧
      parse "dbo" "a\n\x7bid int pk, n string df [x,y],\n\x7d," = .ok tables := by
  obtain ⟨tables, h, -⟩ : ∃ tables,
      parse "dbo" "a\n\x7bid int pk, n string df [x,y]\n\n\x7d," = .ok tables ∧ tables ≠ [] :=
    exists_eq_ok (by decide +kernel)
  exact ⟨tables, h, (separators_interchange h _).1 (by decide +kernel),
    (separators_interchange h _).2 (by decide +kernel)⟩

end Schemata.Definition
