import Mathlib.Data.List.Infix
import Schemata.Proofs.Storage.References

/-!
# The dependencies of a table

The dependencies of a table are found column by column: the target of a foreign key is put behind
those found before, unless it is the table itself or one of them. `dependencies_snoc` says so for
one more column, and the order of the whole list follows along the columns. By `dependencies_exact`
the list holds the other tables to which foreign keys point, each once and in the order in which
columns mention them first, and more columns only add to its end.
-/

namespace Schemata

/-- The column has a foreign key to the table with the given qualified name. -/
def Column.mentions (name : String) (column : Column) : Bool :=
  column.foreignKey.any (·.target == name)

namespace Table

/-- The position of the first column that mentions a table, or the number of columns if none
does. -/
def firstMention (table : Table) (name : String) : Nat :=
  table.columns.findIdx (Column.mentions name)

/-- The table with more columns behind its own ones. -/
def extend (table : Table) (more : List Column) : Table :=
  { table with columns := table.columns ++ more }

end Table

namespace Storage

variable {table : Table} {column : Column} {name : String}

/-- A column mentions the table to which its foreign key points. -/
theorem mentions_iff :
    column.mentions name = true ↔ ∃ key, column.foreignKey = some key ∧ key.target = name := by
  simp [Column.mentions, Option.any_eq_true]

/-- A table is mentioned in front of the end of the columns exactly if some column mentions it. -/
theorem first_mention_lt_iff :
    table.firstMention name < table.columns.length ↔
      ∃ column ∈ table.columns, column.mentions name = true :=
  List.findIdx_lt_length

/-- The dependencies are the other tables that are mentioned. -/
theorem mem_dependencies_iff_mentioned :
    name ∈ dependencies table ↔
      name ≠ table.qualifiedName ∧ table.firstMention name < table.columns.length := by
  simp only [first_mention_lt_iff, mem_dependencies_iff, mentions_iff]

/-! ## One more column -/

/-- The targets of the foreign keys of columns that are not the table itself, with repetitions. -/
def otherTargets (own : String) (columns : List Column) : List String :=
  ((columns.filterMap (·.foreignKey)).map (·.target)).filter (· != own)

/-- The dependencies of a table with more columns. -/
theorem dependencies_append (table : Table) (more : List Column) :
    dependencies (table.extend more) =
      dependencies table ++ ((otherTargets table.qualifiedName more).removeAll
        (otherTargets table.qualifiedName table.columns)).eraseDups := by
  show List.eraseDups (otherTargets table.qualifiedName (table.columns ++ more)) = _
  rw [otherTargets, List.filterMap_append, List.map_append, List.filter_append,
    List.eraseDups_append]
  rfl

/-- The dependency that a column adds to those found before. -/
def newDependency (own : String) (found : List String) (column : Column) : List String :=
  match column.foreignKey with
  | some key => if key.target ≠ own ∧ key.target ∉ found then [key.target] else []
  | none => []

/-- One more column adds its target behind the dependencies found before, unless it is the table
itself or one of them. -/
theorem dependencies_snoc (table : Table) (column : Column) :
    dependencies (table.extend [column]) =
      dependencies table ++ newDependency table.qualifiedName (dependencies table) column := by
  rw [dependencies_append, newDependency]
  refine congrArg (dependencies table ++ ·) ?_
  cases hkey : column.foreignKey with
  | none => simp [otherTargets, hkey]
  | some key =>
      have hmem : key.target ∈ dependencies table ↔
          key.target ∈ otherTargets table.qualifiedName table.columns := List.mem_eraseDups
      have htargets : otherTargets table.qualifiedName [column] =
          [key.target].filter (· != table.qualifiedName) := by
        simp [otherTargets, hkey]
      simp only [htargets, hmem]
      by_cases hown : key.target = table.qualifiedName
      · simp [hown]
      · by_cases hfound : key.target ∈ otherTargets table.qualifiedName table.columns
        · simp [hown, hfound, List.removeAll]
        · simp [hown, hfound, List.removeAll, List.eraseDups_cons]

/-- The first mention of a table among more columns. -/
theorem first_mention_append (table : Table) (more : List Column) (name : String) :
    (table.extend more).firstMention name =
      if table.firstMention name < table.columns.length then table.firstMention name
      else more.findIdx (Column.mentions name) + table.columns.length :=
  List.findIdx_append

/-- A dependency keeps the place of its first mention. -/
theorem first_mention_extend (h : name ∈ dependencies table) (more : List Column) :
    (table.extend more).firstMention name = table.firstMention name := by
  rw [first_mention_append, if_pos (mem_dependencies_iff_mentioned.1 h).2]

/-- A dependency that a column adds was not mentioned before. -/
theorem first_mention_new
    (h : name ∈ newDependency table.qualifiedName (dependencies table) column) :
    (table.extend [column]).firstMention name = table.columns.length := by
  unfold newDependency at h
  split at h
  · next key hkey =>
      split at h
      · next hnew =>
          rw [List.mem_singleton.1 h]
          have hnone : ¬ table.firstMention key.target < table.columns.length := fun hfound =>
            hnew.2 (mem_dependencies_iff_mentioned.2 ⟨hnew.1, hfound⟩)
          have hhere : column.mentions key.target = true := mentions_iff.2 ⟨key, hkey, rfl⟩
          rw [first_mention_append, if_neg hnone, List.findIdx_cons, hhere]
          exact Nat.zero_add _
      · cases h
  · cases h

/-! ## All columns -/

/-- Where the dependencies stand in the order of their first mention, they do so after one more
column. -/
theorem mentioned_in_order_snoc
    (h : (dependencies table).Pairwise fun earlier later =>
      table.firstMention earlier < table.firstMention later) (column : Column) :
    (dependencies (table.extend [column])).Pairwise fun earlier later =>
      (table.extend [column]).firstMention earlier <
        (table.extend [column]).firstMention later := by
  rw [dependencies_snoc, List.pairwise_append]
  refine ⟨?_, ?_, ?_⟩
  · refine h.imp_of_mem fun hearlier hlater hlt => ?_
    rw [first_mention_extend hearlier, first_mention_extend hlater]
    exact hlt
  · unfold newDependency
    split
    · split
      · exact List.pairwise_singleton _ _
      · exact .nil
    · exact .nil
  · intro earlier hearlier later hlater
    rw [first_mention_extend hearlier, first_mention_new hlater]
    exact (mem_dependencies_iff_mentioned.1 hearlier).2

/-- The dependencies stand in the order of their first mention. -/
theorem mentioned_in_order (table : Table) :
    (dependencies table).Pairwise fun earlier later =>
      table.firstMention earlier < table.firstMention later := by
  obtain ⟨schema, name, className, columns⟩ := table
  induction columns using List.reverseRecOn with
  | nil => exact .nil
  | append_singleton columns column ih =>
      exact @mentioned_in_order_snoc ⟨schema, name, className, columns⟩ ih column

/-- The dependencies of every table are free of repetitions and of the table itself, they hold
exactly the other tables to which a foreign key of a column points, in the order of the first column
that does, and more columns add to their end. Generated statements keep this list. -/
theorem dependencies_exact (table : Table) :
    (dependencies table).Nodup ∧ table.qualifiedName ∉ dependencies table ∧
      (∀ name, name ∈ dependencies table ↔ name ≠ table.qualifiedName ∧
        ∃ column ∈ table.columns, ∃ key, column.foreignKey = some key ∧
          name = key.schema ++ "." ++ key.table) ∧
      ((dependencies table).Pairwise fun earlier later =>
        table.firstMention earlier < table.firstMention later) ∧
      (∀ more, dependencies table <+: dependencies (table.extend more)) ∧
      ∀ settings statements, Statements.ofTable settings table = .ok statements →
        statements.dependencies = dependencies table := by
  have horder := mentioned_in_order table
  refine ⟨?_, ?_, ?_, horder, ?_, ?_⟩
  · exact horder.imp fun hlt heq => absurd (heq ▸ hlt) (Nat.lt_irrefl _)
  · exact fun hown => (mem_dependencies_iff.1 hown).1 rfl
  · intro name
    simp only [mem_dependencies_iff, ForeignKey.target, eq_comm]
  · intro more
    rw [dependencies_append]
    exact List.prefix_append _ _
  · intro settings statements h
    simp only [Statements.ofTable, bind_eq_ok_iff] at h
    obtain ⟨_, -, _, -, _, -, _, -, _, -, heq⟩ := h
    cases heq
    rfl

end Storage

end Schemata
