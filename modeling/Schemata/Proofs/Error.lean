import Mathlib.Data.List.Forall2
import Schemata.Error

/-!
# Computations that succeed or fail

A computation that is put together from others succeeds exactly if they all do, and its result is
put together from their results. A computation for each entry of a list pairs the entries with their
results, or it fails with the error of the first entry that fails.
-/

namespace Schemata

open Error (liftSemantic)

variable {ε α β : Type}

/-- Mapping the result of a computation that succeeds. -/
theorem map_eq_ok_iff {computation : Except ε α} {f : α → β} {b : β} :
    computation.map f = .ok b ↔ ∃ a, computation = .ok a ∧ f a = b := by
  cases computation <;> simp [Except.map]

/-- A computation that goes on with the result of another one succeeds exactly if both succeed. -/
theorem bind_eq_ok_iff {computation : Except ε α} {f : α → Except ε β} {b : β} :
    (computation >>= f) = .ok b ↔ ∃ a, computation = .ok a ∧ f a = .ok b := by
  cases computation <;> simp [bind, Except.bind]

/-- Reporting the errors of a computation as errors of the program does not touch its result. -/
theorem lift_eq_ok_iff {computation : Except SemanticError α} {a : α} :
    liftSemantic computation = .ok a ↔ computation = .ok a := by
  cases computation <;> simp [liftSemantic, Except.mapError]

/-- A computation for each entry of a list, in order, succeeds exactly if each of them does. -/
theorem map_m_eq_ok_iff {f : α → Except ε β} {xs : List α} {ys : List β} :
    xs.mapM f = .ok ys ↔ List.Forall₂ (fun x y => f x = .ok y) xs ys := by
  induction xs generalizing ys with
  | nil => simp [pure, Except.pure, eq_comm]
  | cons x xs ih =>
      rw [List.mapM_cons, bind_eq_ok_iff]
      simp only [bind_eq_ok_iff, ih]
      constructor
      · rintro ⟨y, hy, rest, hrest, hys⟩
        cases hys
        exact .cons hy hrest
      · intro h
        cases h with
        | cons hy hrest => exact ⟨_, hy, _, hrest, rfl⟩

/-- A computation that can be carried out has a result with a property that can be checked. -/
theorem exists_eq_ok {computation : Except ε α} {p : α → Prop} [DecidablePred p]
    (h : computation.toOption.any (fun a => decide (p a)) = true) :
    ∃ a, computation = .ok a ∧ p a := by
  cases computation with
  | error cause => simp [Except.toOption] at h
  | ok a => exact ⟨a, rfl, by simpa [Except.toOption] using h⟩

/-! ## Computations that fail -/

/-- A computation that goes on with the result of another one fails where one of them does. -/
theorem bind_eq_error_iff {computation : Except ε α} {f : α → Except ε β} {cause : ε} :
    (computation >>= f) = .error cause ↔
      computation = .error cause ∨ ∃ a, computation = .ok a ∧ f a = .error cause := by
  cases computation <;> simp [bind, Except.bind]

/-- Mapping the result of a computation does not touch its error. -/
theorem map_eq_error_iff {computation : Except ε α} {f : α → β} {cause : ε} :
    computation.map f = .error cause ↔ computation = .error cause := by
  cases computation <;> simp [Except.map]

/-- A semantic error is reported as an error of the program. -/
theorem lift_eq_error_iff {computation : Except SemanticError α} {error : Error} :
    liftSemantic computation = .error error ↔
      ∃ cause, computation = .error cause ∧ .semantic cause = error := by
  cases computation <;> simp [liftSemantic, Except.mapError]

/-- A computation has a result or an error. -/
theorem exists_ok_iff {computation : Except ε α} :
    (∃ a, computation = .ok a) ↔ ∀ cause, computation ≠ .error cause := by
  cases computation <;> simp

/-- `FirstFailure fails xs cause` says that some entry of a list fails and that the first one that
does fails with the given cause. -/
def FirstFailure (fails : α → ε → Prop) (xs : List α) (cause : ε) : Prop :=
  ∃ before x after, xs = before ++ x :: after ∧ (∀ y ∈ before, ∀ other, ¬ fails y other) ∧
    fails x cause

/-- The first entry fails, or it does not and the first failure is among the others. -/
theorem first_failure_cons {fails : α → ε → Prop} {x : α} {xs : List α} {cause : ε} :
    FirstFailure fails (x :: xs) cause ↔
      fails x cause ∨ (∀ other, ¬ fails x other) ∧ FirstFailure fails xs cause := by
  constructor
  · rintro ⟨before, y, after, heq, hbefore, hfails⟩
    cases before with
    | nil =>
        cases heq
        exact .inl hfails
    | cons first before =>
        cases heq
        rw [List.forall_mem_cons] at hbefore
        exact .inr ⟨hbefore.1, before, y, after, rfl, hbefore.2, hfails⟩
  · rintro (hfails | ⟨hfirst, before, y, after, rfl, hbefore, hfails⟩)
    · exact ⟨[], x, xs, rfl, by simp, hfails⟩
    · exact ⟨x :: before, y, after, rfl, List.forall_mem_cons.2 ⟨hfirst, hbefore⟩, hfails⟩

/-- There is no first failure exactly if no entry fails. -/
theorem no_first_failure_iff {fails : α → ε → Prop} {xs : List α} :
    (∀ cause, ¬ FirstFailure fails xs cause) ↔ ∀ x ∈ xs, ∀ cause, ¬ fails x cause := by
  induction xs with
  | nil => simp [FirstFailure]
  | cons x xs ih =>
      rw [List.forall_mem_cons, ← ih]
      simp only [first_failure_cons, not_or, not_and]
      constructor
      · intro h
        have hfirst := fun cause => (h cause).1
        exact ⟨hfirst, fun cause => (h cause).2 hfirst⟩
      · rintro ⟨hfirst, hrest⟩ cause
        exact ⟨hfirst cause, fun _ => hrest cause⟩

/-- A computation for each entry of a list fails with the error of the first entry that fails. -/
theorem map_m_eq_error_iff {f : α → Except ε β} {xs : List α} {cause : ε} :
    xs.mapM f = .error cause ↔ FirstFailure (fun x other => f x = .error other) xs cause := by
  induction xs with
  | nil => simp [FirstFailure, pure, Except.pure]
  | cons x xs ih =>
      rw [List.mapM_cons, bind_eq_error_iff, first_failure_cons, ← exists_ok_iff, ← ih]
      refine or_congr_right ?_
      simp only [bind_eq_error_iff]
      constructor
      · rintro ⟨y, hy, hrest | ⟨ys, -, hys⟩⟩
        · exact ⟨⟨y, hy⟩, hrest⟩
        · cases hys
      · rintro ⟨⟨y, hy⟩, hrest⟩
        exact ⟨y, hy, .inl hrest⟩

/-! ## Lists whose entries are paired -/

/-- The partners of a list with one more entry at its end. -/
theorem forall_snoc {relation : α → β → Prop} {xs : List α} {x : α} {ys : List β}
    (h : List.Forall₂ relation (xs ++ [x]) ys) :
    ∃ earlier last, ys = earlier ++ [last] ∧ List.Forall₂ relation xs earlier ∧
      relation x last := by
  induction xs generalizing ys with
  | nil =>
      cases h with
      | cons hlast hnil =>
          cases hnil
          exact ⟨[], _, rfl, .nil, hlast⟩
  | cons first xs ih =>
      cases h with
      | cons hfirst hrest =>
          obtain ⟨earlier, last, rfl, hearlier, hlast⟩ := ih hrest
          exact ⟨_ :: earlier, last, rfl, .cons hfirst hearlier, hlast⟩

/-- The partner of an entry on the right. -/
theorem forall_mem_right {relation : α → β → Prop} {xs : List α} {ys : List β}
    (h : List.Forall₂ relation xs ys) {y : β} (hy : y ∈ ys) : ∃ x ∈ xs, relation x y := by
  induction h with
  | nil => simp at hy
  | @cons x first xs ys hfirst _ ih =>
      rcases List.mem_cons.1 hy with rfl | hy
      · exact ⟨x, List.mem_cons_self, hfirst⟩
      · obtain ⟨partner, hmem, hpartner⟩ := ih hy
        exact ⟨partner, List.mem_cons_of_mem x hmem, hpartner⟩

/-- Entries that have the same partner are paired. -/
theorem forall_join {γ : Type} {first : α → γ → Prop} {second : β → γ → Prop}
    {relation : α → β → Prop} {xs : List α} {ys : List β} {zs : List γ}
    (hfirst : List.Forall₂ first xs zs) (hsecond : List.Forall₂ second ys zs)
    (h : ∀ x y z, x ∈ xs → y ∈ ys → first x z → second y z → relation x y) :
    List.Forall₂ relation xs ys := by
  induction hfirst generalizing ys with
  | nil =>
      cases hsecond
      exact .nil
  | @cons x z xs zs hx _ ih =>
      cases hsecond with
      | cons hy hrest =>
          refine .cons (h x _ z List.mem_cons_self List.mem_cons_self hx hy) (ih hrest ?_)
          intro x' y' z' hx' hy'
          exact h x' y' z' (List.mem_cons_of_mem x hx') (List.mem_cons_of_mem _ hy')

/-- Where partners have the same image, the lists do. -/
theorem forall_map_eq {γ : Type} {relation : α → β → Prop} {f : α → γ} {g : β → γ} {xs : List α}
    {ys : List β} (h : List.Forall₂ relation xs ys)
    (hsame : ∀ x y, x ∈ xs → relation x y → f x = g y) : xs.map f = ys.map g := by
  induction h with
  | nil => rfl
  | @cons x y xs ys hfirst _ ih =>
      rw [List.map_cons, List.map_cons, hsame x y List.mem_cons_self hfirst,
        ih fun x' y' hmem => hsame x' y' (List.mem_cons_of_mem x hmem)]

/-- Where partners have a property together, one side has it somewhere exactly if the other does. -/
theorem forall_exists_iff {relation : α → β → Prop} {p : α → Prop} {q : β → Prop} {xs : List α}
    {ys : List β} (h : List.Forall₂ relation xs ys) (hiff : ∀ x y, relation x y → (p x ↔ q y)) :
    (∃ x ∈ xs, p x) ↔ ∃ y ∈ ys, q y := by
  induction h with
  | nil => simp
  | cons hfirst _ ih =>
      rw [List.exists_mem_cons_iff, List.exists_mem_cons_iff, ih, hiff _ _ hfirst]

end Schemata
