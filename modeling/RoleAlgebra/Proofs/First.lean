import Mathlib.Logic.Basic

namespace RoleAlgebra

variable {α : Type} {p : α → Prop}

/-- `x` is the first element of a list with a property, and `before` are those that it follows. -/
inductive First (p : α → Prop) : (xs before : List α) → (x : α) → Prop where
  | here {x : α} {xs : List α} (holds : p x) : First p (x :: xs) [] x
  | later {x y : α} {xs before : List α} (fails : ¬ p y) (rest : First p xs before x) :
      First p (y :: xs) (y :: before) x

theorem first_iff {xs before : List α} {x : α} :
    First p xs before x ↔ p x ∧ (∀ y ∈ before, ¬ p y) ∧ ∃ after, xs = before ++ x :: after := by
  constructor
  · intro first
    induction first with
    | here holds => exact ⟨holds, by simp, _, rfl⟩
    | later fails _ ih =>
      obtain ⟨holds, earlier, after, parts⟩ := ih
      exact ⟨holds, List.forall_mem_cons.2 ⟨fails, earlier⟩, after, by rw [parts, List.cons_append]⟩
  · rintro ⟨holds, earlier, after, rfl⟩
    induction before with
    | nil => exact .here holds
    | cons y before ih =>
      obtain ⟨fails, earlier⟩ := List.forall_mem_cons.1 earlier
      exact .later fails (ih earlier)

theorem First.unique {xs before before' : List α} {x x' : α} (first : First p xs before x)
    (first' : First p xs before' x') : before = before' ∧ x = x' := by
  induction first generalizing before' with
  | here holds =>
    cases first' with
    | here => exact ⟨rfl, rfl⟩
    | later fails => exact absurd holds fails
  | later fails _ ih =>
    cases first' with
    | here holds => exact absurd holds fails
    | later _ rest =>
      obtain ⟨rfl, rfl⟩ := ih rest
      exact ⟨rfl, rfl⟩

theorem exists_first_or_forall (p : α → Prop) (xs : List α) :
    (∃ before x, First p xs before x) ∨ ∀ x ∈ xs, ¬ p x := by
  induction xs with
  | nil => exact .inr (by simp)
  | cons y xs ih =>
    by_cases holds : p y
    · exact .inl ⟨[], y, .here holds⟩
    · rcases ih with ⟨before, x, first⟩ | none
      · exact .inl ⟨y :: before, x, .later holds first⟩
      · exact .inr (List.forall_mem_cons.2 ⟨holds, none⟩)

end RoleAlgebra
