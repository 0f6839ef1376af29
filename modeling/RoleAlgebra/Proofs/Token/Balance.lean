import RoleAlgebra.Token.Basic

namespace RoleAlgebra.Token

def Kind.isParenthesis : Kind → Bool
  | opening => true
  | closing => true
  | _ => false

inductive Balanced : List Kind → Prop where
  | nil : Balanced []
  | plain {kind : Kind} {later : List Kind} (free : kind.isParenthesis = false)
      (rest : Balanced later) : Balanced (kind :: later)
  | group {inside later : List Kind} (inner : Balanced inside) (rest : Balanced later) :
      Balanced (.opening :: (inside ++ .closing :: later))

/-- Whether an opening parenthesis right before these tokens is matched by one of them. -/
def Closes (later : List Kind) : Prop :=
  ∃ inside after, later = inside ++ .closing :: after ∧ Balanced inside

theorem Closes.append {later : List Kind} (closed : Closes later) (more : List Kind) :
    Closes (later ++ more) := by
  obtain ⟨inside, after, rfl, balanced⟩ := closed
  exact ⟨inside, after ++ more, by simp, balanced⟩

theorem count_plain {kind : Kind} (free : kind.isParenthesis = false) (parenthesis : Kind)
    (counted : parenthesis.isParenthesis = true) (later : List Kind) :
    (kind :: later).count parenthesis = later.count parenthesis := by
  refine List.count_cons_of_ne ?_
  rintro rfl
  rw [free] at counted
  cases counted

namespace Balanced

variable {kinds : List Kind}

theorem append {more : List Kind} (first : Balanced kinds) (second : Balanced more) :
    Balanced (kinds ++ more) := by
  induction first with
  | nil => exact second
  | plain free rest ih => exact .plain free ih
  | group inner rest innerIh restIh =>
    rw [List.cons_append, List.append_assoc]
    exact .group inner restIh

theorem single {kind : Kind} (free : kind.isParenthesis = false) : Balanced [kind] :=
  .plain free .nil

theorem count_eq (balanced : Balanced kinds) : kinds.count .opening = kinds.count .closing := by
  induction balanced with
  | nil => rfl
  | plain free rest ih => rw [count_plain free .opening rfl, count_plain free .closing rfl, ih]
  | group inner rest innerIh restIh =>
    simp only [List.count_cons, List.count_append, innerIh, restIh]
    simp
    omega

theorem count_le (balanced : Balanced kinds) {front back : List Kind}
    (parts : kinds = front ++ back) : front.count .closing ≤ front.count .opening := by
  induction balanced generalizing front back with
  | nil =>
    obtain ⟨rfl, -⟩ := List.append_eq_nil_iff.1 parts.symm
    exact Nat.le_refl _
  | plain free rest ih =>
    rcases List.cons_eq_append_iff.1 parts with ⟨rfl, -⟩ | ⟨front, rfl, tail⟩
    · exact Nat.le_refl _
    · rw [count_plain free .opening rfl, count_plain free .closing rfl]
      exact ih tail
  | group inner rest innerIh restIh =>
    rcases List.cons_eq_append_iff.1 parts with ⟨rfl, -⟩ | ⟨front, rfl, tail⟩
    · exact Nat.le_refl _
    · rcases List.append_eq_append_iff.1 tail with ⟨beyond, rfl, split⟩ | ⟨missing, rfl, -⟩
      · -- the front part ends behind the group, or right before the end of it
        have same := inner.count_eq
        rcases List.cons_eq_append_iff.1 split with ⟨rfl, -⟩ | ⟨beyond, rfl, behind⟩
        · simp [same]
        · have := restIh behind
          simp [same]
          omega
      · have := innerIh rfl
        simp
        omega

theorem not_closes (balanced : Balanced kinds) : ¬ Closes kinds := by
  rintro ⟨inside, after, rfl, inner⟩
  have more := balanced.count_le (List.append_cons inside .closing after)
  have same := inner.count_eq
  simp at more
  omega

theorem closes_of_opening (balanced : Balanced kinds) {before later : List Kind}
    (parts : kinds = before ++ .opening :: later) : Closes later := by
  induction balanced generalizing before later with
  | nil => simp at parts
  | plain free rest ih =>
    rcases List.cons_eq_append_iff.1 parts with ⟨rfl, parts⟩ | ⟨before, rfl, tail⟩
    · cases parts
      cases free
    · exact ih tail
  | @group inside after inner rest innerIh restIh =>
    rcases List.cons_eq_append_iff.1 parts with ⟨rfl, parts⟩ | ⟨before, rfl, tail⟩
    · cases parts
      exact ⟨inside, after, rfl, inner⟩
    · rcases List.append_eq_append_iff.1 tail with ⟨beyond, rfl, split⟩ | ⟨part, rfl, split⟩
      · -- the parenthesis is behind the group
        rcases List.cons_eq_append_iff.1 split with ⟨rfl, same⟩ | ⟨beyond, rfl, behind⟩
        · cases same
        · exact restIh behind
      · -- the parenthesis is inside of the group
        rcases List.cons_eq_append_iff.1 split with ⟨rfl, same⟩ | ⟨part, rfl, inside⟩
        · cases same
        · rw [inside]
          exact (innerIh rfl).append _

end Balanced
end RoleAlgebra.Token
