import Mathlib.Data.List.Sort
import RoleAlgebra.PermissionSet

namespace RoleAlgebra.PermissionSet

theorem mem_toList {set : PermissionSet} {p : String} : p ∈ set.toList ↔ p ∈ set := Iff.rfl

theorem ext {a b : PermissionSet} (same : ∀ p, p ∈ a ↔ p ∈ b) : a = b := by
  have lists : a.toList = b.toList := a.increasing.eq_of_mem_iff b.increasing same
  cases a
  cases b
  cases lists
  rfl

theorem nodup (set : PermissionSet) : set.toList.Nodup := set.increasing.nodup

def insert (set : PermissionSet) (p : String) : PermissionSet := ofList (p :: set.toList)

def retain (set : PermissionSet) (keep : String → Bool) : PermissionSet :=
  ⟨set.toList.filter keep, set.increasing.filter keep⟩

def toggle (set : PermissionSet) (p : String) : PermissionSet :=
  if p ∈ set then set.retain (· ≠ p) else set.insert p

/-- The left operand, changed in place by the right one. -/
def update (op : Operator) (left right : PermissionSet) : PermissionSet :=
  match op with
  | .or => right.toList.foldl insert left
  | .diff => left.retain (· ∉ right)
  | .and => left.retain (· ∈ right)
  | .xor => right.toList.foldl toggle left

theorem mem_insert {set : PermissionSet} {p q : String} : q ∈ set.insert p ↔ q = p ∨ q ∈ set := by
  rw [insert, mem_ofList, List.mem_cons, mem_toList]

theorem mem_retain {set : PermissionSet} {keep : String → Bool} {p : String} :
    p ∈ set.retain keep ↔ p ∈ set ∧ keep p = true := List.mem_filter

theorem mem_toggle {set : PermissionSet} {p q : String} :
    q ∈ set.toggle p ↔ ¬ (q ∈ set ↔ q = p) := by
  rw [toggle]
  split
  next present =>
    rw [mem_retain, decide_eq_true_eq]
    by_cases same : q = p
    · simp [same, present]
    · simp [same]
  next absent =>
    rw [mem_insert]
    by_cases same : q = p
    · simp [same, absent]
    · simp [same]

theorem mem_foldl_insert {set : PermissionSet} {xs : List String} {p : String} :
    p ∈ xs.foldl insert set ↔ p ∈ set ∨ p ∈ xs := by
  induction xs generalizing set with
  | nil => simp
  | cons x xs ih =>
    rw [List.foldl_cons, ih, mem_insert, List.mem_cons]
    tauto

theorem mem_foldl_toggle {set : PermissionSet} {xs : List String} (distinct : xs.Nodup)
    {p : String} : p ∈ xs.foldl toggle set ↔ ¬ (p ∈ set ↔ p ∈ xs) := by
  induction xs generalizing set with
  | nil => simp
  | cons x xs ih =>
    obtain ⟨once, distinct⟩ := List.nodup_cons.1 distinct
    rw [List.foldl_cons, ih distinct, mem_toggle, List.mem_cons]
    by_cases same : p = x
    · -- the rest of the list does not toggle it back
      subst same
      simp [once]
    · simp [same]

theorem combine_eq_update (op : Operator) (left right : PermissionSet) :
    left.combine op right = left.update op right := by
  apply ext
  intro p
  rw [mem_combine]
  cases op with
  | or => simp [Operator.keeps, update, mem_foldl_insert, mem_toList]
  | diff => simp [Operator.keeps, update, mem_retain]
  | and => simp [Operator.keeps, update, mem_retain]
  | xor => simp [Operator.keeps, update, mem_foldl_toggle right.nodup, mem_toList]

end RoleAlgebra.PermissionSet
