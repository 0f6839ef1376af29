import RoleAlgebra.Operator

/-!
Sets of permissions, kept as strictly increasing lists in code point order. Combining two sets walks
both lists once and keeps what the truth table of the operator keeps: `mem_combine`.
-/

namespace RoleAlgebra

def Increasing (xs : List String) : Prop := xs.Pairwise (· < ·)

def distinct : List String → List String
  | [] => []
  | [x] => [x]
  | x :: y :: rest => if x = y then distinct (y :: rest) else x :: distinct (y :: rest)

/-- Walks two increasing lists, keeping an element by where it occurs. -/
def select (keeps : Bool → Bool → Bool) : List String → List String → List String
  | [], ys => if keeps false true then ys else []
  | x :: xs, [] => if keeps true false then x :: xs else []
  | x :: xs, y :: ys =>
    if x < y then
      if keeps true false then x :: select keeps xs (y :: ys) else select keeps xs (y :: ys)
    else if y < x then
      if keeps false true then y :: select keeps (x :: xs) ys else select keeps (x :: xs) ys
    else if keeps true true then x :: select keeps xs ys
    else select keeps xs ys
termination_by xs ys => xs.length + ys.length

theorem mem_distinct {p : String} {xs : List String} : p ∈ distinct xs ↔ p ∈ xs := by
  fun_induction distinct xs with
  | case1 => simp
  | case2 => simp
  | case3 x rest ih => simp [ih]
  | case4 x y rest _ ih => simp [ih]

theorem increasing_distinct {xs : List String} (sorted : xs.Pairwise (· ≤ ·)) :
    Increasing (distinct xs) := by
  fun_induction distinct xs with
  | case1 => exact .nil
  | case2 => exact List.pairwise_singleton _ _
  | case3 x rest ih => exact ih (List.pairwise_cons.1 sorted).2
  | case4 x y rest different ih =>
    obtain ⟨first, later⟩ := List.pairwise_cons.1 sorted
    refine List.pairwise_cons.2 ⟨fun z member => ?_, ih later⟩
    have below : x < y := by
      apply Classical.byContradiction
      intro above
      exact different (String.le_antisymm (first y (by simp)) above)
    have member := mem_distinct.1 member
    rcases List.mem_cons.1 member with rfl | deeper
    · exact below
    · exact Std.lt_of_lt_of_le below ((List.pairwise_cons.1 later).1 z deeper)

theorem mem_select_of_mem {keeps : Bool → Bool → Bool} {xs ys : List String} {p : String}
    (member : p ∈ select keeps xs ys) : p ∈ xs ∨ p ∈ ys := by
  fun_induction select keeps xs ys <;> grind

theorem increasing_select (keeps : Bool → Bool → Bool) {xs ys : List String}
    (left : Increasing xs) (right : Increasing ys) : Increasing (select keeps xs ys) := by
  unfold Increasing at *
  fun_induction select keeps xs ys with
  | case1 => exact right
  | case2 => exact .nil
  | case3 => exact left
  | case4 => exact .nil
  | case5 x xs y ys below keep ih =>
    obtain ⟨first, later⟩ := List.pairwise_cons.1 left
    refine List.pairwise_cons.2 ⟨fun p member => ?_, ih later right⟩
    rcases mem_select_of_mem member with here | there
    · exact first p here
    · rcases List.mem_cons.1 there with rfl | deeper
      · exact below
      · exact String.lt_trans below ((List.pairwise_cons.1 right).1 p deeper)
  | case6 x xs y ys _ _ ih => exact ih (List.pairwise_cons.1 left).2 right
  | case7 x xs y ys _ below keep ih =>
    obtain ⟨first, later⟩ := List.pairwise_cons.1 right
    refine List.pairwise_cons.2 ⟨fun p member => ?_, ih left later⟩
    rcases mem_select_of_mem member with here | there
    · rcases List.mem_cons.1 here with rfl | deeper
      · exact below
      · exact String.lt_trans below ((List.pairwise_cons.1 left).1 p deeper)
    · exact first p there
  | case8 x xs y ys _ _ _ ih => exact ih left (List.pairwise_cons.1 right).2
  | case9 x xs y ys above below keep ih =>
    have same : x = y := String.le_antisymm below above
    subst same
    obtain ⟨first, later⟩ := List.pairwise_cons.1 left
    obtain ⟨first', later'⟩ := List.pairwise_cons.1 right
    refine List.pairwise_cons.2 ⟨fun p member => ?_, ih later later'⟩
    rcases mem_select_of_mem member with here | there
    · exact first p here
    · exact first' p there
  | case10 x xs y ys _ _ _ ih =>
    exact ih (List.pairwise_cons.1 left).2 (List.pairwise_cons.1 right).2

theorem not_mem_of_below {x : String} {xs : List String} (first : ∀ z ∈ xs, x < z) : x ∉ xs :=
  fun member => String.lt_irrefl x (first x member)

theorem mem_select {keeps : Bool → Bool → Bool} (neither : keeps false false = false)
    {xs ys : List String} (left : Increasing xs) (right : Increasing ys) (p : String) :
    p ∈ select keeps xs ys ↔ keeps (decide (p ∈ xs)) (decide (p ∈ ys)) = true := by
  unfold Increasing at *
  fun_induction select keeps xs ys with
  | case1 ys keep => by_cases member : p ∈ ys <;> simp [member, keep, neither]
  | case2 ys drop => by_cases member : p ∈ ys <;> simp_all
  | case3 x xs keep => by_cases member : p ∈ x :: xs <;> simp_all
  | case4 x xs drop => by_cases member : p ∈ x :: xs <;> simp_all
  | case5 x xs y ys below keep ih =>
    obtain ⟨first, later⟩ := List.pairwise_cons.1 left
    rw [List.mem_cons, ih later right]
    by_cases here : p = x
    · subst here
      have absent : p ∉ y :: ys := not_mem_of_below fun z member => by
        rcases List.mem_cons.1 member with rfl | deeper
        · exact below
        · exact String.lt_trans below ((List.pairwise_cons.1 right).1 z deeper)
      simp [absent, keep]
    · simp [here]
  | case6 x xs y ys below drop ih =>
    obtain ⟨first, later⟩ := List.pairwise_cons.1 left
    rw [ih later right]
    by_cases here : p = x
    · subst here
      have absent : p ∉ y :: ys := not_mem_of_below fun z member => by
        rcases List.mem_cons.1 member with rfl | deeper
        · exact below
        · exact String.lt_trans below ((List.pairwise_cons.1 right).1 z deeper)
      have gone : p ∉ xs := not_mem_of_below first
      simp [absent, gone, drop, neither]
    · simp [here]
  | case7 x xs y ys _ below keep ih =>
    obtain ⟨first, later⟩ := List.pairwise_cons.1 right
    rw [List.mem_cons, ih left later]
    by_cases here : p = y
    · subst here
      have absent : p ∉ x :: xs := not_mem_of_below fun z member => by
        rcases List.mem_cons.1 member with rfl | deeper
        · exact below
        · exact String.lt_trans below ((List.pairwise_cons.1 left).1 z deeper)
      simp [absent, keep]
    · simp [here]
  | case8 x xs y ys _ below drop ih =>
    obtain ⟨first, later⟩ := List.pairwise_cons.1 right
    rw [ih left later]
    by_cases here : p = y
    · subst here
      have absent : p ∉ x :: xs := not_mem_of_below fun z member => by
        rcases List.mem_cons.1 member with rfl | deeper
        · exact below
        · exact String.lt_trans below ((List.pairwise_cons.1 left).1 z deeper)
      have gone : p ∉ ys := not_mem_of_below first
      simp [absent, gone, drop, neither]
    · simp [here]
  | case9 x xs y ys above below keep ih =>
    have same : x = y := String.le_antisymm below above
    subst same
    rw [List.mem_cons, ih (List.pairwise_cons.1 left).2 (List.pairwise_cons.1 right).2]
    by_cases here : p = x <;> simp [here, keep]
  | case10 x xs y ys above below drop ih =>
    have same : x = y := String.le_antisymm below above
    subst same
    obtain ⟨first, later⟩ := List.pairwise_cons.1 left
    obtain ⟨first', later'⟩ := List.pairwise_cons.1 right
    rw [ih later later']
    by_cases here : p = x
    · subst here
      simp [not_mem_of_below first, not_mem_of_below first', drop, neither]
    · simp [here]

structure PermissionSet where
  toList : List String
  increasing : Increasing toList

namespace PermissionSet

instance : DecidableEq PermissionSet := fun a b =>
  decidable_of_iff (a.toList = b.toList) (by cases a; cases b; simp)

instance : Repr PermissionSet := ⟨fun set p => reprPrec set.toList p⟩

instance : Membership String PermissionSet := ⟨fun set p => p ∈ set.toList⟩

instance (p : String) (set : PermissionSet) : Decidable (p ∈ set) :=
  inferInstanceAs (Decidable (p ∈ set.toList))

def empty : PermissionSet := ⟨[], .nil⟩

instance : Inhabited PermissionSet := ⟨empty⟩

def ofList (xs : List String) : PermissionSet where
  toList := distinct (xs.mergeSort fun a b => decide (a ≤ b))
  increasing := increasing_distinct <| by
    have sorted := @List.pairwise_mergeSort _ (fun a b => decide (a ≤ b))
      (fun a b c first second => by
        simp only [decide_eq_true_eq] at *
        exact String.le_trans first second)
      (fun a b => by simpa using String.le_total a b) xs
    exact sorted.imp fun holds => of_decide_eq_true holds

def combine (op : Operator) (left right : PermissionSet) : PermissionSet where
  toList := select op.keeps left.toList right.toList
  increasing := increasing_select _ left.increasing right.increasing

theorem mem_ofList {p : String} {xs : List String} : p ∈ ofList xs ↔ p ∈ xs := by
  show p ∈ distinct _ ↔ _
  rw [mem_distinct, List.mem_mergeSort]

theorem mem_combine (op : Operator) (left right : PermissionSet) (p : String) :
    p ∈ left.combine op right ↔ op.keeps (decide (p ∈ left)) (decide (p ∈ right)) = true :=
  mem_select op.keeps_neither left.increasing right.increasing p

def shown (set : PermissionSet) : String := "\x7b" ++ ", ".intercalate set.toList ++ "\x7d"

end PermissionSet
end RoleAlgebra
