import RoleAlgebra.Formula.Basic

/-!
The nodes of a formula: parent first, left before right. The listing keeps a list of formulas still
to visit, so that its depth of recursion does not grow with the formula; `nodes_apply` gives it back
by recursion on the tree. A formula's bare form can be read off its labels (`labels_injective`), so
comparing two formulas is comparing their listings.
-/

namespace RoleAlgebra.Formula

inductive Label where
  | ref (reference : Reference)
  | op (op : Operator)
  deriving DecidableEq, Repr

namespace Label

def rule : Label → String
  | .ref reference => reference.origin.rule
  | .op operator => operator.rule

def reference? : Label → Option Reference
  | .ref reference => some reference
  | .op _ => none

end Label

structure Node where
  depth : Nat
  label : Label
  place? : Option Location
  deriving DecidableEq, Repr

def workload : List (Nat × Formula) → Nat
  | [] => 0
  | (_, f) :: pending => f.size + workload pending

def nodesFrom (listed : List Node) : List (Nat × Formula) → List Node
  | [] => listed.reverse
  | (depth, ref reference place?) :: pending =>
    nodesFrom (⟨depth, .ref reference, place?⟩ :: listed) pending
  | (depth, apply op left right place?) :: pending =>
    nodesFrom (⟨depth, .op op, place?⟩ :: listed)
      ((depth + 1, left) :: (depth + 1, right) :: pending)
termination_by pending => workload pending
decreasing_by
  · simp [workload, size]
  · simp [workload, size]
    omega

def nodesAt (depth : Nat) (f : Formula) : List Node := nodesFrom [] [(depth, f)]

def nodes (f : Formula) : List Node := nodesAt 0 f

def labels (f : Formula) : List Label := f.nodes.map (·.label)

def refs (f : Formula) : List Reference := f.labels.filterMap Label.reference?

def sameShape (f g : Formula) : Bool := f.labels == g.labels

def same (f g : Formula) : Bool := f.nodes == g.nodes

theorem nodesFrom_eq (listed : List Node) (pending : List (Nat × Formula)) :
    nodesFrom listed pending =
      listed.reverse ++ pending.flatMap fun item => nodesAt item.1 item.2 := by
  suffices general : ∀ (n : Nat) (pending : List (Nat × Formula)) (listed : List Node),
      workload pending ≤ n → nodesFrom listed pending =
        listed.reverse ++ pending.flatMap fun item => nodesAt item.1 item.2 from
    general _ pending listed (Nat.le_refl _)
  intro n
  induction n with
  | zero =>
    intro pending listed bound
    cases pending with
    | nil => simp [nodesFrom]
    | cons first pending =>
      have := first.2.size_pos
      simp [workload] at bound
      omega
  | succ n ih =>
    intro pending listed bound
    match pending with
    | [] => simp [nodesFrom]
    | (depth, ref reference place?) :: pending =>
      have rest : workload pending ≤ n := by
        simp [workload, size] at bound ⊢
        omega
      rw [nodesFrom, ih _ _ rest]
      simp [nodesAt, nodesFrom]
    | (depth, apply op left right place?) :: pending =>
      have rest : workload ((depth + 1, left) :: (depth + 1, right) :: pending) ≤ n := by
        simp [workload, size] at bound ⊢
        omega
      have both : workload [(depth + 1, left), (depth + 1, right)] ≤ n := by
        simp [workload, size] at bound ⊢
        omega
      have root : nodesAt depth (apply op left right place?) =
          ⟨depth, .op op, place?⟩ :: (nodesAt (depth + 1) left ++ nodesAt (depth + 1) right) := by
        rw [nodesAt, nodesFrom, ih _ _ both]
        simp
      rw [nodesFrom, ih _ _ rest]
      simp [root]

@[simp] theorem nodesAt_ref (depth : Nat) (reference : Reference) (place? : Option Location) :
    nodesAt depth (ref reference place?) = [⟨depth, .ref reference, place?⟩] := by
  simp [nodesAt, nodesFrom]

@[simp] theorem nodesAt_apply (depth : Nat) (op : Operator) (left right : Formula)
    (place? : Option Location) :
    nodesAt depth (apply op left right place?) =
      ⟨depth, .op op, place?⟩ :: (nodesAt (depth + 1) left ++ nodesAt (depth + 1) right) := by
  rw [nodesAt, nodesFrom, nodesFrom_eq]
  simp

theorem labels_nodesAt (depth : Nat) (f : Formula) :
    (nodesAt depth f).map (·.label) = f.labels := by
  suffices general : ∀ a b, (nodesAt a f).map (·.label) = (nodesAt b f).map (·.label) from
    general depth 0
  induction f with
  | ref => simp
  | apply op left right place? ihl ihr => intro a b; simp [ihl (a + 1) (b + 1), ihr (a + 1) (b + 1)]

@[simp] theorem labels_ref (reference : Reference) (place? : Option Location) :
    (ref reference place?).labels = [.ref reference] := by simp [labels, nodes]

@[simp] theorem labels_apply (op : Operator) (left right : Formula) (place? : Option Location) :
    (apply op left right place?).labels = .op op :: (left.labels ++ right.labels) := by
  rw [labels, nodes, nodesAt_apply]
  simp [labels_nodesAt]

@[simp] theorem refs_ref (reference : Reference) (place? : Option Location) :
    (ref reference place?).refs = [reference] := by simp [refs, Label.reference?]

@[simp] theorem refs_apply (op : Operator) (left right : Formula) (place? : Option Location) :
    (apply op left right place?).refs = left.refs ++ right.refs := by
  simp [refs, List.filterMap_cons, Label.reference?]

/-- Labels are a prefix notation: what follows those of one formula is not part of it. -/
theorem labels_append_injective {f g : Formula} {a b : List Label}
    (same : f.labels ++ a = g.labels ++ b) : f.bare = g.bare ∧ a = b := by
  induction f generalizing g a b with
  | ref reference place? =>
    cases g with
    | ref => simp_all [bare]
    | apply => simp at same
  | apply op left right place? ihl ihr =>
    cases g with
    | ref => simp at same
    | apply op' left' right' place?' =>
      simp only [labels_apply, List.cons_append, List.append_assoc, List.cons.injEq,
        Label.op.injEq] at same
      obtain ⟨leftSame, rest⟩ := ihl same.2
      obtain ⟨rightSame, tail⟩ := ihr rest
      exact ⟨by simp [bare, same.1, leftSame, rightSame], tail⟩

theorem labels_bare (f : Formula) : f.bare.labels = f.labels := by
  induction f with
  | ref => simp [bare]
  | apply op left right place? ihl ihr => simp [bare, ihl, ihr]

theorem labels_injective {f g : Formula} : f.labels = g.labels ↔ f.bare = g.bare := by
  constructor
  · intro same
    exact (labels_append_injective (a := []) (b := []) (by simpa using same)).1
  · intro same
    rw [← labels_bare f, same, labels_bare]

theorem sameShape_iff {f g : Formula} : f.sameShape g = true ↔ f.bare = g.bare := by
  simp [sameShape, labels_injective]

end RoleAlgebra.Formula
