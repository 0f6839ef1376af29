import RoleAlgebra.Proofs.Evaluation.LeafOrder
import RoleAlgebra.Proofs.PermissionSet.Updates

namespace RoleAlgebra

variable {σ : Type}

/-- What an operator says of an element, given what its operands say. -/
def Operator.connective : Operator → Prop → Prop → Prop
  | or, left, right => left ∨ right
  | diff, left, right => left ∧ ¬ right
  | and, left, right => left ∧ right
  | xor, left, right => ¬ (left ↔ right)

theorem Operator.keeps_iff (op : Operator) (left right : Bool) :
    op.keeps left right = true ↔ op.connective (left = true) (right = true) := by
  cases op <;> cases left <;> cases right <;> simp [keeps, connective]

theorem PermissionSet.mem_combine_iff {op : Operator} {left right : PermissionSet} {p : String} :
    p ∈ left.combine op right ↔ op.connective (p ∈ left) (p ∈ right) := by
  rw [mem_combine, Operator.keeps_iff, decide_eq_true_eq, decide_eq_true_eq]

theorem Formula.mem_reduce {f : Formula} {sets : List PermissionSet}
    (enough : sets.length = f.refs.length) (p : String) :
    p ∈ f.reduce PermissionSet.combine sets ↔
      f.reduce Operator.connective (sets.map fun set => p ∈ set) := by
  induction f generalizing sets with
  | ref reference place? =>
    rw [refs_ref] at enough
    obtain ⟨set, rfl⟩ := List.length_eq_one_iff.1 enough
    rfl
  | apply op left right place? leftIh rightIh =>
    rw [refs_apply, List.length_append] at enough
    obtain ⟨first, second, rfl, fits⟩ : ∃ first second, sets = first ++ second ∧
        first.length = left.refs.length := by
      refine ⟨sets.take left.refs.length, sets.drop left.refs.length, ?_, ?_⟩
      · rw [List.take_append_drop]
      · rw [List.length_take]
        omega
    have fitsRight : second.length = right.refs.length := by
      rw [List.length_append] at enough
      omega
    have fitsMap : (first.map fun set => p ∈ set).length = left.refs.length := by
      rw [List.length_map, fits]
    rw [List.map_append, reduce_apply_append _ op right place? fits,
      reduce_apply_append _ op right place? fitsMap, PermissionSet.mem_combine_iff, leftIh fits,
      rightIh fitsRight]

def codePoints (p : String) : List Nat := p.toList.map Char.toNat

theorem codePoints_lt_iff {p q : String} : codePoints p < codePoints q ↔ p < q := by
  rw [String.lt_iff, codePoints, codePoints]
  generalize p.toList = left
  generalize q.toList = right
  induction left generalizing right with
  | nil => cases right <;> simp
  | cons c left ih =>
    cases right with
    | nil => simp
    | cons d right =>
      rw [List.map_cons, List.map_cons, List.cons_lt_cons_iff, List.cons_lt_cons_iff, ih]
      have below : c.toNat < d.toNat ↔ c < d := Iff.rfl
      have same : c.toNat = d.toNat ↔ c = d := Char.toNat_inj
      rw [below, same]

theorem PermissionSet.codePoints_increasing (set : PermissionSet) :
    (set.toList.map codePoints).Pairwise (· < ·) :=
  List.pairwise_map.2 (set.increasing.imp codePoints_lt_iff.2)

/-- A formula has the permissions for which it is true that its operators' connectives hold of what
its leaves have. They come in the order of their code points, each once, and changing the left
operands in place gives the same. -/
theorem evaluate_pointwise (f : Formula) (resolver : Resolver σ) (state : σ)
    {sets : List PermissionSet} (answered : resolver.answers f.refs state = sets.map .ok) :
    ∃ result, (f.evaluate resolver state).1 = .ok result ∧
      (∀ p, p ∈ result ↔ f.reduce Operator.connective (sets.map fun set => p ∈ set)) ∧
      (result.toList.map codePoints).Pairwise (· < ·) ∧ result.toList.Nodup ∧
      result = f.reduce PermissionSet.update sets := by
  have enough := resolver.length_of_answered answered
  have updates : PermissionSet.combine = PermissionSet.update := by
    funext op left right
    exact PermissionSet.combine_eq_update op left right
  refine ⟨f.reduce PermissionSet.combine sets, ?_, Formula.mem_reduce enough,
    PermissionSet.codePoints_increasing _, PermissionSet.nodup _, ?_⟩
  · rw [Formula.evaluate_of_answered answered]
  · rw [updates]

theorem evaluate_pointwise_repeated :
    let a : Reference := ⟨.named, "a"⟩
    let b : Reference := ⟨.file, "b"⟩
    let f : Formula :=
      .apply .xor (.ref a none) (.apply .diff (.ref b none) (.ref a none) none) none
    let sets : List PermissionSet := [.ofList ["p", "q"], .ofList ["q", "r"], .ofList ["r"]]
    let script : Script := .ofEntries
      [⟨a, [.ok (.ofList ["p", "q"]), .ok (.ofList ["r"])]⟩, ⟨b, [.ok (.ofList ["q", "r"])]⟩]
    Script.resolver.answers f.refs script = sets.map .ok ∧
      ∃ result, (f.evaluate Script.resolver script).1 = .ok result ∧ "p" ∈ result ∧
        "q" ∉ result := by
  intro a b f sets script
  have refs : f.refs = [a, b, a] := by simp [f]
  have answered : Script.resolver.answers f.refs script = sets.map .ok := by
    rw [refs]
    rfl
  obtain ⟨result, evaluated, member, -⟩ := evaluate_pointwise f Script.resolver script answered
  refine ⟨answered, result, evaluated, ?_, ?_⟩
  · rw [member]
    simp [f, sets, Formula.reduce, Operator.connective, PermissionSet.mem_ofList]
  · rw [member]
    simp [f, sets, Formula.reduce, Operator.connective, PermissionSet.mem_ofList]

end RoleAlgebra
