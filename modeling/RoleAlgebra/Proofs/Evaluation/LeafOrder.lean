import RoleAlgebra.Evaluation.Basic
import RoleAlgebra.Formula.Nodes
import RoleAlgebra.Lookup.Script

/-!
The order of lookups. Asking a resolver for a list of references, one after another, gives `answers`
and leaves it in the state `after` them. An evaluation asks for the leaves in the order of
`Formula.refs`, again for every occurrence, and goes no further than the first failure
(`evaluate_of_answered`, `evaluate_of_failed`). The references asked for are those that `recording`
writes down.
-/

namespace RoleAlgebra

variable {σ : Type}

namespace Formula

structure Leaf where
  reference : Reference
  place? : Option Location
  deriving DecidableEq, Repr

def Node.leaf? : Node → Option Leaf
  | ⟨_, .ref reference, place?⟩ => some ⟨reference, place?⟩
  | ⟨_, .op _, _⟩ => none

def leaves (f : Formula) : List Leaf := f.nodes.filterMap Node.leaf?

theorem leaves_nodesAt (depth : Nat) (f : Formula) :
    (nodesAt depth f).filterMap Node.leaf? = f.leaves := by
  suffices general : ∀ a b,
      (nodesAt a f).filterMap Node.leaf? = (nodesAt b f).filterMap Node.leaf? from
    general depth 0
  induction f with
  | ref => simp [Node.leaf?]
  | apply op left right place? ihl ihr =>
    intro a b
    simp [List.filterMap_cons, Node.leaf?, ihl (a + 1) (b + 1), ihr (a + 1) (b + 1)]

@[simp] theorem leaves_ref (reference : Reference) (place? : Option Location) :
    (ref reference place?).leaves = [⟨reference, place?⟩] := by
  simp [leaves, nodes, Node.leaf?]

@[simp] theorem leaves_apply (op : Operator) (left right : Formula) (place? : Option Location) :
    (apply op left right place?).leaves = left.leaves ++ right.leaves := by
  rw [leaves, nodes, nodesAt_apply]
  simp [List.filterMap_cons, leaves_nodesAt, Node.leaf?]

theorem refs_eq_leaves (f : Formula) : f.refs = f.leaves.map (·.reference) := by
  induction f with
  | ref => simp
  | apply op left right place? ihl ihr => simp [ihl, ihr]

variable {α : Type} [Inhabited α]

/-- The formula worked out over given values, which its leaves take one by one. -/
def reduce (combine : Operator → α → α → α) : Formula → List α → α
  | ref _ _, values => values.headD default
  | apply op left right _, values =>
    combine op (left.reduce combine values) (right.reduce combine (values.drop left.refs.length))

theorem reduce_take (combine : Operator → α → α → α) {f : Formula} {n : Nat}
    (enough : f.refs.length ≤ n) (values : List α) :
    f.reduce combine (values.take n) = f.reduce combine values := by
  induction f generalizing n values with
  | ref reference place? =>
    rw [refs_ref, List.length_singleton] at enough
    obtain ⟨n, rfl⟩ := Nat.exists_eq_add_of_le' enough
    cases values <;> rfl
  | apply op left right place? ihl ihr =>
    rw [refs_apply, List.length_append] at enough
    have before : left.refs.length ≤ n := by omega
    have beyond : right.refs.length ≤ n - left.refs.length := by omega
    rw [reduce, reduce, ihl before, List.drop_take, ihr beyond]

theorem reduce_apply_append (combine : Operator → α → α → α) (op : Operator)
    {left : Formula} (right : Formula) (place? : Option Location) {first : List α}
    (enough : first.length = left.refs.length) (second : List α) :
    (apply op left right place?).reduce combine (first ++ second) =
      combine op (left.reduce combine first) (right.reduce combine second) := by
  have here : left.reduce combine (first ++ second) = left.reduce combine first := by
    rw [← reduce_take combine (Nat.le_of_eq enough.symm), List.take_left]
  rw [reduce, here, ← enough, List.drop_left]

end Formula

namespace Resolver

variable (resolver : Resolver σ)

def answers : List Reference → σ → List (Except LookupError PermissionSet)
  | [], _ => []
  | reference :: later, state =>
    (resolver.lookup reference state).1 :: answers later (resolver.lookup reference state).2

def after (refs : List Reference) (state : σ) : σ :=
  refs.foldl (fun state reference => (resolver.lookup reference state).2) state

def recording : Resolver (σ × List Reference) where
  lookup reference state :=
    ((resolver.lookup reference state.1).1,
      (resolver.lookup reference state.1).2, state.2 ++ [reference])

theorem after_append (first second : List Reference) (state : σ) :
    resolver.after (first ++ second) state = resolver.after second (resolver.after first state) :=
  List.foldl_append

theorem answers_append (first second : List Reference) (state : σ) :
    resolver.answers (first ++ second) state =
      resolver.answers first state ++ resolver.answers second (resolver.after first state) := by
  induction first generalizing state with
  | nil => rfl
  | cons reference later ih => simp [answers, after, ih]

@[simp] theorem length_answers (refs : List Reference) (state : σ) :
    (resolver.answers refs state).length = refs.length := by
  induction refs generalizing state with
  | nil => rfl
  | cons reference later ih => simp [answers, ih]

theorem length_of_answered {refs : List Reference} {state : σ} {sets : List PermissionSet}
    (answered : resolver.answers refs state = sets.map .ok) : sets.length = refs.length := by
  rw [← resolver.length_answers refs state, answered, List.length_map]

theorem answers_recording (refs : List Reference) (state : σ) (log : List Reference) :
    resolver.recording.answers refs (state, log) = resolver.answers refs state := by
  induction refs generalizing state log with
  | nil => rfl
  | cons reference later ih => simp [answers, recording, ← ih _ (log ++ [reference])]

theorem after_recording (refs : List Reference) (state : σ) (log : List Reference) :
    resolver.recording.after refs (state, log) = (resolver.after refs state, log ++ refs) := by
  induction refs generalizing state log with
  | nil => simp [after]
  | cons reference later ih =>
    have step := ih (resolver.lookup reference state).2 (log ++ [reference])
    simpa [after, recording] using step

end Resolver

/-- The first failure of two rows of answers is that of the first row, or the first row has none. -/
theorem failed_append {ε α : Type} {first second later : List (Except ε α)} {values : List α}
    {error : ε} (failed : first ++ second = values.map .ok ++ .error error :: later) :
    (∃ later', first = values.map .ok ++ .error error :: later') ∨
      ∃ before values', values = before ++ values' ∧ first = before.map .ok ∧
        second = values'.map .ok ++ .error error :: later := by
  induction first generalizing values with
  | nil => exact .inr ⟨[], values, rfl, rfl, failed⟩
  | cons answer first ih =>
    cases values with
    | nil =>
      obtain ⟨rfl, -⟩ := List.cons.inj failed
      exact .inl ⟨first, rfl⟩
    | cons value values =>
      obtain ⟨rfl, rest⟩ := List.cons.inj failed
      rcases ih rest with ⟨later', rfl⟩ | ⟨before, values', rfl, rfl, fails⟩
      · exact .inl ⟨later', rfl⟩
      · exact .inr ⟨value :: before, values', rfl, rfl, fails⟩

namespace Formula

variable (resolver : Resolver σ)

def calls (f : Formula) (state : σ) : List Reference :=
  (f.evaluate resolver.recording (state, [])).2.2

variable {resolver}

theorem evaluate_ref_of_lookup {reference : Reference} {state next : σ}
    {answer : Except LookupError PermissionSet}
    (asked : resolver.lookup reference state = (answer, next)) (place? : Option Location) :
    (ref reference place?).evaluate resolver state =
      (answer.mapError fun cause => ⟨reference, place?, cause⟩, next) := by
  rw [evaluate, Evaluation.evaluate_ref, asked]
  cases answer <;> rfl

theorem evaluate_apply_of_left_error {left : Formula} {state next : σ} {error : EvaluationError}
    (stopped : left.evaluate resolver state = (.error error, next)) (op : Operator)
    (right : Formula) (place? : Option Location) :
    (apply op left right place?).evaluate resolver state = (.error error, next) := by
  rw [evaluate] at stopped ⊢
  rw [Evaluation.evaluate_apply, stopped]

theorem evaluate_apply_of_left_ok {left right : Formula} {state between next : σ}
    {set : PermissionSet} {result : Except EvaluationError PermissionSet}
    (leftResult : left.evaluate resolver state = (.ok set, between))
    (rightResult : right.evaluate resolver between = (result, next)) (op : Operator)
    (place? : Option Location) :
    (apply op left right place?).evaluate resolver state = (result.map (set.combine op), next) := by
  rw [evaluate] at leftResult rightResult ⊢
  rw [Evaluation.evaluate_apply, leftResult]
  simp only [rightResult]
  cases result <;> rfl

theorem evaluate_of_answered {f : Formula} {state : σ} {sets : List PermissionSet}
    (answered : resolver.answers f.refs state = sets.map .ok) :
    f.evaluate resolver state =
      (.ok (f.reduce PermissionSet.combine sets), resolver.after f.refs state) := by
  induction f generalizing state sets with
  | ref reference place? =>
    rw [refs_ref] at answered ⊢
    obtain ⟨set, rfl, found⟩ := List.map_eq_singleton_iff.mp answered.symm
    rw [evaluate_ref_of_lookup (Prod.ext found.symm rfl)]
    rfl
  | apply op left right place? ihl ihr =>
    rw [refs_apply, Resolver.answers_append] at answered
    obtain ⟨first, second, rfl, leftAnswered, rightAnswered⟩ :=
      List.map_eq_append_iff.mp answered.symm
    have enough := resolver.length_of_answered leftAnswered.symm
    have leftResult := ihl leftAnswered.symm
    have rightResult := ihr rightAnswered.symm
    rw [evaluate_apply_of_left_ok leftResult rightResult op place?, refs_apply,
      Resolver.after_append, reduce_apply_append _ op right place? enough]
    rfl

theorem evaluate_of_failed {f : Formula} {state : σ} {sets : List PermissionSet}
    {cause : LookupError} {later : List (Except LookupError PermissionSet)}
    (failed : resolver.answers f.refs state = sets.map .ok ++ .error cause :: later) :
    ∃ leaf, f.leaves[sets.length]? = some leaf ∧
      f.evaluate resolver state =
        (.error ⟨leaf.reference, leaf.place?, cause⟩,
          resolver.after (f.refs.take (sets.length + 1)) state) := by
  induction f generalizing state sets later with
  | ref reference place? =>
    rw [refs_ref] at failed ⊢
    cases sets with
    | cons set sets => simp [Resolver.answers] at failed
    | nil =>
      obtain ⟨found, -⟩ := List.cons.inj failed
      refine ⟨⟨reference, place?⟩, by simp, ?_⟩
      rw [evaluate_ref_of_lookup (Prod.ext found rfl)]
      rfl
  | apply op left right place? ihl ihr =>
    rw [refs_apply, Resolver.answers_append] at failed
    rcases failed_append failed with ⟨later', leftFailed⟩ |
      ⟨before, sets', rfl, leftAnswered, rightFailed⟩
    · -- the left operand fails, and the right one is not reached
      obtain ⟨leaf, here, leftResult⟩ := ihl leftFailed
      have inside : sets.length < left.leaves.length := (List.getElem?_eq_some_iff.mp here).1
      have within : sets.length + 1 ≤ left.refs.length := by
        rw [refs_eq_leaves, List.length_map]
        exact inside
      refine ⟨leaf, ?_, ?_⟩
      · rw [leaves_apply, List.getElem?_append_left inside, here]
      · rw [evaluate_apply_of_left_error leftResult, refs_apply,
          List.take_append_of_le_length within]
    · -- the left operand has all of its answers, so the failure is counted from the right one
      obtain ⟨leaf, here, rightResult⟩ := ihr rightFailed
      have leftResult := evaluate_of_answered leftAnswered
      have enough := resolver.length_of_answered leftAnswered
      have leafCount : before.length = left.leaves.length := by
        rw [enough, refs_eq_leaves, List.length_map]
      refine ⟨leaf, ?_, ?_⟩
      · rw [leaves_apply, List.length_append, leafCount,
          List.getElem?_append_right (Nat.le_add_right _ _), Nat.add_sub_cancel_left, here]
      · rw [evaluate_apply_of_left_ok leftResult rightResult op place?, refs_apply,
          List.length_append, Nat.add_assoc, enough, List.take_length_add_append,
          Resolver.after_append]
        rfl

end Formula

/-- The leaves are looked up as they are written, each time they are written, up to the first
failure, which is reported with the leaf and the resolver's reason. -/
theorem evaluate_in_leaf_order (f : Formula) (resolver : Resolver σ) (state : σ) :
    (∀ sets : List PermissionSet, resolver.answers f.refs state = sets.map .ok →
      f.evaluate resolver state =
        (.ok (f.reduce PermissionSet.combine sets),
          resolver.after f.refs state) ∧
      f.calls resolver state = f.refs) ∧
    ∀ (sets : List PermissionSet) (cause : LookupError) later,
      resolver.answers f.refs state = sets.map .ok ++ .error cause :: later →
      ∃ leaf, f.leaves[sets.length]? = some leaf ∧
        f.evaluate resolver state =
          (.error ⟨leaf.reference, leaf.place?, cause⟩,
            resolver.after (f.refs.take (sets.length + 1)) state) ∧
        f.calls resolver state = f.refs.take (sets.length + 1) := by
  refine ⟨fun sets answered => ?_, fun sets cause later failed => ?_⟩
  · have recorded := answered
    rw [← resolver.answers_recording f.refs state []] at recorded
    refine ⟨Formula.evaluate_of_answered answered, ?_⟩
    rw [Formula.calls, Formula.evaluate_of_answered recorded,
      Resolver.after_recording, List.nil_append]
  · have recorded := failed
    rw [← resolver.answers_recording f.refs state []] at recorded
    obtain ⟨leaf, here, result⟩ := Formula.evaluate_of_failed failed
    obtain ⟨_, _, recordedResult⟩ := Formula.evaluate_of_failed recorded
    refine ⟨leaf, here, result, ?_⟩
    rw [Formula.calls, recordedResult, Resolver.after_recording, List.nil_append]

theorem evaluate_in_leaf_order_repeated :
    let a : Reference := ⟨.named, "a"⟩
    let b : Reference := ⟨.named, "b"⟩
    let place : Location := ⟨"a - b * a", 4, 1⟩
    let f : Formula :=
      .apply .diff (.ref a none) (.apply .and (.ref b (some place)) (.ref a none) none) none
    let p : PermissionSet := ⟨["p"], List.pairwise_singleton _ _⟩
    let q : PermissionSet := ⟨["q"], List.pairwise_singleton _ _⟩
    let script (answer : Script.Answer) : Script :=
      .ofEntries [⟨a, [.ok p, .ok .empty]⟩, ⟨b, [answer]⟩]
    ((f.evaluate Script.resolver (script (.ok q))).1 = .ok p ∧
      f.calls Script.resolver (script (.ok q)) = [a, b, a]) ∧
    (f.evaluate Script.resolver (script (.error (Script.unknown b)))).1 =
      .error ⟨b, some place, Script.unknown b⟩ ∧
      f.calls Script.resolver (script (.error (Script.unknown b))) = [a, b] := by
  intro a b place f p q script
  have refs : f.refs = [a, b, a] := by simp [f]
  have leaves : f.leaves = [⟨a, none⟩, ⟨b, some place⟩, ⟨a, none⟩] := by simp [f]
  constructor
  · have answered : Script.resolver.answers f.refs (script (.ok q)) = [p, q, .empty].map .ok := by
      rw [refs]
      rfl
    obtain ⟨result, calls⟩ := (evaluate_in_leaf_order f Script.resolver _).1 _ answered
    refine ⟨?_, calls.trans refs⟩
    have value : f.reduce PermissionSet.combine [p, q, .empty] = p := by
      simp [f, p, q, Formula.reduce, PermissionSet.combine, PermissionSet.empty, select,
        Operator.keeps]
    rw [result, value]
  · have failed : Script.resolver.answers f.refs (script (.error (Script.unknown b))) =
        [p].map .ok ++ .error (Script.unknown b) :: [.ok .empty] := by
      rw [refs]
      rfl
    obtain ⟨leaf, here, result, calls⟩ :=
      (evaluate_in_leaf_order f Script.resolver _).2 _ _ _ failed
    rw [leaves] at here
    obtain rfl := Option.some.inj here
    rw [refs] at calls
    exact ⟨congrArg Prod.fst result, calls⟩

end RoleAlgebra
