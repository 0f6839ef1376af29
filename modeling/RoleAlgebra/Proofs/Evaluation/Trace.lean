import RoleAlgebra.Proofs.Evaluation.LeafOrder

/-!
What a sink is told of an evaluation. `steps` lists the steps that are taken from a state of the
resolver on; a sink receives all of them, one after another, and changes nothing else
(`evaluateWith_eq`). With all answers given, they are the nodes of the formula in post-order
(`events_of_answered`); with one missing, as many of them as end with the leaf that has no answer
(`events_of_failed`).
-/

namespace RoleAlgebra

variable {σ τ : Type}

def Resolver.beside (resolver : Resolver σ) (τ : Type) : Resolver (σ × τ) where
  lookup reference state :=
    ((resolver.lookup reference state.1).1, (resolver.lookup reference state.1).2, state.2)

structure Event where
  place? : Option Location
  rule : String
  operands : List String
  deriving DecidableEq, Repr

/-- The elements of a set in braces, in their order. -/
def Event.written (set : PermissionSet) : String :=
  "\x7b" ++ ", ".intercalate set.toList ++ "\x7d"

def Step.event (step : Step) : Event := ⟨step.place?, step.rule, step.operands⟩

def Step.isLookup : Step → Bool
  | lookup _ _ => true
  | apply _ _ _ _ => false

namespace Formula

def evaluateWith (f : Formula) (resolver : Resolver σ) (sink : Step → τ → τ) (state : σ × τ) :
    Evaluation.Outcome (σ × τ) :=
  f.evaluateObserved (resolver.beside τ) (fun step state => (state.1, sink step state.2)) state

def trace (f : Formula) (resolver : Resolver σ) (state : σ) : List Step :=
  (f.evaluateWith resolver (fun step steps => steps ++ [step]) (state, [])).2.2

/-- The steps of an evaluation: those of the left operand, those of the right one if the left one
has a value, and the operator itself if both have. -/
def steps (resolver : Resolver σ) : Formula → σ → List Step
  | ref reference place?, _ => [.lookup reference place?]
  | apply op left right place?, state =>
    left.steps resolver state ++
      match left.evaluate resolver state with
      | (.error _, _) => []
      | (.ok leftSet, between) =>
        right.steps resolver between ++
          match right.evaluate resolver between with
          | (.error _, _) => []
          | (.ok rightSet, _) => [.apply op leftSet rightSet place?]

def events : Formula → List PermissionSet → List Event
  | ref reference place?, _ =>
    [⟨place?, (match reference.origin with | .named => "role" | .file => "file"), [reference.id]⟩]
  | apply op left right place?, sets =>
    let later := sets.drop left.refs.length
    left.events sets ++ right.events later ++
      [⟨place?, op.rule, [Event.written (left.reduce PermissionSet.combine sets),
        Event.written (right.reduce PermissionSet.combine later)]⟩]

variable {resolver : Resolver σ}

theorem evaluateWith_eq (f : Formula) (resolver : Resolver σ) (sink : Step → τ → τ) (state : σ)
    (told : τ) :
    f.evaluateWith resolver sink (state, told) =
      ((f.evaluate resolver state).1, (f.evaluate resolver state).2,
        (f.steps resolver state).foldl (fun told step => sink step told) told) := by
  induction f generalizing state told with
  | ref reference place? =>
    rw [evaluateWith, Evaluation.evaluate_ref, evaluate, Evaluation.evaluate_ref]
    cases answer : resolver.lookup reference state with
    | mk result next => cases result <;> simp [Resolver.beside, steps, answer]
  | apply op left right place? leftIh rightIh =>
    have leftRun := leftIh state told
    rw [evaluateWith] at leftRun ⊢
    rw [Evaluation.evaluate_apply, leftRun, steps]
    cases leftResult : left.evaluate resolver state with
    | mk answer between =>
      cases answer with
      | error error =>
        rw [evaluate_apply_of_left_error leftResult]
        simp
      | ok leftSet =>
        -- the right operand's steps come to a sink that has been told those of the left one
        have rightRun := rightIh between
          ((left.steps resolver state).foldl (fun told step => sink step told) told)
        rw [evaluateWith] at rightRun
        cases rightResult : right.evaluate resolver between with
        | mk answer next =>
          rw [evaluate_apply_of_left_ok leftResult rightResult]
          simp only [rightRun, rightResult]
          cases answer <;> simp [Except.map]

theorem trace_eq_steps (f : Formula) (resolver : Resolver σ) (state : σ) :
    f.trace resolver state = f.steps resolver state := by
  have kept (steps told : List Step) :
      steps.foldl (fun told step => told ++ [step]) told = told ++ steps := by
    induction steps generalizing told with
    | nil => simp
    | cons step steps ih => simp [ih]
  rw [trace, evaluateWith_eq, kept, List.nil_append]

theorem events_take {f : Formula} {n : Nat} (enough : f.refs.length ≤ n)
    (sets : List PermissionSet) : f.events (sets.take n) = f.events sets := by
  induction f generalizing n sets with
  | ref reference place? => rfl
  | apply op left right place? leftIh rightIh =>
    rw [refs_apply, List.length_append] at enough
    have before : left.refs.length ≤ n := by omega
    have beyond : right.refs.length ≤ n - left.refs.length := by omega
    simp only [events, List.drop_take, leftIh before, rightIh beyond,
      reduce_take PermissionSet.combine before, reduce_take PermissionSet.combine beyond]

theorem events_apply_append (op : Operator) {left : Formula} (right : Formula)
    (place? : Option Location) {first : List PermissionSet}
    (enough : first.length = left.refs.length) (second : List PermissionSet) :
    (apply op left right place?).events (first ++ second) =
      left.events first ++ right.events second ++
        [⟨place?, op.rule, [Event.written (left.reduce PermissionSet.combine first),
          Event.written (right.reduce PermissionSet.combine second)]⟩] := by
  have firstOnly : left.events (first ++ second) = left.events first := by
    rw [← events_take (Nat.le_of_eq enough.symm), List.take_left]
  have value : left.reduce PermissionSet.combine (first ++ second) =
      left.reduce PermissionSet.combine first := by
    rw [← reduce_take PermissionSet.combine (Nat.le_of_eq enough.symm), List.take_left]
  rw [events, firstOnly, value, ← enough, List.drop_left]

theorem steps_apply_of_left_error {left : Formula} {state next : σ} {error : EvaluationError}
    (stopped : left.evaluate resolver state = (.error error, next)) (op : Operator)
    (right : Formula) (place? : Option Location) :
    (apply op left right place?).steps resolver state = left.steps resolver state := by
  simp [steps, stopped]

theorem steps_apply_of_right_error {left right : Formula} {state between next : σ}
    {set : PermissionSet} {error : EvaluationError}
    (leftResult : left.evaluate resolver state = (.ok set, between))
    (stopped : right.evaluate resolver between = (.error error, next)) (op : Operator)
    (place? : Option Location) :
    (apply op left right place?).steps resolver state =
      left.steps resolver state ++ right.steps resolver between := by
  simp [steps, leftResult, stopped]

theorem steps_apply_of_ok {left right : Formula} {state between next : σ}
    {leftSet rightSet : PermissionSet}
    (leftResult : left.evaluate resolver state = (.ok leftSet, between))
    (rightResult : right.evaluate resolver between = (.ok rightSet, next)) (op : Operator)
    (place? : Option Location) :
    (apply op left right place?).steps resolver state =
      left.steps resolver state ++ right.steps resolver between ++
        [.apply op leftSet rightSet place?] := by
  simp [steps, leftResult, rightResult]

/-- With all answers given, there is a step for each node, and a lookup for each leaf. -/
theorem events_of_answered {f : Formula} {state : σ} {sets : List PermissionSet}
    (answered : resolver.answers f.refs state = sets.map .ok) :
    (f.steps resolver state).map Step.event = f.events sets ∧
      (f.steps resolver state).countP Step.isLookup = sets.length := by
  induction f generalizing state sets with
  | ref reference place? =>
    have one := resolver.length_of_answered answered
    rw [refs_ref, List.length_singleton] at one
    refine ⟨?_, one.symm⟩
    obtain ⟨origin, id⟩ := reference
    cases origin <;> rfl
  | apply op left right place? leftIh rightIh =>
    rw [refs_apply, Resolver.answers_append] at answered
    obtain ⟨first, second, rfl, leftAnswered, rightAnswered⟩ :=
      List.map_eq_append_iff.mp answered.symm
    have enough := resolver.length_of_answered leftAnswered.symm
    have leftResult := evaluate_of_answered leftAnswered.symm
    have rightResult := evaluate_of_answered rightAnswered.symm
    obtain ⟨leftEvents, leftCount⟩ := leftIh leftAnswered.symm
    obtain ⟨rightEvents, rightCount⟩ := rightIh rightAnswered.symm
    rw [steps_apply_of_ok leftResult rightResult, events_apply_append op right place? enough]
    constructor
    · rw [List.map_append, List.map_append, leftEvents, rightEvents]
      rfl
    · rw [List.countP_append, List.countP_append, leftCount, rightCount, List.length_append]
      rfl

/-- With an answer missing, the steps end with the lookup of that leaf, and up to there they are the
same whatever the leaves after it have. -/
theorem events_of_failed {f : Formula} {state : σ} {sets : List PermissionSet}
    {cause : LookupError} {later : List (Except LookupError PermissionSet)}
    (failed : resolver.answers f.refs state = sets.map .ok ++ .error cause :: later) :
    ∃ leaf earlier, f.leaves[sets.length]? = some leaf ∧
      f.steps resolver state = earlier ++ [.lookup leaf.reference leaf.place?] ∧
      earlier.countP Step.isLookup = sets.length ∧
      ∀ more, (sets ++ more).length = f.refs.length →
        (f.steps resolver state).map Step.event <+: f.events (sets ++ more) := by
  induction f generalizing state sets later with
  | ref reference place? =>
    rw [refs_ref] at failed
    cases sets with
    | cons set sets => simp [Resolver.answers] at failed
    | nil =>
      refine ⟨⟨reference, place?⟩, [], by simp, rfl, rfl, ?_⟩
      intro more enough
      obtain ⟨origin, id⟩ := reference
      cases origin <;> exact List.prefix_refl _
  | apply op left right place? leftIh rightIh =>
    rw [refs_apply, Resolver.answers_append] at failed
    rcases failed_append failed with ⟨later', leftFailed⟩ |
      ⟨before, sets', rfl, leftAnswered, rightFailed⟩
    · -- the right operand is never reached
      obtain ⟨leaf, earlier, here, ends, count, listed⟩ := leftIh leftFailed
      obtain ⟨_, _, leftResult⟩ := evaluate_of_failed leftFailed
      have inside : sets.length < left.leaves.length := (List.getElem?_eq_some_iff.mp here).1
      have within : sets.length < left.refs.length := by
        rw [refs_eq_leaves, List.length_map]
        exact inside
      rw [steps_apply_of_left_error leftResult, leaves_apply, List.getElem?_append_left inside]
      refine ⟨leaf, earlier, here, ends, count, ?_⟩
      intro more enough
      -- only the sets of the left operand's leaves matter to its events
      have start : (sets ++ more).take left.refs.length =
          sets ++ more.take (left.refs.length - sets.length) := by
        rw [List.take_append, List.take_of_length_le (Nat.le_of_lt within)]
      have fits : (sets ++ more.take (left.refs.length - sets.length)).length =
          left.refs.length := by
        rw [← start, List.length_take, enough, refs_apply, List.length_append]
        omega
      have leftListed := listed _ fits
      rw [← start, events_take (Nat.le_refl _)] at leftListed
      refine leftListed.trans ?_
      rw [events, List.append_assoc]
      exact List.prefix_append _ _
    · -- all of the left operand's events come first
      obtain ⟨leaf, earlier, here, ends, count, listed⟩ := rightIh rightFailed
      obtain ⟨_, _, rightResult⟩ := evaluate_of_failed rightFailed
      have leftResult := evaluate_of_answered leftAnswered
      have enough := resolver.length_of_answered leftAnswered
      obtain ⟨leftEvents, leftCount⟩ := events_of_answered leftAnswered
      have leafCount : before.length = left.leaves.length := by
        rw [enough, refs_eq_leaves, List.length_map]
      rw [steps_apply_of_right_error leftResult rightResult]
      refine ⟨leaf, left.steps resolver state ++ earlier, ?_, ?_, ?_, ?_⟩
      · rw [leaves_apply, List.length_append, leafCount,
          List.getElem?_append_right (Nat.le_add_right _ _), Nat.add_sub_cancel_left, here]
      · rw [ends, List.append_assoc]
      · rw [List.countP_append, leftCount, count, List.length_append]
      · intro more whole
        have fits : (sets' ++ more).length = right.refs.length := by
          rw [refs_apply] at whole
          simp only [List.length_append] at whole ⊢
          omega
        rw [List.append_assoc, events_apply_append op right place? enough, List.map_append,
          leftEvents, List.append_assoc]
        exact (List.prefix_append_right_inj _).2 ((listed more fits).trans (List.prefix_append _ _))

end Formula

/-- A sink changes neither the result nor the lookups. It is told of every node once, in post-order,
and of an evaluation that fails, of the nodes up to the leaf that fails. -/
theorem trace_only_observes (f : Formula) (resolver : Resolver σ) (state : σ) :
    (∀ (τ : Type) (sink : Step → τ → τ) (told : τ),
      f.evaluateWith resolver sink (state, told) =
        ((f.evaluate resolver state).1, (f.evaluate resolver state).2,
          (f.trace resolver state).foldl (fun told step => sink step told) told) ∧
      (f.evaluateWith resolver.recording sink ((state, []), told)).2.1.2 =
        f.calls resolver state) ∧
    (∀ sets : List PermissionSet, resolver.answers f.refs state = sets.map .ok →
      (f.trace resolver state).map Step.event = f.events sets) ∧
    ∀ (sets : List PermissionSet) (cause : LookupError) later,
      resolver.answers f.refs state = sets.map .ok ++ .error cause :: later →
      ∃ leaf earlier, f.leaves[sets.length]? = some leaf ∧
        f.trace resolver state = earlier ++ [.lookup leaf.reference leaf.place?] ∧
        earlier.countP Step.isLookup = sets.length ∧
        ∀ more, (sets ++ more).length = f.refs.length →
          (f.trace resolver state).map Step.event <+: f.events (sets ++ more) := by
  rw [Formula.trace_eq_steps]
  refine ⟨fun τ sink told => ?_, fun sets answered => ?_, fun sets cause later failed => ?_⟩
  · refine ⟨Formula.evaluateWith_eq f resolver sink state told, ?_⟩
    rw [Formula.evaluateWith_eq]
    rfl
  · exact (Formula.events_of_answered answered).1
  · exact Formula.events_of_failed failed

theorem trace_only_observes_repeated :
    let a : Reference := ⟨.named, "a"⟩
    let b : Reference := ⟨.file, "b"⟩
    let place : Location := ⟨"a ^ (@b - a)", 5, 2⟩
    let f : Formula :=
      .apply .xor (.ref a none) (.apply .diff (.ref b (some place)) (.ref a none) none) none
    let p : PermissionSet := ⟨["p", "r"], List.pairwise_pair.2 (by decide)⟩
    let q : PermissionSet := ⟨["q"], List.pairwise_singleton _ _⟩
    let script (answer : Script.Answer) : Script :=
      .ofEntries [⟨a, [.ok p, .ok .empty]⟩, ⟨b, [answer]⟩]
    (f.trace Script.resolver (script (.ok q))).map Step.event =
        [⟨none, "role", ["a"]⟩, ⟨some place, "file", ["b"]⟩, ⟨none, "role", ["a"]⟩,
          ⟨none, "diff_expr", ["\x7bq\x7d", "\x7b\x7d"]⟩,
          ⟨none, "xor_expr", ["\x7bp, r\x7d", "\x7bq\x7d"]⟩] ∧
      ∃ earlier, f.trace Script.resolver (script (.error (Script.unknown b))) =
        earlier ++ [.lookup b (some place)] ∧ earlier.countP Step.isLookup = 1 := by
  intro a b place f p q script
  have refs : f.refs = [a, b, a] := by simp [f]
  have leaves : f.leaves = [⟨a, none⟩, ⟨b, some place⟩, ⟨a, none⟩] := by simp [f]
  constructor
  · have answered : Script.resolver.answers f.refs (script (.ok q)) = [p, q, .empty].map .ok := by
      rw [refs]
      rfl
    rw [(trace_only_observes f Script.resolver _).2.1 _ answered]
    have difference : PermissionSet.combine .diff q .empty = q := by
      simp [q, PermissionSet.combine, PermissionSet.empty, select, Operator.keeps]
    have written : Event.written p = "\x7bp, r\x7d" ∧ Event.written q = "\x7bq\x7d" ∧
        Event.written .empty = "\x7b\x7d" := ⟨rfl, rfl, rfl⟩
    simp [f, a, b, Formula.events, Formula.reduce, difference, Operator.rule, written]
  · have failed : Script.resolver.answers f.refs (script (.error (Script.unknown b))) =
        [p].map .ok ++ .error (Script.unknown b) :: [.ok .empty] := by
      rw [refs]
      rfl
    obtain ⟨leaf, earlier, here, ends, count, -⟩ :=
      (trace_only_observes f Script.resolver _).2.2 _ _ _ failed
    rw [leaves] at here
    obtain rfl := Option.some.inj here
    exact ⟨earlier, ends, count⟩

end RoleAlgebra
