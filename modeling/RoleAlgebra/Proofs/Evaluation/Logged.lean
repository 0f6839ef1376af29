import RoleAlgebra.Proofs.Evaluation.Calls
import RoleAlgebra.Proofs.Evaluation.Trace

namespace RoleAlgebra

variable {σ E : Type}

namespace Resolver

def silent (answer : Reference → Except LookupError PermissionSet) : Resolver Unit where
  lookup reference _ := (answer reference, ())

/-- Whether a resolver answers without looking at its log, and adds to it, latest first, what it has
to say of the lookup. -/
def Tells (resolver : Resolver (List E))
    (answer : Reference → Except LookupError PermissionSet) (said : Reference → List E) : Prop :=
  ∀ reference log,
    resolver.lookup reference log = (answer reference, (said reference).reverse ++ log)

end Resolver

namespace Step

def leaf? : Step → Option Formula.Leaf
  | lookup reference place? => some ⟨reference, place?⟩
  | apply _ _ _ _ => none

def told (said : Reference → List E) : Step → List E
  | lookup reference _ => said reference
  | apply _ _ _ _ => []

end Step

namespace Formula

/-- How a formula is evaluated: from one state, by some steps, to an outcome with the next state. -/
inductive Traces (resolver : Resolver σ) :
    Formula → σ → List Step → Evaluation.Outcome σ → Prop where
  | ref {reference : Reference} {place? : Option Location} {state next : σ}
      {answer : Except LookupError PermissionSet}
      (found : resolver.lookup reference state = (answer, next)) :
      Traces resolver (.ref reference place?) state [.lookup reference place?]
        (answer.mapError fun cause => ⟨reference, place?, cause⟩, next)
  | left {op : Operator} {left right : Formula} {place? : Option Location} {state next : σ}
      {steps : List Step} {error : EvaluationError}
      (first : Traces resolver left state steps (.error error, next)) :
      Traces resolver (.apply op left right place?) state steps (.error error, next)
  | right {op : Operator} {left right : Formula} {place? : Option Location}
      {state between next : σ} {steps steps' : List Step} {set : PermissionSet}
      {error : EvaluationError} (first : Traces resolver left state steps (.ok set, between))
      (second : Traces resolver right between steps' (.error error, next)) :
      Traces resolver (.apply op left right place?) state (steps ++ steps') (.error error, next)
  | both {op : Operator} {left right : Formula} {place? : Option Location}
      {state between next : σ} {steps steps' : List Step} {set set' : PermissionSet}
      (first : Traces resolver left state steps (.ok set, between))
      (second : Traces resolver right between steps' (.ok set', next)) :
      Traces resolver (.apply op left right place?) state
        (steps ++ steps' ++ [.apply op set set' place?]) (.ok (set.combine op set'), next)

theorem traces_evaluate (f : Formula) (resolver : Resolver σ) (state : σ) :
    Traces resolver f state (f.steps resolver state) (f.evaluate resolver state) := by
  induction f generalizing state with
  | ref reference place? =>
    rw [evaluate_ref_of_lookup rfl]
    exact .ref rfl
  | apply op left right place? leftIh rightIh =>
    have first := leftIh state
    cases leftResult : left.evaluate resolver state with
    | mk answer between =>
      rw [leftResult] at first
      cases answer with
      | error error =>
        rw [evaluate_apply_of_left_error leftResult, steps_apply_of_left_error leftResult]
        exact .left first
      | ok set =>
        have second := rightIh between
        cases rightResult : right.evaluate resolver between with
        | mk answer next =>
          rw [rightResult] at second
          rw [evaluate_apply_of_left_ok leftResult rightResult]
          cases answer with
          | error error =>
            rw [steps_apply_of_right_error leftResult rightResult]
            exact .right first second
          | ok set' =>
            rw [steps_apply_of_ok leftResult rightResult]
            exact .both first second

namespace Traces

section

variable {resolver : Resolver σ} {f : Formula} {state next : σ} {steps : List Step}
  {outcome : Evaluation.Outcome σ}

theorem leaves_of_ok {set : PermissionSet}
    (traces : Traces resolver f state steps (.ok set, next)) :
    steps.filterMap Step.leaf? = f.leaves := by
  generalize same : (Except.ok set, next) = outcome at traces
  induction traces generalizing set next with
  | ref found => rw [leaves_ref]; rfl
  | left => cases same
  | right => cases same
  | both first second firstIh secondIh =>
    rw [leaves_apply, List.filterMap_append, List.filterMap_append, firstIh rfl, secondIh rfl]
    exact List.append_nil _

/-- The leaves that are looked up are the first ones of the formula. -/
theorem leaves (traces : Traces resolver f state steps outcome) :
    steps.filterMap Step.leaf? <+: f.leaves := by
  induction traces with
  | ref found =>
    rw [leaves_ref]
    exact List.prefix_refl _
  | left first ih =>
    rw [leaves_apply]
    exact ih.trans (List.prefix_append _ _)
  | right first second firstIh secondIh =>
    rw [leaves_apply, List.filterMap_append, first.leaves_of_ok]
    exact (List.prefix_append_right_inj _).2 secondIh
  | both first second firstIh secondIh =>
    refine ⟨[], (List.append_nil _).trans ?_⟩
    exact leaves_of_ok (first.both second)

theorem runs (traces : Traces resolver f state steps outcome) :
    Runs resolver f state ((steps.filterMap Step.leaf?).map (·.reference)) outcome := by
  induction traces with
  | ref found => exact .ref found
  | left first ih => exact .stopped ih
  | right first second firstIh secondIh =>
    rw [List.filterMap_append, List.map_append]
    exact .both firstIh secondIh
  | both first second firstIh secondIh =>
    have lookups : ∀ (op : Operator) (left right : PermissionSet) (place? : Option Location),
        [Step.apply op left right place?].filterMap Step.leaf? = [] := fun _ _ _ _ => rfl
    rw [List.filterMap_append, List.filterMap_append, lookups, List.append_nil, List.map_append]
    exact .both firstIh secondIh

end

variable {answer : Reference → Except LookupError PermissionSet} {said : Reference → List E}
  {resolver : Resolver (List E)} {f : Formula} {steps : List Step} {state : Unit}
  {outcome : Evaluation.Outcome Unit}

/-- What stands in the log after an evaluation that tells of its steps, or does not. -/
theorem observed (tells : resolver.Tells answer said)
    (traces : Traces (.silent answer) f state steps outcome) (seen : Step → List E)
    (log : List E) :
    f.evaluateObserved resolver (fun step log => (seen step).reverse ++ log) log =
      (outcome.1, (steps.flatMap fun step => seen step ++ step.told said).reverse ++ log) := by
  induction traces generalizing log with
  | @ref reference place? _ _ _ found =>
    obtain ⟨rfl, -⟩ := Prod.mk.inj found
    rw [Evaluation.evaluate_ref, tells, List.flatMap_singleton, List.reverse_append,
      List.append_assoc]
    cases answer reference <;> rfl
  | left first ih => rw [Evaluation.evaluate_apply, ih]
  | right first second firstIh secondIh =>
    rw [Evaluation.evaluate_apply, firstIh]
    simp [secondIh]
  | both first second firstIh secondIh =>
    rw [Evaluation.evaluate_apply, firstIh]
    simp [secondIh, Step.told]

end Traces

theorem Runs.of_silent {answer : Reference → Except LookupError PermissionSet}
    {said : Reference → List E} {resolver : Resolver (List E)} {f : Formula} {state : Unit}
    {asked : List Reference} {outcome : Evaluation.Outcome Unit}
    (runs : Runs (.silent answer) f state asked outcome) (tells : resolver.Tells answer said)
    (log : List E) :
    Runs resolver f log asked (outcome.1, (asked.flatMap said).reverse ++ log) := by
  induction runs generalizing log with
  | @ref reference _ _ _ _ found =>
    obtain ⟨rfl, -⟩ := Prod.mk.inj found
    rw [List.flatMap_singleton]
    exact .ref (tells reference log)
  | stopped first ih => exact .stopped (ih log)
  | both first second firstIh secondIh =>
    rw [List.flatMap_append, List.reverse_append, List.append_assoc]
    exact .both (firstIh log) (secondIh _)

end Formula
end RoleAlgebra
