import RoleAlgebra.Evaluation.Step
import RoleAlgebra.Formula.Basic
import RoleAlgebra.Lookup.Basic

/-!
Reducing a formula to a set of permissions. References are looked up left to right, each as often as
it is written, and the first failure ends the evaluation. What is still to be done is kept in a list
of frames; `evaluate_ref` and `evaluate_apply` describe the result by recursion on the tree.
-/

namespace RoleAlgebra

structure EvaluationError where
  reference : Reference
  place? : Option Location
  cause : LookupError
  deriving Repr

namespace EvaluationError

def message (error : EvaluationError) : String :=
  "failed to resolve " ++ error.reference.origin.name ++ " role `" ++ error.reference.id ++ "`"

def sources (error : EvaluationError) : List String :=
  error.cause.message :: error.cause.sources

def diagnostic (error : EvaluationError) : Diagnostic where
  message := error.message
  code? := some "permcalc::resolution"
  help? := none
  labels := (error.place?.map fun place => (place.start, place.length)).toList
  sources := error.sources
  cause? := some error.cause.diagnostic
  related := []

end EvaluationError

namespace Evaluation

inductive Frame where
  | right (op : Operator) (right : Formula) (place? : Option Location)
  | apply (op : Operator) (left : PermissionSet) (place? : Option Location)

/-- What is done next: reduce a formula, or hand a value to the nearest frame. -/
inductive Task where
  | reduce (f : Formula)
  | give (set : PermissionSet)

def Frame.load : Frame → Nat
  | right _ f _ => 2 * f.size + 1
  | apply _ _ _ => 1

def Task.load : Task → Nat
  | reduce f => 2 * f.size
  | give _ => 1

def waiting : List Frame → Nat
  | [] => 0
  | frame :: frames => frame.load + waiting frames

def load (task : Task) (frames : List Frame) : Nat := task.load + waiting frames

variable {σ : Type}

abbrev Outcome (σ : Type) : Type := Except EvaluationError PermissionSet × σ

/-- Runs a task and then the frames. Every step is reported to `observe`: a lookup before it is
made, an operator once both its operands are known. -/
def run (resolver : Resolver σ) (observe : Step → σ → σ) :
    Task → List Frame → σ → Outcome σ
  | .reduce (.ref reference place?), frames, state =>
    match resolver.lookup reference (observe (.lookup reference place?) state) with
    | (.ok set, state) => run resolver observe (.give set) frames state
    | (.error cause, state) => (.error ⟨reference, place?, cause⟩, state)
  | .reduce (.apply op left right place?), frames, state =>
    run resolver observe (.reduce left) (.right op right place? :: frames) state
  | .give set, [], state => (.ok set, state)
  | .give left, .right op right place? :: frames, state =>
    run resolver observe (.reduce right) (.apply op left place? :: frames) state
  | .give right, .apply op left place? :: frames, state =>
    run resolver observe (.give (left.combine op right)) frames
      (observe (.apply op left right place?) state)
termination_by task frames => load task frames
decreasing_by all_goals
  simp [load, waiting, Task.load, Frame.load, Formula.size] <;> omega

end Evaluation

variable {σ : Type}

def Formula.evaluateObserved (f : Formula) (resolver : Resolver σ) (observe : Step → σ → σ)
    (state : σ) : Evaluation.Outcome σ :=
  Evaluation.run resolver observe (.reduce f) [] state

def Formula.evaluate (f : Formula) (resolver : Resolver σ) (state : σ) : Evaluation.Outcome σ :=
  f.evaluateObserved resolver (fun _ state => state) state

namespace Evaluation

variable (resolver : Resolver σ) (observe : Step → σ → σ)

theorem run_reduce (f : Formula) (frames : List Frame) (state : σ) :
    run resolver observe (.reduce f) frames state =
      match f.evaluateObserved resolver observe state with
      | (.ok set, state) => run resolver observe (.give set) frames state
      | (.error error, state) => (.error error, state) := by
  induction f generalizing frames state with
  | ref reference place? =>
    simp only [Formula.evaluateObserved, run]
    cases resolver.lookup reference (observe (.lookup reference place?) state) with
    | mk answer state => cases answer <;> simp
  | apply op left right place? ihl ihr =>
    simp only [Formula.evaluateObserved, run]
    rw [ihl, ihl]
    cases left.evaluateObserved resolver observe state with
    | mk answer state =>
      cases answer with
      | error error => rfl
      | ok leftSet =>
        simp only [run]
        rw [ihr, ihr]
        cases right.evaluateObserved resolver observe state with
        | mk answer state => cases answer <;> simp [run]

theorem evaluate_ref (reference : Reference) (place? : Option Location) (state : σ) :
    (Formula.ref reference place?).evaluateObserved resolver observe state =
      match resolver.lookup reference (observe (.lookup reference place?) state) with
      | (.ok set, state) => (.ok set, state)
      | (.error cause, state) => (.error ⟨reference, place?, cause⟩, state) := by
  simp only [Formula.evaluateObserved, run]

theorem evaluate_apply (op : Operator) (left right : Formula) (place? : Option Location)
    (state : σ) :
    (Formula.apply op left right place?).evaluateObserved resolver observe state =
      match left.evaluateObserved resolver observe state with
      | (.error error, state) => (.error error, state)
      | (.ok leftSet, state) =>
        match right.evaluateObserved resolver observe state with
        | (.error error, state) => (.error error, state)
        | (.ok rightSet, state) =>
          (.ok (leftSet.combine op rightSet), observe (.apply op leftSet rightSet place?) state) := by
  rw [Formula.evaluateObserved, run, run_reduce]
  cases left.evaluateObserved resolver observe state with
  | mk answer state =>
    cases answer with
    | error error => rfl
    | ok leftSet =>
      simp only [run]
      rw [run_reduce]
      cases right.evaluateObserved resolver observe state with
      | mk answer state => cases answer <;> simp [run]

end Evaluation
end RoleAlgebra
