import RoleAlgebra.Proofs.Evaluation.LeafOrder

/-!
What an evaluation asks its resolver for, by recursion on the formula (`asked`), and together with
what comes of it (`Runs`, `runs_evaluate`). Two resolvers that agree on what is asked for have the
same runs (`Runs.congr`). A resolver that also takes notes of what it is asked for answers as
without them, and its notes are on just these references (`Runs.noting`).
-/

namespace RoleAlgebra

variable {σ α : Type}

/-- Whether a resolver answers like another, and adds a note to those it has taken. -/
def Resolver.Notes (noting : Resolver (σ × List α)) (resolver : Resolver σ)
    (note : Reference → α) : Prop :=
  ∀ reference state taken, noting.lookup reference (state, taken) =
    ((resolver.lookup reference state).1, (resolver.lookup reference state).2,
      taken ++ [note reference])

theorem Resolver.recording_notes (resolver : Resolver σ) : resolver.recording.Notes resolver id :=
  fun _ _ _ => rfl

namespace Formula

variable {resolver : Resolver σ}

def asked (resolver : Resolver σ) : Formula → σ → List Reference
  | ref reference _, _ => [reference]
  | apply _ left right _, state =>
    left.asked resolver state ++
      match left.evaluate resolver state with
      | (.error _, _) => []
      | (.ok _, between) => right.asked resolver between

theorem asked_apply_of_left_error {left : Formula} {state next : σ} {error : EvaluationError}
    (stopped : left.evaluate resolver state = (.error error, next)) (op : Operator)
    (right : Formula) (place? : Option Location) :
    (apply op left right place?).asked resolver state = left.asked resolver state := by
  simp [asked, stopped]

theorem asked_apply_of_left_ok {left : Formula} {state between : σ} {set : PermissionSet}
    (leftResult : left.evaluate resolver state = (.ok set, between)) (op : Operator)
    (right : Formula) (place? : Option Location) :
    (apply op left right place?).asked resolver state =
      left.asked resolver state ++ right.asked resolver between := by
  simp [asked, leftResult]

inductive Runs (resolver : Resolver σ) :
    Formula → σ → List Reference → Evaluation.Outcome σ → Prop where
  | ref {reference : Reference} {place? : Option Location} {state next : σ}
      {answer : Except LookupError PermissionSet}
      (found : resolver.lookup reference state = (answer, next)) :
      Runs resolver (.ref reference place?) state [reference]
        (answer.mapError fun cause => ⟨reference, place?, cause⟩, next)
  | stopped {op : Operator} {left right : Formula} {place? : Option Location} {state next : σ}
      {asked : List Reference} {error : EvaluationError}
      (first : Runs resolver left state asked (.error error, next)) :
      Runs resolver (.apply op left right place?) state asked (.error error, next)
  | both {op : Operator} {left right : Formula} {place? : Option Location} {state between next : σ}
      {asked asked' : List Reference} {set : PermissionSet}
      {result : Except EvaluationError PermissionSet}
      (first : Runs resolver left state asked (.ok set, between))
      (second : Runs resolver right between asked' (result, next)) :
      Runs resolver (.apply op left right place?) state (asked ++ asked')
        (result.map (set.combine op), next)

theorem runs_evaluate (f : Formula) (resolver : Resolver σ) (state : σ) :
    Runs resolver f state (f.asked resolver state) (f.evaluate resolver state) := by
  induction f generalizing state with
  | ref reference place? =>
    rw [evaluate_ref_of_lookup rfl]
    exact .ref rfl
  | apply op left right place? leftIh rightIh =>
    have first := leftIh state
    cases leftResult : left.evaluate resolver state with
    | mk answer between =>
      rw [leftResult] at first
      cases answer with
      | error error =>
        rw [evaluate_apply_of_left_error leftResult, asked_apply_of_left_error leftResult]
        exact .stopped first
      | ok set =>
        have second := rightIh between
        cases rightResult : right.evaluate resolver between with
        | mk answer next =>
          rw [rightResult] at second
          rw [evaluate_apply_of_left_ok leftResult rightResult, asked_apply_of_left_ok leftResult]
          exact .both first second

namespace Runs

variable {f : Formula} {state : σ} {asked : List Reference} {outcome : Evaluation.Outcome σ}

theorem evaluate_eq (runs : Runs resolver f state asked outcome) :
    f.evaluate resolver state = outcome := by
  induction runs with
  | ref found => exact evaluate_ref_of_lookup found _
  | stopped first ih => exact evaluate_apply_of_left_error ih _ _ _
  | both first second firstIh secondIh => exact evaluate_apply_of_left_ok firstIh secondIh _ _

theorem asked_eq (runs : Runs resolver f state asked outcome) : f.asked resolver state = asked := by
  induction runs with
  | ref found => rfl
  | stopped first ih => rw [asked_apply_of_left_error first.evaluate_eq, ih]
  | both first second firstIh secondIh =>
    rw [asked_apply_of_left_ok first.evaluate_eq, firstIh, secondIh]

theorem asked_subset (runs : Runs resolver f state asked outcome) : asked ⊆ f.refs := by
  induction runs with
  | ref found => simp
  | stopped first ih =>
    rw [refs_apply]
    exact List.subset_append_of_subset_left _ ih
  | both first second firstIh secondIh =>
    rw [refs_apply]
    exact List.append_subset.2 ⟨List.subset_append_of_subset_left _ firstIh,
      List.subset_append_of_subset_right _ secondIh⟩

/-- Nothing but the lookups made is needed of a resolver. -/
theorem congr {resolver' : Resolver σ} (runs : Runs resolver f state asked outcome)
    (agree : ∀ reference ∈ asked, ∀ state,
      resolver'.lookup reference state = resolver.lookup reference state) :
    Runs resolver' f state asked outcome := by
  induction runs with
  | @ref reference place? state next answer found =>
    exact .ref ((agree reference (List.mem_singleton_self _) state).trans found)
  | stopped first ih => exact .stopped (ih agree)
  | both first second firstIh secondIh =>
    obtain ⟨left, right⟩ := List.forall_mem_append.1 agree
    exact .both (firstIh left) (secondIh right)

theorem noting {noting : Resolver (σ × List α)} {note : Reference → α}
    (notes : noting.Notes resolver note) (runs : Runs resolver f state asked outcome)
    (taken : List α) :
    Runs noting f (state, taken) asked (outcome.1, outcome.2, taken ++ asked.map note) := by
  induction runs generalizing taken with
  | @ref reference place? state next answer found =>
    refine .ref ?_
    rw [notes reference state taken, found]
    rfl
  | stopped first ih => exact .stopped (ih taken)
  | @both _ _ _ _ _ _ _ asked asked' _ _ first second firstIh secondIh =>
    -- the right operand's notes come after those on the left one
    rw [List.map_append, ← List.append_assoc]
    exact .both (firstIh taken) (secondIh (taken ++ asked.map note))

end Runs

theorem evaluate_noting {noting : Resolver (σ × List α)} {note : Reference → α}
    (notes : noting.Notes resolver note) (f : Formula) (state : σ) (taken : List α) :
    f.evaluate noting (state, taken) =
      ((f.evaluate resolver state).1, (f.evaluate resolver state).2,
        taken ++ (f.asked resolver state).map note) :=
  ((f.runs_evaluate resolver state).noting notes taken).evaluate_eq

theorem calls_eq_asked (f : Formula) (resolver : Resolver σ) (state : σ) :
    f.calls resolver state = f.asked resolver state := by
  rw [calls, evaluate_noting resolver.recording_notes, List.nil_append, List.map_id]

end Formula
end RoleAlgebra
