import RoleAlgebra.Evaluation.Text
import RoleAlgebra.Proofs.Evaluation.LeafOrder
import RoleAlgebra.Proofs.RoleProgram.Stages
import RoleAlgebra.World.Basic

/-!
What becomes of causes on the way to a report. Each kind of error is taken as a `Failure`: what it
has to tell, and the failure that caused it. Turning the errors of files and programs into errors of
lookups keeps the failure as a whole, and a report is read back as the error that it shows
(`LookupError.told_diagnostic`). A failing evaluation puts its own message over the failure of the
leaf at which it stopped (`failures_keep_causes`).
-/

namespace RoleAlgebra

inductive Failure where
  | root (message : String)
  | caused (message : String) (cause : Failure)
  deriving DecidableEq, Repr

namespace Failure

def message : Failure → String
  | root message => message
  | caused message _ => message

def causes : Failure → List String
  | root _ => []
  | caused _ cause => cause.message :: cause.causes

def ofMessages (message : String) : List String → Failure
  | [] => root message
  | next :: later => caused message (ofMessages next later)

theorem message_ofMessages (message : String) (later : List String) :
    (ofMessages message later).message = message := by
  cases later <;> rfl

theorem causes_ofMessages (message : String) (later : List String) :
    (ofMessages message later).causes = later := by
  induction later generalizing message with
  | nil => rfl
  | cons next later ih => rw [ofMessages, causes, message_ofMessages, ih]

theorem ofMessages_causes (failure : Failure) :
    ofMessages failure.message failure.causes = failure := by
  induction failure with
  | root => rfl
  | caused message cause ih => rw [Failure.message, causes, ofMessages, ih]

end Failure

/-! ## The failures that errors stand for -/

def ForeignError.failure (error : ForeignError) : Failure :=
  .ofMessages error.message error.sources

def LookupError.failure (error : LookupError) : Failure := .ofMessages error.message error.sources

namespace RoleProgram

/-- Only a program that has not started has a cause of its own; a text, a document or a role that
is refused is told by its own error. -/
def Cause.failure : Cause → Failure
  | notStarted program error => .caused ("failed to run `" ++ program ++ "`") error.failure
  | failed status note =>
    .root ("gcloud failed with " ++ status.shown ++ if note = "" then "" else ": " ++ note)
  | notUtf8 fault => .root fault.message
  | notYaml error => error.failure
  | role error => .root error.message

def Error.failure (error : Error) : Failure :=
  .caused ("at gcloud describe role " ++ error.role) error.cause.failure

end RoleProgram

namespace RoleFile

def FormatError.failure : FormatError → Failure
  | notYaml error => error.failure
  | notJson error => error.failure
  | notUtf8 fault => .root fault.message
  | role error => .root error.message

def Attempt.failure : Attempt → Failure
  | ⟨.yaml, error⟩ => .caused "from yaml" error.failure
  | ⟨.json, error⟩ => .caused "from json" error.failure
  | ⟨.text, error⟩ => .caused "from text" error.failure

def Error.failure : Error → Failure
  | unreadable path error => .caused ("at read role from file " ++ path) error.failure
  | noFormat path _ => .root ("at read role from file " ++ path)

end RoleFile

def EvaluationError.failure (error : EvaluationError) : Failure :=
  match error.reference with
  | ⟨.named, id⟩ => .caused ("failed to resolve named role `" ++ id ++ "`") error.cause.failure
  | ⟨.file, id⟩ => .caused ("failed to resolve file role `" ++ id ++ "`") error.cause.failure

/-! ## Errors of programs and files as errors of lookups -/

theorem ForeignError.chain_eq (error : ForeignError) :
    error.chain = error.failure.message :: error.failure.causes := by
  rw [failure, Failure.message_ofMessages, Failure.causes_ofMessages]
  rfl

theorem LookupError.failure_wrap (message : String) (cause : Failure) :
    (wrap message (cause.message :: cause.causes)).failure = .caused message cause := by
  rw [failure]
  exact (Failure.caused message cause).ofMessages_causes

namespace RoleProgram

theorem Cause.chain_eq (cause : Cause) :
    cause.message :: cause.sources = cause.failure.message :: cause.failure.causes := by
  cases cause with
  | notStarted program error => exact congrArg _ error.chain_eq
  | notYaml error => exact error.chain_eq
  | failed | notUtf8 | role => rfl

theorem Error.failure_lookupError (error : Error) : error.lookupError.failure = error.failure := by
  have whole : (LookupError.wrap error.message error.sources).failure = error.failure := by
    rw [sources, error.cause.chain_eq, LookupError.failure_wrap]
    rfl
  rw [lookupError]
  cases error.help? with
  | none => exact whole
  | some help => exact whole

theorem Error.help?_lookupError (error : Error) : error.lookupError.help? = error.help? := by
  rw [lookupError]
  cases error.help? <;> rfl

theorem Error.exists_help?_iff (error : Error) : (∃ help, error.help? = some help) ↔
    ∃ program cause, error.cause = .notStarted program cause := by
  cases error with
  | mk role cause => cases cause <;> simp [help?]

end RoleProgram

namespace RoleFile

theorem FormatError.chain_eq (error : FormatError) :
    error.message :: error.sources = error.failure.message :: error.failure.causes := by
  cases error with
  | notYaml cause => exact cause.chain_eq
  | notJson cause => exact cause.chain_eq
  | notUtf8 | role => rfl

theorem Attempt.failure_lookupError (attempt : Attempt) :
    attempt.lookupError.failure = attempt.failure := by
  obtain ⟨format, error⟩ := attempt
  rw [lookupError, error.chain_eq, LookupError.failure_wrap]
  cases format <;> rfl

theorem Error.failure_lookupError (error : Error) : error.lookupError.failure = error.failure := by
  cases error with
  | noFormat path attempts => rfl
  | unreadable path cause =>
    rw [lookupError, cause.chain_eq, LookupError.failure_wrap]
    rfl

theorem Error.sources_diagnostic (error : Error) :
    error.diagnostic.sources = error.failure.causes := by
  cases error with
  | noFormat path attempts => rfl
  | unreadable path cause => exact cause.chain_eq

end RoleFile

/-! ## Reports of lookups, read back -/

def Diagnostic.told : Diagnostic → LookupError
  | ⟨message, _, help?, _, sources, _, related⟩ => ⟨message, help?, sources, related.map told⟩

theorem LookupError.told_diagnostic : ∀ error : LookupError, error.diagnostic.told = error
  | ⟨message, help?, sources, related⟩ => by
    have inner : ∀ error ∈ related, (Diagnostic.told ∘ diagnostic) error = error :=
      fun error _ => told_diagnostic error
    rw [diagnostic, Diagnostic.told, List.map_map, List.map_congr_left inner, List.map_id']

theorem LookupError.causes_failure (error : LookupError) : error.failure.causes = error.sources :=
  Failure.causes_ofMessages _ _

theorem LookupError.message_failure (error : LookupError) :
    error.failure.message = error.message :=
  Failure.message_ofMessages _ _

/-! ## Failing evaluations -/

theorem EvaluationError.failure_eq (error : EvaluationError) :
    error.failure = .caused error.message error.cause.failure := by
  obtain ⟨⟨origin, id⟩, place?, cause⟩ := error
  cases origin with
  | named => exact congrArg (Failure.caused · cause.failure) rfl
  | file => exact congrArg (Failure.caused · cause.failure) rfl

theorem EvaluationError.causes_failure (error : EvaluationError) :
    error.failure.causes = error.sources := by
  rw [failure_eq, Failure.causes, error.cause.message_failure, error.cause.causes_failure, sources]

/-- A row of answers is without failure, or it has a first one. -/
theorem answered_or_failed {ε α : Type} (answers : List (Except ε α)) :
    (∃ values : List α, answers = values.map .ok) ∨
      ∃ (values : List α) (error : ε) (later : List (Except ε α)),
        answers = values.map .ok ++ .error error :: later := by
  induction answers with
  | nil => exact .inl ⟨[], rfl⟩
  | cons answer answers ih =>
    cases answer with
    | error error => exact .inr ⟨[], error, answers, rfl⟩
    | ok value =>
      rcases ih with ⟨values, rfl⟩ | ⟨values, error, later, rfl⟩
      · exact .inl ⟨value :: values, rfl⟩
      · exact .inr ⟨value :: values, error, later, rfl⟩

variable {σ : Type} {resolver : Resolver σ} {f : Formula} {state next : σ}

/-- An evaluation fails with what was answered to the first leaf that got no permissions. -/
theorem Formula.exists_leaf_of_failed {error : EvaluationError}
    (failed : f.evaluate resolver state = (.error error, next)) :
    ∃ (sets : List PermissionSet) (later : List (Except LookupError PermissionSet)),
      resolver.answers f.refs state = sets.map .ok ++ .error error.cause :: later ∧
      f.leaves[sets.length]? = some ⟨error.reference, error.place?⟩ := by
  rcases answered_or_failed (resolver.answers f.refs state) with
    ⟨sets, answered⟩ | ⟨sets, cause, later, stopped⟩
  · rw [evaluate_of_answered answered] at failed
    cases failed
  · obtain ⟨leaf, here, result⟩ := evaluate_of_failed stopped
    rw [result] at failed
    cases failed
    exact ⟨sets, later, stopped, here⟩

theorem evaluateText_of_failed {text : String} {error : EvaluationError}
    (parsed : Formula.parse text = .ok f)
    (failed : f.evaluate resolver state = (.error error, next)) :
    evaluateText text resolver state = (.error (.evaluation error), next) := by
  rw [Formula.evaluate] at failed
  rw [evaluateText, evaluateTextObserved, parsed]
  simp only [failed]
  rfl

theorem Resolver.exists_of_getElem?_answers {refs : List Reference} {n : Nat}
    {answer : Except LookupError PermissionSet}
    (answered : (resolver.answers refs state)[n]? = some answer) :
    ∃ reference state', refs[n]? = some reference ∧
      (resolver.lookup reference state').1 = answer := by
  induction refs generalizing n state with
  | nil => cases answered
  | cons reference later ih =>
    cases n with
    | zero => exact ⟨reference, state, rfl, Option.some.inj answered⟩
    | succ n => exact ih answered

theorem exists_of_mapError {α β ε ε' : Type} {result : Except ε α} {value : α → β} {turned : ε → ε'}
    {error : ε'} (failed : (result.map value).mapError turned = .error error) :
    ∃ cause, result = .error cause ∧ error = turned cause := by
  cases result with
  | ok found => cases failed
  | error cause => exact ⟨cause, rfl, (Except.error.inj failed).symm⟩

namespace World

variable {world : World} {decoders : Decoders} {program : String} {log after : Log}

/-- In a world, what lies beneath the failure of an evaluation is the failure of a program or of a
file. -/
theorem failure_of_evaluate {error : EvaluationError}
    (failed : f.evaluate (world.resolver decoders program) log = (.error error, after)) :
    match error.reference with
    | ⟨.named, role⟩ => ∃ cause,
        RoleProgram.describe decoders.yaml program role (world.ask program role) = .error cause ∧
        error.cause = cause.lookupError
    | ⟨.file, path⟩ => ∃ cause,
        (RoleFile.read decoders path (world.content path)).result = .error cause ∧
        error.cause = cause.lookupError := by
  obtain ⟨sets, later, stopped, here⟩ := Formula.exists_leaf_of_failed failed
  have answered : ((world.resolver decoders program).answers f.refs log)[sets.length]? =
      some (.error error.cause) := by
    rw [stopped, List.getElem?_append_right (by simp)]
    simp
  obtain ⟨reference, log', asked, looked⟩ := Resolver.exists_of_getElem?_answers answered
  obtain rfl : error.reference = reference := by
    rw [Formula.refs_eq_leaves, List.getElem?_map, here] at asked
    exact Option.some.inj asked
  change (world.lookup decoders program error.reference log').1 = _ at looked
  obtain ⟨⟨origin, id⟩, place?, cause⟩ := error
  cases origin with
  | named => exact exists_of_mapError looked
  | file => exact exists_of_mapError looked

end World

/-- Whatever fails keeps its causes. Errors of programs and of files fail alike as errors of
lookups, and so does every attempt at a file; reports of lookups leave nothing out. A failing
evaluation has the failure of its leaf beneath its own message, shows the whole error of the lookup
as its cause, and is labelled with the place of the leaf; as a failure of a text it is the same. In
a world the failure of the leaf is that of the program or of the file. -/
theorem failures_keep_causes :
    (∀ error : RoleProgram.Error, error.lookupError.failure = error.failure ∧
      error.diagnostic.message = error.failure.message ∧
      error.diagnostic.sources = error.failure.causes ∧
      error.lookupError.help? = error.diagnostic.help? ∧
      ((∃ help, error.lookupError.help? = some help) ↔
        ∃ program cause, error.cause = .notStarted program cause)) ∧
    (∀ role status note, ∃ shown, status.Shows shown ∧
      (RoleProgram.Error.mk role (.failed status note)).failure =
        .caused ("at gcloud describe role " ++ role)
          (.root ("gcloud failed with " ++ shown ++ if note = "" then "" else ": " ++ note))) ∧
    (∀ error : RoleFile.Error, error.lookupError.failure = error.failure ∧
      error.diagnostic.message = error.failure.message ∧
      error.diagnostic.sources = error.failure.causes) ∧
    (∀ path attempts,
      (RoleFile.Error.noFormat path attempts).lookupError.related.map (·.failure) =
        attempts.map (·.failure)) ∧
    (∀ {σ : Type} (resolver : Resolver σ) (f : Formula) (state next : σ) (error : EvaluationError),
      f.evaluate resolver state = (.error error, next) →
      error.diagnostic.message = error.failure.message ∧
      error.diagnostic.sources = error.cause.message :: error.cause.sources ∧
      error.diagnostic.sources = error.failure.causes ∧
      (∃ report, error.diagnostic.cause? = some report ∧ report.told = error.cause) ∧
      (∃ (sets : List PermissionSet) (later : List (Except LookupError PermissionSet))
          (leaf : Formula.Leaf), f.leaves[sets.length]? = some leaf ∧
        resolver.answers f.refs state = sets.map .ok ++ .error error.cause :: later ∧
        error.diagnostic.labels =
          (leaf.place?.map fun place => (place.start, place.length)).toList) ∧
      ∀ text, Formula.parse text = .ok f → ∃ formulaError,
        evaluateText text resolver state = (.error formulaError, next) ∧
        formulaError.message = error.failure.message ∧
        formulaError.sources = error.failure.causes ∧
        formulaError.diagnostic = error.diagnostic) ∧
    ∀ (world : World) (decoders : Decoders) (program : String) (f : Formula) (log after : Log)
      (error : EvaluationError),
      f.evaluate (world.resolver decoders program) log = (.error error, after) →
      match error.reference with
      | ⟨.named, role⟩ => ∃ cause : RoleProgram.Error,
          RoleProgram.describe decoders.yaml program role (world.ask program role) =
            .error cause ∧
          error.failure = .caused ("failed to resolve named role `" ++ role ++ "`") cause.failure
      | ⟨.file, path⟩ => ∃ cause : RoleFile.Error,
          (RoleFile.read decoders path (world.content path)).result = .error cause ∧
          error.failure =
            .caused ("failed to resolve file role `" ++ path ++ "`") cause.failure := by
  refine ⟨?_, ?_, ?_, ?_, ?_, ?_⟩
  · intro error
    refine ⟨error.failure_lookupError, rfl, error.cause.chain_eq, error.help?_lookupError, ?_⟩
    rw [error.help?_lookupError]
    exact error.exists_help?_iff
  · intro role status note
    exact ⟨status.shown, status.shows_shown, rfl⟩
  · intro error
    refine ⟨error.failure_lookupError, ?_, error.sources_diagnostic⟩
    cases error <;> rfl
  · intro path attempts
    have each : ∀ attempt ∈ attempts, attempt.lookupError.failure = attempt.failure :=
      fun attempt _ => attempt.failure_lookupError
    calc (attempts.map (·.lookupError)).map (·.failure)
        = attempts.map fun attempt => attempt.lookupError.failure := List.map_map
      _ = attempts.map (·.failure) := List.map_congr_left each
  · intro σ resolver f state next error failed
    have message : error.message = error.failure.message := by
      rw [error.failure_eq]
      rfl
    refine ⟨message, rfl, error.causes_failure.symm, ⟨_, rfl, error.cause.told_diagnostic⟩, ?_, ?_⟩
    · obtain ⟨sets, later, stopped, here⟩ := Formula.exists_leaf_of_failed failed
      exact ⟨sets, later, _, here, stopped, rfl⟩
    · intro text parsed
      exact ⟨_, evaluateText_of_failed parsed failed, message, error.causes_failure.symm, rfl⟩
  · intro world decoders program f log after error failed
    have beneath := world.failure_of_evaluate failed
    obtain ⟨⟨origin, id⟩, place?, cause⟩ := error
    cases origin with
    | named =>
      obtain ⟨fault, described, rfl⟩ := beneath
      exact ⟨fault, described, congrArg _ fault.failure_lookupError⟩
    | file =>
      obtain ⟨fault, read, rfl⟩ := beneath
      exact ⟨fault, read, congrArg _ fault.failure_lookupError⟩

theorem failures_keep_causes_nested :
    let a : Reference := ⟨.named, "a"⟩
    let b : Reference := ⟨.named, "b"⟩
    let inner : LookupError := ⟨"inner", none, ["expected value at line 1 column 1"], []⟩
    let outer : LookupError := ⟨"outer", some "help", [], [inner, inner]⟩
    let cause : LookupError := ⟨"cause", none, ["near", "far"], [outer, inner]⟩
    let place : Location := ⟨"a+b", 2, 1⟩
    let f : Formula := .apply .or (.ref a (some ⟨"a+b", 0, 1⟩)) (.ref b (some place))
      (some ⟨"a+b", 0, 3⟩)
    let script : Script := .ofEntries [⟨a, [.ok .empty]⟩, ⟨b, [.error cause]⟩]
    let error : EvaluationError := ⟨b, some place, cause⟩
    -- a reader of YAML refuses the bytes of a file, and for a reason of its own
    let attempt : RoleFile.Attempt := ⟨.yaml, .notYaml ⟨"outside", ["inside"]⟩⟩
    ∃ next, f.evaluate Script.resolver script = (.error error, next) ∧
      error.diagnostic.sources = ["cause", "near", "far"] ∧
      (∃ report, error.diagnostic.cause? = some report ∧ report.told = cause) ∧
      error.diagnostic.labels = [(2, 1)] ∧
      (∃ formulaError, evaluateText "a+b" Script.resolver script = (.error formulaError, next) ∧
        formulaError.diagnostic = error.diagnostic) ∧
      (RoleFile.Error.noFormat "b" [attempt]).lookupError.related.map (·.failure) =
        [.caused "from yaml" (.caused "outside" (.root "inside"))] := by
  intro a b inner outer cause place f script error attempt
  have refs : f.refs = [a, b] := by simp [f]
  have leaves : f.leaves = [⟨a, some ⟨"a+b", 0, 1⟩⟩, ⟨b, some place⟩] := by simp [f]
  have stopped : Script.resolver.answers f.refs script =
      [PermissionSet.empty].map .ok ++ .error cause :: [] := by
    rw [refs]
    rfl
  obtain ⟨leaf, here, failed⟩ := Formula.evaluate_of_failed stopped
  rw [leaves] at here
  obtain rfl := Option.some.inj here
  obtain ⟨-, -, -, attempts, evaluations, -⟩ := failures_keep_causes
  obtain ⟨-, sources, -, shown, -, ofText⟩ := evaluations _ _ _ _ _ failed
  obtain ⟨formulaError, result, -, -, same⟩ := ofText "a+b" rfl
  exact ⟨_, failed, sources, shown, rfl, ⟨formulaError, result, same⟩, attempts _ _⟩

end RoleAlgebra
