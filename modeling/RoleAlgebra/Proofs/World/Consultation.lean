import RoleAlgebra.Proofs.Evaluation.Calls
import RoleAlgebra.World.Basic

/-!
What an evaluation asks of the world. A lookup asks one thing, for a file what the file holds and
for a named role what the program says of it, so an evaluation has the same result in all worlds
that reply alike to the references it reaches (`evaluate_of_agrees`). What is asked shows in
surroundings that take notes of it (`World.watched`).
-/

namespace RoleAlgebra

inductive Consultation where
  | file (path : String)
  | program (program role : String)
  deriving DecidableEq, Repr

def Reference.consultation (program : String) (reference : Reference) : Consultation :=
  match reference.origin with
  | .named => .program program reference.id
  | .file => .file reference.id

namespace World

variable (world : World) (decoders : Decoders) (program : String)

def watched : Surroundings (List Consultation) where
  content path taken := (world.content path, taken ++ [.file path])
  ask program role taken := (world.ask program role, taken ++ [.program program role])

def consultations (f : Formula) (log : Log) : List Consultation :=
  (f.evaluate (world.watched.resolver decoders program) (log, [])).2.2

/-- A lookup in the watched world is the lookup in the world, and asks one question. -/
theorem watched_notes : (world.watched.resolver decoders program).Notes
    (world.resolver decoders program) (Reference.consultation program) := by
  intro reference log taken
  obtain ⟨origin, id⟩ := reference
  cases origin <;> rfl

def permissions (reference : Reference) : Except LookupError PermissionSet :=
  (world.lookup decoders program reference []).1

theorem lookup_permissions (reference : Reference) (log : Log) :
    (world.lookup decoders program reference log).1 =
      world.permissions decoders program reference := by
  obtain ⟨origin, id⟩ := reference
  cases origin <;> rfl

/-- Whether two worlds give the same reply to the question that a reference is looked up by. -/
def Agrees (world world' : World) (program : String) (reference : Reference) : Prop :=
  match reference.origin with
  | .named => world'.ask program reference.id = world.ask program reference.id
  | .file => world'.content reference.id = world.content reference.id

theorem lookup_of_agrees {world world' : World} {program : String} {reference : Reference}
    (agrees : world.Agrees world' program reference) (decoders : Decoders) (log : Log) :
    world'.lookup decoders program reference log = world.lookup decoders program reference log := by
  obtain ⟨origin, id⟩ := reference
  cases origin with
  | named =>
    have replies : world'.ask program id = world.ask program id := agrees
    rw [lookup_named, lookup_named, replies]
  | file =>
    have replies : world'.content id = world.content id := agrees
    rw [lookup_file, lookup_file, replies]

/-- The references that are looked up if they are taken in order: those up to the first that has no
permissions. -/
def reached : List Reference → List Reference
  | [] => []
  | reference :: later =>
    match world.permissions decoders program reference with
    | .ok _ => reference :: reached later
    | .error _ => [reference]

theorem reached_append_of_answered {first : List Reference}
    (answered : ∀ reference ∈ first, ∃ set, world.permissions decoders program reference = .ok set)
    (second : List Reference) :
    world.reached decoders program (first ++ second) =
      world.reached decoders program first ++ world.reached decoders program second := by
  induction first with
  | nil => rfl
  | cons reference later ih =>
    obtain ⟨⟨set, found⟩, rest⟩ := List.forall_mem_cons.1 answered
    simp only [List.cons_append, reached, found, ih rest]

theorem reached_append_of_failed {first : List Reference} {reference : Reference}
    {cause : LookupError} (member : reference ∈ first)
    (failed : world.permissions decoders program reference = .error cause)
    (second : List Reference) :
    world.reached decoders program (first ++ second) = world.reached decoders program first := by
  induction first with
  | nil => exact absurd member List.not_mem_nil
  | cons earlier later ih =>
    cases found : world.permissions decoders program earlier with
    | error => simp only [List.cons_append, reached, found]
    | ok set =>
      have further : reference ∈ later := by
        rcases List.mem_cons.1 member with rfl | further
        · rw [failed] at found
          cases found
        · exact further
      simp only [List.cons_append, reached, found, ih further]

end World

namespace Formula

section Runs

variable {world : World} {decoders : Decoders} {program : String} {f : Formula} {log : Log}
  {asked : List Reference} {outcome : Evaluation.Outcome Log}

/-- An evaluation has a value only if all references have permissions, and fails only with one that
has none. -/
theorem Runs.permissions (runs : Runs (world.resolver decoders program) f log asked outcome) :
    match outcome.1 with
    | .ok _ => ∀ reference ∈ f.refs, ∃ set, world.permissions decoders program reference = .ok set
    | .error error => error.reference ∈ f.refs ∧
        world.permissions decoders program error.reference = .error error.cause := by
  induction runs with
  | @ref reference place? log next answer found =>
    have permissions : world.permissions decoders program reference = answer :=
      (world.lookup_permissions decoders program reference log).symm.trans (congrArg Prod.fst found)
    rw [refs_ref]
    cases answer with
    | error cause => exact ⟨List.mem_singleton_self _, permissions⟩
    | ok set => exact List.forall_mem_singleton.2 ⟨set, permissions⟩
  | stopped first ih =>
    rw [refs_apply]
    exact ⟨List.mem_append_left _ ih.1, ih.2⟩
  | @both _ _ _ _ _ _ _ _ _ _ result first second firstIh secondIh =>
    rw [refs_apply]
    cases result with
    | error error => exact ⟨List.mem_append_right _ secondIh.1, secondIh.2⟩
    | ok set => exact List.forall_mem_append.2 ⟨firstIh, secondIh⟩

theorem Runs.asked_eq_reached (runs : Runs (world.resolver decoders program) f log asked outcome) :
    asked = world.reached decoders program f.refs := by
  induction runs with
  | @ref reference place? log next answer found =>
    rw [refs_ref]
    cases answer : world.permissions decoders program reference <;>
      simp only [World.reached, answer]
  | stopped first ih =>
    obtain ⟨member, failed⟩ := first.permissions
    rw [refs_apply, world.reached_append_of_failed decoders program member failed, ih]
  | both first second firstIh secondIh =>
    rw [refs_apply, world.reached_append_of_answered decoders program first.permissions, ← firstIh,
      ← secondIh]

end Runs

theorem asked_eq_reached (f : Formula) (world : World) (decoders : Decoders) (program : String)
    (log : Log) :
    f.asked (world.resolver decoders program) log = world.reached decoders program f.refs :=
  (f.runs_evaluate (world.resolver decoders program) log).asked_eq_reached

theorem evaluate_of_agrees {world world' : World} {decoders : Decoders} {program : String}
    {f : Formula}
    (agree : ∀ reference ∈ world.reached decoders program f.refs,
      world.Agrees world' program reference) (log : Log) :
    f.evaluate (world'.resolver decoders program) log =
      f.evaluate (world.resolver decoders program) log := by
  have runs := f.runs_evaluate (world.resolver decoders program) log
  rw [asked_eq_reached] at runs
  refine (runs.congr ?_).evaluate_eq
  intro reference member log
  exact World.lookup_of_agrees (agree reference member) decoders log

/-- Watching changes nothing of an evaluation, and shows a question for each reference reached. -/
theorem evaluate_watched (f : Formula) (world : World) (decoders : Decoders) (program : String)
    (log : Log) :
    f.evaluate (world.watched.resolver decoders program) (log, []) =
      ((f.evaluate (world.resolver decoders program) log).1,
        (f.evaluate (world.resolver decoders program) log).2,
        (world.reached decoders program f.refs).map (Reference.consultation program)) := by
  rw [evaluate_noting (world.watched_notes decoders program), asked_eq_reached, List.nil_append]

/-- Whatever the world is asked, it is asked for a reference of the formula. -/
theorem exists_ref_of_consulted {f : Formula} {world : World} {decoders : Decoders}
    {program : String} {log : Log} {asked : Consultation}
    (consulted : asked ∈ world.consultations decoders program f log) :
    ∃ reference ∈ f.refs, reference.consultation program = asked := by
  rw [World.consultations, evaluate_noting (world.watched_notes decoders program),
    List.nil_append] at consulted
  obtain ⟨reference, member, same⟩ := List.mem_map.1 consulted
  exact ⟨reference, (f.runs_evaluate _ log).asked_subset member, same⟩

end Formula

/-- An evaluation depends on nothing in the world but the replies to what its references name, each
by its origin, up to the first that fails. It asks about these, and nothing else. -/
theorem evaluate_consults_references (f : Formula) (world : World) (decoders : Decoders)
    (program : String) (log : Log) :
    (∀ world' : World,
      (∀ reference ∈ world.reached decoders program f.refs,
        world.Agrees world' program reference) →
      f.evaluate (world'.resolver decoders program) log =
        f.evaluate (world.resolver decoders program) log) ∧
    f.evaluate (world.watched.resolver decoders program) (log, []) =
      ((f.evaluate (world.resolver decoders program) log).1,
        (f.evaluate (world.resolver decoders program) log).2,
        (world.reached decoders program f.refs).map (Reference.consultation program)) ∧
    ((∀ reference ∈ f.refs, reference.origin = .file) →
      ∀ other role, .program other role ∉ world.consultations decoders program f log) ∧
    ((∀ reference ∈ f.refs, reference.origin = .named) →
      ∀ path, .file path ∉ world.consultations decoders program f log) := by
  refine ⟨fun world' agree => Formula.evaluate_of_agrees agree log,
    f.evaluate_watched world decoders program log, fun files other role consulted => ?_,
    fun names path consulted => ?_⟩
  · obtain ⟨reference, member, same⟩ := Formula.exists_ref_of_consulted consulted
    rw [Reference.consultation, files reference member] at same
    cases same
  · obtain ⟨reference, member, same⟩ := Formula.exists_ref_of_consulted consulted
    rw [Reference.consultation, names reference member] at same
    cases same

theorem evaluate_consults_references_unreadable :
    let name : Reference := ⟨.named, "x"⟩
    let file : Reference := ⟨.file, "x"⟩
    let place : Location := ⟨"x + @x * y", 4, 2⟩
    let f : Formula :=
      .apply .or (.ref name none)
        (.apply .and (.ref file (some place)) (.ref ⟨.named, "y"⟩ none) none) none
    let role : Role := ⟨"r", ["p"], by decide⟩
    let absent : ForeignError := ⟨"No such file or directory (os error 2)", []⟩
    let decoders : Decoders :=
      ⟨fun _ => .ok role.toValue, fun _ => .error ⟨"expected value at line 1 column 1", []⟩⟩
    let world : World := ⟨fun _ => .error absent, fun _ _ => .ended (.code 0) [] []⟩
    -- replies otherwise to the role `y` and to every path but `x`
    let world' : World :=
      ⟨fun path => if path = "x" then .error absent else .ok [],
        fun _ role => if role = "x" then .ended (.code 0) [] [] else .notStarted absent⟩
    (f.evaluate (world'.resolver decoders "gcloud") []).1 =
        .error ⟨file, some place, (RoleFile.Error.unreadable "x" absent).lookupError⟩ ∧
      world.consultations decoders "gcloud" f [] = [.program "gcloud" "x", .file "x"] ∧
      (∀ other role, .program other role ∉
        world.consultations decoders "gcloud" (.ref file none) []) ∧
      ∀ path, .file path ∉ world.consultations decoders "gcloud" (.ref name none) [] := by
  intro name file place f role absent decoders world world'
  have refs : f.refs = [name, file, ⟨.named, "y"⟩] := by simp [f]
  have empty : Text.Utf8.decode [] = .ok "" := by
    simp [Text.Utf8.decode, Text.Utf8.pieces, Text.Utf8.piecesOnto, Text.Utf8.decodeOnto]
  have described : RoleProgram.describe decoders.yaml "gcloud" "x" (.ended (.code 0) [] []) =
      .ok role := by
    simp only [RoleProgram.describe, RoleProgram.roleOf, if_true, empty, decoders,
      Role.ofValue_toValue]
    rfl
  have nameLookup : (world.resolver decoders "gcloud").lookup name [] =
      (.ok role.set, [.describing "x", .resolving name]) := by
    change world.lookup decoders "gcloud" name [] = _
    rw [World.lookup_named, described]
    rfl
  have namePermissions : world.permissions decoders "gcloud" name = .ok role.set :=
    congrArg Prod.fst nameLookup
  have reached : world.reached decoders "gcloud" f.refs = [name, file] := by
    rw [refs, World.reached, namePermissions]
    rfl
  have result : (f.evaluate (world.resolver decoders "gcloud") []).1 =
      .error ⟨file, some place, (RoleFile.Error.unreadable "x" absent).lookupError⟩ := by
    have nameResult := Formula.evaluate_ref_of_lookup nameLookup none
    rw [Formula.evaluate_apply_of_left_ok nameResult (Formula.evaluate_apply_of_left_error
      (Formula.evaluate_ref_of_lookup rfl (some place)) _ _ _)]
    rfl
  obtain ⟨same, watched, -, -⟩ := evaluate_consults_references f world decoders "gcloud" []
  have agree : ∀ reference ∈ world.reached decoders "gcloud" f.refs,
      world.Agrees world' "gcloud" reference := by
    rw [reached]
    exact List.forall_mem_cons.2 ⟨rfl, List.forall_mem_singleton.2 rfl⟩
  refine ⟨by rw [same world' agree, result], ?_, ?_, ?_⟩
  · rw [World.consultations, watched, reached]
    rfl
  · refine (evaluate_consults_references (.ref file none) world decoders "gcloud" []).2.2.1 ?_
    simp [file]
  · refine (evaluate_consults_references (.ref name none) world decoders "gcloud" []).2.2.2 ?_
    simp [name]

end RoleAlgebra
