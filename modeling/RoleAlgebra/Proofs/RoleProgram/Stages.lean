import RoleAlgebra.Proofs.First
import RoleAlgebra.Proofs.Text.Lenient
import RoleAlgebra.Proofs.Text.Trimmed
import RoleAlgebra.RoleProgram

/-!
Runs of the role program, stage by stage. What a run fails with at a stage is said of that stage
alone (`Fails`), and the first stage that fails is the one that is reported (`describe_by_stages`).
So a run that printed a proper role and then failed yields none.
-/

namespace RoleAlgebra.RoleProgram

def signals : List (Nat × String) :=
  [(1, "SIGHUP"), (2, "SIGINT"), (3, "SIGQUIT"), (4, "SIGILL"), (5, "SIGTRAP"), (6, "SIGABRT"),
    (7, "SIGBUS"), (8, "SIGFPE"), (9, "SIGKILL"), (10, "SIGUSR1"), (11, "SIGSEGV"),
    (12, "SIGUSR2"), (13, "SIGPIPE"), (14, "SIGALRM"), (15, "SIGTERM"), (16, "SIGSTKFLT"),
    (17, "SIGCHLD"), (18, "SIGCONT"), (19, "SIGSTOP"), (20, "SIGTSTP"), (21, "SIGTTIN"),
    (22, "SIGTTOU"), (23, "SIGURG"), (24, "SIGXCPU"), (25, "SIGXFSZ"), (26, "SIGVTALRM"),
    (27, "SIGPROF"), (28, "SIGWINCH"), (29, "SIGIO"), (30, "SIGPWR"), (31, "SIGSYS")]

inductive ExitStatus.Shows : ExitStatus → String → Prop where
  | code (n : Nat) : Shows (.code n) ("exit status: " ++ toString n)
  | named {n : Nat} {name : String} (known : (n, name) ∈ signals) :
      Shows (.signal n false) ("signal: " ++ toString n ++ " (" ++ name ++ ")")
  | unnamed {n : Nat} (unknown : ∀ name, (n, name) ∉ signals) :
      Shows (.signal n false) ("signal: " ++ toString n)
  | dumped {n : Nat} {text : String} (stopped : Shows (.signal n false) text) :
      Shows (.signal n true) (text ++ " (core dumped)")

theorem mem_signals_iff {n : Nat} {name : String} :
    (n, name) ∈ signals ↔ signalName? n = some name := by
  have numbered : signals = signalNames.zipIdx.map fun entry => (entry.2 + 1, entry.1) := rfl
  rw [numbered, List.mem_map]
  constructor
  · rintro ⟨⟨name', i⟩, member, same⟩
    cases same
    exact List.mem_zipIdx_iff_getElem?.1 member
  · intro known
    cases n with
    | zero => cases known
    | succ i => exact ⟨(name, i), List.mem_zipIdx_iff_getElem?.2 known, rfl⟩

theorem ExitStatus.shows_shown (status : ExitStatus) : status.Shows status.shown := by
  have stopped (n : Nat) : (signal n false).Shows (signal n false).shown := by
    cases name? : signalName? n with
    | some name =>
      have shows := Shows.named (mem_signals_iff.2 name?)
      simpa [shown, name?, String.append_assoc] using shows
    | none =>
      have unknown : ∀ name, (n, name) ∉ signals := by
        intro name member
        cases name?.symm.trans (mem_signals_iff.1 member)
      simpa [shown, name?] using Shows.unnamed unknown
  cases status with
  | code n => exact .code n
  | signal n dumped =>
    cases dumped with
    | false => exact stopped n
    | true => simpa [shown] using Shows.dumped (stopped n)

/-- What has to succeed for a run to yield a role. -/
inductive Stage where
  | start
  | exit
  | text
  | document
  | role
  deriving DecidableEq, Repr

def Stage.all : List Stage := [start, exit, text, document, role]

/-- What is kept of an error stream: the bytes, mended to a text, without the white space at its
end. -/
def IsNote (err : List UInt8) (note : String) : Prop :=
  ∃ blanks, Text.Utf8.Mends err (note.toList ++ blanks) ∧
    (∀ c ∈ blanks, Text.isBlank c = true) ∧ ∀ c ∈ note.toList.getLast?, Text.isBlank c = false

/-- What a run fails with at a stage, whatever becomes of the other stages. -/
inductive Fails (yaml : Decoder) (program : String) : Outcome → Stage → Cause → Prop where
  | start {error : ForeignError} :
      Fails yaml program (.notStarted error) .start (.notStarted program error)
  | exit {status : ExitStatus} {out err : List UInt8} {note : String}
      (refused : status ≠ .code 0) (noted : IsNote err note) :
      Fails yaml program (.ended status out err) .exit (.failed status note)
  | text {status : ExitStatus} {out err : List UInt8} {fault : Text.Utf8.Fault}
      (broken : ¬ out.toByteArray.IsValidUTF8) (located : Text.Utf8.decode out = .error fault) :
      Fails yaml program (.ended status out err) .text (.notUtf8 fault)
  | document {status : ExitStatus} {out err : List UInt8} {error : ForeignError}
      (undecoded : yaml out = .error error) :
      Fails yaml program (.ended status out err) .document (.notYaml error)
  | role {status : ExitStatus} {out err : List UInt8} {value : Value} {error : RoleError}
      (read : yaml out = .ok value) (refused : Role.ofValue value = .error error) :
      Fails yaml program (.ended status out err) .role (.role error)

variable {yaml : Decoder} {program id : String} {outcome : Outcome} {stage : Stage}
  {cause : Cause} {status : ExitStatus} {out err : List UInt8} {role : Role}

theorem isNote_iff {text : String} : IsNote err text ↔ note err = text := by
  have trimmed := @Text.trimEnd_eq_iff (Text.Utf8.decodeLenient err).toList text.toList
  rw [note, ← String.toList_inj, String.toList_ofList, trimmed]
  constructor
  · rintro ⟨blanks, mends, blank, ends⟩
    exact ⟨⟨blanks, Text.Utf8.mends_iff.1 mends, blank⟩, ends⟩
  · rintro ⟨⟨blanks, parts, blank⟩, ends⟩
    exact ⟨blanks, Text.Utf8.mends_iff.2 parts, blank, ends⟩

def Succeeds (yaml : Decoder) (outcome : Outcome) (role : Role) : Prop :=
  ∃ out err value, outcome = .ended (.code 0) out err ∧ out.toByteArray.IsValidUTF8 ∧
    yaml out = .ok value ∧ Role.ofValue value = .ok role

def FailsAt (yaml : Decoder) (program : String) (outcome : Outcome) (stage : Stage) : Prop :=
  ∃ cause, Fails yaml program outcome stage cause

theorem Fails.unique {cause' : Cause} (fails : Fails yaml program outcome stage cause)
    (fails' : Fails yaml program outcome stage cause') : cause = cause' := by
  cases fails with
  | start => cases fails'; rfl
  | exit refused noted =>
    cases fails' with
    | exit _ noted' => rw [← isNote_iff.1 noted, ← isNote_iff.1 noted']
  | text broken located =>
    cases fails' with
    | text _ located' =>
      rw [located] at located'
      cases located'
      rfl
  | document undecoded =>
    cases fails' with
    | document undecoded' =>
      rw [undecoded] at undecoded'
      cases undecoded'
      rfl
  | role read refused =>
    cases fails' with
    | role read' refused' =>
      rw [read] at read'
      cases read'
      rw [refused] at refused'
      cases refused'
      rfl

theorem not_failsAt_start : ¬ FailsAt yaml program (.ended status out err) .start := nofun

theorem failsAt_exit_iff :
    FailsAt yaml program (.ended status out err) .exit ↔ status ≠ .code 0 := by
  constructor
  · rintro ⟨_, fails⟩
    cases fails with
    | exit refused => exact refused
  · intro refused
    exact ⟨_, .exit refused (isNote_iff.2 rfl)⟩

theorem failsAt_text_iff :
    FailsAt yaml program (.ended status out err) .text ↔ ¬ out.toByteArray.IsValidUTF8 := by
  constructor
  · rintro ⟨_, fails⟩
    cases fails with
    | text broken => exact broken
  · intro broken
    cases located : Text.Utf8.decode out with
    | ok text => exact absurd (Text.Utf8.exists_decode_eq_ok_iff.1 ⟨text, located⟩) broken
    | error fault => exact ⟨_, .text broken located⟩

theorem failsAt_document_iff :
    FailsAt yaml program (.ended status out err) .document ↔
      ∃ error, yaml out = .error error := by
  constructor
  · rintro ⟨_, fails⟩
    cases fails with
    | document undecoded => exact ⟨_, undecoded⟩
  · rintro ⟨error, undecoded⟩
    exact ⟨_, .document undecoded⟩

theorem Succeeds.not_failsAt (succeeds : Succeeds yaml outcome role) :
    ¬ FailsAt yaml program outcome stage := by
  obtain ⟨out, err, value, rfl, valid, read, described⟩ := succeeds
  rintro ⟨cause, fails⟩
  cases fails with
  | exit refused => exact refused rfl
  | text broken => exact broken valid
  | document undecoded =>
    rw [read] at undecoded
    cases undecoded
  | role read' refused =>
    rw [read] at read'
    cases read'
    rw [described] at refused
    cases refused

theorem Succeeds.unique {role' : Role} (succeeds : Succeeds yaml outcome role)
    (succeeds' : Succeeds yaml outcome role') : role = role' := by
  obtain ⟨out, err, value, rfl, -, read, described⟩ := succeeds
  obtain ⟨_, _, value', same, -, read', described'⟩ := succeeds'
  cases same
  rw [read] at read'
  cases read'
  rw [described] at described'
  cases described'
  rfl

/-- A run is followed from stage to stage, up to the first that fails or to a role. -/
theorem roleOf_by_stages (yaml : Decoder) (program : String) (outcome : Outcome) :
    (∃ role, roleOf yaml program outcome = .ok role ∧ Succeeds yaml outcome role) ∨
      ∃ cause before stage, roleOf yaml program outcome = .error cause ∧
        First (FailsAt yaml program outcome) Stage.all before stage ∧
        Fails yaml program outcome stage cause := by
  cases outcome with
  | notStarted error => exact .inr ⟨_, _, _, rfl, .here ⟨_, .start⟩, .start⟩
  | ended status out err =>
    have started := @not_failsAt_start yaml program status out err
    by_cases zero : status = .code 0
    · have exited : ¬ FailsAt yaml program (.ended status out err) .exit := fun failsAt =>
        failsAt_exit_iff.1 failsAt zero
      cases decoded : Text.Utf8.decode out with
      | ok text =>
        have valid := Text.Utf8.exists_decode_eq_ok_iff.1 ⟨text, decoded⟩
        have isText : ¬ FailsAt yaml program (.ended status out err) .text := fun failsAt =>
          failsAt_text_iff.1 failsAt valid
        cases read : yaml out with
        | ok value =>
          have isDocument : ¬ FailsAt yaml program (.ended status out err) .document := by
            rw [failsAt_document_iff, read]
            nofun
          cases described : Role.ofValue value with
          | ok role =>
            refine .inl ⟨role, ?_, out, err, value, by rw [zero], valid, read, described⟩
            simp only [roleOf, if_pos zero, decoded, read, described]
            rfl
          | error error =>
            have fails : Fails yaml program (.ended status out err) .role (.role error) :=
              .role read described
            refine .inr ⟨_, _, _, ?_, .later started (.later exited (.later isText
              (.later isDocument (.here ⟨_, fails⟩)))), fails⟩
            simp only [roleOf, if_pos zero, decoded, read, described]
            rfl
        | error error =>
          have fails : Fails yaml program (.ended status out err) .document (.notYaml error) :=
            .document read
          refine .inr ⟨_, _, _, ?_, .later started (.later exited (.later isText
            (.here ⟨_, fails⟩))), fails⟩
          simp only [roleOf, if_pos zero, decoded, read]
      | error fault =>
        have broken : ¬ out.toByteArray.IsValidUTF8 := by
          rw [← Text.Utf8.exists_decode_eq_ok_iff, decoded]
          nofun
        have fails : Fails yaml program (.ended status out err) .text (.notUtf8 fault) :=
          .text broken decoded
        refine .inr ⟨_, _, _, ?_, .later started (.later exited (.here ⟨_, fails⟩)), fails⟩
        simp only [roleOf, if_pos zero, decoded]
    · have fails : Fails yaml program (.ended status out err) .exit (.failed status (note err)) :=
        .exit zero (isNote_iff.2 rfl)
      refine .inr ⟨_, _, _, ?_, .later started (.here ⟨_, fails⟩), fails⟩
      simp only [roleOf, if_neg zero]

theorem roleOf_eq_ok_iff :
    roleOf yaml program outcome = .ok role ↔ Succeeds yaml outcome role := by
  rcases roleOf_by_stages yaml program outcome with
    ⟨role', found, succeeds'⟩ | ⟨cause, _, _, found, -, fails⟩
  · rw [found, Except.ok.injEq]
    constructor
    · rintro rfl
      exact succeeds'
    · exact succeeds'.unique
  · rw [found]
    exact iff_of_false nofun fun succeeds => succeeds.not_failsAt ⟨cause, fails⟩

theorem roleOf_eq_error_iff : roleOf yaml program outcome = .error cause ↔
    ∃ before stage, First (FailsAt yaml program outcome) Stage.all before stage ∧
      Fails yaml program outcome stage cause := by
  rcases roleOf_by_stages yaml program outcome with
    ⟨role', found, succeeds⟩ | ⟨cause', before', stage', found, first', fails'⟩
  · rw [found]
    refine iff_of_false nofun ?_
    rintro ⟨_, _, -, fails⟩
    exact succeeds.not_failsAt ⟨cause, fails⟩
  · rw [found, Except.error.injEq]
    constructor
    · rintro rfl
      exact ⟨before', stage', first', fails'⟩
    · rintro ⟨before, stage, first, fails⟩
      obtain ⟨-, rfl⟩ := first.unique first'
      exact fails'.unique fails

theorem describe_eq_ok_iff :
    describe yaml program id outcome = .ok role ↔ Succeeds yaml outcome role := by
  rw [← roleOf_eq_ok_iff, describe]
  cases roleOf yaml program outcome with
  | ok found =>
    constructor <;>
    · intro same
      cases same
      rfl
  | error cause => exact iff_of_false nofun nofun

theorem describe_eq_error_iff {error : Error} :
    describe yaml program id outcome = .error error ↔
      error.role = id ∧ roleOf yaml program outcome = .error error.cause := by
  rw [describe]
  cases roleOf yaml program outcome with
  | ok found => exact iff_of_false nofun nofun
  | error cause =>
    cases error with
    | mk role cause' =>
      constructor
      · intro same
        cases same
        exact ⟨rfl, rfl⟩
      · rintro ⟨rfl, same⟩
        cases same
        rfl

/-- A run yields a role exactly if all its stages succeed; otherwise the error is that of the first
stage that fails. The error stream makes no difference to a run that exits with zero, and what it
printed makes none to any other. -/
theorem describe_by_stages (yaml : Decoder) (program id : String) :
    (∀ outcome role, describe yaml program id outcome = .ok role ↔
      ∃ out err value, outcome = .ended (.code 0) out err ∧ out.toByteArray.IsValidUTF8 ∧
        yaml out = .ok value ∧ Role.ofValue value = .ok role) ∧
    (∀ outcome error, describe yaml program id outcome = .error error ↔ error.role = id ∧
      ∃ before stage, First (FailsAt yaml program outcome) Stage.all before stage ∧
        Fails yaml program outcome stage error.cause) ∧
    (∀ out err err', describe yaml program id (.ended (.code 0) out err) =
      describe yaml program id (.ended (.code 0) out err')) ∧
    ∀ status err, status ≠ .code 0 → ∃ note, IsNote err note ∧
      (∀ out, describe yaml program id (.ended status out err) =
        .error ⟨id, .failed status note⟩) ∧
      ∃ shown, status.Shows shown ∧ (Cause.failed status note).message =
        "gcloud failed with " ++ shown ++ if note = "" then "" else ": " ++ note := by
  refine ⟨fun outcome role => describe_eq_ok_iff, ?_, ?_, ?_⟩
  · intro outcome error
    rw [describe_eq_error_iff, roleOf_eq_error_iff]
  · intro out err err'
    simp only [describe, roleOf, if_true]
  · intro status err refused
    refine ⟨note err, isNote_iff.2 rfl, ?_, status.shown, status.shows_shown, rfl⟩
    intro out
    rw [describe_eq_error_iff, roleOf_eq_error_iff]
    exact ⟨rfl, _, _, .later not_failsAt_start (.here (failsAt_exit_iff.2 refused)),
      .exit refused (isNote_iff.2 rfl)⟩

/-- A proper role that was printed before the program was stopped is not taken. -/
theorem describe_by_stages_stopped :
    let yaml : Decoder := fun _ => .ok (.mapping [("name", .string "r")])
    let out : List UInt8 := [0x72]
    (∃ role, describe yaml "gcloud" "roles/r" (.ended (.code 0) out [0xFF]) = .ok role ∧
        role.name = "r") ∧
      describe yaml "gcloud" "roles/r" (.ended (.signal 6 true) out [0xE2, 0x82, 0x0A, 0x20]) =
        .error ⟨"roles/r", .failed (.signal 6 true) "\uFFFD"⟩ ∧
      (Cause.failed (.signal 6 true) "\uFFFD").message =
        "gcloud failed with signal: 6 (SIGABRT) (core dumped): \uFFFD" := by
  intro yaml out
  obtain ⟨accepts, -, -, stops⟩ := describe_by_stages yaml "gcloud" "roles/r"
  have valid : out.toByteArray.IsValidUTF8 := ⟨['r'], rfl⟩
  obtain ⟨rest, noted, failed, shown, shows, message⟩ :=
    stops (.signal 6 true) [0xE2, 0x82, 0x0A, 0x20] nofun
  have divided : Text.Utf8.pieces [0xE2, 0x82, 0x0A, 0x20] =
      [.invalid 2, .character '\n', .character ' '] := by
    rw [Text.Utf8.pieces_cons]
    change _ :: Text.Utf8.pieces [0x0A, 0x20] = _
    rw [Text.Utf8.pieces_cons]
    change _ :: _ :: Text.Utf8.pieces [0x20] = _
    rw [Text.Utf8.pieces_cons, List.drop_nil, Text.Utf8.pieces_nil]
    rfl
  have mark : note [0xE2, 0x82, 0x0A, 0x20] = "\uFFFD" := by
    rw [note, Text.Utf8.decodeLenient, divided]
    rfl
  obtain rfl : rest = "\uFFFD" := (isNote_iff.1 noted).symm.trans mark
  have told : shown = "signal: 6 (SIGABRT) (core dumped)" := by
    cases shows with
    | dumped stopped =>
      cases stopped with
      | named known =>
        obtain rfl := by simpa [signals] using known
        rfl
      | unnamed unknown => exact absurd (by decide) (unknown "SIGABRT")
  refine ⟨⟨⟨"r", [], by decide⟩, (accepts _ _).2 ⟨_, _, _, rfl, valid, rfl, rfl⟩, rfl⟩,
    failed out, ?_⟩
  rw [message, told]
  rfl

end RoleAlgebra.RoleProgram
