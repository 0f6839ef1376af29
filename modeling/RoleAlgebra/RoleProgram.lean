import RoleAlgebra.RoleFile

/-!
Describing a role by running a program. The run yields a role only if every stage succeeds: the
program starts, exits with status zero, and prints UTF-8 that is a YAML document of a role.
-/

namespace RoleAlgebra.RoleProgram

def standard : String := "gcloud"

/-- How a program ended: with a code, or by a signal, perhaps leaving an image of its memory. -/
inductive ExitStatus where
  | code (n : Nat)
  | signal (n : Nat) (dumped : Bool)
  deriving DecidableEq, Repr

/-- The names of the signals, in the order of their numbers from one on. -/
def signalNames : List String :=
  ["SIGHUP", "SIGINT", "SIGQUIT", "SIGILL", "SIGTRAP", "SIGABRT", "SIGBUS", "SIGFPE", "SIGKILL",
    "SIGUSR1", "SIGSEGV", "SIGUSR2", "SIGPIPE", "SIGALRM", "SIGTERM", "SIGSTKFLT", "SIGCHLD",
    "SIGCONT", "SIGSTOP", "SIGTSTP", "SIGTTIN", "SIGTTOU", "SIGURG", "SIGXCPU", "SIGXFSZ",
    "SIGVTALRM", "SIGPROF", "SIGWINCH", "SIGIO", "SIGPWR", "SIGSYS"]

def signalName? : Nat → Option String
  | 0 => none
  | i + 1 => signalNames[i]?

def ExitStatus.shown : ExitStatus → String
  | code n => "exit status: " ++ toString n
  | signal n dumped =>
    "signal: " ++ toString n ++ ((signalName? n).elim "" fun name => " (" ++ name ++ ")") ++
      if dumped then " (core dumped)" else ""

inductive Outcome where
  | notStarted (error : ForeignError)
  | ended (status : ExitStatus) (out err : List UInt8)
  deriving DecidableEq, Repr

/-- The first stage that failed. -/
inductive Cause where
  | notStarted (program : String) (error : ForeignError)
  | failed (status : ExitStatus) (note : String)
  | notUtf8 (fault : Text.Utf8.Fault)
  | notYaml (error : ForeignError)
  | role (error : RoleError)
  deriving DecidableEq, Repr

namespace Cause

def message : Cause → String
  | notStarted program _ => "failed to run `" ++ program ++ "`"
  | failed status note =>
    "gcloud failed with " ++ status.shown ++ if note = "" then "" else ": " ++ note
  | notUtf8 fault => fault.message
  | notYaml error => error.message
  | role error => error.message

def sources : Cause → List String
  | notStarted _ error => error.chain
  | failed _ _ => []
  | notUtf8 _ => []
  | notYaml error => error.sources
  | role _ => []

end Cause

structure Error where
  role : String
  cause : Cause
  deriving DecidableEq, Repr

namespace Error

def message (error : Error) : String := "at gcloud describe role " ++ error.role

def installHelp : String :=
  "install the gcloud CLI (https://cloud.google.com/sdk/docs/install) or pass `--gcloud`"

def help? (error : Error) : Option String :=
  match error.cause with
  | .notStarted _ _ => some installHelp
  | _ => none

def sources (error : Error) : List String := error.cause.message :: error.cause.sources

def diagnostic (error : Error) : Diagnostic :=
  ⟨error.message, some "permcalc::gcloud", error.help?, [], error.sources, none, []⟩

def lookupError (error : Error) : LookupError :=
  let wrapped := LookupError.wrap error.message error.sources
  match error.help? with
  | some help => wrapped.withHelp help
  | none => wrapped

end Error

/-- The text of an error stream, without the white space at its end. -/
def note (err : List UInt8) : String :=
  String.ofList (Text.trimEnd (Text.Utf8.decodeLenient err).toList)

def roleOf (yaml : Decoder) (program : String) (outcome : Outcome) : Except Cause Role :=
  match outcome with
  | .notStarted error => .error (.notStarted program error)
  | .ended status out err =>
    if status = .code 0 then
      match Text.Utf8.decode out with
      | .ok _ =>
        match yaml out with
        | .ok value => (Role.ofValue value).mapError .role
        | .error error => .error (.notYaml error)
      | .error fault => .error (.notUtf8 fault)
    else .error (.failed status (note err))

def describe (yaml : Decoder) (program role : String) (outcome : Outcome) : Except Error Role :=
  (roleOf yaml program outcome).mapError fun cause => ⟨role, cause⟩

end RoleAlgebra.RoleProgram
