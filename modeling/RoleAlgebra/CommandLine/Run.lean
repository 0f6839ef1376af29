import RoleAlgebra.CommandLine.Help
import RoleAlgebra.CommandLine.Settings
import RoleAlgebra.Formula.Nodes
import RoleAlgebra.Formula.Outline
import RoleAlgebra.LogFilter
import RoleAlgebra.Parser.State
import RoleAlgebra.World.Basic

namespace RoleAlgebra.CommandLine

/-- A failure of a run, and the context in which it is told. -/
structure Report where
  context : String
  failure : Diagnostic
  deriving Repr

def Report.diagnostic (report : Report) : Diagnostic :=
  { report.failure with
    message := report.context
    sources := report.failure.message :: report.failure.sources
    cause? := none }

/-- Evaluates a formula; when debugging, every step goes to the log. -/
def evaluate (world : World) (decoders : Decoders) (settings : Settings) (f : Formula) (log : Log) :
    Evaluation.Outcome Log :=
  let resolver := world.resolver decoders settings.program
  if settings.debug then f.evaluateObserved resolver (fun step log => .step step :: log) log
  else f.evaluate resolver log

def execute (world : World) (decoders : Decoders) (settings : Settings) :
    Except Report String × Log :=
  let log := [.parsing settings.formula]
  match Formula.parse settings.formula with
  | .error error => (.error ⟨"failed to parse formula", error.diagnostic⟩, log)
  | .ok f =>
    if settings.tree then (.ok (f.outline "|"), log)
    else match evaluate world decoders settings f log with
      | (.ok set, log) => (.ok (set.render settings.out), log)
      | (.error error, log) => (.error ⟨"failed to evaluate formula", error.diagnostic⟩, log)

structure Ending where
  status : Nat
  out : String
  err : String
  deriving DecidableEq, Repr

def files (read : CommandReader) (environment : Environment) (args : List String) : List String :=
  match settings read environment args with
  | .error _ => []
  | .ok settings =>
    match Formula.parse settings.formula with
    | .error _ => []
    | .ok f => (f.refs.filter (·.origin = .file)).map (·.id)

def logText (filter : LogFilter) (log : Log) : String :=
  String.join ((log.reverse.filter filter.admits).map fun event => event.line ++ "\n")

def runSettings (world : World) (decoders : Decoders) (filter : LogFilter) (settings : Settings) :
    Ending :=
  match execute world decoders settings with
  | (.ok text, log) => ⟨0, text, logText filter log⟩
  | (.error report, log) =>
    ⟨1, "", logText filter log ++ String.join (report.diagnostic.lines.map (· ++ "\n"))⟩

def run (read : CommandReader) (world : World) (decoders : Decoders) (environment : Environment)
    (args : List String) : Ending :=
  match settings read environment args with
  | .error (.usage error) => ⟨2, "", "error: " ++ error.message ++ "\n"⟩
  | .error (.help long) => ⟨0, printedHelp long (environment "PERMCALC_GCLOUD"), ""⟩
  | .error .version => ⟨0, versionText, ""⟩
  | .ok settings =>
    match LogFilter.ofEnvironment? settings.debug (environment "RUST_LOG") with
    | some filter => runSettings world decoders filter settings
    | none => ⟨101, "", "error: the log filter breaks a character\n"⟩

end RoleAlgebra.CommandLine
