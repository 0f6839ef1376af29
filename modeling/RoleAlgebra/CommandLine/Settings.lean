import RoleAlgebra.CommandLine.Command
import RoleAlgebra.Output
import RoleAlgebra.RoleProgram

namespace RoleAlgebra.CommandLine

structure Settings where
  tree : Bool
  debug : Bool
  out : OutputFormat
  program : String
  words : List String
  deriving DecidableEq, Repr

def Settings.formula (settings : Settings) : String := " ".intercalate settings.words

def Argument.switch (name : String) : Argument where
  name := name
  letter? := none
  takesValue := false
  accepts value := value = "true" || value = "false"
  env? := none
  default? := some "false"

def outArgument : Argument where
  name := "out"
  letter? := some 'o'
  takesValue := true
  accepts value := (OutputFormat.ofName? value).isSome
  env? := none
  default? := some OutputFormat.text.name

def programArgument : Argument where
  name := "gcloud"
  letter? := none
  takesValue := true
  accepts value := value ≠ ""
  env? := some "PERMCALC_GCLOUD"
  default? := some RoleProgram.standard

def command : Command where
  arguments := [.switch "tree", .switch "debug", outArgument, programArgument]
  operands := { name := "expr", required := true, allowHyphens := true, trailing := true }
  distinctNames := by decide
  distinctLetters := by decide
  spellable := by decide
  switchable := by decide

def Settings.ofMatches? (found : Matches) : Option Settings := do
  let tree ← found.one? "tree"
  let debug ← found.one? "debug"
  let out ← (found.one? "out").bind OutputFormat.ofName?
  let program ← found.one? "gcloud"
  return ⟨tree = "true", debug = "true", out, program, found.all "expr"⟩

def settings (read : CommandReader) (environment : Environment) (args : List String) :
    Except Stop Settings :=
  match read command environment args with
  | .error stop => .error stop
  | .ok found => (Settings.ofMatches? found).elim (.error (.usage .missing)) .ok

end RoleAlgebra.CommandLine
