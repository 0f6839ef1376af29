import RoleAlgebra.CommandLine.Reader
import RoleAlgebra.CommandLine.Run
import RoleAlgebra.Document.Standard

/-!
The command. It reads the files that its formula refers to before it runs. It starts no programs, so
a named role is reported as one whose program was not found.
-/

namespace RoleAlgebra.Command

def foreign (error : IO.Error) : ForeignError := ⟨toString error, []⟩

def readFile (path : String) : IO (String × Except ForeignError (List UInt8)) := do
  try
    let bytes ← IO.FS.readBinFile path
    return (path, .ok bytes.toList)
  catch error => return (path, .error (foreign error))

def worldOf (contents : List (String × Except ForeignError (List UInt8))) : World where
  content path := (contents.lookup path).getD (.error ⟨"not read", []⟩)
  ask _ _ := .notStarted ⟨"programs are not started", []⟩

end RoleAlgebra.Command

open RoleAlgebra in
def main (args : List String) : IO UInt32 := do
  let told ← ["PERMCALC_GCLOUD", "RUST_LOG"].mapM fun name =>
    return (name, ← IO.getEnv name)
  let environment : CommandLine.Environment := fun name => (told.lookup name).join
  let contents ← (CommandLine.files .standard environment args).mapM Command.readFile
  let ending :=
    CommandLine.run .standard (Command.worldOf contents) .standard environment args
  (← IO.getStdout).putStr ending.out
  (← IO.getStderr).putStr ending.err
  return ending.status.toUInt32
