import RoleAlgebra.Evaluation.Basic
import RoleAlgebra.Log
import RoleAlgebra.RoleProgram

namespace RoleAlgebra

/-- What can be asked of the world: what a file holds, and what comes of asking a program to
describe a role. The world may change with every question. -/
structure Surroundings (τ : Type) where
  content : String → τ → Except ForeignError (List UInt8) × τ
  ask : (program role : String) → τ → RoleProgram.Outcome × τ

namespace Surroundings

variable {τ : Type} (around : Surroundings τ) (decoders : Decoders)

def readRole (path : String) : Log × τ → Except RoleFile.Error Role × (Log × τ)
  | (log, state) =>
    let (content, state) := around.content path state
    let reading := RoleFile.read decoders path content
    (reading.result, (reading.tried.map fun format => .reading format path).reverse ++ log, state)

def describe (program role : String) : Log × τ → Except RoleProgram.Error Role × (Log × τ)
  | (log, state) =>
    let (outcome, state) := around.ask program role state
    (RoleProgram.describe decoders.yaml program role outcome, .describing role :: log, state)

def lookupFile (path : String) (state : Log × τ) :
    Except LookupError PermissionSet × (Log × τ) :=
  let (answer, state) := around.readRole decoders path state
  ((answer.map Role.set).mapError RoleFile.Error.lookupError, state)

def lookupNamed (program role : String) (state : Log × τ) :
    Except LookupError PermissionSet × (Log × τ) :=
  let (answer, state) := around.describe decoders program role state
  ((answer.map Role.set).mapError RoleProgram.Error.lookupError, state)

def lookup (program : String) (reference : Reference) :
    Log × τ → Except LookupError PermissionSet × (Log × τ)
  | (log, state) =>
    let log := .resolving reference :: log
    match reference.origin with
    | .named => around.lookupNamed decoders program reference.id (log, state)
    | .file => around.lookupFile decoders reference.id (log, state)

def resolver (program : String) : Resolver (Log × τ) := ⟨around.lookup decoders program⟩

end Surroundings

structure World where
  content : String → Except ForeignError (List UInt8)
  ask : (program role : String) → RoleProgram.Outcome

namespace World

variable (world : World) (decoders : Decoders)

def around : Surroundings Unit where
  content path state := (world.content path, state)
  ask program role state := (world.ask program role, state)

def logging {α : Type} (lookup : Log × Unit → α × (Log × Unit)) (log : Log) : α × Log :=
  let (answer, log, _) := lookup (log, ())
  (answer, log)

def readRole (path : String) : Log → Except RoleFile.Error Role × Log :=
  logging (world.around.readRole decoders path)

def describe (program role : String) : Log → Except RoleProgram.Error Role × Log :=
  logging (world.around.describe decoders program role)

def lookupFile (path : String) : Log → Except LookupError PermissionSet × Log :=
  logging (world.around.lookupFile decoders path)

def lookupNamed (program role : String) : Log → Except LookupError PermissionSet × Log :=
  logging (world.around.lookupNamed decoders program role)

def lookup (program : String) (reference : Reference) :
    Log → Except LookupError PermissionSet × Log :=
  logging (world.around.lookup decoders program reference)

theorem lookup_file (program path : String) (log : Log) :
    world.lookup decoders program ⟨.file, path⟩ log =
      let reading := RoleFile.read decoders path (world.content path)
      ((reading.result.map Role.set).mapError RoleFile.Error.lookupError,
        (reading.tried.map fun format => .reading format path).reverse ++
          .resolving ⟨.file, path⟩ :: log) := rfl

theorem lookup_named (program role : String) (log : Log) :
    world.lookup decoders program ⟨.named, role⟩ log =
      (((RoleProgram.describe decoders.yaml program role (world.ask program role)).map
          Role.set).mapError RoleProgram.Error.lookupError,
        .describing role :: .resolving ⟨.named, role⟩ :: log) := rfl

def resolver (program : String) : Resolver Log := ⟨world.lookup decoders program⟩

def evaluate (f : Formula) (log : Log) : Evaluation.Outcome Log :=
  f.evaluate (world.resolver decoders RoleProgram.standard) log

end World
end RoleAlgebra
