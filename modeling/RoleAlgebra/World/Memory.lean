import RoleAlgebra.World.Basic

namespace RoleAlgebra

inductive Entry where
  | file (bytes : List UInt8)
  | directory
  | program
  deriving DecidableEq, Repr

inductive Refusal where
  | notFound
  | isADirectory
  | notADirectory
  | permissionDenied
  | nameTooLong
  | argumentTooLong
  | invalidInput
  deriving DecidableEq, Repr

abbrev Path : Type := List String

/-- The entries below a directory, latest first. -/
structure Files where
  entries : List (Path × Entry)
  deriving Repr

namespace Files

def empty : Files := ⟨[]⟩

/-- The names on a path; those that stay where they are count for nothing. -/
def namesOf (path : String) : Path :=
  (path.splitOn "/").filter fun name => name ≠ "" && name ≠ "."

def entry? (files : Files) (path : Path) : Option Entry :=
  if path = [] then some .directory else files.entries.lookup path

def put (path : Path) (entry : Entry) (files : Files) : Files :=
  ⟨(path, entry) :: files.entries.filter (·.1 ≠ path)⟩

def parents : Path → List Path
  | [] => []
  | name :: rest => (parents rest).map (name :: ·) ++ [[]]

def insert (path : String) (entry : Entry) (files : Files) : Files :=
  let names := namesOf path
  let missing := (parents names).filter fun parent => (files.entry? parent).isNone
  (missing.foldr (fun parent files => files.put parent .directory) files).put names entry

def maxName : Nat := 255

def maxPath : Nat := 4095

/-- Where a path leads: out of the directory, counted in levels above it, or to an entry in it. -/
inductive Place where
  | above (levels : Nat)
  | within (path : Path)
  deriving DecidableEq, Repr

def further (files : Files) (place : Place) (name : String) : Except Refusal Place :=
  match place with
  | .above levels =>
    if name = "" || name = "." then .ok place
    else if name = ".." then .ok (.above (levels + 1))
    else if name.utf8ByteSize > maxName then .error .nameTooLong
    else .error .notFound
  | .within path =>
    match files.entry? path with
    | some .directory =>
      if name = "" || name = "." then .ok place
      else if name = ".." then .ok (if path = [] then .above 1 else .within path.dropLast)
      else if name.utf8ByteSize > maxName then .error .nameTooLong
      else if (files.entry? (path ++ [name])).isSome then .ok (.within (path ++ [name]))
      else .error .notFound
    | _ => .error .notADirectory

def locate (files : Files) (path : String) : Except Refusal Place :=
  if path.contains '\x00' then .error .invalidInput
  else if path = "" then .error .notFound
  else if path.utf8ByteSize > maxPath then .error .nameTooLong
  else
    let start := if path.startsWith "/" then .above 0 else .within []
    (path.splitOn "/").foldlM (further files) start

/-- What stands at a path. Nothing is known of what lies outside the directory, but that there are
directories around it. -/
def resolve (files : Files) (path : String) : Except Refusal Entry :=
  (files.locate path).bind fun
    | .above _ => .ok .directory
    | .within path =>
      match files.entry? path with
      | some entry => .ok entry
      | none => .error .notFound

def content (files : Files) (path : String) : Except Refusal (List UInt8) :=
  match files.resolve path with
  | .ok (.file bytes) => .ok bytes
  | .ok .program => .ok []
  | .ok .directory => .error .isADirectory
  | .error refusal => .error refusal

def remove (path : String) (files : Files) : Bool × Files :=
  match files.locate path with
  | .ok (.within path) =>
    match files.entry? path with
    | some .directory | none => (false, files)
    | some _ => (true, ⟨files.entries.filter (·.1 ≠ path)⟩)
  | _ => (false, files)

end Files

structure PreparedRun where
  status : RoleProgram.ExitStatus
  out : List UInt8
  err : List UInt8
  deriving Repr

namespace World

/-- What comes of a program by that name, if it can be started. A name without a slash is looked for
in the directory, and only there; nothing is found if it holds no program at all. -/
def start (files : Files) (program : String) (run : Except Refusal PreparedRun) :
    Except Refusal PreparedRun :=
  let known := files.entries.any (·.2 = .program)
  if !program.contains '/' && !program.contains '\x00' && !known then .error .notFound
  else match files.resolve program with
    | .ok .program => run
    | .ok _ => .error .permissionDenied
    | .error refusal => .error refusal

def unknownRole (role : String) : PreparedRun :=
  ⟨.code 1, [], ("ERROR: NOT_FOUND: " ++ role ++ "\n").toUTF8.toList⟩

def maxArgument : Nat := 131071

def answer (roles : List (String × PreparedRun)) (role : String) : Except Refusal PreparedRun :=
  if role.utf8ByteSize > maxArgument then .error .argumentTooLong
  else .ok ((roles.lookup role).getD (unknownRole role))

/-- The world of a directory and of a program that knows some roles, with how the system tells of
its refusals. -/
def inMemory (told : Refusal → ForeignError) (files : Files) (roles : List (String × PreparedRun)) :
    World where
  content path := (files.content path).mapError told
  ask program role :=
    match if role.contains '\x00' then .error .invalidInput
      else start files program (answer roles role) with
    | .ok run => .ended run.status run.out run.err
    | .error refusal => .notStarted (told refusal)

end World
end RoleAlgebra
