import RoleAlgebra.Role
import RoleAlgebra.Text.Utf8

/-!
Reading a role file. The formats are tried in order and the first that accepts the bytes wins; if
none does, the error holds what each of them had to say.
-/

namespace RoleAlgebra

structure Decoders where
  yaml : Decoder
  json : Decoder

namespace RoleFile

inductive Format where
  | yaml
  | json
  | text
  deriving DecidableEq, Repr

namespace Format

def name : Format → String
  | yaml => "yaml"
  | json => "json"
  | text => "text"

def all : List Format := [yaml, json, text]

end Format

inductive FormatError where
  | notYaml (error : ForeignError)
  | notJson (error : ForeignError)
  | notUtf8 (fault : Text.Utf8.Fault)
  | role (error : RoleError)
  deriving DecidableEq, Repr

namespace FormatError

def message : FormatError → String
  | notYaml error => error.message
  | notJson error => error.message
  | notUtf8 fault => fault.message
  | role error => error.message

def sources : FormatError → List String
  | notYaml error => error.sources
  | notJson error => error.sources
  | notUtf8 _ => []
  | role _ => []

end FormatError

def ofDocument (notDocument : ForeignError → FormatError) (document : Except ForeignError Value) :
    Except FormatError Role :=
  match document with
  | .ok value => (Role.ofValue value).mapError .role
  | .error error => .error (notDocument error)

/-- Reads bytes in one format. A text file names its role by its path. -/
def Format.read (decoders : Decoders) (path : String) (bytes : List UInt8) :
    Format → Except FormatError Role
  | yaml => ofDocument .notYaml (decoders.yaml bytes)
  | json => ofDocument .notJson (decoders.json bytes)
  | text =>
    match Text.Utf8.decode bytes with
    | .ok body => (Role.ofLines path body).mapError .role
    | .error fault => .error (.notUtf8 fault)

structure Attempt where
  format : Format
  error : FormatError
  deriving DecidableEq, Repr

namespace Attempt

def message (attempt : Attempt) : String := "from " ++ attempt.format.name

def lookupError (attempt : Attempt) : LookupError :=
  .wrap attempt.message (attempt.error.message :: attempt.error.sources)

end Attempt

inductive Error where
  | unreadable (path : String) (error : ForeignError)
  | noFormat (path : String) (attempts : List Attempt)
  deriving Repr

namespace Error

def path : Error → String
  | unreadable path _ => path
  | noFormat path _ => path

def message (error : Error) : String := "at read role from file " ++ error.path

def code : Error → String
  | unreadable _ _ => "permcalc::file::unreadable"
  | noFormat _ _ => "permcalc::file::no_format"

def sources : Error → List String
  | unreadable _ error => error.chain
  | noFormat _ _ => []

def diagnostic (error : Error) : Diagnostic :=
  ⟨error.message, some error.code, none, [], error.sources, none, []⟩

def formatHelp : String :=
  "role files are YAML or JSON with `name` and `includedPermissions`, " ++
    "or text with one permission per line"

def lookupError (error : Error) : LookupError :=
  match error with
  | unreadable _ cause => .wrap error.message cause.chain
  | noFormat _ attempts =>
    ((LookupError.ofMessage error.message).withHelp formatHelp).withRelated
      (attempts.map (·.lookupError))

end Error

structure Reading where
  tried : List Format
  result : Except Error Role

def tryFormats (decoders : Decoders) (path : String) (bytes : List UInt8) (failed : List Attempt) :
    List Format → Reading
  | [] => ⟨failed.map (·.format), .error (.noFormat path failed)⟩
  | format :: rest =>
    match format.read decoders path bytes with
    | .ok role => ⟨failed.map (·.format) ++ [format], .ok role⟩
    | .error error => tryFormats decoders path bytes (failed ++ [⟨format, error⟩]) rest

def read (decoders : Decoders) (path : String) (content : Except ForeignError (List UInt8)) :
    Reading :=
  match content with
  | .ok bytes => tryFormats decoders path bytes [] Format.all
  | .error error => ⟨[], .error (.unreadable path error)⟩

end RoleFile
end RoleAlgebra
