/-!
Commands as a program declares them, and what is read of a command line by such a declaration. The
reading itself belongs to no program: it is whatever `CommandReader` a program is built with.
-/

namespace RoleAlgebra.CommandLine

inductive UsageError where
  | missing
  | badValue
  | repeated
  | unneededValue
  | unknown
  deriving DecidableEq, Repr

def UsageError.message : UsageError → String
  | missing => "a formula is required"
  | badValue => "an option lacks a proper value"
  | repeated => "an option is given twice"
  | unneededValue => "an option takes no value"
  | unknown => "there is no such option"

inductive Stop where
  | usage (error : UsageError)
  | help (long : Bool)
  | version
  deriving DecidableEq, Repr

/-- An option of a command. One that takes no value is a switch: that it is given counts as the
value `true`. -/
structure Argument where
  name : String
  letter? : Option Char
  takesValue : Bool
  accepts : String → Bool
  env? : Option String
  default? : Option String

structure Operands where
  name : String
  required : Bool
  /-- Whether words that look like options, but are none, may be among them. -/
  allowHyphens : Bool
  /-- Whether the first of them takes all words behind it along. -/
  trailing : Bool

structure Command where
  arguments : List Argument
  operands : Operands
  distinctNames : ("help" :: "version" :: operands.name :: arguments.map (·.name)).Nodup
  distinctLetters : ('-' :: 'h' :: 'V' :: arguments.filterMap (·.letter?)).Nodup
  spellable : ∀ argument ∈ arguments, argument.name ≠ "" ∧ '=' ∉ argument.name.toList
  switchable : ∀ argument ∈ arguments, argument.takesValue = false → argument.accepts "true" = true

inductive Source where
  | commandLine
  | environment
  | default
  deriving DecidableEq, Repr

structure Matched where
  source : Source
  values : List String
  deriving DecidableEq, Repr

abbrev Matches : Type := String → Option Matched

namespace Matches

def store (name : String) (matched : Matched) (found : Matches) : Matches :=
  fun other => if other = name then some matched else found other

def all (found : Matches) (name : String) : List String := (found name).elim [] (·.values)

def one? (found : Matches) (name : String) : Option String := (found.all name).head?

@[simp] theorem store_same (name : String) (matched : Matched) (found : Matches) :
    found.store name matched name = some matched := if_pos rfl

theorem store_other {name other : String} (ne : other ≠ name) (matched : Matched)
    (found : Matches) : found.store name matched other = found other := if_neg ne

end Matches

abbrev Environment : Type := String → Option String

/-- What an option comes to that is not on the command line. -/
def Argument.fallback? (environment : Environment) (argument : Argument) : Option Matched :=
  match argument.env?.bind environment with
  | some value => some ⟨.environment, [value]⟩
  | none => argument.default?.map fun value => ⟨.default, [value]⟩

namespace Command

variable (command : Command)

def argument? (name : String) : Option Argument := command.arguments.find? (·.name = name)

def fallbacks (environment : Environment) : Matches :=
  fun name => (command.argument? name).bind (·.fallback? environment)

def Admits (environment : Environment) : Prop :=
  ∀ argument ∈ command.arguments, ∀ value ∈ argument.env?.bind environment,
    argument.accepts value

end Command

abbrev CommandReader : Type := Command → Environment → List String → Except Stop Matches

end RoleAlgebra.CommandLine
