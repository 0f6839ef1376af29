import RoleAlgebra.Evaluation.Step
import RoleAlgebra.RoleFile

namespace RoleAlgebra

inductive LogEvent where
  | parsing (formula : String)
  | resolving (reference : Reference)
  | reading (format : RoleFile.Format) (path : String)
  | describing (role : String)
  | step (taken : Step)
  deriving DecidableEq, Repr

/-- Events, latest first. -/
abbrev Log : Type := List LogEvent

namespace LogEvent

def target : LogEvent → String
  | parsing _ => "permcalc_cli"
  | resolving _ => "permcalc::resolve"
  | reading _ _ => "permcalc::resolve::file"
  | describing _ => "permcalc::resolve::gcloud"
  | step _ => "permcalc_core::evaluator::trace"

def message : LogEvent → String
  | parsing _ => "parsing formula"
  | resolving _ => "resolving role"
  | reading format path => "read role from " ++ format.name ++ " file: " ++ path
  | describing role => "gcloud iam roles describe " ++ role
  | step taken => taken.shown

def fields (text : String → String) : LogEvent → List (String × String)
  | parsing formula => [("formula", formula)]
  | resolving reference => [("strategy", reference.origin.name), ("id", text reference.id)]
  | _ => []

/-- Whether an event has a field of some name. The message is a field too. -/
def hasField (event : LogEvent) (name : String) : Bool :=
  name = "message" || (event.fields fun text => text).any (·.1 = name)

def shownFields (fields : List (String × String)) : String :=
  String.join (fields.map fun (name, value) => " " ++ name ++ "=" ++ value)

def shown (event : LogEvent) : String :=
  "DEBUG " ++ event.message ++ shownFields (event.fields fun text => text)

def isTerminalControl (c : Char) : Bool :=
  c = '\x1b' || c = '\x07' || c = '\x08' || c = '\x0c' || c = '\x7f' ||
    ('\u0080' ≤ c && c ≤ '\u009f')

def hex (n : Nat) : List Char := Nat.toDigits 16 n

def escaped (c : Char) : List Char :=
  if !isTerminalControl c then [c]
  else if c < '\u0080' then ['\\', 'x'] ++ (if c.toNat < 16 then ['0'] else []) ++ hex c.toNat
  else ['\\', 'u', '\x7b'] ++ hex c.toNat ++ ['\x7d']

def line (event : LogEvent) : String :=
  "DEBUG " ++ event.target ++ ": " ++ String.ofList (event.message.toList.flatMap escaped) ++
    shownFields (event.fields fun text => "\"" ++ text ++ "\"")

end LogEvent
end RoleAlgebra
