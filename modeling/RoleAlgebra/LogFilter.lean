import RoleAlgebra.Log
import RoleAlgebra.LogFilter.Directive

/-!
Filters that say which events are logged. A filter is a list of directives, and of those that
concern an event the one that says most about it decides.
-/

namespace RoleAlgebra

abbrev LogFilter : Type := List LogFilter.Directive

namespace LogFilter

def ofLevel (level : Level) : LogFilter := [⟨none, none, level⟩]

/-- Reads directives between commas, up to the first that cannot be read. No directive at all leaves
errors only. -/
def read (text : String) : Except Directive.Fault LogFilter :=
  let parts := (text.splitOn ",").filter (· ≠ "")
  if parts.isEmpty then .ok (ofLevel .error)
  else (parts.mapM Directive.read).map (·.filterMap id)

/-- The filter of a run: everything if that is asked for, else what the environment says. Where it
says nothing, or nothing well formed, there are warnings only. There is no filter, and no run, if it
breaks a character. -/
def ofEnvironment? (debug : Bool) (environment? : Option String) : Option LogFilter :=
  if debug then some (ofLevel .debug)
  else match environment?.map read with
    | some (.ok filter) => some filter
    | some (.error .brokenCharacter) => none
    | some (.error .malformed) => some (ofLevel .warn)
    | none => some (ofLevel .warn)

def concerns (event : LogEvent) (directive : Directive) : Bool :=
  directive.target?.all (fun target => event.target.startsWith target) &&
    directive.field?.all event.hasField

def weight (directive : Directive) : Nat :=
  match directive.target? with
  | some target => target.utf8ByteSize + 1
  | none => 0

def yields (directive other : Directive) : Bool :=
  weight directive < weight other || (weight directive = weight other &&
    match directive.field?, other.field? with
    | none, _ => true
    | some _, none => false
    | some field, some other => field ≤ other)

/-- The directive that decides about an event: of those that concern it the one to which all others
yield, and of equals the last. -/
def deciding? (filter : LogFilter) (event : LogEvent) : Option Directive :=
  (filter.filter (concerns event)).foldl (fun best? directive =>
    match best? with
    | some best => if yields best directive then some directive else some best
    | none => some directive) none

def admits (filter : LogFilter) (event : LogEvent) : Bool :=
  (filter.deciding? event).any (·.level.includesDebug)

end LogFilter
end RoleAlgebra
