import RoleAlgebra.Pattern.CharacterClass
import RoleAlgebra.Text.Alphanumeric

namespace RoleAlgebra.Pattern

/-- A part of an alternative. A switch of modes is a part that cannot be repeated. -/
structure Part where
  height : Height
  repeatable : Bool
  deriving DecidableEq, Repr

structure Group where
  alternatives : List Height
  parts : List Part
  deriving DecidableEq, Repr

namespace Group

def empty : Group := ⟨[], []⟩

def add (height : Height) (group : Group) : Group :=
  { group with parts := ⟨height, true⟩ :: group.parts }

def addSwitch (group : Group) : Group := { group with parts := ⟨0, false⟩ :: group.parts }

def alternate (group : Group) : Group :=
  ⟨Height.ofParts (group.parts.map (·.height)) :: group.alternatives, []⟩

def height (group : Group) : Height := Height.ofParts group.alternate.alternatives

def repeatLast (group : Group) : Option Group :=
  match group.parts with
  | part :: parts =>
    if part.repeatable then some { group with parts := ⟨part.height + 1, true⟩ :: parts } else none
  | [] => none

end Group

/-- Switches of modes being read: which letters and signs have been used, and whether modes are now
switched on. -/
structure Switches where
  modes : Modes
  used : List Char
  on : Bool
  deriving DecidableEq, Repr

namespace Switches

def switch (switches : Switches) (c : Char) : Option Switches :=
  let { modes, used, on } := switches
  if used.contains c then none
  else match c with
    | '-' => some ⟨modes, '-' :: used, false⟩
    | 'i' => some ⟨{ modes with ignoreCase := on }, 'i' :: used, on⟩
    | 'u' => some ⟨{ modes with unicode := on }, 'u' :: used, on⟩
    | 'x' => some ⟨{ modes with verbose := on }, 'x' :: used, on⟩
    | 'm' => some ⟨modes, 'm' :: used, on⟩
    | 's' => some ⟨modes, 's' :: used, on⟩
    | 'U' => some ⟨modes, 'U' :: used, on⟩
    | 'R' => some ⟨modes, 'R' :: used, on⟩
    | _ => none

/-- Reads switches up to a colon or the end of the group. A sign must switch something off. -/
def read (switches : Switches) : List Char → Option (Switches × Char × List Char)
  | [] => none
  | c :: rest =>
    if c = ':' || c = ')' then
      if switches.used.head? = some '-' then none else some (switches, c, rest)
    else (switches.switch c).bind (read · rest)

end Switches

def isName : List Char → Bool
  | [] => false
  | first :: rest =>
    (first = '_' || Text.isAlphabetic first) &&
      rest.all fun c => c = '_' || c = '.' || c = '[' || c = ']' || Text.isAlphanumeric c

/-- Reading in progress. `outer` has the groups around the current one, innermost first, and the
modes to return to. -/
structure Reader where
  modes : Modes
  names : List (List Char)
  group : Group
  outer : List (Modes × Group)
  deriving DecidableEq, Repr

namespace Reader

def start : Reader := ⟨.standard, [], .empty, []⟩

def add (height : Height) (reader : Reader) : Reader :=
  { reader with group := reader.group.add height }

def openGroup (modes : Modes) (reader : Reader) : Reader :=
  { reader with modes, group := .empty, outer := (reader.modes, reader.group) :: reader.outer }

def closeGroup (reader : Reader) : Option Reader :=
  match reader.outer with
  | (modes, group) :: outer =>
    some { reader with modes, group := group.add (reader.group.height + 1), outer }
  | [] => none

def named (reader : Reader) (cs : List Char) : Option (Reader × List Char) :=
  let name := cs.takeWhile (· ≠ '>')
  match cs.dropWhile (· ≠ '>') with
  | [] => none
  | _ :: rest =>
    if isName name && !reader.names.contains name then
      some ({ reader with names := name :: reader.names }.openGroup reader.modes, rest)
    else none

def parenthesis (reader : Reader) (cs : List Char) : Option (Reader × List Char) :=
  match reader.modes.skip cs with
  | '?' :: 'P' :: '<' :: rest => reader.named rest
  | '?' :: '<' :: rest => reader.named rest
  | '?' :: rest =>
    (Switches.read ⟨reader.modes, [], true⟩ rest).bind fun (switches, mark, rest) =>
      if mark = ':' then some (reader.openGroup switches.modes, rest)
      else if switches.used.isEmpty then none
      else some ({ reader with modes := switches.modes, group := reader.group.addSwitch }, rest)
  | cs => some (reader.openGroup reader.modes, cs)

def symbol (reader : Reader) (symbol : Symbol) : Option Reader :=
  if symbol.isUsable reader.modes then some (reader.add 0) else none

def repetition (reader : Reader) (rest : List Char) : Option (Reader × List Char) :=
  reader.group.repeatLast.map fun group =>
    ({ reader with group }, match rest with
      | '?' :: rest => rest
      | rest => rest)

def step (reader : Reader) (c : Char) (rest : List Char) : Option (Reader × List Char) :=
  let one (reader? : Option Reader) := reader?.map fun reader => (reader, rest)
  match c with
  | '(' => reader.parenthesis rest
  | ')' => one reader.closeGroup
  | '|' => one (some { reader with group := reader.group.alternate })
  | '[' =>
    (CharacterClass.read reader.modes rest).map fun (height, rest) => (reader.add height, rest)
  | '?' => reader.repetition rest
  | '*' => reader.repetition rest
  | '+' => reader.repetition rest
  | '\x7b' => none
  | '\\' =>
    (escape reader.modes rest).bind fun (symbol, rest) =>
      (reader.symbol symbol).map fun reader => (reader, rest)
  | '.' => one (reader.symbol .anyChar)
  | '^' => one (reader.symbol .edge)
  | '$' => one (reader.symbol .edge)
  | c => one (reader.symbol (.literal c false))

def readFrom (reader : Reader) : (steps : Nat) → List Char → Option Height
  | 0, _ => none
  | steps + 1, cs =>
    match reader.modes.skip cs with
    | [] => if reader.outer.isEmpty then some reader.group.height else none
    | c :: rest => (reader.step c rest).bind fun (reader, rest) => readFrom reader steps rest

end Reader

def maxHeight : Height := 250

def isValid (text : String) : Bool :=
  let cs := text.toList
  (Reader.start.readFrom (cs.length + 1) cs).any (· ≤ maxHeight)

end RoleAlgebra.Pattern
