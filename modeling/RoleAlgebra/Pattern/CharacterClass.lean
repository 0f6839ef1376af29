import RoleAlgebra.Pattern.Basic

namespace RoleAlgebra.Pattern.CharacterClass

/-- A class being read: how deep what stands before the last operator nests, if there is one, and
the members since. -/
structure Draft where
  before? : Option Height
  members : List Height
  deriving DecidableEq, Repr

namespace Draft

def start : Draft := ⟨none, []⟩

def add (height : Height) (draft : Draft) : Draft :=
  { draft with members := height :: draft.members }

def height (draft : Draft) : Height :=
  let last := Height.ofParts draft.members
  match draft.before? with
  | some before => max before last + 1
  | none => last

def operate (draft : Draft) : Draft := ⟨some draft.height, []⟩

end Draft

def names : List String :=
  ["alnum", "alpha", "ascii", "blank", "cntrl", "digit", "graph", "lower", "print", "punct",
    "space", "upper", "word", "xdigit"]

def named? : List Char → Option (Bool × List Char)
  | ':' :: cs =>
    let (negated, cs) := match cs with
      | '^' :: cs => (true, cs)
      | cs => (false, cs)
    match cs.dropWhile (· ≠ ':') with
    | ':' :: ']' :: rest =>
      if names.contains (String.ofList (cs.takeWhile (· ≠ ':'))) then some (negated, rest) else none
    | _ => none
  | _ => none

def isNamedUsable (modes : Modes) (negated : Bool) : Bool :=
  !modes.foldsLetters && (modes.unicode || !negated)

def hyphens (modes : Modes) (draft : Draft) : (steps : Nat) → List Char → Draft × List Char
  | steps + 1, '-' :: rest => hyphens modes (draft.add 0) steps (modes.skip rest)
  | _, cs => (draft, cs)

/-- Reads the beginning of a class whose bracket has been read. Hyphens there are members, and so is
a closing bracket. -/
def begin? (modes : Modes) (cs : List Char) : Option (Draft × List Char) :=
  let (negated, cs) := match modes.skip cs with
    | '^' :: cs => (true, modes.skip cs)
    | cs => (false, cs)
  let (draft, cs) := hyphens modes .start cs.length cs
  let (draft, cs) := match draft.members, cs with
    | [], ']' :: cs => (draft.add 0, modes.skip cs)
    | _, cs => (draft, cs)
  if (negated && !modes.unicode) || (!draft.members.isEmpty && modes.foldsLetters) then none
  else some (draft, cs)

def symbol (modes : Modes) : List Char → Option (Symbol × List Char)
  | [] => none
  | '\\' :: rest => escape modes rest
  | c :: rest => some (.literal c false, rest)

/-- The character after a hyphen. Only one comment is skipped before it, up to its first character
that is not white space, and nothing if the pattern ends there. -/
def afterHyphen? (modes : Modes) (cs : List Char) : Option Char :=
  if !modes.verbose then cs.head?
  else match cs.dropWhile Text.isBlank with
    | '#' :: comment => (comment.dropWhile Text.isBlank).head?.orElse fun _ => cs.head?
    | c :: _ => some c
    | [] => cs.head?

def isRange (modes : Modes) (first last : Symbol) : Bool :=
  match first, last with
  | .literal low _, .literal high _ => first.isMember modes && last.isMember modes && low ≤ high
  | _, _ => false

/-- Reads a range or a single symbol. A hyphen before another one, or before the end of the class,
makes no range. -/
def member? (modes : Modes) (cs : List Char) : Option (List Char) :=
  (symbol modes cs).bind fun (first, rest) =>
    let rest := modes.skip rest
    let single := if first.isMember modes then some rest else none
    match rest with
    | '-' :: after =>
      let next? := afterHyphen? modes after
      if next? = some ']' || next? = some '-' then single
      else (symbol modes (modes.skip after)).bind fun (last, rest) =>
        if isRange modes first last then some rest else none
    | _ => single

def readFrom (modes : Modes) (draft : Draft) (outer : List Draft) :
    (steps : Nat) → List Char → Option (Height × List Char)
  | 0, _ => none
  | steps + 1, cs =>
    match modes.skip cs with
    | [] => none
    | '[' :: rest =>
      match named? rest with
      | some (negated, rest) =>
        if isNamedUsable modes negated then readFrom modes (draft.add 0) outer steps rest else none
      | none => (begin? modes rest).bind fun (inner, rest) =>
          readFrom modes inner (draft :: outer) steps rest
    | ']' :: rest =>
      let height := draft.height + 1
      match outer with
      | [] => some (height, rest)
      | draft :: outer => readFrom modes (draft.add height) outer steps rest
    | '&' :: '&' :: rest => readFrom modes draft.operate outer steps rest
    | '-' :: '-' :: rest => readFrom modes draft.operate outer steps rest
    | '~' :: '~' :: rest => readFrom modes draft.operate outer steps rest
    | cs => (member? modes cs).bind fun rest => readFrom modes (draft.add 0) outer steps rest

def read (modes : Modes) (cs : List Char) : Option (Height × List Char) :=
  (begin? modes cs).bind fun (draft, rest) => readFrom modes draft [] (rest.length + 1) rest

end RoleAlgebra.Pattern.CharacterClass
