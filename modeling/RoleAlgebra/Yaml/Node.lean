import RoleAlgebra.Yaml.Layout

/-!
The node of a document, read from tokens. Anchors and aliases are kept as numbers: an anchor's
number is how many different names were anchored before it, so that two anchors can share a number;
the later of them then answers for both.
-/

namespace RoleAlgebra.Yaml

inductive Node where
  | aliasOf (number : Nat)
  | scalar (tag? : Option TagText) (plain : Bool) (text : String)
  | sequence (tag? : Option TagText) (items : List Node)
  | mapping (tag? : Option TagText) (entries : List (Node × Node))
  deriving Repr

def Node.absent : Node := .scalar none true ""

/-- The anchors of a document. `names` gives each name its latest number, `owners` each number the
anchors that have it, latest first, and `nodes` each anchor its node. -/
structure Anchors where
  names : List (String × Nat)
  count : Nat
  owners : List (Nat × Nat)
  nodes : List (Nat × Node)
  deriving Repr

namespace Anchors

def empty : Anchors := ⟨[], 0, [], []⟩

def enter (name : String) (anchors : Anchors) : Anchors :=
  let number := anchors.names.length
  { anchors with
    names := (name, number) :: anchors.names.filter (·.1 ≠ name)
    count := anchors.count + 1
    owners := (number, anchors.count) :: anchors.owners }

def leave (anchor : Nat) (node : Node) (anchors : Anchors) : Anchors :=
  { anchors with nodes := (anchor, node) :: anchors.nodes }

def number? (name : String) (anchors : Anchors) : Option Nat := anchors.names.lookup name

def node? (number : Nat) (anchors : Anchors) : Option Node :=
  (anchors.owners.lookup number).bind fun anchor => anchors.nodes.lookup anchor

end Anchors

abbrev Handles : Type := List (TagText × TagText)

namespace Handles

def core : TagText := bytesOf "tag:yaml.org,2002:".toList

def standard : Handles := [(Tag.primary, Tag.primary), (Tag.primary ++ Tag.primary, core)]

def tag? (handles : Handles) (handle suffix : TagText) : Option TagText :=
  if handle.isEmpty then some suffix else (handles.lookup handle).map (· ++ suffix)

end Handles

/-- Reading in progress. `parts` counts scalars, aliases, and both ends of collections. -/
structure Reader where
  tokens : List Token
  handles : Handles
  anchors : Anchors
  parts : Nat

abbrev Reading : Type → Type := StateT Reader Option

namespace Reading

def peek : Reading (Option Token) := do return (← get).tokens.head?

def skip : Reading Unit := modify fun reader => { reader with tokens := reader.tokens.tail }

def count (parts : Nat) : Reading Unit :=
  modify fun reader => { reader with parts := reader.parts + parts }

def accept (token : Token) : Reading Bool := do
  if (← peek) = some token then
    skip
    return true
  else return false

def expect (token : Token) : Reading Unit := do
  if !(← accept token) then failure

def isAt (tokens : List Token) : Reading Bool := do
  match ← peek with
  | some token => return tokens.contains token
  | none => return false

def absent : Reading Node := do
  count 1
  return .absent

def anchor? : Reading (Option Nat) := do
  match ← peek with
  | some (.anchor name) =>
    skip
    let anchor := (← get).anchors.count
    modify fun reader => { reader with anchors := reader.anchors.enter name }
    return some anchor
  | _ => return none

def tag? : Reading (Option TagText) := do
  match ← peek with
  | some (.tag handle suffix) =>
    skip
    match (← get).handles.tag? handle suffix with
    | some tag => return some tag
    | none => failure
  | _ => return none

def properties : Reading (Option Nat × Option TagText) := do
  match ← anchor? with
  | some anchor => return (some anchor, ← tag?)
  | none =>
    let tag? ← tag?
    return (← anchor?, tag?)

def aliased (name : String) : Reading Node := do
  match (← get).anchors.number? name with
  | some number =>
    count 1
    return .aliasOf number
  | none => failure

def scalar (tag? : Option TagText) (plain : Bool) (text : String) : Reading Node := do
  count 1
  return .scalar tag? plain text

def deeper (depth : Nat) : Reading Unit := do
  if depth < maxDepth then count 2 else failure

mutual

/-- Reads a node at a depth. Blocks are read where `block` allows them, and where `bare` allows it
also a sequence that is indented no further than the mapping around it. -/
def node (steps depth : Nat) (block bare : Bool) : Reading Node := do
  match steps with
  | 0 => failure
  | steps + 1 =>
    match ← peek with
    | some (.aliasOf name) =>
      skip
      aliased name
    | _ =>
      let (anchor?, tag?) ← properties
      let node ← content steps depth block bare (anchor?.isSome || tag?.isSome) tag?
      if let some anchor := anchor? then
        modify fun reader => { reader with anchors := reader.anchors.leave anchor node }
      return node

def content (steps depth : Nat) (block bare marked : Bool) (tag? : Option TagText) :
    Reading Node := do
  match steps with
  | 0 => failure
  | steps + 1 =>
    match ← peek, block, bare with
    | some .entry, _, true =>
      deeper depth
      return .sequence tag? (← bareItems steps (depth + 1) [])
    | some (.scalar plain text), _, _ =>
      skip
      scalar tag? plain text
    | some .flowSequence, _, _ =>
      skip
      deeper depth
      return .sequence tag? (← flowItems steps (depth + 1) [])
    | some .flowMapping, _, _ =>
      skip
      deeper depth
      return .mapping tag? (← flowEntries steps (depth + 1) [])
    | some .blockSequence, true, _ =>
      skip
      deeper depth
      return .sequence tag? (← blockItems steps (depth + 1) [])
    | some .blockMapping, true, _ =>
      skip
      deeper depth
      return .mapping tag? (← blockEntries steps (depth + 1) [])
    | _, _, _ =>
      if marked then
        count 1
        return .scalar tag? true ""
      else failure

def nodeBefore (steps depth : Nat) (block bare : Bool) (stops : List Token) : Reading Node := do
  match steps with
  | 0 => failure
  | steps + 1 => if ← isAt stops then absent else node steps depth block bare

def blockItems (steps depth : Nat) (items : List Node) : Reading (List Node) := do
  match steps with
  | 0 => failure
  | steps + 1 =>
    if ← accept .entry then
      let item ← nodeBefore steps depth true false [.entry, .blockEnd]
      blockItems steps depth (item :: items)
    else if ← accept .blockEnd then return items.reverse
    else failure

def bareItems (steps depth : Nat) (items : List Node) : Reading (List Node) := do
  match steps with
  | 0 => failure
  | steps + 1 =>
    if ← accept .entry then
      let item ← nodeBefore steps depth true false [.entry, .key, .value, .blockEnd]
      bareItems steps depth (item :: items)
    else return items.reverse

def blockEntries (steps depth : Nat) (entries : List (Node × Node)) :
    Reading (List (Node × Node)) := do
  match steps with
  | 0 => failure
  | steps + 1 =>
    if ← accept .key then
      let stops := [.key, .value, .blockEnd]
      let key ← nodeBefore steps depth true true stops
      let value ← if ← accept .value then nodeBefore steps depth true true stops else absent
      blockEntries steps depth ((key, value) :: entries)
    else if ← accept .blockEnd then return entries.reverse
    else failure

def flowItems (steps depth : Nat) (items : List Node) : Reading (List Node) := do
  match steps with
  | 0 => failure
  | steps + 1 =>
    if ← accept .flowSequenceEnd then return items.reverse
    else
      if !items.isEmpty then expect .comma
      if ← accept .key then
        let pair ← pair steps depth
        flowItems steps depth (pair :: items)
      else if ← accept .flowSequenceEnd then return items.reverse
      else
        let item ← node steps depth false false
        flowItems steps depth (item :: items)

/-- A mapping of one entry within a sequence. Where its key is missing, the token in the place of
the key is passed over. -/
def pair (steps depth : Nat) : Reading Node := do
  match steps with
  | 0 => failure
  | steps + 1 =>
    deeper depth
    let key ←
      if ← isAt [.value, .comma, .flowSequenceEnd] then
        skip
        absent
      else node steps (depth + 1) false false
    let value ←
      if ← accept .value then nodeBefore steps (depth + 1) false false [.comma, .flowSequenceEnd]
      else absent
    return .mapping none [(key, value)]

def flowEntries (steps depth : Nat) (entries : List (Node × Node)) :
    Reading (List (Node × Node)) := do
  match steps with
  | 0 => failure
  | steps + 1 =>
    if ← accept .flowMappingEnd then return entries.reverse
    else
      if !entries.isEmpty then expect .comma
      if ← accept .key then
        let key ← nodeBefore steps depth false false [.value, .comma, .flowMappingEnd]
        let value ←
          if ← accept .value then nodeBefore steps depth false false [.comma, .flowMappingEnd]
          else absent
        flowEntries steps depth ((key, value) :: entries)
      else if ← accept .flowMappingEnd then return entries.reverse
      else
        let key ← node steps depth false false
        let value ← absent
        flowEntries steps depth ((key, value) :: entries)

end

end Reading

def directives (versioned : Bool) (handles : Handles) :
    List Token → Option (Handles × List Token)
  | .version major minor :: rest =>
    if versioned || major ≠ 1 || (minor ≠ 1 && minor ≠ 2) then none
    else directives true handles rest
  | .tagDirective handle start :: rest =>
    if (handles.lookup handle).isSome then none
    else directives versioned ((handle, start) :: handles) rest
  | tokens => some (handles, tokens)

structure Document where
  node : Node
  anchors : Anchors
  parts : Nat

namespace Document

def ofReading (handles : Handles) (tokens : List Token) (reading : Reading Node) :
    Option (Document × List Token) :=
  (reading.run ⟨tokens, handles ++ Handles.standard, .empty, 0⟩).map fun (node, reader) =>
    (⟨node, reader.anchors, reader.parts⟩, reader.tokens)

/-- More steps than it takes to read any node of the tokens: no more than four lie between one token
and the next. -/
def steps (tokens : List Token) : Nat := 4 * tokens.length + 4

def read (tokens : List Token) : Option (Document × List Token) :=
  match tokens with
  | .version _ _ :: _ | .tagDirective _ _ :: _ | .documentStart :: _ =>
    match directives false [] tokens with
    | some (handles, .documentStart :: rest) =>
      match rest with
      | [] | .version _ _ :: _ | .tagDirective _ _ :: _ | .documentStart :: _
      | .documentEnd :: _ => ofReading handles rest Reading.absent
      | _ => ofReading handles rest (Reading.node (steps rest) 0 true false)
    | _ => none
  | _ => ofReading [] tokens (Reading.node (steps tokens) 0 true false)

/-- The only document of a stream. A stream without any counts as one that holds nothing. -/
def only? (tokens : List Token) : Option Document :=
  match tokens with
  | [] => some ⟨.absent, .empty, 1⟩
  | tokens =>
    match read tokens with
    | some (document, rest) => if rest.all (· = .documentEnd) then some document else none
    | none => none

end Document
end RoleAlgebra.Yaml
