import RoleAlgebra.Yaml.Block
import RoleAlgebra.Yaml.Plain
import RoleAlgebra.Yaml.Property
import RoleAlgebra.Yaml.Quoted

/-!
Dividing a stream into tokens. Blocks have no brackets of their own: where one begins and ends is
read off the columns, and that something was a key is known only when a colon follows it. A layout
holds what is needed for both: the margins of the open blocks, and in each bracket the last token
that may turn out to be a key.
-/

namespace RoleAlgebra.Yaml

/-- A token that becomes a key if a colon follows it: how many tokens came before it and where it
stands. Where it is required to be a key, nothing else may follow. -/
structure Candidate where
  number : Nat
  required : Bool
  index : Nat
  line : Nat
  column : Nat
  deriving DecidableEq, Repr

/-- `tokens` is in reverse, `count` its length. `margins` are the least columns of what is inside
the open blocks, innermost first. `candidate?` is that of the innermost bracket and `outer` has
those of the brackets around it. -/
structure Layout where
  tokens : List Token
  count : Nat
  margins : List Nat
  candidate? : Option Candidate
  outer : List (Option Candidate)
  keyAllowed : Bool
  deriving Repr

def maxDepth : Nat := 128

namespace Layout

def start : Layout := ⟨[], 0, [], none, [], true⟩

def inFlow (layout : Layout) : Bool := !layout.outer.isEmpty

def margin (layout : Layout) : Nat := layout.margins.headD 0

def add (token : Token) (layout : Layout) : Layout :=
  { layout with tokens := token :: layout.tokens, count := layout.count + 1 }

def insert (number : Nat) (token : Token) (layout : Layout) : Layout :=
  { layout with
    tokens := layout.tokens.insertIdx (layout.count - number) token
    count := layout.count + 1 }

def allowKey (allowed : Bool) (layout : Layout) : Layout := { layout with keyAllowed := allowed }

def dropCandidate (layout : Layout) : Option Layout :=
  if layout.candidate?.any (·.required) then none else some { layout with candidate? := none }

def offer (here : Cell) (layout : Layout) : Option Layout :=
  if layout.keyAllowed then
    layout.dropCandidate.map fun layout =>
      let required := !layout.inFlow && layout.margin = here.column + 1
      { layout with
        candidate? := some ⟨layout.count, required, here.index, here.line, here.column⟩ }
  else some layout

/-- Whether a candidate can still be a key here: on its line, and not more bytes behind than a key
may have. -/
def isFresh (here : Cell) (candidate : Candidate) : Bool :=
  candidate.line = here.line && here.index ≤ candidate.index + 1024

def forget (here : Cell) (layout : Layout) : Option Layout :=
  let stale (candidate? : Option Candidate) :=
    candidate?.any fun candidate => candidate.required && !isFresh here candidate
  if stale layout.candidate? || layout.outer.any stale then none
  else some { layout with
    candidate? := layout.candidate?.filter (isFresh here)
    outer := layout.outer.map (·.filter (isFresh here)) }

def closeBlocks (bound : Nat) (layout : Layout) : Layout :=
  if layout.inFlow then layout
  else
    let closed := (layout.margins.takeWhile (bound < ·)).length
    { layout with
      margins := layout.margins.drop closed
      tokens := List.replicate closed .blockEnd ++ layout.tokens
      count := layout.count + closed }

def openBlock (column number : Nat) (token : Token) (layout : Layout) : Layout :=
  if !layout.inFlow && layout.margin ≤ column then
    { layout with margins := (column + 1) :: layout.margins }.insert number token
  else layout

def topLevel (layout : Layout) : Option Layout :=
  (layout.closeBlocks 0).dropCandidate.map (allowKey false)

def openFlow (here : Cell) (token : Token) (layout : Layout) : Option Layout :=
  if layout.outer.length < maxDepth then
    (layout.offer here).map fun layout =>
      { layout with candidate? := none, outer := layout.candidate? :: layout.outer }
        |>.allowKey true |>.add token
  else none

def closeFlow (token : Token) (layout : Layout) : Option Layout :=
  layout.dropCandidate.map fun layout =>
    let layout := match layout.outer with
      | candidate? :: outer => { layout with candidate?, outer }
      | [] => layout
    layout |>.allowKey false |>.add token

def comma (layout : Layout) : Option Layout :=
  layout.dropCandidate.map fun layout => layout |>.allowKey true |>.add .comma

def dash (here : Cell) (layout : Layout) : Option Layout :=
  if layout.inFlow || layout.keyAllowed then
    (layout.openBlock here.column layout.count .blockSequence).dropCandidate.map fun layout =>
      layout |>.allowKey true |>.add .entry
  else none

def keyMark (here : Cell) (layout : Layout) : Option Layout :=
  if layout.inFlow || layout.keyAllowed then
    (layout.openBlock here.column layout.count .blockMapping).dropCandidate.map fun layout =>
      layout.allowKey (!layout.inFlow) |>.add .key
  else none

def valueMark (here : Cell) (layout : Layout) : Option Layout :=
  match layout.candidate? with
  | some candidate =>
    some <| (layout.insert candidate.number .key).openBlock candidate.column candidate.number
      .blockMapping |> fun layout =>
        { layout with candidate? := none } |>.allowKey false |>.add .value
  | none =>
    if layout.inFlow || layout.keyAllowed then
      some <| layout.openBlock here.column layout.count .blockMapping |> fun layout =>
        layout.allowKey (!layout.inFlow) |>.add .value
    else none

def content (here : Cell) (token : Token) (keyAfter : Bool) (layout : Layout) : Option Layout :=
  (layout.offer here).map fun layout => layout |>.allowKey keyAfter |>.add token

def block (text : List Char) (layout : Layout) : Option Layout :=
  layout.dropCandidate.map fun layout =>
    layout |>.allowKey true |>.add (.scalar false (String.ofList text))

/-- White space and comments before the next token. A tab may stand among them where no key may, and
a byte order mark at the beginning of a line; a line end makes room for a key. -/
def skipGap (flow allowed comment : Bool) : List Cell → Bool × List Cell
  | [] => (allowed, [])
  | cell :: rest =>
    let c := cell.char
    if isBreak c then skipGap flow (allowed || !flow) false rest
    else if comment then skipGap flow allowed true rest
    else if c = ' ' || (c = '\t' && (flow || !allowed)) ||
        (cell.column = 0 && c = byteOrderMark) then skipGap flow allowed false rest
    else if c = '#' then skipGap flow allowed true rest
    else (allowed, cell :: rest)

def token (here : Cell) (rest : List Cell) (layout : Layout) : Option (Layout × List Cell) :=
  let c := here.char
  let flow := layout.inFlow
  let one (layout? : Option Layout) := layout?.map fun layout => (layout, rest)
  if here.column = 0 && c = '%' then
    layout.topLevel.bind fun layout =>
      (Directive.read rest).map fun (token, rest) => (layout.add token, rest)
  else if atMark '-' (here :: rest) then
    layout.topLevel.map fun layout => (layout.add .documentStart, rest.drop 2)
  else if atMark '.' (here :: rest) then
    layout.topLevel.map fun layout => (layout.add .documentEnd, rest.drop 2)
  else if c = '[' then one (layout.openFlow here .flowSequence)
  else if c = '\x7b' then one (layout.openFlow here .flowMapping)
  else if c = ']' then one (layout.closeFlow .flowSequenceEnd)
  else if c = '\x7d' then one (layout.closeFlow .flowMappingEnd)
  else if c = ',' then one layout.comma
  else if c = '-' && atSpacing rest then one (layout.dash here)
  else if c = '?' && (flow || atSpacing rest) then one (layout.keyMark here)
  else if c = ':' && (flow || atSpacing rest) then one (layout.valueMark here)
  else if c = '*' then
    (Anchor.read rest).bind fun (name, rest) =>
      (layout.content here (.aliasOf name) false).map fun layout => (layout, rest)
  else if c = '&' then
    (Anchor.read rest).bind fun (name, rest) =>
      (layout.content here (.anchor name) false).map fun layout => (layout, rest)
  else if c = '!' then
    (Tag.read flow rest).bind fun (token, rest) =>
      (layout.content here token false).map fun layout => (layout, rest)
  else if (c = '|' || c = '>') && !flow then
    (Block.read (c = '>') layout.margin rest).bind fun (text, rest) =>
      (layout.block text).map fun layout => (layout, rest)
  else if c = '\'' then
    (Quoted.single rest).bind fun (text, rest) =>
      (layout.content here (.scalar false (String.ofList text)) false).map fun layout =>
        (layout, rest)
  else if c = '"' then
    (Quoted.double rest).bind fun (text, rest) =>
      (layout.content here (.scalar false (String.ofList text)) false).map fun layout =>
        (layout, rest)
  else if Plain.begins flow (here :: rest) then
    (Plain.read flow layout.margin (here :: rest)).bind fun result =>
      (layout.content here (.scalar true (String.ofList result.text)) result.broken).map
        fun layout => (layout, result.rest)
  else none

/-- Reads the tokens of a stream. Every step but the last reads a character, so there are no more
steps than characters and one. -/
def readFrom (layout : Layout) : (steps : Nat) → List Cell → Option (List Token)
  | 0, _ => none
  | steps + 1, cells =>
    match skipGap layout.inFlow layout.keyAllowed false cells with
    | (_, []) => layout.topLevel.map fun layout => layout.tokens.reverse
    | (allowed, here :: rest) =>
      let layout? := ((layout.allowKey allowed).forget here).map (·.closeBlocks (here.column + 1))
      match layout?.bind (token here rest) with
      | some (layout, rest) => readFrom layout steps rest
      | none => none

end Layout

def tokens? (text : String) : Option (List Token) :=
  if text.toList.all isReadable then
    let stream := cells text
    Layout.start.readFrom (stream.length + 1) stream
  else none

end RoleAlgebra.Yaml
