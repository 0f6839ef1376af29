import RoleAlgebra.Yaml.Gap

namespace RoleAlgebra.Yaml.Plain

/-- Whether a plain scalar may begin here. Most indicators may not begin one; a dash, and in a block
a question mark or colon, may if something follows it. -/
def begins (flow : Bool) : List Cell → Bool
  | [] => false
  | cell :: rest =>
    let c := cell.char
    !(isSpacing c || "-?:,[]\x7b\x7d#&*!|>'\"%@`".contains c) ||
      (c = '-' && !atChar isBlank rest) ||
      (!flow && (c = '?' || c = ':') && !atSpacing rest)

def ends (flow : Bool) (c : Char) (rest : List Cell) : Bool :=
  (c = ':' && atSpacing rest) || (flow && isFlowIndicator c)

def isStrayColon (flow : Bool) (c : Char) (rest : List Cell) : Bool :=
  flow && c = ':' && atChar (fun d => d = '?' || isFlowIndicator d) rest

/-- Whether the scalar ends here, between two lines or words: at a comment, a document mark, or in
a block a column left of the margin. -/
def stops (flow : Bool) (margin : Nat) (here : List Cell) : Bool :=
  atDocumentMark here || atChar (· = '#') here ||
    (!flow && match here with
      | cell :: _ => cell.column < margin
      | [] => false)

structure Result where
  text : List Char
  broken : Bool
  rest : List Cell

def readFrom (flow : Bool) (margin : Nat) (text : List Char) (gap : Gap) :
    List Cell → Option Result
  | [] => some ⟨text.reverse, gap.broken, []⟩
  | cell :: rest =>
    let c := cell.char
    if isSpacing c then
      if gap.broken && c = '\t' && cell.column < margin then none
      else readFrom flow margin text (gap.add c) rest
    else if !gap.isNone && stops flow margin (cell :: rest) then
      some ⟨text.reverse, gap.broken, cell :: rest⟩
    else if isStrayColon flow c rest then none
    else if ends flow c rest then some ⟨text.reverse, gap.broken, cell :: rest⟩
    else readFrom flow margin (c :: gap.onto text) .none rest

def read (flow : Bool) (margin : Nat) (cells : List Cell) : Option Result :=
  readFrom flow margin [] .none cells

end RoleAlgebra.Yaml.Plain
