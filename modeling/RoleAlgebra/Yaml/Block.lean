import RoleAlgebra.Text.Digits
import RoleAlgebra.Yaml.Character

namespace RoleAlgebra.Yaml.Block

/-- What becomes of the breaks after the last line: none is kept, one, or all. -/
inductive Chomp where
  | strip
  | clip
  | keep
  deriving DecidableEq, Repr

structure Header where
  chomp : Chomp
  indent? : Option Nat
  deriving DecidableEq, Repr

def chomp? : Char → Option Chomp
  | '+' => some .keep
  | '-' => some .strip
  | _ => none

def headerOf (cells : List Cell) : Option (Header × List Cell) :=
  match cells with
  | [] => some (⟨.clip, none⟩, [])
  | first :: rest =>
    match chomp? first.char with
    | some chomp =>
      match rest with
      | second :: rest' =>
        if second.char = '0' then none
        else if Text.isDigit second.char then some (⟨chomp, some (Text.digit second.char)⟩, rest')
        else some (⟨chomp, none⟩, rest)
      | [] => some (⟨chomp, none⟩, [])
    | none =>
      if first.char = '0' then none
      else if Text.isDigit first.char then
        match rest with
        | second :: rest' =>
          match chomp? second.char with
          | some chomp => some (⟨chomp, some (Text.digit first.char)⟩, rest')
          | none => some (⟨.clip, some (Text.digit first.char)⟩, rest)
        | [] => some (⟨.clip, some (Text.digit first.char)⟩, [])
      else some (⟨.clip, none⟩, cells)

/-- What has been read. `text` and `more` are in reverse; `break?` is the break of the last line and
`more` are those of the empty lines after it. `indented` tells that the last line began with a
blank. -/
structure Body where
  text : List Char
  break? : Option Char
  more : List Char
  indented : Bool
  deriving DecidableEq, Repr

namespace Body

def empty : Body := ⟨[], none, [], false⟩

/-- A line begins. Between two lines that begin with no blank, folding turns a single line feed
into a space and drops the first of several. -/
def begin (folded : Bool) (c : Char) (body : Body) : Body :=
  let text :=
    if folded && body.break? = some '\n' && !body.indented && !isBlank c then
      if body.more.isEmpty then ' ' :: body.text else body.more ++ body.text
    else body.more ++ body.break?.toList ++ body.text
  ⟨c :: text, none, [], isBlank c⟩

def finish (chomp : Chomp) (body : Body) : List Char :=
  match chomp with
  | .strip => body.text.reverse
  | .clip => (body.break?.toList ++ body.text).reverse
  | .keep => (body.more ++ body.break?.toList ++ body.text).reverse

end Body

/-- Where a block scalar is between two characters: in the indentation of a line, or in its text.
Until the indentation is known it is the widest seen so far. -/
inductive Inside where
  | unknown (widest : Nat)
  | indentation (indent : Nat)
  | line (indent : Nat)
  deriving DecidableEq, Repr

def readFrom (folded : Bool) (chomp : Chomp) (margin : Nat) (inside : Inside) (body : Body) :
    List Cell → Option (List Char × List Cell)
  | [] => some (body.finish chomp, [])
  | cell :: rest =>
    let c := cell.char
    match inside with
    | .unknown widest =>
      let widest' := max widest cell.column
      if c = ' ' then readFrom folded chomp margin inside body rest
      else if c = '\t' then none
      else if isBreak c then
        readFrom folded chomp margin (.unknown widest') { body with more := c :: body.more } rest
      else
        let indent := max widest' (max margin 1)
        if cell.column = indent then
          readFrom folded chomp margin (.line indent) (body.begin folded c) rest
        else some (body.finish chomp, cell :: rest)
    | .indentation indent =>
      if cell.column < indent && c = ' ' then readFrom folded chomp margin inside body rest
      else if cell.column < indent && c = '\t' then none
      else if isBreak c then
        readFrom folded chomp margin inside { body with more := c :: body.more } rest
      else if cell.column = indent then
        readFrom folded chomp margin (.line indent) (body.begin folded c) rest
      else some (body.finish chomp, cell :: rest)
    | .line indent =>
      if isBreak c then
        readFrom folded chomp margin (.indentation indent) { body with break? := some c } rest
      else readFrom folded chomp margin inside { body with text := c :: body.text } rest

def read (folded : Bool) (margin : Nat) (cells : List Cell) : Option (List Char × List Cell) :=
  (headerOf cells).bind fun (header, rest) =>
    (skipToLineEnd? rest).bind fun rest =>
      let inside := match header.indent? with
        | some indent => .indentation (margin - 1 + indent)
        | none => .unknown 0
      readFrom folded header.chomp margin inside .empty rest

end RoleAlgebra.Yaml.Block
