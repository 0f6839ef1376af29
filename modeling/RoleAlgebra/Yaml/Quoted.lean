import RoleAlgebra.Text.Digits
import RoleAlgebra.Yaml.Gap

namespace RoleAlgebra.Yaml.Quoted

/-- Reads on inside single quotes, after some text in reverse and a gap. `quote` tells that the
last character was a quote, which ends the scalar unless another follows. -/
def singleFrom (text : List Char) (gap : Gap) (quote : Bool) :
    List Cell → Option (List Char × List Cell)
  | [] => if quote then some (text.reverse, []) else none
  | cell :: rest =>
    let c := cell.char
    if quote then
      if c = '\'' then singleFrom (c :: text) .none false rest
      else some (text.reverse, cell :: rest)
    else if isSpacing c then singleFrom text (gap.add c) false rest
    else if atDocumentMark (cell :: rest) then none
    else if c = '\'' then singleFrom (gap.onto text) .none true rest
    else singleFrom (c :: gap.onto text) .none false rest

inductive Escape where
  | char (c : Char)
  | code (length : Nat)
  deriving DecidableEq, Repr

def escape? : Char → Option Escape
  | '0' => some (.char '\x00')
  | 'a' => some (.char '\x07')
  | 'b' => some (.char '\x08')
  | 't' => some (.char '\t')
  | '\t' => some (.char '\t')
  | 'n' => some (.char '\n')
  | 'v' => some (.char '\x0b')
  | 'f' => some (.char '\x0c')
  | 'r' => some (.char '\r')
  | 'e' => some (.char '\x1b')
  | ' ' => some (.char ' ')
  | '"' => some (.char '"')
  | '/' => some (.char '/')
  | '\\' => some (.char '\\')
  | 'N' => some (.char '\u0085')
  | '_' => some (.char '\u00A0')
  | 'L' => some (.char '\u2028')
  | 'P' => some (.char '\u2029')
  | 'x' => some (.code 2)
  | 'u' => some (.code 4)
  | 'U' => some (.code 8)
  | _ => none

def charOf? (n : Nat) : Option Char := if h : n.isValidChar then some (.ofNatAux n h) else none

inductive Inside where
  | plain
  | escaped
  | code (left value : Nat)
  deriving DecidableEq, Repr

def doubleFrom (inside : Inside) (text : List Char) (gap : Gap) :
    List Cell → Option (List Char × List Cell)
  | [] => none
  | cell :: rest =>
    let c := cell.char
    match inside with
    | .escaped =>
      if isBreak c then doubleFrom .plain text .joined rest
      else match escape? c with
        | some (.char c) => doubleFrom .plain (c :: text) .none rest
        | some (.code length) => doubleFrom (.code length 0) text .none rest
        | none => none
    | .code left value =>
      match Text.hexDigit? c with
      | some digit =>
        let value := value * 16 + digit
        if left ≤ 1 then
          match charOf? value with
          | some c => doubleFrom .plain (c :: text) .none rest
          | none => none
        else doubleFrom (.code (left - 1) value) text .none rest
      | none => none
    | .plain =>
      if isSpacing c then doubleFrom .plain text (gap.add c) rest
      else if atDocumentMark (cell :: rest) then none
      else if c = '"' then some ((gap.onto text).reverse, rest)
      else if c = '\\' then doubleFrom .escaped (gap.onto text) .none rest
      else doubleFrom .plain (c :: gap.onto text) .none rest

def single (cells : List Cell) : Option (List Char × List Cell) := singleFrom [] .none false cells

def double (cells : List Cell) : Option (List Char × List Cell) := doubleFrom .plain [] .none cells

end RoleAlgebra.Yaml.Quoted
