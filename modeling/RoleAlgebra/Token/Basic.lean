import RoleAlgebra.Operator

namespace RoleAlgebra

namespace Token

inductive Kind where
  | op (operator : Operator)
  | opening
  | closing
  | at
  | word (text : String)
  deriving DecidableEq, Repr

namespace Kind

def chars : Kind → List Char
  | op operator => [operator.symbol]
  | opening => ['(']
  | closing => [')']
  | .at => ['@']
  | word text => text.toList

def shown (kind : Kind) : String := String.ofList kind.chars

end Kind

def found (kind? : Option Kind) : String :=
  match kind? with
  | some kind => kind.shown
  | none => "end of formula"

def isWordChar (c : Char) : Bool := c.isAlphanum || c = '_' || c = '/' || c = '.'

def isSpace (c : Char) : Bool := c = ' ' || c = '\t' || c = '\n' || c = '\x0c' || c = '\r'

def sign? : Char → Option Kind
  | '+' => some (.op .or)
  | '-' => some (.op .diff)
  | '*' => some (.op .and)
  | '^' => some (.op .xor)
  | '(' => some .opening
  | ')' => some .closing
  | '@' => some .at
  | _ => none

end Token

/-- A token and the bytes of the text it covers. -/
structure Token where
  kind : Token.Kind
  start : Nat
  length : Nat
  deriving DecidableEq, Repr

def Token.stop (token : Token) : Nat := token.start + token.length

end RoleAlgebra
