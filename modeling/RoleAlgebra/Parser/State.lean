import RoleAlgebra.Formula.Basic
import RoleAlgebra.Token.Scanner

/-!
Reading a formula token by token. Between two tokens the parser is in one of three states: it needs
an operand, it needs the path after the mark of a file, or it has an operand and may go on with an
operator. Operators that wait for their right operand, and the groups still open, are part of the
state, so a formula may nest as deeply as it likes.
-/

namespace RoleAlgebra.Parser

structure Pending where
  left : Formula
  op : Operator
  deriving DecidableEq, Repr

def close (pending? : Option Pending) (right : Formula) : Formula :=
  match pending? with
  | some pending => .combine pending.op pending.left right
  | none => right

/-- What waits for an operand at one depth of grouping: a sum, and within it a product. -/
structure Level where
  sum? : Option Pending
  product? : Option Pending
  deriving DecidableEq, Repr

def Level.fresh : Level := ⟨none, none⟩

structure Group where
  opening : Token
  outside : Level
  deriving DecidableEq, Repr

inductive State where
  | operand (level : Level) (groups : List Group)
  | path (mark : Token) (level : Level) (groups : List Group)
  | operator (left : Formula) (sum? : Option Pending) (groups : List Group)
  deriving DecidableEq, Repr

namespace State

def start : State := operand .fresh []

/-- The state after an operand: a waiting product takes it at once. -/
def read (operand : Formula) (level : Level) (groups : List Group) : State :=
  operator (close level.product? operand) level.sum? groups

end State

def place (text : String) (token : Token) : Location := .between text token.start token.stop

def step (text : String) (state : State) (token : Token) : Except ParseError State :=
  match state, token.kind with
  | .operand level groups, .word id =>
    .ok (.read (.ref ⟨.named, id⟩ (some (place text token))) level groups)
  | .operand level groups, .at => .ok (.path token level groups)
  | .operand level groups, .opening => .ok (.operand .fresh (⟨token, level⟩ :: groups))
  | .operand _ _, kind => .error ⟨.unexpected kind .operand, place text token⟩
  | .path mark level groups, .word id =>
    .ok (.read (.ref ⟨.file, id⟩ (some ((place text mark).join (place text token)))) level groups)
  | .path _ _ _, kind => .error ⟨.noFileName (some kind), place text token⟩
  | .operator left sum? groups, .op op =>
    match op.precedence with
    | .product => .ok (.operand ⟨sum?, some ⟨left, op⟩⟩ groups)
    | .sum => .ok (.operand ⟨some ⟨close sum? left, op⟩, none⟩ groups)
  | .operator left sum? (group :: groups), .closing =>
    .ok (.read (close sum? left) group.outside groups)
  | .operator _ _ (_ :: _), kind => .error ⟨.unexpected kind .closing, place text token⟩
  | .operator _ _ [], kind => .error ⟨.trailing kind, place text token⟩

def finish (text : String) (stop : Nat) (state : State) : Except ParseError Formula :=
  match state with
  | .operand level groups =>
    if groups.isEmpty && level = .fresh then .error ⟨.empty, .between text 0 stop⟩
    else .error ⟨.unexpectedEnd .operand, .between text stop stop⟩
  | .path _ _ _ => .error ⟨.noFileName none, .between text stop stop⟩
  | .operator left sum? [] => .ok (close sum? left)
  | .operator _ _ (group :: _) => .error ⟨.unclosed, place text group.opening⟩

def readAll (text : String) (state : State) : List Token → Except ParseError State
  | [] => .ok state
  | token :: rest =>
    match step text state token with
    | .ok next => readAll text next rest
    | .error error => .error error

theorem readAll_append (text : String) (state : State) (a b : List Token) :
    readAll text state (a ++ b) = (readAll text state a).bind fun next => readAll text next b := by
  induction a generalizing state with
  | nil => rfl
  | cons token a ih =>
    simp only [List.cons_append, readAll]
    cases step text state token with
    | ok next => exact ih next
    | error error => rfl

def formulaOf (text : String) (scan : Scan) : Except ParseError Formula :=
  (readAll text .start scan.tokens).bind (finish text scan.stop)

end Parser

def Formula.parse (text : String) : Except ParseError Formula :=
  (tokenize text).bind (Parser.formulaOf text)

end RoleAlgebra
