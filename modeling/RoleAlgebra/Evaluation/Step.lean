import RoleAlgebra.PermissionSet
import RoleAlgebra.Reference
import RoleAlgebra.Text.Location

namespace RoleAlgebra

/-- A reference about to be looked up, or an operator whose operands have been reduced. -/
inductive Step where
  | lookup (reference : Reference) (place? : Option Location)
  | apply (op : Operator) (left right : PermissionSet) (place? : Option Location)
  deriving DecidableEq, Repr

namespace Step

def place? : Step → Option Location
  | lookup _ place? => place?
  | apply _ _ _ place? => place?

def rule : Step → String
  | lookup reference _ => reference.origin.step
  | apply op _ _ _ => op.rule

def operands : Step → List String
  | lookup reference _ => [reference.id]
  | apply _ left right _ => [left.shown, right.shown]

def shownPlace (place? : Option Location) : String :=
  match place? with
  | some place => "[" ++ place.startPosition.shown ++ "-" ++ place.stopPosition.shown ++ "] "
  | none => "[?] "

def shown (step : Step) : String :=
  shownPlace step.place? ++ step.rule ++ "(" ++ ", ".intercalate step.operands ++ ")"

end Step
end RoleAlgebra
