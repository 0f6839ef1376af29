import RoleAlgebra.Operator
import RoleAlgebra.Reference
import RoleAlgebra.Text.Location

/-!
Formulas as trees. Parentheses are not part of a tree; every node may carry the place it was read
from. `bare` forgets these places, so two formulas have the same shape when their bare forms agree.
-/

namespace RoleAlgebra

inductive Formula where
  | ref (reference : Reference) (place? : Option Location)
  | apply (op : Operator) (left right : Formula) (place? : Option Location)
  deriving DecidableEq, Repr

namespace Formula

def place? : Formula → Option Location
  | ref _ place? => place?
  | apply _ _ _ place? => place?

def withPlace (place : Location) : Formula → Formula
  | ref reference _ => ref reference (some place)
  | apply op left right _ => apply op left right (some place)

/-- The place of an application: both operands' places joined, if both have one. -/
def joinPlaces : Option Location → Option Location → Option Location
  | some left, some right => some (left.join right)
  | _, _ => none

def combine (op : Operator) (left right : Formula) : Formula :=
  apply op left right (joinPlaces left.place? right.place?)

def bare : Formula → Formula
  | ref reference _ => ref reference none
  | apply op left right _ => apply op left.bare right.bare none

def size : Formula → Nat
  | ref _ _ => 1
  | apply _ left right _ => left.size + right.size + 1

theorem size_pos (f : Formula) : 0 < f.size := by cases f <;> simp [size]

@[simp] theorem bare_bare (f : Formula) : f.bare.bare = f.bare := by
  induction f with
  | ref => rfl
  | apply op left right _ ihl ihr => simp [bare, ihl, ihr]

@[simp] theorem bare_combine (op : Operator) (left right : Formula) :
    (combine op left right).bare = apply op left.bare right.bare none := rfl

@[simp] theorem place?_combine (op : Operator) (left right : Formula) :
    (combine op left right).place? = joinPlaces left.place? right.place? := rfl

end Formula
end RoleAlgebra
