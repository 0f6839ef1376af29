namespace RoleAlgebra

inductive Precedence where
  | sum
  | product
  deriving DecidableEq, Repr

inductive Operator where
  | or
  | diff
  | and
  | xor
  deriving DecidableEq, Repr

namespace Operator

def precedence : Operator → Precedence
  | or | diff => .sum
  | and | xor => .product

def symbol : Operator → Char
  | or => '+'
  | diff => '-'
  | and => '*'
  | xor => '^'

def rule : Operator → String
  | or => "or_expr"
  | diff => "diff_expr"
  | and => "and_expr"
  | xor => "xor_expr"

/-- The truth table of the operator: whether an element is kept, given which operands have it. -/
def keeps : Operator → Bool → Bool → Bool
  | or, left, right => left || right
  | diff, left, right => left && !right
  | and, left, right => left && right
  | xor, left, right => left != right

theorem keeps_neither (op : Operator) : op.keeps false false = false := by cases op <;> rfl

theorem rule_injective {a b : Operator} (same : a.rule = b.rule) : a = b := by
  cases a <;> cases b <;> first | rfl | simp [rule] at same

end Operator
end RoleAlgebra
