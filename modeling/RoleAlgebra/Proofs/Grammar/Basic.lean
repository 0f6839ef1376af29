import RoleAlgebra.Formula.Nodes
import RoleAlgebra.Proofs.Token.Scan

/-!
The grammar of formulas, apart from any way of reading them:

    sum     = product (("+" | "-") product)*
    product = operand (("*" | "^") operand)*
    operand = "@" word | word | "(" sum ")"

Both kinds of repetition are folded to the left, and a group stands for what is inside of it. Trees
of the grammar carry no places.
-/

namespace RoleAlgebra.Grammar

inductive Category where
  | operand
  | chain (precedence : Precedence)
  deriving DecidableEq, Repr

def operators : Precedence → List Operator
  | .sum => [.or, .diff]
  | .product => [.and, .xor]

theorem mem_operators_iff {p : Precedence} {op : Operator} :
    op ∈ operators p ↔ op.precedence = p := by
  cases p <;> cases op <;> decide

/-- What the operators of a chain join. -/
def Category.member : Precedence → Category
  | .sum => .chain .product
  | .product => .operand

def Category.formula : Category := .chain .sum

/-- The tokens that make a tree of some category. -/
inductive Derives : Category → List Token.Kind → Formula → Prop where
  | named (id : String) : Derives .operand [.word id] (.ref ⟨.named, id⟩ none)
  | file (id : String) : Derives .operand [.at, .word id] (.ref ⟨.file, id⟩ none)
  | group {kinds : List Token.Kind} {f : Formula} (inside : Derives (.chain .sum) kinds f) :
      Derives .operand (.opening :: (kinds ++ [.closing])) f
  | single {p : Precedence} {kinds : List Token.Kind} {f : Formula}
      (only : Derives (.member p) kinds f) : Derives (.chain p) kinds f
  | more {p : Precedence} {op : Operator} {before after : List Token.Kind} {f g : Formula}
      (tier : op ∈ operators p) (chain : Derives (.chain p) before f)
      (last : Derives (.member p) after g) :
      Derives (.chain p) (before ++ .op op :: after) (.apply op f g none)

theorem Derives.of_operand {kinds : List Token.Kind} {f : Formula}
    (derived : Derives .operand kinds f) (c : Category) : Derives c kinds f := by
  have product : Derives (.chain .product) kinds f := .single derived
  match c with
  | .operand => exact derived
  | .chain .product => exact product
  | .chain .sum => exact .single product

theorem Derives.to_formula {c : Category} {kinds : List Token.Kind} {f : Formula}
    (derived : Derives c kinds f) : Derives .formula kinds f := by
  match c with
  | .operand => exact derived.of_operand .formula
  | .chain .product => exact .single derived
  | .chain .sum => exact derived

theorem Derives.separated {c : Category} {kinds : List Token.Kind} {f : Formula}
    (derived : Derives c kinds f) : Token.Separated kinds := by
  induction derived with
  | named id => exact .singleton _
  | file id => exact .cons_cons (.inl rfl) (.singleton _)
  | @group kinds f inside ih =>
    have closed : Token.Separated (kinds ++ [.closing]) := Token.separated_around rfl ih .nil
    exact Token.separated_cons rfl closed
  | single only ih => exact ih
  | more tier chain last chainIh lastIh => exact Token.separated_around rfl chainIh lastIh

/-- The names of a tree are the words that it is derived from. -/
theorem Derives.lexable_iff {c : Category} {kinds : List Token.Kind} {f : Formula}
    (derived : Derives c kinds f) :
    (∀ kind ∈ kinds, kind.Lexable) ↔ ∀ reference ∈ f.refs, Token.IsName reference.id := by
  induction derived with
  | named id => simp [Token.Kind.Lexable]
  | file id => simp [Token.Kind.Lexable]
  | group inside ih =>
    rw [← ih]
    simp [Token.Kind.Lexable, or_imp, forall_and]
  | single only ih => exact ih
  | more tier chain last chainIh lastIh =>
    rw [Formula.refs_apply]
    simp only [List.forall_mem_append, List.forall_mem_cons, chainIh, lastIh]
    simp [Token.Kind.Lexable]

end RoleAlgebra.Grammar
