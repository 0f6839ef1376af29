import RoleAlgebra.Formula.Basic
import RoleAlgebra.Token.Basic

/-!
Printing a formula: the tokens it is written with, and how they are spaced. An operand stands in
parentheses exactly where it would otherwise be read differently. The tokens are listed from a list
of pieces still to write; `words_apply` gives them back by recursion on the tree.
-/

namespace RoleAlgebra

namespace Formula

/-- Whether an operand of `parent` needs parentheses: it binds less tightly, or as tightly on the
right, where it would otherwise be read into the left operand. -/
def needsGroup (parent : Operator) (onRight : Bool) : Formula → Bool
  | ref _ _ => false
  | apply op _ _ _ =>
    match op.precedence, parent.precedence with
    | .sum, .sum => onRight
    | .sum, .product => true
    | .product, .sum => false
    | .product, .product => onRight

def refWords (reference : Reference) : List Token.Kind :=
  match reference.origin with
  | .named => [.word reference.id]
  | .file => [.at, .word reference.id]

inductive Piece where
  | formula (f : Formula)
  | word (kind : Token.Kind)

def Piece.load : Piece → Nat
  | formula f => 6 * f.size
  | word _ => 1

def load : List Piece → Nat
  | [] => 0
  | piece :: rest => piece.load + load rest

def operandPieces (grouped : Bool) (f : Formula) : List Piece :=
  if grouped then [.word .opening, .formula f, .word .closing] else [.formula f]

def applyPieces (op : Operator) (left right : Formula) : List Piece :=
  operandPieces (left.needsGroup op false) left ++
    .word (.op op) :: operandPieces (right.needsGroup op true) right

theorem load_operandPieces (grouped : Bool) (f : Formula) :
    load (operandPieces grouped f) ≤ 6 * f.size + 2 := by
  cases grouped with
  | false => simp [operandPieces, load, Piece.load]
  | true =>
    simp only [operandPieces, load, Piece.load, if_true]
    omega

theorem load_append (a b : List Piece) : load (a ++ b) = load a + load b := by
  induction a with
  | nil => simp [load]
  | cons piece a ih => simp [load, ih, Nat.add_assoc]

theorem load_applyPieces (op : Operator) (left right : Formula) (place? : Option Location) :
    load (applyPieces op left right) < 6 * (apply op left right place?).size := by
  have atLeft := load_operandPieces (left.needsGroup op false) left
  have atRight := load_operandPieces (right.needsGroup op true) right
  have split : load (applyPieces op left right) =
      load (operandPieces (left.needsGroup op false) left) +
        (1 + load (operandPieces (right.needsGroup op true) right)) := by
    rw [applyPieces, load_append]
    simp [load, Piece.load]
  simp only [size]
  omega

def wordsFrom (written : List Token.Kind) : List Piece → List Token.Kind
  | [] => written.reverse
  | .word kind :: rest => wordsFrom (kind :: written) rest
  | .formula (ref reference _) :: rest =>
    wordsFrom ((refWords reference).reverse ++ written) rest
  | .formula (apply op left right _) :: rest =>
    wordsFrom written (applyPieces op left right ++ rest)
termination_by pieces => load pieces
decreasing_by
  · simp [load, Piece.load]
  · simp [load, Piece.load, size]
  · rename_i place?
    have lighter := load_applyPieces op left right place?
    rw [load_append]
    simp only [load, Piece.load] at lighter ⊢
    omega

def words (f : Formula) : List Token.Kind := wordsFrom [] [.formula f]

end Formula

def Token.Kind.spaced : Token.Kind → List Char
  | op operator => [' ', operator.symbol, ' ']
  | kind => kind.chars

/-- The text of a formula, with the fewest parentheses that keep its shape. -/
def Formula.print (f : Formula) : String := String.ofList (f.words.flatMap Token.Kind.spaced)

namespace Formula

def Piece.words : Piece → List Token.Kind
  | formula f => f.words
  | word kind => [kind]

theorem wordsFrom_eq (written : List Token.Kind) (pieces : List Piece) :
    wordsFrom written pieces = written.reverse ++ pieces.flatMap Piece.words := by
  suffices general : ∀ (n : Nat) (pieces : List Piece) (written : List Token.Kind),
      load pieces ≤ n →
        wordsFrom written pieces = written.reverse ++ pieces.flatMap Piece.words from
    general _ pieces written (Nat.le_refl _)
  intro n
  induction n with
  | zero =>
    intro pieces written bound
    match pieces with
    | [] => simp [wordsFrom]
    | .word kind :: rest => simp [load, Piece.load] at bound
    | .formula f :: rest =>
      have := f.size_pos
      simp [load, Piece.load] at bound
      omega
  | succ n ih =>
    intro pieces written bound
    match pieces with
    | [] => simp [wordsFrom]
    | .word kind :: rest =>
      have lighter : load rest ≤ n := by
        simp [load, Piece.load] at bound ⊢
        omega
      rw [wordsFrom, ih _ _ lighter]
      simp [Piece.words]
    | .formula (ref reference place?) :: rest =>
      have lighter : load rest ≤ n := by
        simp [load, Piece.load, size] at bound ⊢
        omega
      rw [wordsFrom, ih _ _ lighter]
      simp [Piece.words, words, wordsFrom]
    | .formula (apply op left right place?) :: rest =>
      have whole : load (.formula (apply op left right place?) :: rest) =
          6 * (apply op left right place?).size + load rest := by simp [load, Piece.load]
      have lighter := load_applyPieces op left right place?
      have inner : (apply op left right place?).words =
          (applyPieces op left right).flatMap Piece.words := by
        rw [words, wordsFrom, ih _ _ (by rw [List.append_nil]; omega)]
        simp
      rw [wordsFrom, ih _ _ (by rw [load_append]; omega)]
      simp [Piece.words, inner]

@[simp] theorem words_ref (reference : Reference) (place? : Option Location) :
    (ref reference place?).words = refWords reference := by simp [words, wordsFrom]

def operandWords (grouped : Bool) (f : Formula) : List Token.Kind :=
  if grouped then .opening :: (f.words ++ [.closing]) else f.words

@[simp] theorem words_apply (op : Operator) (left right : Formula) (place? : Option Location) :
    (apply op left right place?).words =
      operandWords (left.needsGroup op false) left ++
        .op op :: operandWords (right.needsGroup op true) right := by
  have operand (grouped : Bool) (f : Formula) :
      (operandPieces grouped f).flatMap Piece.words = operandWords grouped f := by
    cases grouped <;> simp [operandPieces, operandWords, Piece.words]
  rw [words, wordsFrom, wordsFrom_eq]
  simp [applyPieces, operand, Piece.words]

end Formula
end RoleAlgebra
