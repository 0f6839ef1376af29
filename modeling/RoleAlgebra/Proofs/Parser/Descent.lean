import RoleAlgebra.Proofs.Grammar.Basic

/-!
Reading a formula by descent: one call for each category of the grammar, which calls itself for
what the category is made of. A descent looks at the first lexeme that is left, takes it or leaves
it, and keeps a record of all that it does. Lexemes are tokens, or the end of the text; once none is
left the descent would go on as if the end stood there again.

A call that comes back with a formula has fewer lexemes left than it was given, which is why every
descent ends.
-/

namespace RoleAlgebra

namespace Grammar.Category

def rank : Category → Nat
  | operand => 1
  | chain .product => 2
  | chain .sum => 3

theorem rank_pos (c : Category) : 0 < c.rank := by
  match c with
  | operand => decide
  | chain .product => decide
  | chain .sum => decide

theorem rank_member (p : Precedence) : (member p).rank < (chain p).rank := by
  cases p <;> decide

end Grammar.Category

namespace Descent

open Grammar

/-- A token, or the end of a text, which is of no kind. -/
structure Lexeme where
  kind? : Option Token.Kind
  start : Nat
  length : Nat
  deriving DecidableEq, Repr

namespace Lexeme

def ofToken (token : Token) : Lexeme := ⟨some token.kind, token.start, token.length⟩

def place (text : String) (lexeme : Lexeme) : Location :=
  .between text lexeme.start (lexeme.start + lexeme.length)

end Lexeme

def lexemes (tokens : List Token) (stop : Lexeme) : List Lexeme :=
  tokens.map .ofToken ++ [stop]

def front (text : String) (left : List Lexeme) : Lexeme :=
  left.headD ⟨none, text.utf8ByteSize, 0⟩

theorem fewer_behind {text : String} {given rest : List Lexeme} {lexeme : Lexeme}
    {kind : Token.Kind} (first : front text given = lexeme) (behind : given.tail = rest)
    (next : lexeme.kind? = some kind) : rest.length < given.length := by
  subst first behind
  cases given with
  | nil => cases next
  | cons => simp

theorem length_behind {given rest : List Lexeme} (behind : given.tail = rest) :
    rest.length ≤ given.length := by
  subst behind
  rw [List.length_tail]
  exact Nat.sub_le _ _

section

variable {text : String} {tokens : List Token} {stop : Lexeme}

theorem exists_token (last : stop.kind? = none) {kind : Token.Kind}
    (next : (front text (lexemes tokens stop)).kind? = some kind) :
    ∃ token rest, tokens = token :: rest ∧ token.kind = kind := by
  cases tokens with
  | nil =>
    have none : (front text (lexemes [] stop)).kind? = none := last
    rw [none] at next
    cases next
  | cons token rest => exact ⟨token, rest, rfl, Option.some.inj next⟩

theorem eq_nil_of_front (next : (front text (lexemes tokens stop)).kind? = none) :
    tokens = [] := by
  cases tokens with
  | nil => rfl
  | cons => cases next

end

inductive Action where
  | peek (left : List Lexeme)
  | advance (left : List Lexeme)
  /-- Comes back with a formula from a call that was given the lexemes `before`. -/
  | back (c : Category) (before after : List Lexeme)
  deriving DecidableEq, Repr

/-- How a call ends, and what it did: it has read a formula and has fewer than `bound` lexemes left,
or it has failed. -/
inductive Outcome (bound : Nat) where
  | read (f : Formula) (left : List Lexeme) (fewer : left.length < bound) (done : List Action)
  | failed (error : ParseError) (done : List Action)

namespace Outcome

variable {m n : Nat}

def after (earlier : List Action) : Outcome n → Outcome n
  | read f left fewer done => read f left fewer (earlier ++ done)
  | failed error done => failed error (earlier ++ done)

def within (le : m ≤ n) : Outcome m → Outcome n
  | read f left fewer done => read f left (Nat.lt_of_lt_of_le fewer le) done
  | failed error done => failed error done

def andThen (outcome : Outcome m)
    (next : (f : Formula) → (left : List Lexeme) → left.length < m → Outcome n) : Outcome n :=
  match outcome with
  | read f left fewer done => (next f left fewer).after done
  | failed error done => failed error done

def noted (c : Category) (given : List Lexeme) : Outcome n → Outcome n
  | read f left fewer done => read f left fewer (done ++ [.back c given left])
  | failed error done => failed error done

def result : Outcome n → Except ParseError Formula × List Action
  | read f _ _ done => (.ok f, done)
  | failed error done => (.error error, done)

end Outcome

section

variable {n : Nat}

def peek (text : String) (given : List Lexeme)
    (next : (lexeme : Lexeme) → front text given = lexeme → Outcome n) : Outcome n :=
  (next (front text given) rfl).after [.peek given]

/-- Takes the first of the lexemes left, on record, and goes on with the others. -/
def advance (text : String) (given : List Lexeme)
    (next : (lexeme : Lexeme) → front text given = lexeme → (rest : List Lexeme) →
      given.tail = rest → Outcome n) : Outcome n :=
  (next (front text given) rfl given.tail rfl).after [.advance given]

end

def path (text : String) (mark : Lexeme) (given : List Lexeme) : Outcome given.length :=
  advance text given fun path first rest behind =>
    match next : path.kind? with
    | some (.word id) =>
      .read (.ref ⟨.file, id⟩ (some ((mark.place text).join (path.place text)))) rest
        (fewer_behind first behind next) []
    | found? => .failed ⟨.noFileName found?, path.place text⟩ []

def closing (text : String) (opening : Lexeme) (f : Formula) (given : List Lexeme) :
    Outcome given.length :=
  advance text given fun close first rest behind =>
    match next : close.kind? with
    | some .closing => .read f rest (fewer_behind first behind next) []
    | some kind => .failed ⟨.unexpected kind .closing, close.place text⟩ []
    | none => .failed ⟨.unclosed, opening.place text⟩ []

mutual

def call (text : String) (c : Category) (given : List Lexeme) : Outcome given.length :=
  match c with
  | .operand => (operand text given).noted .operand given
  | .chain p =>
    ((call text (.member p) given).andThen fun f left fewer =>
      (more text p f left).within fewer).noted (.chain p) given
termination_by (given.length, c.rank)
decreasing_by
  · exact Prod.Lex.right _ Category.operand.rank_pos
  · exact Prod.Lex.right _ (Category.rank_member p)
  · exact Prod.Lex.left _ _ fewer

def operand (text : String) (given : List Lexeme) : Outcome given.length :=
  advance text given fun token first rest behind =>
    match next : token.kind? with
    | some (.word id) =>
      .read (.ref ⟨.named, id⟩ (some (token.place text))) rest (fewer_behind first behind next) []
    | some .at => (path text token rest).within (length_behind behind)
    | some .opening =>
      (call text (.chain .sum) rest).andThen fun f left fewer =>
        (closing text token f left).within (Nat.le_trans fewer.le (length_behind behind))
    | some kind => .failed ⟨.unexpected kind .operand, token.place text⟩ []
    | none => .failed ⟨.unexpectedEnd .operand, token.place text⟩ []
termination_by (given.length, 0)
decreasing_by exact Prod.Lex.left _ _ (fewer_behind first behind next)

def more (text : String) (p : Precedence) (f : Formula) (given : List Lexeme) :
    Outcome (given.length + 1) :=
  peek text given fun token first =>
    match next : token.kind? with
    | some (.op op) =>
      if op ∈ operators p then
        advance text given fun _ _ rest behind =>
          (call text (.member p) rest).andThen fun g left fewer =>
            (more text p (.combine op f g) left).within
              (Nat.succ_le_succ (Nat.le_trans fewer.le (fewer_behind first behind next).le))
      else .read f given (Nat.lt_succ_self _) []
    | _ => .read f given (Nat.lt_succ_self _) []
termination_by (given.length, 0)
decreasing_by
  · exact Prod.Lex.left _ _ (fewer_behind first behind next)
  · exact Prod.Lex.left _ _ (Nat.lt_trans fewer (fewer_behind first behind next))

end

def whole (text : String) (given : List Lexeme) : Outcome given.length :=
  peek text given fun token _ =>
    match token.kind? with
    | none => .failed ⟨.empty, .between text 0 text.utf8ByteSize⟩ []
    | some _ =>
      (call text .formula given).andThen fun f left fewer =>
        advance text left fun token _ rest behind =>
          match token.kind? with
          | none => .read f rest (Nat.lt_of_le_of_lt (length_behind behind) fewer) []
          | some found => .failed ⟨.trailing found, token.place text⟩ []

def formula (text : String) (given : List Lexeme) : Except ParseError Formula × List Action :=
  (whole text given).result

end Descent
end RoleAlgebra
