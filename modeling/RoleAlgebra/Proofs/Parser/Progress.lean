import RoleAlgebra.Proofs.Parser.Descent
import RoleAlgebra.Proofs.Parser.Incomplete

/-!
What the record of a descent tells. Up to its last action it leads from some lexemes to later ones
by taking tokens, and each call that comes back has consumed some (`Passes`); only the last action
may take the end of the text (`Stops`). In such a record the lexemes are taken one by one, none is
made up, and nothing is done after the end is taken (`Orderly`).
-/

namespace RoleAlgebra

open Grammar

namespace Grammar.Category

/-- Whether a category goes on when an operator follows what was read of it. -/
def goesOn : Category → Operator → Bool
  | operand, _ => false
  | chain .product, op => op ∈ operators .product
  | chain .sum, _ => true

theorem goesOn_chain {p : Precedence} {op : Operator}
    (stops : (member p).goesOn op = false) (other : op ∉ operators p) :
    (chain p).goesOn op = false := by
  cases p with
  | product => simp [goesOn, other]
  | sum =>
    -- such an operator would be of neither kind of chain
    cases tier : op.precedence with
    | product => simp [member, goesOn, mem_operators_iff.2 tier] at stops
    | sum => exact absurd (mem_operators_iff.2 tier) other

end Grammar.Category

theorem Grammar.Builds.ne_nil {text : String} {c : Category} {tokens : List Token} {f : Formula}
    (built : Builds text c tokens f) : tokens ≠ [] := by
  induction built with
  | named => simp
  | file => simp
  | group => simp
  | single only ih => exact ih
  | more => simp

namespace Descent

variable {text : String} {stop : Lexeme} {c : Category} {tokens : List Token}

def Halts (c : Category) (tokens : List Token) : Prop :=
  ∀ token ∈ tokens.head?, ∀ op, token.kind = .op op → c.goesOn op = false

theorem halts_operand (tokens : List Token) : Halts .operand tokens := fun _ _ _ _ => rfl

theorem Halts.chain {p : Precedence} (halts : Halts (.member p) tokens)
    (other : ∀ token ∈ tokens.head?, ∀ op, token.kind = .op op → op ∉ operators p) :
    Halts (.chain p) tokens :=
  fun token first op kind =>
    Category.goesOn_chain (halts token first op kind) (other token first op kind)

/-- A call that comes back with fewer lexemes: those missing are tokens, at least one, with matching
parentheses, and the first of those left is none that the category goes on with. -/
def Consumes (c : Category) (before after : List Lexeme) : Prop :=
  ∃ taken : List Token, before = taken.map .ofToken ++ after ∧ taken ≠ [] ∧
    Token.Balanced (taken.map (·.kind)) ∧
    ∃ next rest, after = next :: rest ∧ ∀ op, next.kind? = some (.op op) → c.goesOn op = false

theorem Consumes.of_built (last : stop.kind? = none) {taken rest : List Token} {f : Formula}
    (parts : tokens = taken ++ rest) (built : Builds text c taken f) (halts : Halts c rest) :
    Consumes c (lexemes tokens stop) (lexemes rest stop) := by
  refine ⟨taken, by simp [parts, lexemes], built.ne_nil, built.derives.balanced, ?_⟩
  cases rest with
  | nil => exact ⟨stop, [], rfl, by simp [last]⟩
  | cons token rest => exact ⟨_, _, rfl, fun op next => halts token rfl op (Option.some.inj next)⟩

/-- Actions that lead from the lexemes `given` to those in `left`, and take nothing but tokens. -/
inductive Passes : (given : List Lexeme) → List Action → (left : List Lexeme) → Prop where
  | nil {given : List Lexeme} : Passes given [] given
  | peek {next : Lexeme} {rest left : List Lexeme} {done : List Action}
      (later : Passes (next :: rest) done left) :
      Passes (next :: rest) (.peek (next :: rest) :: done) left
  | advance {token : Token} {rest left : List Lexeme} {done : List Action}
      (later : Passes rest done left) :
      Passes (.ofToken token :: rest) (.advance (.ofToken token :: rest) :: done) left
  | back {c : Category} {before given left : List Lexeme} {done : List Action}
      (consumes : Consumes c before given) (later : Passes given done left) :
      Passes given (.back c before given :: done) left

theorem Passes.append {given middle left : List Lexeme} {done done' : List Action}
    (first : Passes given done middle) (second : Passes middle done' left) :
    Passes given (done ++ done') left := by
  induction first with
  | nil => exact second
  | peek _ ih => exact .peek (ih second)
  | advance _ ih => exact .advance (ih second)
  | back consumes _ ih => exact .back consumes (ih second)

/-- Actions that do so up to the last of them, which takes a token or the end. -/
def Stops (given : List Lexeme) (done : List Action) : Prop :=
  ∃ earlier next rest, Passes given earlier (next :: rest) ∧
    done = earlier ++ [.advance (next :: rest)]

theorem Stops.after {given middle : List Lexeme} {done done' : List Action}
    (first : Passes given done middle) (stops : Stops middle done') :
    Stops given (done ++ done') := by
  obtain ⟨earlier, next, rest, passes, rfl⟩ := stops
  exact ⟨done ++ earlier, next, rest, first.append passes, by rw [List.append_assoc]⟩

theorem stops_advance (tokens : List Token) (stop : Lexeme) :
    Stops (lexemes tokens stop) [.advance (lexemes tokens stop)] := by
  cases tokens with
  | nil => exact ⟨[], stop, [], .nil, rfl⟩
  | cons token rest => exact ⟨[], .ofToken token, lexemes rest stop, .nil, rfl⟩

theorem passes_advance (token : Token) (rest : List Token) (stop : Lexeme) :
    Passes (lexemes (token :: rest) stop) [.advance (lexemes (token :: rest) stop)]
      (lexemes rest stop) :=
  .advance .nil

theorem passes_peek (tokens : List Token) (stop : Lexeme) :
    Passes (lexemes tokens stop) [.peek (lexemes tokens stop)] (lexemes tokens stop) := by
  cases tokens with
  | nil => exact .peek .nil
  | cons => exact .peek .nil

def Action.taken? : Action → Option Lexeme
  | peek _ => none
  | advance left => left.head?
  | back _ _ _ => none

def Action.Sound : Action → Prop
  | peek left => left ≠ []
  | advance left => left ≠ []
  | back c before after => Consumes c before after

/-- The record of a descent that takes the lexemes of its text one by one, makes up none, and takes
the end last of all. -/
structure Orderly (given : List Lexeme) (done : List Action) : Prop where
  sound : ∀ act ∈ done, act.Sound
  taken : done.filterMap Action.taken? <+: given
  last : ∀ earlier next rest later, done = earlier ++ .advance (next :: rest) :: later →
    next.kind? = none → later = []

namespace Passes

variable {given left : List Lexeme} {done : List Action}

theorem sound (passes : Passes given done left) : ∀ act ∈ done, act.Sound := by
  induction passes with
  | nil => simp
  | peek _ ih => exact List.forall_mem_cons.2 ⟨List.cons_ne_nil _ _, ih⟩
  | advance _ ih => exact List.forall_mem_cons.2 ⟨List.cons_ne_nil _ _, ih⟩
  | back consumes _ ih => exact List.forall_mem_cons.2 ⟨consumes, ih⟩

theorem taken (passes : Passes given done left) :
    done.filterMap Action.taken? ++ left = given := by
  induction passes with
  | nil => rfl
  | peek _ ih => exact ih
  | advance _ ih => exact congrArg _ ih
  | back _ _ ih => exact ih

theorem not_end (passes : Passes given done left) {next : Lexeme} {rest : List Lexeme}
    (takes : .advance (next :: rest) ∈ done) : next.kind? ≠ none := by
  induction passes with
  | nil => cases takes
  | peek _ ih => exact ih (List.mem_of_ne_of_mem (by simp) takes)
  | advance _ ih =>
    rcases List.mem_cons.1 takes with same | takes
    · cases same
      simp [Lexeme.ofToken]
    · exact ih takes
  | back _ _ ih => exact ih (List.mem_of_ne_of_mem (by simp) takes)

theorem orderly (passes : Passes given done left) : Orderly given done where
  sound := passes.sound
  taken := ⟨left, passes.taken⟩
  last := by
    rintro earlier next rest later rfl ends
    have takes : .advance (next :: rest) ∈ earlier ++ .advance (next :: rest) :: later := by simp
    exact absurd ends (passes.not_end takes)

end Passes

theorem Stops.orderly {given : List Lexeme} {done : List Action} (stops : Stops given done) :
    Orderly given done := by
  obtain ⟨earlier, next, rest, passes, rfl⟩ := stops
  refine ⟨?_, ⟨rest, ?_⟩, ?_⟩
  · exact List.forall_mem_append.2
      ⟨passes.sound, List.forall_mem_singleton.2 (List.cons_ne_nil next rest)⟩
  · rw [← passes.taken, List.filterMap_append, List.append_assoc]
    rfl
  · intro before other beyond later parts ends
    rcases List.eq_nil_or_concat' later with rfl | ⟨later, act, rfl⟩
    · rfl
    · -- then the end would be taken before the last action
      rw [← List.cons_append, ← List.append_assoc] at parts
      obtain ⟨rfl, -⟩ := List.append_inj' parts rfl
      have takes : .advance (other :: beyond) ∈ before ++ .advance (other :: beyond) :: later := by
        simp
      exact absurd ends (passes.not_end takes)

end Descent
end RoleAlgebra
