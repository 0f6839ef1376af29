import RoleAlgebra.Evaluation.Text
import RoleAlgebra.Proofs.Evaluation.Calls
import RoleAlgebra.Proofs.Grammar.Placed
import RoleAlgebra.Proofs.Token.Moved

namespace RoleAlgebra

/-- The same stretch, `n` bytes further on in another text. -/
def Location.moved (text : String) (n : Nat) (here : Location) : Location :=
  ⟨text, here.start + n, here.length⟩

theorem Location.moved_join (text : String) (n : Nat) (here there : Location) :
    (here.join there).moved text n = (here.moved text n).join (there.moved text n) := by
  simp only [moved, join, between, stop, mk.injEq, true_and]
  omega

theorem Token.place_moved (text other : String) (n : Nat) (token : Token) :
    Parser.place other (token.moved n) = (Parser.place text token).moved other n := by
  simp only [Parser.place, Location.between, Location.moved, Token.moved, Token.stop,
    Location.mk.injEq, true_and]
  omega

def EvaluationError.moved (text : String) (n : Nat) (error : EvaluationError) : EvaluationError :=
  { error with place? := error.place?.map (·.moved text n) }

def FormulaError.moved (text : String) (n : Nat) : FormulaError → FormulaError
  | parse error => parse { error with place := error.place.moved text n }
  | evaluation error => evaluation (error.moved text n)

namespace Formula

def moved (text : String) (n : Nat) : Formula → Formula
  | ref reference place? => ref reference (place?.map (·.moved text n))
  | apply op left right place? =>
    apply op (left.moved text n) (right.moved text n) (place?.map (·.moved text n))

variable {text : String} {n : Nat}

theorem place?_moved (f : Formula) : (f.moved text n).place? = f.place?.map (·.moved text n) := by
  cases f <;> rfl

theorem bare_moved (f : Formula) : (f.moved text n).bare = f.bare := by
  induction f with
  | ref reference place? => rfl
  | apply op left right place? leftIh rightIh => simp [moved, bare, leftIh, rightIh]

theorem moved_combine (op : Operator) (left right : Formula) :
    (combine op left right).moved text n = combine op (left.moved text n) (right.moved text n) := by
  rw [combine, combine, moved, place?_moved, place?_moved]
  cases left.place? with
  | none => rfl
  | some here =>
    cases right.place? with
    | none => rfl
    | some there => simp [joinPlaces, Location.moved_join]

end Formula

theorem Grammar.Builds.moved {text : String} {c : Category} {tokens : List Token} {f : Formula}
    (built : Builds text c tokens f) (other : String) (n : Nat) :
    Builds other c (tokens.map (·.moved n)) (f.moved other n) := by
  induction built with
  | named kind =>
    simp only [Formula.moved, Option.map_some, ← Token.place_moved]
    exact .named kind
  | file marked kind =>
    simp only [Formula.moved, Option.map_some, Location.moved_join, ← Token.place_moved]
    exact .file marked kind
  | group opens closes inside ih =>
    rw [List.map_cons, List.map_append]
    exact .group opens closes ih
  | single only ih => exact .single ih
  | more kind tier chain last chainIh lastIh =>
    rw [List.map_append, List.map_cons, Formula.moved_combine]
    exact .more kind tier chainIh lastIh

namespace Formula

variable {σ : Type} {resolver : Resolver σ} {f : Formula} {state : σ}

theorem Runs.moved {asked : List Reference} {outcome : Evaluation.Outcome σ}
    (runs : Runs resolver f state asked outcome) (text : String) (n : Nat) :
    Runs resolver (f.moved text n) state asked
      (outcome.1.mapError (·.moved text n), outcome.2) := by
  induction runs with
  | @ref reference place? state next answer found =>
    have same : (answer.mapError fun cause => EvaluationError.mk reference place? cause).mapError
        (·.moved text n) =
          answer.mapError fun cause => ⟨reference, place?.map (·.moved text n), cause⟩ := by
      cases answer <;> rfl
    rw [same]
    exact .ref found
  | stopped first ih => exact .stopped ih
  | @both op _ _ _ _ _ _ _ _ set result first second firstIh secondIh =>
    have same : (result.map (set.combine op)).mapError (·.moved text n) =
        (result.mapError (·.moved text n)).map (set.combine op) := by
      cases result <;> rfl
    rw [same]
    exact .both firstIh secondIh

end Formula
end RoleAlgebra
