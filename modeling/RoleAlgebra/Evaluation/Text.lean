import RoleAlgebra.Evaluation.Basic
import RoleAlgebra.Parser.State

namespace RoleAlgebra

inductive FormulaError where
  | parse (error : ParseError)
  | evaluation (error : EvaluationError)
  deriving Repr

namespace FormulaError

def message : FormulaError → String
  | parse error => error.message
  | evaluation error => error.message

def sources : FormulaError → List String
  | parse _ => []
  | evaluation error => error.sources

def diagnostic : FormulaError → Diagnostic
  | parse error => error.diagnostic
  | evaluation error => error.diagnostic

end FormulaError

variable {σ : Type}

/-- Reads a text and evaluates it, reporting every step. Nothing is looked up if the text is no
formula. -/
def evaluateTextObserved (text : String) (resolver : Resolver σ) (observe : Step → σ → σ)
    (state : σ) : Except FormulaError PermissionSet × σ :=
  match Formula.parse text with
  | .error error => (.error (.parse error), state)
  | .ok f =>
    let (result, state) := f.evaluateObserved resolver observe state
    (result.mapError .evaluation, state)

def evaluateText (text : String) (resolver : Resolver σ) (state : σ) :
    Except FormulaError PermissionSet × σ :=
  evaluateTextObserved text resolver (fun _ state => state) state

end RoleAlgebra
