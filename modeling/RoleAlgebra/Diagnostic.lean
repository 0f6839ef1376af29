namespace RoleAlgebra

/-- An error of the system or of a reader of documents, as it tells of itself: its message, and
those of the errors beneath it, nearest first. -/
structure ForeignError where
  message : String
  sources : List String
  deriving DecidableEq, Repr

def ForeignError.chain (error : ForeignError) : List String := error.message :: error.sources

/-- A failure as it is reported. `labels` are stretches of the formula, as offset and length;
`sources` is the chain of reasons, nearest first. -/
structure Diagnostic where
  message : String
  code? : Option String
  help? : Option String
  labels : List (Nat × Nat)
  sources : List String
  cause? : Option Diagnostic
  related : List Diagnostic
  deriving Repr

def Diagnostic.lines (report : Diagnostic) : List String :=
  [report.message] ++ report.sources.map ("  caused by: " ++ ·) ++
    (report.help?.map ("  help: " ++ ·)).toList

end RoleAlgebra
