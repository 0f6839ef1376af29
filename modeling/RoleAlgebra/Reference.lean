namespace RoleAlgebra

inductive Origin where
  | named
  | file
  deriving DecidableEq, Repr

namespace Origin

def name : Origin → String
  | named => "named"
  | file => "file"

def rule : Origin → String
  | named => "role_expr"
  | file => "file_expr"

def step : Origin → String
  | named => "role"
  | file => "file"

end Origin

structure Reference where
  origin : Origin
  id : String
  deriving DecidableEq, Repr

end RoleAlgebra
