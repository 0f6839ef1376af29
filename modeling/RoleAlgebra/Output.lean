import RoleAlgebra.Json.Printer
import RoleAlgebra.PermissionSet
import RoleAlgebra.Yaml.Writer

namespace RoleAlgebra

inductive OutputFormat where
  | json
  | yaml
  | text
  deriving DecidableEq, Repr

namespace OutputFormat

def name : OutputFormat → String
  | json => "json"
  | yaml => "yaml"
  | text => "text"

def all : List OutputFormat := [json, yaml, text]

def ofName? (name : String) : Option OutputFormat := all.find? (·.name = name)

end OutputFormat

/-- The permissions in order. As text they stand on a line each, so that an empty set is written as
nothing at all. -/
def PermissionSet.render (set : PermissionSet) : OutputFormat → String
  | .json => Json.list set.toList ++ "\n"
  | .yaml => Yaml.Writer.sequence set.toList
  | .text => String.join (set.toList.map (· ++ "\n"))

end RoleAlgebra
