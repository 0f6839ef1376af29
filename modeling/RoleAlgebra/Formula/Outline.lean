import RoleAlgebra.Formula.Nodes

namespace RoleAlgebra.Formula

def Label.line : Label → String
  | .ref reference => reference.origin.rule ++ "\t" ++ reference.id
  | .op operator => operator.rule

def Node.line (indent : String) (node : Node) : String :=
  String.join (List.replicate node.depth indent) ++ node.label.line ++ "\n"

def outline (indent : String) (f : Formula) : String :=
  String.join (f.nodes.map (·.line indent))

end RoleAlgebra.Formula
