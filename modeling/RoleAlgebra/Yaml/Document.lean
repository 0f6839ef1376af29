import RoleAlgebra.Text.Utf8
import RoleAlgebra.Yaml.Node
import RoleAlgebra.Yaml.Scalar

namespace RoleAlgebra.Yaml

def isLocal (tag : TagText) : Bool :=
  tag.head? = some 0x21 && (match Text.Utf8.decode tag with
    | .ok _ => true
    | .error _ => false)

def coreTag (name : String) : TagText := Handles.core ++ bytesOf name.toList

namespace Scalar

/-- The value of a scalar with a tag. The tags of the core schema ask for their types; a tag that is
no text is as good as none; with all other tags a scalar is its text. -/
def tagged? (tag : TagText) (plain : Bool) (text : String) : Option Value :=
  if isLocal tag then none
  else if tag = coreTag "bool" then (bool? text).map .bool
  else if tag = coreTag "int" then (integer? text.toList).bind (ofInteger? text)
  else if tag = coreTag "float" then (real? text.toList).map (ofReal text)
  else if tag = coreTag "null" then if isNull text then some .null else none
  else if tag.head? = some 0x21 && plain then plain? text
  else some (.string text)

def value? (tag? : Option TagText) (plain : Bool) (text : String) : Option Value :=
  match tag? with
  | some tag => tagged? tag plain text
  | none => if plain then plain? text else some (.string text)

end Scalar

namespace Document

def maxJumps (document : Document) : Nat := 100 * document.parts

def follow (document : Document) : Node → StateT Nat Option Node
  | .aliasOf number => do
    let jumps := (← get) + 1
    if jumps > document.maxJumps then failure
    set jumps
    match document.anchors.node? number with
    | some node => return node
    | none => failure
  | node => return node

def keyText (document : Document) (key : Node) : StateT Nat Option String := do
  match ← document.follow key with
  | .scalar _ _ text => return text
  | _ => failure

def untagged (tag? : Option TagText) : StateT Nat Option Unit :=
  if tag?.any isLocal then failure else return

def valueOf (document : Document) (depth : Nat) (node : Node) : StateT Nat Option Value := do
  match ← document.follow node, depth with
  | .scalar tag? plain text, _ =>
    match Scalar.value? tag? plain text with
    | some value => return value
    | none => failure
  | .sequence tag? items, depth + 1 =>
    untagged tag?
    return .list (← items.mapM (document.valueOf depth))
  | .mapping tag? entries, depth + 1 =>
    untagged tag?
    return .mapping (← entries.mapM fun (key, value) =>
      return (← document.keyText key, ← document.valueOf depth value))
  | _, _ => failure

def value? (document : Document) : Option Value :=
  ((document.valueOf maxDepth document.node).run 0).map (·.1)

end Document

def decode (bytes : List UInt8) : Option Value :=
  match Text.Utf8.decode bytes with
  | .ok text => ((tokens? text).bind Document.only?).bind Document.value?
  | .error _ => none

end RoleAlgebra.Yaml
