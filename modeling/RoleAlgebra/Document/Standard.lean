import RoleAlgebra.Json.Document
import RoleAlgebra.RoleFile
import RoleAlgebra.Yaml.Document

namespace RoleAlgebra

/-- A reader that says nothing of why bytes are no document, as one that does. -/
def Decoder.ofReader (message : String) (read : List UInt8 → Option Value) : Decoder :=
  fun bytes => (read bytes).elim (.error ⟨message, []⟩) .ok

def Decoders.standard : Decoders :=
  ⟨.ofReader "not a YAML document" Yaml.decode, .ofReader "not a JSON document" Json.decode⟩

end RoleAlgebra
