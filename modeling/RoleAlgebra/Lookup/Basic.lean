import RoleAlgebra.Diagnostic
import RoleAlgebra.PermissionSet
import RoleAlgebra.Reference

namespace RoleAlgebra

/-- Why a reference has no permissions. Besides a message and the reasons beneath it, it can carry
related failures: one for each place that was tried. -/
structure LookupError where
  message : String
  help? : Option String
  sources : List String
  related : List LookupError
  deriving Repr

namespace LookupError

def ofMessage (message : String) : LookupError := ⟨message, none, [], []⟩

def wrap (message : String) (sources : List String) : LookupError := ⟨message, none, sources, []⟩

def withHelp (help : String) (error : LookupError) : LookupError :=
  { error with help? := some help }

def withRelated (related : List LookupError) (error : LookupError) : LookupError :=
  { error with related }

def diagnostic : LookupError → Diagnostic
  | ⟨message, help?, sources, related⟩ =>
    ⟨message, some "permcalc::resolver", help?, [], sources, none, related.map diagnostic⟩

end LookupError

/-- A source of permissions, as a machine: an answer may depend on, and change, its state. -/
structure Resolver (σ : Type) where
  lookup : Reference → σ → Except LookupError PermissionSet × σ

end RoleAlgebra
