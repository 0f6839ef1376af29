import RoleAlgebra.Document.Value
import RoleAlgebra.Json.Printer
import RoleAlgebra.Lookup.Basic
import RoleAlgebra.Text.Blank

namespace RoleAlgebra

/-- A named list of permissions, in the order they were listed. -/
structure Role where
  name : String
  permissions : List String
  name_ne_empty : name ≠ ""
  deriving DecidableEq

inductive RoleError where
  | noName
  | nameNotString
  | permissionsNotStrings
  | notAMapping
  /-- A line with anything but one permission; lines count from one. -/
  | badLine (line : Nat) (text : String)
  deriving DecidableEq, Repr

namespace RoleError

def message : RoleError → String
  | noName => "role has no name!"
  | nameNotString => "name is not a string"
  | permissionsNotStrings => "includedPermissions is not a list of string"
  | notAMapping => "role description is not a mapping"
  | badLine line text => "at line " ++ toString line ++ ", invalid permission line " ++ text

def code : RoleError → String
  | noName => "permcalc::role::no_name"
  | nameNotString => "permcalc::role::name"
  | permissionsNotStrings => "permcalc::role::included_permissions"
  | notAMapping => "permcalc::role::not_a_mapping"
  | badLine _ _ => "permcalc::role::permission_line"

def help? : RoleError → Option String
  | notAMapping => some "a role has the keys `name` and `includedPermissions`"
  | badLine _ _ => some "text role files list one permission per line"
  | _ => none

def diagnostic (error : RoleError) : Diagnostic :=
  ⟨error.message, some error.code, error.help?, [], [], none, []⟩

def lookupError (error : RoleError) : LookupError :=
  .wrap ("invalid role: " ++ error.message) [error.message]

end RoleError

namespace Role

def create (name : String) (permissions : List String) : Except RoleError Role :=
  if named : name = "" then .error .noName else .ok ⟨name, permissions, named⟩

def set (role : Role) : PermissionSet := .ofList role.permissions

def permissionsKey : String := "includedPermissions"

def listedPermissions (entries : List (String × Value)) : Except RoleError (List String) :=
  match Value.lookup? permissionsKey entries with
  | none => .ok []
  | some (.list items) =>
    match Value.strings? items with
    | some texts => .ok texts
    | none => .error .permissionsNotStrings
  | some _ => .error .permissionsNotStrings

/-- The role that a document describes. Keys other than the two are ignored. -/
def ofValue : Value → Except RoleError Role
  | .mapping entries =>
    match Value.lookup? "name" entries with
    | some (.string name) =>
      match listedPermissions entries with
      | .ok permissions => create name permissions
      | .error error => .error error
    | _ => .error .nameNotString
  | _ => .error .notAMapping

def toValue (role : Role) : Value :=
  .mapping [("name", .string role.name),
    (permissionsKey, .list (role.permissions.map .string))]

def json (role : Role) : String :=
  Json.mapping [("name", Json.quoted role.name), (permissionsKey, Json.list role.permissions)]

/-- The permissions of numbered lines after those already found, latest first. White space at the
end of a line is dropped, and empty lines are skipped. -/
def permissionsFrom (number : Nat) (found : List String) :
    List (List Char) → Except RoleError (List String)
  | [] => .ok found.reverse
  | line :: rest =>
    let text := Text.trimEnd line
    if text = [] then permissionsFrom (number + 1) found rest
    else if text.any Text.isBlank then .error (.badLine number (String.ofList text))
    else permissionsFrom (number + 1) (String.ofList text :: found) rest

def ofLines (name body : String) : Except RoleError Role :=
  match permissionsFrom 1 [] (Text.fileLines body.toList) with
  | .ok permissions => create name permissions
  | .error error => .error error

theorem ofValue_toValue (role : Role) : ofValue role.toValue = .ok role := by
  simp [ofValue, toValue, listedPermissions, Value.lookup?, permissionsKey, create,
    role.name_ne_empty]

end Role

def PermissionSet.ofRole (role : Role) : PermissionSet := .ofList role.permissions

end RoleAlgebra
