import RoleAlgebra.Text.Digits

namespace RoleAlgebra.LogFilter

inductive Level where
  | off
  | error
  | warn
  | info
  | debug
  | trace
  deriving DecidableEq, Repr

namespace Level

def includesDebug : Level → Bool
  | debug | trace => true
  | _ => false

def ofNumber? : Nat → Option Level
  | 0 => some off
  | 1 => some error
  | 2 => some warn
  | 3 => some info
  | 4 => some debug
  | 5 => some trace
  | _ => none

def ofName? (name : String) : Option Level :=
  match name.toLower with
  | "off" => some off
  | "" | "error" => some error
  | "warn" => some warn
  | "info" => some info
  | "debug" => some debug
  | "trace" => some trace
  | _ => none

def ofText? (text : String) : Option Level :=
  let ds := match text.toList with
    | '+' :: ds => ds
    | ds => ds
  let number? := if ds.isEmpty || !ds.all Text.isDigit then none else ofNumber? (Text.digits ds)
  number?.orElse fun _ => ofName? text

end Level
end RoleAlgebra.LogFilter
