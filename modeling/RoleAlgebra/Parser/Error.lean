import RoleAlgebra.Diagnostic
import RoleAlgebra.Text.Location
import RoleAlgebra.Token.Basic

namespace RoleAlgebra

inductive Expected where
  | operand
  | closing
  deriving DecidableEq, Repr

def Expected.shown : Expected → String
  | operand => "a role name, `@` followed by a file path, or `(`"
  | closing => "`)` or an operator"

namespace ParseError

inductive Cause where
  | unrecognized (c : Char)
  | empty
  | unexpected (found : Token.Kind) (expected : Expected)
  | unexpectedEnd (expected : Expected)
  | unclosed
  | trailing (found : Token.Kind)
  | noFileName (found? : Option Token.Kind)
  deriving DecidableEq, Repr

namespace Cause

def message : Cause → String
  | unrecognized c => "unrecognized character `" ++ c.toString ++ "`"
  | empty => "formula is empty"
  | unexpected found expected =>
    "unexpected `" ++ found.shown ++ "`, expected " ++ expected.shown
  | unexpectedEnd expected => "unexpected end of formula, expected " ++ expected.shown
  | unclosed => "unclosed `(`"
  | trailing found => "unexpected `" ++ found.shown ++ "` after the end of the formula"
  | noFileName found? =>
    "expected a file path after `@`, found `" ++ Token.found found? ++ "`"

def code : Cause → String
  | unrecognized _ => "permcalc::parse::unrecognized_character"
  | empty => "permcalc::parse::empty_formula"
  | unexpected _ _ => "permcalc::parse::unexpected_token"
  | unexpectedEnd _ => "permcalc::parse::unexpected_end"
  | unclosed => "permcalc::parse::unclosed_paren"
  | trailing _ => "permcalc::parse::trailing_input"
  | noFileName _ => "permcalc::parse::missing_file_name"

def help? : Cause → Option String
  | unrecognized _ =>
    some "role names may only contain ASCII letters, digits, `_`, `/` and `.`"
  | empty => some "try a formula such as `roles/browser - roles/viewer`"
  | unexpected _ _ => none
  | unexpectedEnd _ => none
  | unclosed => some "add a matching `)` to close this group"
  | trailing _ =>
    some "join role references with one of `+`, `-`, `*` or `^`"
  | noFileName _ =>
    some "`@` reads a role from a file, as in `@roles/viewer.yaml`"

end Cause
end ParseError

structure ParseError where
  cause : ParseError.Cause
  place : Location
  deriving DecidableEq, Repr

namespace ParseError

def message (error : ParseError) : String := error.cause.message

def diagnostic (error : ParseError) : Diagnostic where
  message := error.message
  code? := some error.cause.code
  help? := error.cause.help?
  labels := [(error.place.start, error.place.length)]
  sources := []
  cause? := none
  related := []

def isLexical (error : ParseError) : Bool :=
  match error.cause with
  | .unrecognized _ => true
  | _ => false

end ParseError
end RoleAlgebra
