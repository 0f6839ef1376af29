import RoleAlgebra.LogFilter.Level
import RoleAlgebra.Pattern.Reader
import RoleAlgebra.Text.Decimal
import RoleAlgebra.Text.Slice

/-!
Directives: each gives a level for the events whose target begins with a text, or that have a field.
A directive is read character by character. The offsets of its parts are counted without the white
space around it, but the parts are then taken from the whole text, so that white space in front
moves them all; a part that would begin or end within a character cannot be taken at all.
-/

namespace RoleAlgebra.LogFilter

structure Directive where
  target? : Option String
  field? : Option String
  level : Level
  deriving DecidableEq, Repr

namespace Directive

inductive Fault where
  | malformed
  /-- A part of it would begin or end within a character. -/
  | brokenCharacter
  deriving DecidableEq, Repr

inductive Inside where
  | start
  | name
  | span (start : Nat)
  | field (start : Nat)
  | afterField
  | afterSpan
  | level (start : Nat)
  deriving DecidableEq, Repr

structure Draft where
  inside : Inside
  target? : Option String
  field? : Option String
  spanned : Bool
  deriving DecidableEq, Repr

def isNumber (text : String) : Bool :=
  let unsigned := match text.toList with
    | '+' :: rest => rest
    | '-' :: rest => rest
    | cs => cs
  ["inf", "infinity", "nan"].contains (String.ofList unsigned).toLower ||
    (Text.Decimal.ofChars? unsigned).any fun d => !d.whole.isEmpty || !d.fraction.isEmpty

/-- Whether a field can be asked for. Between its name and a second equals sign it may have a value,
which is a number or a pattern. -/
def isField (field : String) : Bool :=
  match field.splitOn "=" with
  | "" :: [] => false
  | _ :: value :: _ => isNumber value || Pattern.isValid value
  | _ => true

namespace Draft

def empty : Draft := ⟨.start, none, none, false⟩

def mayBegin (c : Char) : Bool := Text.isAlphanumeric c || c = '-' || c = ':' || c = '_'

def part (text : String) (start stop : Nat) : Except Fault String :=
  match Text.slice? text start stop with
  | some part => .ok part
  | none => .error .brokenCharacter

/-- Reads the character at an offset. What lies between two characters is taken from `text`. -/
def step (text : String) (draft : Draft) (offset : Nat) (c : Char) : Except Fault Draft :=
  match draft.inside with
  | .start =>
    if c = '[' then .ok { draft with inside := .span (offset + 1) }
    else if mayBegin c then .ok { draft with inside := .name }
    else .error .malformed
  | .name =>
    if c = '=' then
      (part text 0 offset).map fun target =>
        { draft with inside := .level (offset + 1), target? := some target }
    else if c = '[' then
      (part text 0 offset).map fun target =>
        { draft with inside := .span (offset + 1), target? := some target }
    else .ok draft
  | .span start =>
    if c = ']' then
      (part text start offset).map fun _ => { draft with inside := .afterSpan, spanned := true }
    else if c = '\x7b' then
      (part text start offset).map fun span =>
        { draft with inside := .field (offset + 1), spanned := span ≠ "" }
    else .ok draft
  | .field start =>
    if c ≠ '\x7d' then .ok draft
    else (part text start offset).bind fun field =>
      if isField field then .ok { draft with inside := .afterField, field? := some field }
      else .error .malformed
  | .afterField =>
    if c = ']' then .ok { draft with inside := .afterSpan } else .error .malformed
  | .afterSpan =>
    if c = '=' then .ok { draft with inside := .level (offset + 1) } else .error .malformed
  | .level _ => .ok draft

def walk (text : String) (draft : Draft) (offset : Nat) : List Char → Except Fault Draft
  | [] => .ok draft
  | c :: rest =>
    (step text draft offset c).bind fun draft => walk text draft (offset + c.utf8Size) rest

/-- The directive of a draft with its level. One that asks for a span, or for the value of a field,
is well formed but concerns no event here. -/
def finish (draft : Draft) (level : Level) : Option Directive :=
  if draft.spanned || draft.field?.any (·.contains '=') then none
  else some ⟨draft.target?, draft.field?, level⟩

end Draft

/-- The level that a directive ends with. Nothing after the equals sign means every level. -/
def lastLevel (text : String) : Except Fault Level :=
  if text = "" then .ok .trace
  else match Level.ofText? text with
    | some level => .ok level
    | none => .error .malformed

def read (text : String) : Except Fault (Option Directive) :=
  let trimmed := Text.trimEnd (text.toList.dropWhile Text.isBlank)
  (Draft.empty.walk text 0 trimmed).bind fun draft =>
    match draft.inside with
    | .name =>
      match Level.ofText? text with
      | some level => .ok (some ⟨none, none, level⟩)
      | none => .ok (some ⟨some text, none, .trace⟩)
    | .level start =>
      ((Draft.part text start text.utf8ByteSize).bind lastLevel).map draft.finish
    | .afterSpan => .ok (draft.finish .trace)
    | _ => .error .malformed

end Directive
end RoleAlgebra.LogFilter
