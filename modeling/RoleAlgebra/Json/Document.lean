import RoleAlgebra.Document.Value
import RoleAlgebra.Json.Token
import RoleAlgebra.Text.Utf8

namespace RoleAlgebra.Json

/-- A list or mapping that is still open, with what it holds so far in reverse. -/
inductive Frame where
  | list (items : List Value)
  | mapping (entries : List (String × Value)) (key : String)
  deriving Repr

inductive Expect where
  | value
  | item
  | entry
  | key (entries : List (String × Value))
  | colon (entries : List (String × Value)) (key : String)
  | follow (value : Value)
  deriving Repr

def maxDepth : Nat := 127

structure Reader where
  expect : Expect
  frames : List Frame
  depth : Nat
  deriving Repr

namespace Reader

def start : Reader := ⟨.value, [], 0⟩

def value (frames : List Frame) (depth : Nat) : Token → Option Reader
  | .null => some ⟨.follow .null, frames, depth⟩
  | .bool b => some ⟨.follow (.bool b), frames, depth⟩
  | .number text => some ⟨.follow (.number text), frames, depth⟩
  | .string text => some ⟨.follow (.string text), frames, depth⟩
  | .openList => if depth < maxDepth then some ⟨.item, frames, depth + 1⟩ else none
  | .openMapping => if depth < maxDepth then some ⟨.entry, frames, depth + 1⟩ else none
  | _ => none

def step (reader : Reader) (token : Token) : Option Reader :=
  let ⟨expect, frames, depth⟩ := reader
  match expect, frames, token with
  | .value, frames, token => value frames depth token
  | .item, frames, .closeList => some ⟨.follow (.list []), frames, depth - 1⟩
  | .item, frames, token => value (.list [] :: frames) depth token
  | .entry, frames, .closeMapping => some ⟨.follow (.mapping []), frames, depth - 1⟩
  | .entry, frames, .string key => some ⟨.colon [] key, frames, depth⟩
  | .key entries, frames, .string key => some ⟨.colon entries key, frames, depth⟩
  | .colon entries key, frames, .colon => some ⟨.value, .mapping entries key :: frames, depth⟩
  | .follow v, .list items :: frames, .comma => some ⟨.value, .list (v :: items) :: frames, depth⟩
  | .follow v, .list items :: frames, .closeList =>
    some ⟨.follow (.list (v :: items).reverse), frames, depth - 1⟩
  | .follow v, .mapping entries key :: frames, .comma =>
    some ⟨.key ((key, v) :: entries), frames, depth⟩
  | .follow v, .mapping entries key :: frames, .closeMapping =>
    some ⟨.follow (.mapping ((key, v) :: entries).reverse), frames, depth - 1⟩
  | _, _, _ => none

def finish : Reader → Option Value
  | ⟨.follow v, [], _⟩ => some v
  | _ => none

def readFrom (reader : Reader) : List Token → Option Value
  | [] => reader.finish
  | token :: rest =>
    match reader.step token with
    | some next => readFrom next rest
    | none => none

end Reader

def ofTokens? (tokens : List Token) : Option Value := Reader.start.readFrom tokens

def decode (bytes : List UInt8) : Option Value :=
  match Text.Utf8.decode bytes with
  | .ok text => (tokens? text).bind ofTokens?
  | .error _ => none

end RoleAlgebra.Json
