import RoleAlgebra.Text.Slice

namespace RoleAlgebra

structure Position where
  line : Nat
  column : Nat
  deriving DecidableEq, Repr

namespace Position

def first : Position := ⟨1, 1⟩

def past (position : Position) (c : Char) : Position :=
  if c = '\n' then ⟨position.line + 1, 1⟩ else ⟨position.line, position.column + 1⟩

/-- The position of byte `offset`. Offsets past the end count as the end, and so does an offset
inside a character. -/
def ofOffset (text : String) (offset : Nat) : Position :=
  let cs := text.toList
  let before := match Text.cut? offset cs with
    | some (before, _) => before
    | none => cs
  before.foldl past first

def twoDigits (n : Nat) : String :=
  if n < 10 then "0" ++ toString n else toString n

def shown (position : Position) : String :=
  "(" ++ twoDigits position.line ++ ":" ++ twoDigits position.column ++ ")"

end Position
end RoleAlgebra
