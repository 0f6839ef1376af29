import RoleAlgebra.Yaml.Character

/-!
White space inside a scalar. While it is being read it is not yet known whether the scalar goes on,
so it is kept as a gap. Within a line the gap stands for itself; a gap that spans lines is folded.
-/

namespace RoleAlgebra.Yaml

/-- Blanks of the first line, and once a line has ended, its break and the breaks after it, latest
first. `broken` tells that a line has ended. -/
structure Gap where
  blanks : List Char
  broken : Bool
  first? : Option Char
  more : List Char
  deriving DecidableEq, Repr

namespace Gap

def none : Gap := ⟨[], false, .none, []⟩

def joined : Gap := ⟨[], true, .none, []⟩

def isNone (gap : Gap) : Bool := gap.blanks.isEmpty && !gap.broken

def add (gap : Gap) (c : Char) : Gap :=
  if isBreak c then
    if gap.broken then { gap with more := c :: gap.more } else ⟨[], true, some c, []⟩
  else if gap.broken then gap
  else { gap with blanks := c :: gap.blanks }

/-- What a gap adds to the text before it, both in reverse. A single line feed becomes a space, and
of several the first is dropped. -/
def onto (gap : Gap) (text : List Char) : List Char :=
  if gap.broken then
    match gap.first? with
    | some '\n' => if gap.more.isEmpty then ' ' :: text else gap.more ++ text
    | some c => gap.more ++ c :: text
    | .none => gap.more ++ text
  else gap.blanks ++ text

end Gap
end RoleAlgebra.Yaml
