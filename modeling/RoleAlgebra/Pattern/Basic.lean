import RoleAlgebra.Text.Blank
import RoleAlgebra.Text.Digits

/-!
Patterns are regular expressions for texts. Here they are never matched: all that is asked of a
pattern is whether it is well formed and can be used. They are used without tables of the letters of
all scripts, and they describe texts and not bytes, so that which symbols can be used depends on the
modes in force.

A pattern stands between braces and holds no closing brace. Therefore a counted repetition and an
escape with braces are always unfinished, and nothing more is said of them.
-/

namespace RoleAlgebra.Pattern

structure Modes where
  ignoreCase : Bool
  unicode : Bool
  verbose : Bool
  deriving DecidableEq, Repr

namespace Modes

def standard : Modes := ⟨false, true, false⟩

/-- Whether letters are compared by tables for all scripts, which are not there. -/
def foldsLetters (modes : Modes) : Bool := modes.ignoreCase && modes.unicode

def skipFrom (comment : Bool) : List Char → List Char
  | [] => []
  | c :: rest =>
    if comment then skipFrom (c ≠ '\n') rest
    else if Text.isBlank c then skipFrom false rest
    else if c = '#' then skipFrom true rest
    else c :: rest

def skip (modes : Modes) (cs : List Char) : List Char :=
  if modes.verbose then skipFrom false cs else cs

end Modes

inductive Symbol where
  /-- A character, written as the number of a byte or otherwise. -/
  | literal (c : Char) (byte : Bool)
  | shorthand (negated : Bool)
  | anyChar
  | edge
  | wordEdge
  deriving DecidableEq, Repr

namespace Symbol

/-- Whether a symbol can be used. Without the Unicode mode all that could match a part of a
character is refused; with it, all that needs tables. -/
def isUsable (modes : Modes) : Symbol → Bool
  | literal c byte => !modes.foldsLetters && (modes.unicode || !byte || c < '\u0080')
  | shorthand negated => !modes.unicode && !negated
  | anyChar => modes.unicode
  | edge => true
  | wordEdge => !modes.unicode

def isMember (modes : Modes) : Symbol → Bool
  | literal c byte => (literal c byte).isUsable modes && (modes.unicode || c < '\u0080')
  | shorthand negated => (shorthand negated).isUsable modes
  | _ => false

end Symbol

def hexadecimal (modes : Modes) (value : Nat) : Nat → List Char → Option (Nat × List Char)
  | 0, cs => some (value, cs)
  | count + 1, cs =>
    match modes.skip cs with
    | [] => none
    | c :: rest => (Text.hexDigit? c).bind fun d => hexadecimal modes (value * 16 + d) count rest

def numbered (modes : Modes) (count : Nat) (cs : List Char) : Option (Symbol × List Char) :=
  (hexadecimal modes 0 count cs).bind fun (value, rest) =>
    if value.isValidChar then some (.literal (.ofNat value) (count = 2), rest) else none

/-- The symbol of a backslash and one character. Of the characters that are neither letters nor
digits all of ASCII but angle brackets stand for themselves. -/
def escaped? (c : Char) : Option Symbol :=
  if c = 'd' || c = 's' || c = 'w' then some (.shorthand false)
  else if c = 'D' || c = 'S' || c = 'W' then some (.shorthand true)
  else if c = 'A' || c = 'z' then some .edge
  else if c = 'b' || c = 'B' || c = '<' || c = '>' then some .wordEdge
  else if c = 'a' then some (.literal '\x07' false)
  else if c = 'f' then some (.literal '\x0c' false)
  else if c = 't' then some (.literal '\t' false)
  else if c = 'n' then some (.literal '\n' false)
  else if c = 'r' then some (.literal '\r' false)
  else if c = 'v' then some (.literal '\x0b' false)
  else if c.isAlphanum || '\u0080' ≤ c then none
  else some (.literal c false)

def escape (modes : Modes) : List Char → Option (Symbol × List Char)
  | [] => none
  | 'x' :: rest => numbered modes 2 rest
  | 'u' :: rest => numbered modes 4 rest
  | 'U' :: rest => numbered modes 8 rest
  | c :: rest => (escaped? c).map fun symbol => (symbol, rest)

abbrev Height : Type := Nat

/-- The height of some parts side by side; one part alone is nothing more. -/
def Height.ofParts : List Height → Height
  | [] => 0
  | [height] => height
  | heights => heights.foldl max 0 + 1

end RoleAlgebra.Pattern
