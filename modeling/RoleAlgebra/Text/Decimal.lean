import RoleAlgebra.Text.Digits

namespace RoleAlgebra.Text

structure Decimal where
  whole : List Char
  fraction? : Option (List Char)
  exponent : Int
  deriving DecidableEq, Repr

namespace Decimal

def fraction (d : Decimal) : List Char := d.fraction?.getD []

def exponent? (cs : List Char) : Option Int :=
  let value (ds : List Char) := if !ds.isEmpty && ds.all isDigit then some (digits ds) else none
  match cs with
  | '-' :: ds => (value ds).map fun n => -(n : Int)
  | '+' :: ds => (value ds).map fun n => (n : Int)
  | ds => (value ds).map fun n => (n : Int)

/-- Divides a numeral into its parts. The digits on either side of the point may be missing. -/
def ofChars? (cs : List Char) : Option Decimal :=
  let whole := cs.takeWhile isDigit
  let rest := cs.dropWhile isDigit
  let (fraction?, rest) := match rest with
    | '.' :: rest => (some (rest.takeWhile isDigit), rest.dropWhile isDigit)
    | rest => (none, rest)
  match rest with
  | [] => some ⟨whole, fraction?, 0⟩
  | mark :: rest =>
    if mark = 'e' || mark = 'E' then
      (exponent? rest).map fun exponent => ⟨whole, fraction?, exponent⟩
    else none

/-- From here on a number is nearer to the power of two that double precision cannot hold. -/
def overflow : Nat := Nat.pow 2 1024 - Nat.pow 2 970

/-- Whether `n` times a power of ten stays below the overflow. The number of digits settles all but
the exponents close to the bound. -/
def scaledFits (n : Nat) (exponent : Int) : Bool :=
  let magnitude := (Nat.toDigits 10 n).length + exponent
  if n = 0 || magnitude < 300 then true
  else if magnitude > 310 then false
  else if exponent < 0 then n < overflow * Nat.pow 10 exponent.natAbs
  else n * Nat.pow 10 exponent.natAbs < overflow

def isFinite (d : Decimal) : Bool :=
  scaledFits (digits (d.whole ++ d.fraction)) (d.exponent - d.fraction.length)

end Decimal
end RoleAlgebra.Text
