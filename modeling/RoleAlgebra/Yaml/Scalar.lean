import RoleAlgebra.Document.Value
import RoleAlgebra.Text.Decimal

namespace RoleAlgebra.Yaml.Scalar

def isNull (text : String) : Bool := ["null", "Null", "NULL", "~"].contains text

def bool? (text : String) : Option Bool :=
  if ["true", "True", "TRUE"].contains text then some true
  else if ["false", "False", "FALSE"].contains text then some false
  else none

/-- Integers that fit into 64 bits are numbers; larger ones up to 128 bits are known as integers but
cannot be held. -/
inductive Size where
  | fits
  | tooLarge
  deriving DecidableEq, Repr

def Size.ofNat? (n : Nat) : Option Size :=
  if n < Nat.pow 2 64 then some .fits else if n < Nat.pow 2 128 then some .tooLarge else none

def Size.ofNeg? (n : Nat) : Option Size :=
  if n ≤ Nat.pow 2 63 then some .fits else if n ≤ Nat.pow 2 127 then some .tooLarge else none

def natOf? (base : Nat) (cs : List Char) : Option Nat :=
  let value? (c : Char) := (Text.hexDigit? c).filter (· < base)
  if cs.isEmpty || !cs.all (fun c => (value? c).isSome) then none
  else some (cs.foldl (fun n c => n * base + (value? c).getD 0) 0)

def based? : List Char → Option Nat
  | '0' :: 'x' :: cs => natOf? 16 cs
  | '0' :: 'o' :: cs => natOf? 8 cs
  | '0' :: 'b' :: cs => natOf? 2 cs
  | _ => none

/-- Whether digits, after a sign, begin with a zero that others follow. Such a text is no number. -/
def isPadded (cs : List Char) : Bool :=
  let ds := match cs with
    | '-' :: ds => ds
    | '+' :: ds => ds
    | ds => ds
  ds.length > 1 && ds.head? = some '0' && ds.all Text.isDigit

def integer? (cs : List Char) : Option Size :=
  let decimal? (ds : List Char) := if isPadded cs then none else natOf? 10 ds
  match cs with
  | '-' :: ds => ((based? ds).orElse fun _ => decimal? ds).bind Size.ofNeg?
  | '+' :: ds => ((based? ds).orElse fun _ => decimal? ds).bind Size.ofNat?
  | ds => ((based? ds).orElse fun _ => decimal? ds).bind Size.ofNat?

def isInfinity (cs : List Char) : Bool := [".inf", ".Inf", ".INF"].contains (String.ofList cs)

def isNan (cs : List Char) : Bool := [".nan", ".NaN", ".NAN"].contains (String.ofList cs)

def isFinite (cs : List Char) : Bool :=
  match Text.Decimal.ofChars? cs with
  | some d => !(d.whole.isEmpty && d.fraction.isEmpty) && d.isFinite
  | none => false

inductive Real where
  | finite
  /-- An infinity, or no number at all; documents cannot hold these. -/
  | special
  deriving DecidableEq, Repr

def real? (cs : List Char) : Option Real :=
  let unsigned := match cs with
    | '-' :: ds => ds
    | '+' :: ds => ds
    | ds => ds
  if isInfinity unsigned || isNan cs then some .special
  else if isFinite unsigned then some .finite
  else none

def ofInteger? (text : String) : Size → Option Value
  | .fits => some (.number text)
  | .tooLarge => none

def ofReal (text : String) : Real → Value
  | .finite => .number text
  | .special => .null

/-- The value of a plain scalar without a tag. Nothing if it is an integer out of range. -/
def plain? (text : String) : Option Value :=
  let cs := text.toList
  if text = "" || isNull text then some .null
  else match bool? text with
    | some b => some (.bool b)
    | none =>
      match integer? cs with
      | some size => ofInteger? text size
      | none =>
        match if isPadded cs then none else real? cs with
        | some real => some (ofReal text real)
        | none => some (.string text)

end RoleAlgebra.Yaml.Scalar
