import RoleAlgebra.Text.Decimal

namespace RoleAlgebra.Json

inductive Token where
  | openList
  | closeList
  | openMapping
  | closeMapping
  | comma
  | colon
  | string (text : String)
  | number (text : String)
  | null
  | bool (b : Bool)
  deriving DecidableEq, Repr

def isBlank (c : Char) : Bool := c = ' ' || c = '\n' || c = '\t' || c = '\r'

def sign? : Char → Option Token
  | '[' => some .openList
  | ']' => some .closeList
  | '\x7b' => some .openMapping
  | '\x7d' => some .closeMapping
  | ',' => some .comma
  | ':' => some .colon
  | _ => none

def isNumberChar (c : Char) : Bool :=
  Text.isDigit c || c = '-' || c = '+' || c = '.' || c = 'e' || c = 'E'

def isWordChar (c : Char) : Bool := 'a' ≤ c && c ≤ 'z'

def word? (cs : List Char) : Option Token :=
  if cs = ['n', 'u', 'l', 'l'] then some .null
  else if cs = ['t', 'r', 'u', 'e'] then some (.bool true)
  else if cs = ['f', 'a', 'l', 's', 'e'] then some (.bool false)
  else none

/-- The nearest number of 53 binary digits, ties to even. -/
def rounded (n : Nat) : Nat :=
  let unit := Nat.pow 2 (n.log2 + 1 - 53)
  let quotient := n / unit
  let excess := 2 * (n % unit)
  if excess > unit || (excess = unit && quotient % 2 = 1) then (quotient + 1) * unit
  else quotient * unit

def leadingDigits (n : Nat) : List Char → Nat × Nat
  | [] => (n, 0)
  | c :: cs =>
    if n * 10 + Text.digit c < Nat.pow 2 64 then leadingDigits (n * 10 + Text.digit c) cs
    else (n, cs.length + 1)

/-- Whether a number can be formed in double precision. It is formed as its leading digits times a
power of ten, each rounded before they are multiplied. -/
def isInRange (d : Text.Decimal) : Bool :=
  let (whole, skipped) := leadingDigits 0 d.whole
  let (significand, unread) := leadingDigits whole d.fraction
  let exponent : Int := d.exponent + skipped - (d.fraction.length - unread : Nat)
  if significand = 0 || exponent < 0 then true
  else exponent ≤ 308 &&
    rounded significand * rounded (Nat.pow 10 exponent.natAbs) < Text.Decimal.overflow

/-- A number has a digit on each side of its point, and no zero in front. -/
def isNumber (cs : List Char) : Bool :=
  let unsigned := match cs with
    | '-' :: cs => cs
    | cs => cs
  match Text.Decimal.ofChars? unsigned with
  | some d =>
    !d.whole.isEmpty && (d.whole.length = 1 || d.whole.head? ≠ some '0') &&
      d.fraction? ≠ some [] && isInRange d
  | none => false

def escape? : Char → Option Char
  | '"' => some '"'
  | '\\' => some '\\'
  | '/' => some '/'
  | 'b' => some '\x08'
  | 'f' => some '\x0c'
  | 'n' => some '\n'
  | 'r' => some '\r'
  | 't' => some '\t'
  | _ => none

/-- Where a string is between two of its characters. A character beyond 16 bits is escaped as a
pair of units; `high?` is the first unit of a pair. -/
inductive Inside where
  | plain
  | escaped
  | unit (read : Nat) (value : Nat) (high? : Option Nat)
  | awaitBackslash (high : Nat)
  | awaitMark (high : Nat)
  deriving DecidableEq, Repr

def unit? (value : Nat) (high? : Option Nat) (text : List Char) : Option (Inside × List Char) :=
  match high? with
  | some high =>
    if 0xDC00 ≤ value && value ≤ 0xDFFF then
      some (.plain, .ofNat (0x10000 + (high - 0xD800) * 0x400 + (value - 0xDC00)) :: text)
    else none
  | none =>
    if 0xD800 ≤ value && value ≤ 0xDBFF then some (.awaitBackslash value, text)
    else if 0xDC00 ≤ value && value ≤ 0xDFFF then none
    else some (.plain, .ofNat value :: text)

inductive Lexer where
  | between
  | inString (inside : Inside) (text : List Char)
  | inNumber (text : List Char)
  | inWord (text : List Char)
  deriving DecidableEq, Repr

namespace Lexer

def close (tokens : List Token) : Lexer → Option (List Token)
  | between => some tokens
  | inString _ _ => none
  | inNumber text =>
    if isNumber text.reverse then some (.number (String.ofList text.reverse) :: tokens) else none
  | inWord text => (word? text.reverse).map (· :: tokens)

def start (tokens : List Token) (c : Char) : Option (Lexer × List Token) :=
  if isBlank c then some (between, tokens)
  else if c = '"' then some (inString .plain [], tokens)
  else if Text.isDigit c || c = '-' then some (inNumber [c], tokens)
  else if isWordChar c then some (inWord [c], tokens)
  else (sign? c).map fun token => (between, token :: tokens)

def inside (inside : Inside) (text : List Char) (tokens : List Token) (c : Char) :
    Option (Lexer × List Token) :=
  match inside with
  | .plain =>
    if c = '"' then some (between, .string (String.ofList text.reverse) :: tokens)
    else if c = '\\' then some (inString .escaped text, tokens)
    else if c < ' ' then none
    else some (inString .plain (c :: text), tokens)
  | .escaped =>
    if c = 'u' then some (inString (.unit 0 0 none) text, tokens)
    else (escape? c).map fun c => (inString .plain (c :: text), tokens)
  | .unit read value high? =>
    (Text.hexDigit? c).bind fun digit =>
      if read = 3 then
        (unit? (value * 16 + digit) high? text).map fun (inside, text) =>
          (inString inside text, tokens)
      else some (inString (.unit (read + 1) (value * 16 + digit) high?) text, tokens)
  | .awaitBackslash high =>
    if c = '\\' then some (inString (.awaitMark high) text, tokens) else none
  | .awaitMark high =>
    if c = 'u' then some (inString (.unit 0 0 (some high)) text, tokens) else none

def step (lexer : Lexer) (tokens : List Token) (c : Char) : Option (Lexer × List Token) :=
  match lexer with
  | .inString here text => inside here text tokens c
  | .inNumber text =>
    if isNumberChar c then some (inNumber (c :: text), tokens)
    else (close tokens lexer).bind fun tokens => start tokens c
  | .inWord text =>
    if isWordChar c then some (inWord (c :: text), tokens)
    else (close tokens lexer).bind fun tokens => start tokens c
  | .between => start tokens c

def readFrom (lexer : Lexer) (tokens : List Token) : List Char → Option (List Token)
  | [] => (close tokens lexer).map List.reverse
  | c :: rest =>
    match step lexer tokens c with
    | some (lexer, tokens) => readFrom lexer tokens rest
    | none => none

end Lexer

def tokens? (text : String) : Option (List Token) := Lexer.between.readFrom [] text.toList

end RoleAlgebra.Json
