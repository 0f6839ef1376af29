import RoleAlgebra.Yaml.Character
import RoleAlgebra.Yaml.Scalar

namespace RoleAlgebra.Yaml.Writer

def isPrintable (c : Char) : Bool :=
  c = '\n' || (' ' ≤ c && c ≤ '~') ||
    ('\u00A0' ≤ c && c ≠ byteOrderMark && c ≠ '\uFFFE' && c ≠ '\uFFFF')

def pairs (cs : List Char) : List (Char × Char) := cs.zip cs.tail

def needsEscapes (cs : List Char) : Bool :=
  cs.any (fun c => !isPrintable c) || (pairs cs).any fun (c, d) => c = ' ' && isBreak d

def hasIndentedLine (cs : List Char) : Bool := (pairs cs).any fun (c, d) => isBreak c && d = ' '

def endsIn (p : Char → Bool) (cs : List Char) : Bool := cs.getLast?.any p

def beginsWithIndicator : List Char → Bool
  | '-' :: '-' :: '-' :: _ => true
  | '.' :: '.' :: '.' :: _ => true
  | c :: rest =>
    "#,[]\x7b\x7d&*!|>'\"%@`".contains c ||
      ((c = '?' || c = ':' || c = '-') && rest.head?.all isSpacing)
  | [] => false

def hasIndicator (cs : List Char) : Bool :=
  endsIn (· = ':') cs ||
    (pairs cs).any fun (c, d) => (c = ':' && isSpacing d) || (isSpacing c && d = '#')

def isPlain (cs : List Char) : Bool :=
  !needsEscapes cs && !cs.any isBreak && cs.head? ≠ some ' ' && !endsIn (· = ' ') cs &&
    !beginsWithIndicator cs && !hasIndicator cs

def isAmbiguous (text : String) : Bool :=
  match Scalar.plain? text with
  | some (.string _) => Scalar.isPadded text.toList
  | _ => true

inductive Style where
  | plain
  | single
  | double
  | literal
  deriving DecidableEq, Repr

def style (text : String) : Style :=
  let cs := text.toList
  if cs.contains '\n' then
    if needsEscapes cs || endsIn (· = ' ') cs then .double else .literal
  else if isPlain cs && !isAmbiguous text then .plain
  else if needsEscapes cs || hasIndentedLine cs then .double
  else .single

/-- Characters with every line after the first indented, after some in reverse. `fresh` tells that a
line has just ended. -/
def indentFrom (fresh : Bool) (written : List Char) : List Char → List Char
  | [] => written.reverse
  | c :: rest =>
    if isBreak c then indentFrom true (c :: written) rest
    else if fresh then indentFrom false (c :: ' ' :: ' ' :: written) rest
    else indentFrom false (c :: written) rest

def upperHex (n : Nat) : Char := (Nat.digitChar n).toUpper

def hexDigits : (count : Nat) → Nat → List Char
  | 0, _ => []
  | count + 1, n => hexDigits count (n / 16) ++ [upperHex (n % 16)]

def escape (c : Char) : List Char :=
  match c with
  | '\x00' => ['0']
  | '\x07' => ['a']
  | '\x08' => ['b']
  | '\t' => ['t']
  | '\n' => ['n']
  | '\x0b' => ['v']
  | '\x0c' => ['f']
  | '\r' => ['r']
  | '\x1b' => ['e']
  | '\u0085' => ['N']
  | '\u2028' => ['L']
  | '\u2029' => ['P']
  | c =>
    if c = '"' || c = '\\' then [c]
    else if c.toNat ≤ 0xFF then 'x' :: hexDigits 2 c.toNat
    else if c.toNat ≤ 0xFFFF then 'u' :: hexDigits 4 c.toNat
    else 'U' :: hexDigits 8 c.toNat

def doubleQuoted (cs : List Char) : List Char :=
  ['"'] ++ cs.flatMap (fun c =>
    if !isPrintable c || isBreak c || c = '"' || c = '\\' then '\\' :: escape c else [c]) ++ ['"']

def singleQuoted (cs : List Char) : List Char :=
  let doubled := cs.flatMap fun c => if c = '\'' then ['\'', '\''] else [c]
  ['\''] ++ indentFrom false [] doubled ++ (if endsIn isBreak cs then [' ', ' '] else []) ++ ['\'']

/-- What the header of a literal block says: how far it is indented, if its first line does not
show it, and what becomes of the line ends after its last line. -/
def hints (cs : List Char) : List Char :=
  let indent := if cs.head?.any fun c => c = ' ' || isBreak c then ['2'] else []
  let chomp := match cs.reverse with
    | last :: rest =>
      if !isBreak last then ['-'] else if rest.head?.all isBreak then ['+'] else []
    | [] => ['-']
  indent ++ chomp

def literal (cs : List Char) : List Char := ['|'] ++ hints cs ++ ['\n'] ++ indentFrom true [] cs

def item (text : String) : List Char :=
  let cs := text.toList
  match style text with
  | .plain => cs ++ ['\n']
  | .single => singleQuoted cs ++ ['\n']
  | .double => doubleQuoted cs ++ ['\n']
  | .literal => literal cs ++ if endsIn isBreak cs then [] else ['\n']

def sequence (texts : List String) : String :=
  if texts.isEmpty then "[]\n"
  else String.ofList (texts.flatMap fun text => ['-', ' '] ++ item text)

end RoleAlgebra.Yaml.Writer
