/-!
The characters of YAML streams, each with the place where it stands. Line ends are made alike
before anything else looks at them: a carriage return, with or without a line feed, and a next-line
character count as a line feed, while line and paragraph separators stay as they are.
-/

namespace RoleAlgebra.Yaml

/-- A character and its place. `index` counts the bytes of the stream before it. -/
structure Cell where
  char : Char
  index : Nat
  line : Nat
  column : Nat
  deriving DecidableEq, Repr

def byteOrderMark : Char := '\uFEFF'

def isReadable (c : Char) : Bool :=
  c = '\t' || c = '\n' || c = '\r' || (' ' ≤ c && c ≤ '~') || c = '\u0085' ||
    ('\u00A0' ≤ c && c ≤ '\uFFFD') || 0x10000 ≤ c.toNat

def isBreak (c : Char) : Bool := c = '\n' || c = '\u2028' || c = '\u2029'

def isBlank (c : Char) : Bool := c = ' ' || c = '\t'

def isSpacing (c : Char) : Bool := isBlank c || isBreak c

def cellsFrom (index line column : Nat) (made : List Cell) : List Char → List Cell
  | [] => made.reverse
  | '\r' :: '\n' :: rest =>
    cellsFrom (index + 2) (line + 1) 0 (⟨'\n', index, line, column⟩ :: made) rest
  | c :: rest =>
    if c = '\r' || c = '\u0085' || isBreak c then
      let seen := if isBreak c then c else '\n'
      cellsFrom (index + c.utf8Size) (line + 1) 0 (⟨seen, index, line, column⟩ :: made) rest
    else cellsFrom (index + c.utf8Size) line (column + 1) (⟨c, index, line, column⟩ :: made) rest

def cells (text : String) : List Cell := cellsFrom 0 0 0 [] text.toList

def atSpacing : List Cell → Bool
  | [] => true
  | cell :: _ => isSpacing cell.char

def atChar (p : Char → Bool) : List Cell → Bool
  | [] => false
  | cell :: _ => p cell.char

/-- Whether a line begins here with the mark of a document: three times the character, and then
spacing. -/
def atMark (c : Char) : List Cell → Bool
  | first :: second :: third :: rest =>
    first.column = 0 && first.char = c && second.char = c && third.char = c && atSpacing rest
  | _ => false

def atDocumentMark (cells : List Cell) : Bool := atMark '-' cells || atMark '.' cells

def isNameChar (c : Char) : Bool := c.isAlphanum || c = '_' || c = '-'

def isFlowIndicator (c : Char) : Bool :=
  c = ',' || c = '[' || c = ']' || c = '\x7b' || c = '\x7d'

def skipBlanks (cells : List Cell) : List Cell := cells.dropWhile fun cell => isBlank cell.char

def skipToLineEnd? (cells : List Cell) : Option (List Cell) :=
  let rest := skipBlanks cells
  let rest := if atChar (· = '#') rest then rest.dropWhile fun cell => !isBreak cell.char else rest
  match rest with
  | [] => some []
  | cell :: rest => if isBreak cell.char then some rest else none

end RoleAlgebra.Yaml
