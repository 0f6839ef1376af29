namespace RoleAlgebra.Text

/-- The characters with the Unicode property White_Space. -/
def blanks : List (Nat × Nat) :=
  [(0x09, 0x0D), (0x20, 0x20), (0x85, 0x85), (0xA0, 0xA0), (0x1680, 0x1680), (0x2000, 0x200A),
    (0x2028, 0x2029), (0x202F, 0x202F), (0x205F, 0x205F), (0x3000, 0x3000)]

def isBlank (c : Char) : Bool :=
  blanks.any fun (low, high) => low ≤ c.toNat && c.toNat ≤ high

def trimEnd (cs : List Char) : List Char := (cs.reverse.dropWhile isBlank).reverse

def lines (cs : List Char) : List (List Char) := cs.splitOn '\n'

def dropReturn : List Char → List Char
  | '\r' :: line => line
  | line => line

def fileLinesFrom (found : List (List Char)) (line : List Char) : List Char → List (List Char)
  | [] => (if line = [] then found else line.reverse :: found).reverse
  | c :: rest =>
    if c = '\n' then fileLinesFrom ((dropReturn line).reverse :: found) [] rest
    else fileLinesFrom found (c :: line) rest

/-- The lines of a text file. A line feed ends a line, together with a carriage return before it;
what follows the last line feed is a line only if it is not empty. -/
def fileLines (cs : List Char) : List (List Char) := fileLinesFrom [] [] cs

end RoleAlgebra.Text
