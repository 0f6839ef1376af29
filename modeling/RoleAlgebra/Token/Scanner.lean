import RoleAlgebra.Parser.Error

/-!
Dividing a text into tokens, one character at a time. A scanner holds the tokens found so far and
the word it is inside of, so scanning two texts one after the other is scanning the second from
where the first ended (`scanFrom_append`).
-/

namespace RoleAlgebra

/-- The state between two characters. Tokens and the characters of an open word are kept latest
first; word characters are one byte each. -/
structure Scanner where
  offset : Nat
  found : List Token
  word : List Char
  deriving DecidableEq, Repr

namespace Scanner

def start : Scanner := ⟨0, [], []⟩

def tokens (scanner : Scanner) : List Token :=
  if scanner.word.isEmpty then scanner.found
  else ⟨.word (String.ofList scanner.word.reverse), scanner.offset - scanner.word.length,
    scanner.word.length⟩ :: scanner.found

def step (scanner : Scanner) (c : Char) : Except Char Scanner :=
  if Token.isWordChar c then .ok ⟨scanner.offset + 1, scanner.found, c :: scanner.word⟩
  else if Token.isSpace c then .ok ⟨scanner.offset + 1, scanner.tokens, []⟩
  else match Token.sign? c with
    | some kind => .ok ⟨scanner.offset + 1, ⟨kind, scanner.offset, 1⟩ :: scanner.tokens, []⟩
    | none => .error c

/-- Reads characters up to the first that does not belong; it comes back with its offset. -/
def scanFrom (scanner : Scanner) : List Char → Except (Nat × Char) Scanner
  | [] => .ok scanner
  | c :: rest =>
    match scanner.step c with
    | .ok next => scanFrom next rest
    | .error c => .error (scanner.offset, c)

theorem scanFrom_append (scanner : Scanner) (a b : List Char) :
    scanner.scanFrom (a ++ b) = (scanner.scanFrom a).bind fun next => next.scanFrom b := by
  induction a generalizing scanner with
  | nil => rfl
  | cons c a ih =>
    simp only [List.cons_append, scanFrom]
    cases scanner.step c with
    | ok next => exact ih next
    | error c => rfl

end Scanner

structure Scan where
  tokens : List Token
  stop : Nat
  deriving DecidableEq, Repr

def tokenize (text : String) : Except ParseError Scan :=
  match Scanner.start.scanFrom text.toList with
  | .ok scanner => .ok ⟨scanner.tokens.reverse, scanner.offset⟩
  | .error (offset, c) =>
    .error ⟨.unrecognized c, .between text offset (offset + c.utf8Size)⟩

end RoleAlgebra
