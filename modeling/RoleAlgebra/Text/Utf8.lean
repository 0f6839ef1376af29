/-!
Reading bytes as UTF-8. The bytes are first divided into pieces, each a character or a stretch that
is none; strict reading stops at the first such stretch, lenient reading puts a mark in its place.
-/

namespace RoleAlgebra.Text.Utf8

inductive Piece where
  | character (c : Char)
  | invalid (length : Nat)
  | unfinished
  deriving DecidableEq, Repr

def isContinuation (b : UInt8) : Bool := 0x80 ≤ b && b ≤ 0xBF

/-- The second bytes allowed after a given first byte: those that make the shortest form of a
character that is no surrogate. -/
def isSecond (first second : UInt8) : Bool :=
  if first = 0xE0 then 0xA0 ≤ second && second ≤ 0xBF
  else if first = 0xED then 0x80 ≤ second && second ≤ 0x9F
  else if first = 0xF0 then 0x90 ≤ second && second ≤ 0xBF
  else if first = 0xF4 then 0x80 ≤ second && second ≤ 0x8F
  else isContinuation second

/-- How many bytes a character with this first byte has; zero if no character has it. -/
def width (first : UInt8) : Nat :=
  if first < 0x80 then 1
  else if first < 0xC2 then 0
  else if first < 0xE0 then 2
  else if first < 0xF0 then 3
  else if first < 0xF5 then 4
  else 0

def low (b : UInt8) : Nat := b.toNat % 64

/-- The first piece of a text that starts with `first`, and how many bytes follow `first` in it. -/
def firstPiece (first : UInt8) (rest : List UInt8) : Piece × Nat :=
  match width first, rest with
  | 1, _ => (.character (Char.ofNat first.toNat), 0)
  | 2, [] => (.unfinished, 0)
  | 2, second :: _ =>
    if isContinuation second then (.character (.ofNat (first.toNat % 32 * 64 + low second)), 1)
    else (.invalid 1, 0)
  | 3, [] => (.unfinished, 0)
  | 3, second :: rest =>
    if isSecond first second then
      match rest with
      | [] => (.unfinished, 1)
      | third :: _ =>
        if isContinuation third then
          (.character (.ofNat ((first.toNat % 16 * 64 + low second) * 64 + low third)), 2)
        else (.invalid 2, 1)
    else (.invalid 1, 0)
  | 4, [] => (.unfinished, 0)
  | 4, second :: rest =>
    if isSecond first second then
      match rest with
      | [] => (.unfinished, 1)
      | third :: rest =>
        if isContinuation third then
          match rest with
          | [] => (.unfinished, 2)
          | fourth :: _ =>
            if isContinuation fourth then
              (.character (.ofNat
                (((first.toNat % 8 * 64 + low second) * 64 + low third) * 64 + low fourth)), 3)
            else (.invalid 3, 2)
        else (.invalid 2, 1)
    else (.invalid 1, 0)
  | _, _ => (.invalid 1, 0)

def piecesOnto (found : List Piece) : List UInt8 → List Piece
  | [] => found.reverse
  | first :: rest =>
    let (piece, more) := firstPiece first rest
    piecesOnto (piece :: found) (rest.drop more)
termination_by bytes => bytes.length
decreasing_by
  rw [List.length_drop, List.length_cons]
  omega

def pieces (bytes : List UInt8) : List Piece := piecesOnto [] bytes

/-- Where bytes stop being UTF-8: at `index`, by an invalid stretch of the given length, or because
the last character is cut off. -/
structure Fault where
  index : Nat
  length? : Option Nat
  deriving DecidableEq, Repr

def Fault.message (fault : Fault) : String :=
  match fault.length? with
  | some length =>
    "invalid utf-8 sequence of " ++ toString length ++ " bytes from index " ++ toString fault.index
  | none => "incomplete utf-8 byte sequence from index " ++ toString fault.index

def decodeOnto (index : Nat) (decoded : List Char) : List Piece → Except Fault String
  | [] => .ok (String.ofList decoded.reverse)
  | .character c :: rest => decodeOnto (index + c.utf8Size) (c :: decoded) rest
  | .invalid length :: _ => .error ⟨index, some length⟩
  | .unfinished :: _ => .error ⟨index, none⟩

def decode (bytes : List UInt8) : Except Fault String := decodeOnto 0 [] (pieces bytes)

def decodeLenient (bytes : List UInt8) : String :=
  String.ofList <| (pieces bytes).map fun
    | .character c => c
    | .invalid _ => '\uFFFD'
    | .unfinished => '\uFFFD'

end RoleAlgebra.Text.Utf8
