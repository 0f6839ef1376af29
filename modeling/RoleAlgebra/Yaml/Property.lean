import RoleAlgebra.Text.Digits
import RoleAlgebra.Yaml.Character
import RoleAlgebra.Yaml.Token

namespace RoleAlgebra.Yaml

def charsOf (cells : List Cell) : List Char := cells.map (·.char)

def bytesOf (cs : List Char) : TagText := cs.map fun c => UInt8.ofNat c.toNat

def takeName (cells : List Cell) : List Char × List Cell :=
  (charsOf (cells.takeWhile fun cell => isNameChar cell.char),
    cells.dropWhile fun cell => isNameChar cell.char)

namespace Anchor

def mayFollow (c : Char) : Bool := isSpacing c || "?:,]\x7d%@`".contains c

def read (cells : List Cell) : Option (String × List Cell) :=
  let (name, rest) := takeName cells
  if name.isEmpty || !(rest.isEmpty || atChar mayFollow rest) then none
  else some (String.ofList name, rest)

end Anchor

namespace Tag

def isUriChar (verbatim : Bool) (c : Char) : Bool :=
  isNameChar c || ";/?:@&=+$.!~*'()".contains c || (verbatim && ",[]".contains c)

def width (first : Nat) : Nat :=
  if first < 0x80 then 1
  else if first < 0xC0 then 0
  else if first < 0xE0 then 2
  else if first < 0xF0 then 3
  else if first < 0xF8 then 4
  else 0

/-- Reads the characters of a URI, after some bytes in reverse. A percent sign escapes a byte; where
such a byte begins a longer character, `owed` more must follow. -/
def uriFrom (verbatim : Bool) (read : TagText) (owed : Nat) :
    List Cell → Option (TagText × List Cell)
  | [] => if owed = 0 then some (read.reverse, []) else none
  | cell :: rest =>
    if cell.char = '%' then
      match rest with
      | high :: low :: rest =>
        match Text.hexDigit? high.char, Text.hexDigit? low.char with
        | some high, some low =>
          let byte := high * 16 + low
          if owed = 0 then
            if width byte = 0 then none
            else uriFrom verbatim (UInt8.ofNat byte :: read) (width byte - 1) rest
          else if 0x80 ≤ byte && byte < 0xC0 then
            uriFrom verbatim (UInt8.ofNat byte :: read) (owed - 1) rest
          else none
        | _, _ => none
      | _ => none
    else if owed > 0 then none
    else if isUriChar verbatim cell.char then
      uriFrom verbatim (UInt8.ofNat cell.char.toNat :: read) 0 rest
    else some (read.reverse, cell :: rest)

/-- A tag ends before its first zero byte. -/
def clipped (bytes : TagText) : TagText := bytes.takeWhile (· ≠ 0)

def uri (verbatim : Bool) (cells : List Cell) : Option (TagText × List Cell) :=
  (uriFrom verbatim [] 0 cells).bind fun (bytes, rest) =>
    if bytes.isEmpty then none else some (clipped bytes, rest)

def primary : TagText := bytesOf ['!']

def parts (cells : List Cell) : Option ((TagText × TagText) × List Cell) :=
  match cells with
  | ⟨'<', _, _, _⟩ :: rest =>
    match uri true rest with
    | some (suffix, ⟨'>', _, _, _⟩ :: rest) => some (([], suffix), rest)
    | _ => none
  | cells =>
    let (name, rest) := takeName cells
    match rest with
    | ⟨'!', _, _, _⟩ :: rest =>
      (uri false rest).map fun (suffix, rest) =>
        ((primary ++ bytesOf name ++ primary, suffix), rest)
    | rest =>
      (uriFrom false (bytesOf name).reverse 0 rest).map fun (suffix, rest) =>
        let suffix := clipped suffix
        (if suffix.isEmpty then ([], primary) else (primary, suffix), rest)

def read (flow : Bool) (cells : List Cell) : Option (Token × List Cell) :=
  (parts cells).bind fun ((handle, suffix), rest) =>
    if atSpacing rest || (flow && atChar (· = ',') rest) then some (.tag handle suffix, rest)
    else none

end Tag

namespace Directive

def number (cells : List Cell) : Option (Nat × List Cell) :=
  let ds := charsOf (cells.takeWhile fun cell => Text.isDigit cell.char)
  if ds.isEmpty || ds.length > 9 then none
  else some (Text.digits ds, cells.dropWhile fun cell => Text.isDigit cell.char)

def version (cells : List Cell) : Option (Token × List Cell) :=
  match number (skipBlanks cells) with
  | some (major, ⟨'.', _, _, _⟩ :: rest) =>
    (number rest).map fun (minor, rest) => (.version major minor, rest)
  | _ => none

def handle (cells : List Cell) : Option (TagText × List Cell) :=
  match cells with
  | ⟨'!', _, _, _⟩ :: rest =>
    let (name, rest) := takeName rest
    match rest with
    | ⟨'!', _, _, _⟩ :: rest => some (Tag.primary ++ bytesOf name ++ Tag.primary, rest)
    | rest => if name.isEmpty then some (Tag.primary, rest) else none
  | _ => none

def tag (cells : List Cell) : Option (Token × List Cell) :=
  (handle (skipBlanks cells)).bind fun (handle, rest) =>
    if atChar isBlank rest then
      (Tag.uri true (skipBlanks rest)).bind fun (start, rest) =>
        if atSpacing rest then some (.tagDirective handle start, rest) else none
    else none

def read (cells : List Cell) : Option (Token × List Cell) :=
  let (name, rest) := takeName cells
  if !atSpacing rest then none
  else
    let body :=
      if name = ['Y', 'A', 'M', 'L'] then version rest
      else if name = ['T', 'A', 'G'] then tag rest
      else none
    body.bind fun (token, rest) => (skipToLineEnd? rest).map fun rest => (token, rest)

end Directive
end RoleAlgebra.Yaml
