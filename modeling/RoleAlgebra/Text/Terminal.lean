/-!
What a terminal shows of a text. Control characters are not shown, and an escape character begins a
sequence that is a command to the terminal and is not shown either. Only white space, of all control
characters, is kept; where it stands within a sequence it interrupts that.
-/

namespace RoleAlgebra.Text.Terminal

inductive Mode where
  | plain
  | escape
  | intermediate
  | control
  /-- In a command to the operating system, which a bell ends. -/
  | system
  | device
  | parameters
  | deviceIntermediate
  /-- In the text of a command to a device, or of any other command that holds a text. -/
  | message
  deriving DecidableEq, Repr

namespace Mode

def afterEscape (c : Char) : Mode :=
  if c < ' ' || '\x7f' ≤ c then escape
  else if c ≤ '/' then intermediate
  else if c = '[' then control
  else if c = ']' then system
  else if c = 'P' then device
  else if c = 'X' || c = '^' || c = '_' then message
  else plain

/-- Whether a character ends a text in a command. A terminal reads bytes, and the byte that ends it
may also be part of a longer character. -/
def endsMessage (c : Char) : Bool := (String.utf8EncodeChar c).contains 0x9C

/-- The mode after a character that is not shown. An escape character begins a new sequence wherever
it stands, and two of the control characters cancel any. -/
def next (mode : Mode) (c : Char) : Mode :=
  if c = '\x1b' then escape
  else if c = '\x18' || c = '\x1a' then plain
  else match mode with
    | plain => plain
    | escape => afterEscape c
    | intermediate => if '0' ≤ c && c ≤ '~' then plain else intermediate
    | control => if '@' ≤ c && c ≤ '~' then plain else control
    | system => if c = '\x07' then plain else system
    | device =>
      if ' ' ≤ c && c ≤ '/' then deviceIntermediate
      else if '0' ≤ c && c ≤ '?' then parameters
      else if '@' ≤ c && c ≤ '~' then message
      else device
    | parameters =>
      if ' ' ≤ c && c ≤ '/' then deviceIntermediate
      else if '<' ≤ c && c ≤ '~' then message
      else parameters
    | deviceIntermediate => if '0' ≤ c && c ≤ '~' then message else deviceIntermediate
    | message => if endsMessage c then plain else message

end Mode

def isLayout (c : Char) : Bool := c = '\t' || c = '\n' || c = '\x0c' || c = '\r'

/-- Whether a character is shown. White space is shown even within a sequence, except in a command
to the operating system or a device and in one that holds a text. -/
def isShown (mode : Mode) (c : Char) : Bool :=
  match mode with
  | .plain => isLayout c || (' ' ≤ c && c ≠ '\x7f')
  | .escape | .intermediate | .control => isLayout c
  | _ => false

/-- What becomes of a sequence that white space interrupts. Either way plain text follows, but the
sequence may be resumed at the next control character, if only ASCII stands before that. -/
inductive Interrupted where
  | forgotten
  | resumed
  deriving DecidableEq, Repr

def Mode.afterShown (interrupted : Interrupted) (mode : Mode) (c : Char) : Mode :=
  if interrupted = .resumed && c < '\u0080' then mode else .plain

def Mode.deciding (mode : Mode) (showing : Bool) : Mode := if showing then .plain else mode

def shownFrom (interrupted : Interrupted) (mode : Mode) (showing : Bool) : List Char → List Char
  | [] => []
  | c :: rest =>
    if isShown (mode.deciding showing) c then
      c :: shownFrom interrupted (mode.afterShown interrupted c) true rest
    else shownFrom interrupted (mode.next c) false rest

def shown (interrupted : Interrupted) (text : String) : String :=
  String.ofList (shownFrom interrupted .plain false text.toList)

end RoleAlgebra.Text.Terminal
