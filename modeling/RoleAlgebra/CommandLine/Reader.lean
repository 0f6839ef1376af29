import RoleAlgebra.CommandLine.Command

/-!
A reader of command lines. It first tells options from operands by the look of the words, and then
takes the options one by one. A value in a word of its own is looked at only when the next option is
taken.
-/

namespace RoleAlgebra.CommandLine

inductive Shape where
  | endOfOptions
  | long (name : String) (value? : Option String)
  | letters (letters : List Char)
  | plain
  deriving DecidableEq, Repr

def shapeOf (word : String) : Shape :=
  match word.toList with
  | ['-', '-'] => .endOfOptions
  | '-' :: '-' :: rest =>
    let name := String.ofList (rest.takeWhile (· ≠ '='))
    match rest.dropWhile (· ≠ '=') with
    | [] => .long name none
    | _ :: value => .long name (some (String.ofList value))
  | '-' :: c :: rest => .letters (c :: rest)
  | _ => .plain

inductive Named where
  | argument (argument : Argument)
  | help
  | version

/-- An option as it stands on a command line. A value is late if it is a word of its own. -/
inductive Item where
  | given (argument : Argument) (value? : Option String) (late : Bool)
  | help (long : Bool)
  | version
  | refused (error : UsageError)

structure Written where
  items : List Item
  waiting? : Option Argument

namespace Command

variable (command : Command)

def ofName? (name : String) : Option Named :=
  if name = "help" then some .help
  else if name = "version" then some .version
  else (command.argument? name).map .argument

def ofLetter? (letter : Char) : Option Named :=
  if letter = 'h' then some .help
  else if letter = 'V' then some .version
  else (command.arguments.find? (·.letter? = some letter)).map .argument

def written (long : Bool) (value? : Option String) : Named → Written
  | .argument argument =>
    match argument.takesValue, value? with
    | true, some value => ⟨[.given argument (some value) false], none⟩
    | true, none => ⟨[], some argument⟩
    | false, some _ => ⟨[.refused .unneededValue], none⟩
    | false, none => ⟨[.given argument (some "true") false], none⟩
  | .help => ⟨[if value?.isSome then .refused .unneededValue else .help long], none⟩
  | .version => ⟨[if value?.isSome then .refused .unneededValue else .version], none⟩

def attached? (rest : List Char) : Option String :=
  match rest with
  | [] => none
  | '=' :: value => some (String.ofList value)
  | _ => some (String.ofList rest)

/-- Options by their letters. One that takes a value has the rest of the letters for it. -/
def writtenLetters : List Char → Written
  | [] => ⟨[], none⟩
  | letter :: rest =>
    match command.ofLetter? letter with
    | some (.argument argument) =>
      if argument.takesValue then written false (attached? rest) (.argument argument)
      else
        let later := writtenLetters rest
        ⟨(written false none (.argument argument)).items ++ later.items, later.waiting?⟩
    | some named =>
      let later := writtenLetters rest
      ⟨(written false none named).items ++ later.items, later.waiting?⟩
    | none => ⟨[.refused .unknown], none⟩

def written? (word : String) : Option Written :=
  match shapeOf word with
  | .long name value? =>
    match command.ofName? name with
    | some named => some (written true value? named)
    | none => if command.operands.allowHyphens then none else some ⟨[.refused .unknown], none⟩
  | .letters letters =>
    if command.operands.allowHyphens && !letters.all (fun c => (command.ofLetter? c).isSome) then
      none
    else some (command.writtenLetters letters)
  | _ => none

def unmet (waiting? : Option Argument) : List Item :=
  (waiting?.map fun argument => Item.given argument none true).toList

/-- Tells the options of a command line from its operands. A word that writes no option is the value
of an option that waits for one, or else an operand. -/
def scan (waiting? : Option Argument) : List String → List Item × List String
  | [] => (unmet waiting?, [])
  | word :: rest =>
    if shapeOf word = .endOfOptions then (unmet waiting?, rest)
    else match command.written? word with
      | some ⟨items, next?⟩ =>
        let (later, words) := scan next? rest
        (unmet waiting? ++ items ++ later, words)
      | none =>
        match waiting? with
        | some argument =>
          let (later, words) := scan none rest
          (.given argument (some word) true :: later, words)
        | none =>
          if command.operands.trailing then ([], word :: rest)
          else
            let (later, words) := scan none rest
            (later, word :: words)

end Command

abbrev Taken : Type := List (String × String)

namespace Taken

def has (taken : Taken) (name : String) : Bool := (taken.lookup name).isSome

def take (taken : Taken) (argument : Argument) (value? : Option String) : Except UsageError Taken :=
  match value? with
  | none => .error .badValue
  | some value =>
    if taken.has argument.name then .error .repeated
    else if argument.accepts value then .ok (taken ++ [(argument.name, value)])
    else .error .badValue

def settle (taken : Taken) (late? : Option (Argument × Option String)) : Except UsageError Taken :=
  match late? with
  | some (argument, value?) => taken.take argument value?
  | none => .ok taken

def step (taken : Taken) (late? : Option (Argument × Option String)) (item : Item) :
    Except Stop (Taken × Option (Argument × Option String)) :=
  match item, taken.settle late? with
  | .refused error, _ => .error (.usage error)
  | _, .error error => .error (.usage error)
  | .help long, .ok _ => .error (.help long)
  | .version, .ok _ => .error .version
  | .given argument value? true, .ok taken => .ok (taken, some (argument, value?))
  | .given argument value? false, .ok taken =>
    match taken.take argument value? with
    | .ok taken => .ok (taken, none)
    | .error error => .error (.usage error)

def takeAll (taken : Taken) (late? : Option (Argument × Option String)) :
    List Item → Except Stop Taken
  | [] =>
    match taken.settle late? with
    | .ok taken => .ok taken
    | .error error => .error (.usage error)
  | item :: rest =>
    match taken.step late? item with
    | .ok (taken, late?) => takeAll taken late? rest
    | .error stop => .error stop

def found (taken : Taken) (command : Command) (environment : Environment) (words : List String) :
    Matches :=
  let options : Matches := fun name =>
    match taken.lookup name with
    | some value => some ⟨.commandLine, [value]⟩
    | none => command.fallbacks environment name
  if words.isEmpty then options else options.store command.operands.name ⟨.commandLine, words⟩

def admits (taken : Taken) (environment : Environment) (argument : Argument) : Bool :=
  taken.has argument.name || (argument.env?.bind environment).all argument.accepts

def conclude (taken : Taken) (command : Command) (environment : Environment)
    (words : List String) : Except Stop Matches :=
  if !command.arguments.all (taken.admits environment) then .error (.usage .badValue)
  else if command.operands.required && words.isEmpty then .error (.usage .missing)
  else .ok (taken.found command environment words)

end Taken

def CommandReader.standard : CommandReader := fun command environment args =>
  match Taken.takeAll [] none (command.scan none args).1 with
  | .error stop => .error stop
  | .ok taken => taken.conclude command environment (command.scan none args).2

end RoleAlgebra.CommandLine
