import Mathlib.Data.List.Nodup
import Mathlib.Data.List.TakeWhile
import RoleAlgebra.CommandLine.Reader

/-!
What readers of command lines promise. A program relies on the meaning that the documents of its
reader give to what the program declares (`CommandReader.Documented`): an option in front of a
command line adds its value to what is read of the rest, and leaves the rest as it is. The standard
reader keeps these promises for every command (`standard_documented`).
-/

namespace RoleAlgebra.CommandLine

/-- A word that starts with no hyphen. -/
def Plain (word : String) : Prop := word.toList.head? ≠ some '-'

instance (word : String) : Decidable (Plain word) :=
  inferInstanceAs (Decidable (word.toList.head? ≠ some '-'))

def Matches.Lacks (found : Matches) (name : String) : Prop :=
  ∀ matched ∈ found name, matched.source ≠ .commandLine

/-- The documented meaning of what a command declares. -/
structure CommandReader.Documented (read : CommandReader) (command : Command) : Prop where
  /-- A switch that is given counts as the value `true`. -/
  switch : ∀ environment, ∀ argument ∈ command.arguments, ∀ args found,
    argument.takesValue = false → read command environment args = .ok found →
    found.Lacks argument.name →
    read command environment (("--" ++ argument.name) :: args) =
      .ok (found.store argument.name ⟨.commandLine, ["true"]⟩)
  /-- The word behind the name of any other option is its value. -/
  long : ∀ environment, ∀ argument ∈ command.arguments, ∀ value args found,
    argument.takesValue = true → argument.accepts value → Plain value →
    read command environment args = .ok found → found.Lacks argument.name →
    read command environment (("--" ++ argument.name) :: value :: args) =
      .ok (found.store argument.name ⟨.commandLine, [value]⟩)
  /-- So is the word behind its letter. -/
  short : ∀ environment, ∀ argument ∈ command.arguments, ∀ letter ∈ argument.letter?,
    ∀ value args found, argument.takesValue = true → argument.accepts value → Plain value →
    read command environment args = .ok found → found.Lacks argument.name →
    read command environment (.ofList ['-', letter] :: value :: args) =
      .ok (found.store argument.name ⟨.commandLine, [value]⟩)
  /-- All words after two hyphens are operands; options that are not given come from the
  environment, or else are what they are by default. -/
  escape : ∀ environment words, words ≠ [] → command.Admits environment →
    read command environment ("--" :: words) =
      .ok ((command.fallbacks environment).store command.operands.name ⟨.commandLine, words⟩)
  /-- Trailing operands that may start with hyphens hold all words from the first of them on, as if
  two hyphens stood before it. -/
  trailing : ∀ environment first rest, command.operands.trailing → command.operands.allowHyphens →
    Plain first →
    read command environment (first :: rest) = read command environment ("--" :: first :: rest)

section Shapes

variable {word name : String} {letter : Char}

theorem shapeOf_plain (plain : Plain word) : shapeOf word = .plain := by
  rw [Plain] at plain
  unfold shapeOf
  split
  next written => exact absurd (by simp [written]) plain
  next written => exact absurd (by simp [written]) plain
  next written => exact absurd (by simp [written]) plain
  next => rfl

theorem shapeOf_long (nonempty : name ≠ "") (bare : '=' ∉ name.toList) :
    shapeOf ("--" ++ name) = .long name none := by
  have letters : name.toList ≠ [] := fun none => nonempty (String.toList_eq_nil_iff.1 none)
  obtain ⟨first, rest, spelled⟩ := List.exists_cons_of_ne_nil letters
  have kept : ∀ c ∈ first :: rest, decide (c ≠ '=') = true := by
    intro c member
    refine decide_eq_true fun same => bare ?_
    rw [spelled]
    exact same ▸ member
  have word : ("--" ++ name).toList = '-' :: '-' :: first :: rest := by
    rw [String.toList_append, spelled]
    rfl
  have name' : String.ofList (first :: rest) = name := by rw [← spelled, String.ofList_toList]
  rw [shapeOf, word]
  simp only [List.takeWhile_eq_self_iff.2 kept, List.dropWhile_eq_nil_iff.2 kept, name']

theorem shapeOf_letter (other : letter ≠ '-') :
    shapeOf (.ofList ['-', letter]) = .letters [letter] := by
  rw [shapeOf, String.toList_ofList]
  split
  next same => exact absurd (List.cons.inj (List.cons.inj same).2).1 other
  next same => exact absurd (List.cons.inj (List.cons.inj same).2).1 other
  next same =>
    cases same
    rfl
  next none => exact absurd rfl (none letter [])

end Shapes

section Names

variable {command : Command} {argument : Argument} {letter : Char}

theorem Command.argument?_eq (declared : argument ∈ command.arguments) :
    command.argument? argument.name = some argument := by
  have distinct : (command.arguments.map (·.name)).Nodup :=
    command.distinctNames.of_cons.of_cons.of_cons
  have found : (command.argument? argument.name).isSome :=
    List.find?_isSome.2 ⟨argument, declared, by simp⟩
  obtain ⟨other, found⟩ := Option.isSome_iff_exists.1 found
  have same : other.name = argument.name := by simpa using List.find?_some found
  have member : other ∈ command.arguments := List.mem_of_find?_eq_some found
  rw [found, List.inj_on_of_nodup_map distinct member declared same]

theorem Command.name_ne (declared : argument ∈ command.arguments) :
    argument.name ≠ "help" ∧ argument.name ≠ "version" ∧
      argument.name ≠ command.operands.name := by
  have named : argument.name ∈ command.arguments.map (·.name) := List.mem_map_of_mem declared
  obtain ⟨help, version, operands, -⟩ := by simpa only [List.nodup_cons] using command.distinctNames
  refine ⟨?_, ?_, ?_⟩
  · intro same
    exact help (List.mem_cons_of_mem _ (List.mem_cons_of_mem _ (same ▸ named)))
  · intro same
    exact version (List.mem_cons_of_mem _ (same ▸ named))
  · intro same
    exact operands (same ▸ named)

theorem Command.ofName?_eq (declared : argument ∈ command.arguments) :
    command.ofName? argument.name = some (.argument argument) := by
  obtain ⟨help, version, -⟩ := command.name_ne declared
  rw [ofName?, if_neg help, if_neg version, command.argument?_eq declared]
  rfl

theorem find?_letter_eq {arguments : List Argument} (member : argument ∈ arguments)
    (distinct : (arguments.filterMap (·.letter?)).Nodup)
    (lettered : argument.letter? = some letter) :
    arguments.find? (·.letter? = some letter) = some argument := by
  induction arguments with
  | nil => cases member
  | cons first arguments ih =>
    by_cases here : first.letter? = some letter
    · rw [List.find?_cons_of_pos (by simpa using here)]
      rw [List.filterMap_cons_some here, List.nodup_cons] at distinct
      rcases List.mem_cons.1 member with rfl | later
      · rfl
      · exact absurd (List.mem_filterMap.2 ⟨argument, later, lettered⟩) distinct.1
    · rw [List.find?_cons_of_neg (by simpa using here)]
      refine ih ?_ (distinct.sublist ?_)
      · rcases List.mem_cons.1 member with rfl | later
        · exact absurd lettered here
        · exact later
      · exact (List.sublist_cons_self first arguments).filterMap _

theorem Command.ofLetter?_eq (declared : argument ∈ command.arguments)
    (lettered : argument.letter? = some letter) :
    letter ≠ '-' ∧ command.ofLetter? letter = some (.argument argument) := by
  have member : letter ∈ command.arguments.filterMap (·.letter?) :=
    List.mem_filterMap.2 ⟨argument, declared, lettered⟩
  obtain ⟨hyphen, help, version, distinct⟩ := by
    simpa only [List.nodup_cons] using command.distinctLetters
  have notHyphen : letter ≠ '-' := fun same =>
    hyphen (List.mem_cons_of_mem _ (List.mem_cons_of_mem _ (same ▸ member)))
  have notHelp : letter ≠ 'h' := fun same => help (List.mem_cons_of_mem _ (same ▸ member))
  have notVersion : letter ≠ 'V' := fun same => version (same ▸ member)
  rw [ofLetter?, if_neg notHelp, if_neg notVersion, find?_letter_eq declared distinct lettered]
  exact ⟨notHyphen, rfl⟩

end Names

section Scan

variable {command : Command} {argument : Argument} {letter : Char} {word value : String}

theorem Command.written?_long (declared : argument ∈ command.arguments) :
    shapeOf ("--" ++ argument.name) ≠ .endOfOptions ∧
      command.written? ("--" ++ argument.name) = some (written true none (.argument argument)) := by
  obtain ⟨nonempty, bare⟩ := command.spellable argument declared
  have shape := shapeOf_long nonempty bare
  rw [written?, shape]
  simp only [command.ofName?_eq declared]
  exact ⟨nofun, trivial⟩

theorem Command.written?_short (declared : argument ∈ command.arguments)
    (lettered : argument.letter? = some letter) (takes : argument.takesValue = true) :
    shapeOf (.ofList ['-', letter]) ≠ .endOfOptions ∧
      command.written? (.ofList ['-', letter]) = some ⟨[], some argument⟩ := by
  obtain ⟨notHyphen, known⟩ := command.ofLetter?_eq declared lettered
  have shape := shapeOf_letter notHyphen
  rw [written?, shape]
  simp [known, writtenLetters, takes, written, attached?]

theorem Command.scan_switch (declared : argument ∈ command.arguments)
    (switch : argument.takesValue = false) (args : List String) :
    command.scan none (("--" ++ argument.name) :: args) =
      (.given argument (some "true") false :: (command.scan none args).1,
        (command.scan none args).2) := by
  obtain ⟨option, writes⟩ := command.written?_long declared
  have one : written true none (.argument argument) =
      ⟨[.given argument (some "true") false], none⟩ := by
    simp only [written, switch]
  rw [scan, if_neg option, writes, one]
  rfl

theorem Command.scan_value (option : shapeOf word ≠ .endOfOptions)
    (written : command.written? word = some ⟨[], some argument⟩) (plain : Plain value)
    (args : List String) :
    command.scan none (word :: value :: args) =
      (.given argument (some value) true :: (command.scan none args).1,
        (command.scan none args).2) := by
  have shape := shapeOf_plain plain
  have operand : command.written? value = none := by rw [written?, shape]
  rw [scan, if_neg option, written]
  simp only
  rw [scan, if_neg (by rw [shape]; nofun), operand]
  rfl

theorem Command.scan_escape (words : List String) :
    command.scan none ("--" :: words) = ([], words) := by
  have shape : shapeOf "--" = .endOfOptions := by decide
  rw [scan, if_pos shape]
  rfl

theorem Command.scan_plain (trailing : command.operands.trailing = true) {first : String}
    (plain : Plain first) (rest : List String) :
    command.scan none (first :: rest) = ([], first :: rest) := by
  have shape := shapeOf_plain plain
  have operand : command.written? first = none := by rw [written?, shape]
  rw [scan, if_neg (by rw [shape]; nofun), operand]
  simp only [trailing, if_true]

end Scan

namespace Taken

variable {taken settled next final : Taken} {late? pending? : Option (Argument × Option String)}
  {item : Item} {items : List Item} {argument : Argument} {value? : Option String}
  {value name : String} {late : Bool} {entry : String × String}

theorem take_eq_ok_iff : taken.take argument value? = .ok next ↔
    ∃ value, value? = some value ∧ taken.has argument.name = false ∧
      argument.accepts value = true ∧ taken ++ [(argument.name, value)] = next := by
  cases value? with
  | none => exact iff_of_false nofun nofun
  | some value =>
    rw [take]
    cases known : taken.has argument.name with
    | true => simp
    | false => cases accepted : argument.accepts value <;> simp [accepted]

theorem step_eq_ok_iff : taken.step late? item = .ok (next, pending?) ↔
    ∃ settled argument value? late, taken.settle late? = .ok settled ∧
      item = .given argument value? late ∧
      (late = true ∧ next = settled ∧ pending? = some (argument, value?) ∨
        late = false ∧ settled.take argument value? = .ok next ∧ pending? = none) := by
  cases settles : taken.settle late? with
  | error error => cases item <;> simp [step, settles]
  | ok settled =>
    cases item with
    | help | version | refused => simp [step, settles]
    | given argument value? late =>
      cases late with
      | true => simp [step, settles, eq_comm]
      | false => cases takes : settled.take argument value? <;> simp [step, settles, takes, eq_comm]

theorem has_append (taken more : Taken) (name : String) :
    Taken.has (taken ++ more) name = (taken.has name || more.has name) := by
  rw [has, List.lookup_append, Option.isSome_or]
  rfl

theorem has_singleton (name value other : String) :
    has [(name, value)] other = (other == name) := by
  rw [has, List.lookup_cons]
  split
  next same => simpa using same.symm
  next differ => simpa using differ.symm

theorem takeAll_nil_eq_ok_iff :
    takeAll taken late? [] = .ok final ↔ taken.settle late? = .ok final := by
  rw [takeAll]
  cases taken.settle late? <;> simp

theorem takeAll_cons_eq_ok_iff : takeAll taken late? (item :: items) = .ok final ↔
    ∃ next pending?, taken.step late? item = .ok (next, pending?) ∧
      takeAll next pending? items = .ok final := by
  rw [takeAll]
  cases taken.step late? item with
  | error stop => simp
  | ok reached =>
    obtain ⟨next, pending?⟩ := reached
    simp

theorem exists_append_of_settle (settles : taken.settle late? = .ok next) :
    ∃ more, next = taken ++ more := by
  cases late? with
  | none =>
    cases settles
    exact ⟨[], by simp⟩
  | some pending =>
    obtain ⟨value, -, -, -, rfl⟩ := take_eq_ok_iff.1 settles
    exact ⟨_, rfl⟩

theorem exists_append_of_step (steps : taken.step late? item = .ok (next, pending?)) :
    ∃ more, next = taken ++ more := by
  obtain ⟨settled, argument, value?, late, settles, -, later | now⟩ := step_eq_ok_iff.1 steps
  · obtain ⟨-, rfl, -⟩ := later
    exact exists_append_of_settle settles
  · obtain ⟨more, rfl⟩ := exists_append_of_settle settles
    obtain ⟨value, -, -, -, rfl⟩ := take_eq_ok_iff.1 now.2.1
    exact ⟨_, List.append_assoc ..⟩

theorem exists_append_of_takeAll (all : takeAll taken late? items = .ok final) :
    ∃ more, final = taken ++ more := by
  induction items generalizing taken late? with
  | nil => exact exists_append_of_settle (takeAll_nil_eq_ok_iff.1 all)
  | cons item items ih =>
    obtain ⟨next, pending?, steps, rest⟩ := takeAll_cons_eq_ok_iff.1 all
    obtain ⟨more, rfl⟩ := exists_append_of_step steps
    obtain ⟨further, rfl⟩ := ih rest
    exact ⟨_, List.append_assoc ..⟩

section Beside

variable {entry : String × String}

theorem not_has_of_append {more : Taken} (fresh : Taken.has (taken ++ more) name = false) :
    taken.has name = false := by
  rw [has_append, Bool.or_eq_false_iff] at fresh
  exact fresh.1

theorem take_beside (takes : taken.take argument value? = .ok next)
    (fresh : next.has entry.1 = false) :
    take (entry :: taken) argument value? = .ok (entry :: next) := by
  obtain ⟨value, rfl, untaken, accepted, rfl⟩ := take_eq_ok_iff.1 takes
  refine take_eq_ok_iff.2 ⟨value, rfl, ?_, accepted, rfl⟩
  rw [has_append, has_singleton, Bool.or_eq_false_iff, beq_eq_false_iff_ne] at fresh
  have other : has [entry] argument.name = false := by
    rw [has_singleton, beq_eq_false_iff_ne]
    exact fresh.2.symm
  have split := has_append [entry] taken argument.name
  rwa [other, untaken] at split

theorem settle_beside (settles : taken.settle late? = .ok next)
    (fresh : next.has entry.1 = false) : settle (entry :: taken) late? = .ok (entry :: next) := by
  cases late? with
  | none =>
    cases settles
    rfl
  | some pending => exact take_beside settles fresh

theorem step_beside (steps : taken.step late? item = .ok (next, pending?))
    (fresh : next.has entry.1 = false) :
    step (entry :: taken) late? item = .ok (entry :: next, pending?) := by
  obtain ⟨settled, argument, value?, late, settles, rfl, later | now⟩ := step_eq_ok_iff.1 steps
  · obtain ⟨rfl, rfl, rfl⟩ := later
    exact step_eq_ok_iff.2
      ⟨_, argument, value?, true, settle_beside settles fresh, rfl, .inl ⟨rfl, rfl, rfl⟩⟩
  · obtain ⟨rfl, takes, rfl⟩ := now
    obtain ⟨value, -, -, -, rfl⟩ := take_eq_ok_iff.1 takes
    exact step_eq_ok_iff.2 ⟨_, argument, value?, false,
      settle_beside settles (not_has_of_append fresh), rfl,
      .inr ⟨rfl, take_beside takes fresh, rfl⟩⟩

theorem takeAll_beside (all : takeAll taken late? items = .ok final)
    (fresh : final.has entry.1 = false) :
    takeAll (entry :: taken) late? items = .ok (entry :: final) := by
  induction items generalizing taken late? with
  | nil =>
    exact takeAll_nil_eq_ok_iff.2 (settle_beside (takeAll_nil_eq_ok_iff.1 all) fresh)
  | cons item items ih =>
    obtain ⟨next, pending?, steps, rest⟩ := takeAll_cons_eq_ok_iff.1 all
    obtain ⟨more, rfl⟩ := exists_append_of_takeAll rest
    exact takeAll_cons_eq_ok_iff.2
      ⟨_, _, step_beside steps (not_has_of_append fresh), ih rest⟩

end Beside

/-- It makes no difference to options that are all taken whether the one before them is pending. -/
theorem takeAll_of_pending (takes : taken.take argument value? = .ok next)
    (all : takeAll next none items = .ok final) :
    takeAll taken (some (argument, value?)) items = .ok final := by
  cases items with
  | nil =>
    cases takeAll_nil_eq_ok_iff.1 all
    exact takeAll_nil_eq_ok_iff.2 takes
  | cons item items =>
    obtain ⟨further, pending?, steps, rest⟩ := takeAll_cons_eq_ok_iff.1 all
    obtain ⟨settled, argument', value', late, settles, same, taking⟩ := step_eq_ok_iff.1 steps
    cases settles
    exact takeAll_cons_eq_ok_iff.2
      ⟨further, pending?, step_eq_ok_iff.2 ⟨_, _, _, late, takes, same, taking⟩, rest⟩

theorem takeAll_front (late : Bool) (accepted : argument.accepts value = true)
    (all : takeAll [] none items = .ok final) (fresh : final.has argument.name = false) :
    takeAll [] none (.given argument (some value) late :: items) =
      .ok ((argument.name, value) :: final) := by
  have first : take [] argument (some value) = .ok [(argument.name, value)] :=
    take_eq_ok_iff.2 ⟨value, rfl, rfl, accepted, rfl⟩
  have rest : takeAll [(argument.name, value)] none items = .ok ((argument.name, value) :: final) :=
    takeAll_beside all fresh
  cases late with
  | true => exact takeAll_of_pending first rest
  | false =>
    exact takeAll_cons_eq_ok_iff.2 ⟨_, none,
      step_eq_ok_iff.2 ⟨[], argument, some value, false, rfl, rfl, .inr ⟨rfl, first, rfl⟩⟩, rest⟩

end Taken

section Standard

variable {command : Command} {argument : Argument} {environment : Environment}
  {args words : List String} {found : Matches} {value name : String} {taken : Taken}

theorem Taken.conclude_eq_ok_iff : taken.conclude command environment words = .ok found ↔
    (∀ argument ∈ command.arguments, taken.admits environment argument = true) ∧
      (command.operands.required = true → words ≠ []) ∧
      taken.found command environment words = found := by
  rw [conclude]
  split
  next improper =>
    rw [Bool.not_eq_true', List.all_eq_false] at improper
    obtain ⟨argument, declared, refused⟩ := improper
    exact iff_of_false nofun fun ⟨admits, _⟩ => refused (admits argument declared)
  next proper =>
    have admits : ∀ argument ∈ command.arguments, taken.admits environment argument = true := by
      simpa using proper
    split
    next absent =>
      obtain ⟨required, none⟩ := by simpa only [Bool.and_eq_true, List.isEmpty_iff] using absent
      exact iff_of_false nofun fun ⟨_, nonempty, _⟩ => nonempty required none
    next given =>
      rw [Bool.and_eq_true, List.isEmpty_iff, not_and] at given
      exact ⟨fun same => ⟨admits, given, Except.ok.inj same⟩, fun ⟨_, _, same⟩ => congrArg _ same⟩

theorem standard_eq_ok_iff : CommandReader.standard command environment args = .ok found ↔
    ∃ taken, Taken.takeAll [] none (command.scan none args).1 = .ok taken ∧
      taken.conclude command environment (command.scan none args).2 = .ok found := by
  rw [CommandReader.standard]
  cases Taken.takeAll [] none (command.scan none args).1 <;> simp

theorem Taken.found_of_ne (other : name ≠ command.operands.name) :
    taken.found command environment words name =
      match taken.lookup name with
      | some value => some ⟨.commandLine, [value]⟩
      | none => command.fallbacks environment name := by
  rw [found]
  split
  next => rfl
  next => exact Matches.store_other other ..

theorem Taken.found_cons (other : name ≠ command.operands.name) :
    Taken.found ((name, value) :: taken) command environment words =
      (taken.found command environment words).store name ⟨.commandLine, [value]⟩ := by
  funext wanted
  by_cases same : wanted = name
  · subst same
    rw [Matches.store_same, found_of_ne other, List.lookup_cons_self]
  · rw [Matches.store_other same]
    have passed : List.lookup wanted ((name, value) :: taken) = taken.lookup wanted := by
      rw [List.lookup_cons, beq_eq_false_iff_ne.2 same]
    by_cases operands : wanted = command.operands.name
    · subst operands
      rw [found, found]
      split
      next => simp only [passed]
      next => rw [Matches.store_same, Matches.store_same]
    · rw [found_of_ne operands, found_of_ne operands, passed]

/-- An option in front of words that are read by themselves. -/
theorem standard_front {late : Bool} {args' : List String}
    (declared : argument ∈ command.arguments) (accepted : argument.accepts value = true)
    (scan : command.scan none args' =
      (.given argument (some value) late :: (command.scan none args).1,
        (command.scan none args).2))
    (reads : CommandReader.standard command environment args = .ok found)
    (lacks : found.Lacks argument.name) :
    CommandReader.standard command environment args' =
      .ok (found.store argument.name ⟨.commandLine, [value]⟩) := by
  obtain ⟨taken, all, concludes⟩ := standard_eq_ok_iff.1 reads
  obtain ⟨admits, required, rfl⟩ := Taken.conclude_eq_ok_iff.1 concludes
  have operands := (command.name_ne declared).2.2
  have fresh : taken.has argument.name = false := by
    cases known : taken.lookup argument.name with
    | none => rw [Taken.has, known, Option.isSome_none]
    | some value =>
      have given : taken.found command environment (command.scan none args).2 argument.name =
          some ⟨.commandLine, [value]⟩ := by rw [Taken.found_of_ne operands, known]
      exact absurd rfl (lacks _ given)
  rw [standard_eq_ok_iff, scan]
  refine ⟨(argument.name, value) :: taken, Taken.takeAll_front late accepted all fresh, ?_⟩
  refine Taken.conclude_eq_ok_iff.2 ⟨?_, required, Taken.found_cons operands⟩
  intro other member
  have admitted := admits other member
  rw [Taken.admits, Bool.or_eq_true] at admitted ⊢
  refine admitted.imp_left fun known => ?_
  have split := Taken.has_append [(argument.name, value)] taken other.name
  rwa [known, Bool.or_true] at split

/-- The standard reader gives every command its documented meaning. -/
theorem standard_documented (command : Command) : CommandReader.standard.Documented command where
  switch environment argument declared args found switch reads lacks :=
    standard_front declared (command.switchable argument declared switch)
      (command.scan_switch declared switch args) reads lacks
  long environment argument declared value args found takes accepted plain reads lacks := by
    obtain ⟨option, writes⟩ := command.written?_long declared
    have waits : Command.written true none (.argument argument) = ⟨[], some argument⟩ := by
      simp only [Command.written, takes]
    rw [waits] at writes
    exact standard_front declared accepted (command.scan_value option writes plain args) reads lacks
  short environment argument declared letter lettered value args found takes accepted plain reads
      lacks := by
    obtain ⟨option, writes⟩ := command.written?_short declared lettered takes
    exact standard_front declared accepted (command.scan_value option writes plain args) reads lacks
  escape environment words nonempty admits := by
    rw [standard_eq_ok_iff, command.scan_escape]
    refine ⟨[], rfl, Taken.conclude_eq_ok_iff.2 ⟨?_, fun _ => nonempty, ?_⟩⟩
    · intro argument declared
      change (argument.env?.bind environment).all argument.accepts = true
      rw [Option.all_eq_true]
      exact admits argument declared
    · rw [Taken.found, if_neg (by simpa using nonempty)]
      rfl
  trailing environment first rest trailing _ plain := by
    rw [CommandReader.standard, CommandReader.standard, command.scan_plain trailing plain,
      command.scan_escape]

end Standard

end RoleAlgebra.CommandLine
