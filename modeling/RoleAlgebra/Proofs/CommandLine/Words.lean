import RoleAlgebra.CommandLine.Settings
import RoleAlgebra.Proofs.CommandLine.Reader

/-!
The words of a command line that belong to the formula. What a reader finds with a run of options in
front of a command line is what it finds without them and the values of these options (`chosen`).
This is so of one option by what the documents of the reader promise (`read_leading`), and of a run
of them by induction (`read_options`). Their order does not matter (`chosen_perm`), and from the
first word after them that starts with no hyphen on all words are operands.
-/

namespace RoleAlgebra.CommandLine

/-- An option in front of a formula, as it is spelled. Its value is a word of its own. -/
inductive LeadingOption where
  | tree
  | debug
  | out (short : Bool) (format : OutputFormat)
  | program (name : String)
  deriving DecidableEq, Repr

namespace LeadingOption

def formatWord : OutputFormat → String
  | .json => "json"
  | .yaml => "yaml"
  | .text => "text"

def words : LeadingOption → List String
  | tree => ["--tree"]
  | debug => ["--debug"]
  | out false format => ["--out", formatWord format]
  | out true format => ["-o", formatWord format]
  | program name => ["--gcloud", name]

def name : LeadingOption → String
  | tree => "tree"
  | debug => "debug"
  | out .. => "out"
  | program _ => "gcloud"

def value : LeadingOption → String
  | tree | debug => "true"
  | out _ format => formatWord format
  | program name => name

def matched (option : LeadingOption) : Matched := ⟨.commandLine, [option.value]⟩

def Proper : LeadingOption → Prop
  | program name => name ≠ "" ∧ Plain name
  | _ => True

instance : DecidablePred Proper
  | program name => inferInstanceAs (Decidable (name ≠ "" ∧ Plain name))
  | tree => .isTrue trivial
  | debug => .isTrue trivial
  | out .. => .isTrue trivial

theorem ofName?_formatWord (format : OutputFormat) :
    OutputFormat.ofName? (formatWord format) = some format := by
  cases format <;> decide

end LeadingOption

open LeadingOption

variable {options : List LeadingOption} {option : LeadingOption} {found : Matches} {name : String}

section Chosen

def chosen (options : List LeadingOption) (found : Matches) : Matches :=
  options.foldr (fun option found => found.store option.name option.matched) found

theorem chosen_of_absent (absent : name ∉ options.map LeadingOption.name) :
    chosen options found name = found name := by
  induction options with
  | nil => rfl
  | cons first options ih =>
    rw [List.map_cons, List.mem_cons, not_or] at absent
    exact (Matches.store_other absent.1 ..).trans (ih absent.2)

theorem chosen_of_mem (once : (options.map LeadingOption.name).Nodup) (member : option ∈ options) :
    chosen options found option.name = some option.matched := by
  induction options with
  | nil => cases member
  | cons first options ih =>
    rw [List.map_cons, List.nodup_cons] at once
    rcases List.mem_cons.1 member with rfl | later
    · exact Matches.store_same ..
    · have other : option.name ≠ first.name := fun same =>
        once.1 (same ▸ List.mem_map_of_mem later)
      exact (Matches.store_other other ..).trans (ih once.2 later)

theorem chosen_perm {reordered : List LeadingOption}
    (once : (options.map LeadingOption.name).Nodup) (perm : reordered.Perm options) :
    chosen reordered found = chosen options found := by
  have once' : (reordered.map LeadingOption.name).Nodup := (perm.map _).nodup_iff.mpr once
  funext name
  by_cases given : name ∈ options.map LeadingOption.name
  · obtain ⟨option, member, rfl⟩ := List.mem_map.1 given
    rw [chosen_of_mem once member, chosen_of_mem once' (perm.mem_iff.2 member)]
  · have given' : name ∉ reordered.map LeadingOption.name := by
      rwa [(perm.map _).mem_iff]
    rw [chosen_of_absent given, chosen_of_absent given']

theorem lacks_chosen (lacks : found.Lacks name) (absent : name ∉ options.map LeadingOption.name) :
    (chosen options found).Lacks name := by
  rw [Matches.Lacks, chosen_of_absent absent]
  exact lacks

end Chosen

section Read

variable {read : CommandReader} {environment : Environment} {args : List String}

/-- One option adds its value to what is found. -/
theorem read_leading (documented : read.Documented command) (proper : option.Proper)
    (reads : read command environment args = .ok found) (lacks : found.Lacks option.name) :
    read command environment (option.words ++ args) =
      .ok (found.store option.name option.matched) := by
  cases option with
  | tree => exact documented.switch _ (.switch "tree") (by simp [command]) _ _ rfl reads lacks
  | debug => exact documented.switch _ (.switch "debug") (by simp [command]) _ _ rfl reads lacks
  | program name =>
    have accepted : programArgument.accepts name = true := decide_eq_true proper.1
    exact documented.long _ programArgument (by simp [command]) name _ _ rfl accepted proper.2 reads
      lacks
  | out short format =>
    have plain : Plain (formatWord format) := by cases format <;> decide
    have accepted : outArgument.accepts (formatWord format) = true := by
      change (OutputFormat.ofName? (formatWord format)).isSome = true
      rw [ofName?_formatWord, Option.isSome_some]
    have declared : outArgument ∈ command.arguments := by simp [command]
    cases short with
    | false => exact documented.long _ outArgument declared _ _ _ rfl accepted plain reads lacks
    | true =>
      exact documented.short _ outArgument declared 'o' rfl _ _ _ rfl accepted plain reads lacks

/-- So does every option of a run of them. -/
theorem read_options (documented : read.Documented command)
    (once : (options.map LeadingOption.name).Nodup) (proper : ∀ option ∈ options, option.Proper)
    (reads : read command environment args = .ok found)
    (lacks : ∀ option ∈ options, found.Lacks option.name) :
    read command environment (options.flatMap LeadingOption.words ++ args) =
      .ok (chosen options found) := by
  induction options with
  | nil => exact reads
  | cons first options ih =>
    rw [List.map_cons, List.nodup_cons] at once
    obtain ⟨firstProper, properLater⟩ := List.forall_mem_cons.1 proper
    obtain ⟨firstLacks, lacksLater⟩ := List.forall_mem_cons.1 lacks
    rw [List.flatMap_cons, List.append_assoc]
    exact read_leading documented firstProper (ih once.2 properLater lacksLater)
      (lacks_chosen firstLacks once.1)

end Read

section Settings

variable {read : CommandReader} {environment : Environment} {first : String} {rest : List String}

def unchosen (environment : Environment) (words : List String) : Matches :=
  (command.fallbacks environment).store "expr" ⟨.commandLine, words⟩

theorem unchosen_eq {argument : Argument} (declared : argument ∈ command.arguments)
    (words : List String) :
    unchosen environment words argument.name = argument.fallback? environment := by
  have option : argument.name ≠ "expr" := (command.name_ne declared).2.2
  rw [unchosen, Matches.store_other option, Command.fallbacks, command.argument?_eq declared]
  rfl

theorem lacks_fallback {argument : Argument} {matched : Matched}
    (fallback : argument.fallback? environment = some matched) : matched.source ≠ .commandLine := by
  rw [Argument.fallback?] at fallback
  split at fallback
  next =>
    cases fallback
    nofun
  next =>
    obtain ⟨value, -, rfl⟩ := Option.map_eq_some_iff.1 fallback
    nofun

theorem exists_declared (option : LeadingOption) :
    ∃ argument ∈ command.arguments, argument.name = option.name := by
  cases option with
  | tree => exact ⟨.switch "tree", by simp [command], rfl⟩
  | debug => exact ⟨.switch "debug", by simp [command], rfl⟩
  | out short format => exact ⟨outArgument, by simp [command], rfl⟩
  | program name => exact ⟨programArgument, by simp [command], rfl⟩

theorem admits_of_set (set : environment "PERMCALC_GCLOUD" ≠ some "") :
    command.Admits environment := by
  intro argument declared value told
  have four : argument = .switch "tree" ∨ argument = .switch "debug" ∨ argument = outArgument ∨
      argument = programArgument := by simpa [command] using declared
  rcases four with rfl | rfl | rfl | rfl
  · cases told
  · cases told
  · cases told
  · refine decide_eq_true ?_
    rintro rfl
    exact set told

theorem read_words (documented : read.Documented command)
    (once : (options.map LeadingOption.name).Nodup) (proper : ∀ option ∈ options, option.Proper)
    (set : environment "PERMCALC_GCLOUD" ≠ some "") (plain : Plain first) :
    read command environment (options.flatMap LeadingOption.words ++ first :: rest) =
      .ok (chosen options (unchosen environment (first :: rest))) := by
  have words : read command environment (first :: rest) =
      .ok (unchosen environment (first :: rest)) :=
    (documented.trailing _ _ _ rfl rfl plain).trans
      (documented.escape _ _ nofun (admits_of_set set))
  refine read_options documented once proper words fun option _ => ?_
  obtain ⟨argument, declared, same⟩ := exists_declared option
  intro matched found
  rw [← same, unchosen_eq declared] at found
  exact lacks_fallback found

theorem one?_chosen (once : (options.map LeadingOption.name).Nodup) (found : Matches)
    (name : String) :
    (∃ option ∈ options, option.name = name ∧
        (chosen options found).one? name = some option.value) ∨
      (∀ option ∈ options, option.name ≠ name) ∧
        (chosen options found).one? name = found.one? name := by
  by_cases given : name ∈ options.map LeadingOption.name
  · obtain ⟨option, member, rfl⟩ := List.mem_map.1 given
    refine .inl ⟨option, member, rfl, ?_⟩
    rw [Matches.one?, Matches.all, chosen_of_mem once member]
    rfl
  · refine .inr ⟨fun option member same => given (same ▸ List.mem_map_of_mem member), ?_⟩
    rw [Matches.one?, Matches.one?, Matches.all, Matches.all, chosen_of_absent given]

theorem one?_unchosen {argument : Argument} {source : Source} {value : String}
    (declared : argument ∈ command.arguments)
    (fallback : argument.fallback? environment = some ⟨source, [value]⟩) (words : List String) :
    (unchosen environment words).one? argument.name = some value := by
  rw [Matches.one?, Matches.all, unchosen_eq declared, fallback]
  rfl

theorem switch_chosen {switch : LeadingOption} (either : switch = .tree ∨ switch = .debug)
    (once : (options.map LeadingOption.name).Nodup) (words : List String) :
    ∃ flag, (chosen options (unchosen environment words)).one? switch.name = some flag ∧
      (flag = "true" ↔ switch ∈ options) := by
  have declared : Argument.switch switch.name ∈ command.arguments := by
    rcases either with rfl | rfl <;> simp [command, LeadingOption.name]
  have on : switch.value = "true" := by rcases either with rfl | rfl <;> rfl
  have only : ∀ option : LeadingOption, option.name = switch.name → option = switch := by
    intro option same
    rcases either with rfl | rfl <;> cases option <;> simp [LeadingOption.name] at same ⊢
  rcases one?_chosen once (unchosen environment words) switch.name with
    ⟨option, member, same, value⟩ | ⟨absent, value⟩
  · obtain rfl := only option same
    exact ⟨_, value, iff_of_true on member⟩
  · have off := @one?_unchosen environment (.switch switch.name) .default "false" declared rfl words
    exact ⟨_, value.trans off, iff_of_false (by decide) fun member => absent switch member rfl⟩

theorem out_chosen (once : (options.map LeadingOption.name).Nodup) (words : List String) :
    ∃ format, (chosen options (unchosen environment words)).one? "out" =
        some (formatWord format) ∧
      (∀ short other, .out short other ∈ options → format = other) ∧
      ((∀ short other, .out short other ∉ options) → format = .text) := by
  rcases one?_chosen once (unchosen environment words) "out" with
    ⟨option, member, same, value⟩ | ⟨absent, value⟩
  · cases option with
    | out short format =>
      refine ⟨format, value, fun short' other member' => ?_, fun none => absurd member (none _ _)⟩
      cases List.inj_on_of_nodup_map once member member' rfl
      rfl
    | tree | debug | program => simp [LeadingOption.name] at same
  · have declared : outArgument ∈ command.arguments := by simp [command]
    have standard := @one?_unchosen environment outArgument .default "text" declared rfl words
    exact ⟨.text, value.trans standard, fun _ _ member => absurd rfl (absent _ member),
      fun _ => rfl⟩

theorem program_chosen (once : (options.map LeadingOption.name).Nodup) (words : List String) :
    ∃ program, (chosen options (unchosen environment words)).one? "gcloud" = some program ∧
      (∀ name, .program name ∈ options → program = name) ∧
      ((∀ name, .program name ∉ options) →
        program = (environment "PERMCALC_GCLOUD").getD "gcloud") := by
  rcases one?_chosen once (unchosen environment words) "gcloud" with
    ⟨option, member, same, value⟩ | ⟨absent, value⟩
  · cases option with
    | program name =>
      refine ⟨name, value, fun other member' => ?_, fun none => absurd member (none _)⟩
      cases List.inj_on_of_nodup_map once member member' rfl
      rfl
    | tree | debug | out => simp [LeadingOption.name] at same
  · have declared : programArgument ∈ command.arguments := by simp [command]
    have standard : ∃ source, programArgument.fallback? environment =
        some ⟨source, [(environment "PERMCALC_GCLOUD").getD "gcloud"]⟩ := by
      have told : programArgument.env?.bind environment = environment "PERMCALC_GCLOUD" := rfl
      rw [Argument.fallback?, told]
      cases environment "PERMCALC_GCLOUD" <;> exact ⟨_, rfl⟩
    obtain ⟨source, fallback⟩ := standard
    exact ⟨_, value.trans (one?_unchosen declared fallback words),
      fun _ member => absurd rfl (absent _ member), fun _ => rfl⟩

theorem all_chosen (options : List LeadingOption) (words : List String) :
    (chosen options (unchosen environment words)).all "expr" = words := by
  have absent : "expr" ∉ options.map LeadingOption.name := by
    intro member
    obtain ⟨option, -, same⟩ := List.mem_map.1 member
    cases option <;> simp [LeadingOption.name] at same
  rw [Matches.all, chosen_of_absent absent, unchosen, Matches.store_same]
  rfl

theorem ofMatches?_eq {tree debug program : String} {format : OutputFormat}
    (onTree : found.one? "tree" = some tree) (onDebug : found.one? "debug" = some debug)
    (onOut : found.one? "out" = some (formatWord format))
    (onProgram : found.one? "gcloud" = some program) :
    Settings.ofMatches? found =
      some ⟨tree = "true", debug = "true", format, program, found.all "expr"⟩ := by
  rw [Settings.ofMatches?, onTree, onDebug, onOut, onProgram]
  simp only [Option.bind_eq_bind, Option.bind_some, ofName?_formatWord]
  rfl

theorem settings_of_found {args : List String} {settled : Settings}
    (reads : read command environment args = .ok found)
    (declared : Settings.ofMatches? found = some settled) :
    settings read environment args = .ok settled := by
  rw [settings, reads]
  change (Settings.ofMatches? found).elim _ _ = _
  rw [declared]
  rfl

/-- Options in front of a formula are taken in any order, each for what it is, and the formula gets
all words from the first that starts with no hyphen on, as they are. What is not chosen is as
standard, a program unless the environment names one. -/
theorem settings_of_leading (documented : read.Documented command)
    (set : environment "PERMCALC_GCLOUD" ≠ some "")
    (once : (options.map LeadingOption.name).Nodup) (proper : ∀ option ∈ options, option.Proper)
    (plain : Plain first) (rest : List String) :
    ∃ settled,
      settings read environment (options.flatMap LeadingOption.words ++ first :: rest) =
        .ok settled ∧
      settled.words = first :: rest ∧
      (settled.tree = true ↔ .tree ∈ options) ∧
      (settled.debug = true ↔ .debug ∈ options) ∧
      (∀ short format, .out short format ∈ options → settled.out = format) ∧
      ((∀ short format, .out short format ∉ options) → settled.out = .text) ∧
      (∀ name, .program name ∈ options → settled.program = name) ∧
      ((∀ name, .program name ∉ options) →
        settled.program = (environment "PERMCALC_GCLOUD").getD "gcloud") ∧
      ∀ reordered : List LeadingOption, reordered.Perm options →
        settings read environment (reordered.flatMap LeadingOption.words ++ first :: rest) =
          .ok settled := by
  obtain ⟨tree, onTree, treeGiven⟩ :=
    @switch_chosen options environment .tree (.inl rfl) once (first :: rest)
  obtain ⟨debug, onDebug, debugGiven⟩ :=
    @switch_chosen options environment .debug (.inr rfl) once (first :: rest)
  obtain ⟨out, onOut, outGiven, outStandard⟩ := @out_chosen options environment once (first :: rest)
  obtain ⟨program, onProgram, programGiven, programStandard⟩ :=
    @program_chosen options environment once (first :: rest)
  have declared := ofMatches?_eq onTree onDebug onOut onProgram
  rw [all_chosen] at declared
  refine ⟨_, settings_of_found (read_words documented once proper set plain) declared, rfl,
    decide_eq_true_iff.trans treeGiven, decide_eq_true_iff.trans debugGiven, outGiven, outStandard,
    programGiven, programStandard, ?_⟩
  intro reordered perm
  have once' : (reordered.map LeadingOption.name).Nodup := (perm.map _).nodup_iff.mpr once
  have proper' : ∀ option ∈ reordered, option.Proper :=
    fun option member => proper option (perm.mem_iff.mp member)
  rw [← chosen_perm once perm] at declared
  exact settings_of_found (read_words documented once' proper' set plain) declared

theorem settings_of_leading_hyphens :
    let environment : Environment := fun name =>
      if name = "PERMCALC_GCLOUD" then some "other" else none
    let settled : Settings :=
      ⟨false, true, .yaml, "roles", ["a", "--tree", "--help", "-o", "--"]⟩
    settings .standard environment (["-o", "yaml", "--debug", "--gcloud", "roles"] ++
      ["a", "--tree", "--help", "-o", "--"]) = .ok settled ∧
    settings .standard environment (["--gcloud", "roles", "-o", "yaml", "--debug"] ++
      ["a", "--tree", "--help", "-o", "--"]) = .ok settled := by
  intro environment
  let options : List LeadingOption := [.out true .yaml, .debug, .program "roles"]
  have once : (options.map LeadingOption.name).Nodup := by decide
  have proper : ∀ option ∈ options, option.Proper := by decide
  have set : environment "PERMCALC_GCLOUD" ≠ some "" := by decide
  have plain : Plain "a" := by decide
  obtain ⟨⟨tree, debug, out, program, words⟩, read, rfl, onTree, onDebug, onOut, -, onProgram, -,
    reordered⟩ := settings_of_leading (standard_documented command) set once proper plain
      ["--tree", "--help", "-o", "--"]
  have untold : tree = false := eq_false_of_ne_true fun tree => absurd (onTree.mp tree) (by decide)
  have told : debug = true := onDebug.mpr (by decide)
  have format : out = .yaml := onOut true .yaml (by decide)
  have name : program = "roles" := onProgram "roles" (by decide)
  subst untold told format name
  exact ⟨read, reordered [.program "roles", .out true .yaml, .debug] (by decide)⟩

end Settings

end RoleAlgebra.CommandLine
