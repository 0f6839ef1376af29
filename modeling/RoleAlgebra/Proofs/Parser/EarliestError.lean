import RoleAlgebra.Proofs.Parser.Acceptance
import RoleAlgebra.Proofs.Token.Locality

/-!
Where syntax errors are found. Every state of the parser can still be led to the end of a formula
(`viable_of_readAll`), and a token that it refuses can follow in no formula (`not_viable_of_step`).
Whether a token is refused, and why, depends on little of a state: its `Outlook`. Therefore the text
behind a refused token plays no part in the error.
-/

namespace RoleAlgebra

/-- Tokens that begin some formula. -/
def Grammar.Viable (kinds : List Token.Kind) : Prop :=
  ∃ rest f, Grammar.Derives .formula (kinds ++ rest) f

/-- The token that an error speaks of; none if it speaks of the end of the text. -/
def ParseError.Cause.found? : ParseError.Cause → Option Token.Kind
  | unexpected found _ => some found
  | trailing found => some found
  | noFileName found? => found?
  | unrecognized _ => none
  | empty => none
  | unexpectedEnd _ => none
  | unclosed => none

namespace Parser

open Grammar

variable {text : String}

inductive Mode where
  | operand
  | path
  | operator
  deriving DecidableEq, Repr

structure Outlook where
  mode : Mode
  depth : Nat
  deriving DecidableEq, Repr

namespace Outlook

def next (outlook : Outlook) (kind : Token.Kind) : Except ParseError.Cause Outlook :=
  match outlook.mode, kind with
  | .operand, .word _ => .ok ⟨.operator, outlook.depth⟩
  | .operand, .at => .ok ⟨.path, outlook.depth⟩
  | .operand, .opening => .ok ⟨.operand, outlook.depth + 1⟩
  | .operand, kind => .error (.unexpected kind .operand)
  | .path, .word _ => .ok ⟨.operator, outlook.depth⟩
  | .path, kind => .error (.noFileName (some kind))
  | .operator, .op _ => .ok ⟨.operand, outlook.depth⟩
  | .operator, .closing =>
    if outlook.depth = 0 then .error (.trailing .closing)
    else .ok ⟨.operator, outlook.depth - 1⟩
  | .operator, kind =>
    if outlook.depth = 0 then .error (.trailing kind) else .error (.unexpected kind .closing)

def completion (outlook : Outlook) : List Token.Kind :=
  match outlook.mode with
  | .operator => List.replicate outlook.depth .closing
  | .operand | .path => .word "a" :: List.replicate outlook.depth .closing

theorem found?_of_next {outlook : Outlook} {kind : Token.Kind} {cause : ParseError.Cause}
    (refused : outlook.next kind = .error cause) : cause.found? = some kind := by
  obtain ⟨mode, depth⟩ := outlook
  cases mode with
  | operand => cases kind <;> cases refused <;> rfl
  | path => cases kind <;> cases refused <;> rfl
  | operator =>
    cases kind with
    | op op => cases refused
    | opening | closing | «at» | word =>
      simp only [next] at refused
      split at refused <;> cases refused <;> rfl

end Outlook

def State.outlook : State → Outlook
  | operand _ groups => ⟨.operand, groups.length⟩
  | path _ _ groups => ⟨.path, groups.length⟩
  | operator _ _ groups => ⟨.operator, groups.length⟩

theorem step_outlook (text : String) (state : State) (token : Token) :
    (step text state token).map State.outlook =
      (state.outlook.next token.kind).mapError fun cause => ⟨cause, place text token⟩ := by
  cases state with
  | operand level groups =>
    cases kind : token.kind <;>
      simp only [step, kind, State.read, State.outlook, Outlook.next] <;> rfl
  | path mark level groups =>
    cases kind : token.kind <;>
      simp only [step, kind, State.read, State.outlook, Outlook.next] <;> rfl
  | operator left sum? groups =>
    cases kind : token.kind with
    | op op =>
      cases op <;>
        simp only [step, kind, State.outlook, Outlook.next, Operator.precedence] <;> rfl
    | opening | closing | «at» | word =>
      cases groups <;>
        simp only [step, kind, State.read, State.outlook, Outlook.next] <;> rfl

theorem next_of_step {state next : State} {token : Token}
    (stepped : step text state token = .ok next) :
    state.outlook.next token.kind = .ok next.outlook := by
  have outlook := step_outlook text state token
  rw [stepped] at outlook
  cases expected : state.outlook.next token.kind with
  | ok after =>
    rw [expected] at outlook
    exact congrArg Except.ok (Except.ok.inj outlook).symm
  | error cause =>
    rw [expected] at outlook
    cases outlook

theorem next_of_step_error {state : State} {token : Token} {error : ParseError}
    (refused : step text state token = .error error) :
    state.outlook.next token.kind = .error error.cause ∧ error.place = place text token := by
  have outlook := step_outlook text state token
  rw [refused] at outlook
  cases expected : state.outlook.next token.kind with
  | ok after =>
    rw [expected] at outlook
    cases outlook
  | error cause =>
    rw [expected] at outlook
    obtain rfl := Except.error.inj outlook
    exact ⟨rfl, rfl⟩

theorem step_of_outlook (other : String) {state next similar : State} {token : Token}
    (same : similar.outlook = state.outlook) (stepped : step text state token = .ok next) :
    ∃ reached, step other similar token = .ok reached ∧ reached.outlook = next.outlook := by
  have outlook := step_outlook other similar token
  rw [same, next_of_step stepped] at outlook
  cases moved : step other similar token with
  | ok reached =>
    rw [moved] at outlook
    exact ⟨reached, rfl, Except.ok.inj outlook⟩
  | error error =>
    rw [moved] at outlook
    cases outlook

theorem step_error_of_outlook (other : String) {state similar : State} {token : Token}
    {error : ParseError}
    (same : similar.outlook = state.outlook) (refused : step text state token = .error error) :
    step other similar token = .error ⟨error.cause, place other token⟩ := by
  have outlook := step_outlook other similar token
  rw [same, (next_of_step_error refused).1] at outlook
  cases moved : step other similar token with
  | ok reached =>
    rw [moved] at outlook
    cases outlook
  | error failure =>
    rw [moved] at outlook
    exact congrArg Except.error (Except.error.inj outlook)

theorem readAll_of_outlook (other : String) {state next similar : State} {tokens : List Token}
    (same : similar.outlook = state.outlook) (read : readAll text state tokens = .ok next) :
    ∃ reached, readAll other similar tokens = .ok reached ∧ reached.outlook = next.outlook := by
  induction tokens generalizing state similar with
  | nil =>
    cases read
    exact ⟨similar, rfl, same⟩
  | cons token tokens ih =>
    rw [readAll] at read
    split at read
    next between stepped =>
      obtain ⟨reached, moved, alike⟩ := step_of_outlook other same stepped
      rw [readAll, moved]
      exact ih alike read
    next => cases read

theorem exists_of_readAll_error {state : State} {tokens : List Token} {error : ParseError}
    (failed : readAll text state tokens = .error error) :
    ∃ before token later reached, tokens = before ++ token :: later ∧
      readAll text state before = .ok reached ∧ step text reached token = .error error := by
  induction tokens generalizing state with
  | nil => cases failed
  | cons token tokens ih =>
    rw [readAll] at failed
    split at failed
    next next stepped =>
      obtain ⟨before, refused, later, reached, rfl, read, stuck⟩ := ih failed
      refine ⟨token :: before, refused, later, reached, rfl, ?_, stuck⟩
      rw [readAll, stepped]
      exact read
    next error refused =>
      cases failed
      exact ⟨[], token, tokens, state, rfl, rfl, refused⟩

theorem readAll_error_of_refused {state reached : State} {before : List Token} {token : Token}
    {error : ParseError} (read : readAll text state before = .ok reached)
    (refused : step text reached token = .error error) (later : List Token) :
    readAll text state (before ++ token :: later) = .error error := by
  rw [readAll_append_of_ok read, readAll, refused]

theorem readAll_closings (left : Formula) (sum? : Option Pending) (groups : List Group)
    {tokens : List Token}
    (closings : tokens.map (·.kind) = List.replicate groups.length .closing) :
    ∃ whole waiting?, readAll text (.operator left sum? groups) tokens =
      .ok (.operator whole waiting? []) := by
  induction groups generalizing left sum? tokens with
  | nil =>
    obtain rfl := List.map_eq_nil_iff.1 closings
    exact ⟨left, sum?, rfl⟩
  | cons group groups ih =>
    obtain ⟨token, later, rfl, closing, rest⟩ := List.map_eq_cons_iff.1 closings
    rw [(Moves.closing closing).readAll]
    exact ih _ _ rest

theorem readAll_completion (text : String) {state : State} {tokens : List Token}
    (completes : tokens.map (·.kind) = state.outlook.completion) :
    ∃ left sum?, readAll text state tokens = .ok (.operator left sum? []) := by
  cases state with
  | operand level groups =>
    obtain ⟨token, later, rfl, word, rest⟩ := List.map_eq_cons_iff.1 completes
    rw [(Moves.named word).readAll]
    exact readAll_closings _ _ groups rest
  | path mark level groups =>
    obtain ⟨token, later, rfl, word, rest⟩ := List.map_eq_cons_iff.1 completes
    rw [(Moves.file word).readAll]
    exact readAll_closings _ _ groups rest
  | operator left sum? groups => exact readAll_closings left sum? groups completes

theorem viable_of_readAll {tokens : List Token} {state : State}
    (read : readAll text .start tokens = .ok state) : Viable (tokens.map (·.kind)) := by
  -- where the completing tokens stand does not matter
  let rest : List Token := state.outlook.completion.map fun kind => ⟨kind, 0, 0⟩
  have completes : rest.map (·.kind) = state.outlook.completion := by
    simp [rest, Function.comp_def]
  obtain ⟨left, sum?, readRest⟩ := readAll_completion text completes
  have whole : readAll text .start (tokens ++ rest) = .ok (.operator left sum? []) := by
    rw [readAll_append_of_ok read, readRest]
  have derived := (covers_of_readAll State.start_covers whole).builds.derives
  rw [List.nil_append, List.map_append] at derived
  exact ⟨_, _, derived⟩

theorem not_viable_of_step {before : List Token} {token : Token} {state : State}
    {error : ParseError} (read : readAll text .start before = .ok state)
    (refused : step text state token = .error error) :
    ¬ Viable ((before ++ [token]).map (·.kind)) := by
  rintro ⟨kinds, f, derived⟩
  let rest : List Token := kinds.map fun kind => ⟨kind, 0, 0⟩
  have same : (before ++ token :: rest).map (·.kind) =
      (before ++ [token]).map (·.kind) ++ kinds := by
    simp [rest, Function.comp_def]
  obtain ⟨g, built, -⟩ : ∃ g, Builds text .formula (before ++ token :: rest) g ∧ g.bare = f :=
    derived.builds same
  -- the parser would read all of the formula, and so past the token that it refuses
  obtain ⟨left, sum?, -, whole⟩ := reads_of_builds built []
  have stuck := readAll_error_of_refused read refused rest
  rw [State.start] at stuck
  rw [stuck] at whole
  cases whole

theorem finish_eq_error {stop : Nat} {state : State} {error : ParseError}
    (failed : finish text stop state = .error error) :
    error = ⟨.empty, .between text 0 stop⟩ ∨
      error = ⟨.unexpectedEnd .operand, .between text stop stop⟩ ∨
      error = ⟨.noFileName none, .between text stop stop⟩ ∨
      ∃ left sum? group groups, state = .operator left sum? (group :: groups) ∧
        error = ⟨.unclosed, place text group.opening⟩ := by
  unfold finish at failed
  split at failed
  next => split at failed <;> cases failed <;> simp
  next => cases failed; simp
  next => cases failed
  next left sum? group groups =>
    cases failed
    exact .inr (.inr (.inr ⟨left, sum?, group, groups, rfl, rfl⟩))

theorem cause_of_finish {stop : Nat} {state : State} {error : ParseError}
    (failed : finish text stop state = .error error) :
    error.cause ∈ [.empty, .unexpectedEnd .operand, .unclosed, .noFileName none] := by
  rcases finish_eq_error failed with rfl | rfl | rfl | ⟨_, _, _, _, -, rfl⟩ <;> simp

theorem found?_of_finish {stop : Nat} {state : State} {error : ParseError}
    (failed : finish text stop state = .error error) : error.cause.found? = none := by
  have cause := cause_of_finish failed
  simp only [List.mem_cons, List.not_mem_nil, or_false] at cause
  rcases cause with same | same | same | same <;> rw [same] <;> rfl

theorem formulaOf_eq_error {scan : Scan} {error : ParseError}
    (failed : formulaOf text scan = .error error) :
    readAll text .start scan.tokens = .error error ∨
      ∃ state, readAll text .start scan.tokens = .ok state ∧
        finish text scan.stop state = .error error := by
  rw [formulaOf] at failed
  cases read : readAll text .start scan.tokens with
  | ok state =>
    rw [read] at failed
    exact .inr ⟨state, rfl, failed⟩
  | error error =>
    rw [read] at failed
    cases failed
    exact .inl rfl

theorem not_derives_of_formulaOf {scan : Scan} {error : ParseError}
    (failed : formulaOf text scan = .error error) : ¬ ∃ f, Derives .formula scan.kinds f := by
  rintro ⟨f, derived⟩
  obtain ⟨g, built, -⟩ := derived.builds rfl
  rw [formulaOf_eq_ok_iff.2 built] at failed
  cases failed

/-- A refused token is refused with the same error wherever the tokens up to it are the same. -/
theorem formulaOf_of_refused (other : String) {before : List Token} {token : Token} {state : State}
    {error : ParseError} (read : readAll text .start before = .ok state)
    (refused : step text state token = .error error) (later : List Token) (stop : Nat) :
    formulaOf other ⟨before ++ token :: later, stop⟩ =
      .error ⟨error.cause, place other token⟩ := by
  obtain ⟨similar, readOther, alike⟩ := readAll_of_outlook other rfl read
  have refusedOther := step_error_of_outlook other alike refused
  rw [formulaOf, readAll_error_of_refused readOther refusedOther]
  rfl

end Parser

open Grammar

theorem Formula.parse_of_tokenize {text : String} {scan : Scan}
    (tokenized : tokenize text = .ok scan) : parse text = Parser.formulaOf text scan := by
  rw [parse, tokenized]
  rfl

/-- An error at a token names the first token that begins no formula together with those before it,
and the text after it has no part in the error; any other error is found at the end of a text that
begins a formula and is none. -/
theorem parse_error_earliest {text : String} {scan : Scan} {error : ParseError}
    (tokenized : tokenize text = .ok scan) (failed : Formula.parse text = .error error) :
    (∀ kind, error.cause.found? = some kind → ∃ before token later,
      scan.tokens = before ++ token :: later ∧ token.kind = kind ∧
      error.place = Parser.place text token ∧
      Viable (before.map (·.kind)) ∧ ¬ Viable ((before ++ [token]).map (·.kind)) ∧
      ∃ head rest, text.toList = head ++ rest ∧ Text.size head = token.stop ∧
        ∀ (other : String) (suffix : List Char), other.toList = head ++ suffix →
          (∀ c ∈ suffix, Token.InAlphabet c) → token.Ends suffix →
          Formula.parse other =
            .error ⟨error.cause, other, error.place.start, error.place.length⟩) ∧
    (error.cause.found? = none →
      error.cause ∈ [.empty, .unexpectedEnd .operand, .unclosed, .noFileName none] ∧
      Viable scan.kinds ∧ ¬ ∃ f, Derives .formula scan.kinds f) := by
  rw [Formula.parse_of_tokenize tokenized] at failed
  rcases Parser.formulaOf_eq_error failed with stuck | ⟨state, read, ended⟩
  · obtain ⟨before, token, later, state, split, read, refused⟩ :=
      Parser.exists_of_readAll_error stuck
    obtain ⟨expected, place⟩ := Parser.next_of_step_error refused
    have found := Parser.Outlook.found?_of_next expected
    obtain ⟨head, rest, parts, bytes, -, same⟩ := tokenize_of_same_start tokenized split
    refine ⟨?_, fun none => by simp [found] at none⟩
    intro kind names
    have kind : token.kind = kind := by simpa [found] using names
    refine ⟨before, token, later, split, kind, place, Parser.viable_of_readAll read,
      Parser.not_viable_of_step read refused, head, rest, parts, bytes, ?_⟩
    intro other suffix otherParts known ends
    obtain ⟨later, stop, otherTokens⟩ := same other suffix otherParts known ends
    have refusedOther := Parser.formulaOf_of_refused other read refused later stop
    rw [Formula.parse_of_tokenize otherTokens, refusedOther, place]
    rfl
  · refine ⟨fun kind names => ?_, fun _ => ?_⟩
    · rw [Parser.found?_of_finish ended] at names
      cases names
    · exact ⟨Parser.cause_of_finish ended, Parser.viable_of_readAll read,
        Parser.not_derives_of_formulaOf failed⟩

theorem parse_error_earliest_unclosed :
    (∃ scan before token later, tokenize "a-(b*)" = .ok scan ∧
      scan.tokens = before ++ token :: later ∧ token.kind = .closing ∧
      Viable (before.map (·.kind)) ∧ ¬ Viable ((before ++ [token]).map (·.kind))) ∧
    ∃ scan, tokenize "a-(b*@" = .ok scan ∧ Viable scan.kinds ∧
      ¬ ∃ f, Derives .formula scan.kinds f := by
  constructor
  · have tokenized : tokenize "a-(b*)" = .ok ⟨[⟨.word "a", 0, 1⟩, ⟨.op .diff, 1, 1⟩,
      ⟨.opening, 2, 1⟩, ⟨.word "b", 3, 1⟩, ⟨.op .and, 4, 1⟩, ⟨.closing, 5, 1⟩], 6⟩ := rfl
    have failed : Formula.parse "a-(b*)" =
        .error ⟨.unexpected .closing .operand, "a-(b*)", 5, 1⟩ := rfl
    obtain ⟨before, token, later, split, kind, -, viable, not, -⟩ :=
      (parse_error_earliest tokenized failed).1 .closing rfl
    exact ⟨_, before, token, later, tokenized, split, kind, viable, not⟩
  · have tokenized : tokenize "a-(b*@" = .ok ⟨[⟨.word "a", 0, 1⟩, ⟨.op .diff, 1, 1⟩,
      ⟨.opening, 2, 1⟩, ⟨.word "b", 3, 1⟩, ⟨.op .and, 4, 1⟩, ⟨.at, 5, 1⟩], 6⟩ := rfl
    have failed : Formula.parse "a-(b*@" = .error ⟨.noFileName none, "a-(b*@", 6, 0⟩ := rfl
    obtain ⟨-, viable, none⟩ := (parse_error_earliest tokenized failed).2 rfl
    exact ⟨_, tokenized, viable, none⟩

end RoleAlgebra
