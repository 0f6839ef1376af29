import RoleAlgebra.Proofs.Parser.Incomplete

namespace RoleAlgebra

/-- What a text is read as, apart from all places: a tree, or the cause of an error. -/
def Formula.reading (text : String) : Except ParseError.Cause Formula :=
  ((parse text).map bare).mapError (·.cause)

namespace Parser

variable {text : String}

def Outlook.readAll (outlook : Outlook) : List Token.Kind → Except ParseError.Cause Outlook
  | [] => .ok outlook
  | kind :: rest =>
    match outlook.next kind with
    | .ok after => after.readAll rest
    | .error cause => .error cause

def missing : Option Token.Kind → ParseError.Cause
  | none => .empty
  | some (.op _) => .unexpectedEnd .operand
  | some .opening => .unexpectedEnd .operand
  | some .at => .noFileName none
  | some .closing => .unclosed
  | some (.word _) => .unclosed

def causeOf (kinds : List Token.Kind) : ParseError.Cause :=
  match State.start.outlook.readAll kinds with
  | .error cause => cause
  | .ok _ => missing kinds.getLast?

theorem readAll_outlook (text : String) (state : State) (tokens : List Token) :
    ((readAll text state tokens).map State.outlook).mapError (·.cause) =
      state.outlook.readAll (tokens.map (·.kind)) := by
  induction tokens generalizing state with
  | nil => rfl
  | cons token tokens ih =>
    rw [readAll, List.map_cons, Outlook.readAll]
    cases stepped : step text state token with
    | ok next =>
      rw [next_of_step stepped]
      exact ih next
    | error error =>
      rw [(next_of_step_error stepped).1]
      rfl

theorem cause_of_finish_missing {scan : Scan} {state : State} {error : ParseError}
    (read : readAll text .start scan.tokens = .ok state)
    (ended : finish text scan.stop state = .error error) :
    error.cause = missing scan.kinds.getLast? := by
  rcases List.eq_nil_or_concat scan.tokens with none | ⟨earlier, last, split⟩
  · rw [none] at read
    cases read
    cases ended
    rw [Scan.kinds, none]
    rfl
  · rw [List.concat_eq_append] at split
    rw [split] at read
    obtain ⟨before, moves⟩ := exists_moves_of_readAll read
    obtain ⟨afterMark, beforeOperand, afterOperand⟩ := moves.finish scan.stop
    have final : scan.kinds.getLast? = some last.kind := by
      rw [Scan.kinds, split, List.map_append, List.map_singleton, List.getLast?_concat]
    have unclosed : (last.kind = .closing ∨ ∃ id, last.kind = .word id) →
        error.cause = .unclosed := by
      intro operand
      obtain ⟨left, sum?, groups, rfl⟩ := afterOperand operand
      cases groups with
      | nil => cases ended
      | cons group groups => cases ended; rfl
    rw [final]
    cases kind : last.kind with
    | op op =>
      rw [beforeOperand (.inr ⟨op, kind⟩)] at ended
      cases ended
      rfl
    | opening =>
      rw [beforeOperand (.inl kind)] at ended
      cases ended
      rfl
    | «at» =>
      rw [afterMark kind] at ended
      cases ended
      rfl
    | closing => exact unclosed (.inl kind)
    | word id => exact unclosed (.inr ⟨id, kind⟩)

theorem cause_of_formulaOf {scan : Scan} {error : ParseError}
    (failed : formulaOf text scan = .error error) : error.cause = causeOf scan.kinds := by
  have outlook := readAll_outlook text .start scan.tokens
  rcases formulaOf_eq_error failed with stuck | ⟨state, read, ended⟩
  · rw [stuck] at outlook
    rw [causeOf, Scan.kinds, ← outlook]
    rfl
  · rw [read] at outlook
    rw [causeOf, Scan.kinds, ← outlook, ← Scan.kinds]
    exact cause_of_finish_missing read ended

end Parser

namespace Formula

variable {text other : String} {scan scan' : Scan}

theorem reading_of_parse {f : Formula} (parsed : parse text = .ok f) :
    reading text = .ok f.bare := by
  rw [reading, parsed]
  rfl

theorem reading_of_error {error : ParseError} (failed : parse text = .error error) :
    reading text = .error error.cause := by
  rw [reading, failed]
  rfl

theorem reading_of_derives (tokenized : tokenize text = .ok scan) {f : Formula}
    (derived : Grammar.Derives .formula scan.kinds f) : reading text = .ok f := by
  obtain ⟨g, built, rfl⟩ : ∃ g, Grammar.Builds text .formula scan.tokens g ∧ g.bare = f :=
    derived.builds rfl
  exact reading_of_parse (parse_eq_ok_iff.2 ⟨scan, tokenized, built⟩)

theorem reading_of_failed (tokenized : tokenize text = .ok scan) {error : ParseError}
    (failed : parse text = .error error) : reading text = .error (Parser.causeOf scan.kinds) := by
  rw [reading_of_error failed]
  rw [parse_of_tokenize tokenized] at failed
  rw [Parser.cause_of_formulaOf failed]

theorem reading_of_parse_of_kinds {f : Formula} (parsed : parse text = .ok f)
    (tokenized : tokenize text = .ok scan) (tokenized' : tokenize other = .ok scan')
    (same : scan.kinds = scan'.kinds) : reading text = reading other := by
  obtain ⟨_, known, built⟩ := parse_eq_ok_iff.1 parsed
  obtain rfl := Except.ok.inj (known.symm.trans tokenized)
  have derived := built.derives
  rw [← Scan.kinds, same] at derived
  rw [reading_of_parse parsed, reading_of_derives tokenized' derived]

/-- Texts with the same tokens are read alike, wherever the tokens stand in them. -/
theorem reading_of_kinds (tokenized : tokenize text = .ok scan)
    (tokenized' : tokenize other = .ok scan') (same : scan.kinds = scan'.kinds) :
    reading text = reading other := by
  cases parsed : parse text with
  | ok f => exact reading_of_parse_of_kinds parsed tokenized tokenized' same
  | error error =>
    cases parsed' : parse other with
    | ok g => exact (reading_of_parse_of_kinds parsed' tokenized' tokenized same.symm).symm
    | error error' =>
      rw [reading_of_failed tokenized parsed, reading_of_failed tokenized' parsed', same]

end Formula
end RoleAlgebra
