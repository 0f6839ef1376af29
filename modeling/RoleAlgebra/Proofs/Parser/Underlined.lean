import RoleAlgebra.Proofs.Parser.Incomplete

namespace RoleAlgebra

namespace Text

theorem slice?_whole (text : String) : slice? text 0 text.utf8ByteSize = some text := by
  have whole : Part text.toList 0 text.utf8ByteSize text.toList :=
    ⟨[], [], by simp, rfl, by rw [Nat.zero_add, size_toList]⟩
  rw [whole.slice?, String.ofList_toList]

theorem slice?_end (text : String) :
    slice? text text.utf8ByteSize text.utf8ByteSize = some "" := by
  rw [← size_toList]
  exact (part_end text.toList).slice?

end Text

namespace Parser

inductive Refuses : Token.Kind → ParseError.Cause → Prop where
  | operator (op : Operator) : Refuses (.op op) (.unexpected (.op op) .operand)
  | closing : Refuses .closing (.unexpected .closing .operand)
  | path (kind : Token.Kind) : Refuses kind (.noFileName (some kind))
  | inside {kind : Token.Kind}
      (begins : (∃ id, kind = .word id) ∨ kind = .at ∨ kind = .opening) :
      Refuses kind (.unexpected kind .closing)
  | after {kind : Token.Kind}
      (ends : (∃ id, kind = .word id) ∨ kind = .at ∨ kind = .opening ∨ kind = .closing) :
      Refuses kind (.trailing kind)

theorem refuses_of_next {outlook : Outlook} {kind : Token.Kind} {cause : ParseError.Cause}
    (refused : outlook.next kind = .error cause) : Refuses kind cause := by
  obtain ⟨mode, depth⟩ := outlook
  cases mode with
  | operand =>
    cases kind with
    | op op => cases refused; exact .operator op
    | closing => cases refused; exact .closing
    | opening | «at» | word => cases refused
  | path =>
    cases kind with
    | op | opening | closing | «at» => cases refused; exact .path _
    | word => cases refused
  | operator =>
    cases kind with
    | op op => cases refused
    | closing =>
      simp only [Outlook.next] at refused
      split at refused <;> cases refused
      exact .after (by simp)
    | opening | «at» | word =>
      simp only [Outlook.next] at refused
      split at refused <;> cases refused
      · exact .after (by simp)
      · exact .inside (by simp)

end Parser

/-- What an error underlines, and which tokens it can have found. The end of the text is no token,
and found only in place of a path. -/
def ParseError.Underlines (text : String) (error : ParseError) : Prop :=
  match error.cause with
  | .unrecognized c => error.place.snippet? = some c.toString
  | .empty => error.place = ⟨text, 0, text.utf8ByteSize⟩
  | .unexpected found .operand => error.place.snippet? = some found.shown ∧
      (found = .closing ∨ ∃ op, found = .op op)
  | .unexpected found .closing => error.place.snippet? = some found.shown ∧
      ((∃ id, found = .word id) ∨ found = .at ∨ found = .opening)
  | .unexpectedEnd _ => error.place = ⟨text, text.utf8ByteSize, 0⟩
  | .unclosed => error.place.snippet? = some "("
  | .trailing found => error.place.snippet? = some found.shown ∧
      ((∃ id, found = .word id) ∨ found = .at ∨ found = .opening ∨ found = .closing)
  | .noFileName (some found) => error.place.snippet? = some found.shown
  | .noFileName none => error.place = ⟨text, text.utf8ByteSize, 0⟩

namespace Parser

variable {text : String} {scan : Scan}

theorem underlines_of_refused (tokenized : tokenize text = .ok scan) {token : Token}
    (member : token ∈ scan.tokens) {cause : ParseError.Cause}
    (refused : Refuses token.kind cause) :
    ParseError.Underlines text ⟨cause, place text token⟩ := by
  have snippet := snippet?_place tokenized token member
  generalize token.kind = kind at refused snippet
  cases refused with
  | operator op => exact ⟨snippet, .inr ⟨op, rfl⟩⟩
  | closing => exact ⟨snippet, .inl rfl⟩
  | path => exact snippet
  | inside begins => exact ⟨snippet, begins⟩
  | after ends => exact ⟨snippet, ends⟩

theorem snippet?_unclosed (tokenized : tokenize text = .ok scan) {left : Formula}
    {sum? : Option Pending} {group : Group} {groups : List Group}
    (read : readAll text .start scan.tokens = .ok (.operator left sum? (group :: groups))) :
    (place text group.opening).snippet? = some "(" := by
  have covers := covers_of_readAll State.start_covers read
  obtain ⟨before, after, parts, opens, -⟩ := covers.innermost
  have member : group.opening ∈ scan.tokens := by
    rw [← List.nil_append scan.tokens, parts]
    simp
  rw [snippet?_place tokenized group.opening member, opens]
  rfl

theorem underlines_of_finish (tokenized : tokenize text = .ok scan) {state : State}
    {error : ParseError} (read : readAll text .start scan.tokens = .ok state)
    (failed : finish text scan.stop state = .error error) :
    error.place.text = text ∧ error.Underlines text := by
  have ends : Location.between text scan.stop scan.stop = ⟨text, text.utf8ByteSize, 0⟩ := by
    rw [Location.between, Nat.sub_self, stop_of_tokenize tokenized]
  have whole : Location.between text 0 scan.stop = ⟨text, 0, text.utf8ByteSize⟩ := by
    rw [Location.between, Nat.sub_zero, stop_of_tokenize tokenized]
  rcases finish_eq_error failed with rfl | rfl | rfl | ⟨left, sum?, group, groups, rfl, rfl⟩
  · exact ⟨rfl, whole⟩
  · exact ⟨rfl, ends⟩
  · exact ⟨rfl, ends⟩
  · exact ⟨rfl, snippet?_unclosed tokenized read⟩

end Parser

theorem ParseError.Underlines.snippet {text : String} {error : ParseError}
    (underlines : error.Underlines text) : ∃ part, error.place.snippet? = some part := by
  obtain ⟨cause, place⟩ := error
  cases cause with
  | unrecognized c => exact ⟨_, underlines⟩
  | empty =>
    obtain rfl : place = _ := underlines
    refine ⟨text, ?_⟩
    rw [Location.snippet?, Location.stop, Nat.zero_add]
    exact Text.slice?_whole text
  | unexpected found expected =>
    cases expected with
    | operand => exact ⟨_, underlines.1⟩
    | closing => exact ⟨_, underlines.1⟩
  | unexpectedEnd expected =>
    obtain rfl : place = _ := underlines
    exact ⟨"", Text.slice?_end text⟩
  | unclosed => exact ⟨_, underlines⟩
  | trailing found => exact ⟨_, underlines.1⟩
  | noFileName found? =>
    cases found? with
    | some found => exact ⟨_, underlines⟩
    | none =>
      obtain rfl : place = _ := underlines
      exact ⟨"", Text.slice?_end text⟩

/-- An error points into its text, at a part of it that shows what is wrong. -/
theorem parse_error_underlines {text : String} {error : ParseError}
    (failed : Formula.parse text = .error error) :
    error.place.text = text ∧ (∃ part, error.place.snippet? = some part) ∧
      error.Underlines text := by
  suffices found : error.place.text = text ∧ error.Underlines text from
    ⟨found.1, found.2.snippet, found.2⟩
  cases tokenized : tokenize text with
  | error lexical =>
    obtain ⟨before, c, after, -, -, -, refused, snippet⟩ := tokenize_error tokenized
    rw [Formula.parse, tokenized] at failed
    obtain rfl : lexical = error := Except.error.inj failed
    rw [refused] at snippet ⊢
    exact ⟨rfl, snippet⟩
  | ok scan =>
    rw [Formula.parse_of_tokenize tokenized] at failed
    rcases Parser.formulaOf_eq_error failed with stuck | ⟨state, read, ended⟩
    · obtain ⟨before, token, later, state, split, -, stepped⟩ :=
        Parser.exists_of_readAll_error stuck
      obtain ⟨refused, place⟩ := Parser.next_of_step_error stepped
      have member : token ∈ scan.tokens := by simp [split]
      have underlines := Parser.underlines_of_refused tokenized member
        (Parser.refuses_of_next refused)
      rw [← place] at underlines
      exact ⟨congrArg Location.text place, underlines⟩
    · exact Parser.underlines_of_finish tokenized read ended

theorem parse_error_underlines_inside :
    (∃ error, Formula.parse "@x*(ab (" = .error error ∧
      error.cause = .unexpected .opening .closing ∧ error.place.snippet? = some "(") ∧
    ∃ error, Formula.parse "a - (b) @c" = .error error ∧ error.cause = .trailing .at ∧
      error.place.snippet? = some "@" := by
  have inside : Formula.parse "@x*(ab (" =
      .error ⟨.unexpected .opening .closing, "@x*(ab (", 7, 1⟩ := rfl
  have after : Formula.parse "a - (b) @c" = .error ⟨.trailing .at, "a - (b) @c", 8, 1⟩ := rfl
  exact ⟨⟨_, inside, rfl, (parse_error_underlines inside).2.2.1⟩,
    ⟨_, after, rfl, (parse_error_underlines after).2.2.1⟩⟩

end RoleAlgebra
