import RoleAlgebra.Proofs.Parser.EarliestError
import RoleAlgebra.Proofs.Token.Balance

namespace RoleAlgebra

open Grammar Token

theorem Grammar.Derives.balanced {c : Category} {kinds : List Token.Kind} {f : Formula}
    (derived : Derives c kinds f) : Balanced kinds := by
  induction derived with
  | named id => exact .single rfl
  | file id => exact .plain rfl (.single rfl)
  | group inside ih => exact .group ih .nil
  | single only ih => exact ih
  | more tier chain last chainIh lastIh => exact chainIh.append (.plain rfl lastIh)

theorem Grammar.Viable.of_append {before after : List Token.Kind}
    (viable : Viable (before ++ after)) : Viable before := by
  obtain ⟨rest, f, derived⟩ := viable
  rw [List.append_assoc] at derived
  exact ⟨after ++ rest, f, derived⟩

namespace Parser

variable {text : String}

theorem readAll_of_viable (text : String) {tokens : List Token}
    (viable : Viable (tokens.map (·.kind))) :
    ∃ state, readAll text .start tokens = .ok state := by
  cases read : readAll text .start tokens with
  | ok state => exact ⟨state, rfl⟩
  | error error =>
    obtain ⟨before, token, later, reached, rfl, readBefore, refused⟩ := exists_of_readAll_error read
    rw [List.append_cons, List.map_append] at viable
    exact absurd viable.of_append (not_viable_of_step readBefore refused)

theorem exists_moves_of_readAll {state next : State} {earlier : List Token} {last : Token}
    (read : readAll text state (earlier ++ [last]) = .ok next) :
    ∃ before, Moves text before last next := by
  rw [readAll_append] at read
  cases readEarlier : readAll text state earlier with
  | error error =>
    rw [readEarlier] at read
    cases read
  | ok before =>
    rw [readEarlier, Except.bind, readAll] at read
    split at read
    next reached stepped =>
      cases read
      exact ⟨before, moves_of_step stepped⟩
    next => cases read

/-- The end of the text, right after a token was read. Only after a word or a closing parenthesis
does it depend on what came earlier. -/
theorem Moves.finish {state next : State} {token : Token} (moves : Moves text state token next)
    (stop : Nat) :
    (token.kind = .at →
      finish text stop next = .error ⟨.noFileName none, .between text stop stop⟩) ∧
    ((token.kind = .opening ∨ ∃ op, token.kind = .op op) →
      finish text stop next = .error ⟨.unexpectedEnd .operand, .between text stop stop⟩) ∧
    ((token.kind = .closing ∨ ∃ id, token.kind = .word id) →
      ∃ left sum? groups, next = .operator left sum? groups) := by
  cases moves with
  | named kind => simp [kind, State.read]
  | mark kind => simp [kind, Parser.finish]
  | opening kind => simp [kind, Parser.finish]
  | file kind => simp [kind, State.read]
  | product kind tier => simp [kind, Parser.finish, Level.fresh]
  | sum kind tier => simp [kind, Parser.finish, Level.fresh]
  | closing kind => simp [kind, State.read]

theorem Waits.balanced {p : Precedence} {pending? : Option Pending} {tokens : List Token}
    (waits : Waits text p pending? tokens) : Balanced (tokens.map (·.kind)) := by
  cases waits with
  | none => exact .nil
  | some kind tier chain =>
    rw [List.map_append, List.map_singleton, kind]
    exact chain.derives.balanced.append (.single rfl)

/-- What was read since the innermost open parenthesis is balanced. -/
theorem State.Covers.innermost {left : Formula} {sum? : Option Pending} {group : Group}
    {groups : List Group} {tokens : List Token}
    (covers : (State.operator left sum? (group :: groups)).Covers text tokens) :
    ∃ before after, tokens = before ++ group.opening :: after ∧ group.opening.kind = .opening ∧
      Balanced (after.map (·.kind)) := by
  cases covers with
  | @operator _ _ _ outside waiting product outer waits built =>
    cases outer with
    | @cons opening level groups outside before opens outer level =>
      refine ⟨outside ++ before, waiting ++ product, by simp, opens, ?_⟩
      rw [List.map_append]
      exact waits.balanced.append built.derives.balanced

end Parser

/-- A text that only lacks an end is reported by what it lacks, as its last token has it. An
unclosed group is reported at the last parenthesis that nothing closes. -/
theorem parse_incomplete {text : String} {scan : Scan} (tokenized : tokenize text = .ok scan)
    (viable : Viable scan.kinds) (incomplete : ¬ ∃ f, Derives .formula scan.kinds f) :
    (scan.tokens = [] → Formula.parse text = .error ⟨.empty, text, 0, text.utf8ByteSize⟩) ∧
    ∀ earlier last, scan.tokens = earlier ++ [last] →
      (last.kind = .at →
        Formula.parse text = .error ⟨.noFileName none, text, text.utf8ByteSize, 0⟩) ∧
      ((last.kind = .opening ∨ ∃ op, last.kind = .op op) →
        Formula.parse text = .error ⟨.unexpectedEnd .operand, text, text.utf8ByteSize, 0⟩) ∧
      ((last.kind = .closing ∨ ∃ id, last.kind = .word id) → ∃ before opening after,
        scan.tokens = before ++ opening :: after ∧ opening.kind = .opening ∧
        ¬ Closes (after.map (·.kind)) ∧
        (∀ between other beyond, after = between ++ other :: beyond → other.kind = .opening →
          Closes (beyond.map (·.kind))) ∧
        Formula.parse text = .error ⟨.unclosed, Parser.place text opening⟩) := by
  obtain ⟨state, read⟩ := Parser.readAll_of_viable text viable
  have parsed : Formula.parse text = Parser.finish text scan.stop state := by
    rw [Formula.parse_of_tokenize tokenized, Parser.formulaOf, read]
    rfl
  have ending : Location.between text scan.stop scan.stop = ⟨text, text.utf8ByteSize, 0⟩ := by
    rw [Location.between, Nat.sub_self, stop_of_tokenize tokenized]
  refine ⟨?_, ?_⟩
  · intro none
    rw [none] at read
    cases read
    rw [parsed, stop_of_tokenize tokenized]
    rfl
  · intro earlier last split
    -- the state is the one that the last token leads to
    have steps := read
    rw [split] at steps
    obtain ⟨before, moves⟩ := Parser.exists_moves_of_readAll steps
    obtain ⟨afterMark, beforeOperand, afterOperand⟩ := moves.finish scan.stop
    rw [parsed, ← ending]
    refine ⟨afterMark, beforeOperand, ?_⟩
    intro closes
    obtain ⟨left, sum?, groups, rfl⟩ := afterOperand closes
    have covers := Parser.covers_of_readAll Parser.State.start_covers read
    rw [List.nil_append] at covers
    cases groups with
    | nil => exact absurd ⟨_, covers.builds.derives⟩ incomplete
    | cons group groups =>
      obtain ⟨before, after, parts, opens, balanced⟩ := covers.innermost
      refine ⟨before, group.opening, after, parts, opens, balanced.not_closes, ?_, rfl⟩
      intro between other beyond inside opening
      have there : after.map (·.kind) =
          between.map (·.kind) ++ .opening :: beyond.map (·.kind) := by
        rw [inside, List.map_append, List.map_cons, opening]
      exact balanced.closes_of_opening there

theorem parse_incomplete_nested :
    let tokens : List Token := [⟨.opening, 0, 1⟩, ⟨.word "a", 1, 1⟩, ⟨.op .diff, 2, 1⟩,
      ⟨.opening, 3, 1⟩, ⟨.word "b", 4, 1⟩, ⟨.op .and, 5, 1⟩, ⟨.opening, 6, 1⟩, ⟨.word "c", 7, 1⟩,
      ⟨.closing, 8, 1⟩]
    Viable (Scan.kinds ⟨tokens, 9⟩) ∧ (¬ ∃ f, Derives .formula (Scan.kinds ⟨tokens, 9⟩) f) ∧
      ∃ before opening after, tokens = before ++ opening :: after ∧ opening.kind = .opening ∧
        ¬ Closes (after.map (·.kind)) ∧ Formula.parse "(a-(b*(c)" =
          .error ⟨.unclosed, Parser.place "(a-(b*(c)" opening⟩ := by
  intro tokens
  have tokenized : tokenize "(a-(b*(c)" = .ok ⟨tokens, 9⟩ := rfl
  have read : Parser.readAll "(a-(b*(c)" .start tokens = .ok _ := rfl
  have viable : Viable (Scan.kinds ⟨tokens, 9⟩) := Parser.viable_of_readAll read
  have incomplete : ¬ ∃ f, Derives .formula (Scan.kinds ⟨tokens, 9⟩) f :=
    Parser.not_derives_of_formulaOf
      (show Parser.formulaOf "(a-(b*(c)" ⟨tokens, 9⟩ = .error _ from rfl)
  obtain ⟨before, opening, after, parts, opens, unmatched, -, failed⟩ :=
    ((parse_incomplete tokenized viable incomplete).2 tokens.dropLast _ rfl).2.2 (.inl rfl)
  exact ⟨viable, incomplete, before, opening, after, parts, opens, unmatched, failed⟩

end RoleAlgebra
