import RoleAlgebra.Proofs.Parser.Progress

/-!
What the calls of a descent come to. A call that comes back has read tokens that build its formula,
and what follows them is nothing its category goes on with; a call that fails does so with the error
that the parser has for these tokens. Both are told together (`Ends`), since a call goes on where
another one has come back, and fails where another one fails (`Ends.andThen`).
-/

namespace RoleAlgebra

open Grammar

def Grammar.Category.Fits : Category → Parser.Level → Prop
  | operand, _ => True
  | chain .product, level => level.product? = none
  | chain .sum, level => level = .fresh

namespace Descent

open RoleAlgebra.Parser (readAll readAll_append_of_ok finish reads_of_builds Moves)

variable {text : String} {stop : Lexeme} {c : Category} {tokens : List Token} {m n : Nat}

/-- The parser fails on these tokens, wherever a category may begin. -/
def Fails (text : String) (stop : Lexeme) (c : Category) (tokens : List Token)
    (error : ParseError) : Prop :=
  stop.length = 0 → ∀ level groups, c.Fits level →
    (tokens = [] → ¬ (groups = [] ∧ level = .fresh)) →
    (readAll text (.operand level groups) tokens).bind (finish text stop.start) = .error error

theorem bind_of_refused {state : Parser.State} {token : Token} {error : ParseError}
    (refused : Parser.step text state token = .error error) (rest : List Token) (stop : Nat) :
    (readAll text state (token :: rest)).bind (finish text stop) = .error error := by
  rw [readAll, refused]
  rfl

namespace Fails

variable {error : ParseError}

theorem member {p : Precedence} (fails : Fails text stop (.member p) tokens error) :
    Fails text stop (.chain p) tokens error := by
  intro empty level groups fits begun
  cases p with
  | product => exact fails empty level groups trivial begun
  | sum =>
    have fits : level = .fresh := fits
    exact fails empty level groups (by rw [fits]; rfl) begun

theorem group {opening : Token} (opens : opening.kind = .opening)
    (fails : Fails text stop (.chain .sum) tokens error) :
    Fails text stop .operand (opening :: tokens) error := by
  intro empty level groups _ _
  rw [(Moves.opening opens).readAll]
  exact fails empty .fresh (⟨opening, level⟩ :: groups) rfl (by simp)

theorem more {p : Precedence} {op : Operator} {sign : Token} {before : List Token} {f : Formula}
    (built : Builds text (.chain p) before f) (kind : sign.kind = .op op)
    (tier : op ∈ operators p) (fails : Fails text stop (.member p) tokens error) :
    Fails text stop (.chain p) (before ++ sign :: tokens) error := by
  intro empty level groups fits _
  have reads := reads_of_builds built
  have binds := mem_operators_iff.1 tier
  cases p with
  | product =>
    obtain ⟨sum?, product?⟩ := level
    obtain rfl : product? = none := fits
    rw [readAll_append_of_ok (reads sum? groups), (Moves.product kind binds).readAll]
    exact fails empty _ groups trivial (by simp [Parser.Level.fresh])
  | sum =>
    obtain rfl : level = .fresh := fits
    obtain ⟨left, sum?, -, read⟩ := reads groups
    rw [readAll_append_of_ok read, (Moves.sum kind binds).readAll]
    exact fails empty _ groups rfl (by simp [Parser.Level.fresh])

theorem operand {token : Token} {rest : List Token} (word : ∀ id, token.kind ≠ .word id)
    (mark : token.kind ≠ .at) (opening : token.kind ≠ .opening) :
    Fails text stop .operand (token :: rest)
      ⟨.unexpected token.kind .operand, Parser.place text token⟩ := by
  intro _ level groups _ _
  have refused : Parser.step text (.operand level groups) token =
      .error ⟨.unexpected token.kind .operand, Parser.place text token⟩ := by
    cases kind : token.kind with
    | word id => exact absurd kind (word id)
    | «at» => exact absurd kind mark
    | opening => exact absurd kind opening
    | _ => simp [Parser.step, kind]
  exact bind_of_refused refused rest stop.start

theorem operand_end : Fails text stop .operand [] ⟨.unexpectedEnd .operand, stop.place text⟩ := by
  intro empty level groups _ begun
  have begun : (groups.isEmpty && decide (level = .fresh)) = false := by simpa using begun rfl
  simp [readAll, Except.bind, finish, begun, Lexeme.place, empty]

theorem path (last : stop.kind? = none) {mark : Token} (marked : mark.kind = .at)
    (other : ∀ id, (front text (lexemes tokens stop)).kind? ≠ some (.word id)) :
    Fails text stop .operand (mark :: tokens)
      ⟨.noFileName (front text (lexemes tokens stop)).kind?,
        (front text (lexemes tokens stop)).place text⟩ := by
  intro empty level groups _ _
  rw [(Moves.mark marked).readAll]
  cases tokens with
  | nil =>
    have ending : front text (lexemes [] stop) = stop := rfl
    rw [ending, last, Lexeme.place, empty]
    rfl
  | cons token rest =>
    have refused : Parser.step text (.path mark level groups) token =
        .error ⟨.noFileName (some token.kind), Parser.place text token⟩ := by
      cases kind : token.kind with
      | word id => exact absurd (congrArg some kind) (other id)
      | _ => simp [Parser.step, kind]
    exact bind_of_refused refused rest stop.start

theorem closing {opening : Token} (opens : opening.kind = .opening) {inside : List Token}
    {f : Formula} (built : Builds text (.chain .sum) inside f)
    (failed : ∀ left sum? group groups, group.opening = opening →
      (readAll text (.operator left sum? (group :: groups)) tokens).bind
        (finish text stop.start) = .error error) :
    Fails text stop .operand (opening :: (inside ++ tokens)) error := by
  intro _ level groups _ _
  obtain ⟨left, sum?, -, read⟩ := reads_of_builds built (⟨opening, level⟩ :: groups)
  rw [(Moves.opening opens).readAll, readAll_append_of_ok read]
  exact failed left sum? _ groups rfl

end Fails

/-- The end of a call that is to read a category from the front of `tokens`, and is given the
lexemes `given`. -/
inductive Ends (text : String) (stop : Lexeme) (c : Category) (tokens : List Token)
    (given : List Lexeme) : Outcome n → Prop where
  | read {f : Formula} {taken rest : List Token} {done : List Action}
      {fewer : (lexemes rest stop).length < n} (parts : tokens = taken ++ rest)
      (built : Builds text c taken f) (halts : Halts c rest)
      (passes : Passes given done (lexemes rest stop)) :
      Ends text stop c tokens given (.read f (lexemes rest stop) fewer done)
  | failed {error : ParseError} {done : List Action} (fails : Fails text stop c tokens error)
      (stops : Stops given done) : Ends text stop c tokens given (.failed error done)

namespace Ends

variable {given middle : List Lexeme}

theorem after {outcome : Outcome n} {earlier : List Action} (first : Passes given earlier middle)
    (ends : Ends text stop c tokens middle outcome) :
    Ends text stop c tokens given (outcome.after earlier) := by
  cases ends with
  | read parts built halts passes => exact .read parts built halts (first.append passes)
  | failed fails stops => exact .failed fails (.after first stops)

theorem within {outcome : Outcome m} (le : m ≤ n)
    (ends : Ends text stop c tokens given outcome) :
    Ends text stop c tokens given (outcome.within le) := by
  cases ends with
  | read parts built halts passes => exact .read parts built halts passes
  | failed fails stops => exact .failed fails stops

/-- A call goes on after another one, which fails only where it would fail itself. -/
theorem andThen {c' : Category} {tokens' : List Token} {outcome : Outcome m}
    {next : (f : Formula) → (left : List Lexeme) → left.length < m → Outcome n}
    (first : Ends text stop c tokens given outcome)
    (fails : ∀ error, Fails text stop c tokens error → Fails text stop c' tokens' error)
    (second : ∀ f taken rest fewer, tokens = taken ++ rest → Builds text c taken f →
      Halts c rest →
        Ends text stop c' tokens' (lexemes rest stop) (next f (lexemes rest stop) fewer)) :
    Ends text stop c' tokens' given (outcome.andThen next) := by
  cases first with
  | read parts built halts passes => exact (second _ _ _ _ parts built halts).after passes
  | failed failed stops => exact .failed (fails _ failed) stops

theorem noted (last : stop.kind? = none) {outcome : Outcome n}
    (ends : Ends text stop c tokens (lexemes tokens stop) outcome) :
    Ends text stop c tokens (lexemes tokens stop) (outcome.noted c (lexemes tokens stop)) := by
  cases ends with
  | read parts built halts passes =>
    exact .read parts built halts (passes.append (.back (.of_built last parts built halts) .nil))
  | failed fails stops => exact .failed fails stops

end Ends

theorem ends_path (last : stop.kind? = none) {mark : Token} (marked : mark.kind = .at)
    (tokens : List Token) :
    Ends text stop .operand (mark :: tokens) (lexemes tokens stop)
      (path text (.ofToken mark) (lexemes tokens stop)) := by
  unfold path advance
  beta_reduce
  split
  next id next =>
    obtain ⟨token, rest, rfl, kind⟩ := exists_token last next
    exact .read rfl (.file marked kind) (halts_operand rest) (passes_advance token rest stop)
  next other => exact .failed (.path last marked other) (stops_advance tokens stop)

theorem ends_closing (last : stop.kind? = none) {opening : Token} (opens : opening.kind = .opening)
    {inside : List Token} {f : Formula} (built : Builds text (.chain .sum) inside f)
    (halts : Halts (.chain .sum) tokens) :
    Ends text stop .operand (opening :: (inside ++ tokens)) (lexemes tokens stop)
      (closing text (.ofToken opening) f (lexemes tokens stop)) := by
  unfold closing advance
  beta_reduce
  split
  next next =>
    obtain ⟨token, rest, rfl, kind⟩ := exists_token last next
    have passes := passes_advance token rest stop
    exact .read (by simp) (.group opens kind built) (halts_operand rest) passes
  next kind other next =>
    obtain ⟨token, rest, rfl, rfl⟩ := exists_token last next
    refine .failed (.closing opens built ?_) (stops_advance _ stop)
    intro left sum? group groups _
    have refused : Parser.step text (.operator left sum? (group :: groups)) token =
        .error ⟨.unexpected token.kind .closing, Parser.place text token⟩ := by
      cases kind : token.kind with
      | op op => cases halts token rfl op kind
      | closing => exact absurd kind other
      | _ => simp [Parser.step, kind]
    exact bind_of_refused refused rest stop.start
  next next =>
    obtain rfl := eq_nil_of_front next
    refine .failed (.closing opens built ?_) (stops_advance [] stop)
    rintro left sum? group groups rfl
    rfl

theorem ends_operand (last : stop.kind? = none) (calls : ∀ rest, rest.length < tokens.length →
      ∀ c, Ends text stop c rest (lexemes rest stop) (call text c (lexemes rest stop))) :
    Ends text stop .operand tokens (lexemes tokens stop) (operand text (lexemes tokens stop)) := by
  unfold operand advance
  beta_reduce
  split
  next id next =>
    obtain ⟨token, rest, rfl, kind⟩ := exists_token last next
    exact .read rfl (.named kind) (halts_operand rest) (passes_advance token rest stop)
  next next =>
    obtain ⟨token, rest, rfl, kind⟩ := exists_token last next
    exact ((ends_path last kind rest).within _).after (passes_advance token rest stop)
  next next =>
    obtain ⟨token, rest, rfl, kind⟩ := exists_token last next
    have inside := calls rest (Nat.lt_succ_self _) (.chain .sum)
    refine Ends.after (passes_advance token rest stop) (inside.andThen (fun _ => .group kind) ?_)
    intro f inside after fewer parts built halts
    have closed := ends_closing last kind built halts
    rw [← parts] at closed
    exact closed.within _
  next kind word mark opening next =>
    obtain ⟨token, rest, rfl, rfl⟩ := exists_token last next
    exact .failed (.operand word mark opening) (stops_advance _ stop)
  next next =>
    obtain rfl := eq_nil_of_front next
    exact .failed .operand_end (stops_advance [] stop)

theorem ends_more (last : stop.kind? = none) (calls : ∀ rest, rest.length < tokens.length →
      ∀ c, Ends text stop c rest (lexemes rest stop) (call text c (lexemes rest stop)))
    {p : Precedence} {before : List Token} {f : Formula} (built : Builds text (.chain p) before f)
    (halts : Halts (.member p) tokens) :
    Ends text stop (.chain p) (before ++ tokens) (lexemes tokens stop)
      (more text p f (lexemes tokens stop)) := by
  induction size : tokens.length using Nat.strongRecOn generalizing tokens before f with
  | ind n ih =>
    unfold more peek
    beta_reduce
    split
    next op next =>
      obtain ⟨sign, rest, rfl, kind⟩ := exists_token last next
      split
      next tier =>
        have member := calls rest (Nat.lt_succ_self _) (.member p)
        refine Ends.after (passes_peek _ stop) (.after (passes_advance sign rest stop)
          (member.andThen (fun _ => .more built kind tier) ?_))
        intro g taken after fewer parts member halts
        have shorter : after.length < (sign :: rest).length := by
          rw [parts, List.length_cons, List.length_append]
          omega
        have further := ih after.length (size ▸ shorter)
          (fun rest fewer => calls rest (Nat.lt_trans fewer shorter))
          (.more kind tier built member) halts rfl
        rw [List.append_assoc, List.cons_append, ← parts] at further
        exact further.within _
      next tier =>
        refine .read rfl built (halts.chain ?_) (.peek .nil)
        rintro token ⟨⟩ op' kind'
        cases kind.symm.trans kind'
        exact tier
    next other =>
      refine .read rfl built (halts.chain ?_) (passes_peek tokens stop)
      intro token first op kind
      cases tokens with
      | nil => cases first
      | cons token rest =>
        cases first
        exact absurd (congrArg some kind) (other op)

/-- What every call comes to. -/
theorem ends_call (text : String) (last : stop.kind? = none) (c : Category)
    (tokens : List Token) :
    Ends text stop c tokens (lexemes tokens stop) (call text c (lexemes tokens stop)) := by
  induction size : tokens.length using Nat.strongRecOn generalizing tokens c with
  | ind n ih =>
    have calls : ∀ rest : List Token, rest.length < tokens.length → ∀ c,
        Ends text stop c rest (lexemes rest stop) (call text c (lexemes rest stop)) :=
      fun rest fewer c => ih rest.length (size ▸ fewer) c rest rfl
    have single : Ends text stop .operand tokens (lexemes tokens stop)
        (call text .operand (lexemes tokens stop)) := by
      rw [call]
      exact (ends_operand last calls).noted last
    have chain : ∀ p, Ends text stop (.member p) tokens (lexemes tokens stop)
          (call text (.member p) (lexemes tokens stop)) →
        Ends text stop (.chain p) tokens (lexemes tokens stop)
          (call text (.chain p) (lexemes tokens stop)) := by
      intro p member
      rw [call]
      refine Ends.noted last (member.andThen (fun _ => .member) ?_)
      intro f taken rest fewer parts built halts
      have fewest : rest.length ≤ tokens.length := by
        rw [parts, List.length_append]
        omega
      have further := ends_more last
        (fun after fewer => calls after (Nat.lt_of_lt_of_le fewer fewest)) (.single built) halts
      rw [← parts] at further
      exact further.within fewer
    have product := chain .product single
    cases c with
    | operand => exact single
    | chain p =>
      cases p with
      | product => exact product
      | sum => exact chain .sum product

inductive Finishes (text : String) (stop : Lexeme) (tokens : List Token) :
    Except ParseError Formula × List Action → Prop where
  | empty (none : tokens = []) :
      Finishes text stop tokens
        (.error ⟨.empty, .between text 0 text.utf8ByteSize⟩, [.peek (lexemes tokens stop)])
  | failed {error : ParseError} {done : List Action} (some : tokens ≠ [])
      (fails : Fails text stop .formula tokens error) (stops : Stops (lexemes tokens stop) done) :
      Finishes text stop tokens (.error error, done)
  | trailing {f : Formula} {taken rest : List Token} {token : Token} {done : List Action}
      (parts : tokens = taken ++ token :: rest) (built : Builds text .formula taken f)
      (other : ∀ op, token.kind ≠ .op op) (stops : Stops (lexemes tokens stop) done) :
      Finishes text stop tokens
        (.error ⟨.trailing token.kind, Parser.place text token⟩, done)
  | whole {f : Formula} {done : List Action} (built : Builds text .formula tokens f)
      (passes : Passes (lexemes tokens stop) done [stop]) :
      Finishes text stop tokens (.ok f, done ++ [.advance [stop]])

theorem finishes_formula (text : String) (last : stop.kind? = none) (tokens : List Token) :
    Finishes text stop tokens (formula text (lexemes tokens stop)) := by
  have looks := passes_peek tokens stop
  have ends := ends_call text last .formula tokens
  unfold formula whole peek
  generalize call text .formula (lexemes tokens stop) = outcome at ends ⊢
  beta_reduce
  split
  next next => exact .empty (eq_nil_of_front next)
  next kind next =>
    obtain ⟨token, rest, some, -⟩ := exists_token last next
    cases ends with
    | failed fails stops => exact .failed (by simp [some]) fails (stops.after looks)
    | @read f taken rest done fewer parts built halts passes =>
      dsimp only [Outcome.andThen, advance]
      split
      next next =>
        obtain rfl := eq_nil_of_front next
        rw [List.append_nil] at parts
        exact .whole (parts ▸ built) (looks.append passes)
      next found next =>
        obtain ⟨token, rest, rfl, rfl⟩ := exists_token last next
        refine .trailing parts built ?_ (((stops_advance _ stop).after passes).after looks)
        intro op kind
        cases halts token rfl op kind

theorem Finishes.orderly {result : Except ParseError Formula × List Action}
    (finishes : Finishes text stop tokens result) : Orderly (lexemes tokens stop) result.2 := by
  cases finishes with
  | empty none => exact (passes_peek tokens stop).orderly
  | failed some fails stops => exact stops.orderly
  | trailing parts built other stops => exact stops.orderly
  | whole built passes => exact Stops.orderly ⟨_, stop, [], passes, rfl⟩

/-- A descent that comes back with a formula has taken everything. -/
theorem Finishes.taken {result : Except ParseError Formula × List Action} {f : Formula}
    (finishes : Finishes text stop tokens result) (read : result.1 = .ok f) :
    result.2.filterMap Action.taken? = lexemes tokens stop := by
  cases finishes with
  | empty none => cases read
  | failed some fails stops => cases read
  | trailing parts built other stops => cases read
  | whole built passes => rw [List.filterMap_append, ← passes.taken]; rfl

/-- A descent comes to what the parser comes to. -/
theorem formula_eq (text : String) (tokens : List Token) :
    (formula text (lexemes tokens ⟨none, text.utf8ByteSize, 0⟩)).1 =
      Parser.formulaOf text ⟨tokens, text.utf8ByteSize⟩ := by
  have finishes : Finishes text ⟨none, text.utf8ByteSize, 0⟩ tokens _ :=
    finishes_formula text rfl tokens
  generalize formula text _ = result at finishes ⊢
  cases finishes with
  | empty none =>
    rw [none]
    rfl
  | failed some fails stops =>
    exact (fails rfl .fresh [] rfl fun none => absurd none some).symm
  | @trailing f taken rest token done parts built other stops =>
    obtain ⟨left, sum?, -, reads⟩ := reads_of_builds built []
    have refused : Parser.step text (.operator left sum? []) token =
        .error ⟨.trailing token.kind, Parser.place text token⟩ := by
      cases kind : token.kind with
      | op op => exact absurd kind (other op)
      | _ => simp [Parser.step, kind]
    rw [Parser.formulaOf, parts, Parser.State.start, readAll_append_of_ok reads]
    exact (bind_of_refused refused rest _).symm
  | whole built passes => exact (Parser.formulaOf_eq_ok_iff.2 built).symm

theorem mem_of_noted {outcome : Outcome n} {given left : List Lexeme} {f : Formula}
    {fewer : left.length < n} {done : List Action}
    (noted : outcome.noted c given = .read f left fewer done) : .back c given left ∈ done := by
  cases outcome with
  | read f left fewer done =>
    cases noted
    simp
  | failed error done => cases noted

/-- Every call that comes back is recorded. -/
theorem mem_of_call {given left : List Lexeme} {f : Formula} {fewer : left.length < given.length}
    {done : List Action} (read : call text c given = .read f left fewer done) :
    .back c given left ∈ done := by
  match c with
  | .operand =>
    rw [call] at read
    exact mem_of_noted read
  | .chain p =>
    rw [call] at read
    exact mem_of_noted read

theorem consumes_of_call (last : stop.kind? = none) {left : List Lexeme} {f : Formula}
    {fewer : left.length < (lexemes tokens stop).length} {done : List Action}
    (read : call text c (lexemes tokens stop) = .read f left fewer done) :
    Consumes c (lexemes tokens stop) left := by
  have ends := ends_call text last c tokens
  rw [read] at ends
  cases ends with
  | read parts built halts passes => exact .of_built last parts built halts

end Descent

/-- A descent goes through a text whose end comes once, behind its tokens. Every call that comes
back has consumed tokens, at least one, with matching parentheses, and the next lexeme is no
operator that its category goes on with. No end is made up, since there always is a lexeme left to
look at or to take; the end itself is taken last of all, and for a formula everything is taken. Such
a descent reads the same formulas as the parser, and fails with the same errors. -/
theorem descent_takes_end_last :
    (∀ (text : String) (tokens : List Token) (stop : Descent.Lexeme), stop.kind? = none →
      let given := Descent.lexemes tokens stop
      let run := Descent.formula text given
      (∀ c f left fewer done, Descent.call text c given = .read f left fewer done →
        Descent.Consumes c given left ∧ .back c given left ∈ done) ∧
      Descent.Orderly given run.2 ∧
      ∀ f, run.1 = .ok f → run.2.filterMap Descent.Action.taken? = given) ∧
    ∀ text, Formula.parse text = (tokenize text).bind fun scan =>
      (Descent.formula text (Descent.lexemes scan.tokens ⟨none, scan.stop, 0⟩)).1 := by
  constructor
  · intro text tokens stop last given run
    have finishes := Descent.finishes_formula text last tokens
    refine ⟨?_, finishes.orderly, fun f read => finishes.taken read⟩
    intro c f left fewer done read
    exact ⟨Descent.consumes_of_call last read, Descent.mem_of_call read⟩
  · intro text
    cases tokenized : tokenize text with
    | error error =>
      rw [Formula.parse, tokenized]
      rfl
    | ok scan =>
      rw [Formula.parse_of_tokenize tokenized, Except.bind]
      obtain ⟨tokens, stop⟩ := scan
      obtain rfl : stop = text.utf8ByteSize := stop_of_tokenize tokenized
      exact (Descent.formula_eq text tokens).symm

theorem descent_takes_end_last_grouped :
    let text := "(a*b+c)"
    let a : Token := ⟨.word "a", 1, 1⟩
    let b : Token := ⟨.word "b", 3, 1⟩
    let c : Token := ⟨.word "c", 5, 1⟩
    let behind : List Token := [⟨.op .or, 4, 1⟩, c, ⟨.closing, 6, 1⟩]
    let tokens : List Token := [⟨.opening, 0, 1⟩, a, ⟨.op .and, 2, 1⟩, b] ++ behind
    let stop : Descent.Lexeme := ⟨none, 7, 0⟩
    let run := Descent.formula text (Descent.lexemes tokens stop)
    let f : Formula := .combine .or
      (.combine .and (.ref ⟨.named, "a"⟩ (some (Parser.place text a)))
        (.ref ⟨.named, "b"⟩ (some (Parser.place text b))))
      (.ref ⟨.named, "c"⟩ (some (Parser.place text c)))
    stop.kind? = none ∧ run.1 = .ok f ∧
      run.2.filterMap Descent.Action.taken? = Descent.lexemes tokens stop ∧
      Descent.Consumes (.chain .product) (Descent.lexemes (b :: behind) stop)
        (Descent.lexemes behind stop) ∧
      ∃ earlier rest, run.2 = earlier ++ [.advance (stop :: rest)] := by
  intro text a b c behind tokens stop run f
  obtain ⟨-, orderly, taken⟩ := descent_takes_end_last.1 text tokens stop rfl
  obtain ⟨calls, -⟩ := descent_takes_end_last.1 text (b :: behind) stop rfl
  have parsed : Formula.parse text = .ok f := by decide
  have tokenized : tokenize text = .ok ⟨tokens, 7⟩ := by decide
  have read : run.1 = .ok f := by
    have same := descent_takes_end_last.2 text
    rw [parsed, tokenized] at same
    exact same.symm
  have all := taken f read
  let g : Formula := .ref ⟨.named, "b"⟩ (some (Parser.place text b))
  let given := Descent.lexemes (b :: behind) stop
  let left := Descent.lexemes behind stop
  have operand : Descent.call text .operand given =
      .read g left (by decide) [.advance given, .back .operand given left] := by
    rw [Descent.call, Descent.operand]
    rfl
  have more : Descent.more text .product g left = .read g left (by decide) [.peek left] := by
    rw [Descent.more]
    rfl
  have product : Descent.call text (.chain .product) given =
      .read g left (by decide) [.advance given, .back .operand given left, .peek left,
        .back (.chain .product) given left] := by
    rw [Descent.call]
    change ((Descent.call text .operand given).andThen _).noted _ _ = _
    rw [operand]
    change (((Descent.more text .product g left).within _).after _).noted _ _ = _
    rw [more]
    rfl
  refine ⟨rfl, read, all, (calls _ _ _ _ _ product).1, ?_⟩
  have takes : stop ∈ run.2.filterMap Descent.Action.taken? :=
    all ▸ List.mem_append_right _ (.head _)
  obtain ⟨action, member, takes⟩ := List.mem_filterMap.mp takes
  cases action with
  | peek => cases takes
  | back => cases takes
  | advance ahead =>
    obtain ⟨rest, rfl⟩ := List.head?_eq_some_iff.mp takes
    obtain ⟨earlier, later, parts⟩ := List.append_of_mem member
    obtain rfl := orderly.last earlier stop rest later parts rfl
    exact ⟨earlier, rest, parts⟩

end RoleAlgebra
