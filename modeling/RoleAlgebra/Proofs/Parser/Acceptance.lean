import RoleAlgebra.Proofs.Grammar.Placed

/-!
The parser reads the grammar. `Covers` says which tokens a state has read: the open groups, within
the innermost of them a sum that waits, within it a product that waits, and the operand that was
read last. Each token preserves it (`Moves.covers`), so what the parser returns is derived from its
tokens; and along every derivation it takes no wrong turn (`Builds.reads`).
-/

namespace RoleAlgebra.Parser

open Grammar

variable {text : String}

/-- The tokens before a chain's next member: nothing, or a chain and an operator after it. -/
inductive Waits (text : String) (p : Precedence) : Option Pending → List Token → Prop where
  | none : Waits text p none []
  | some {left : Formula} {op : Operator} {sign : Token} {before : List Token}
      (kind : sign.kind = .op op) (tier : op ∈ operators p)
      (chain : Builds text (.chain p) before left) :
      Waits text p (some ⟨left, op⟩) (before ++ [sign])

inductive Level.Covers (text : String) : Level → List Token → Prop where
  | intro {sum? product? : Option Pending} {outer inner : List Token}
      (sum : Waits text .sum sum? outer) (product : Waits text .product product? inner) :
      Covers text ⟨sum?, product?⟩ (outer ++ inner)

inductive Opened (text : String) : List Group → List Token → Prop where
  | nil : Opened text [] []
  | cons {opening : Token} {level : Level} {groups : List Group} {outside before : List Token}
      (opens : opening.kind = .opening) (outer : Opened text groups outside)
      (waits : level.Covers text before) :
      Opened text (⟨opening, level⟩ :: groups) (outside ++ before ++ [opening])

inductive State.Covers (text : String) : State → List Token → Prop where
  | operand {level : Level} {groups : List Group} {outside before : List Token}
      (outer : Opened text groups outside) (waits : level.Covers text before) :
      Covers text (.operand level groups) (outside ++ before)
  | path {mark : Token} {level : Level} {groups : List Group} {outside before : List Token}
      (marked : mark.kind = .at) (outer : Opened text groups outside)
      (waits : level.Covers text before) :
      Covers text (.path mark level groups) (outside ++ before ++ [mark])
  | operator {left : Formula} {sum? : Option Pending} {groups : List Group}
      {outside before product : List Token} (outer : Opened text groups outside)
      (waits : Waits text .sum sum? before) (built : Builds text (.chain .product) product left) :
      Covers text (.operator left sum? groups) (outside ++ before ++ product)

/-- The tokens a state goes on with, and the state after them. -/
inductive Moves (text : String) : State → Token → State → Prop where
  | named {level : Level} {groups : List Group} {token : Token} {id : String}
      (kind : token.kind = .word id) :
      Moves text (.operand level groups) token
        (.read (.ref ⟨.named, id⟩ (some (place text token))) level groups)
  | mark {level : Level} {groups : List Group} {token : Token} (kind : token.kind = .at) :
      Moves text (.operand level groups) token (.path token level groups)
  | opening {level : Level} {groups : List Group} {token : Token} (kind : token.kind = .opening) :
      Moves text (.operand level groups) token (.operand .fresh (⟨token, level⟩ :: groups))
  | file {mark : Token} {level : Level} {groups : List Group} {token : Token} {id : String}
      (kind : token.kind = .word id) :
      Moves text (.path mark level groups) token
        (.read (.ref ⟨.file, id⟩ (some ((place text mark).join (place text token)))) level groups)
  | product {left : Formula} {sum? : Option Pending} {groups : List Group} {token : Token}
      {op : Operator} (kind : token.kind = .op op) (tier : op.precedence = .product) :
      Moves text (.operator left sum? groups) token (.operand ⟨sum?, some ⟨left, op⟩⟩ groups)
  | sum {left : Formula} {sum? : Option Pending} {groups : List Group} {token : Token}
      {op : Operator} (kind : token.kind = .op op) (tier : op.precedence = .sum) :
      Moves text (.operator left sum? groups) token
        (.operand ⟨some ⟨Parser.close sum? left, op⟩, none⟩ groups)
  | closing {left : Formula} {sum? : Option Pending} {group : Group} {groups : List Group}
      {token : Token} (kind : token.kind = .closing) :
      Moves text (.operator left sum? (group :: groups)) token
        (.read (Parser.close sum? left) group.outside groups)

theorem Moves.step {state next : State} {token : Token} (moves : Moves text state token next) :
    step text state token = .ok next := by
  cases moves with
  | named kind => simp [Parser.step, kind]
  | mark kind => simp [Parser.step, kind]
  | opening kind => simp [Parser.step, kind]
  | file kind => simp [Parser.step, kind]
  | product kind tier => simp [Parser.step, kind, tier]
  | sum kind tier => simp [Parser.step, kind, tier]
  | closing kind => simp [Parser.step, kind]

theorem moves_of_step {state next : State} {token : Token}
    (stepped : step text state token = .ok next) : Moves text state token next := by
  unfold step at stepped
  split at stepped
  next kind => cases stepped; exact .named kind
  next kind => cases stepped; exact .mark kind
  next kind => cases stepped; exact .opening kind
  next => cases stepped
  next kind => cases stepped; exact .file kind
  next => cases stepped
  next kind =>
    split at stepped
    next tier => cases stepped; exact .product kind tier
    next tier => cases stepped; exact .sum kind tier
  next kind => cases stepped; exact .closing kind
  next => cases stepped
  next => cases stepped

theorem Level.fresh_covers : Level.fresh.Covers text [] := Level.Covers.intro .none .none

theorem State.start_covers : State.start.Covers text [] := .operand .nil Level.fresh_covers

theorem Waits.close {p : Precedence} {pending? : Option Pending} {before tokens : List Token}
    {f : Formula} (waits : Waits text p pending? before)
    (built : Builds text (.member p) tokens f) :
    Builds text (.chain p) (before ++ tokens) (Parser.close pending? f) := by
  cases waits with
  | none => exact .single built
  | some kind tier chain =>
    rw [List.append_assoc]
    exact .more kind tier chain built

theorem State.read_covers {f : Formula} {level : Level} {groups : List Group}
    {outside before tokens : List Token} (outer : Opened text groups outside)
    (waits : level.Covers text before) (built : Builds text .operand tokens f) :
    (State.read f level groups).Covers text (outside ++ before ++ tokens) := by
  cases waits with
  | intro sum product =>
    have covers := State.Covers.operator outer sum (product.close built)
    simp only [List.append_assoc] at covers ⊢
    exact covers

/-- What one token preserves. -/
theorem Moves.covers {state next : State} {tokens : List Token} {token : Token}
    (moves : Moves text state token next) (covers : state.Covers text tokens) :
    next.Covers text (tokens ++ [token]) := by
  cases moves with
  | named kind =>
    cases covers with
    | operand outer waits => exact State.read_covers outer waits (.named kind)
  | mark kind =>
    cases covers with
    | operand outer waits => exact .path kind outer waits
  | opening kind =>
    cases covers with
    | operand outer waits =>
      have inside := State.Covers.operand (.cons kind outer waits) Level.fresh_covers
      rw [List.append_nil] at inside
      exact inside
  | file kind =>
    cases covers with
    | path marked outer waits =>
      have read := State.read_covers outer waits (.file marked kind)
      simp only [List.append_assoc, List.cons_append, List.nil_append] at read ⊢
      exact read
  | product kind tier =>
    cases covers with
    | operator outer waits built =>
      have waiting := Level.Covers.intro waits (.some kind (mem_operators_iff.2 tier) built)
      have covers := State.Covers.operand outer waiting
      simp only [List.append_assoc] at covers ⊢
      exact covers
  | sum kind tier =>
    cases covers with
    | operator outer waits built =>
      have chain := Waits.some kind (mem_operators_iff.2 tier) (waits.close built)
      have waiting := Level.Covers.intro chain .none
      have covers := State.Covers.operand outer waiting
      simp only [List.append_assoc, List.append_nil] at covers ⊢
      exact covers
  | closing kind =>
    cases covers with
    | operator outer waits built =>
      cases outer with
      | cons opens outside level =>
        -- the group is an operand of the level outside of it
        have group := Builds.group opens kind (waits.close built)
        have read := State.read_covers outside level group
        simp only [List.append_assoc, List.cons_append, List.nil_append] at read ⊢
        exact read

theorem covers_of_readAll {state next : State} {before tokens : List Token}
    (covers : state.Covers text before) (read : readAll text state tokens = .ok next) :
    next.Covers text (before ++ tokens) := by
  induction tokens generalizing state before with
  | nil =>
    cases read
    rw [List.append_nil]
    exact covers
  | cons token tokens ih =>
    rw [readAll] at read
    split at read
    next reached stepped =>
      have moved := (moves_of_step stepped).covers covers
      have covers := ih moved read
      rw [List.append_assoc] at covers
      exact covers
    next => cases read

theorem Moves.readAll {state next : State} {token : Token} (moves : Moves text state token next)
    (tokens : List Token) :
    readAll text state (token :: tokens) = readAll text next tokens := by
  rw [Parser.readAll, moves.step]

theorem readAll_append_of_ok {state next : State} {before : List Token}
    (read : readAll text state before = .ok next) (after : List Token) :
    readAll text state (before ++ after) = readAll text next after := by
  rw [readAll_append, read]
  rfl

/-- What the tokens of a category do to a parser that needs an operand. A chain of sums may leave
its last operator waiting, since products could follow. -/
def Reads (text : String) : Category → List Token → Formula → Prop
  | .operand, tokens, f => ∀ level groups,
    readAll text (.operand level groups) tokens = .ok (.read f level groups)
  | .chain .product, tokens, f => ∀ sum? groups,
    readAll text (.operand ⟨sum?, none⟩ groups) tokens = .ok (.operator f sum? groups)
  | .chain .sum, tokens, f => ∀ groups, ∃ left sum?, close sum? left = f ∧
    readAll text (.operand .fresh groups) tokens = .ok (.operator left sum? groups)

theorem reads_single {p : Precedence} {tokens : List Token} {f : Formula}
    (reads : Reads text (.member p) tokens f) : Reads text (.chain p) tokens f := by
  cases p with
  | product =>
    intro sum? groups
    exact reads ⟨sum?, none⟩ groups
  | sum =>
    intro groups
    exact ⟨f, none, rfl, reads none groups⟩

theorem reads_more {p : Precedence} {op : Operator} {sign : Token} {before after : List Token}
    {f g : Formula} (kind : sign.kind = .op op) (tier : op ∈ operators p)
    (chain : Reads text (.chain p) before f) (last : Reads text (.member p) after g) :
    Reads text (.chain p) (before ++ sign :: after) (.combine op f g) := by
  have tier := mem_operators_iff.1 tier
  cases p with
  | product =>
    intro sum? groups
    rw [readAll_append_of_ok (chain sum? groups), (Moves.product kind tier).readAll]
    exact last ⟨sum?, some ⟨f, op⟩⟩ groups
  | sum =>
    intro groups
    obtain ⟨left, sum?, rfl, read⟩ := chain groups
    refine ⟨g, some ⟨close sum? left, op⟩, rfl, ?_⟩
    rw [readAll_append_of_ok read, (Moves.sum kind tier).readAll]
    exact last (some ⟨close sum? left, op⟩) groups

theorem reads_group {opening closing : Token} {tokens : List Token} {f : Formula}
    (opens : opening.kind = .opening) (closes : closing.kind = .closing)
    (inside : Reads text (.chain .sum) tokens f) :
    Reads text .operand (opening :: (tokens ++ [closing])) f := by
  intro level groups
  obtain ⟨left, sum?, rfl, read⟩ := inside (⟨opening, level⟩ :: groups)
  rw [(Moves.opening opens).readAll, readAll_append_of_ok read, (Moves.closing closes).readAll]
  rfl

theorem reads_of_builds {c : Category} {tokens : List Token} {f : Formula}
    (built : Builds text c tokens f) : Reads text c tokens f := by
  induction built with
  | named kind =>
    intro level groups
    rw [(Moves.named kind).readAll]
    rfl
  | file marked kind =>
    intro level groups
    rw [(Moves.mark marked).readAll, (Moves.file kind).readAll]
    rfl
  | group opens closes inside ih => exact reads_group opens closes ih
  | single only ih => exact reads_single ih
  | more kind tier chain last chainIh lastIh => exact reads_more kind tier chainIh lastIh

/-- A formula ends only where an operand was read and no group is open. -/
theorem finish_eq_ok_iff {stop : Nat} {state : State} {f : Formula} :
    finish text stop state = .ok f ↔ ∃ left sum?, state = .operator left sum? [] ∧
      close sum? left = f := by
  constructor
  · intro finished
    unfold finish at finished
    split at finished
    next => split at finished <;> cases finished
    next => cases finished
    next left sum? => cases finished; exact ⟨left, sum?, rfl, rfl⟩
    next => cases finished
  · rintro ⟨left, sum?, rfl, rfl⟩
    rfl

theorem State.Covers.builds {left : Formula} {sum? : Option Pending} {tokens : List Token}
    (covers : (State.operator left sum? []).Covers text tokens) :
    Builds text .formula tokens (close sum? left) := by
  cases covers with
  | operator outer waits built =>
    cases outer
    exact waits.close built

theorem formulaOf_eq_ok_iff_readAll {scan : Scan} {f : Formula} :
    formulaOf text scan = .ok f ↔ ∃ state, readAll text .start scan.tokens = .ok state ∧
      finish text scan.stop state = .ok f := by
  rw [formulaOf]
  cases readAll text .start scan.tokens with
  | error error => simp [Except.bind]
  | ok state => simp [Except.bind]

/-- The parser returns the formula that its tokens build, and fails if they build none. -/
theorem formulaOf_eq_ok_iff {scan : Scan} {f : Formula} :
    formulaOf text scan = .ok f ↔ Builds text .formula scan.tokens f := by
  rw [formulaOf_eq_ok_iff_readAll]
  constructor
  · rintro ⟨state, read, finished⟩
    obtain ⟨left, sum?, rfl, rfl⟩ := finish_eq_ok_iff.1 finished
    exact (covers_of_readAll State.start_covers read).builds
  · intro built
    obtain ⟨left, sum?, closed, read⟩ := reads_of_builds built []
    exact ⟨_, read, finish_eq_ok_iff.2 ⟨left, sum?, rfl, closed⟩⟩

end RoleAlgebra.Parser

namespace RoleAlgebra

open Grammar

theorem Formula.parse_eq_ok_iff {text : String} {f : Formula} :
    parse text = .ok f ↔ ∃ scan, tokenize text = .ok scan ∧ Builds text .formula scan.tokens f := by
  rw [parse]
  cases tokenize text with
  | error error => simp [Except.bind]
  | ok scan => simp [Except.bind, Parser.formulaOf_eq_ok_iff]

theorem Formula.parse_shape_iff {text : String} {f : Formula} :
    (∃ g, parse text = .ok g ∧ g.sameShape f = true) ↔
      ∃ scan, tokenize text = .ok scan ∧ Derives .formula scan.kinds f.bare := by
  constructor
  · rintro ⟨g, parsed, shape⟩
    obtain ⟨scan, tokenized, built⟩ := parse_eq_ok_iff.1 parsed
    refine ⟨scan, tokenized, ?_⟩
    rw [← sameShape_iff.1 shape]
    exact built.derives
  · rintro ⟨scan, tokenized, derived⟩
    obtain ⟨g, built, bare⟩ := derived.builds rfl
    exact ⟨g, parse_eq_ok_iff.2 ⟨scan, tokenized, built⟩, sameShape_iff.2 bare⟩

/-- A list of tokens has one tree at most: the parser can only return one. -/
theorem Grammar.Derives.unique {c : Category} {kinds : List Token.Kind} {f g : Formula}
    (first : Derives c kinds f) (second : Derives c kinds g) : f = g := by
  -- where the tokens stand does not matter, so all of them are put at the same place
  let scan : Scan := ⟨kinds.map fun kind => ⟨kind, 0, 0⟩, 0⟩
  have same : scan.tokens.map (·.kind) = kinds := by simp [scan, Function.comp_def]
  have read : ∀ h, Derives c kinds h → ∃ h', Parser.formulaOf "" scan = .ok h' ∧ h'.bare = h := by
    intro h derived
    obtain ⟨h', built, bare⟩ := derived.to_formula.builds same
    exact ⟨h', Parser.formulaOf_eq_ok_iff.2 built, bare⟩
  obtain ⟨f', readFirst, rfl⟩ := read f first
  obtain ⟨g', readSecond, rfl⟩ := read g second
  rw [readFirst] at readSecond
  rw [Except.ok.inj readSecond]

/-- The parser accepts exactly the texts whose tokens the grammar derives, and returns the tree that
they derive; they never derive two. -/
theorem parse_accepts_grammar :
    (∀ (text : String) (scan : Scan), tokenize text = .ok scan → ∀ f : Formula,
      (∃ g, Formula.parse text = .ok g ∧ g.sameShape f = true) ↔
        Derives .formula scan.kinds f.bare) ∧
    ∀ (c : Category) (kinds : List Token.Kind) (f g : Formula),
      Derives c kinds f → Derives c kinds g → f = g := by
  constructor
  · intro text scan tokenized f
    rw [Formula.parse_shape_iff, tokenized]
    simp
  · intro c kinds f g first second
    exact first.unique second

theorem parse_accepts_grammar_grouped :
    ∃ scan f, tokenize "a-b*(@c+d)" = .ok scan ∧
      f = .apply .diff (.ref ⟨.named, "a"⟩ none) (.apply .and (.ref ⟨.named, "b"⟩ none)
        (.apply .or (.ref ⟨.file, "c"⟩ none) (.ref ⟨.named, "d"⟩ none) none) none) none ∧
      (∃ g, Formula.parse "a-b*(@c+d)" = .ok g ∧ g.sameShape f = true) ∧
      ∀ g, Derives .formula scan.kinds g → f = g := by
  have tokenized : tokenize "a-b*(@c+d)" = .ok ⟨[⟨.word "a", 0, 1⟩, ⟨.op .diff, 1, 1⟩,
    ⟨.word "b", 2, 1⟩, ⟨.op .and, 3, 1⟩, ⟨.opening, 4, 1⟩, ⟨.at, 5, 1⟩, ⟨.word "c", 6, 1⟩,
    ⟨.op .or, 7, 1⟩, ⟨.word "d", 8, 1⟩, ⟨.closing, 9, 1⟩], 10⟩ := rfl
  have inside : Derives (.chain .sum) ([.at, .word "c"] ++ .op .or :: [.word "d"]) _ :=
    .more (by decide) ((Derives.file "c").of_operand _) ((Derives.named "d").of_operand _)
  have product : Derives (.chain .product) ([.word "b"] ++ .op .and :: _) _ :=
    .more (by decide) ((Derives.named "b").of_operand _) (.group inside)
  have whole : Derives .formula ([.word "a"] ++ .op .diff :: _) _ :=
    .more (by decide) ((Derives.named "a").of_operand _) product
  refine ⟨_, _, tokenized, rfl, (parse_accepts_grammar.1 _ _ tokenized _).2 whole, ?_⟩
  intro g other
  exact parse_accepts_grammar.2 .formula _ _ g whole other

end RoleAlgebra
