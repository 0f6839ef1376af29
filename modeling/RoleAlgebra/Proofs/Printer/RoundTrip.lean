import RoleAlgebra.Formula.Printer
import RoleAlgebra.Proofs.Parser.Acceptance

/-!
What is printed is read back as the same tree. `wordsAs` says how a formula is printed where the
grammar asks for some category: the printer's choice of parentheses is that of the grammar
(`words_apply_eq`), so that each formula derives from its own tokens (`derives_words`), and these
are the tokens its text is divided into (`tokenize_print`).
-/

namespace RoleAlgebra

open Grammar

def Grammar.Category.groups (c : Category) : Formula → Bool
  | .ref _ _ => false
  | .apply op _ _ _ =>
    match c, op.precedence with
    | .operand, _ => true
    | .chain .product, .sum => true
    | .chain .product, .product => false
    | .chain .sum, _ => false

namespace Formula

def wordsAs (c : Category) (f : Formula) : List Token.Kind := operandWords (c.groups f) f

theorem needsGroup_left (op : Operator) (f : Formula) :
    f.needsGroup op false = (Category.chain op.precedence).groups f := by
  cases f with
  | ref reference place? => rfl
  | apply inner left right place? => cases inner <;> cases op <;> rfl

theorem needsGroup_right (op : Operator) (f : Formula) :
    f.needsGroup op true = (Category.member op.precedence).groups f := by
  cases f with
  | ref reference place? => rfl
  | apply inner left right place? => cases inner <;> cases op <;> rfl

theorem words_apply_eq (op : Operator) (left right : Formula) (place? : Option Location) :
    (apply op left right place?).words = left.wordsAs (.chain op.precedence) ++
      .op op :: right.wordsAs (.member op.precedence) := by
  rw [words_apply, needsGroup_left, needsGroup_right]
  rfl

theorem wordsAs_formula (f : Formula) : f.wordsAs .formula = f.words := by
  cases f with
  | ref reference place? => rfl
  | apply op left right place? => cases op <;> rfl

theorem derives_refWords (reference : Reference) :
    Derives .operand (refWords reference) (ref reference none) := by
  obtain ⟨origin, id⟩ := reference
  cases origin with
  | named => exact .named id
  | file => exact .file id

theorem derives_of_groups {op : Operator} {left right : Formula} {place? : Option Location}
    {c : Category} {kinds : List Token.Kind} {f : Formula}
    (free : c.groups (apply op left right place?) = false)
    (derived : Derives (.chain op.precedence) kinds f) : Derives c kinds f := by
  match c with
  | .operand => cases free
  | .chain .sum => exact derived.to_formula
  | .chain .product =>
    cases tier : op.precedence with
    | sum => simp [Category.groups, tier] at free
    | product =>
      rw [tier] at derived
      exact derived

theorem derives_wordsAs (f : Formula) (c : Category) : Derives c (f.wordsAs c) f.bare := by
  -- for all categories at once, since the two operands are asked for different ones
  induction f generalizing c with
  | ref reference place? =>
    have operand := derives_refWords reference
    rw [← words_ref reference place?] at operand
    exact operand.of_operand c
  | apply op left right place? leftIh rightIh =>
    have own : Derives (.chain op.precedence) (apply op left right place?).words
        (apply op left right place?).bare := by
      rw [words_apply_eq, bare]
      exact .more (mem_operators_iff.2 rfl) (leftIh _) (rightIh _)
    rw [wordsAs]
    cases free : c.groups (apply op left right place?) with
    | false => exact derives_of_groups free own
    | true => exact (Derives.group own.to_formula).of_operand c

theorem derives_words (f : Formula) : Derives .formula f.words f.bare := by
  rw [← wordsAs_formula]
  exact f.derives_wordsAs .formula

theorem refs_bare (f : Formula) : f.bare.refs = f.refs := by
  rw [refs, labels_bare, refs]

end Formula

namespace Scanner

theorem scanFrom_spaced (scanner : Scanner) {kind : Token.Kind} (lexable : kind.Lexable)
    (apart : scanner.word = [] ∨ kind.isWord = false) :
    ∃ next, scanner.scanFrom kind.spaced = .ok next ∧ next.kinds = scanner.kinds ++ [kind] ∧
      (next.word = [] ∨ kind.isWord = true) := by
  cases kind with
  | op operator =>
    have space : Token.isSpace ' ' = true := rfl
    have before := scanner.scanFrom_space space
    obtain ⟨next, read, added, -⟩ :=
      scanFrom_chars ⟨scanner.offset + 1, scanner.tokens, []⟩ lexable (.inl rfl)
    have after := next.scanFrom_space space
    refine ⟨⟨next.offset + 1, next.tokens, []⟩, ?_, kinds_of_tokens added, .inl rfl⟩
    show scanner.scanFrom ([' '] ++ ((Token.Kind.op operator).chars ++ [' '])) = _
    rw [scanFrom_append_of_ok before, scanFrom_append_of_ok read, after]
  | opening | closing | «at» | word =>
    obtain ⟨next, read, added, open_⟩ := scanner.scanFrom_chars lexable apart
    exact ⟨next, read, kinds_of_tokens added, open_⟩

theorem scanFrom_flatMap_spaced {kinds : List Token.Kind} (scanner : Scanner)
    (lexable : ∀ kind ∈ kinds, kind.Lexable) (separated : Token.Separated kinds)
    (apart : scanner.word = [] ∨ ∀ kind ∈ kinds.head?, kind.isWord = false) :
    ∃ last, scanner.scanFrom (kinds.flatMap Token.Kind.spaced) = .ok last ∧
      last.kinds = scanner.kinds ++ kinds := by
  induction kinds generalizing scanner with
  | nil => exact ⟨scanner, rfl, by simp⟩
  | cons kind kinds ih =>
    obtain ⟨between, separated⟩ := List.isChain_cons.1 separated
    obtain ⟨here, later⟩ := List.forall_mem_cons.1 lexable
    have apart : scanner.word = [] ∨ kind.isWord = false := by simpa using apart
    obtain ⟨next, read, kindsNext, open_⟩ := scanner.scanFrom_spaced here apart
    -- only a word leaves a word open, and no word comes after it
    have apartNext : next.word = [] ∨ ∀ kind ∈ kinds.head?, kind.isWord = false := by
      rcases open_ with closed | word
      · exact .inl closed
      · refine .inr ?_
        intro following head
        rcases between following head with sign | sign
        · rw [word] at sign
          cases sign
        · exact sign
    obtain ⟨last, readLater, kindsLast⟩ := ih next later separated apartNext
    refine ⟨last, ?_, ?_⟩
    · rw [List.flatMap_cons, scanFrom_append_of_ok read, readLater]
    · rw [kindsLast, kindsNext, List.append_assoc]
      rfl

end Scanner

namespace Formula

/-- The tokens that a formula is printed with are the tokens of its text. -/
theorem tokenize_print {f : Formula} (names : ∀ reference ∈ f.refs, Token.IsName reference.id) :
    ∃ scan, tokenize f.print = .ok scan ∧ scan.kinds = f.words := by
  have derived := f.derives_words
  have lexable : ∀ kind ∈ f.words, kind.Lexable := by
    rw [derived.lexable_iff, refs_bare]
    exact names
  obtain ⟨last, read, kinds⟩ :=
    Scanner.scanFrom_flatMap_spaced .start lexable derived.separated (.inl rfl)
  refine ⟨⟨last.tokens.reverse, last.offset⟩, tokenize_eq_ok_iff.2 ⟨last, ?_, rfl⟩, ?_⟩
  · rw [print, String.toList_ofList, read]
  · rw [← Scanner.kinds_eq_scan, kinds, Scanner.kinds_start, List.nil_append]

theorem names_of_parse {text : String} {f : Formula}
    (parsed : ∃ g, parse text = .ok g ∧ g.sameShape f = true) :
    ∀ reference ∈ f.refs, Token.IsName reference.id := by
  obtain ⟨scan, tokenized, derived⟩ := parse_shape_iff.1 parsed
  rw [← refs_bare, ← derived.lexable_iff]
  exact (kinds_of_tokenize tokenized).2

theorem parse_print {f : Formula} (names : ∀ reference ∈ f.refs, Token.IsName reference.id) :
    ∃ g, parse f.print = .ok g ∧ g.sameShape f = true := by
  obtain ⟨scan, tokenized, kinds⟩ := tokenize_print names
  refine parse_shape_iff.2 ⟨scan, tokenized, ?_⟩
  rw [kinds]
  exact f.derives_words

end Formula

/-- Printing a formula and reading it back restores its shape exactly if all of its names can be
written; those of a formula that was read can. -/
theorem parse_print_restores :
    (∀ f : Formula, (∃ g, Formula.parse f.print = .ok g ∧ g.sameShape f = true) ↔
      ∀ reference ∈ f.refs, Token.IsName reference.id) ∧
    ∀ (text : String) (f : Formula), Formula.parse text = .ok f →
      ∃ g, Formula.parse f.print = .ok g ∧ g.sameShape f = true := by
  constructor
  · intro f
    exact ⟨Formula.names_of_parse, Formula.parse_print⟩
  · intro text f parsed
    have same : f.sameShape f = true := Formula.sameShape_iff.2 rfl
    exact Formula.parse_print (Formula.names_of_parse ⟨f, parsed, same⟩)

theorem parse_print_restores_nested :
    ∃ f, Formula.parse "a-(b^@c/d.e)" = .ok f ∧
      ∃ g, Formula.parse f.print = .ok g ∧ g.sameShape f = true := by
  have read : (Formula.parse "a-(b^@c/d.e)").isOk = true := rfl
  cases parsed : Formula.parse "a-(b^@c/d.e)" with
  | error error =>
    rw [parsed] at read
    cases read
  | ok f => exact ⟨f, rfl, parse_print_restores.2 _ f parsed⟩

end RoleAlgebra
