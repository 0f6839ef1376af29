import RoleAlgebra.Proofs.Printer.RoundTrip

/-!
A formula is printed with as few parentheses as its shape allows, and there is no other way to write
it with as few. Along a derivation, what the printer would write is compared with what stands there:
`Plainer` is kept by joining tokens and by putting parentheses around them.
-/

namespace RoleAlgebra

open Grammar

/-- Fewer parentheses, or the same tokens. -/
def Plainer (printed written : List Token.Kind) : Prop :=
  printed.count .opening ≤ written.count .opening ∧
    (printed.count .opening = written.count .opening → printed = written)

namespace Plainer

theorem refl (kinds : List Token.Kind) : Plainer kinds kinds := ⟨Nat.le_refl _, fun _ => rfl⟩

theorem of_lt {printed written : List Token.Kind}
    (fewer : printed.count .opening < written.count .opening) : Plainer printed written := by
  refine ⟨Nat.le_of_lt fewer, ?_⟩
  intro same
  omega

theorem trans {a b c : List Token.Kind} (first : Plainer a b) (second : Plainer b c) :
    Plainer a c := by
  obtain ⟨le, eq⟩ := first
  obtain ⟨le', eq'⟩ := second
  refine ⟨Nat.le_trans le le', ?_⟩
  intro same
  rw [eq (by omega), eq' (by omega)]

theorem append {a b c d : List Token.Kind} (left : Plainer a b) (right : Plainer c d) :
    Plainer (a ++ c) (b ++ d) := by
  obtain ⟨le, eq⟩ := left
  obtain ⟨le', eq'⟩ := right
  simp only [Plainer, List.count_append]
  refine ⟨Nat.add_le_add le le', ?_⟩
  intro same
  rw [eq (by omega), eq' (by omega)]

theorem group {printed written : List Token.Kind} (inside : Plainer printed written) :
    Plainer (.opening :: (printed ++ [.closing])) (.opening :: (written ++ [.closing])) :=
  (refl [.opening]).append (inside.append (refl [.closing]))

theorem more {a b c d : List Token.Kind} (op : Operator) (left : Plainer a b)
    (right : Plainer c d) : Plainer (a ++ .op op :: c) (b ++ .op op :: d) :=
  left.append ((refl [.op op]).append right)

theorem ungrouped {printed written : List Token.Kind} (inside : Plainer printed written) :
    Plainer printed (.opening :: (written ++ [.closing])) := by
  refine of_lt ?_
  have le := inside.1
  simp only [List.count_cons_self, List.count_append]
  omega

end Plainer

namespace Formula

theorem wordsAs_of_free {c : Category} {f : Formula} (free : c.groups f = false) :
    f.wordsAs c = f.words := by
  rw [wordsAs, free]
  rfl

theorem wordsAs_of_groups {c : Category} {f : Formula} (grouped : c.groups f = true) :
    f.wordsAs c = .opening :: (f.words ++ [.closing]) := by
  rw [wordsAs, grouped]
  rfl

theorem groups_member {p : Precedence} {f : Formula}
    (grouped : (Category.chain p).groups f = true) : (Category.member p).groups f = true := by
  cases f with
  | ref reference place? => cases grouped
  | apply op left right place? =>
    cases p with
    | product => rfl
    | sum => cases grouped

theorem wordsAs_chain_plainer (p : Precedence) (f : Formula) :
    Plainer (f.wordsAs (.chain p)) (f.wordsAs (.member p)) := by
  cases grouped : (Category.chain p).groups f with
  | true =>
    rw [wordsAs_of_groups grouped, wordsAs_of_groups (groups_member grouped)]
    exact .refl _
  | false =>
    rw [wordsAs_of_free grouped]
    cases member : (Category.member p).groups f with
    | true =>
      rw [wordsAs_of_groups member]
      exact (Plainer.refl _).ungrouped
    | false =>
      rw [wordsAs_of_free member]
      exact .refl _

theorem wordsAs_apply (op : Operator) (left right : Formula) (place? : Option Location) :
    (apply op left right place?).wordsAs (.chain op.precedence) =
      left.wordsAs (.chain op.precedence) ++ .op op :: right.wordsAs (.member op.precedence) := by
  have free : (Category.chain op.precedence).groups (apply op left right place?) = false := by
    cases op <;> rfl
  rw [wordsAs_of_free free, words_apply_eq]

theorem groups_bare (c : Category) (f : Formula) : c.groups f.bare = c.groups f := by
  cases f <;> rfl

theorem words_bare (f : Formula) : f.bare.words = f.words := by
  induction f with
  | ref reference place? => rw [bare, words_ref, words_ref]
  | apply op left right place? leftIh rightIh =>
    rw [bare, words_apply_eq, words_apply_eq]
    simp only [wordsAs, operandWords, groups_bare, leftIh, rightIh]

end Formula

/-- Whatever derives a tree has at least the parentheses of the printer. -/
theorem Grammar.Derives.plainer {c : Category} {kinds : List Token.Kind} {f : Formula}
    (derived : Derives c kinds f) : Plainer (f.wordsAs c) kinds := by
  induction derived with
  | named id =>
    rw [Formula.wordsAs_of_free rfl, Formula.words_ref]
    exact .refl _
  | file id =>
    rw [Formula.wordsAs_of_free rfl, Formula.words_ref]
    exact .refl _
  | @group kinds f inside ih =>
    have words : Plainer f.words kinds := by
      rw [← Formula.wordsAs_formula]
      exact ih
    cases grouped : Category.operand.groups f with
    | true =>
      rw [Formula.wordsAs_of_groups grouped]
      exact words.group
    | false =>
      rw [Formula.wordsAs_of_free grouped]
      exact words.ungrouped
  | @single p kinds f only ih => exact (f.wordsAs_chain_plainer p).trans ih
  | more tier chain last chainIh lastIh =>
    obtain rfl := mem_operators_iff.1 tier
    rw [Formula.wordsAs_apply]
    exact chainIh.more _ lastIh

theorem count_of_tokenize {text : String} {scan : Scan} (tokenized : tokenize text = .ok scan) :
    text.toList.count '(' = scan.kinds.count .opening := by
  obtain ⟨spelled, lexable⟩ := kinds_of_tokenize tokenized
  have visible : (text.toList.filter (!Token.isSpace ·)).count '(' = text.toList.count '(' :=
    List.count_filter rfl
  rw [← visible, ← spelled]
  generalize scan.kinds = kinds at lexable
  induction kinds with
  | nil => rfl
  | cons kind kinds ih =>
    obtain ⟨here, later⟩ := List.forall_mem_cons.1 lexable
    have own : kind.chars.count '(' = [kind].count .opening := by
      cases kind with
      | word text =>
        have absent : '(' ∉ text.toList := fun member => absurd (here.2 '(' member) (by decide)
        rw [Token.Kind.chars, List.count_eq_zero_of_not_mem absent]
        rfl
      | op operator => cases operator <;> rfl
      | opening | closing | «at» => rfl
    rw [List.flatMap_cons, List.count_append, own, ih later, ← List.count_append]
    rfl

/-- The printed text has the shape of its formula, no text of this shape has fewer parentheses, and
one that has as few differs from it in its spaces only. -/
theorem print_fewest_groups {text : String} {f g : Formula} (parsed : Formula.parse text = .ok g)
    (shape : g.sameShape f = true) :
    (∃ h, Formula.parse f.print = .ok h ∧ h.sameShape f = true) ∧
      f.print.toList.count '(' ≤ text.toList.count '(' ∧
      (f.print.toList.count '(' = text.toList.count '(' →
        (∃ scan printed, tokenize text = .ok scan ∧ tokenize f.print = .ok printed ∧
          scan.kinds = printed.kinds) ∧
        text.toList.filter (!Token.isSpace ·) = f.print.toList.filter (!Token.isSpace ·)) := by
  have names := Formula.names_of_parse ⟨g, parsed, shape⟩
  obtain ⟨scan, tokenized, derived⟩ := Formula.parse_shape_iff.1 ⟨g, parsed, shape⟩
  obtain ⟨printed, tokenizedPrint, kinds⟩ := Formula.tokenize_print names
  have plainer : Plainer printed.kinds scan.kinds := by
    rw [kinds, ← Formula.words_bare, ← Formula.wordsAs_formula]
    exact derived.plainer
  rw [count_of_tokenize tokenized, count_of_tokenize tokenizedPrint]
  refine ⟨Formula.parse_print names, plainer.1, ?_⟩
  intro same
  have equal := plainer.2 same
  refine ⟨⟨scan, printed, tokenized, tokenizedPrint, equal.symm⟩, ?_⟩
  rw [← (kinds_of_tokenize tokenized).1, ← (kinds_of_tokenize tokenizedPrint).1, equal]

theorem print_fewest_groups_respaced :
    ∃ f g, Formula.parse "a*b-(c-@d)" = .ok g ∧ g.sameShape f = true ∧
      f.print = "a * b - (c - @d)" ∧
      ∃ scan printed, tokenize "a*b-(c-@d)" = .ok scan ∧ tokenize f.print = .ok printed ∧
        scan.kinds = printed.kinds := by
  have tree : (Formula.parse "a*b-(c-@d)").map Formula.bare =
      .ok (.apply .diff (.apply .and (.ref ⟨.named, "a"⟩ none) (.ref ⟨.named, "b"⟩ none) none)
        (.apply .diff (.ref ⟨.named, "c"⟩ none) (.ref ⟨.file, "d"⟩ none) none) none) := rfl
  cases parsed : Formula.parse "a*b-(c-@d)" with
  | error error =>
    rw [parsed] at tree
    cases tree
  | ok g =>
    rw [parsed] at tree
    have shape : g.sameShape g.bare = true := Formula.sameShape_iff.2 g.bare_bare.symm
    have print : g.bare.print = "a * b - (c - @d)" := by
      rw [Except.ok.inj tree]
      cbv
    have same : g.bare.print.toList.count '(' = "a*b-(c-@d)".toList.count '(' := by
      rw [print]
      rfl
    have equal := (print_fewest_groups parsed shape).2.2 same
    exact ⟨g.bare, g, rfl, shape, print, equal.1⟩

end RoleAlgebra
