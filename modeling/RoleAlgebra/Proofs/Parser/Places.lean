import RoleAlgebra.Formula.Printer
import RoleAlgebra.Proofs.Evaluation.LeafOrder
import RoleAlgebra.Proofs.Parser.Acceptance
import RoleAlgebra.Proofs.Token.Balance
import RoleAlgebra.Proofs.Token.Spans

/-!
Where the nodes of a formula stand in the text that it was read from. The tokens of a text follow
each other (`Token.InRow`), so every node of the formula that they build covers its leaves from the
first to the last and nothing else (`Builds.located`), and no token but the parentheses is lost on
the way into the tree (`Builds.inOrder`, `Builds.leaves`).
-/

namespace RoleAlgebra

namespace Location

theorem stop_between_of_le (text : String) {start stop : Nat} (forward : start ≤ stop) :
    (between text start stop).stop = stop := by
  rw [stop_between, Nat.max_eq_right forward]

theorem join_between {text : String} {a b c d : Nat} (first : a ≤ b) (apart : b ≤ c)
    (second : c ≤ d) : (between text a b).join (between text c d) = between text a d := by
  have starts : min a c = a := Nat.min_eq_left (Nat.le_trans first apart)
  have stops : max b d = d := Nat.max_eq_right (Nat.le_trans apart second)
  rw [join, text_between, start_between, start_between, stop_between_of_le text first,
    stop_between_of_le text second, starts, stops]

end Location

namespace Token

def leaf (text : String) (mark? : Option Token) (word : Token) (id : String) : Formula.Leaf :=
  match mark? with
  | none => ⟨⟨.named, id⟩, some (.between text word.start word.stop)⟩
  | some mark => ⟨⟨.file, id⟩, some (.between text mark.start word.stop)⟩

/-- The leaves that tokens spell, when they come right after a mark or after none. -/
def leavesAfter (text : String) (mark? : Option Token) : List Token → List Formula.Leaf
  | [] => []
  | token :: later =>
    match token.kind with
    | .word id => leaf text mark? token id :: leavesAfter text none later
    | .at => leavesAfter text (some token) later
    | .op _ => leavesAfter text none later
    | .opening => leavesAfter text none later
    | .closing => leavesAfter text none later

def leaves (text : String) (tokens : List Token) : List Formula.Leaf := leavesAfter text none tokens

structure InRow (tokens : List Token) : Prop where
  solid : ∀ token ∈ tokens, token.start < token.stop
  ordered : tokens.Pairwise fun first second => first.stop ≤ second.start

theorem InRow.sublist {some all : List Token} (row : InRow all) (part : some.Sublist all) :
    InRow some :=
  ⟨fun token member => row.solid token (part.subset member), row.ordered.sublist part⟩

end Token

namespace Formula

/-- The tokens of a formula read in order: the left operand, the operator, the right operand. -/
def inOrder : Formula → List Token.Kind
  | ref reference _ => refWords reference
  | apply op left right _ => left.inOrder ++ .op op :: right.inOrder

def subformulas : Formula → List Formula
  | ref reference place? => [ref reference place?]
  | apply op left right place? =>
    apply op left right place? :: (left.subformulas ++ right.subformulas)

/-- A formula whose nodes are all placed in `text`, the root from byte `start` to byte `stop`, and
the operands of each application one after the other over all of its stretch. -/
inductive Located (text : String) : Formula → Nat → Nat → Prop where
  | ref {reference : Reference} {start stop : Nat} (forward : start < stop) :
      Located text (.ref reference (some (.between text start stop))) start stop
  | apply {op : Operator} {left right : Formula} {start leftStop rightStart stop : Nat}
      (first : Located text left start leftStop) (second : Located text right rightStart stop)
      (apart : leftStop < rightStart) :
      Located text (.apply op left right (some (.between text start stop))) start stop

namespace Located

variable {text : String} {f : Formula} {start stop : Nat}

theorem forward (located : Located text f start stop) : start < stop := by
  induction located with
  | ref forward => exact forward
  | apply first second apart leftIh rightIh => omega

theorem place (located : Located text f start stop) :
    f.place? = some (.between text start stop) := by
  cases located <;> rfl

theorem leaves (located : Located text f start stop) :
    ∃ first last, f.leaves.head?.bind (·.place?) = some first ∧
      f.leaves.getLast?.bind (·.place?) = some last ∧ first.start = start ∧ last.stop = stop := by
  induction located with
  | @ref reference start stop forward =>
    exact ⟨.between text start stop, .between text start stop, by simp, by simp, rfl,
      Location.stop_between_of_le text (Nat.le_of_lt forward)⟩
  | apply first second apart leftIh rightIh =>
    obtain ⟨head, -, headPlace, -, starts, -⟩ := leftIh
    obtain ⟨-, last, -, lastPlace, -, stops⟩ := rightIh
    obtain ⟨leaf, leftmost, headPlace⟩ := Option.bind_eq_some_iff.1 headPlace
    obtain ⟨leaf', rightmost, lastPlace⟩ := Option.bind_eq_some_iff.1 lastPlace
    refine ⟨head, last, ?_, ?_, starts, stops⟩
    · rw [leaves_apply, List.head?_append, leftmost]
      exact headPlace
    · rw [leaves_apply, List.getLast?_append, rightmost]
      exact lastPlace

theorem operands {op : Operator} {left right : Formula} {place? : Option Location}
    (located : Located text (.apply op left right place?) start stop) :
    ∃ here there, left.place? = some here ∧ right.place? = some there ∧ here.start = start ∧
      here.start < here.stop ∧ here.stop < there.start ∧ there.start < there.stop ∧
      there.stop = stop := by
  cases located with
  | @apply _ _ _ _ leftStop rightStart _ first second apart =>
    have hereStop := Location.stop_between_of_le text (Nat.le_of_lt first.forward)
    have thereStop := Location.stop_between_of_le text (Nat.le_of_lt second.forward)
    refine ⟨_, _, first.place, second.place, rfl, ?_, ?_, ?_, thereStop⟩
    · rw [hereStop]
      exact first.forward
    · rw [hereStop]
      exact apart
    · rw [thereStop]
      exact second.forward

theorem subformulas (located : Located text f start stop) :
    ∀ g ∈ f.subformulas, ∃ start stop, Located text g start stop := by
  induction located with
  | ref forward =>
    intro g member
    obtain rfl := List.mem_singleton.1 member
    exact ⟨_, _, .ref forward⟩
  | apply first second apart leftIh rightIh =>
    intro g member
    rcases List.mem_cons.1 member with rfl | inside
    · exact ⟨_, _, .apply first second apart⟩
    · rcases List.mem_append.1 inside with left | right
      · exact leftIh g left
      · exact rightIh g right

end Located
end Formula

namespace Grammar

open Formula Token

variable {text : String} {c : Category} {tokens : List Token} {f : Formula}

/-- Reading the tree in order gives back the tokens, without the parentheses. -/
theorem Builds.inOrder (built : Builds text c tokens f) :
    f.inOrder = (tokens.map (·.kind)).filter (!·.isParenthesis) := by
  induction built with
  | named kind => simp [Formula.inOrder, refWords, kind, Kind.isParenthesis]
  | file marked kind => simp [Formula.inOrder, refWords, marked, kind, Kind.isParenthesis]
  | group opens closes inside ih => simp [opens, closes, Kind.isParenthesis, ih]
  | single only ih => exact ih
  | more kind tier chain last chainIh lastIh =>
    simp [combine, Formula.inOrder, chainIh, lastIh, kind, Kind.isParenthesis]

theorem join_places {mark path : Token} (row : InRow [mark, path]) :
    (Parser.place text mark).join (Parser.place text path) =
      .between text mark.start path.stop := by
  have apart : mark.stop ≤ path.start := by simpa using row.ordered
  exact Location.join_between (Nat.le_of_lt (row.solid mark (by simp))) apart
    (Nat.le_of_lt (row.solid path (by simp)))

/-- The leaves are those that the tokens spell, whatever comes after these. -/
theorem Builds.leavesAfter (built : Builds text c tokens f) (row : InRow tokens)
    (rest : List Token) :
    Token.leavesAfter text none (tokens ++ rest) =
      f.leaves ++ Token.leavesAfter text none rest := by
  induction built generalizing rest with
  | named kind => simp [Token.leavesAfter, kind, leaf, Parser.place]
  | file marked kind => simp [Token.leavesAfter, marked, kind, leaf, join_places row]
  | @group opening closing tokens f opens closes inside ih =>
    have inner := ih (row.sublist ((List.sublist_append_left _ _).cons _)) (closing :: rest)
    simp [Token.leavesAfter, opens, closes, inner]
  | single only ih => exact ih row rest
  | @more p op sign before after f g kind tier chain last chainIh lastIh =>
    have left := chainIh (row.sublist (List.sublist_append_left _ _)) (sign :: (after ++ rest))
    have right := lastIh (row.sublist ((List.sublist_cons_self _ _).trans
      (List.sublist_append_right _ _))) rest
    simp [combine, left, right, Token.leavesAfter, kind]

theorem Builds.leaves (built : Builds text c tokens f) (row : InRow tokens) :
    f.leaves = Token.leaves text tokens := by
  have spelled := built.leavesAfter row []
  simp only [List.append_nil, Token.leavesAfter] at spelled
  exact spelled.symm

theorem Builds.named_leaf (built : Builds text c tokens f) :
    ∀ leaf ∈ f.leaves, leaf.reference.origin = .named → ∃ token ∈ tokens,
      token.kind = .word leaf.reference.id ∧ leaf.place? = some (Parser.place text token) := by
  induction built with
  | @named token id kind =>
    intro leaf member _
    obtain rfl : leaf = ⟨⟨.named, id⟩, some (Parser.place text token)⟩ := by simpa using member
    exact ⟨token, by simp, kind, rfl⟩
  | file marked kind =>
    intro leaf member named
    obtain rfl := by simpa using member
    cases named
  | group opens closes inside ih =>
    intro leaf member named
    obtain ⟨token, inside, spelled⟩ := ih leaf member named
    exact ⟨token, by simp [inside], spelled⟩
  | single only ih => exact ih
  | more kind tier chain last chainIh lastIh =>
    intro leaf member named
    rw [combine, leaves_apply] at member
    rcases List.mem_append.1 member with left | right
    · obtain ⟨token, inside, spelled⟩ := chainIh leaf left named
      exact ⟨token, by simp [inside], spelled⟩
    · obtain ⟨token, inside, spelled⟩ := lastIh leaf right named
      exact ⟨token, by simp [inside], spelled⟩

/-- The places of the nodes, which begin and end with tokens. Parentheses around a formula are left
out, as its ends are tokens from inside of them. -/
theorem Builds.located (built : Builds text c tokens f) (row : InRow tokens) :
    ∃ first ∈ tokens, ∃ last ∈ tokens, Located text f first.start last.stop := by
  induction built with
  | @named token id kind =>
    exact ⟨token, by simp, token, by simp, .ref (row.solid token (by simp))⟩
  | @file mark path id marked kind =>
    have apart : mark.stop ≤ path.start := by simpa using row.ordered
    have solid := row.solid mark (by simp)
    have solid' := row.solid path (by simp)
    refine ⟨mark, by simp, path, by simp, ?_⟩
    rw [join_places row]
    exact .ref (by omega)
  | group opens closes inside ih =>
    obtain ⟨first, member, last, member', located⟩ :=
      ih (row.sublist ((List.sublist_append_left _ _).cons _))
    exact ⟨first, by simp [member], last, by simp [member'], located⟩
  | single only ih => exact ih row
  | @more p op sign before after f g kind tier chain last chainIh lastIh =>
    obtain ⟨first, firstIn, leftLast, leftLastIn, left⟩ :=
      chainIh (row.sublist (List.sublist_append_left _ _))
    obtain ⟨rightFirst, rightFirstIn, last, lastIn, right⟩ :=
      lastIh (row.sublist ((List.sublist_cons_self _ _).trans (List.sublist_append_right _ _)))
    -- the operator stands between the two operands
    obtain ⟨-, signRow, across⟩ := List.pairwise_append.1 row.ordered
    have toSign : leftLast.stop ≤ sign.start := across leftLast leftLastIn sign (by simp)
    have fromSign : sign.stop ≤ rightFirst.start :=
      (List.pairwise_cons.1 signRow).1 rightFirst rightFirstIn
    have solid := row.solid sign (by simp)
    have apart : leftLast.stop < rightFirst.start := by omega
    refine ⟨first, by simp [firstIn], last, by simp [lastIn], ?_⟩
    rw [combine, left.place, right.place, joinPlaces, Location.join_between
      (Nat.le_of_lt left.forward) (Nat.le_of_lt apart) (Nat.le_of_lt right.forward)]
    exact .apply left right apart

end Grammar

open Grammar

theorem inRow_of_tokenize {text : String} {scan : Scan} (tokenized : tokenize text = .ok scan) :
    Token.InRow scan.tokens :=
  ⟨(divided_of_tokenize tokenized).start_lt_stop, (divided_of_tokenize tokenized).ordered⟩

/-- A formula that was read has all tokens of its text but the parentheses, in their order. Its
leaves are placed on their own tokens, and every node from its first leaf to its last one. -/
theorem parse_locates_nodes {text : String} {f : Formula} (parsed : Formula.parse text = .ok f) :
    ∃ scan, tokenize text = .ok scan ∧
      f.inOrder = scan.kinds.filter (!·.isParenthesis) ∧
      f.leaves = Token.leaves text scan.tokens ∧
      (∀ leaf ∈ f.leaves, leaf.reference.origin = .named →
        leaf.place?.bind Location.snippet? = some leaf.reference.id) ∧
      ∀ g ∈ f.subformulas, ∃ place first last,
        g.place? = some place ∧ place.text = text ∧
        g.leaves.head?.bind (·.place?) = some first ∧
        g.leaves.getLast?.bind (·.place?) = some last ∧
        place.start = first.start ∧ place.stop = last.stop ∧
        ∀ op left right place?, g = .apply op left right place? → ∃ here there,
          left.place? = some here ∧ right.place? = some there ∧
          place.start = here.start ∧ here.start < here.stop ∧ here.stop < there.start ∧
          there.start < there.stop ∧ there.stop = place.stop := by
  obtain ⟨scan, tokenized, built⟩ := Formula.parse_eq_ok_iff.1 parsed
  have row := inRow_of_tokenize tokenized
  obtain ⟨_, -, _, -, located⟩ := built.located row
  refine ⟨scan, tokenized, built.inOrder, built.leaves row, ?_, ?_⟩
  · intro leaf member named
    obtain ⟨token, inside, word, place⟩ := built.named_leaf leaf member named
    rw [place, Option.bind_some, snippet?_place tokenized token inside, word]
    simp [Token.Kind.shown, Token.Kind.chars]
  · intro g member
    obtain ⟨start, stop, located⟩ := located.subformulas g member
    obtain ⟨first, last, head, final, starts, stops⟩ := located.leaves
    have whole : (Location.between text start stop).stop = stop :=
      Location.stop_between_of_le text (Nat.le_of_lt located.forward)
    refine ⟨_, first, last, located.place, rfl, head, final, starts.symm,
      whole.trans stops.symm, ?_⟩
    intro op left right place? same
    subst same
    obtain ⟨here, there, leftPlace, rightPlace, begins, order⟩ := located.operands
    rw [whole]
    exact ⟨here, there, leftPlace, rightPlace, begins.symm, order⟩

theorem parse_locates_nodes_grouped :
    let text := "a+((@ b*c))"
    let product : Formula := .apply .and (.ref ⟨.file, "b"⟩ (some ⟨text, 4, 3⟩))
      (.ref ⟨.named, "c"⟩ (some ⟨text, 8, 1⟩)) (some ⟨text, 4, 5⟩)
    let f : Formula := .apply .or (.ref ⟨.named, "a"⟩ (some ⟨text, 0, 1⟩)) product
      (some ⟨text, 0, 9⟩)
    Formula.parse text = .ok f ∧
      f.inOrder = [.word "a", .op .or, .at, .word "b", .op .and, .word "c"] ∧
      ∃ place first last, product.place? = some place ∧
        product.leaves.head?.bind (·.place?) = some first ∧
        product.leaves.getLast?.bind (·.place?) = some last ∧
        place.start = first.start ∧ place.stop = last.stop := by
  intro text product f
  have parsed : Formula.parse text = .ok f := by decide
  obtain ⟨scan, tokenized, inOrder, -, -, nodes⟩ := parse_locates_nodes parsed
  have tokens : tokenize text = .ok ⟨[⟨.word "a", 0, 1⟩, ⟨.op .or, 1, 1⟩, ⟨.opening, 2, 1⟩,
    ⟨.opening, 3, 1⟩, ⟨.at, 4, 1⟩, ⟨.word "b", 6, 1⟩, ⟨.op .and, 7, 1⟩, ⟨.word "c", 8, 1⟩,
    ⟨.closing, 9, 1⟩, ⟨.closing, 10, 1⟩], 11⟩ := by decide
  rw [tokens] at tokenized
  cases tokenized
  obtain ⟨place, first, last, here, -, head, final, starts, stops, -⟩ :=
    nodes product (by simp [f, product, Formula.subformulas])
  exact ⟨parsed, inOrder, place, first, last, here, head, final, starts, stops⟩

end RoleAlgebra
