import RoleAlgebra.Proofs.Parser.Places
import RoleAlgebra.Proofs.Text.Positions

namespace RoleAlgebra

namespace Token

def OnBoundaries (text : String) (tokens : List Token) : Prop :=
  ∀ token ∈ tokens, Text.IsBoundary text token.start ∧ Text.IsBoundary text token.stop

end Token

theorem onBoundaries_of_tokenize {text : String} {scan : Scan}
    (tokenized : tokenize text = .ok scan) : Token.OnBoundaries text scan.tokens := by
  intro token member
  have inside := (divided_of_tokenize tokenized).part token member
  exact (Text.exists_part_iff.1 ⟨_, inside⟩).2

namespace Formula

theorem mem_subformulas_self (f : Formula) : f ∈ f.subformulas := by
  cases f <;> exact List.mem_cons_self

theorem mem_subformulas_of_leaf {f : Formula} :
    ∀ leaf ∈ f.leaves, .ref leaf.reference leaf.place? ∈ f.subformulas := by
  induction f with
  | ref reference place? => simp [subformulas]
  | apply op left right place? leftIh rightIh =>
    intro leaf member
    rw [leaves_apply] at member
    refine List.mem_cons_of_mem _ (List.mem_append.2 ?_)
    rcases List.mem_append.1 member with first | second
    · exact .inl (leftIh leaf first)
    · exact .inr (rightIh leaf second)

theorem Located.leaf_places {text : String} {f : Formula} {start stop : Nat}
    (located : Located text f start stop) :
    ∃ places : List Location, f.leaves.map (·.place?) = places.map some ∧
      (∀ place ∈ places, place.text = text ∧ start ≤ place.start ∧ place.start < stop) ∧
      places.Pairwise fun here there => here.start < there.start := by
  induction located with
  | @ref reference start stop forward =>
    refine ⟨[.between text start stop], by simp, ?_, List.pairwise_singleton _ _⟩
    exact List.forall_mem_singleton.2 ⟨rfl, Nat.le_refl start, forward⟩
  | @apply op left right start leftStop rightStart stop first second apart leftIh rightIh =>
    obtain ⟨before, leftLeaves, leftBounds, leftRow⟩ := leftIh
    obtain ⟨after, rightLeaves, rightBounds, rightRow⟩ := rightIh
    have leftForward := first.forward
    have rightForward := second.forward
    refine ⟨before ++ after, ?_, ?_, List.pairwise_append.2 ⟨leftRow, rightRow, ?_⟩⟩
    · rw [leaves_apply, List.map_append, List.map_append, leftLeaves, rightLeaves]
    · intro place member
      rcases List.mem_append.1 member with left | right
      · obtain ⟨same, starts, stops⟩ := leftBounds place left
        exact ⟨same, starts, by omega⟩
      · obtain ⟨same, starts, stops⟩ := rightBounds place right
        exact ⟨same, by omega, stops⟩
    · intro here left there right
      obtain ⟨-, -, stops⟩ := leftBounds here left
      obtain ⟨-, starts, -⟩ := rightBounds there right
      omega

end Formula

namespace Grammar

open Formula Token

variable {text : String} {c : Category} {tokens : List Token} {f : Formula}

theorem Builds.subformulas (built : Builds text c tokens f) :
    ∀ g ∈ f.subformulas, ∃ d part, Builds text d part g ∧ part.Sublist tokens := by
  induction built with
  | named kind =>
    intro g member
    obtain rfl := List.mem_singleton.1 member
    exact ⟨_, _, .named kind, .refl _⟩
  | file marked kind =>
    intro g member
    obtain rfl := List.mem_singleton.1 member
    exact ⟨_, _, .file marked kind, .refl _⟩
  | group opens closes inside ih =>
    intro g member
    obtain ⟨d, part, built, sublist⟩ := ih g member
    exact ⟨d, part, built, sublist.trans ((List.sublist_append_left _ _).cons _)⟩
  | single only ih => exact ih
  | more kind tier chain last chainIh lastIh =>
    intro g member
    rcases List.mem_cons.1 member with rfl | inside
    · exact ⟨_, _, .more kind tier chain last, .refl _⟩
    · rcases List.mem_append.1 inside with left | right
      · obtain ⟨d, part, built, sublist⟩ := chainIh g left
        exact ⟨d, part, built, sublist.trans (List.sublist_append_left _ _)⟩
      · obtain ⟨d, part, built, sublist⟩ := lastIh g right
        exact ⟨d, part, built, sublist.trans ((List.sublist_cons_self _ _).trans
          (List.sublist_append_right _ _))⟩

/-- Every part of a formula has its place, between two boundaries of the text. -/
theorem Builds.placed (built : Builds text c tokens f) (row : InRow tokens)
    (boundaries : OnBoundaries text tokens) :
    ∀ g ∈ f.subformulas, ∃ start stop, g.place? = some (.between text start stop) ∧
      start < stop ∧ Text.IsBoundary text start ∧ Text.IsBoundary text stop := by
  intro g member
  obtain ⟨d, part, built, sublist⟩ := built.subformulas g member
  obtain ⟨first, firstIn, last, lastIn, located⟩ := built.located (row.sublist sublist)
  exact ⟨first.start, last.stop, located.place, located.forward,
    (boundaries first (sublist.subset firstIn)).1, (boundaries last (sublist.subset lastIn)).2⟩

end Grammar

open Grammar

theorem before_of_parse {text : String} {f : Formula} (parsed : Formula.parse text = .ok f) :
    ∀ g ∈ f.subformulas, ∃ place, g.place? = some place ∧ place.text = text ∧
      Text.IsBoundary text place.start ∧ place.startPosition.Before place.stopPosition := by
  obtain ⟨scan, tokenized, built⟩ := Formula.parse_eq_ok_iff.1 parsed
  intro g member
  obtain ⟨start, stop, place, forward, starts, stops⟩ :=
    built.placed (inRow_of_tokenize tokenized) (onBoundaries_of_tokenize tokenized) g member
  refine ⟨_, place, rfl, starts, ?_⟩
  rw [Location.stopPosition, Location.stop_between_of_le text (Nat.le_of_lt forward)]
  exact Position.before_ofOffset starts stops forward

theorem leaves_before_of_parse {text : String} {f : Formula}
    (parsed : Formula.parse text = .ok f) :
    ∃ places : List Location, f.leaves.map (·.place?) = places.map some ∧
      places.Pairwise fun here there => here.startPosition.Before there.startPosition := by
  obtain ⟨scan, tokenized, built⟩ := Formula.parse_eq_ok_iff.1 parsed
  obtain ⟨_, -, _, -, located⟩ := built.located (inRow_of_tokenize tokenized)
  obtain ⟨places, leaves, bounds, row⟩ := located.leaf_places
  have boundaries : ∀ place ∈ places, Text.IsBoundary text place.start := by
    intro place member
    have placed : some place ∈ f.leaves.map (·.place?) := by
      rw [leaves]
      exact List.mem_map_of_mem member
    obtain ⟨leaf, inside, here⟩ := List.mem_map.1 placed
    obtain ⟨found, same, -, starts, -⟩ :=
      before_of_parse parsed _ (Formula.mem_subformulas_of_leaf leaf inside)
    obtain rfl : place = found := Option.some.inj (here.symm.trans same)
    exact starts
  refine ⟨places, leaves, row.imp_of_mem ?_⟩
  intro here there member member' earlier
  rw [Location.startPosition, Location.startPosition, (bounds here member).1,
    (bounds there member').1]
  exact Position.before_ofOffset (boundaries here member) (boundaries there member') earlier

/-- Lines and columns are coordinates of a text. The position of a boundary, or of what lies after
the text, counts the line feeds before it and the characters since the last of them; later
boundaries have later positions, and no two have the same. So each node of a formula that was read
ends after it begins, and its leaves begin one after the other. -/
theorem positions_faithful :
    (∀ (text : String) (offset : Nat) (before after : List Char),
      text.toList = before ++ after → Text.size before = min offset text.utf8ByteSize →
      (Position.ofOffset text offset).line = 1 + before.count '\n' ∧
        ∃ line, Text.LastLine before line ∧
          (Position.ofOffset text offset).column = 1 + line.length) ∧
    (∀ (text : String) (i j : Nat), Text.IsBoundary text i → Text.IsBoundary text j →
      (i < j → (Position.ofOffset text i).Before (Position.ofOffset text j)) ∧
      (Position.ofOffset text i = Position.ofOffset text j → i = j)) ∧
    ∀ (text : String) (f : Formula), Formula.parse text = .ok f →
      (∀ g ∈ f.subformulas, ∃ place, g.place? = some place ∧
        place.startPosition.Before place.stopPosition) ∧
      ∃ places : List Location, f.leaves.map (·.place?) = places.map some ∧
        places.Pairwise fun here there => here.startPosition.Before there.startPosition := by
  refine ⟨?_, ?_, ?_⟩
  · intro text offset before after parts bytes
    rw [Position.ofOffset_of_parts parts bytes]
    obtain ⟨line, last⟩ := Text.exists_lastLine before
    exact ⟨Position.line_foldl_past _ before, line, last, Position.column_foldl_past last⟩
  · intro text i j boundary boundary'
    exact ⟨Position.before_ofOffset boundary boundary',
      Position.ofOffset_injective boundary boundary'⟩
  · intro text f parsed
    refine ⟨?_, leaves_before_of_parse parsed⟩
    intro g member
    obtain ⟨place, here, -, -, before⟩ := before_of_parse parsed g member
    exact ⟨place, here, before⟩

theorem positions_faithful_lines :
    let text := "é\n\nü"
    let formula := "a *\n(@b)"
    let f : Formula := .apply .and (.ref ⟨.named, "a"⟩ (some ⟨formula, 0, 1⟩))
      (.ref ⟨.file, "b"⟩ (some ⟨formula, 5, 2⟩)) (some ⟨formula, 0, 7⟩)
    (Position.ofOffset text 9).line = 3 ∧
      (∃ line, Text.LastLine text.toList line ∧
        (Position.ofOffset text 9).column = 1 + line.length) ∧
      (Position.ofOffset text 2).Before (Position.ofOffset text 3) ∧
      Formula.parse formula = .ok f ∧
      (∃ place, f.place? = some place ∧ place.startPosition.Before place.stopPosition) ∧
      ∃ places : List Location, f.leaves.map (·.place?) = places.map some ∧
        places.Pairwise fun here there => here.startPosition.Before there.startPosition := by
  intro text formula f
  obtain ⟨coordinates, order, nodes⟩ := positions_faithful
  have parsed : Formula.parse formula = .ok f := by decide
  have feeds : 1 + text.toList.count '\n' = 3 := by decide
  obtain ⟨line, column⟩ := coordinates text 9 text.toList [] (by decide) (by decide)
  have accent : Text.IsBoundary text 2 :=
    Text.isBoundary_iff.2 ⟨['é'], ['\n', '\n', 'ü'], by decide, by decide⟩
  have feed : Text.IsBoundary text 3 :=
    Text.isBoundary_iff.2 ⟨['é', '\n'], ['\n', 'ü'], by decide, by decide⟩
  obtain ⟨forward, leaves⟩ := nodes formula f parsed
  exact ⟨line.trans feeds, column, (order text 2 3 accent feed).1 (by decide), parsed,
    forward f f.mem_subformulas_self, leaves⟩

end RoleAlgebra
