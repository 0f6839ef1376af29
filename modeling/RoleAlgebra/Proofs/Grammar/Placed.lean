import RoleAlgebra.Parser.State
import RoleAlgebra.Proofs.Grammar.Basic

namespace RoleAlgebra.Grammar

/-- The tokens of `text` that make a tree of some category, with the places of its nodes. A group
is placed like what is inside of it. -/
inductive Builds (text : String) : Category → List Token → Formula → Prop where
  | named {token : Token} {id : String} (kind : token.kind = .word id) :
      Builds text .operand [token] (.ref ⟨.named, id⟩ (some (Parser.place text token)))
  | file {mark path : Token} {id : String} (marked : mark.kind = .at)
      (kind : path.kind = .word id) :
      Builds text .operand [mark, path]
        (.ref ⟨.file, id⟩ (some ((Parser.place text mark).join (Parser.place text path))))
  | group {opening closing : Token} {tokens : List Token} {f : Formula}
      (opens : opening.kind = .opening) (closes : closing.kind = .closing)
      (inside : Builds text (.chain .sum) tokens f) :
      Builds text .operand (opening :: (tokens ++ [closing])) f
  | single {p : Precedence} {tokens : List Token} {f : Formula}
      (only : Builds text (.member p) tokens f) : Builds text (.chain p) tokens f
  | more {p : Precedence} {op : Operator} {sign : Token} {before after : List Token}
      {f g : Formula} (kind : sign.kind = .op op) (tier : op ∈ operators p)
      (chain : Builds text (.chain p) before f) (last : Builds text (.member p) after g) :
      Builds text (.chain p) (before ++ sign :: after) (.combine op f g)

variable {text : String}

theorem Builds.of_operand {tokens : List Token} {f : Formula}
    (built : Builds text .operand tokens f) (c : Category) : Builds text c tokens f := by
  have product : Builds text (.chain .product) tokens f := .single built
  match c with
  | .operand => exact built
  | .chain .product => exact product
  | .chain .sum => exact .single product

theorem Builds.to_formula {c : Category} {tokens : List Token} {f : Formula}
    (built : Builds text c tokens f) : Builds text .formula tokens f := by
  match c with
  | .operand => exact built.of_operand .formula
  | .chain .product => exact .single built
  | .chain .sum => exact built

theorem Builds.derives {c : Category} {tokens : List Token} {f : Formula}
    (built : Builds text c tokens f) : Derives c (tokens.map (·.kind)) f.bare := by
  induction built with
  | named kind =>
    simp only [List.map_cons, List.map_nil, kind]
    exact .named _
  | file marked kind =>
    simp only [List.map_cons, List.map_nil, marked, kind]
    exact .file _
  | group opens closes inside ih =>
    simp only [List.map_cons, List.map_append, List.map_nil, opens, closes]
    exact .group ih
  | single only ih => exact .single ih
  | more kind tier chain last chainIh lastIh =>
    simp only [List.map_append, List.map_cons, kind, Formula.bare_combine]
    exact .more tier chainIh lastIh

theorem Derives.builds {c : Category} {kinds : List Token.Kind} {f : Formula}
    (derived : Derives c kinds f) {tokens : List Token} (same : tokens.map (·.kind) = kinds) :
    ∃ g, Builds text c tokens g ∧ g.bare = f := by
  induction derived generalizing tokens with
  | named id =>
    obtain ⟨token, rest, rfl, kind, none⟩ := List.map_eq_cons_iff.1 same
    obtain rfl := List.map_eq_nil_iff.1 none
    exact ⟨_, .named kind, rfl⟩
  | file id =>
    obtain ⟨mark, rest, rfl, marked, more⟩ := List.map_eq_cons_iff.1 same
    obtain ⟨path, rest, rfl, kind, none⟩ := List.map_eq_cons_iff.1 more
    obtain rfl := List.map_eq_nil_iff.1 none
    exact ⟨_, .file marked kind, rfl⟩
  | group inside ih =>
    obtain ⟨opening, rest, rfl, opens, more⟩ := List.map_eq_cons_iff.1 same
    obtain ⟨tokens, tail, rfl, inner, more⟩ := List.map_eq_append_iff.1 more
    obtain ⟨closing, rest, rfl, closes, none⟩ := List.map_eq_cons_iff.1 more
    obtain rfl := List.map_eq_nil_iff.1 none
    obtain ⟨g, built, bare⟩ := ih inner
    exact ⟨g, .group opens closes built, bare⟩
  | single only ih =>
    obtain ⟨g, built, bare⟩ := ih same
    exact ⟨g, .single built, bare⟩
  | more tier chain last chainIh lastIh =>
    obtain ⟨before, rest, rfl, left, more⟩ := List.map_eq_append_iff.1 same
    obtain ⟨sign, after, rfl, kind, right⟩ := List.map_eq_cons_iff.1 more
    obtain ⟨f, builtLeft, bareLeft⟩ := chainIh left
    obtain ⟨g, builtRight, bareRight⟩ := lastIh right
    refine ⟨_, .more kind tier builtLeft builtRight, ?_⟩
    rw [Formula.bare_combine, bareLeft, bareRight]

end RoleAlgebra.Grammar
