import RoleAlgebra.Formula.Outline
import RoleAlgebra.Proofs.Text.Lines

/-!
The tree view read back. Its lines are the rows of the formula (`toList_outline`), a row can be read
from its line (`Row.ofLine?_eq_some_iff`), and from the last line to the first each row finds its
operands among the subtrees that are already put together (`grow?_rowsAt_append`). So the views of
formulas whose ids hold no line feed can be read, and no other texts (`ofOutline?_eq_some_iff`).
-/

namespace RoleAlgebra

theorem Origin.rule_injective {a b : Origin} (same : a.rule = b.rule) : a = b := by
  cases a <;> cases b <;> first | rfl | simp [rule] at same

namespace Formula

structure Row where
  depth : Nat
  label : Label
  deriving DecidableEq, Repr

def rowsAt (depth : Nat) : Formula → List Row
  | ref reference _ => [⟨depth, .ref reference⟩]
  | apply op left right _ =>
    ⟨depth, .op op⟩ :: (left.rowsAt (depth + 1) ++ right.rowsAt (depth + 1))

def Row.line (row : Row) : List Char := List.replicate row.depth '|' ++ row.label.line.toList

def SingleLine (f : Formula) : Prop := ∀ reference ∈ f.refs, '\n' ∉ reference.id.toList

theorem rowsAt_eq_nodesAt (depth : Nat) (f : Formula) :
    f.rowsAt depth = (nodesAt depth f).map fun node => ⟨node.depth, node.label⟩ := by
  induction f generalizing depth with
  | ref reference place? => simp [rowsAt]
  | apply op left right place? leftIh rightIh => simp [rowsAt, leftIh, rightIh]

theorem rowsAt_bare (depth : Nat) (f : Formula) : f.bare.rowsAt depth = f.rowsAt depth := by
  induction f generalizing depth with
  | ref reference place? => rfl
  | apply op left right place? leftIh rightIh => simp [bare, rowsAt, leftIh, rightIh]

theorem length_rowsAt (depth : Nat) (f : Formula) : (f.rowsAt depth).length = f.size := by
  induction f generalizing depth with
  | ref reference place? => rfl
  | apply op left right place? leftIh rightIh => simp [rowsAt, size, leftIh, rightIh]

theorem toList_line (node : Node) :
    (node.line "|").toList = Row.line ⟨node.depth, node.label⟩ ++ ['\n'] := by
  have bars : (String.join (List.replicate node.depth "|")).toList =
      List.replicate node.depth '|' := by
    rw [String.toList_join, List.flatMap_replicate]
    simp
  simp [Node.line, Row.line, bars]

theorem toList_outline (f : Formula) :
    (f.outline "|").toList = Text.unlines ((f.rowsAt 0).map Row.line) := by
  rw [outline, String.toList_join, Text.unlines, rowsAt_eq_nodesAt, List.flatMap_map,
    List.flatMap_map, List.flatMap_map, nodes]
  simp only [toList_line]

def named? {α : Type} (rule : α → String) (all : List α) (cs : List Char) : Option α :=
  all.find? fun a => (rule a).toList = cs

theorem toList_rule_of_named? {α : Type} {rule : α → String} {all : List α} {cs : List Char} {a : α}
    (found : named? rule all cs = some a) : (rule a).toList = cs := by
  rw [named?] at found
  simpa using List.find?_some found

theorem named?_eq_some_iff {α : Type} {rule : α → String} {all : List α} (every : ∀ a, a ∈ all)
    (injective : ∀ {a b}, rule a = rule b → a = b) {cs : List Char} {a : α} :
    named? rule all cs = some a ↔ (rule a).toList = cs := by
  refine ⟨toList_rule_of_named?, ?_⟩
  rintro rfl
  cases found : named? rule all (rule a).toList with
  | none =>
    have unlike := List.find?_eq_none.1 found a (every a)
    exact absurd (decide_eq_true rfl) unlike
  | some b => rw [injective (String.toList_inj.1 (toList_rule_of_named? found))]

def Label.ofLine? (cs : List Char) : Option Label :=
  match cs.dropWhile (· ≠ '\t') with
  | [] => (named? Operator.rule [.or, .diff, .and, .xor] cs).map .op
  | _ :: id => (named? Origin.rule [.named, .file] (cs.takeWhile (· ≠ '\t'))).map fun origin =>
      .ref ⟨origin, String.ofList id⟩

theorem Label.ofLine?_eq_some_iff {cs : List Char} {label : Label} :
    ofLine? cs = some label ↔ label.line.toList = cs := by
  have operators : ∀ {op : Operator} {cs : List Char},
      named? Operator.rule [.or, .diff, .and, .xor] cs = some op ↔ op.rule.toList = cs :=
    named?_eq_some_iff (fun op => by cases op <;> decide) Operator.rule_injective
  have origins : ∀ {origin : Origin} {cs : List Char},
      named? Origin.rule [.named, .file] cs = some origin ↔ origin.rule.toList = cs :=
    named?_eq_some_iff (fun origin => by cases origin <;> decide) Origin.rule_injective
  constructor
  · intro read
    have parts : cs.takeWhile (· ≠ '\t') ++ cs.dropWhile (· ≠ '\t') = cs :=
      List.takeWhile_append_dropWhile
    rw [ofLine?] at read
    split at read
    next noTab =>
      obtain ⟨op, named, rfl⟩ := Option.map_eq_some_iff.1 read
      exact operators.1 named
    next tab id rest =>
      obtain ⟨origin, named, rfl⟩ := Option.map_eq_some_iff.1 read
      have tabbed : tab = '\t' := by
        have stopped := List.head?_dropWhile_not (· ≠ '\t') cs
        rw [rest] at stopped
        simpa using stopped
      rw [rest, tabbed, ← origins.1 named] at parts
      rw [← parts]
      simp [line]
  · rintro rfl
    cases label with
    | op op => cases op <;> rfl
    | ref reference =>
      obtain ⟨origin, id⟩ := reference
      cases origin <;> simp [line, ofLine?, Origin.rule, named?]

theorem Label.head?_line (label : Label) : label.line.toList.head? ≠ some '|' := by
  cases label with
  | op op => cases op <;> decide
  | ref reference =>
    obtain ⟨origin, id⟩ := reference
    cases origin <;> simp [line, Origin.rule]

def Row.ofLine? (cs : List Char) : Option Row :=
  (Label.ofLine? (cs.dropWhile (· = '|'))).map fun label =>
    ⟨(cs.takeWhile (· = '|')).length, label⟩

theorem Row.bars_line (row : Row) :
    row.line.takeWhile (· = '|') = List.replicate row.depth '|' ∧
      row.line.dropWhile (· = '|') = row.label.line.toList := by
  have bars : ∀ c ∈ List.replicate row.depth '|', decide (c = '|') = true := by
    intro c member
    exact decide_eq_true (List.eq_of_mem_replicate member)
  rw [line, List.takeWhile_append_of_pos bars, List.dropWhile_append_of_pos bars]
  have first := row.label.head?_line
  cases text : row.label.line.toList with
  | nil => simp
  | cons c rest =>
    have other : c ≠ '|' := by simpa [text] using first
    simp [other]

theorem Row.ofLine?_eq_some_iff {cs : List Char} {row : Row} :
    ofLine? cs = some row ↔ row.line = cs := by
  constructor
  · intro read
    obtain ⟨label, known, rfl⟩ := Option.map_eq_some_iff.1 read
    have bars : cs.takeWhile (· = '|') = List.replicate (cs.takeWhile (· = '|')).length '|' := by
      refine List.eq_replicate_iff.2 ⟨rfl, ?_⟩
      intro c member
      exact of_decide_eq_true (List.all_eq_true.1 List.all_takeWhile c member)
    calc line ⟨(cs.takeWhile (· = '|')).length, label⟩
        = cs.takeWhile (· = '|') ++ cs.dropWhile (· = '|') := by
          rw [line, ← bars, Label.ofLine?_eq_some_iff.1 known]
      _ = cs := List.takeWhile_append_dropWhile
  · rintro rfl
    obtain ⟨bars, rest⟩ := row.bars_line
    rw [ofLine?, bars, rest, Label.ofLine?_eq_some_iff.2 rfl, List.length_replicate]
    rfl

structure Subtree where
  depth : Nat
  formula : Formula
  deriving DecidableEq, Repr

def Subtree.rows (tree : Subtree) : List Row := tree.formula.rowsAt tree.depth

/-- Puts a row in front of the subtrees that come after it. The row of an operator takes the first
two of them, which must be one deeper. -/
def plant (row : Row) (later : List Subtree) : Option (List Subtree) :=
  match row.label, later with
  | .ref reference, later => some (⟨row.depth, ref reference none⟩ :: later)
  | .op op, left :: right :: later =>
    if left.depth = row.depth + 1 ∧ right.depth = row.depth + 1 then
      some (⟨row.depth, apply op left.formula right.formula none⟩ :: later)
    else none
  | .op _, _ => none

/-- The subtrees that lines show, put together from the last line to the first. -/
def grow? : List (List Char) → Option (List Subtree)
  | [] => some []
  | line :: below => (grow? below).bind fun later => (Row.ofLine? line).bind (plant · later)

def ofOutline? (text : String) : Option Formula :=
  match (Text.ended? text.toList).bind grow? with
  | some [⟨0, f⟩] => some f
  | _ => none

theorem grow?_line_cons {row : Row} {below : List (List Char)} {later : List Subtree}
    (grown : grow? below = some later) : grow? (row.line :: below) = plant row later := by
  rw [grow?, grown, Option.bind_some, Row.ofLine?_eq_some_iff.2 rfl, Option.bind_some]

/-- The rows of a formula give it back, whatever comes after them. -/
theorem grow?_rowsAt_append (f : Formula) (depth : Nat) {below : List (List Char)}
    {later : List Subtree} (grown : grow? below = some later) :
    grow? ((f.rowsAt depth).map Row.line ++ below) = some (⟨depth, f.bare⟩ :: later) := by
  induction f generalizing depth below later with
  | ref reference place? =>
    rw [rowsAt, List.map_singleton, List.singleton_append, grow?_line_cons grown]
    rfl
  | apply op left right place? leftIh rightIh =>
    rw [rowsAt, List.map_cons, List.map_append, List.cons_append, List.append_assoc,
      grow?_line_cons (leftIh (depth + 1) (rightIh (depth + 1) grown))]
    simp [plant, bare]

def Shows (lines : List (List Char)) (trees : List Subtree) : Prop :=
  lines = (trees.flatMap Subtree.rows).map Row.line ∧
    ∀ tree ∈ trees, tree.formula.bare = tree.formula

theorem Shows.plant {row : Row} {below : List (List Char)} {later next : List Subtree}
    (shows : Shows below later) (planted : plant row later = some next) :
    Shows (row.line :: below) next := by
  obtain ⟨depth, label⟩ := row
  obtain ⟨rfl, bare⟩ := shows
  cases label with
  | ref reference =>
    cases planted
    exact ⟨by simp [Subtree.rows, rowsAt], List.forall_mem_cons.2 ⟨rfl, bare⟩⟩
  | op op =>
    match later, planted with
    | ⟨leftDepth, left⟩ :: ⟨rightDepth, right⟩ :: later, planted =>
      obtain ⟨leftBare, rest⟩ := List.forall_mem_cons.1 bare
      obtain ⟨rightBare, others⟩ := List.forall_mem_cons.1 rest
      simp only [Formula.plant, Option.ite_none_right_eq_some, Option.some.injEq] at planted
      obtain ⟨⟨rfl, rfl⟩, rfl⟩ := planted
      refine ⟨by simp [Subtree.rows, rowsAt], List.forall_mem_cons.2 ⟨?_, others⟩⟩
      rw [Formula.bare, leftBare, rightBare]

theorem shows_of_grow? {lines : List (List Char)} {trees : List Subtree}
    (grown : grow? lines = some trees) : Shows lines trees := by
  induction lines generalizing trees with
  | nil =>
    cases grown
    exact ⟨rfl, by simp⟩
  | cons line below ih =>
    obtain ⟨later, grownBelow, rest⟩ := Option.bind_eq_some_iff.1 grown
    obtain ⟨row, read, planted⟩ := Option.bind_eq_some_iff.1 rest
    rw [← Row.ofLine?_eq_some_iff.1 read]
    exact (ih grownBelow).plant planted

theorem Row.not_newline_mem_line (row : Row) :
    '\n' ∉ row.line ↔ ∀ reference ∈ row.label.reference?, '\n' ∉ reference.id.toList := by
  obtain ⟨depth, label⟩ := row
  cases label with
  | op op => cases op <;> simp [line, Label.line, Label.reference?, Operator.rule]
  | ref reference =>
    obtain ⟨origin, id⟩ := reference
    cases origin <;> simp [line, Label.line, Label.reference?, Origin.rule]

theorem singleLine_iff (f : Formula) (depth : Nat) :
    f.SingleLine ↔ ∀ line ∈ (f.rowsAt depth).map Row.line, '\n' ∉ line := by
  rw [List.forall_mem_map]
  induction f generalizing depth with
  | ref reference place? => simp [SingleLine, rowsAt, Row.not_newline_mem_line, Label.reference?]
  | apply op left right place? leftIh rightIh =>
    rw [rowsAt, List.forall_mem_cons, List.forall_mem_append, ← leftIh, ← rightIh,
      Row.not_newline_mem_line]
    simp [SingleLine, Label.reference?, or_imp, forall_and]

theorem outline_bare (f : Formula) : f.bare.outline "|" = f.outline "|" := by
  rw [← String.toList_inj, toList_outline, toList_outline, rowsAt_bare]

theorem singleLine_bare (f : Formula) : f.bare.SingleLine ↔ f.SingleLine := by
  rw [singleLine_iff f 0, singleLine_iff f.bare 0, rowsAt_bare]

/-- The texts that are read are the views of formulas without places. -/
theorem ofOutline?_eq_some_iff {text : String} {f : Formula} :
    ofOutline? text = some f ↔ f.SingleLine ∧ f.outline "|" = text ∧ f.bare = f := by
  constructor
  · intro read
    unfold ofOutline? at read
    split at read
    next f' grown =>
      cases read
      obtain ⟨lines, ended, grown⟩ := Option.bind_eq_some_iff.1 grown
      obtain ⟨whole, same⟩ := Text.ended?_eq_some_iff.1 ended
      obtain ⟨rfl, bare⟩ := shows_of_grow? grown
      have rows : [(⟨0, f⟩ : Subtree)].flatMap Subtree.rows = f.rowsAt 0 := by
        simp [Subtree.rows]
      rw [rows] at whole same
      refine ⟨(singleLine_iff f 0).2 whole, ?_, bare _ (List.mem_singleton_self _)⟩
      rw [← String.toList_inj, toList_outline, same]
    next => cases read
  · rintro ⟨single, rfl, bare⟩
    have ended := Text.ended?_eq_some_iff.2 ⟨(singleLine_iff f 0).1 single, (toList_outline f).symm⟩
    have grown : grow? ((f.rowsAt 0).map Row.line ++ []) = some [⟨0, f.bare⟩] :=
      grow?_rowsAt_append f 0 rfl
    rw [List.append_nil, bare] at grown
    rw [ofOutline?, ended, Option.bind_some, grown]
    rfl

theorem ofOutline?_outline {f : Formula} (single : f.SingleLine) :
    ofOutline? (f.outline "|") = some f.bare :=
  ofOutline?_eq_some_iff.2 ⟨(singleLine_bare f).2 single, outline_bare f, bare_bare f⟩

theorem lines_outline {f : Formula} (single : f.SingleLine) :
    Text.lines (f.outline "|").toList = (f.rowsAt 0).map Row.line ++ [[]] := by
  rw [toList_outline]
  exact Text.lines_unlines ((singleLine_iff f 0).1 single)

end Formula

/-- The tree view shows a formula as it is, up to places. It has one line for each node, parent
first and left before right, behind as many bars as the node is deep; the formula can be read back,
and nothing but views can be read; and two views are the same only if the formulas are. -/
theorem outline_faithful :
    (∀ f : Formula, f.SingleLine → ∃ lines, Text.lines (f.outline "|").toList = lines ++ [[]] ∧
      lines.length = f.size ∧
      lines.map (fun line => ((line.takeWhile (· = '|')).length, line.dropWhile (· = '|'))) =
        (f.rowsAt 0).map fun row => (row.depth, row.label.line.toList)) ∧
    (∀ f : Formula, f.SingleLine → Formula.ofOutline? (f.outline "|") = some f.bare) ∧
    (∀ text f, Formula.ofOutline? text = some f ↔
      f.SingleLine ∧ f.outline "|" = text ∧ f.bare = f) ∧
    ∀ f g : Formula, f.SingleLine → g.SingleLine →
      (f.outline "|" = g.outline "|" ↔ f.sameShape g = true) := by
  refine ⟨?_, fun f => Formula.ofOutline?_outline, fun text f => Formula.ofOutline?_eq_some_iff, ?_⟩
  · intro f single
    refine ⟨_, Formula.lines_outline single, by simp [Formula.length_rowsAt], ?_⟩
    rw [List.map_map]
    refine List.map_congr_left fun row _ => ?_
    obtain ⟨bars, rest⟩ := row.bars_line
    simp [bars, rest]
  · intro f g single single'
    rw [Formula.sameShape_iff]
    constructor
    · intro same
      have read := Formula.ofOutline?_outline single
      rw [same, Formula.ofOutline?_outline single'] at read
      exact (Option.some.inj read).symm
    · intro same
      rw [← Formula.outline_bare f, same, Formula.outline_bare]

theorem outline_faithful_disguised :
    let a : Formula := .ref ⟨.named, "|or_expr"⟩ (some ⟨"", 0, 0⟩)
    let b : Formula := .ref ⟨.file, "role_expr\t|"⟩ none
    let c : Formula := .ref ⟨.named, ""⟩ none
    let f : Formula := .apply .diff a (.apply .diff b c none) none
    let g : Formula := .apply .diff (.apply .diff a b none) c none
    f.SingleLine ∧ g.SingleLine ∧
    f.outline "|" = "diff_expr\n|role_expr\t|or_expr\n|diff_expr\n||file_expr\trole_expr\t|\n" ++
      "||role_expr\t\n" ∧
    (∃ lines, Text.lines (f.outline "|").toList = lines ++ [[]] ∧ lines.length = 5) ∧
    Formula.ofOutline? (f.outline "|") = some f.bare ∧ f.outline "|" ≠ g.outline "|" := by
  intro a b c f g
  have single : f.SingleLine := by
    simp [f, a, b, c, Formula.SingleLine]
  have single' : g.SingleLine := by
    simp [g, a, b, c, Formula.SingleLine]
  obtain ⟨lines, split, count, -⟩ := outline_faithful.1 f single
  refine ⟨single, single', ?_, ⟨lines, split, count⟩, outline_faithful.2.1 f single, ?_⟩
  · simp [f, a, b, c, Formula.outline, Formula.nodes, Formula.Node.line, Formula.Label.line,
      Origin.rule, Operator.rule, String.join, List.replicate]
  · rw [Ne, outline_faithful.2.2.2 f g single single']
    simp [f, g, a, b, c, Formula.sameShape]

end RoleAlgebra
