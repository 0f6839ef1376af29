import Mathlib.Data.List.Induction
import RoleAlgebra.Proofs.Text.Part
import RoleAlgebra.Text.Position

namespace RoleAlgebra

namespace Text

/-- The characters that end a text, from after its last line feed on. -/
def LastLine (cs line : List Char) : Prop :=
  '\n' ∉ line ∧ ∃ earlier, cs = earlier ++ line ∧ (earlier = [] ∨ earlier.getLast? = some '\n')

theorem exists_lastLine (cs : List Char) : ∃ line, LastLine cs line := by
  induction cs using List.reverseRecOn with
  | nil => exact ⟨[], by simp, [], rfl, .inl rfl⟩
  | append_singleton cs c ih =>
    by_cases feed : c = '\n'
    · exact ⟨[], by simp, cs ++ [c], by simp, .inr (by simp [feed])⟩
    · obtain ⟨line, whole, earlier, rfl, ended⟩ := ih
      refine ⟨line ++ [c], ?_, earlier, List.append_assoc _ _ _, ended⟩
      simp [whole, Ne.symm feed]

end Text

namespace Position

variable {text : String} {here there : Position} {cs line : List Char} {c : Char}

def Before (here there : Position) : Prop :=
  here.line < there.line ∨ here.line = there.line ∧ here.column < there.column

theorem Before.irrefl (here : Position) : ¬ here.Before here := by
  unfold Before
  omega

theorem Before.trans {beyond : Position} (first : here.Before there)
    (second : there.Before beyond) : here.Before beyond := by
  unfold Before at first second ⊢
  omega

theorem past_of_feed (here : Position) : here.past '\n' = ⟨here.line + 1, 1⟩ := if_pos rfl

theorem past_of_ne (here : Position) (other : c ≠ '\n') :
    here.past c = ⟨here.line, here.column + 1⟩ := if_neg other

theorem before_past (here : Position) (c : Char) : here.Before (here.past c) := by
  by_cases feed : c = '\n'
  · rw [feed, past_of_feed]
    exact .inl (Nat.lt_succ_self _)
  · rw [past_of_ne here feed]
    exact .inr ⟨rfl, Nat.lt_succ_self _⟩

theorem before_foldl_past (here : Position) (more : cs ≠ []) :
    here.Before (cs.foldl past here) := by
  induction cs generalizing here with
  | nil => exact absurd rfl more
  | cons c cs ih =>
    rw [List.foldl_cons]
    by_cases last : cs = []
    · rw [last]
      exact before_past here c
    · exact (before_past here c).trans (ih (here.past c) last)

theorem line_foldl_past (here : Position) (cs : List Char) :
    (cs.foldl past here).line = here.line + cs.count '\n' := by
  induction cs generalizing here with
  | nil => rfl
  | cons c cs ih =>
    rw [List.foldl_cons, ih]
    by_cases feed : c = '\n'
    · rw [feed, past_of_feed, List.count_cons_self]
      exact Nat.add_right_comm _ _ _
    · rw [past_of_ne here feed, List.count_cons_of_ne feed]

theorem column_foldl_past_of_whole (here : Position) (whole : '\n' ∉ line) :
    (line.foldl past here).column = here.column + line.length := by
  induction line generalizing here with
  | nil => rfl
  | cons c line ih =>
    obtain ⟨feed, rest⟩ := not_or.1 (mt List.mem_cons.2 whole)
    rw [List.foldl_cons, ih (here.past c) rest, past_of_ne here (Ne.symm feed), List.length_cons]
    exact Nat.add_right_comm _ _ _

theorem column_foldl_past (last : Text.LastLine cs line) :
    (cs.foldl past first).column = 1 + line.length := by
  obtain ⟨whole, earlier, rfl, ended⟩ := last
  have opens : (earlier.foldl past first).column = 1 := by
    rcases ended with rfl | feed
    · rfl
    · obtain ⟨before, rfl⟩ := List.getLast?_eq_some_iff.1 feed
      rw [List.foldl_append, List.foldl_cons, List.foldl_nil, past_of_feed]
  rw [List.foldl_append, column_foldl_past_of_whole _ whole, opens]

theorem ofOffset_of_parts {before after : List Char} {offset : Nat}
    (parts : text.toList = before ++ after)
    (bytes : Text.size before = min offset text.utf8ByteSize) :
    ofOffset text offset = before.foldl past first := by
  rw [← Text.size_toList] at bytes
  rw [ofOffset]
  cases cut : Text.cut? offset text.toList with
  | some found =>
    obtain ⟨same, starts⟩ := Text.cut?_eq_some_iff.1 cut
    have inside : Text.size before = Text.size found.1 := by
      rw [same, Text.size_append] at bytes
      omega
    obtain ⟨between, longer, -⟩ :=
      Text.exists_between (parts.symm.trans same) (Nat.le_of_eq inside)
    have none : between = [] := by
      rw [longer, Text.size_append] at inside
      exact Text.size_eq_zero_iff.1 (by omega)
    rw [none, List.append_nil] at longer
    exact congrArg (List.foldl past first) longer
  | none =>
    -- `offset` is no boundary, so it is not where `before` ends, and lies after the text
    have beyond : Text.size before ≠ offset := by
      intro starts
      rw [Text.cut?_eq_some_iff.2 ⟨parts, starts⟩] at cut
      cases cut
    have none : after = [] := by
      rw [parts, Text.size_append] at bytes
      exact Text.size_eq_zero_iff.1 (by omega)
    rw [none, List.append_nil] at parts
    exact congrArg (List.foldl past first) parts

theorem ofOffset_size {before after : List Char} (parts : text.toList = before ++ after) :
    ofOffset text (Text.size before) = before.foldl past first := by
  refine ofOffset_of_parts parts (Nat.min_eq_left ?_).symm
  rw [← Text.size_toList, parts, Text.size_append]
  exact Nat.le_add_right _ _

theorem before_ofOffset {i j : Nat} (boundary : Text.IsBoundary text i)
    (boundary' : Text.IsBoundary text j) (earlier : i < j) :
    (ofOffset text i).Before (ofOffset text j) := by
  obtain ⟨before, after, parts, rfl⟩ := Text.isBoundary_iff.1 boundary
  obtain ⟨before', after', parts', rfl⟩ := Text.isBoundary_iff.1 boundary'
  obtain ⟨between, rfl, -⟩ :=
    Text.exists_between (parts.symm.trans parts') (Nat.le_of_lt earlier)
  have more : between ≠ [] := by
    rintro rfl
    rw [List.append_nil] at earlier
    exact Nat.lt_irrefl _ earlier
  rw [ofOffset_size parts, ofOffset_size parts', List.foldl_append]
  exact before_foldl_past _ more

theorem ofOffset_injective {i j : Nat} (boundary : Text.IsBoundary text i)
    (boundary' : Text.IsBoundary text j) (same : ofOffset text i = ofOffset text j) : i = j := by
  rcases Nat.lt_trichotomy i j with earlier | equal | later
  · have before := before_ofOffset boundary boundary' earlier
    rw [same] at before
    exact absurd before (Before.irrefl _)
  · exact equal
  · have before := before_ofOffset boundary' boundary later
    rw [same] at before
    exact absurd before (Before.irrefl _)

end Position
end RoleAlgebra
