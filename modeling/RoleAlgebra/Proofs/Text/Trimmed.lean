import Mathlib.Data.List.DropRight
import RoleAlgebra.Text.Blank

namespace RoleAlgebra.Text

def Solid (cs : List Char) : Prop := ∀ c ∈ cs, isBlank c = false

/-- The pieces between line feeds, each without the white space at its end. -/
def trimmedLines (cs : List Char) : List (List Char) := (lines cs).map trimEnd

def withReturns (cs : List Char) : List Char :=
  cs.flatMap fun c => if c = '\n' then ['\r', '\n'] else [c]

theorem solid_iff (cs : List Char) : Solid cs ↔ cs.any isBlank = false := by
  rw [List.any_eq_false, Solid]
  simp only [Bool.not_eq_true]

instance (cs : List Char) : Decidable (Solid cs) := decidable_of_iff _ (solid_iff cs).symm

theorem solid_nil : Solid [] := by
  intro c member
  cases member

theorem Solid.no_feed {cs : List Char} (solid : Solid cs) : '\n' ∉ cs := by
  intro member
  have blank : isBlank '\n' = true := by decide
  rw [solid '\n' member] at blank
  cases blank

theorem trimEnd_eq_rdropWhile (cs : List Char) : trimEnd cs = cs.rdropWhile isBlank := rfl

theorem trimEnd_nil : trimEnd [] = [] := rfl

theorem trimEnd_of_solid {cs : List Char} (solid : Solid cs) : trimEnd cs = cs := by
  rw [trimEnd_eq_rdropWhile, List.rdropWhile_eq_self_iff]
  intro some blank
  rw [solid _ (List.getLast_mem some)] at blank
  cases blank

theorem trimEnd_cons (c : Char) (cs : List Char) :
    trimEnd (c :: cs) = if trimEnd cs = [] ∧ isBlank c = true then [] else c :: trimEnd cs := by
  have whole : trimEnd (c :: cs) = ((cs.reverse ++ [c]).dropWhile isBlank).reverse := by
    rw [trimEnd, List.reverse_cons]
  rw [whole, List.dropWhile_append]
  by_cases empty : cs.reverse.dropWhile isBlank = []
  · have none : trimEnd cs = [] := by rw [trimEnd, empty, List.reverse_nil]
    cases blank : isBlank c <;> simp [empty, none, blank]
  · simp [empty, trimEnd]

theorem trimEnd_cons_trimEnd (c : Char) (cs : List Char) :
    trimEnd (c :: trimEnd cs) = trimEnd (c :: cs) := by
  have again : trimEnd (trimEnd cs) = trimEnd cs := List.rdropWhile_idempotent _ _
  rw [trimEnd_cons, trimEnd_cons, again]

theorem trimEnd_concat {c : Char} (blank : isBlank c = true) (cs : List Char) :
    trimEnd (cs ++ [c]) = trimEnd cs := List.rdropWhile_concat_pos _ _ _ blank

/-- Trimming takes all white space from the end of a text, and nothing else. -/
theorem trimEnd_eq_iff {cs ds : List Char} :
    trimEnd cs = ds ↔ (∃ blanks, cs = ds ++ blanks ∧ ∀ c ∈ blanks, isBlank c = true) ∧
      ∀ c ∈ ds.getLast?, isBlank c = false := by
  constructor
  · rintro rfl
    refine ⟨⟨cs.rtakeWhile isBlank, List.rdropWhile_append_rtakeWhile.symm,
      fun c member => List.mem_rtakeWhile_imp member⟩, ?_⟩
    intro c last
    obtain ⟨some, rfl⟩ := List.mem_getLast?_eq_getLast last
    exact Bool.eq_false_iff.2 (List.rdropWhile_last_not isBlank cs some)
  · rintro ⟨⟨blanks, rfl, blank⟩, ends⟩
    induction blanks using List.reverseRecOn with
    | nil =>
      rw [List.append_nil, trimEnd_eq_rdropWhile, List.rdropWhile_eq_self_iff]
      intro some last
      rw [ends _ (List.getLast?_eq_some_getLast some)] at last
      cases last
    | append_singleton blanks c ih =>
      obtain ⟨rest, here⟩ := List.forall_mem_append.1 blank
      rw [← List.append_assoc, trimEnd_concat (here c (List.mem_singleton_self c)), ih rest]

theorem trimmedLines_nil : trimmedLines [] = [[]] := rfl

theorem trimmedLines_feed (cs : List Char) : trimmedLines ('\n' :: cs) = [] :: trimmedLines cs := by
  rw [trimmedLines, lines, List.splitOn_cons_eq_if_modifyHead]
  rfl

theorem trimmedLines_cons {c : Char} (other : c ≠ '\n') (cs : List Char) :
    trimmedLines (c :: cs) = (trimmedLines cs).modifyHead fun line => trimEnd (c :: line) := by
  rw [trimmedLines, lines, List.splitOn_cons_eq_if_modifyHead, if_neg (by simpa using other),
    ← lines, trimmedLines]
  cases lines cs with
  | nil => rfl
  | cons line later =>
    rw [List.modifyHead_cons, List.map_cons, List.map_cons, List.modifyHead_cons,
      trimEnd_cons_trimEnd]

theorem trimmedLines_of_no_feed {cs : List Char} (whole : '\n' ∉ cs) :
    trimmedLines cs = [trimEnd cs] := by
  rw [trimmedLines, lines, List.splitOn_eq_singleton whole]
  rfl

theorem trimmedLines_append_feed (cs ds : List Char) :
    trimmedLines (cs ++ '\n' :: ds) = trimmedLines cs ++ trimmedLines ds := by
  rw [trimmedLines, lines, List.splitOn_append_cons_self, List.map_append]
  rfl

theorem trimmedLines_append_congr {cs ds : List Char} (same : trimmedLines cs = trimmedLines ds)
    (before : List Char) : trimmedLines (before ++ cs) = trimmedLines (before ++ ds) := by
  induction before with
  | nil => exact same
  | cons c before ih =>
    by_cases feed : c = '\n'
    · rw [feed, List.cons_append, List.cons_append, trimmedLines_feed, trimmedLines_feed, ih]
    · rw [List.cons_append, List.cons_append, trimmedLines_cons feed, trimmedLines_cons feed, ih]

theorem trimmedLines_pad {blanks after : List Char}
    (blank : ∀ c ∈ blanks, isBlank c = true ∧ c ≠ '\n') (ends : ∀ c ∈ after.head?, c = '\n') :
    trimmedLines (blanks ++ after) = trimmedLines after := by
  have first : ∃ later, trimmedLines after = [] :: later := by
    cases after with
    | nil => exact ⟨[], trimmedLines_nil⟩
    | cons c after =>
      obtain rfl : c = '\n' := ends c rfl
      exact ⟨_, trimmedLines_feed after⟩
  obtain ⟨later, first⟩ := first
  induction blanks with
  | nil => rfl
  | cons c blanks ih =>
    obtain ⟨⟨here, other⟩, rest⟩ := List.forall_mem_cons.1 blank
    have alone : trimEnd [c] = [] := by
      rw [trimEnd_cons, if_pos ⟨trimEnd_nil, here⟩]
    calc trimmedLines (c :: (blanks ++ after))
        = ([] :: later).modifyHead fun line => trimEnd (c :: line) := by
          rw [trimmedLines_cons other, ih rest, first]
      _ = [] :: later := by rw [List.modifyHead_cons, alone]
      _ = trimmedLines after := first.symm

theorem trimmedLines_withReturns (cs : List Char) :
    trimmedLines (withReturns cs) = trimmedLines cs := by
  induction cs with
  | nil => rfl
  | cons c cs ih =>
    rw [withReturns, List.flatMap_cons, ← withReturns]
    by_cases feed : c = '\n'
    · have return_blank : ∀ c ∈ ['\r'], isBlank c = true ∧ c ≠ '\n' :=
        List.forall_mem_singleton.2 ⟨rfl, by decide⟩
      rw [if_pos feed, feed, trimmedLines_feed, ← ih, ← trimmedLines_feed]
      exact trimmedLines_pad return_blank (by simp)
    · rw [if_neg feed, List.singleton_append, trimmedLines_cons feed, trimmedLines_cons feed, ih]

theorem trimmedLines_append_feeds (cs : List Char) (n : Nat) :
    trimmedLines (cs ++ List.replicate n '\n') = trimmedLines cs ++ List.replicate n [] := by
  induction n generalizing cs with
  | zero => simp
  | succ n ih =>
    have feeds : cs ++ List.replicate (n + 1) '\n' = (cs ++ ['\n']) ++ List.replicate n '\n' := by
      simp [List.replicate_succ]
    rw [feeds, ih, trimmedLines_append_feed, trimmedLines_nil]
    simp [List.replicate_succ]

theorem trimEnd_dropReturn (line : List Char) :
    trimEnd (dropReturn line).reverse = trimEnd line.reverse := by
  fun_cases dropReturn line with
  | case1 line =>
    rw [List.reverse_cons]
    exact (trimEnd_concat (by decide) _).symm
  | case2 => rfl

theorem fileLinesFrom_eq (found : List (List Char)) (line cs : List Char) :
    fileLinesFrom found line cs = found.reverse ++ fileLinesFrom [] line cs := by
  induction cs generalizing found line with
  | nil => by_cases empty : line = [] <;> simp [fileLinesFrom, empty]
  | cons c cs ih =>
    by_cases feed : c = '\n'
    · simp only [fileLinesFrom, feed, if_true]
      rw [ih, ih [_]]
      simp
    · simp only [fileLinesFrom, feed, if_false]
      exact ih found (c :: line)

/-- The walk after a line that has begun. The induction is over the text that is left, so the line
grows from step to step. -/
theorem exists_trimmedLines_from {line : List Char} (whole : '\n' ∉ line.reverse)
    (cs : List Char) :
    ∃ n, trimmedLines (line.reverse ++ cs) =
      (fileLinesFrom [] line cs).map trimEnd ++ List.replicate n [] := by
  induction cs generalizing line with
  | nil =>
    rw [List.append_nil, trimmedLines_of_no_feed whole, fileLinesFrom]
    by_cases empty : line = []
    · exact ⟨1, by simp [empty, trimEnd_nil]⟩
    · exact ⟨0, by simp [empty]⟩
  | cons c cs ih =>
    by_cases feed : c = '\n'
    · obtain ⟨n, rest⟩ := @ih [] (by simp)
      refine ⟨n, ?_⟩
      simp only [fileLinesFrom, feed, if_true]
      rw [trimmedLines_append_feed, trimmedLines_of_no_feed whole, fileLinesFrom_eq]
      rw [List.reverse_nil, List.nil_append] at rest
      rw [rest]
      simp [trimEnd_dropReturn]
    · have further : '\n' ∉ (c :: line).reverse := by
        rw [List.mem_reverse] at whole ⊢
        exact List.not_mem_cons_of_ne_of_not_mem (Ne.symm feed) whole
      obtain ⟨n, rest⟩ := ih further
      refine ⟨n, ?_⟩
      simp only [fileLinesFrom, feed, if_false]
      rw [← rest, List.reverse_cons, List.append_assoc, List.singleton_append]

theorem exists_trimmedLines_eq (cs : List Char) :
    ∃ n, trimmedLines cs = (fileLines cs).map trimEnd ++ List.replicate n [] :=
  @exists_trimmedLines_from [] (by simp) cs

end RoleAlgebra.Text
