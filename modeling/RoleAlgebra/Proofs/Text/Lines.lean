import Mathlib.Data.List.Basic
import RoleAlgebra.Text.Blank

namespace RoleAlgebra.Text

def ended? (cs : List Char) : Option (List (List Char)) :=
  if (lines cs).getLast? = some [] then some (lines cs).dropLast else none

def unlines (lines : List (List Char)) : List Char := lines.flatMap (· ++ ['\n'])

theorem lines_unlines {pieces : List (List Char)} (whole : ∀ piece ∈ pieces, '\n' ∉ piece) :
    lines (unlines pieces) = pieces ++ [[]] := by
  induction pieces with
  | nil => rfl
  | cons piece pieces ih =>
    obtain ⟨here, later⟩ := List.forall_mem_cons.1 whole
    calc lines (unlines (piece :: pieces))
        = (piece ++ '\n' :: unlines pieces).splitOn '\n' := by simp [lines, unlines]
      _ = piece :: lines (unlines pieces) := List.splitOn_append_cons_self_of_not_mem here _
      _ = piece :: (pieces ++ [[]]) := by rw [ih later]

theorem not_mem_lines (cs : List Char) : ∀ line ∈ lines cs, '\n' ∉ line := by
  induction cs with
  | nil => simp [lines]
  | cons c cs ih =>
    rw [lines, List.splitOn_cons_eq_if_modifyHead, ← lines]
    split
    next => exact List.forall_mem_cons.2 ⟨by simp, ih⟩
    next other =>
      cases split : lines cs with
      | nil => simp
      | cons first later =>
        rw [split] at ih
        obtain ⟨here, rest⟩ := List.forall_mem_cons.1 ih
        refine List.forall_mem_cons.2 ⟨?_, rest⟩
        intro member
        rcases List.mem_cons.1 member with same | inside
        · exact other (beq_iff_eq.2 same.symm)
        · exact here inside

theorem unlines_of_lines {cs : List Char} {pieces : List (List Char)}
    (split : lines cs = pieces ++ [[]]) : unlines pieces = cs := by
  have joined : ['\n'].intercalate (pieces ++ [[]]) = unlines pieces := by
    clear split
    induction pieces with
    | nil => rfl
    | cons piece pieces ih =>
      have more : pieces ++ [[]] ≠ [] := by simp
      obtain ⟨next, later, rest⟩ := List.exists_cons_of_ne_nil more
      rw [rest] at ih
      rw [List.cons_append, rest, List.intercalate_cons_cons, ih, unlines, unlines,
        List.flatMap_cons]
  rw [← joined, ← split, lines, List.intercalate_splitOn]

theorem ended?_eq_some_iff {cs : List Char} {pieces : List (List Char)} :
    ended? cs = some pieces ↔ (∀ piece ∈ pieces, '\n' ∉ piece) ∧ unlines pieces = cs := by
  constructor
  · intro ended
    rw [ended?, Option.ite_none_right_eq_some] at ended
    obtain ⟨last, same⟩ := ended
    obtain rfl := Option.some.inj same
    have split : lines cs = (lines cs).dropLast ++ [[]] :=
      (List.dropLast_append_getLast? _ last).symm
    exact ⟨fun piece member => not_mem_lines cs piece (List.dropLast_subset _ member),
      unlines_of_lines split⟩
  · rintro ⟨whole, rfl⟩
    simp [ended?, lines_unlines whole]

end RoleAlgebra.Text
