/-!
Offsets in a text count the bytes of its UTF-8 form. A text can be cut at an offset exactly when
the offset is a character boundary: `cut?_eq_some_iff` says what the two parts are.
-/

namespace RoleAlgebra.Text

def size : List Char → Nat
  | [] => 0
  | c :: rest => c.utf8Size + size rest

def cutFrom (passed : List Char) : Nat → List Char → Option (List Char × List Char)
  | 0, rest => some (passed.reverse, rest)
  | _ + 1, [] => none
  | offset + 1, c :: rest =>
    if c.utf8Size ≤ offset + 1 then cutFrom (c :: passed) (offset + 1 - c.utf8Size) rest else none

/-- The characters before byte `offset` and those from it on, if `offset` is a boundary. -/
def cut? (offset : Nat) (cs : List Char) : Option (List Char × List Char) := cutFrom [] offset cs

def slice? (text : String) (start stop : Nat) : Option String :=
  if start ≤ stop then
    (cut? start text.toList).bind fun (_, rest) =>
      (cut? (stop - start) rest).map fun (taken, _) => String.ofList taken
  else none

@[simp] theorem size_nil : size [] = 0 := rfl

@[simp] theorem size_cons (c : Char) (cs : List Char) : size (c :: cs) = c.utf8Size + size cs := rfl

@[simp] theorem size_append (a b : List Char) : size (a ++ b) = size a + size b := by
  induction a with
  | nil => simp
  | cons c a ih => simp [ih, Nat.add_assoc]

theorem size_eq_zero_iff {cs : List Char} : size cs = 0 ↔ cs = [] := by
  cases cs with
  | nil => simp
  | cons c cs =>
    have := Char.utf8Size_pos c
    simp
    omega

theorem cutFrom_zero (passed cs : List Char) : cutFrom passed 0 cs = some (passed.reverse, cs) := by
  cases cs <;> rfl

theorem cutFrom_eq_some_iff {passed cs before rest : List Char} {offset : Nat} :
    cutFrom passed offset cs = some (before, rest) ↔
      ∃ taken, before = passed.reverse ++ taken ∧ cs = taken ++ rest ∧ size taken = offset := by
  induction cs generalizing passed offset with
  | nil =>
    cases offset with
    | zero =>
      simp only [cutFrom_zero, size_eq_zero_iff, Option.some.injEq, Prod.mk.injEq]
      constructor
      · rintro ⟨rfl, rfl⟩
        exact ⟨[], by simp⟩
      · rintro ⟨taken, rfl, parts, rfl⟩
        exact ⟨by simp, parts⟩
    | succ offset =>
      simp only [cutFrom, reduceCtorEq, false_iff]
      rintro ⟨taken, -, empty, bytes⟩
      have none : taken = [] := (List.append_eq_nil_iff.1 empty.symm).1
      simp [none] at bytes
  | cons c cs ih =>
    cases offset with
    | zero =>
      simp only [cutFrom_zero, size_eq_zero_iff, Option.some.injEq, Prod.mk.injEq]
      constructor
      · rintro ⟨rfl, rfl⟩
        exact ⟨[], by simp⟩
      · rintro ⟨taken, rfl, parts, rfl⟩
        exact ⟨by simp, parts⟩
    | succ offset =>
      simp only [cutFrom]
      split
      next fits =>
        rw [ih]
        constructor
        · rintro ⟨taken, rfl, rfl, bytes⟩
          exact ⟨c :: taken, by simp, by simp, by simp; omega⟩
        · rintro ⟨taken, rfl, parts, bytes⟩
          cases taken with
          | nil => simp at bytes
          | cons d taken =>
            obtain ⟨rfl, rfl⟩ : c = d ∧ cs = taken ++ rest := by simpa using parts
            exact ⟨taken, by simp, rfl, by simp at bytes; omega⟩
      next large =>
        simp only [reduceCtorEq, false_iff]
        rintro ⟨taken, -, parts, bytes⟩
        cases taken with
        | nil => simp at bytes
        | cons d taken =>
          obtain ⟨rfl, rfl⟩ : c = d ∧ cs = taken ++ rest := by simpa using parts
          simp at bytes
          omega

theorem cut?_eq_some_iff {cs before rest : List Char} {offset : Nat} :
    cut? offset cs = some (before, rest) ↔ cs = before ++ rest ∧ size before = offset := by
  simp only [cut?, cutFrom_eq_some_iff, List.reverse_nil, List.nil_append]
  constructor
  · rintro ⟨taken, rfl, parts, bytes⟩
    exact ⟨parts, bytes⟩
  · rintro ⟨parts, bytes⟩
    exact ⟨before, rfl, parts, bytes⟩

end RoleAlgebra.Text
