import RoleAlgebra.Text.Slice

namespace RoleAlgebra.Text

theorem size_toList (text : String) : size text.toList = text.utf8ByteSize := by
  have bytes : ∀ cs : List Char, (String.ofList cs).utf8ByteSize = size cs := by
    intro cs
    induction cs with
    | nil => rfl
    | cons c cs ih => rw [String.ofList_cons, String.utf8ByteSize_append,
        String.utf8ByteSize_singleton, ih, size_cons]
  rw [← bytes, String.ofList_toList]

/-- The characters of `cs` from byte `start` up to byte `stop`. -/
def Part (cs : List Char) (start stop : Nat) (part : List Char) : Prop :=
  ∃ before after, cs = before ++ part ++ after ∧ size before = start ∧
    start + size part = stop

theorem Part.append {cs part : List Char} {start stop : Nat} (inside : Part cs start stop part)
    (more : List Char) : Part (cs ++ more) start stop part := by
  obtain ⟨before, after, rfl, starts, stops⟩ := inside
  exact ⟨before, after ++ more, by simp, starts, stops⟩

theorem Part.extend {cs part : List Char} {start : Nat} (inside : Part cs start (size cs) part)
    (more : List Char) : Part (cs ++ more) start (size (cs ++ more)) (part ++ more) := by
  obtain ⟨before, after, rfl, starts, stops⟩ := inside
  have none : after = [] := by
    rw [size_append, size_append, starts] at stops
    exact size_eq_zero_iff.1 (by omega)
  subst none
  refine ⟨before, [], by simp, starts, ?_⟩
  simp only [size_append, size_nil] at stops ⊢
  omega

theorem part_last (cs part : List Char) : Part (cs ++ part) (size cs) (size cs + size part) part :=
  ⟨cs, [], by simp, rfl, rfl⟩

theorem part_end (cs : List Char) : Part cs (size cs) (size cs) [] := ⟨cs, [], by simp, rfl, rfl⟩

theorem Part.slice? {text : String} {start stop : Nat} {part : List Char}
    (inside : Part text.toList start stop part) :
    slice? text start stop = some (String.ofList part) := by
  obtain ⟨before, after, parts, rfl, rfl⟩ := inside
  have outer : cut? (size before) text.toList = some (before, part ++ after) :=
    cut?_eq_some_iff.2 ⟨by rw [parts, List.append_assoc], rfl⟩
  have inner : cut? (size part) (part ++ after) = some (part, after) :=
    cut?_eq_some_iff.2 ⟨rfl, rfl⟩
  rw [Text.slice?, if_pos (Nat.le_add_right _ _), Nat.add_sub_cancel_left, outer]
  simp [inner]

theorem slice?_eq_some_iff {text part : String} {start stop : Nat} :
    slice? text start stop = some part ↔ Part text.toList start stop part.toList := by
  constructor
  · intro sliced
    rw [slice?, Option.ite_none_right_eq_some, Option.bind_eq_some_iff] at sliced
    obtain ⟨forward, ⟨before, rest⟩, outer, taking⟩ := sliced
    obtain ⟨⟨taken, after⟩, inner, rfl⟩ := Option.map_eq_some_iff.1 taking
    obtain ⟨parts, starts⟩ := cut?_eq_some_iff.1 outer
    obtain ⟨rfl, stops⟩ := cut?_eq_some_iff.1 inner
    rw [String.toList_ofList]
    exact ⟨before, after, by rw [parts, List.append_assoc], starts, by omega⟩
  · intro inside
    rw [inside.slice?, String.ofList_toList]

/-- A byte at which a character of the text begins, or the end of the text. -/
def IsBoundary (text : String) (offset : Nat) : Prop := (String.Pos.Raw.mk offset).IsValid text

theorem isBoundary_iff {text : String} {offset : Nat} :
    IsBoundary text offset ↔
      ∃ before after, text.toList = before ++ after ∧ size before = offset := by
  rw [IsBoundary, String.Pos.Raw.isValid_iff_exists_append]
  constructor
  · rintro ⟨before, after, rfl, bytes⟩
    refine ⟨before.toList, after.toList, String.toList_append, ?_⟩
    rw [size_toList]
    exact (congrArg String.Pos.Raw.byteIdx bytes).symm
  · rintro ⟨before, after, parts, rfl⟩
    refine ⟨String.ofList before, String.ofList after, ?_, ?_⟩
    · rw [← String.ofList_append, ← parts, String.ofList_toList]
    · rw [← String.toList_ofList (l := before), size_toList, String.ofList_toList]
      rfl

/-- Of two ways to cut a text, the one that comes later has the characters between them in its first
part. -/
theorem exists_between {before after before' after' : List Char}
    (same : before ++ after = before' ++ after') (ordered : size before ≤ size before') :
    ∃ between, before' = before ++ between ∧ after = between ++ after' := by
  rcases List.append_eq_append_iff.1 same with ⟨between, later, rest⟩ | ⟨between, rfl, rest⟩
  · exact ⟨between, later, rest⟩
  · rw [size_append] at ordered
    obtain rfl : between = [] := size_eq_zero_iff.1 (by omega)
    exact ⟨[], by simp, by simpa using rest.symm⟩

theorem exists_part_iff {text : String} {start stop : Nat} :
    (∃ part, Part text.toList start stop part) ↔
      start ≤ stop ∧ IsBoundary text start ∧ IsBoundary text stop := by
  simp only [isBoundary_iff]
  constructor
  · rintro ⟨part, before, after, parts, rfl, rfl⟩
    exact ⟨Nat.le_add_right _ _, ⟨before, part ++ after, by rw [parts, List.append_assoc], rfl⟩,
      before ++ part, after, parts, size_append before part⟩
  · rintro ⟨forward, ⟨before, after, parts, rfl⟩, before', after', parts', rfl⟩
    obtain ⟨part, rfl, -⟩ := exists_between (parts.symm.trans parts') forward
    exact ⟨part, before, after', parts', rfl, (size_append before part).symm⟩

theorem exists_slice?_iff {text : String} {start stop : Nat} :
    (∃ part, slice? text start stop = some part) ↔
      start ≤ stop ∧ IsBoundary text start ∧ IsBoundary text stop := by
  rw [← exists_part_iff]
  constructor
  · rintro ⟨part, sliced⟩
    exact ⟨part.toList, slice?_eq_some_iff.1 sliced⟩
  · rintro ⟨part, inside⟩
    exact ⟨String.ofList part, inside.slice?⟩

end RoleAlgebra.Text
