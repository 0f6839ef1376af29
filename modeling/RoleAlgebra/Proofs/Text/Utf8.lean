import RoleAlgebra.Text.Utf8

namespace RoleAlgebra.Text.Utf8

theorem width_eq_one_iff {b : UInt8} : width b = 1 ↔ b.toNat < 0x80 := by
  grind [width, UInt8.lt_iff_toNat_lt]

theorem width_eq_two_iff {b : UInt8} : width b = 2 ↔ 0xC2 ≤ b.toNat ∧ b.toNat < 0xE0 := by
  grind [width, UInt8.lt_iff_toNat_lt]

theorem width_eq_three_iff {b : UInt8} : width b = 3 ↔ 0xE0 ≤ b.toNat ∧ b.toNat < 0xF0 := by
  grind [width, UInt8.lt_iff_toNat_lt]

theorem width_eq_four_iff {b : UInt8} : width b = 4 ↔ 0xF0 ≤ b.toNat ∧ b.toNat < 0xF5 := by
  grind [width, UInt8.lt_iff_toNat_lt]

theorem isContinuation_iff {b : UInt8} :
    isContinuation b = true ↔ 0x80 ≤ b.toNat ∧ b.toNat ≤ 0xBF := by
  simp [isContinuation, UInt8.le_iff_toNat_le]

/-- What a first byte asks of the second: to be a continuation, and to leave out the long forms, the
surrogates and the numbers after the last character. -/
theorem isSecond_iff {first second : UInt8} :
    isSecond first second = true ↔ (0x80 ≤ second.toNat ∧ second.toNat ≤ 0xBF) ∧
      (first.toNat = 0xE0 → 0xA0 ≤ second.toNat) ∧ (first.toNat = 0xED → second.toNat ≤ 0x9F) ∧
      (first.toNat = 0xF0 → 0x90 ≤ second.toNat) ∧ (first.toNat = 0xF4 → second.toNat ≤ 0x8F) := by
  simp only [isSecond, isContinuation, ← UInt8.toNat_inj, UInt8.le_iff_toNat_le]
  grind

/-- The bytes that spell the character with a given number: as many as its first byte says, in the
shortest form there is. -/
inductive Spells : List UInt8 → Nat → Prop
  | one {a : UInt8} (wide : width a = 1) : Spells [a] a.toNat
  | two {a b : UInt8} (wide : width a = 2) (second : isContinuation b = true) :
      Spells [a, b] (a.toNat % 32 * 64 + low b)
  | three {a b c : UInt8} (wide : width a = 3) (second : isSecond a b = true)
      (third : isContinuation c = true) :
      Spells [a, b, c] ((a.toNat % 16 * 64 + low b) * 64 + low c)
  | four {a b c d : UInt8} (wide : width a = 4) (second : isSecond a b = true)
      (third : isContinuation c = true) (fourth : isContinuation d = true) :
      Spells [a, b, c, d] (((a.toNat % 8 * 64 + low b) * 64 + low c) * 64 + low d)

variable {bytes more rest : List UInt8} {first : UInt8} {n length : Nat} {c : Char}

theorem firstPiece_of_spells (spells : Spells (first :: more) n) :
    firstPiece first (more ++ rest) = (.character (.ofNat n), more.length) := by
  cases spells with
  | one wide => simp [firstPiece, wide]
  | two wide second => simp [firstPiece, wide, second]
  | three wide second third => simp [firstPiece, wide, second, third]
  | four wide second third fourth => simp [firstPiece, wide, second, third, fourth]

theorem Spells.of_firstPiece (found : firstPiece first rest = (.character c, length)) :
    ∃ n, Spells (first :: rest.take length) n ∧ c = .ofNat n := by
  -- Every way out of `firstPiece` other than the four spellings contradicts `found`.
  unfold firstPiece at found
  split at found <;> try cases found
  next wide => exact ⟨_, .one wide, rfl⟩
  next wide =>
    split at found <;> cases found
    next second => exact ⟨_, .two wide second, rfl⟩
  next wide =>
    split at found <;> try cases found
    next second =>
    split at found <;> try cases found
    split at found <;> cases found
    next third => exact ⟨_, .three wide second third, rfl⟩
  next wide =>
    split at found <;> try cases found
    next second =>
    split at found <;> try cases found
    split at found <;> try cases found
    next third =>
    split at found <;> try cases found
    split at found <;> cases found
    next fourth => exact ⟨_, .four wide second third fourth, rfl⟩

theorem Spells.isValidChar (spells : Spells bytes n) : n.isValidChar := by
  cases spells with
  | one wide =>
    rw [width_eq_one_iff] at wide
    unfold Nat.isValidChar
    omega
  | two wide second =>
    unfold low Nat.isValidChar
    omega
  | three wide second third =>
    rw [width_eq_three_iff] at wide
    rw [isSecond_iff] at second
    unfold low Nat.isValidChar
    omega
  | four wide second third fourth =>
    rw [width_eq_four_iff] at wide
    rw [isSecond_iff] at second
    unfold low Nat.isValidChar
    omega

theorem Spells.val_ofNat (spells : Spells bytes n) : (Char.ofNat n).val.toNat = n := by
  rw [Char.ofNat, dif_pos spells.isValidChar]
  rfl

theorem ofNat_eq_of_eq_toNat {b : UInt8} (same : n = b.toNat) : UInt8.ofNat n = b := by
  rw [same, UInt8.ofNat_toNat]

theorem Spells.utf8EncodeChar_eq (spells : Spells bytes n) :
    String.utf8EncodeChar (.ofNat n) = bytes := by
  have number := spells.val_ofNat
  unfold String.utf8EncodeChar
  simp only [number]
  cases spells with
  | one wide =>
    rw [width_eq_one_iff] at wide
    rw [if_pos (by omega), UInt8.ofNat_toNat]
  | two wide second =>
    rw [width_eq_two_iff] at wide
    rw [isContinuation_iff] at second
    rw [low, if_neg (by omega), if_pos (by omega)]
    congr <;> exact ofNat_eq_of_eq_toNat (by omega)
  | three wide second third =>
    rw [width_eq_three_iff] at wide
    rw [isSecond_iff] at second
    rw [isContinuation_iff] at third
    rw [low, low, if_neg (by omega), if_neg (by omega), if_pos (by omega)]
    congr <;> exact ofNat_eq_of_eq_toNat (by omega)
  | four wide second third fourth =>
    rw [width_eq_four_iff] at wide
    rw [isSecond_iff] at second
    rw [isContinuation_iff] at third fourth
    rw [low, low, low, if_neg (by omega), if_neg (by omega), if_neg (by omega)]
    congr <;> exact ofNat_eq_of_eq_toNat (by omega)

theorem Spells.cast {m : Nat} (spells : Spells bytes m) (same : m = n) : Spells bytes n :=
  same ▸ spells

theorem spells_utf8EncodeChar (c : Char) : Spells (String.utf8EncodeChar c) c.toNat := by
  have valid : c.val.toNat.isValidChar := c.valid
  rw [Char.toNat]
  unfold String.utf8EncodeChar
  simp only
  generalize c.val.toNat = n at valid
  unfold Nat.isValidChar at valid
  split
  · refine (Spells.one ?_).cast ?_ <;>
      simp only [width_eq_one_iff, UInt8.toNat_ofNat'] <;> omega
  split
  · refine (Spells.two ?_ ?_).cast ?_ <;>
      simp only [width_eq_two_iff, isContinuation_iff, low, UInt8.toNat_ofNat'] <;> omega
  split
  · refine (Spells.three ?_ ?_ ?_).cast ?_ <;>
      simp only [width_eq_three_iff, isSecond_iff, isContinuation_iff, low,
        UInt8.toNat_ofNat'] <;> omega
  · refine (Spells.four ?_ ?_ ?_ ?_).cast ?_ <;>
      simp only [width_eq_four_iff, isSecond_iff, isContinuation_iff, low,
        UInt8.toNat_ofNat'] <;> omega

theorem piecesOnto_cons (found : List Piece) (first : UInt8) (rest : List UInt8) :
    piecesOnto found (first :: rest) =
      piecesOnto ((firstPiece first rest).1 :: found) (rest.drop (firstPiece first rest).2) := by
  rw [piecesOnto]

theorem piecesOnto_append (found earlier : List Piece) (bytes : List UInt8) :
    piecesOnto (found ++ earlier) bytes = earlier.reverse ++ piecesOnto found bytes := by
  fun_induction piecesOnto found bytes with
  | case1 found => rw [piecesOnto, List.reverse_append]
  | case2 found first rest piece length split ih =>
    rw [piecesOnto_cons, split]
    exact ih

theorem pieces_nil : pieces [] = [] := by
  rw [pieces, piecesOnto, List.reverse_nil]

theorem pieces_cons (first : UInt8) (rest : List UInt8) :
    pieces (first :: rest) =
      (firstPiece first rest).1 :: pieces (rest.drop (firstPiece first rest).2) := by
  rw [pieces, piecesOnto_cons]
  exact piecesOnto_append [] [_] _

/-- The first piece of an encoded text is its first character. -/
theorem pieces_utf8EncodeChar_append (c : Char) (rest : List UInt8) :
    pieces (String.utf8EncodeChar c ++ rest) = .character c :: pieces rest := by
  have spells := spells_utf8EncodeChar c
  cases encoded : String.utf8EncodeChar c with
  | nil => exact absurd encoded String.utf8EncodeChar_ne_nil
  | cons first more =>
    rw [encoded] at spells
    rw [List.cons_append, pieces_cons, firstPiece_of_spells spells, Char.ofNat_toNat,
      List.drop_left]

/-- The pieces of bytes are characters exactly if the characters are encoded as the bytes. -/
theorem pieces_eq_characters_iff {cs : List Char} :
    pieces bytes = cs.map .character ↔ cs.flatMap String.utf8EncodeChar = bytes := by
  constructor
  · intro characters
    induction cs generalizing bytes with
    | nil =>
      cases bytes with
      | nil => rfl
      | cons first rest => simp [pieces_cons] at characters
    | cons c later ih =>
      cases bytes with
      | nil => simp [pieces_nil] at characters
      | cons first rest =>
        rw [pieces_cons, List.map_cons, List.cons_eq_cons] at characters
        obtain ⟨here, after⟩ := characters
        have found : firstPiece first rest = (.character c, (firstPiece first rest).2) :=
          Prod.ext here rfl
        obtain ⟨n, spells, rfl⟩ := Spells.of_firstPiece found
        rw [List.flatMap_cons, spells.utf8EncodeChar_eq, ih after, List.cons_append,
          List.take_append_drop]
  · rintro rfl
    induction cs with
    | nil => exact pieces_nil
    | cons c later ih => rw [List.flatMap_cons, pieces_utf8EncodeChar_append, ih, List.map_cons]

theorem decodeOnto_eq_ok_iff {found : List Piece} {decoded : List Char} {index : Nat}
    {text : String} :
    decodeOnto index decoded found = .ok text ↔
      ∃ cs : List Char, found = cs.map .character ∧ text = .ofList (decoded.reverse ++ cs) := by
  induction found generalizing index decoded with
  | nil => simp [decodeOnto, eq_comm]
  | cons piece later ih =>
    cases piece with
    | character c =>
      rw [decodeOnto, ih]
      constructor
      · rintro ⟨cs, rfl, rfl⟩
        exact ⟨c :: cs, rfl, by simp⟩
      · rintro ⟨_ | ⟨c', cs⟩, same, rfl⟩ <;> cases same
        exact ⟨cs, rfl, by simp⟩
    | invalid length =>
      refine iff_of_false (by simp [decodeOnto]) ?_
      rintro ⟨_ | ⟨c, cs⟩, same, -⟩ <;> cases same
    | unfinished =>
      refine iff_of_false (by simp [decodeOnto]) ?_
      rintro ⟨_ | ⟨c, cs⟩, same, -⟩ <;> cases same

/-- The bytes that are read as a text are those that it is encoded as. -/
theorem decode_eq_ok_iff {text : String} :
    decode bytes = .ok text ↔ text.toUTF8 = bytes.toByteArray := by
  calc decode bytes = .ok text
      ↔ ∃ cs : List Char, pieces bytes = cs.map .character ∧ text = .ofList cs :=
        decodeOnto_eq_ok_iff
    _ ↔ pieces bytes = text.toList.map .character := by
        constructor
        · rintro ⟨cs, characters, rfl⟩
          rwa [String.toList_ofList]
        · intro characters
          exact ⟨text.toList, characters, text.ofList_toList.symm⟩
    _ ↔ text.toList.flatMap String.utf8EncodeChar = bytes := pieces_eq_characters_iff
    _ ↔ text.toUTF8 = bytes.toByteArray := by
        rw [String.toUTF8_eq_toByteArray, ← String.utf8Encode_toList, List.utf8Encode,
          List.toByteArray_inj]

theorem exists_decode_eq_ok_iff :
    (∃ text, decode bytes = .ok text) ↔ bytes.toByteArray.IsValidUTF8 := by
  constructor
  · rintro ⟨text, read⟩
    rw [← decode_eq_ok_iff.1 read, String.toUTF8_eq_toByteArray]
    exact text.isValidUTF8
  · intro valid
    exact ⟨.fromUTF8 _ valid, decode_eq_ok_iff.2 rfl⟩

end RoleAlgebra.Text.Utf8
