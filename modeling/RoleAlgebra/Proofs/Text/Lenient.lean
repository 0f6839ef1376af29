import RoleAlgebra.Proofs.Text.Utf8

/-!
Lenient reading of bytes as UTF-8. It leaves a mark in the place of each stretch that is no
character. Such a stretch is as long as it can be the beginning of a character, and one byte long if
it is none (`Broken`). This settles how bytes are divided, so that there is one text that they are
mended to (`mends_iff`).
-/

namespace RoleAlgebra.Text.Utf8

variable {bytes part more rest : List UInt8} {first b : UInt8} {cs : List Char} {c : Char}

def Starts (part : List UInt8) : Prop := ∃ c : Char, part <+: String.utf8EncodeChar c

/-- A stretch that is no character, before the rest of some bytes. -/
structure Broken (part rest : List UInt8) : Prop where
  whole : ∀ c : Char, part ≠ String.utf8EncodeChar c
  short : part.length = 1 ∨ part ≠ [] ∧ Starts part
  longest : ∀ b ∈ rest.head?, ¬ Starts (part ++ [b])

/-- Bytes read as a text, with a mark for each stretch that is no character. -/
inductive Mends : List UInt8 → List Char → Prop where
  | nil : Mends [] []
  | character {c : Char} {rest : List UInt8} {cs : List Char} (later : Mends rest cs) :
      Mends (String.utf8EncodeChar c ++ rest) (c :: cs)
  | mark {part rest : List UInt8} {cs : List Char} (broken : Broken part rest)
      (later : Mends rest cs) : Mends (part ++ rest) ('\uFFFD' :: cs)

/-- What the bytes after a first one have to be, as far as they go, to make a character with it. -/
structure Fits (first : UInt8) (more : List UInt8) : Prop where
  length : more.length < width first
  second : ∀ b ∈ more.head?, isSecond first b = true
  others : ∀ b ∈ more.tail, isContinuation b = true

theorem isSecond_of_width_two (wide : width first = 2) :
    isSecond first b = isContinuation b := by
  rw [width_eq_two_iff] at wide
  rw [Bool.eq_iff_iff, isSecond_iff, isContinuation_iff]
  omega

theorem Spells.fits {n : Nat} (spells : Spells (first :: more) n) :
    Fits first more ∧ more.length + 1 = width first := by
  cases spells with
  | one wide => exact ⟨⟨by simp [wide], by simp, by simp⟩, by simp [wide]⟩
  | two wide second =>
    rw [← isSecond_of_width_two wide] at second
    exact ⟨⟨by simp [wide], by simpa using second, by simp⟩, by simp [wide]⟩
  | three wide second third =>
    exact ⟨⟨by simp [wide], by simpa using second, by simpa using third⟩, by simp [wide]⟩
  | four wide second third fourth =>
    exact ⟨⟨by simp [wide], by simpa using second, by simp [third, fourth]⟩, by simp [wide]⟩

theorem width_le (first : UInt8) : width first ≤ 4 := by
  grind [width]

theorem Fits.exists_spells (fits : Fits first more) (full : more.length + 1 = width first) :
    ∃ n, Spells (first :: more) n := by
  obtain ⟨-, second, others⟩ := fits
  have most := width_le first
  match more, full with
  | [], full => exact ⟨_, .one full.symm⟩
  | [a], full =>
    have next := second a rfl
    rw [isSecond_of_width_two full.symm] at next
    exact ⟨_, .two full.symm next⟩
  | [a, b], full => exact ⟨_, .three full.symm (second a rfl) (others b (by simp))⟩
  | [a, b, c], full =>
    exact ⟨_, .four full.symm (second a rfl) (others b (by simp)) (others c (by simp))⟩
  | _ :: _ :: _ :: _ :: _, full =>
    simp only [List.length_cons] at full
    omega

theorem exists_isSecond (first : UInt8) : ∃ b, isSecond first b = true := by
  simp only [isSecond_iff]
  by_cases three : first.toNat = 0xE0
  · exact ⟨0xA0, by simp [three]⟩
  · by_cases four : first.toNat = 0xF0
    · exact ⟨0x90, by simp [four]⟩
    · exact ⟨0x80, by simp [three, four]⟩

theorem Fits.single {a : UInt8} (short : 1 < width first) (second : isSecond first a = true) :
    Fits first [a] :=
  ⟨short, by simpa using second, nofun⟩

theorem Fits.next {a : UInt8} (fits : Fits first (a :: more))
    (short : more.length + 2 < width first) (goesOn : isContinuation b = true) :
    Fits first (a :: more ++ [b]) := by
  refine ⟨by simpa using short, fits.second, ?_⟩
  rw [List.cons_append, List.tail_cons]
  exact List.forall_mem_append.2 ⟨fits.others, List.forall_mem_singleton.2 goesOn⟩

theorem Fits.extend (fits : Fits first more) (short : more.length + 1 < width first) :
    ∃ b, Fits first (more ++ [b]) := by
  cases more with
  | nil =>
    obtain ⟨b, second⟩ := exists_isSecond first
    exact ⟨b, .single short second⟩
  | cons a more => exact ⟨0x80, fits.next short rfl⟩

theorem Fits.of_append (fits : Fits first (more ++ rest)) : Fits first more := by
  obtain ⟨length, second, others⟩ := fits
  rw [List.length_append] at length
  cases more with
  | nil => exact ⟨by omega, nofun, nofun⟩
  | cons a more =>
    exact ⟨by omega, second, fun b member => others b (List.mem_append_left rest member)⟩

theorem Fits.starts (fits : Fits first more) : Starts (first :: more) := by
  have length := fits.length
  induction missing : width first - more.length generalizing more with
  | zero => omega
  | succ n ih =>
    by_cases full : more.length + 1 = width first
    · obtain ⟨_, spells⟩ := fits.exists_spells full
      exact ⟨_, [], by rw [List.append_nil, spells.utf8EncodeChar_eq]⟩
    · obtain ⟨b, longer⟩ := fits.extend (by omega)
      have fewer : width first - (more ++ [b]).length = n := by
        rw [List.length_append, List.length_singleton]
        omega
      obtain ⟨c, begins⟩ := ih longer longer.length fewer
      exact ⟨c, (List.prefix_append (first :: more) [b]).trans begins⟩

theorem starts_cons_iff : Starts (first :: more) ↔ Fits first more := by
  refine ⟨?_, Fits.starts⟩
  rintro ⟨c, rest, encoded⟩
  have spells := spells_utf8EncodeChar c
  rw [← encoded, List.cons_append] at spells
  exact spells.fits.1.of_append

theorem Starts.of_append (starts : Starts (part ++ more)) : Starts part := by
  obtain ⟨c, encoded⟩ := starts
  exact ⟨c, (List.prefix_append part more).trans encoded⟩

/-- As far as bytes fit: the first `n` of them do, if there are any, and the next one does not. -/
structure FitsUpTo (first : UInt8) (rest : List UInt8) (n : Nat) : Prop where
  fits : n = 0 ∨ Fits first (rest.take n)
  ends : ∀ b ∈ (rest.drop n).head?, ¬ Fits first (rest.take n ++ [b])

namespace FitsUpTo

theorem nothing : FitsUpTo first [] 0 := ⟨.inl rfl, nofun⟩

theorem all (fits : Fits first rest) : FitsUpTo first rest rest.length := by
  refine ⟨.inr ?_, ?_⟩
  · rwa [List.take_length]
  · rw [List.drop_length]
    nofun

theorem never (none : width first = 0) : FitsUpTo first rest 0 := by
  refine ⟨.inl rfl, ?_⟩
  intro b _ fits
  exact Nat.not_lt_zero _ (none ▸ fits.length)

theorem second (other : ¬ isSecond first b = true) : FitsUpTo first (b :: rest) 0 := by
  refine ⟨.inl rfl, ?_⟩
  intro a head fits
  cases head
  exact other (fits.second b rfl)

theorem further {a : UInt8} (fits : Fits first (a :: more)) (other : ¬ isContinuation b = true) :
    FitsUpTo first (a :: more ++ b :: rest) (more.length + 1) := by
  refine ⟨.inr ?_, ?_⟩
  · simpa using fits
  · intro next head longer
    obtain rfl : b = next := by simpa using head
    exact other (longer.others b (by simp))

end FitsUpTo

/-- Bytes that are not read as a character are passed over as far as they fit. -/
theorem fitsUpTo_of_firstPiece {piece : Piece} {n : Nat}
    (found : firstPiece first rest = (piece, n)) (refused : ∀ c, piece ≠ .character c) :
    FitsUpTo first rest n := by
  -- One case for each way out of `firstPiece`; those with a character contradict `refused`.
  unfold firstPiece at found
  split at found
  next => cases found; exact absurd rfl (refused _)
  next => cases found; exact .nothing
  next a later wide =>
    split at found <;> cases found
    next => exact absurd rfl (refused _)
    next other =>
      rw [← isSecond_of_width_two wide] at other
      exact .second other
  next => cases found; exact .nothing
  next a later wide =>
    split at found
    next follows =>
      have fits := Fits.single (by omega) follows
      split at found
      next => cases found; exact .all fits
      next b last =>
        split at found <;> cases found
        next => exact absurd rfl (refused _)
        next other => exact .further fits other
    next other => cases found; exact .second other
  next => cases found; exact .nothing
  next a later wide =>
    split at found
    next follows =>
      have fits := Fits.single (by omega) follows
      split at found
      next => cases found; exact .all fits
      next b last =>
        split at found
        next goesOn =>
          have fits := fits.next (by simp [wide]) goesOn
          split at found
          next => cases found; exact .all fits
          next c last =>
            split at found <;> cases found
            next => exact absurd rfl (refused _)
            next other => exact .further fits other
        next other => cases found; exact .further fits other
    next other => cases found; exact .second other
  next rest _ _ not_one not_two not_two' not_three not_three' not_four not_four' =>
    obtain rfl : 0 = n := congrArg Prod.snd found
    refine .never ?_
    have other {k : Nat} (alone : width first = k → rest = [] → False)
        (further : ∀ a later, width first = k → rest = a :: later → False) : width first ≠ k := by
      intro wide
      cases rest with
      | nil => exact alone wide rfl
      | cons a later => exact further a later wide rfl
    have one : width first ≠ 1 := not_one
    have two := other not_two not_two'
    have three := other not_three not_three'
    have four := other not_four not_four'
    have most := width_le first
    omega

theorem broken_of_firstPiece {piece : Piece} {n : Nat}
    (found : firstPiece first rest = (piece, n)) (refused : ∀ c, piece ≠ .character c) :
    Broken (first :: rest.take n) (rest.drop n) := by
  obtain ⟨fits, ends⟩ := fitsUpTo_of_firstPiece found refused
  refine ⟨?_, ?_, ?_⟩
  · intro c encoded
    have spells := spells_utf8EncodeChar c
    rw [← encoded] at spells
    have read := @firstPiece_of_spells _ (rest.drop n) _ _ spells
    rw [List.take_append_drop, found] at read
    exact refused _ (congrArg Prod.fst read)
  · rcases fits with rfl | fits
    · exact .inl rfl
    · exact .inr ⟨List.cons_ne_nil _ _, fits.starts⟩
  · intro b next starts
    exact ends b next (starts_cons_iff.1 starts)

theorem Broken.ne_nil (broken : Broken part rest) : part ≠ [] := by
  rcases broken.short with single | ⟨some, -⟩
  · exact List.ne_nil_of_length_eq_add_one single
  · exact some

/-- Nothing longer with the same beginning is the beginning of a character. -/
theorem Broken.not_starts (broken : Broken part (more ++ rest)) (further : more ≠ []) :
    ¬ Starts (part ++ more) := by
  intro starts
  cases more with
  | nil => exact further rfl
  | cons b more =>
    rw [← List.singleton_append, ← List.append_assoc] at starts
    exact broken.longest b rfl starts.of_append

theorem Broken.starts_append (broken : Broken (part ++ more) rest) (some : part ≠ [])
    (further : more ≠ []) : Starts (part ++ more) := by
  rcases broken.short with single | ⟨-, starts⟩
  · have := List.length_pos_iff.2 some
    have := List.length_pos_iff.2 further
    rw [List.length_append] at single
    omega
  · exact starts

theorem not_starts_utf8EncodeChar_append (further : more ≠ []) :
    ¬ Starts (String.utf8EncodeChar c ++ more) := by
  intro starts
  have spells := spells_utf8EncodeChar c
  cases encoded : String.utf8EncodeChar c with
  | nil => exact absurd encoded String.utf8EncodeChar_ne_nil
  | cons first later =>
    rw [encoded] at spells starts
    have full := spells.fits.2
    have length : (later ++ more).length < width first := (starts_cons_iff.1 starts).length
    rw [List.length_append] at length
    have := List.length_pos_iff.2 further
    omega

/-- Bytes that begin with a character do not begin with a stretch that is none. -/
theorem Broken.not_character (broken : Broken part rest) {after : List UInt8}
    (same : part ++ rest = String.utf8EncodeChar c ++ after) : False := by
  rcases List.append_eq_append_iff.1 same with ⟨more, encoded, rfl⟩ | ⟨more, rfl, -⟩
  · by_cases exact : more = []
    · exact broken.whole c (by rw [encoded, exact, List.append_nil])
    · exact broken.not_starts exact ⟨c, encoded ▸ List.prefix_refl _⟩
  · by_cases exact : more = []
    · exact broken.whole c (by rw [exact, List.append_nil])
    · exact not_starts_utf8EncodeChar_append exact
        (broken.starts_append String.utf8EncodeChar_ne_nil exact)

theorem Broken.of_append (broken : Broken part (more ++ rest))
    (longer : Broken (part ++ more) rest) : more = [] :=
  Decidable.byContradiction fun further =>
    broken.not_starts further (longer.starts_append broken.ne_nil further)

/-- How far the first stretch that is no character goes is settled by the bytes. -/
theorem Broken.unique {part' rest' : List UInt8} (broken : Broken part rest)
    (broken' : Broken part' rest') (same : part ++ rest = part' ++ rest') :
    part = part' ∧ rest = rest' := by
  rcases List.append_eq_append_iff.1 same with ⟨more, rfl, rfl⟩ | ⟨more, rfl, rfl⟩
  · simp [broken.of_append broken']
  · simp [broken'.of_append broken]

theorem encoded_of_firstPiece {n : Nat} (found : firstPiece first rest = (.character c, n)) :
    String.utf8EncodeChar c ++ rest.drop n = first :: rest := by
  obtain ⟨_, spells, rfl⟩ := Spells.of_firstPiece found
  rw [spells.utf8EncodeChar_eq, List.cons_append, List.take_append_drop]

theorem pieces_of_broken (broken : Broken part rest) :
    ∃ piece, (∀ c, piece ≠ .character c) ∧ pieces (part ++ rest) = piece :: pieces rest := by
  cases part with
  | nil => exact absurd rfl broken.ne_nil
  | cons first more =>
    cases found : firstPiece first (more ++ rest) with
    | mk piece n =>
      have refused : ∀ c, piece ≠ .character c := by
        rintro c rfl
        exact broken.not_character (encoded_of_firstPiece found).symm
      have here := broken_of_firstPiece found refused
      have after := (broken.unique here (by simp)).2
      exact ⟨piece, refused, by rw [List.cons_append, pieces_cons, found, ← after]⟩

theorem decodeLenient_nil : (decodeLenient []).toList = [] := by
  simp [decodeLenient, pieces_nil]

theorem decodeLenient_character (c : Char) (rest : List UInt8) :
    (decodeLenient (String.utf8EncodeChar c ++ rest)).toList =
      c :: (decodeLenient rest).toList := by
  simp [decodeLenient, pieces_utf8EncodeChar_append]

theorem decodeLenient_broken (broken : Broken part rest) :
    (decodeLenient (part ++ rest)).toList = '\uFFFD' :: (decodeLenient rest).toList := by
  obtain ⟨piece, refused, divided⟩ := pieces_of_broken broken
  simp only [decodeLenient, divided, List.map_cons, String.toList_ofList]
  cases piece with
  | character c => exact absurd rfl (refused c)
  | invalid => rfl
  | unfinished => rfl

theorem Mends.decodeLenient_eq (mends : Mends bytes cs) : (decodeLenient bytes).toList = cs := by
  induction mends with
  | nil => exact decodeLenient_nil
  | character later ih => rw [decodeLenient_character, ih]
  | mark broken later ih => rw [decodeLenient_broken broken, ih]

/-- The pieces of bytes are a way of mending. The recursion is over what the first piece leaves. -/
theorem exists_mends : ∀ bytes : List UInt8, ∃ cs, Mends bytes cs
  | [] => ⟨[], .nil⟩
  | first :: rest => by
    obtain ⟨cs, later⟩ := exists_mends (rest.drop (firstPiece first rest).2)
    cases found : firstPiece first rest with
    | mk piece n =>
      rw [found] at later
      by_cases read : ∃ c, piece = .character c
      · obtain ⟨c, rfl⟩ := read
        rw [← encoded_of_firstPiece found]
        exact ⟨c :: cs, .character later⟩
      · have refused : ∀ c, piece ≠ .character c := fun c same => read ⟨c, same⟩
        have parts : first :: rest = first :: rest.take n ++ rest.drop n := by simp
        rw [parts]
        exact ⟨'\uFFFD' :: cs, .mark (broken_of_firstPiece found refused) later⟩
termination_by bytes => bytes.length
decreasing_by
  rw [List.length_drop, List.length_cons]
  omega

/-- Lenient reading is the one way of mending. -/
theorem mends_iff : Mends bytes cs ↔ (decodeLenient bytes).toList = cs := by
  refine ⟨Mends.decodeLenient_eq, ?_⟩
  rintro rfl
  obtain ⟨cs, mends⟩ := exists_mends bytes
  rwa [mends.decodeLenient_eq]

end RoleAlgebra.Text.Utf8
