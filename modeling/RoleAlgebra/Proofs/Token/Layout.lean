import RoleAlgebra.Proofs.Token.Alphabet

/-!
How a text is divided into tokens. `Divided` adds spaces and tokens to what has been read, a word
only where no other word has just ended, so that words are as long as they can be. A scanner holds
such a division (`Takes.holds`), and there is no other (`tokenize_eq_ok_iff_divided`).
-/

namespace RoleAlgebra

/-- Characters, with the tokens that they are divided into. -/
inductive Divided : List Char → List Token → Prop where
  | nil : Divided [] []
  | space {read : List Char} {tokens : List Token} {c : Char} (before : Divided read tokens)
      (blank : Token.isSpace c = true) : Divided (read ++ [c]) tokens
  | token {read : List Char} {tokens : List Token} {kind : Token.Kind}
      (before : Divided read tokens) (lexable : kind.Lexable)
      (apart : kind.isWord = true → ∀ c ∈ read.getLast?, Token.isWordChar c = false) :
      Divided (read ++ kind.chars)
        (tokens ++ [⟨kind, Text.size read, Text.size kind.chars⟩])

namespace Token.Kind

theorem chars_ne_nil {kind : Kind} (lexable : kind.Lexable) : kind.chars ≠ [] := by
  cases kind with
  | word text => exact fun empty => lexable.1 (String.toList_eq_nil_iff.1 empty)
  | op | opening | closing | «at» => exact List.cons_ne_nil _ _

theorem getLast?_chars {kind : Kind} (lexable : kind.Lexable) :
    ∃ c, kind.chars.getLast? = some c ∧ isWordChar c = kind.isWord := by
  cases sign : kind.isWord with
  | false =>
    obtain ⟨c, written, -, noWord, -⟩ := sign?_of_chars sign
    exact ⟨c, by rw [written]; rfl, noWord⟩
  | true =>
    obtain ⟨text, rfl⟩ := exists_word sign
    have last := List.getLast?_eq_some_getLast (chars_ne_nil lexable)
    refine ⟨_, last, ?_⟩
    exact isWordChar_iff.2 (lexable.2 _ (List.getLast_mem _))

end Token.Kind

namespace Scanner

/-- What a scanner knows of the characters it has read: those before its open word are divided, and
the open word takes all the word characters at the end. -/
structure Holds (read : List Char) (scanner : Scanner) : Prop where
  offset : scanner.offset = Text.size read
  word : ∀ c ∈ scanner.word, Token.isWordChar c = true
  closed : ∃ before, read = before ++ scanner.word.reverse ∧
    Divided before scanner.found.reverse ∧ ∀ c ∈ before.getLast?, Token.isWordChar c = false

theorem start_holds : start.Holds [] := ⟨rfl, by simp [start], [], rfl, .nil, by simp⟩

theorem Holds.divided {read : List Char} {scanner : Scanner} (holds : scanner.Holds read) :
    Divided read scanner.tokens.reverse := by
  obtain ⟨offset, letters, before, rfl, found, apart⟩ := holds
  rw [tokens]
  split
  next empty =>
    have none : scanner.word = [] := List.isEmpty_iff.1 empty
    rw [none, List.reverse_nil, List.append_nil]
    exact found
  next nonempty =>
    have length : Text.size scanner.word.reverse = scanner.word.length := by
      have known : ∀ c ∈ scanner.word.reverse, Token.InAlphabet c := fun c member =>
        Token.inAlphabet_of_isWordChar (letters c (List.mem_reverse.1 member))
      rw [Text.size_of_inAlphabet known, List.length_reverse]
    have starts : scanner.offset - scanner.word.length = Text.size before := by
      rw [offset, Text.size_append, length, Nat.add_sub_cancel]
    have lexable : (Token.Kind.word (String.ofList scanner.word.reverse)).Lexable := by
      refine ⟨?_, ?_⟩
      · simpa [String.ofList_eq_empty_iff] using nonempty
      · intro c member
        exact Token.isWordChar_iff.1 (letters c (by simpa using member))
    have division := Divided.token found lexable fun _ => apart
    rw [Token.Kind.chars, String.toList_ofList, length] at division
    rw [List.reverse_cons, starts]
    exact division

theorem Takes.holds {scanner next : Scanner} {c : Char} {read : List Char}
    (takes : Takes scanner c next) (holds : scanner.Holds read) : next.Holds (read ++ [c]) := by
  have divided := holds.divided
  have bytes : next.offset = Text.size (read ++ [c]) := by
    rw [takes.offset, holds.offset, Text.size_append, Text.size_cons, Text.size_nil, Nat.add_zero]
  cases takes with
  | word part =>
    obtain ⟨-, letters, before, rfl, found, apart⟩ := holds
    refine ⟨bytes, List.forall_mem_cons.2 ⟨part, letters⟩, before, ?_, found, apart⟩
    rw [List.reverse_cons, List.append_assoc]
  | space blank =>
    refine ⟨bytes, by simp, read ++ [c], by simp, .space divided blank, ?_⟩
    simp [Token.isWordChar_of_isSpace blank]
  | @sign kind solid alone =>
    obtain ⟨written, sign⟩ := Token.chars_of_sign? alone
    have lexable := Token.Kind.lexable_of_sign sign
    have one : Text.size kind.chars = 1 := by
      rw [Text.size_chars lexable, written]
      rfl
    have division := Divided.token divided lexable fun word => by simp [sign] at word
    rw [one, written, ← holds.offset] at division
    refine ⟨bytes, by simp, read ++ [c], by simp, ?_, ?_⟩
    · rw [List.reverse_cons]
      exact division
    · simp [Token.isWordChar_of_isSign (Token.isSign_of_sign? alone)]

theorem holds_of_scanFrom {scanner last : Scanner} {read cs : List Char}
    (holds : scanner.Holds read) (scanned : scanner.scanFrom cs = .ok last) :
    last.Holds (read ++ cs) := by
  induction cs generalizing scanner read with
  | nil =>
    cases scanned
    rw [List.append_nil]
    exact holds
  | cons c cs ih =>
    obtain ⟨next, takes, later⟩ := takes_of_scanFrom_cons scanned
    have holds := ih (takes.holds holds) later
    rw [List.append_assoc] at holds
    exact holds

theorem Holds.cut? {read : List Char} {scanner : Scanner} (holds : scanner.Holds read)
    (left : List Char) : Text.cut? scanner.offset (read ++ left) = some (read, left) :=
  Text.cut?_eq_some_iff.2 ⟨rfl, holds.offset.symm⟩

theorem Holds.word_eq_nil {read : List Char} {scanner : Scanner} (holds : scanner.Holds read)
    (apart : ∀ c ∈ read.getLast?, Token.isWordChar c = false) : scanner.word = [] := by
  obtain ⟨-, letters, before, rfl, -, -⟩ := holds
  cases word : scanner.word with
  | nil => rfl
  | cons c rest =>
    have part : Token.isWordChar c = true := letters c (by simp [word])
    have none : Token.isWordChar c = false := apart c (by simp [word])
    rw [part] at none
    cases none

theorem exists_scanFrom_of_divided {read : List Char} {tokens : List Token}
    (divided : Divided read tokens) :
    ∃ scanner, start.scanFrom read = .ok scanner ∧ scanner.tokens.reverse = tokens := by
  induction divided with
  | nil => exact ⟨start, rfl, rfl⟩
  | space before blank ih =>
    obtain ⟨scanner, read, rfl⟩ := ih
    have later := scanner.scanFrom_space blank
    exact ⟨_, (scanFrom_append_of_ok read _).trans later, rfl⟩
  | @token before tokens kind division lexable apart ih =>
    obtain ⟨scanner, read, rfl⟩ := ih
    have holds := holds_of_scanFrom start_holds read
    have closed : scanner.word = [] ∨ kind.isWord = false := by
      cases sign : kind.isWord with
      | false => exact .inr rfl
      | true => exact .inl (holds.word_eq_nil (apart sign))
    obtain ⟨next, later, added, -⟩ := scanner.scanFrom_chars lexable closed
    refine ⟨next, ?_, ?_⟩
    · rw [scanFrom_append_of_ok read, later]
    · rw [added, List.reverse_cons, holds.offset, List.nil_append, Text.size_chars lexable]

/-- Whatever part of a text has been read, the rest is what a scanner goes on with, and what the
text has from the scanner's offset on. -/
theorem exists_scan_at {text : String} {before left : List Char}
    (parts : text.toList = before ++ left) (known : ∀ c ∈ before, Token.InAlphabet c) :
    ∃ scanner : Scanner, start.scanFrom text.toList = scanner.scanFrom left ∧
      Text.cut? scanner.offset text.toList = some (before, left) := by
  obtain ⟨scanner, read⟩ := exists_scanFrom_iff.2 known
  have holds := holds_of_scanFrom start_holds read
  rw [List.nil_append] at holds
  refine ⟨scanner, ?_, ?_⟩
  · rw [parts, scanFrom_append_of_ok read]
  · rw [parts, holds.cut? left]

end Scanner

/-- A text is divided into the tokens of its scan, and into no others. -/
theorem tokenize_eq_ok_iff_divided {text : String} {scan : Scan} :
    tokenize text = .ok scan ↔
      Divided text.toList scan.tokens ∧ scan.stop = Text.size text.toList := by
  rw [tokenize_eq_ok_iff]
  constructor
  · rintro ⟨scanner, read, rfl⟩
    have holds := Scanner.holds_of_scanFrom Scanner.start_holds read
    exact ⟨holds.divided, holds.offset⟩
  · rintro ⟨divided, stop⟩
    obtain ⟨scanner, read, tokens⟩ := Scanner.exists_scanFrom_of_divided divided
    have holds := Scanner.holds_of_scanFrom Scanner.start_holds read
    refine ⟨scanner, read, ?_⟩
    rw [tokens, holds.offset]
    exact congrArg (Scan.mk scan.tokens) stop

end RoleAlgebra
