import RoleAlgebra.Proofs.Token.Spans

namespace RoleAlgebra

/-- Whether characters after a token leave it as it is: only a word can be lengthened. -/
def Token.Ends (token : Token) (rest : List Char) : Prop :=
  token.kind.isWord = true → ∀ c ∈ rest.head?, ¬ Token.IsNameChar c

namespace Token

theorem Ends.append {token : Token} {rest : List Char} (ends : token.Ends rest)
    {more : List Char} (next : rest = [] → token.Ends more) : token.Ends (rest ++ more) := by
  cases rest with
  | nil => exact next rfl
  | cons c rest => exact ends

theorem ends_blank (token : Token) {c : Char} (blank : isSpace c = true) : token.Ends [c] := by
  intro _ d head name
  obtain rfl : c = d := by simpa using head
  rw [isSpace_of_isWordChar (isWordChar_iff.2 name)] at blank
  cases blank

end Token

theorem Divided.upTo {cs : List Char} {tokens first later : List Token} {token : Token}
    (divided : Divided cs tokens) (split : tokens = first ++ token :: later) :
    ∃ head rest, cs = head ++ rest ∧ Text.size head = token.stop ∧
      Divided head (first ++ [token]) ∧ token.Ends rest := by
  induction divided generalizing later with
  | nil => simp at split
  | @space read tokens c before blank ih =>
    obtain ⟨head, rest, rfl, bytes, start, ends⟩ := ih split
    refine ⟨head, rest ++ [c], by simp, bytes, start, ends.append fun _ => ?_⟩
    exact token.ends_blank blank
  | @token read tokens kind before lexable apart ih =>
    rcases List.eq_nil_or_concat later with rfl | ⟨later, last, rfl⟩
    · -- the token is the last one
      obtain ⟨rfl, same⟩ := List.append_inj' split rfl
      obtain rfl := (List.cons.inj same).1
      refine ⟨read ++ kind.chars, [], by simp, Text.size_append _ _, ?_, fun _ => by simp⟩
      exact .token before lexable apart
    · rw [List.concat_eq_append, ← List.cons_append, ← List.append_assoc] at split
      obtain ⟨older, -⟩ := List.append_inj' split rfl
      obtain ⟨head, rest, rfl, bytes, start, ends⟩ := ih older
      refine ⟨head, rest ++ kind.chars, by simp, bytes, start, ends.append fun touch => ?_⟩
      subst touch
      intro word c inside name
      rw [List.append_nil] at apart
      have part := Token.isWordChar_iff.2 name
      cases sign : kind.isWord with
      | false =>
        obtain ⟨d, written, -, noWord, -⟩ := Token.sign?_of_chars sign
        obtain rfl : d = c := by simpa [written] using inside
        rw [part] at noWord
        cases noWord
      | true =>
        -- a word after a word: the second could not have begun here
        obtain ⟨d, last, wordLast⟩ := start.getLast?_of_stop token (by simp) bytes.symm
        rw [word, apart sign d last] at wordLast
        cases wordLast

namespace Scanner

theorem found_suffix_tokens (scanner : Scanner) : scanner.found <:+ scanner.tokens := by
  rw [tokens]
  split
  next => exact List.suffix_refl _
  next => exact List.suffix_cons _ _

theorem Takes.found_suffix {scanner next : Scanner} {c : Char} (takes : Takes scanner c next) :
    scanner.found <:+ next.found := by
  cases takes with
  | word part => exact List.suffix_refl _
  | space blank => exact scanner.found_suffix_tokens
  | sign solid alone => exact scanner.found_suffix_tokens.trans (List.suffix_cons _ _)

theorem found_suffix_of_scanFrom {scanner last : Scanner} {cs : List Char}
    (scanned : scanner.scanFrom cs = .ok last) : scanner.found <:+ last.found := by
  induction cs generalizing scanner with
  | nil =>
    cases scanned
    exact List.suffix_refl _
  | cons c cs ih =>
    obtain ⟨next, takes, later⟩ := takes_of_scanFrom_cons scanned
    exact takes.found_suffix.trans (ih later)

/-- A scanner keeps its tokens, the open word among them, if what follows is no part of a word. -/
theorem tokens_suffix {scanner last : Scanner} {cs : List Char}
    (scanned : scanner.scanFrom cs = .ok last)
    (apart : scanner.word = [] ∨ ∀ c ∈ cs.head?, ¬ Token.IsNameChar c) :
    scanner.tokens <:+ last.tokens := by
  rcases apart with closed | apart
  · have none : scanner.tokens = scanner.found := by simp [tokens, closed]
    rw [none]
    exact (found_suffix_of_scanFrom scanned).trans last.found_suffix_tokens
  · cases cs with
    | nil =>
      cases scanned
      exact List.suffix_refl _
    | cons c cs =>
      obtain ⟨next, takes, later⟩ := takes_of_scanFrom_cons scanned
      have kept : scanner.tokens <:+ next.found := by
        cases takes with
        | word part => exact absurd (Token.isWordChar_iff.1 part) (apart c rfl)
        | space blank => exact List.suffix_refl _
        | sign solid alone => exact List.suffix_cons _ _
      have rest := (found_suffix_of_scanFrom later).trans last.found_suffix_tokens
      exact kept.trans rest

end Scanner

theorem Divided.tokenize_append {head suffix : List Char} {first : List Token} {token : Token}
    (start : Divided head (first ++ [token])) (bytes : Text.size head = token.stop)
    (known : ∀ c ∈ suffix, Token.InAlphabet c) (ends : token.Ends suffix) {text : String}
    (parts : text.toList = head ++ suffix) :
    ∃ later stop, tokenize text = .ok ⟨first ++ token :: later, stop⟩ := by
  obtain ⟨scanner, read, tokens⟩ := Scanner.exists_scanFrom_of_divided start
  obtain ⟨last, readLater⟩ : ∃ last, scanner.scanFrom suffix = .ok last :=
    Scanner.exists_scanFrom_iff.2 known
  have apart : scanner.word = [] ∨ ∀ c ∈ suffix.head?, ¬ Token.IsNameChar c := by
    obtain ⟨c, final, word⟩ := start.getLast?_of_stop token (by simp) bytes.symm
    cases sign : token.kind.isWord with
    | true => exact .inr (ends sign)
    | false =>
      refine .inl ((Scanner.holds_of_scanFrom Scanner.start_holds read).word_eq_nil ?_)
      intro d same
      obtain rfl : c = d := by simpa [final] using same
      rw [word, sign]
  obtain ⟨newer, kept⟩ := Scanner.tokens_suffix readLater apart
  refine ⟨newer.reverse, last.offset, tokenize_eq_ok_iff.2 ⟨last, ?_, ?_⟩⟩
  · rw [parts, Scanner.scanFrom_append_of_ok read, readLater]
  · rw [← kept, List.reverse_append, tokens]
    simp

/-- The tokens up to a given one depend on nothing after it, except that it must end there. -/
theorem tokenize_of_same_start {text : String} {scan : Scan} {first later : List Token}
    {token : Token} (tokenized : tokenize text = .ok scan)
    (split : scan.tokens = first ++ token :: later) :
    ∃ head rest, text.toList = head ++ rest ∧ Text.size head = token.stop ∧ token.Ends rest ∧
      ∀ (other : String) (suffix : List Char), other.toList = head ++ suffix →
        (∀ c ∈ suffix, Token.InAlphabet c) → token.Ends suffix →
        ∃ later stop, tokenize other = .ok ⟨first ++ token :: later, stop⟩ := by
  obtain ⟨head, rest, parts, bytes, start, ends⟩ := (divided_of_tokenize tokenized).upTo split
  refine ⟨head, rest, parts, bytes, ends, ?_⟩
  intro other suffix otherParts known otherEnds
  exact start.tokenize_append bytes known otherEnds otherParts

end RoleAlgebra
