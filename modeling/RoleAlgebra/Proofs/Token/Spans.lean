import RoleAlgebra.Parser.State
import RoleAlgebra.Proofs.Text.Part
import RoleAlgebra.Proofs.Token.Layout

namespace RoleAlgebra

namespace Divided

variable {cs : List Char} {tokens : List Token}

theorem part (divided : Divided cs tokens) :
    ∀ token ∈ tokens, Text.Part cs token.start token.stop token.kind.chars := by
  induction divided with
  | nil => simp
  | @space read tokens c before blank ih =>
    intro token member
    exact (ih token member).append [c]
  | @token read tokens kind before lexable apart ih =>
    intro token member
    rcases List.mem_append.1 member with older | newest
    · exact (ih token older).append kind.chars
    · obtain rfl := List.mem_singleton.1 newest
      exact Text.part_last read kind.chars

theorem lexable (divided : Divided cs tokens) : ∀ token ∈ tokens, token.kind.Lexable := by
  induction divided with
  | nil => simp
  | space before blank ih => exact ih
  | token before lexable apart ih =>
    intro token member
    rcases List.mem_append.1 member with older | newest
    · exact ih token older
    · obtain rfl := List.mem_singleton.1 newest
      exact lexable

theorem start_lt_stop (divided : Divided cs tokens) :
    ∀ token ∈ tokens, token.start < token.stop := by
  intro token member
  obtain ⟨before, after, -, -, stops⟩ := divided.part token member
  have nonempty := Token.Kind.chars_ne_nil (divided.lexable token member)
  have positive : Text.size token.kind.chars ≠ 0 := fun none =>
    nonempty (Text.size_eq_zero_iff.1 none)
  omega

theorem stop_le (divided : Divided cs tokens) : ∀ token ∈ tokens, token.stop ≤ Text.size cs := by
  intro token member
  obtain ⟨before, after, rfl, starts, stops⟩ := divided.part token member
  simp only [Text.size_append]
  omega

theorem getLast?_of_stop (divided : Divided cs tokens) :
    ∀ token ∈ tokens, token.stop = Text.size cs →
      ∃ c, cs.getLast? = some c ∧ Token.isWordChar c = token.kind.isWord := by
  intro token member ends
  obtain ⟨before, after, rfl, starts, stops⟩ := divided.part token member
  have none : after = [] := by
    simp only [Text.size_append] at ends
    exact Text.size_eq_zero_iff.1 (by omega)
  obtain ⟨c, last, word⟩ := Token.Kind.getLast?_chars (divided.lexable token member)
  refine ⟨c, ?_, word⟩
  rw [none, List.append_nil, List.getLast?_append, last]
  rfl

theorem ordered (divided : Divided cs tokens) :
    tokens.Pairwise fun first second => first.stop ≤ second.start := by
  induction divided with
  | nil => exact .nil
  | space before blank ih => exact ih
  | token before lexable apart ih =>
    refine List.pairwise_append.2 ⟨ih, List.pairwise_singleton _ _, ?_⟩
    intro first older second newest
    obtain rfl := List.mem_singleton.1 newest
    exact before.stop_le first older

theorem words_apart (divided : Divided cs tokens) :
    tokens.Pairwise fun first second =>
      first.kind.isWord = true → second.kind.isWord = true → first.stop < second.start := by
  induction divided with
  | nil => exact .nil
  | space before blank ih => exact ih
  | @token read tokens kind before lexable apart ih =>
    refine List.pairwise_append.2 ⟨ih, List.pairwise_singleton _ _, ?_⟩
    intro first older second newest firstWord secondWord
    obtain rfl := List.mem_singleton.1 newest
    refine Nat.lt_of_le_of_ne (before.stop_le first older) ?_
    intro touch
    -- with nothing between them, the second would have begun right after a word character
    obtain ⟨c, last, word⟩ := before.getLast?_of_stop first older touch
    rw [firstWord, apart secondWord c last] at word
    cases word

end Divided

/-- The stretches that tokens leave uncovered from byte `start` on: before the first of them,
between two, and after the last. -/
def Token.gaps (start : Nat) : List Token → Nat → List (Nat × Nat)
  | [], stop => [(start, stop)]
  | token :: later, stop => (start, token.start) :: gaps token.stop later stop

theorem Token.gaps_append (start : Nat) (tokens : List Token) (token : Token) (stop : Nat) :
    gaps start (tokens ++ [token]) stop =
      gaps start tokens token.start ++ [(token.stop, stop)] := by
  induction tokens generalizing start with
  | nil => rfl
  | cons first tokens ih => simp [gaps, ih]

theorem Token.gaps_stop (start : Nat) (tokens : List Token) :
    ∃ earlier last, ∀ stop, gaps start tokens stop = earlier ++ [(last, stop)] := by
  induction tokens generalizing start with
  | nil => exact ⟨[], start, fun stop => rfl⟩
  | cons token tokens ih =>
    obtain ⟨earlier, last, same⟩ := ih token.stop
    exact ⟨(start, token.start) :: earlier, last, fun stop => by rw [gaps, same]; rfl⟩

theorem Divided.gaps {cs : List Char} {tokens : List Token} (divided : Divided cs tokens) :
    ∀ gap ∈ Token.gaps 0 tokens (Text.size cs), ∃ blanks, Text.Part cs gap.1 gap.2 blanks ∧
      ∀ c ∈ blanks, Token.IsBlank c := by
  induction divided with
  | nil =>
    intro gap member
    obtain rfl := List.mem_singleton.1 member
    exact ⟨[], Text.part_end [], by simp⟩
  | @space read tokens c before blank ih =>
    obtain ⟨earlier, last, same⟩ := Token.gaps_stop 0 tokens
    rw [same] at ih ⊢
    intro gap member
    rcases List.mem_append.1 member with older | newest
    · obtain ⟨blanks, inside, all⟩ := ih gap (List.mem_append_left _ older)
      exact ⟨blanks, inside.append [c], all⟩
    · obtain rfl := List.mem_singleton.1 newest
      obtain ⟨blanks, inside, all⟩ := ih (last, Text.size read) (by simp)
      refine ⟨blanks ++ [c], inside.extend [c], ?_⟩
      exact List.forall_mem_append.2 ⟨all, by simpa using Token.isSpace_iff.1 blank⟩
  | @token read tokens kind before lexable apart ih =>
    rw [Token.gaps_append]
    intro gap member
    rcases List.mem_append.1 member with older | newest
    · obtain ⟨blanks, inside, all⟩ := ih gap older
      exact ⟨blanks, inside.append kind.chars, all⟩
    · obtain rfl := List.mem_singleton.1 newest
      refine ⟨[], ?_, by simp⟩
      rw [Token.stop, ← Text.size_append]
      exact Text.part_end _

def Scan.spans (scan : Scan) : List (Nat × Nat) :=
  scan.tokens.map (fun token => (token.start, token.stop)) ++ [(scan.stop, scan.stop)]

section Success

variable {text : String} {scan : Scan} (tokenized : tokenize text = .ok scan)
include tokenized

theorem divided_of_tokenize : Divided text.toList scan.tokens :=
  (tokenize_eq_ok_iff_divided.1 tokenized).1

theorem stop_of_tokenize : scan.stop = text.utf8ByteSize := by
  rw [(tokenize_eq_ok_iff_divided.1 tokenized).2, Text.size_toList]

theorem spans_ordered : scan.spans.Pairwise fun first second => first.2 ≤ second.1 := by
  have divided := divided_of_tokenize tokenized
  refine List.pairwise_append.2
    ⟨List.pairwise_map.2 divided.ordered, List.pairwise_singleton _ _, ?_⟩
  intro first older last ending
  obtain rfl := List.mem_singleton.1 ending
  obtain ⟨token, member, rfl⟩ := List.mem_map.1 older
  have bound := divided.stop_le token member
  rw [Text.size_toList, ← stop_of_tokenize tokenized] at bound
  exact bound

theorem gaps_blank : ∀ gap ∈ Token.gaps 0 scan.tokens scan.stop, ∃ blanks,
    Text.slice? text gap.1 gap.2 = some blanks ∧ ∀ c ∈ blanks.toList, Token.IsBlank c := by
  intro gap member
  rw [stop_of_tokenize tokenized, ← Text.size_toList] at member
  obtain ⟨blanks, inside, all⟩ := (divided_of_tokenize tokenized).gaps gap member
  exact ⟨String.ofList blanks, inside.slice?, by simpa using all⟩

theorem snippet?_place :
    ∀ token ∈ scan.tokens, (Parser.place text token).snippet? = some token.kind.shown := by
  intro token member
  have divided := divided_of_tokenize tokenized
  have forward := Nat.le_of_lt (divided.start_lt_stop token member)
  have inside := (divided.part token member).slice?
  rw [Location.snippet?, Parser.place, Location.text_between, Location.start_between,
    Location.stop_between, Nat.max_eq_right forward, inside]
  rfl

end Success

theorem exists_tokenize_iff {text : String} :
    (∃ scan, tokenize text = .ok scan) ↔ ∀ c ∈ text.toList, Token.InAlphabet c := by
  rw [← Scanner.exists_scanFrom_iff]
  constructor
  · rintro ⟨scan, tokenized⟩
    obtain ⟨scanner, read, -⟩ := tokenize_eq_ok_iff.1 tokenized
    exact ⟨scanner, read⟩
  · rintro ⟨scanner, read⟩
    exact ⟨_, tokenize_eq_ok_iff.2 ⟨scanner, read, rfl⟩⟩

theorem tokenize_error {text : String} {error : ParseError}
    (failed : tokenize text = .error error) :
    ∃ before c after, text.toList = before ++ c :: after ∧
      (∀ d ∈ before, Token.InAlphabet d) ∧ ¬ Token.InAlphabet c ∧
      error = ⟨.unrecognized c, text, Text.size before, c.utf8Size⟩ ∧
      error.place.snippet? = some c.toString := by
  rw [tokenize] at failed
  cases scanned : Scanner.start.scanFrom text.toList with
  | ok scanner => simp [scanned] at failed
  | error stopped =>
    obtain ⟨offset, c⟩ := stopped
    obtain ⟨before, after, parts, known, unknown, place⟩ := Scanner.scanFrom_error scanned
    have starts : offset = Text.size before := by simpa [Scanner.start] using place
    have refused : error = ⟨.unrecognized c, text, Text.size before, c.utf8Size⟩ := by
      simp only [scanned, Except.error.injEq] at failed
      rw [← failed, starts, Location.between, Nat.add_sub_cancel_left]
    have inside : Text.Part text.toList (Text.size before) (Text.size before + c.utf8Size) [c] :=
      ⟨before, after, by simp [parts], rfl, by simp⟩
    refine ⟨before, c, after, parts, known, unknown, refused, ?_⟩
    rw [refused]
    exact inside.slice?

/-- Tokens and blanks are all of a text, and a text is refused only for a character that is neither:
the first such, whatever comes before it. -/
theorem tokenize_lossless (text : String) :
    ((∃ scan, tokenize text = .ok scan) ↔ ∀ c ∈ text.toList, Token.InAlphabet c) ∧
    (∀ scan, tokenize text = .ok scan →
      scan.spans.Pairwise (fun first second => first.2 ≤ second.1) ∧
      (∀ token ∈ scan.tokens, token.start < token.stop) ∧
      (∀ gap ∈ Token.gaps 0 scan.tokens scan.stop, ∃ blanks,
        Text.slice? text gap.1 gap.2 = some blanks ∧ ∀ c ∈ blanks.toList, Token.IsBlank c) ∧
      (∀ token ∈ scan.tokens, (Parser.place text token).snippet? = some token.kind.shown) ∧
      scan.tokens.Pairwise (fun first second =>
        first.kind.isWord = true → second.kind.isWord = true → first.stop < second.start) ∧
      scan.stop = text.utf8ByteSize) ∧
    ∀ error, tokenize text = .error error → ∃ before c after,
      text.toList = before ++ c :: after ∧ (∀ d ∈ before, Token.InAlphabet d) ∧
      ¬ Token.InAlphabet c ∧ error = ⟨.unrecognized c, text, Text.size before, c.utf8Size⟩ ∧
      error.place.snippet? = some c.toString ∧ Formula.parse text = .error error := by
  refine ⟨exists_tokenize_iff, ?_, ?_⟩
  · intro scan tokenized
    have divided := divided_of_tokenize tokenized
    exact ⟨spans_ordered tokenized, divided.start_lt_stop, gaps_blank tokenized,
      snippet?_place tokenized, divided.words_apart, stop_of_tokenize tokenized⟩
  · intro error failed
    obtain ⟨before, c, after, parts, known, unknown, refused, snippet⟩ := tokenize_error failed
    refine ⟨before, c, after, parts, known, unknown, refused, snippet, ?_⟩
    rw [Formula.parse, failed]
    rfl

theorem tokenize_lossless_accented :
    (∃ scan, tokenize " a-\t@b.c\n" = .ok scan ∧
      scan.spans = [(1, 2), (2, 3), (4, 5), (5, 8), (9, 9)] ∧
      scan.spans.Pairwise (fun first second => first.2 ≤ second.1)) ∧
    ∃ error, tokenize ")(rôle" = .error error ∧ error.place.snippet? = some "ô" ∧
      Formula.parse ")(rôle" = .error error := by
  constructor
  · have tokenized : tokenize " a-\t@b.c\n" = .ok ⟨[⟨.word "a", 1, 1⟩, ⟨.op .diff, 2, 1⟩,
      ⟨.at, 4, 1⟩, ⟨.word "b.c", 5, 3⟩], 9⟩ := rfl
    exact ⟨_, tokenized, rfl, ((tokenize_lossless _).2.1 _ tokenized).1⟩
  · have failed : tokenize ")(rôle" = .error ⟨.unrecognized 'ô', ")(rôle", 3, 2⟩ := rfl
    obtain ⟨before, c, after, -, -, -, refused, snippet, parsed⟩ :=
      (tokenize_lossless _).2.2 _ failed
    have same : c = 'ô' := by simpa using (congrArg ParseError.cause refused).symm
    rw [same] at snippet
    exact ⟨_, failed, snippet, parsed⟩

end RoleAlgebra
