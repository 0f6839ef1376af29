import RoleAlgebra.Proofs.Formula.Moved
import RoleAlgebra.Proofs.Parser.Kinds
import RoleAlgebra.Proofs.Token.Words

/-!
White space in formulas. Between two texts any white space will do, and none is needed unless a word
would run into another (`Spaces.divided`), so a formula is read the same however it is spaced or
split into words (`reading_of_respaced`).
-/

namespace RoleAlgebra

def ParseError.moved (text : String) (n : Nat) (error : ParseError) : ParseError :=
  { error with place := error.place.moved text n }

/-- White space `w` that keeps the words of `u` and `v` apart, where that is needed. -/
structure Spaces (u w v : String) : Prop where
  blank : ∀ c ∈ w.toList, Token.IsBlank c
  apart : w ≠ "" ∨ Token.Parted u.toList v.toList

/-- Texts that differ in white space, but between no two words that would become one. -/
inductive Respaced : String → String → Prop where
  | spaces {u w w' v : String} (first : Spaces u w v) (second : Spaces u w' v) :
      Respaced (u ++ w ++ v) (u ++ w' ++ v)
  | trans {a b c : String} (first : Respaced a b) (second : Respaced b c) : Respaced a c

namespace Spaces

variable {u w v : String}

theorem parted (spaces : Spaces u w v) : Token.Parted (u.toList ++ w.toList) v.toList := by
  rcases List.eq_nil_or_concat w.toList with none | ⟨before, c, split⟩
  · rw [none, List.append_nil]
    exact spaces.apart.resolve_left fun nonempty => nonempty (String.toList_eq_nil_iff.1 none)
  · have blank := Token.isSpace_iff.2 (spaces.blank c (by simp [split]))
    have other : ¬ Token.IsNameChar c := by
      rw [← Token.isWordChar_iff, Token.isWordChar_of_isSpace blank]
      exact Bool.false_ne_true
    rw [split, List.concat_eq_append, ← List.append_assoc]
    exact Token.parted_concat other _ _

theorem divided (spaces : Spaces u w v) {tokens tokens' : List Token}
    (first : Divided u.toList tokens) (second : Divided v.toList tokens') :
    Divided (u ++ w ++ v).toList (tokens ++ tokens'.map (·.moved (u ++ w).utf8ByteSize)) := by
  have whole := (first.blanks spaces.blank).append second spaces.parted
  rw [← String.toList_append, ← String.toList_append, Text.size_toList] at whole
  exact whole

theorem tokenized (spaces : Spaces u w v) {scan scan' : Scan} (first : tokenize u = .ok scan)
    (second : tokenize v = .ok scan') :
    tokenize (u ++ w ++ v) = .ok ⟨scan.tokens ++ scan'.tokens.map (·.moved (u ++ w).utf8ByteSize),
      (u ++ w ++ v).utf8ByteSize⟩ :=
  tokenize_eq_ok_iff_divided.2
    ⟨spaces.divided (divided_of_tokenize first) (divided_of_tokenize second),
      (Text.size_toList _).symm⟩

end Spaces

/-- A part of a text that is refused on its own is refused there, if what comes before it is not. -/
theorem tokenize_of_refused {text part : String} {front back : List Char} {error : ParseError}
    (parts : text.toList = front ++ part.toList ++ back)
    (known : ∀ c ∈ front, Token.InAlphabet c) (refused : tokenize part = .error error) :
    tokenize text = .error (error.moved text (Text.size front)) := by
  obtain ⟨before, c, after, inside, knownBefore, unknown, rfl, -⟩ := tokenize_error refused
  have whole : text.toList = (front ++ before) ++ c :: (after ++ back) := by
    rw [parts, inside]
    simp
  have knownAll := List.forall_mem_append.2 ⟨known, knownBefore⟩
  rw [tokenize_of_unknown whole knownAll unknown, Text.size_append, Nat.add_comm]
  rfl

namespace Formula

theorem reading_of_refused {text part : String} {front back : List Char} {error : ParseError}
    (parts : text.toList = front ++ part.toList ++ back)
    (known : ∀ c ∈ front, Token.InAlphabet c) (refused : tokenize part = .error error) :
    reading text = .error error.cause := by
  rw [reading, parse, tokenize_of_refused parts known refused]
  rfl

theorem reading_of_spaces {u w w' v : String} (first : Spaces u w v) (second : Spaces u w' v) :
    reading (u ++ w ++ v) = reading (u ++ w' ++ v) := by
  cases left : tokenize u with
  | error error =>
    have same : ∀ white, reading (u ++ white ++ v) = .error error.cause := by
      intro white
      have parts : (u ++ white ++ v).toList = [] ++ u.toList ++ (white.toList ++ v.toList) := by
        simp
      exact reading_of_refused parts (by simp) left
    rw [same, same]
  | ok scan =>
    cases right : tokenize v with
    | error error =>
      have same : ∀ white, Spaces u white v → reading (u ++ white ++ v) = .error error.cause := by
        intro white spaces
        have known : ∀ c ∈ u.toList ++ white.toList, Token.InAlphabet c := by
          refine List.forall_mem_append.2 ⟨exists_tokenize_iff.1 ⟨scan, left⟩, ?_⟩
          exact fun c member => .inl (spaces.blank c member)
        have parts : (u ++ white ++ v).toList = (u.toList ++ white.toList) ++ v.toList ++ [] := by
          simp
        exact reading_of_refused parts known right
      rw [same w first, same w' second]
    | ok scan' =>
      refine reading_of_kinds (first.tokenized left right) (second.tokenized left right) ?_
      simp [Scan.kinds]

theorem reading_of_respaced {text other : String} (respaced : Respaced text other) :
    reading text = reading other := by
  induction respaced with
  | spaces first second => exact reading_of_spaces first second
  | trans first second firstIh secondIh => exact firstIh.trans secondIh

end Formula

section Words

variable {words : List String}

theorem tokenize_words_iff :
    (∃ scan, tokenize (" ".intercalate words) = .ok scan) ↔
      ∀ word ∈ words, ∃ scan, tokenize word = .ok scan := by
  have space : Token.InAlphabet ' ' := .inl (.inl rfl)
  rw [exists_tokenize_iff, forall_mem_intercalate space]
  simp only [exists_tokenize_iff]

theorem tokenize_words (known : ∀ word ∈ words, ∃ scan, tokenize word = .ok scan) :
    tokenize (" ".intercalate words) =
      .ok ⟨movedTokens (placedWords 0 words), (" ".intercalate words).utf8ByteSize⟩ := by
  have divided := Divided.nil.words known fun after => by simp [Token.Parted]
  exact tokenize_eq_ok_iff_divided.2 ⟨divided, (Text.size_toList _).symm⟩

theorem tokenize_words_error {start : Nat} {word : String} {before after : List (Nat × String)}
    {error : ParseError} (split : placedWords 0 words = before ++ (start, word) :: after)
    (known : ∀ earlier ∈ before, ∃ scan, tokenize earlier.2 = .ok scan)
    (refused : tokenize word = .error error) :
    tokenize (" ".intercalate words) = .error (error.moved (" ".intercalate words) start) := by
  obtain ⟨front, back, parts, place, inside⟩ := exists_of_placedWords split
  have knownFront : ∀ c ∈ front, Token.InAlphabet c := by
    intro c member
    rcases inside c member with rfl | ⟨earlier, among, own⟩
    · exact .inl (.inl rfl)
    · exact exists_tokenize_iff.1 (known earlier among) c own
  rw [tokenize_of_refused parts knownFront refused, place, Nat.zero_add]

end Words

theorem slice?_placedWords (words : List String) :
    ∀ placed ∈ placedWords 0 words, Text.slice? (" ".intercalate words) placed.1
      (placed.1 + placed.2.utf8ByteSize) = some placed.2 := by
  intro placed member
  obtain ⟨before, after, split⟩ := List.append_of_mem member
  obtain ⟨front, back, parts, place, -⟩ := exists_of_placedWords split
  have inside : Text.Part (" ".intercalate words).toList placed.1
      (placed.1 + placed.2.utf8ByteSize) placed.2.toList := by
    refine ⟨front, back, parts, by omega, ?_⟩
    rw [place, Text.size_toList, Nat.zero_add]
  rw [inside.slice?, String.ofList_toList]

/-- White space and the way a formula is split into words do not matter. The formula of a command
line has the tokens of its words, moved with them, and is refused as the first of its words that is
refused; white space between two texts leaves the tokens of both; and texts that have the same
tokens, or differ in white space, are read as the same tree or fail for the same cause. -/
theorem formula_spacing_insignificant :
    (∀ settings : CommandLine.Settings,
      (∀ placed ∈ placedWords 0 settings.words, Text.slice? settings.formula placed.1
        (placed.1 + placed.2.utf8ByteSize) = some placed.2) ∧
      ((∃ scan, tokenize settings.formula = .ok scan) ↔
        ∀ word ∈ settings.words, ∃ scan, tokenize word = .ok scan) ∧
      (∀ scan, tokenize settings.formula = .ok scan →
        scan.tokens = movedTokens (placedWords 0 settings.words) ∧
        scan.kinds = (settings.words.flatMap fun word => (tokensOf word).map (·.kind)) ∧
        scan.stop = settings.formula.utf8ByteSize) ∧
      ∀ before start word after error,
        placedWords 0 settings.words = before ++ (start, word) :: after →
        (∀ earlier ∈ before, ∃ scan, tokenize earlier.2 = .ok scan) →
        tokenize word = .error error →
        tokenize settings.formula = .error (error.moved settings.formula start)) ∧
    (∀ u w v : String, Spaces u w v → ∀ scan scan', tokenize u = .ok scan →
      tokenize v = .ok scan' → ∃ whole, tokenize (u ++ w ++ v) = .ok whole ∧
        whole.kinds = scan.kinds ++ scan'.kinds ∧ whole.stop = (u ++ w ++ v).utf8ByteSize) ∧
    (∀ text other scan scan', tokenize text = .ok scan → tokenize other = .ok scan' →
      scan.kinds = scan'.kinds → Formula.reading text = Formula.reading other) ∧
    ∀ text other, Respaced text other → Formula.reading text = Formula.reading other := by
  refine ⟨?_, ?_, ?_, fun text other => Formula.reading_of_respaced⟩
  · intro settings
    refine ⟨slice?_placedWords settings.words, tokenize_words_iff, ?_, ?_⟩
    · intro scan tokenized
      have known := tokenize_words_iff.1 ⟨scan, tokenized⟩
      obtain rfl := Except.ok.inj ((tokenize_words known).symm.trans tokenized)
      exact ⟨rfl, kinds_movedTokens 0 settings.words, rfl⟩
    · intro before start word after error
      exact tokenize_words_error
  · intro u w v spaces scan scan' first second
    refine ⟨_, spaces.tokenized first second, ?_, rfl⟩
    simp [Scan.kinds]
  · intro text other scan scan' tokenized tokenized'
    exact Formula.reading_of_kinds tokenized tokenized'

theorem formula_spacing_insignificant_mixed :
    let good : CommandLine.Settings := ⟨false, true, .json, "gcloud", ["(a", "", "- @", "b/c)"]⟩
    let bad : CommandLine.Settings := ⟨false, true, .json, "gcloud", ["x-", "\t", "yß", "é"]⟩
    (∃ scan, tokenize good.formula = .ok scan ∧
      scan.tokens = [⟨.opening, 0, 1⟩, ⟨.word "a", 1, 1⟩, ⟨.op .diff, 4, 1⟩, ⟨.at, 6, 1⟩,
        ⟨.word "b/c", 8, 3⟩, ⟨.closing, 11, 1⟩]) ∧
    tokenize bad.formula = .error ⟨.unrecognized 'ß', bad.formula, 6, 2⟩ ∧
    (∃ whole, tokenize ("ab" ++ "\n" ++ "c)") = .ok whole ∧
      whole.kinds = [.word "ab", .word "c", .closing]) ∧
    Formula.reading "(a b" = Formula.reading "( a\tb" := by
  intro good bad
  obtain ⟨words, spaced, -, respaced⟩ := formula_spacing_insignificant
  refine ⟨?_, ?_, ?_, ?_⟩
  · have known : ∀ word ∈ good.words, ∃ scan, tokenize word = .ok scan := by
      refine List.forall_mem_cons.2 ⟨⟨_, rfl⟩, List.forall_mem_cons.2 ⟨⟨_, rfl⟩, ?_⟩⟩
      exact List.forall_mem_cons.2 ⟨⟨_, rfl⟩, List.forall_mem_singleton.2 ⟨_, rfl⟩⟩
    obtain ⟨-, iff, all, -⟩ := words good
    obtain ⟨scan, tokenized⟩ := iff.2 known
    exact ⟨scan, tokenized, (all scan tokenized).1⟩
  · refine (words bad).2.2.2 [(0, "x-"), (3, "\t")] 5 "yß" [(9, "é")] _ rfl ?_ rfl
    exact List.forall_mem_cons.2 ⟨⟨_, rfl⟩, List.forall_mem_singleton.2 ⟨_, rfl⟩⟩
  · have spaces : Spaces "ab" "\n" "c)" := ⟨by simp [Token.IsBlank], .inl (by decide)⟩
    obtain ⟨whole, tokenized, kinds, -⟩ := spaced _ _ _ spaces _ _ rfl rfl
    exact ⟨whole, tokenized, kinds⟩
  · refine respaced _ _ ?_
    have space : ∀ c ∈ " ".toList, Token.IsBlank c := by simp [Token.IsBlank]
    have tab : ∀ c ∈ "\t".toList, Token.IsBlank c := by simp [Token.IsBlank]
    have parted : Token.Parted "(".toList "a b".toList := Token.parted_concat (by decide) [] _
    have first : Respaced ("(" ++ "" ++ "a b") ("(" ++ " " ++ "a b") :=
      .spaces ⟨by simp, .inr parted⟩ ⟨space, .inl (by decide)⟩
    have second : Respaced ("( a" ++ " " ++ "b") ("( a" ++ "\t" ++ "b") :=
      .spaces ⟨space, .inl (by decide)⟩ ⟨tab, .inl (by decide)⟩
    exact .trans first second

end RoleAlgebra
