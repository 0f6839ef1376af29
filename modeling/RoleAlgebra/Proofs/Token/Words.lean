import RoleAlgebra.CommandLine.Settings
import RoleAlgebra.Proofs.Token.Moved
import RoleAlgebra.Proofs.Token.Spans

namespace RoleAlgebra

def tokensOf (text : String) : List Token :=
  match tokenize text with
  | .ok scan => scan.tokens
  | .error _ => []

theorem tokensOf_of_ok {text : String} {scan : Scan} (tokenized : tokenize text = .ok scan) :
    tokensOf text = scan.tokens := by
  rw [tokensOf, tokenized]

/-- Words with the bytes that they begin at, the first at byte `start`, when they are joined with
single spaces. -/
def placedWords (start : Nat) : List String → List (Nat × String)
  | [] => []
  | word :: later => (start, word) :: placedWords (start + word.utf8ByteSize + 1) later

def movedTokens (placed : List (Nat × String)) : List Token :=
  placed.flatMap fun (start, word) => (tokensOf word).map (·.moved start)

theorem kinds_movedTokens (start : Nat) (words : List String) :
    (movedTokens (placedWords start words)).map (·.kind) =
      words.flatMap fun word => (tokensOf word).map (·.kind) := by
  induction words generalizing start with
  | nil => rfl
  | cons word later ih =>
    rw [placedWords, movedTokens, List.flatMap_cons, List.map_append, ← movedTokens, ih,
      List.flatMap_cons, List.map_map]
    rfl

theorem forall_mem_intercalate {P : Char → Prop} (space : P ' ') (words : List String) :
    (∀ c ∈ (" ".intercalate words).toList, P c) ↔ ∀ word ∈ words, ∀ c ∈ word.toList, P c := by
  induction words with
  | nil => simp
  | cons word later ih =>
    cases later with
    | nil => simp
    | cons next later =>
      rw [String.intercalate_cons_cons, List.forall_mem_cons, ← ih]
      simp only [String.toList_append, List.forall_mem_append]
      simp [space]

theorem Divided.words {cs : List Char} {tokens : List Token} (divided : Divided cs tokens)
    {words : List String} (known : ∀ word ∈ words, ∃ scan, tokenize word = .ok scan)
    (parted : ∀ after, Token.Parted cs after) :
    Divided (cs ++ (" ".intercalate words).toList)
      (tokens ++ movedTokens (placedWords (Text.size cs) words)) := by
  induction words generalizing cs tokens with
  | nil => simpa [placedWords, movedTokens] using divided
  | cons word later ih =>
    obtain ⟨⟨scan, tokenized⟩, knownLater⟩ := List.forall_mem_cons.1 known
    have first := divided.append (divided_of_tokenize tokenized) (parted _)
    rw [← tokensOf_of_ok tokenized] at first
    cases later with
    | nil => simpa [placedWords, movedTokens] using first
    | cons next later =>
      have rest := ih (first.space (c := ' ') rfl) knownLater (Token.parted_concat (by decide) _)
      have start : Text.size (cs ++ word.toList ++ [' ']) =
          Text.size cs + word.utf8ByteSize + 1 := by
        rw [Text.size_append, Text.size_append, Text.size_toList]
        rfl
      rw [start, List.append_assoc, List.append_assoc, List.append_assoc] at rest
      rw [String.intercalate_cons_cons, String.toList_append, String.toList_append, placedWords,
        movedTokens, List.flatMap_cons, List.append_assoc]
      exact rest

theorem exists_of_placedWords {start place : Nat} {words : List String} {word : String}
    {before after : List (Nat × String)}
    (split : placedWords start words = before ++ (place, word) :: after) :
    ∃ front back, (" ".intercalate words).toList = front ++ word.toList ++ back ∧
      place = start + Text.size front ∧
      ∀ c ∈ front, c = ' ' ∨ ∃ earlier ∈ before, c ∈ earlier.2.toList := by
  induction words generalizing start before with
  | nil => simp [placedWords] at split
  | cons first later ih =>
    rw [placedWords] at split
    cases before with
    | nil =>
      obtain ⟨same, -⟩ := List.cons.inj split
      obtain ⟨rfl, rfl⟩ := Prod.mk.inj same
      cases later with
      | nil => exact ⟨[], [], by simp, rfl, by simp⟩
      | cons next later =>
        refine ⟨[], ' ' :: (" ".intercalate (next :: later)).toList, ?_, rfl, by simp⟩
        rw [String.intercalate_cons_cons]
        simp
    | cons head before =>
      obtain ⟨rfl, rest⟩ := List.cons.inj split
      obtain ⟨front, back, parts, place, inside⟩ := ih rest
      cases later with
      | nil => simp [placedWords] at rest
      | cons next later =>
        refine ⟨first.toList ++ [' '] ++ front, back, ?_, ?_, ?_⟩
        · rw [String.intercalate_cons_cons, String.toList_append, parts]
          simp
        · rw [place, Text.size_append, Text.size_append, Text.size_toList]
          simp only [Text.size_cons, Text.size_nil]
          have one : ' '.utf8Size = 1 := rfl
          omega
        · intro c member
          rcases List.mem_append.1 member with head | behind
          · rcases List.mem_append.1 head with own | space
            · exact .inr ⟨_, List.mem_cons_self, own⟩
            · exact .inl (List.mem_singleton.1 space)
          · rcases inside c behind with space | ⟨earlier, among, own⟩
            · exact .inl space
            · exact .inr ⟨earlier, List.mem_cons_of_mem _ among, own⟩

theorem tokenize_of_unknown {text : String} {before after : List Char} {c : Char}
    (parts : text.toList = before ++ c :: after) (known : ∀ d ∈ before, Token.InAlphabet d)
    (unknown : ¬ Token.InAlphabet c) :
    tokenize text = .error ⟨.unrecognized c, text, Text.size before, c.utf8Size⟩ := by
  obtain ⟨scanner, read⟩ : ∃ last, Scanner.start.scanFrom before = .ok last :=
    Scanner.exists_scanFrom_iff.2 known
  have holds := Scanner.holds_of_scanFrom Scanner.start_holds read
  have stopped : Scanner.start.scanFrom text.toList = .error (Text.size before, c) := by
    rw [parts, Scanner.scanFrom_append_of_ok read, Scanner.scanFrom,
      scanner.step_of_not_inAlphabet unknown, holds.offset]
    rfl
  simp only [tokenize, stopped, Location.between, Nat.add_sub_cancel_left]

end RoleAlgebra
