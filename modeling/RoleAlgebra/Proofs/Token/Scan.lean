import Mathlib.Data.List.Chain
import RoleAlgebra.Token.Scanner

namespace RoleAlgebra

def Scan.kinds (scan : Scan) : List Token.Kind := scan.tokens.map (·.kind)

namespace Token

/-- The characters `[A-Za-z0-9_/.]`. -/
def IsNameChar (c : Char) : Prop :=
  ('A' ≤ c ∧ c ≤ 'Z') ∨ ('a' ≤ c ∧ c ≤ 'z') ∨ ('0' ≤ c ∧ c ≤ '9') ∨ c = '_' ∨ c = '/' ∨ c = '.'

instance (c : Char) : Decidable (IsNameChar c) := inferInstanceAs (Decidable (_ ∨ _))

def IsName (id : String) : Prop := id ≠ "" ∧ ∀ c ∈ id.toList, IsNameChar c

instance (id : String) : Decidable (IsName id) := inferInstanceAs (Decidable (_ ∧ _))

namespace Kind

def isWord : Kind → Bool
  | word _ => true
  | _ => false

def Lexable : Kind → Prop
  | word text => IsName text
  | _ => True

theorem lexable_of_sign {kind : Kind} (sign : kind.isWord = false) : kind.Lexable := by
  cases kind with
  | word text => cases sign
  | op | opening | closing | «at» => trivial

theorem exists_word {kind : Kind} (word : kind.isWord = true) : ∃ text, kind = .word text := by
  cases kind with
  | word text => exact ⟨text, rfl⟩
  | op | opening | closing | «at» => cases word

def Apart (first second : Kind) : Prop := first.isWord = false ∨ second.isWord = false

end Kind

def Separated (kinds : List Kind) : Prop := kinds.IsChain Kind.Apart

theorem separated_cons {kind : Kind} {after : List Kind} (sign : kind.isWord = false)
    (right : Separated after) : Separated (kind :: after) := by
  refine List.isChain_cons.2 ⟨?_, right⟩
  intro next _
  exact .inl sign

theorem separated_around {before after : List Kind} {kind : Kind} (sign : kind.isWord = false)
    (left : Separated before) (right : Separated after) : Separated (before ++ kind :: after) := by
  refine List.isChain_append.2 ⟨left, separated_cons sign right, ?_⟩
  intro last _ next head
  obtain rfl : kind = next := by simpa using head
  exact .inr sign

theorem isWordChar_iff {c : Char} : isWordChar c = true ↔ IsNameChar c := by
  have letters : c.isAlphanum = true ↔
      ('A' ≤ c ∧ c ≤ 'Z') ∨ ('a' ≤ c ∧ c ≤ 'z') ∨ ('0' ≤ c ∧ c ≤ '9') := by
    show (decide ('A' ≤ c ∧ c ≤ 'Z') || (decide ('a' ≤ c) && decide (c ≤ 'z')) ||
      (decide ('0' ≤ c) && decide (c ≤ '9'))) = true ↔ _
    simp only [Bool.or_eq_true, Bool.and_eq_true, decide_eq_true_eq, or_assoc]
  simp only [isWordChar, IsNameChar, Bool.or_eq_true, decide_eq_true_eq, letters, or_assoc]

theorem isSpace_of_isWordChar {c : Char} (word : isWordChar c = true) : isSpace c = false := by
  cases space : isSpace c with
  | false => rfl
  | true =>
    simp only [isSpace, Bool.or_eq_true, decide_eq_true_eq] at space
    rcases space with (((rfl | rfl) | rfl) | rfl) | rfl <;> exact absurd word (by decide)

theorem isWordChar_of_isSpace {c : Char} (blank : isSpace c = true) : isWordChar c = false := by
  cases word : isWordChar c with
  | false => rfl
  | true =>
    rw [isSpace_of_isWordChar word] at blank
    cases blank

theorem chars_of_sign? {c : Char} {kind : Kind} (sign : sign? c = some kind) :
    kind.chars = [c] ∧ kind.isWord = false := by
  unfold sign? at sign
  split at sign <;> cases sign <;> exact ⟨rfl, rfl⟩

theorem sign?_of_chars {kind : Kind} (sign : kind.isWord = false) :
    ∃ c, kind.chars = [c] ∧ sign? c = some kind ∧ isWordChar c = false ∧ isSpace c = false := by
  cases kind with
  | op operator => cases operator <;> exact ⟨_, rfl, rfl, rfl, rfl⟩
  | opening => exact ⟨_, rfl, rfl, rfl, rfl⟩
  | closing => exact ⟨_, rfl, rfl, rfl, rfl⟩
  | «at» => exact ⟨_, rfl, rfl, rfl, rfl⟩
  | word text => cases sign

end Token

namespace Scanner

inductive Takes : Scanner → Char → Scanner → Prop where
  | word {scanner : Scanner} {c : Char} (part : Token.isWordChar c = true) :
      Takes scanner c ⟨scanner.offset + 1, scanner.found, c :: scanner.word⟩
  | space {scanner : Scanner} {c : Char} (blank : Token.isSpace c = true) :
      Takes scanner c ⟨scanner.offset + 1, scanner.tokens, []⟩
  | sign {scanner : Scanner} {c : Char} {kind : Token.Kind} (solid : Token.isSpace c = false)
      (alone : Token.sign? c = some kind) :
      Takes scanner c
        ⟨scanner.offset + 1, ⟨kind, scanner.offset, 1⟩ :: scanner.tokens, []⟩

theorem takes_of_step {scanner next : Scanner} {c : Char} (stepped : scanner.step c = .ok next) :
    Takes scanner c next := by
  unfold step at stepped
  split at stepped
  next part => cases stepped; exact .word part
  next =>
    split at stepped
    next blank => cases stepped; exact .space blank
    next solid =>
      split at stepped
      next kind alone => cases stepped; exact .sign (by simpa using solid) alone
      next => cases stepped

/-- The kinds of the tokens, in order, once an open word has ended. -/
def kinds (scanner : Scanner) : List Token.Kind := (scanner.tokens.map (·.kind)).reverse

theorem kinds_start : start.kinds = [] := rfl

theorem kinds_tokens (scanner : Scanner) (offset : Nat) :
    kinds ⟨offset, scanner.tokens, []⟩ = scanner.kinds := rfl

theorem kinds_of_tokens {scanner next : Scanner} {token : Token}
    (added : next.tokens = token :: scanner.tokens) :
    next.kinds = scanner.kinds ++ [token.kind] := by
  simp [kinds, added]

theorem kinds_open (offset : Nat) (found : List Token) (c : Char) (word : List Char) :
    kinds ⟨offset, found, c :: word⟩ =
      kinds ⟨offset, found, []⟩ ++ [.word (String.ofList (c :: word).reverse)] := by
  simp [kinds, tokens]

theorem takes_of_scanFrom_cons {scanner last : Scanner} {c : Char} {cs : List Char}
    (read : scanner.scanFrom (c :: cs) = .ok last) :
    ∃ next, Takes scanner c next ∧ next.scanFrom cs = .ok last := by
  rw [scanFrom] at read
  split at read
  next next stepped => exact ⟨next, takes_of_step stepped, read⟩
  next => cases read

def spelled (scanner : Scanner) : List Char := scanner.kinds.flatMap Token.Kind.chars

theorem spelled_eq (offset : Nat) (found : List Token) (word : List Char) :
    spelled ⟨offset, found, word⟩ = spelled ⟨offset, found, []⟩ ++ word.reverse := by
  cases word with
  | nil => simp
  | cons c word => simp [spelled, kinds_open, Token.Kind.chars]

theorem Takes.spelled {scanner next : Scanner} {c : Char} (takes : Takes scanner c next) :
    next.spelled = scanner.spelled ++ [c].filter (!Token.isSpace ·) := by
  cases takes with
  | word part =>
    have before := spelled_eq scanner.offset scanner.found scanner.word
    rw [spelled_eq, List.reverse_cons, ← List.append_assoc]
    simp only [Token.isSpace_of_isWordChar part, List.filter_cons, List.filter_nil]
    exact congrArg (· ++ [c]) before.symm
  | space blank => simp [blank, Scanner.spelled, kinds_tokens]
  | @sign kind solid alone =>
    obtain ⟨written, -⟩ := Token.chars_of_sign? alone
    let token : Token := ⟨kind, scanner.offset, 1⟩
    have added : kinds ⟨scanner.offset + 1, token :: scanner.tokens, []⟩ =
        scanner.kinds ++ [token.kind] := kinds_of_tokens rfl
    simp [solid, Scanner.spelled, added, token, written]

theorem spelled_of_scanFrom {scanner last : Scanner} {cs : List Char}
    (read : scanner.scanFrom cs = .ok last) :
    last.spelled = scanner.spelled ++ cs.filter (!Token.isSpace ·) := by
  induction cs generalizing scanner with
  | nil =>
    cases read
    simp
  | cons c cs ih =>
    obtain ⟨next, takes, later⟩ := takes_of_scanFrom_cons read
    rw [ih later, takes.spelled, List.append_assoc, ← List.filter_append]
    rfl

structure Lexable (scanner : Scanner) : Prop where
  found : ∀ token ∈ scanner.found, token.kind.Lexable
  word : ∀ c ∈ scanner.word, Token.isWordChar c = true

theorem Lexable.tokens {scanner : Scanner} (lexable : scanner.Lexable) :
    ∀ token ∈ scanner.tokens, token.kind.Lexable := by
  rw [Scanner.tokens]
  split
  next => exact lexable.found
  next nonempty =>
    intro token member
    rcases List.mem_cons.1 member with rfl | older
    · refine ⟨?_, ?_⟩
      · simpa [String.ofList_eq_empty_iff] using nonempty
      · intro c inside
        exact Token.isWordChar_iff.1 (lexable.word c (by simpa using inside))
    · exact lexable.found token older

theorem Takes.lexable {scanner next : Scanner} {c : Char} (takes : Takes scanner c next)
    (lexable : scanner.Lexable) : next.Lexable := by
  cases takes with
  | word part =>
    refine ⟨lexable.found, ?_⟩
    intro d member
    rcases List.mem_cons.1 member with rfl | older
    · exact part
    · exact lexable.word d older
  | space blank => exact ⟨lexable.tokens, by simp⟩
  | @sign kind solid alone =>
    refine ⟨?_, by simp⟩
    intro token member
    rcases List.mem_cons.1 member with rfl | older
    · exact Token.Kind.lexable_of_sign (Token.chars_of_sign? alone).2
    · exact lexable.tokens token older

theorem lexable_of_scanFrom {scanner last : Scanner} {cs : List Char}
    (read : scanner.scanFrom cs = .ok last) (lexable : scanner.Lexable) : last.Lexable := by
  induction cs generalizing scanner with
  | nil =>
    cases read
    exact lexable
  | cons c cs ih =>
    obtain ⟨next, takes, later⟩ := takes_of_scanFrom_cons read
    exact ih later (takes.lexable lexable)

theorem scanFrom_append_of_ok {scanner next : Scanner} {before : List Char}
    (read : scanner.scanFrom before = .ok next) (after : List Char) :
    scanner.scanFrom (before ++ after) = next.scanFrom after := by
  rw [scanFrom_append, read]
  rfl

theorem scanFrom_space (scanner : Scanner) {c : Char} (blank : Token.isSpace c = true) :
    scanner.scanFrom [c] = .ok ⟨scanner.offset + 1, scanner.tokens, []⟩ := by
  have noWord := Token.isWordChar_of_isSpace blank
  simp [scanFrom, step, noWord, blank]

theorem scanFrom_word (scanner : Scanner) {cs : List Char}
    (letters : ∀ c ∈ cs, Token.isWordChar c = true) :
    scanner.scanFrom cs =
      .ok ⟨scanner.offset + cs.length, scanner.found, cs.reverse ++ scanner.word⟩ := by
  induction cs generalizing scanner with
  | nil => rfl
  | cons c cs ih =>
    have first : scanner.step c =
        .ok ⟨scanner.offset + 1, scanner.found, c :: scanner.word⟩ := by
      rw [step, if_pos (letters c (by simp))]
    rw [scanFrom, first]
    show scanFrom _ cs = _
    rw [ih _ fun d member => letters d (List.mem_cons_of_mem _ member)]
    simp [Nat.add_comm, Nat.add_left_comm]

theorem scanFrom_sign (scanner : Scanner) {kind : Token.Kind} (sign : kind.isWord = false) :
    scanner.scanFrom kind.chars =
      .ok ⟨scanner.offset + 1, ⟨kind, scanner.offset, 1⟩ :: scanner.tokens, []⟩ := by
  obtain ⟨c, written, alone, noWord, solid⟩ := Token.sign?_of_chars sign
  have stepped : scanner.step c =
      .ok ⟨scanner.offset + 1, ⟨kind, scanner.offset, 1⟩ :: scanner.tokens, []⟩ := by
    simp [step, noWord, solid, alone]
  rw [written, scanFrom, stepped]
  rfl

theorem scanFrom_chars (scanner : Scanner) {kind : Token.Kind} (lexable : kind.Lexable)
    (apart : scanner.word = [] ∨ kind.isWord = false) :
    ∃ next, scanner.scanFrom kind.chars = .ok next ∧
      next.tokens = ⟨kind, scanner.offset, kind.chars.length⟩ :: scanner.tokens ∧
      (next.word = [] ∨ kind.isWord = true) := by
  cases sign : kind.isWord with
  | false =>
    obtain ⟨c, written, -⟩ := Token.sign?_of_chars sign
    refine ⟨_, scanFrom_sign scanner sign, ?_, .inl rfl⟩
    rw [written]
    rfl
  | true =>
    obtain ⟨text, rfl⟩ := Token.Kind.exists_word sign
    have closed : scanner.word = [] := by simpa [sign] using apart
    have nonempty : text ≠ "" := lexable.1
    have letters : ∀ c ∈ text.toList, Token.isWordChar c = true := by
      intro c member
      exact Token.isWordChar_iff.2 (lexable.2 c member)
    refine ⟨_, scanFrom_word scanner letters, ?_, .inr rfl⟩
    simp [tokens, closed, Token.Kind.chars, nonempty]

theorem kinds_eq_scan (scanner : Scanner) :
    scanner.kinds = Scan.kinds ⟨scanner.tokens.reverse, scanner.offset⟩ := List.map_reverse.symm

end Scanner

theorem tokenize_eq_ok_iff {text : String} {scan : Scan} :
    tokenize text = .ok scan ↔ ∃ scanner, Scanner.start.scanFrom text.toList = .ok scanner ∧
      scan = ⟨scanner.tokens.reverse, scanner.offset⟩ := by
  rw [tokenize]
  cases Scanner.start.scanFrom text.toList with
  | error error => simp
  | ok scanner => simp [eq_comm]

theorem kinds_of_tokenize {text : String} {scan : Scan} (tokenized : tokenize text = .ok scan) :
    scan.kinds.flatMap Token.Kind.chars = text.toList.filter (!Token.isSpace ·) ∧
      ∀ kind ∈ scan.kinds, kind.Lexable := by
  obtain ⟨scanner, read, rfl⟩ := tokenize_eq_ok_iff.1 tokenized
  rw [← scanner.kinds_eq_scan]
  refine ⟨Scanner.spelled_of_scanFrom read, ?_⟩
  intro kind member
  have lexable := Scanner.lexable_of_scanFrom read ⟨by simp [Scanner.start], by simp [Scanner.start]⟩
  obtain ⟨token, inside, rfl⟩ := List.mem_map.1 (List.mem_reverse.1 member)
  exact lexable.tokens token inside

end RoleAlgebra
