import RoleAlgebra.Proofs.Token.Scan
import RoleAlgebra.Text.Slice

namespace RoleAlgebra
namespace Token

def IsBlank (c : Char) : Prop := c = ' ' ∨ c = '\t' ∨ c = '\n' ∨ c = '\x0c' ∨ c = '\r'

def IsSign (c : Char) : Prop := c ∈ ['+', '-', '*', '^', '(', ')', '@']

def InAlphabet (c : Char) : Prop := IsBlank c ∨ IsNameChar c ∨ IsSign c

instance (c : Char) : Decidable (IsBlank c) := inferInstanceAs (Decidable (_ ∨ _))

instance (c : Char) : Decidable (IsSign c) := inferInstanceAs (Decidable (_ ∈ _))

instance (c : Char) : Decidable (InAlphabet c) := inferInstanceAs (Decidable (_ ∨ _))

theorem isSpace_iff {c : Char} : isSpace c = true ↔ IsBlank c := by
  simp only [isSpace, IsBlank, Bool.or_eq_true, decide_eq_true_eq, or_assoc]

theorem isSign_of_sign? {c : Char} {kind : Kind} (alone : sign? c = some kind) : IsSign c := by
  unfold sign? at alone
  split at alone <;> first | decide | cases alone

theorem exists_sign? {c : Char} (sign : IsSign c) : ∃ kind, sign? c = some kind := by
  simp only [IsSign, List.mem_cons, List.not_mem_nil, or_false] at sign
  rcases sign with rfl | rfl | rfl | rfl | rfl | rfl | rfl <;> exact ⟨_, rfl⟩

theorem isWordChar_of_isSign {c : Char} (sign : IsSign c) : isWordChar c = false := by
  simp only [IsSign, List.mem_cons, List.not_mem_nil, or_false] at sign
  rcases sign with rfl | rfl | rfl | rfl | rfl | rfl | rfl <;> rfl

theorem utf8Size_of_inAlphabet {c : Char} (known : InAlphabet c) : c.utf8Size = 1 := by
  have narrow : c ≤ '\x7f' := by
    rcases known with blank | name | sign
    · rcases blank with rfl | rfl | rfl | rfl | rfl <;> decide
    · rcases name with ⟨-, upper⟩ | ⟨-, upper⟩ | ⟨-, upper⟩ | rfl | rfl | rfl
      · exact Char.le_trans upper (by decide)
      · exact Char.le_trans upper (by decide)
      · exact Char.le_trans upper (by decide)
      all_goals decide
    · simp only [IsSign, List.mem_cons, List.not_mem_nil, or_false] at sign
      rcases sign with rfl | rfl | rfl | rfl | rfl | rfl | rfl <;> decide
  exact Char.utf8Size_eq_one_iff.2 narrow

theorem inAlphabet_of_isWordChar {c : Char} (part : isWordChar c = true) : InAlphabet c :=
  .inr (.inl (isWordChar_iff.1 part))

theorem inAlphabet_of_sign? {c : Char} {kind : Kind} (alone : sign? c = some kind) :
    InAlphabet c := .inr (.inr (isSign_of_sign? alone))

theorem inAlphabet_of_isSpace {c : Char} (blank : isSpace c = true) : InAlphabet c :=
  .inl (isSpace_iff.1 blank)

theorem Kind.inAlphabet_chars {kind : Kind} (lexable : kind.Lexable) :
    ∀ c ∈ kind.chars, InAlphabet c := by
  cases sign : kind.isWord with
  | false =>
    obtain ⟨c, written, alone, -, -⟩ := sign?_of_chars sign
    rw [written]
    intro d member
    obtain rfl := List.mem_singleton.1 member
    exact inAlphabet_of_sign? alone
  | true =>
    obtain ⟨text, rfl⟩ := exists_word sign
    exact fun c member => .inr (.inl (lexable.2 c member))

end Token

namespace Text

theorem size_of_inAlphabet {cs : List Char} (known : ∀ c ∈ cs, Token.InAlphabet c) :
    size cs = cs.length := by
  induction cs with
  | nil => rfl
  | cons c cs ih =>
    obtain ⟨here, later⟩ := List.forall_mem_cons.1 known
    rw [size_cons, Token.utf8Size_of_inAlphabet here, ih later, List.length_cons, Nat.add_comm]

theorem size_chars {kind : Token.Kind} (lexable : kind.Lexable) :
    size kind.chars = kind.chars.length :=
  size_of_inAlphabet (Token.Kind.inAlphabet_chars lexable)

end Text

namespace Scanner

theorem step_of_inAlphabet (scanner : Scanner) {c : Char} (known : Token.InAlphabet c) :
    ∃ next, scanner.step c = .ok next := by
  unfold step
  split
  next => exact ⟨_, rfl⟩
  next noWord =>
    split
    next => exact ⟨_, rfl⟩
    next solid =>
      rcases known with blank | name | sign
      · exact absurd (Token.isSpace_iff.2 blank) solid
      · exact absurd (Token.isWordChar_iff.2 name) noWord
      · obtain ⟨kind, alone⟩ := Token.exists_sign? sign
        simp [alone]

theorem step_of_not_inAlphabet (scanner : Scanner) {c : Char} (unknown : ¬ Token.InAlphabet c) :
    scanner.step c = .error c := by
  have noWord : Token.isWordChar c ≠ true := fun part =>
    unknown (Token.inAlphabet_of_isWordChar part)
  have solid : Token.isSpace c ≠ true := fun blank =>
    unknown (Token.inAlphabet_of_isSpace blank)
  unfold step
  rw [if_neg noWord, if_neg solid]
  cases alone : Token.sign? c with
  | none => rfl
  | some kind => exact absurd (Token.inAlphabet_of_sign? alone) unknown

theorem Takes.inAlphabet {scanner next : Scanner} {c : Char} (takes : Takes scanner c next) :
    Token.InAlphabet c := by
  cases takes with
  | word part => exact Token.inAlphabet_of_isWordChar part
  | space blank => exact Token.inAlphabet_of_isSpace blank
  | sign solid alone => exact Token.inAlphabet_of_sign? alone

theorem Takes.offset {scanner next : Scanner} {c : Char} (takes : Takes scanner c next) :
    next.offset = scanner.offset + c.utf8Size := by
  rw [Token.utf8Size_of_inAlphabet takes.inAlphabet]
  cases takes <;> rfl

theorem exists_scanFrom_iff {scanner : Scanner} {cs : List Char} :
    (∃ last, scanner.scanFrom cs = .ok last) ↔ ∀ c ∈ cs, Token.InAlphabet c := by
  induction cs generalizing scanner with
  | nil => simp [scanFrom]
  | cons c cs ih =>
    constructor
    · rintro ⟨last, read⟩
      obtain ⟨next, takes, later⟩ := takes_of_scanFrom_cons read
      exact List.forall_mem_cons.2 ⟨takes.inAlphabet, ih.1 ⟨last, later⟩⟩
    · intro known
      obtain ⟨here, later⟩ := List.forall_mem_cons.1 known
      obtain ⟨next, stepped⟩ := scanner.step_of_inAlphabet here
      rw [scanFrom, stepped]
      exact ih.2 later

theorem scanFrom_error {scanner : Scanner} {cs : List Char} {offset : Nat} {c : Char}
    (failed : scanner.scanFrom cs = .error (offset, c)) :
    ∃ before after, cs = before ++ c :: after ∧ (∀ d ∈ before, Token.InAlphabet d) ∧
      ¬ Token.InAlphabet c ∧ offset = scanner.offset + Text.size before := by
  induction cs generalizing scanner with
  | nil => cases failed
  | cons d cs ih =>
    by_cases known : Token.InAlphabet d
    · obtain ⟨next, stepped⟩ := scanner.step_of_inAlphabet known
      rw [scanFrom, stepped] at failed
      obtain ⟨before, after, rfl, knownBefore, unknown, place⟩ := ih failed
      refine ⟨d :: before, after, rfl, ?_, unknown, ?_⟩
      · exact List.forall_mem_cons.2 ⟨known, knownBefore⟩
      · rw [place, (takes_of_step stepped).offset, Text.size_cons, Nat.add_assoc]
    · rw [scanFrom, scanner.step_of_not_inAlphabet known] at failed
      cases failed
      exact ⟨[], cs, rfl, by simp, known, rfl⟩

end Scanner
end RoleAlgebra
