import RoleAlgebra.Proofs.Token.Layout

namespace RoleAlgebra

def Token.moved (n : Nat) (token : Token) : Token := { token with start := token.start + n }

@[simp] theorem Token.kind_moved (n : Nat) (token : Token) :
    (token.moved n).kind = token.kind := rfl

namespace Token

/-- Whether no word runs from one text into another that comes right after it. -/
def Parted (before after : List Char) : Prop :=
  ∀ c ∈ before.getLast?, ∀ d ∈ after.head?, ¬ (IsNameChar c ∧ IsNameChar d)

theorem Parted.of_append {before after more : List Char} (parted : Parted before (after ++ more)) :
    Parted before after := by
  intro c last d head
  refine parted c last d ?_
  rw [List.head?_append, head]
  rfl

theorem parted_concat {c : Char} (other : ¬ IsNameChar c) (before after : List Char) :
    Parted (before ++ [c]) after := by
  intro d last e _ names
  obtain rfl : c = d := by simpa using last
  exact other names.1

theorem Kind.head?_chars {kind : Kind} (word : kind.isWord = true) (lexable : kind.Lexable) :
    ∃ c, kind.chars.head? = some c ∧ IsNameChar c := by
  obtain ⟨text, rfl⟩ := exists_word word
  have first := List.head?_eq_some_head (chars_ne_nil lexable)
  exact ⟨_, first, lexable.2 _ (List.head_mem _)⟩

end Token

namespace Divided

variable {cs : List Char} {tokens : List Token}

theorem sign (divided : Divided cs tokens) (kind : Token.Kind) (sign : kind.isWord = false) :
    Divided (cs ++ kind.chars) (tokens ++ [⟨kind, Text.size cs, 1⟩]) := by
  have lexable := Token.Kind.lexable_of_sign sign
  obtain ⟨c, written, -⟩ := Token.sign?_of_chars sign
  have one : Text.size kind.chars = 1 := by
    rw [Text.size_chars lexable, written]
    rfl
  have added := divided.token lexable fun word => by simp [sign] at word
  rw [one] at added
  exact added

theorem append (first : Divided cs tokens) {more : List Char} {added : List Token}
    (second : Divided more added) (parted : Token.Parted cs more) :
    Divided (cs ++ more) (tokens ++ added.map (·.moved (Text.size cs))) := by
  induction second with
  | nil => simpa using first
  | space before blank ih =>
    rw [← List.append_assoc]
    exact .space (ih parted.of_append) blank
  | @token read added kind before lexable apart ih =>
    have apart : kind.isWord = true →
        ∀ c ∈ (cs ++ read).getLast?, Token.isWordChar c = false := by
      intro word c last
      cases final : read.getLast? with
      | some d =>
        rw [List.getLast?_append, final] at last
        exact apart word c (final.trans last)
      | none =>
        -- the first word of the second text comes right after the first text
        obtain rfl := List.getLast?_eq_none_iff.1 final
        rw [List.append_nil] at last
        obtain ⟨d, head, name⟩ := Token.Kind.head?_chars word lexable
        have other : ¬ Token.IsNameChar c := fun same => parted c last d head ⟨same, name⟩
        rw [← Token.isWordChar_iff, Bool.not_eq_true] at other
        exact other
    have divided := Divided.token (ih parted.of_append) lexable apart
    rw [Text.size_append, Nat.add_comm, List.append_assoc, List.append_assoc] at divided
    rw [List.map_append]
    exact divided

theorem blanks (divided : Divided cs tokens) {blanks : List Char}
    (all : ∀ c ∈ blanks, Token.IsBlank c) : Divided (cs ++ blanks) tokens := by
  induction blanks generalizing cs with
  | nil => simpa using divided
  | cons c blanks ih =>
    obtain ⟨blank, rest⟩ := List.forall_mem_cons.1 all
    have divided := ih (divided.space (Token.isSpace_iff.2 blank)) rest
    rw [List.append_assoc] at divided
    exact divided

/-- Adds a text in parentheses, which keep apart what is inside of them. -/
theorem group (divided : Divided cs tokens) {more : List Char} {added : List Token}
    (inside : Divided more added) :
    Divided (cs ++ '(' :: (more ++ [')']))
      (tokens ++ ⟨.opening, Text.size cs, 1⟩ :: (added.map (·.moved (Text.size cs + 1)) ++
        [⟨.closing, Text.size cs + 1 + Text.size more, 1⟩])) := by
  have opened := divided.sign .opening rfl
  have parted : Token.Parted (cs ++ Token.Kind.opening.chars) more :=
    Token.parted_concat (by decide) cs more
  have grouped := (opened.append inside parted).sign .closing rfl
  have width : Text.size Token.Kind.opening.chars = 1 := rfl
  simp only [Text.size_append, width, List.append_assoc, ← Nat.add_assoc] at grouped
  exact grouped

end Divided
end RoleAlgebra
