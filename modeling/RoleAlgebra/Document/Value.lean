import RoleAlgebra.Diagnostic

namespace RoleAlgebra

/-- A document value. The entries of a mapping are kept as they are written; where a key is written
twice the last entry counts. A number is kept as its text. -/
inductive Value where
  | null
  | bool (b : Bool)
  | number (text : String)
  | string (text : String)
  | list (items : List Value)
  | mapping (entries : List (String × Value))
  deriving Inhabited, Repr

namespace Value

def string? : Value → Option String
  | string text => some text
  | _ => none

def strings? (items : List Value) : Option (List String) :=
  if items.all (·.string?.isSome) then some (items.filterMap string?) else none

def lookup? (key : String) (entries : List (String × Value)) : Option Value :=
  (entries.reverse.find? (·.1 = key)).map (·.2)

theorem strings?_eq_some_iff {items : List Value} {texts : List String} :
    strings? items = some texts ↔ items = texts.map string := by
  induction items generalizing texts with
  | nil => cases texts <;> simp [strings?]
  | cons item items ih =>
    cases item with
    | string text =>
      have tail : strings? (string text :: items) = (strings? items).map (text :: ·) := by
        cases h : items.all (·.string?.isSome) <;> simp [strings?, string?]
      rw [tail, Option.map_eq_some_iff]
      simp only [ih]
      constructor
      · rintro ⟨rest, rfl, rfl⟩
        rfl
      · intro parts
        cases texts with
        | nil => simp at parts
        | cons first rest =>
          obtain ⟨rfl, rfl⟩ : text = first ∧ items = rest.map string := by simpa using parts
          exact ⟨rest, rfl, rfl⟩
    | _ => cases texts <;> simp [strings?, string?]

@[simp] theorem strings?_map_string (texts : List String) :
    strings? (texts.map string) = some texts := strings?_eq_some_iff.2 rfl

end Value

abbrev Decoder : Type := List UInt8 → Except ForeignError Value

end RoleAlgebra
