import RoleAlgebra.Proofs.Role.Lines

namespace RoleAlgebra

namespace Value

def field? (key : String) : Value → Option Value
  | mapping entries => lookup? key entries
  | _ => none

/-- A document gives a name, and permissions as a list of texts or not at all. -/
def Describes (value : Value) (name : String) (permissions : List String) : Prop :=
  ∃ entries, value = mapping entries ∧ lookup? "name" entries = some (string name) ∧
    (lookup? "includedPermissions" entries = none ∧ permissions = [] ∨
      lookup? "includedPermissions" entries = some (list (permissions.map string)))

theorem lookup?_append_of_ne {key other : String} (different : other ≠ key)
    (entries : List (String × Value)) (value : Value) :
    lookup? key (entries ++ [(other, value)]) = lookup? key entries := by
  rw [lookup?, List.reverse_append, List.reverse_singleton, List.singleton_append,
    List.find?_cons_of_neg (by simpa using different)]
  rfl

theorem lookup?_filter_of_ne {key other : String} (different : other ≠ key)
    (entries : List (String × Value)) :
    lookup? key (entries.filter (·.1 ≠ other)) = lookup? key entries := by
  simp only [lookup?, ← List.filter_reverse, List.find?_filter]
  congr 2
  funext entry
  by_cases same : entry.1 = key
  · simp [same, Ne.symm different]
  · simp [same]

end Value

/-- What an error says of a document, whatever else is wrong with it. -/
def RoleError.Faults (value : Value) : RoleError → Prop
  | notAMapping => ∀ entries, value ≠ .mapping entries
  | nameNotString => ∀ name, value.field? "name" ≠ some (.string name)
  | permissionsNotStrings => ∃ listed, value.field? "includedPermissions" = some listed ∧
      ∀ texts : List String, listed ≠ .list (texts.map .string)
  | noName => value.field? "name" = some (.string "")
  | badLine _ _ => False

def RoleError.ofDocuments : List RoleError :=
  [notAMapping, nameNotString, permissionsNotStrings, noName]

namespace Role

theorem listedPermissions_eq_ok_iff {entries : List (String × Value)}
    {permissions : List String} :
    listedPermissions entries = .ok permissions ↔
      Value.lookup? "includedPermissions" entries = none ∧ permissions = [] ∨
        Value.lookup? "includedPermissions" entries =
          some (.list (permissions.map .string)) := by
  rw [listedPermissions, permissionsKey]
  split
  next absent => simp [absent, eq_comm]
  next items found =>
    rw [found]
    split
    next texts strings =>
      rw [Value.strings?_eq_some_iff] at strings
      have injective : texts.map Value.string = permissions.map .string ↔ texts = permissions :=
        List.map_inj_right fun _ _ => Value.string.inj
      simp [strings, injective]
    next mixed =>
      have other : items ≠ permissions.map .string := by
        intro same
        rw [Value.strings?_eq_some_iff.2 same] at mixed
        cases mixed
      simp [other]
  next value other found =>
    have noList : value ≠ .list (permissions.map .string) := fun same => other _ same
    simp [found, noList]

theorem eq_of_listedPermissions_error {entries : List (String × Value)} {error : RoleError}
    (failed : listedPermissions entries = .error error) : error = .permissionsNotStrings := by
  rw [listedPermissions] at failed
  split at failed
  next => cases failed
  next =>
    split at failed
    next => cases failed
    next =>
      cases failed
      rfl
  next =>
    cases failed
    rfl

theorem listedPermissions_eq_error_iff {entries : List (String × Value)} {error : RoleError} :
    listedPermissions entries = .error error ↔ error = .permissionsNotStrings ∧
      RoleError.permissionsNotStrings.Faults (.mapping entries) := by
  cases read : listedPermissions entries with
  | ok permissions =>
    constructor
    · intro same
      cases same
    · rintro ⟨-, listed, found, mixed⟩
      rw [Value.field?] at found
      rcases listedPermissions_eq_ok_iff.1 read with ⟨absent, -⟩ | strings
      · rw [absent] at found
        cases found
      · rw [strings] at found
        exact absurd (Option.some.inj found).symm (mixed permissions)
  | error first =>
    obtain rfl := eq_of_listedPermissions_error read
    have mixed : RoleError.permissionsNotStrings.Faults (.mapping entries) := by
      cases found : Value.lookup? "includedPermissions" entries with
      | none =>
        rw [listedPermissions_eq_ok_iff.2 (.inl ⟨found, rfl⟩)] at read
        cases read
      | some listed =>
        refine ⟨listed, found, ?_⟩
        rintro texts rfl
        rw [listedPermissions_eq_ok_iff.2 (.inr found)] at read
        cases read
    constructor
    · intro same
      cases same
      exact ⟨rfl, mixed⟩
    · rintro ⟨rfl, -⟩
      rfl

theorem ofValue_congr {entries entries' : List (String × Value)}
    (same : ∀ key, key = "name" ∨ key = "includedPermissions" →
      Value.lookup? key entries' = Value.lookup? key entries) :
    ofValue (.mapping entries') = ofValue (.mapping entries) := by
  simp only [ofValue, listedPermissions, permissionsKey, same "name" (.inl rfl),
    same "includedPermissions" (.inr rfl)]

theorem ofValue_eq_ok_iff {value : Value} {role : Role} :
    ofValue value = .ok role ↔ value.Describes role.name role.permissions := by
  constructor
  · intro read
    cases value with
    | mapping entries =>
      rw [ofValue] at read
      split at read
      next name found =>
        split at read
        next permissions listed =>
          obtain ⟨-, rfl, rfl⟩ := create_eq_ok_iff.1 read
          exact ⟨entries, rfl, found, listedPermissions_eq_ok_iff.1 listed⟩
        next => cases read
      next => cases read
    | _ => cases read
  · rintro ⟨entries, rfl, found, listed⟩
    rw [ofValue, found]
    simp only [listedPermissions_eq_ok_iff.2 listed]
    exact create_eq_ok_iff.2 ⟨role.name_ne_empty, rfl, rfl⟩

theorem not_faults_of_describes {value : Value} {name : String} {permissions : List String}
    (describes : value.Describes name permissions) (named : name ≠ "") (error : RoleError) :
    ¬ error.Faults value := by
  obtain ⟨entries, rfl, found, listed⟩ := describes
  intro faults
  cases error with
  | notAMapping => exact faults entries rfl
  | nameNotString => exact faults name found
  | permissionsNotStrings =>
    have read := listedPermissions_eq_ok_iff.2 listed
    rw [listedPermissions_eq_error_iff.2 ⟨rfl, faults⟩] at read
    cases read
  | noName =>
    have empty := found.symm.trans faults
    cases empty
    exact named rfl
  | badLine => exact faults

theorem first_fault_of_ofValue {value : Value} {error : RoleError}
    (failed : ofValue value = .error error) :
    ∃ before, First (·.Faults value) RoleError.ofDocuments before error := by
  cases value with
  | mapping entries =>
    have isMapping : ¬ RoleError.notAMapping.Faults (.mapping entries) := fun none =>
      none entries rfl
    rw [ofValue] at failed
    split at failed
    next name found =>
      have isText : ¬ RoleError.nameNotString.Faults (.mapping entries) := fun none =>
        none name found
      split at failed
      next permissions listed =>
        have areTexts : ¬ RoleError.permissionsNotStrings.Faults (.mapping entries) := by
          intro mixed
          rw [listedPermissions_eq_error_iff.2 ⟨rfl, mixed⟩] at listed
          cases listed
        rw [create] at failed
        split at failed
        next empty =>
          cases failed
          subst empty
          exact ⟨_, .later isMapping (.later isText (.later areTexts (.here found)))⟩
        next => cases failed
      next listed =>
        cases failed
        obtain ⟨rfl, mixed⟩ := listedPermissions_eq_error_iff.1 listed
        exact ⟨_, .later isMapping (.later isText (.here mixed))⟩
    next other =>
      cases failed
      exact ⟨_, .later isMapping (.here other)⟩
  | _ =>
    cases failed
    exact ⟨[], .here fun entries same => by cases same⟩

theorem ofValue_eq_error_iff {value : Value} {error : RoleError} :
    ofValue value = .error error ↔
      ∃ before, First (·.Faults value) RoleError.ofDocuments before error := by
  constructor
  · exact first_fault_of_ofValue
  · rintro ⟨before, first⟩
    cases read : ofValue value with
    | ok role =>
      have describes := ofValue_eq_ok_iff.1 read
      exact absurd (first_iff.1 first).1
        (not_faults_of_describes describes role.name_ne_empty error)
    | error error' =>
      obtain ⟨before', first'⟩ := first_fault_of_ofValue read
      rw [(first.unique first').2]

end Role

/-- A document is read as a role exactly if it gives a name that is not empty and a list of texts,
if any; of its faults the first is reported, and keys other than these two make no difference. All
ways to make a role give it a name, and what is written for a role is read as that role. -/
theorem ofValue_reads_documents :
    (∀ value name permissions,
      (∃ role, Role.ofValue value = .ok role ∧ role.name = name ∧
        role.permissions = permissions) ↔ name ≠ "" ∧ value.Describes name permissions) ∧
    (∀ value error, Role.ofValue value = .error error ↔
      ∃ before, First (·.Faults value) RoleError.ofDocuments before error) ∧
    (∀ entries entries' : List (String × Value),
      (∀ key, key = "name" ∨ key = "includedPermissions" →
        Value.lookup? key entries' = Value.lookup? key entries) →
      Role.ofValue (.mapping entries') = Role.ofValue (.mapping entries)) ∧
    (∀ entries key, key ≠ "name" → key ≠ "includedPermissions" →
      (∀ value, Role.ofValue (.mapping (entries ++ [(key, value)])) =
        Role.ofValue (.mapping entries)) ∧
      Role.ofValue (.mapping (entries.filter (·.1 ≠ key))) = Role.ofValue (.mapping entries)) ∧
    (∀ name permissions role, Role.create name permissions = .ok role ↔
      name ≠ "" ∧ role.name = name ∧ role.permissions = permissions) ∧
    (∀ name body role, Role.ofLines name body = .ok role → name ≠ "" ∧ role.name = name) ∧
    ∀ role : Role,
      role.toValue = .mapping [("name", .string role.name),
        ("includedPermissions", .list (role.permissions.map .string))] ∧
      Role.ofValue role.toValue = .ok role ∧ PermissionSet.ofRole role = role.set ∧
      ∀ p, p ∈ role.set ↔ p ∈ role.permissions := by
  refine ⟨?_, fun value error => Role.ofValue_eq_error_iff, fun entries entries' same =>
    Role.ofValue_congr same, ?_, fun name permissions role => Role.create_eq_ok_iff, ?_, ?_⟩
  · intro value name permissions
    constructor
    · rintro ⟨role, read, rfl, rfl⟩
      exact ⟨role.name_ne_empty, Role.ofValue_eq_ok_iff.1 read⟩
    · rintro ⟨named, describes⟩
      exact ⟨⟨name, permissions, named⟩, Role.ofValue_eq_ok_iff.2 describes, rfl, rfl⟩
  · intro entries key notName notPermissions
    have different : ∀ wanted, wanted = "name" ∨ wanted = "includedPermissions" →
        key ≠ wanted := by
      rintro wanted (rfl | rfl)
      · exact notName
      · exact notPermissions
    constructor
    · intro value
      exact Role.ofValue_congr fun wanted kept =>
        Value.lookup?_append_of_ne (different wanted kept) entries value
    · exact Role.ofValue_congr fun wanted kept =>
        Value.lookup?_filter_of_ne (different wanted kept) entries
  · intro name body role read
    obtain ⟨-, named, same, -⟩ := Role.ofLines_eq_ok_iff.1 read
    exact ⟨named, same⟩
  · intro role
    exact ⟨rfl, role.ofValue_toValue, rfl, fun p => PermissionSet.mem_ofList⟩

theorem ofValue_reads_documents_overwritten :
    let permissions : Value := .list [.string "b", .string "a", .string "b"]
    let entries : List (String × Value) :=
      [("name", .number "1"), ("includedPermissions", permissions), ("name", .string "r")]
    let faulty : Value :=
      .mapping [("name", .string ""), ("includedPermissions", .list [.string "a", .null])]
    (∃ role, Role.ofValue (.mapping entries) = .ok role ∧ role.name = "r" ∧
        role.permissions = ["b", "a", "b"]) ∧
      Role.ofValue (.mapping (entries ++ [("Name", .null)])) = Role.ofValue (.mapping entries) ∧
      Role.ofValue faulty = .error .permissionsNotStrings := by
  intro permissions entries faulty
  obtain ⟨accepts, refuses, -, others, -⟩ := ofValue_reads_documents
  refine ⟨(accepts _ _ _).2 ⟨by decide, entries, rfl, rfl, .inr rfl⟩,
    (others entries "Name" (by decide) (by decide)).1 .null, ?_⟩
  have isMapping : ¬ RoleError.notAMapping.Faults faulty := fun none => none _ rfl
  have isText : ¬ RoleError.nameNotString.Faults faulty := fun none => none "" rfl
  have mixed : RoleError.permissionsNotStrings.Faults faulty := by
    refine ⟨_, rfl, ?_⟩
    intro texts same
    have strings := Value.strings?_eq_some_iff.2 (Value.list.inj same)
    cases strings
  exact (refuses _ _).2 ⟨_, .later isMapping (.later isText (.here mixed))⟩

end RoleAlgebra
