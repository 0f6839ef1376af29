import RoleAlgebra.Output
import RoleAlgebra.Proofs.First
import RoleAlgebra.Proofs.PermissionSet.Updates
import RoleAlgebra.Proofs.Text.Lines
import RoleAlgebra.Proofs.Text.Trimmed
import RoleAlgebra.Role

namespace RoleAlgebra

namespace Role

theorem permissionsFrom_of_empty {lines : List (List Char)}
    (empty : ∀ line ∈ lines, Text.trimEnd line = []) (number : Nat) (found : List String) :
    permissionsFrom number found lines = .ok found.reverse := by
  induction lines generalizing number with
  | nil => rfl
  | cons line lines ih =>
    obtain ⟨here, rest⟩ := List.forall_mem_cons.1 empty
    simp only [permissionsFrom, here, if_true]
    exact ih rest (number + 1)

theorem permissionsFrom_congr {lines lines' : List (List Char)} {n : Nat}
    (same : lines.map Text.trimEnd = lines'.map Text.trimEnd ++ List.replicate n [])
    (number : Nat) (found : List String) :
    permissionsFrom number found lines = permissionsFrom number found lines' := by
  induction lines' generalizing lines number found with
  | nil =>
    refine permissionsFrom_of_empty ?_ number found
    intro line member
    have trimmed : Text.trimEnd line ∈ lines.map Text.trimEnd := List.mem_map_of_mem member
    rw [same, List.map_nil, List.nil_append] at trimmed
    exact List.eq_of_mem_replicate trimmed
  | cons line' later' ih =>
    cases lines with
    | nil => simp at same
    | cons line later =>
      obtain ⟨first, rest⟩ : Text.trimEnd line = Text.trimEnd line' ∧
          later.map Text.trimEnd = later'.map Text.trimEnd ++ List.replicate n [] := by
        simpa using same
      simp only [permissionsFrom, first, ih rest]

theorem permissionsFrom_of_solid {lines : List (List Char)}
    (solid : ∀ text ∈ lines.map Text.trimEnd, Text.Solid text) (number : Nat)
    (found : List String) :
    permissionsFrom number found lines = .ok (found.reverse ++
      ((lines.map Text.trimEnd).filter (· ≠ [])).map String.ofList) := by
  induction lines generalizing number found with
  | nil => simp [permissionsFrom]
  | cons line lines ih =>
    obtain ⟨here, rest⟩ := List.forall_mem_cons.1 solid
    have free : (Text.trimEnd line).any Text.isBlank = false := (Text.solid_iff _).1 here
    by_cases empty : Text.trimEnd line = []
    · simp [permissionsFrom, empty, ih rest]
    · simp [permissionsFrom, empty, free, ih rest]

/-- The first line that is refused, with its number. -/
theorem permissionsFrom_of_broken {lines before : List (List Char)} {text : List Char}
    (first : First (¬ Text.Solid ·) (lines.map Text.trimEnd) before text) (number : Nat)
    (found : List String) :
    permissionsFrom number found lines =
      .error (.badLine (number + before.length) (String.ofList text)) := by
  induction lines generalizing number found before with
  | nil => cases first
  | cons line lines ih =>
    rw [List.map_cons] at first
    cases first with
    | here broken =>
      have some : Text.trimEnd line ≠ [] := by
        intro none
        exact broken (none ▸ Text.solid_nil)
      have blank : (Text.trimEnd line).any Text.isBlank = true := by
        rwa [Text.solid_iff, Bool.not_eq_false] at broken
      simp [permissionsFrom, some, blank]
    | @later _ _ _ before solid rest =>
      have free : (Text.trimEnd line).any Text.isBlank = false :=
        (Text.solid_iff _).1 (Decidable.not_not.1 solid)
      have number_eq : number + 1 + before.length = number + (before.length + 1) := by omega
      by_cases empty : Text.trimEnd line = []
      · simp [permissionsFrom, empty, ih rest, number_eq]
      · simp [permissionsFrom, empty, free, ih rest, number_eq]

/-- Carriage returns and the end of the last line make no difference to the permissions. -/
theorem permissionsFrom_fileLines (cs : List Char) :
    permissionsFrom 1 [] (Text.fileLines cs) = permissionsFrom 1 [] (Text.lines cs) := by
  obtain ⟨n, same⟩ := Text.exists_trimmedLines_eq cs
  exact (permissionsFrom_congr same 1 []).symm

theorem ofLines_congr {body body' : String} {n : Nat}
    (same : Text.trimmedLines body.toList =
      Text.trimmedLines body'.toList ++ List.replicate n []) (name : String) :
    ofLines name body = ofLines name body' := by
  rw [ofLines, ofLines, permissionsFrom_fileLines, permissionsFrom_fileLines,
    permissionsFrom_congr same 1 []]

theorem ofLines_of_broken {body : String} {before : List (List Char)} {text : List Char}
    (first : First (¬ Text.Solid ·) (Text.trimmedLines body.toList) before text) (name : String) :
    ofLines name body = .error (.badLine (before.length + 1) (String.ofList text)) := by
  rw [ofLines, permissionsFrom_fileLines, permissionsFrom_of_broken first, Nat.add_comm]

def permissionsOfLines (body : String) : List String :=
  ((Text.trimmedLines body.toList).filter (· ≠ [])).map String.ofList

theorem ofLines_of_solid {body : String}
    (solid : ∀ text ∈ Text.trimmedLines body.toList, Text.Solid text) (name : String) :
    ofLines name body = create name (permissionsOfLines body) := by
  rw [ofLines, permissionsFrom_fileLines, permissionsFrom_of_solid solid, List.reverse_nil,
    List.nil_append]
  rfl

theorem create_eq_ok_iff {name : String} {permissions : List String} {role : Role} :
    create name permissions = .ok role ↔
      name ≠ "" ∧ role.name = name ∧ role.permissions = permissions := by
  rw [create]
  split
  next empty => simp [empty]
  next named =>
    constructor
    · intro same
      cases same
      exact ⟨named, rfl, rfl⟩
    · rintro ⟨-, rfl, rfl⟩
      rfl

/-- A role that a text describes has the text's name, and its permissions are lines without white
space. -/
theorem ofLines_eq_ok_iff {name body : String} {role : Role} :
    ofLines name body = .ok role ↔
      (∀ text ∈ Text.trimmedLines body.toList, Text.Solid text) ∧ name ≠ "" ∧
        role.name = name ∧ role.permissions = permissionsOfLines body := by
  rcases exists_first_or_forall (¬ Text.Solid ·) (Text.trimmedLines body.toList) with
    ⟨before, text, first⟩ | solid
  · rw [ofLines_of_broken first]
    obtain ⟨broken, -, after, parts⟩ := first_iff.1 first
    constructor
    · intro same
      cases same
    · rintro ⟨solid, -⟩
      exact absurd (solid text (by simp [parts])) broken
  · have solid : ∀ text ∈ Text.trimmedLines body.toList, Text.Solid text := fun text member =>
      Decidable.not_not.1 (solid text member)
    rw [ofLines_of_solid solid, create_eq_ok_iff]
    exact (and_iff_right solid).symm

end Role

/-- A text is read line by line. White space at the end of a line is dropped and empty lines count
only for the numbers of the others; the first line with other white space is what the text is
refused for, and if there is none every line is a permission. Carriage returns before line feeds,
white space before the end of a line and line feeds at the end of the text make no difference. -/
theorem ofLines_line_by_line (name body : String) :
    (∀ before text, First (¬ Text.Solid ·) (Text.trimmedLines body.toList) before text →
      Role.ofLines name body = .error (.badLine (before.length + 1) (String.ofList text))) ∧
    ((∀ text ∈ Text.trimmedLines body.toList, Text.Solid text) →
      (name = "" → Role.ofLines name body = .error .noName) ∧
      ∀ named : name ≠ "", Role.ofLines name body =
        .ok ⟨name, ((Text.trimmedLines body.toList).filter (· ≠ [])).map String.ofList, named⟩) ∧
    Role.ofLines name (String.ofList (Text.withReturns body.toList)) = Role.ofLines name body ∧
    (∀ before blanks after : String, body = before ++ after →
      (∀ c ∈ blanks.toList, Text.isBlank c = true ∧ c ≠ '\n') →
      (∀ c ∈ after.toList.head?, c = '\n') →
      Role.ofLines name (before ++ blanks ++ after) = Role.ofLines name body) ∧
    ∀ n, Role.ofLines name (body ++ String.ofList (List.replicate n '\n')) =
      Role.ofLines name body := by
  refine ⟨fun before text first => Role.ofLines_of_broken first name, ?_, ?_, ?_, ?_⟩
  · intro solid
    rw [Role.ofLines_of_solid solid]
    exact ⟨fun empty => dif_pos empty, fun named => dif_neg named⟩
  · apply @Role.ofLines_congr _ _ 0
    rw [String.toList_ofList, Text.trimmedLines_withReturns]
    simp
  · rintro before blanks after rfl blank ends
    apply @Role.ofLines_congr _ _ 0
    have padded := Text.trimmedLines_append_congr (Text.trimmedLines_pad blank ends) before.toList
    simp only [String.toList_append, List.append_assoc, padded]
    simp
  · intro n
    apply Role.ofLines_congr
    rw [String.toList_append, String.toList_ofList, Text.trimmedLines_append_feeds]

theorem ofLines_line_by_line_mixed :
    let body := "b.get\r\n\u3000\na.list \t\nb.get"
    let pieces := ["b.get".toList, [], "a.list".toList, "b.get".toList]
    Text.trimmedLines body.toList = pieces ∧
      Role.ofLines "roles.txt" body =
        .ok ⟨"roles.txt", ["b.get", "a.list", "b.get"], by decide⟩ ∧
      Role.ofLines "roles.txt" ("b.get\r\n\u3000" ++ "\u00a0" ++ "\na.list \t\nb.get") =
        Role.ofLines "roles.txt" body ∧
      Role.ofLines "" body = .error .noName ∧
      Role.ofLines "" (body ++ "\n\n  c d \n e") = .error (.badLine 6 "  c d") := by
  intro body pieces
  have trimmed : Text.trimmedLines body.toList = pieces := by decide
  have solid : ∀ text ∈ Text.trimmedLines body.toList, Text.Solid text := by decide
  have blanks : ∀ c ∈ "\u00a0".toList, Text.isBlank c = true ∧ c ≠ '\n' :=
    List.forall_mem_singleton.2 ⟨by decide, by decide⟩
  have broken : First (¬ Text.Solid ·) (Text.trimmedLines (body ++ "\n\n  c d \n e").toList)
      (pieces ++ [[]]) "  c d".toList := by
    refine first_iff.2 ⟨by decide, by decide, [" e".toList], by decide⟩
  refine ⟨trimmed, ?_, ?_, ?_, ?_⟩
  · rw [((ofLines_line_by_line "roles.txt" body).2.1 solid).2 (by decide)]
    simp [trimmed, pieces]
  · exact (ofLines_line_by_line "roles.txt" body).2.2.2.1 "b.get\r\n\u3000" "\u00a0"
      "\na.list \t\nb.get" rfl blanks (by simp)
  · exact ((ofLines_line_by_line "" body).2.1 solid).1 rfl
  · exact (ofLines_line_by_line "" _).1 _ _ broken

namespace PermissionSet

theorem toList_render_text (set : PermissionSet) :
    (set.render .text).toList = Text.unlines (set.toList.map String.toList) := by
  rw [render]
  induction set.toList with
  | nil => rfl
  | cons p later ih => simp [String.join_cons, Text.unlines, ih]

/-- No permission is empty or has white space, so that each can stand on a line of its own. -/
def LineSafe (set : PermissionSet) : Prop := ∀ p ∈ set, p ≠ "" ∧ Text.Solid p.toList

theorem LineSafe.pieces {set : PermissionSet} (safe : set.LineSafe) :
    ∀ piece ∈ set.toList.map String.toList, piece ≠ [] ∧ Text.Solid piece := by
  intro piece member
  obtain ⟨p, listed, rfl⟩ := List.mem_map.1 member
  obtain ⟨some, solid⟩ := safe p listed
  exact ⟨by simpa using some, solid⟩

theorem trimmedLines_render_text {set : PermissionSet} (safe : set.LineSafe) :
    Text.trimmedLines (set.render .text).toList = set.toList.map String.toList ++ [[]] := by
  calc Text.trimmedLines (set.render .text).toList
      = (set.toList.map String.toList ++ [[]]).map Text.trimEnd := by
        rw [Text.trimmedLines, toList_render_text,
          Text.lines_unlines fun piece member => (safe.pieces piece member).2.no_feed]
    _ = (set.toList.map String.toList ++ [[]]).map id := by
        refine List.map_congr_left fun piece member => Text.trimEnd_of_solid ?_
        rcases List.mem_append.1 member with listed | last
        · exact (safe.pieces piece listed).2
        · rw [List.mem_singleton.1 last]
          exact Text.solid_nil
    _ = set.toList.map String.toList ++ [[]] := List.map_id _

theorem LineSafe.solid_render_text {set : PermissionSet} (safe : set.LineSafe) :
    ∀ text ∈ Text.trimmedLines (set.render .text).toList, Text.Solid text := by
  rw [trimmedLines_render_text safe, List.forall_mem_append]
  exact ⟨fun piece listed => (safe.pieces piece listed).2,
    List.forall_mem_singleton.2 Text.solid_nil⟩

theorem permissionsOfLines_render_text {set : PermissionSet} (safe : set.LineSafe) :
    Role.permissionsOfLines (set.render .text) = set.toList := by
  have kept : ∀ piece ∈ set.toList.map String.toList, decide (piece ≠ []) = true :=
    fun piece member => decide_eq_true (safe.pieces piece member).1
  rw [Role.permissionsOfLines, trimmedLines_render_text safe, List.filter_append,
    List.filter_eq_self.2 kept]
  simp

theorem ofList_toList (set : PermissionSet) : ofList set.toList = set :=
  ext fun _ => mem_ofList

end PermissionSet

theorem Role.lineSafe_of_ofLines {name body : String} {role : Role}
    (read : ofLines name body = .ok role) : role.set.LineSafe := by
  intro p member
  obtain ⟨solid, -, -, permissions⟩ := ofLines_eq_ok_iff.1 read
  rw [set, PermissionSet.mem_ofList, permissions] at member
  obtain ⟨text, listed, rfl⟩ := List.mem_map.1 member
  obtain ⟨trimmed, some⟩ := List.mem_filter.1 listed
  refine ⟨by simpa using some, ?_⟩
  rw [String.toList_ofList]
  exact solid text trimmed

/-- A set that is written as text can be read back as a role exactly if no permission is empty or
has white space, and then the role lists the permissions in order. -/
theorem ofLines_render_text (set : PermissionSet) {name : String} (named : name ≠ "") :
    ((∃ role, Role.ofLines name (set.render .text) = .ok role ∧ role.set = set) ↔ set.LineSafe) ∧
    ∀ role, Role.ofLines name (set.render .text) = .ok role → role.set = set →
      role.name = name ∧ role.permissions = set.toList ∧ Increasing role.permissions := by
  constructor
  · constructor
    · rintro ⟨role, read, rfl⟩
      exact Role.lineSafe_of_ofLines read
    · intro safe
      have permissions := PermissionSet.permissionsOfLines_render_text safe
      refine ⟨⟨name, set.toList, named⟩, ?_, set.ofList_toList⟩
      exact Role.ofLines_eq_ok_iff.2 ⟨safe.solid_render_text, named, rfl, permissions.symm⟩
  · intro role read same
    have safe : set.LineSafe := same ▸ Role.lineSafe_of_ofLines read
    obtain ⟨-, -, sameName, permissions⟩ := Role.ofLines_eq_ok_iff.1 read
    rw [PermissionSet.permissionsOfLines_render_text safe] at permissions
    exact ⟨sameName, permissions, permissions ▸ set.increasing⟩

theorem ofLines_render_text_vanishing :
    let kept := PermissionSet.ofList ["b.get", "a.list"]
    let vanishing := PermissionSet.ofList ["", "a.list"]
    (∃ role, Role.ofLines "out.txt" (kept.render .text) = .ok role ∧ role.set = kept) ∧
      ¬ ∃ role, Role.ofLines "out.txt" (vanishing.render .text) = .ok role ∧
        role.set = vanishing := by
  intro kept vanishing
  constructor
  · rw [(ofLines_render_text kept (by decide)).1]
    have safe : ∀ p ∈ ["b.get", "a.list"], p ≠ "" ∧ Text.Solid p.toList := by decide
    exact fun p member => safe p (PermissionSet.mem_ofList.1 member)
  · rw [(ofLines_render_text vanishing (by decide)).1]
    intro safe
    exact (safe "" (PermissionSet.mem_ofList.2 (by decide))).1 rfl

end RoleAlgebra
