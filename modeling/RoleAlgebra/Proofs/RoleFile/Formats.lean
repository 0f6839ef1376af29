import RoleAlgebra.Proofs.Text.Utf8
import RoleAlgebra.World.Basic

/-!
Reading a role file. A format has two layers, the document that the bytes are and the role that the
document describes, and it refuses bytes for the first of them that fails (`Format.Rejects`). The
formats before the one that a role is read in are those that were tried, and an error holds an
attempt for every format.
-/

namespace RoleAlgebra

namespace RoleFile

variable (decoders : Decoders) (path : String) (bytes : List UInt8)

def Format.Finds (described : Except RoleError Role) : Format → Prop
  | .yaml => ∃ value, decoders.yaml bytes = .ok value ∧ Role.ofValue value = described
  | .json => ∃ value, decoders.json bytes = .ok value ∧ Role.ofValue value = described
  | .text => ∃ body : String, body.toUTF8 = bytes.toByteArray ∧ Role.ofLines path body = described

/-- Why a format refuses bytes: they are no document of it, for what its decoder says, or none that
describes a role. -/
inductive Format.Rejects : Format → FormatError → Prop
  | notYaml {error : ForeignError} (undecoded : decoders.yaml bytes = .error error) :
      Rejects .yaml (.notYaml error)
  | notJson {error : ForeignError} (undecoded : decoders.json bytes = .error error) :
      Rejects .json (.notJson error)
  | notUtf8 {fault : Text.Utf8.Fault} (undecoded : Text.Utf8.decode bytes = .error fault) :
      Rejects .text (.notUtf8 fault)
  | role {format : Format} {error : RoleError}
      (invalid : format.Finds decoders path bytes (.error error)) : Rejects format (.role error)

variable {decoders path bytes} {format : Format} {formats : List Format}
  {failed attempts : List Attempt} {role : Role}

theorem mapError_role_eq_ok_iff {described : Except RoleError Role} :
    described.mapError FormatError.role = .ok role ↔ described = .ok role := by
  cases described with
  | ok found =>
    constructor <;>
    · intro same
      cases same
      rfl
  | error roleError => exact iff_of_false nofun nofun

theorem mapError_role_eq_error_iff {described : Except RoleError Role} {error : FormatError} :
    described.mapError FormatError.role = .error error ↔
      ∃ roleError, described = .error roleError ∧ error = .role roleError := by
  cases described with
  | ok found => exact iff_of_false nofun nofun
  | error roleError =>
    constructor
    · intro same
      exact ⟨roleError, rfl, (Except.error.inj same).symm⟩
    · rintro ⟨_, same, rfl⟩
      cases same
      rfl

theorem ofDocument_eq_ok_iff {notDocument : ForeignError → FormatError}
    {document : Except ForeignError Value} :
    ofDocument notDocument document = .ok role ↔
      ∃ value, document = .ok value ∧ Role.ofValue value = .ok role := by
  cases document <;> simp [ofDocument, mapError_role_eq_ok_iff]

theorem ofDocument_eq_error_iff {notDocument : ForeignError → FormatError}
    {document : Except ForeignError Value} {error : FormatError} :
    ofDocument notDocument document = .error error ↔
      (∃ cause, document = .error cause ∧ error = notDocument cause) ∨
      ∃ roleError, (∃ value, document = .ok value ∧ Role.ofValue value = .error roleError) ∧
        error = .role roleError := by
  cases document with
  | error cause => simp [ofDocument, eq_comm]
  | ok value => simp [ofDocument, mapError_role_eq_error_iff]

theorem Format.read_eq_ok_iff :
    format.read decoders path bytes = .ok role ↔ format.Finds decoders path bytes (.ok role) := by
  cases format with
  | yaml => exact ofDocument_eq_ok_iff
  | json => exact ofDocument_eq_ok_iff
  | text =>
    simp only [read, Finds, ← Text.Utf8.decode_eq_ok_iff]
    cases Text.Utf8.decode bytes <;> simp [mapError_role_eq_ok_iff]

theorem Format.read_eq_error_iff {error : FormatError} :
    format.read decoders path bytes = .error error ↔
      format.Rejects decoders path bytes error := by
  constructor
  · intro refused
    cases format with
    | yaml =>
      rcases ofDocument_eq_error_iff.1 refused with ⟨cause, undecoded, rfl⟩ | ⟨_, found, rfl⟩
      · exact .notYaml undecoded
      · exact .role found
    | json =>
      rcases ofDocument_eq_error_iff.1 refused with ⟨cause, undecoded, rfl⟩ | ⟨_, found, rfl⟩
      · exact .notJson undecoded
      · exact .role found
    | text =>
      cases decoded : Text.Utf8.decode bytes with
      | ok body =>
        rw [read, decoded] at refused
        obtain ⟨roleError, invalid, rfl⟩ := mapError_role_eq_error_iff.1 refused
        exact .role ⟨body, Text.Utf8.decode_eq_ok_iff.1 decoded, invalid⟩
      | error fault =>
        rw [read, decoded] at refused
        cases refused
        exact .notUtf8 decoded
  · intro rejects
    cases rejects with
    | notYaml undecoded => exact ofDocument_eq_error_iff.2 (.inl ⟨_, undecoded, rfl⟩)
    | notJson undecoded => exact ofDocument_eq_error_iff.2 (.inl ⟨_, undecoded, rfl⟩)
    | notUtf8 undecoded => rw [read, undecoded]
    | @role _ roleError invalid =>
      cases format with
      | yaml => exact ofDocument_eq_error_iff.2 (.inr ⟨roleError, invalid, rfl⟩)
      | json => exact ofDocument_eq_error_iff.2 (.inr ⟨roleError, invalid, rfl⟩)
      | text =>
        obtain ⟨body, encoded, invalid⟩ := invalid
        rw [read, Text.Utf8.decode_eq_ok_iff.2 encoded]
        exact mapError_role_eq_error_iff.2 ⟨roleError, invalid, rfl⟩

theorem exists_notUtf8_iff :
    (∃ fault, Format.text.read decoders path bytes = .error (.notUtf8 fault)) ↔
      ¬ bytes.toByteArray.IsValidUTF8 := by
  rw [← Text.Utf8.exists_decode_eq_ok_iff]
  constructor
  · rintro ⟨fault, refused⟩ ⟨body, decoded⟩
    cases Format.read_eq_error_iff.1 refused with
    | notUtf8 undecoded =>
      rw [decoded] at undecoded
      cases undecoded
  · intro undecoded
    cases decoded : Text.Utf8.decode bytes with
    | ok body => exact absurd ⟨body, decoded⟩ undecoded
    | error fault => exact ⟨fault, Format.read_eq_error_iff.2 (.notUtf8 decoded)⟩

theorem tryFormats_of_rejects {error : FormatError}
    (rejects : format.Rejects decoders path bytes error) :
    tryFormats decoders path bytes failed (format :: formats) =
      tryFormats decoders path bytes (failed ++ [⟨format, error⟩]) formats := by
  rw [tryFormats, Format.read_eq_error_iff.2 rejects]

theorem tryFormats_of_finds (finds : format.Finds decoders path bytes (.ok role)) :
    tryFormats decoders path bytes failed (format :: formats) =
      ⟨failed.map (·.format) ++ [format], .ok role⟩ := by
  rw [tryFormats, Format.read_eq_ok_iff.2 finds]

theorem tryFormats_append
    (rejected : ∀ attempt ∈ attempts, attempt.format.Rejects decoders path bytes attempt.error) :
    tryFormats decoders path bytes failed (attempts.map (·.format) ++ formats) =
      tryFormats decoders path bytes (failed ++ attempts) formats := by
  induction attempts generalizing failed with
  | nil => rw [List.map_nil, List.nil_append, List.append_nil]
  | cons attempt later ih =>
    obtain ⟨here, rest⟩ := List.forall_mem_cons.1 rejected
    rw [List.map_cons, List.cons_append, tryFormats_of_rejects here, ih rest, List.append_assoc]
    rfl

theorem tryFormats_of_found {later : List Format}
    (rejected : ∀ attempt ∈ attempts, attempt.format.Rejects decoders path bytes attempt.error)
    (finds : format.Finds decoders path bytes (.ok role)) :
    tryFormats decoders path bytes [] (attempts.map (·.format) ++ format :: later) =
      ⟨attempts.map (·.format) ++ [format], .ok role⟩ := by
  rw [tryFormats_append rejected, tryFormats_of_finds finds, List.nil_append]

theorem tryFormats_of_rejected
    (rejected : ∀ attempt ∈ attempts, attempt.format.Rejects decoders path bytes attempt.error) :
    tryFormats decoders path bytes [] (attempts.map (·.format)) =
      ⟨attempts.map (·.format), .error (.noFormat path attempts)⟩ := by
  have run := @tryFormats_append decoders path bytes [] [] attempts rejected
  rwa [List.append_nil, List.nil_append] at run

variable (decoders path bytes) in
/-- Formats are refused up to one that finds a role, or all of them are. -/
theorem exists_attempts (formats : List Format) :
    ∃ attempts : List Attempt,
      (∀ attempt ∈ attempts, attempt.format.Rejects decoders path bytes attempt.error) ∧
      (formats = attempts.map (·.format) ∨ ∃ format later role,
        formats = attempts.map (·.format) ++ format :: later ∧
          format.Finds decoders path bytes (.ok role)) := by
  induction formats with
  | nil => exact ⟨[], by simp⟩
  | cons format formats ih =>
    cases reading : format.read decoders path bytes with
    | ok role =>
      exact ⟨[], by simp, .inr ⟨format, formats, role, rfl, Format.read_eq_ok_iff.1 reading⟩⟩
    | error error =>
      obtain ⟨attempts, rejected, ends⟩ := ih
      refine ⟨⟨format, error⟩ :: attempts,
        List.forall_mem_cons.2 ⟨Format.read_eq_error_iff.1 reading, rejected⟩, ?_⟩
      rcases ends with rfl | ⟨found, later, role, rfl, finds⟩
      · exact .inl rfl
      · exact .inr ⟨found, later, role, rfl, finds⟩

end RoleFile

open RoleFile

namespace World

variable {world : World} {decoders : Decoders} {path : String} {bytes : List UInt8}
  {log log' : Log} {attempts : List Attempt} {format : Format} {later : List Format} {role : Role}

theorem readRole_eq (world : World) (decoders : Decoders) (path : String) (log : Log) :
    world.readRole decoders path log =
      let reading := RoleFile.read decoders path (world.content path)
      (reading.result, (reading.tried.map (LogEvent.reading · path)).reverse ++ log) := rfl

theorem readRole_of_error {error : ForeignError} (content : world.content path = .error error) :
    world.readRole decoders path log = (.error (.unreadable path error), log) := by
  rw [readRole_eq, content]
  rfl

theorem readRole_of_content (content : world.content path = .ok bytes) :
    world.readRole decoders path log =
      ((tryFormats decoders path bytes [] Format.all).result,
        ((tryFormats decoders path bytes [] Format.all).tried.map
          (LogEvent.reading · path)).reverse ++ log) := by
  rw [readRole_eq, content]
  rfl

theorem readRole_of_found (content : world.content path = .ok bytes)
    (parts : Format.all = attempts.map (·.format) ++ format :: later)
    (rejected : ∀ attempt ∈ attempts, attempt.format.Rejects decoders path bytes attempt.error)
    (finds : format.Finds decoders path bytes (.ok role)) :
    world.readRole decoders path log = (.ok role,
      ((attempts.map (·.format) ++ [format]).map (LogEvent.reading · path)).reverse ++ log) := by
  rw [readRole_of_content content, parts, tryFormats_of_found rejected finds]

theorem readRole_of_rejected (content : world.content path = .ok bytes)
    (parts : attempts.map (·.format) = Format.all)
    (rejected : ∀ attempt ∈ attempts, attempt.format.Rejects decoders path bytes attempt.error) :
    world.readRole decoders path log = (.error (.noFormat path attempts),
      (Format.all.map (LogEvent.reading · path)).reverse ++ log) := by
  rw [readRole_of_content content, ← parts, tryFormats_of_rejected rejected]

theorem readRole_eq_ok_iff (content : world.content path = .ok bytes) :
    world.readRole decoders path log = (.ok role, log') ↔
      ∃ (attempts : List Attempt) (format : Format) (later : List Format),
        Format.all = attempts.map (·.format) ++ format :: later ∧
        (∀ attempt ∈ attempts, attempt.format.Rejects decoders path bytes attempt.error) ∧
        format.Finds decoders path bytes (.ok role) ∧
        log' = ((attempts.map (·.format) ++ [format]).map (LogEvent.reading · path)).reverse ++
          log := by
  constructor
  · intro reads
    obtain ⟨attempts, rejected, parts | ⟨format, later, found, parts, finds⟩⟩ :=
      exists_attempts decoders path bytes Format.all
    · rw [readRole_of_rejected content parts.symm rejected] at reads
      cases reads
    · rw [readRole_of_found content parts rejected finds] at reads
      cases reads
      exact ⟨attempts, format, later, parts, rejected, finds, rfl⟩
  · rintro ⟨attempts, format, later, parts, rejected, finds, rfl⟩
    exact readRole_of_found content parts rejected finds

theorem readRole_eq_error_iff {error : RoleFile.Error}
    (content : world.content path = .ok bytes) :
    world.readRole decoders path log = (.error error, log') ↔
      ∃ attempts : List Attempt, attempts.map (·.format) = Format.all ∧
        (∀ attempt ∈ attempts, attempt.format.Rejects decoders path bytes attempt.error) ∧
        error = .noFormat path attempts ∧
        log' = (Format.all.map (LogEvent.reading · path)).reverse ++ log := by
  constructor
  · intro reads
    obtain ⟨attempts, rejected, parts | ⟨format, later, found, parts, finds⟩⟩ :=
      exists_attempts decoders path bytes Format.all
    · rw [readRole_of_rejected content parts.symm rejected] at reads
      cases reads
      exact ⟨attempts, parts.symm, rejected, rfl, rfl⟩
    · rw [readRole_of_found content parts rejected finds] at reads
      cases reads
  · rintro ⟨attempts, parts, rejected, rfl, rfl⟩
    exact readRole_of_rejected content parts rejected

theorem readRole_eq_unreadable_iff {path' : String} {error : ForeignError} :
    world.readRole decoders path log = (.error (.unreadable path' error), log') ↔
      world.content path = .error error ∧ path' = path ∧ log' = log := by
  cases content : world.content path with
  | error found =>
    rw [readRole_of_error content]
    constructor
    · intro same
      cases same
      exact ⟨rfl, rfl, rfl⟩
    · rintro ⟨same, rfl, rfl⟩
      cases same
      rfl
  | ok bytes =>
    refine iff_of_false ?_ nofun
    intro reads
    obtain ⟨attempts, -, -, other, -⟩ := (readRole_eq_error_iff content).1 reads
    cases other

/-- What is a role in JSON is read as that role, if YAML does not make another document of it. -/
theorem readRole_of_json {value : Value} (content : world.content path = .ok bytes)
    (json : decoders.json bytes = .ok value) (described : Role.ofValue value = .ok role)
    (yaml : ∀ other, decoders.yaml bytes = .ok other → other = value) :
    (world.readRole decoders path log).1 = .ok role := by
  cases decoded : decoders.yaml bytes with
  | error error =>
    have parts : Format.all =
        [Attempt.mk .yaml (.notYaml error)].map (·.format) ++ [.json, .text] := rfl
    have rejected : ∀ attempt ∈ [Attempt.mk .yaml (.notYaml error)],
        attempt.format.Rejects decoders path bytes attempt.error :=
      List.forall_mem_singleton.2 (.notYaml decoded)
    have finds : Format.json.Finds decoders path bytes (.ok role) := ⟨value, json, described⟩
    rw [readRole_of_found content parts rejected finds]
  | ok other =>
    obtain rfl := yaml other decoded
    have parts : Format.all = ([] : List Attempt).map (·.format) ++ [.yaml, .json, .text] := rfl
    have finds : Format.yaml.Finds decoders path bytes (.ok role) := ⟨other, decoded, described⟩
    rw [readRole_of_found content parts (by simp) finds]

end World

/-- A role is read from a file in the first format that finds one. If the file cannot be read no
format is tried; if no format finds a role, the error holds an attempt for each, with what that
format refused the bytes for. The log has a line for every format that was tried. So a role in JSON
is read unless the bytes are another document in YAML, and bytes that are not UTF-8 are no text. -/
theorem readRole_first_success (world : World) (decoders : Decoders) (path : String) (log : Log) :
    (∀ path' error log',
      world.readRole decoders path log = (.error (.unreadable path' error), log') ↔
        world.content path = .error error ∧ path' = path ∧ log' = log) ∧
    (∀ bytes, world.content path = .ok bytes →
      (∀ role log', world.readRole decoders path log = (.ok role, log') ↔
        ∃ (attempts : List Attempt) (format : Format) (later : List Format),
          [Format.yaml, .json, .text] = attempts.map (·.format) ++ format :: later ∧
          (∀ attempt ∈ attempts, attempt.format.Rejects decoders path bytes attempt.error) ∧
          format.Finds decoders path bytes (.ok role) ∧
          log' = ((attempts.map (·.format) ++ [format]).map (.reading · path)).reverse ++ log) ∧
      (∀ error log', world.readRole decoders path log = (.error error, log') ↔
        ∃ attempts : List Attempt, attempts.map (·.format) = [.yaml, .json, .text] ∧
          (∀ attempt ∈ attempts, attempt.format.Rejects decoders path bytes attempt.error) ∧
          error = .noFormat path attempts ∧
          log' = ([.yaml, .json, .text].map (.reading · path)).reverse ++ log) ∧
      ∀ value role, decoders.json bytes = .ok value → Role.ofValue value = .ok role →
        ((∃ error, decoders.yaml bytes = .error error) ∨ decoders.yaml bytes = .ok value) →
        (world.readRole decoders path log).1 = .ok role) ∧
    ∀ bytes, (∃ fault, Format.text.read decoders path bytes = .error (.notUtf8 fault)) ↔
      ¬ bytes.toByteArray.IsValidUTF8 := by
  refine ⟨fun _ _ _ => World.readRole_eq_unreadable_iff, ?_, fun _ => exists_notUtf8_iff⟩
  intro bytes content
  refine ⟨fun _ _ => World.readRole_eq_ok_iff content,
    fun _ _ => World.readRole_eq_error_iff content, ?_⟩
  intro value role json described yaml
  refine World.readRole_of_json content json described fun other decoded => ?_
  rcases yaml with ⟨error, undecoded⟩ | same
  · cases undecoded.symm.trans decoded
  · exact Except.ok.inj (decoded.symm.trans same)

theorem readRole_first_success_text :
    let text : List UInt8 := [0x61, 0x2E, 0x62]
    let json : List UInt8 := [0x7B, 0x7D]
    let role : Role := ⟨"r", ["p"], by decide⟩
    let absent : ForeignError := ⟨"No such file or directory (os error 2)", []⟩
    let noYaml : ForeignError := ⟨"did not find expected node content", []⟩
    let noJson : ForeignError := ⟨"expected value at line 1 column 1", []⟩
    -- YAML takes any text for a scalar, and JSON reads braces only
    let decoders : Decoders :=
      ⟨fun bytes => if bytes = json then .error noYaml else .ok (.string "a.b"),
        fun bytes => if bytes = json then .ok role.toValue else .error noJson⟩
    let world : World := ⟨fun path =>
        if path = "r.txt" then .ok text else if path = "r.json" then .ok json
        else if path = "r.bin" then .ok [0xFF] else .error absent,
      fun _ _ => .notStarted absent⟩
    world.readRole decoders "r" [] = (.error (.unreadable "r" absent), []) ∧
      world.readRole decoders "r.txt" [] = (.ok ⟨"r.txt", ["a.b"], by decide⟩,
        [.reading .text "r.txt", .reading .json "r.txt", .reading .yaml "r.txt"]) ∧
      (world.readRole decoders "r.json" []).1 = .ok role ∧
      ∃ fault, world.readRole decoders "r.bin" [] = (.error (.noFormat "r.bin"
          [⟨.yaml, .role .notAMapping⟩, ⟨.json, .notJson noJson⟩, ⟨.text, .notUtf8 fault⟩]),
        [.reading .text "r.bin", .reading .json "r.bin", .reading .yaml "r.bin"]) := by
  intro text json role absent noYaml noJson decoders world
  refine ⟨?_, ?_, ?_, ?_⟩
  · exact ((readRole_first_success world decoders "r" []).1 _ _ _).2 ⟨rfl, rfl, rfl⟩
  · have rejected : ∀ attempt ∈ [Attempt.mk .yaml (.role .notAMapping), ⟨.json, .notJson noJson⟩],
        attempt.format.Rejects decoders "r.txt" text attempt.error :=
      List.forall_mem_cons.2 ⟨.role ⟨_, rfl, rfl⟩, List.forall_mem_singleton.2 (.notJson rfl)⟩
    exact (((readRole_first_success world decoders "r.txt" []).2.1 text rfl).1 _ _).2
      ⟨_, .text, [], rfl, rejected, ⟨"a.b", rfl, rfl⟩, rfl⟩
  · exact ((readRole_first_success world decoders "r.json" []).2.1 json rfl).2.2 role.toValue role
      rfl role.ofValue_toValue (.inl ⟨noYaml, rfl⟩)
  · have invalid : ¬ ([0xFF] : List UInt8).toByteArray.IsValidUTF8 := by
      rw [← Text.Utf8.exists_decode_eq_ok_iff]
      rintro ⟨body, decoded⟩
      simp [Text.Utf8.decode, Text.Utf8.pieces_cons, Text.Utf8.pieces_nil, Text.Utf8.firstPiece,
        Text.Utf8.width, Text.Utf8.decodeOnto] at decoded
    obtain ⟨fault, refused⟩ := ((readRole_first_success world decoders "r.bin" []).2.2 [0xFF]).2
      invalid
    have rejected : ∀ attempt ∈ [Attempt.mk .yaml (.role .notAMapping), ⟨.json, .notJson noJson⟩,
          ⟨.text, .notUtf8 fault⟩],
        attempt.format.Rejects decoders "r.bin" [0xFF] attempt.error :=
      List.forall_mem_cons.2 ⟨.role ⟨_, rfl, rfl⟩, List.forall_mem_cons.2 ⟨.notJson rfl,
        List.forall_mem_singleton.2 (Format.read_eq_error_iff.1 refused)⟩⟩
    exact ⟨fault, (((readRole_first_success world decoders "r.bin" []).2.1 [0xFF] rfl).2.1 _ _).2
      ⟨_, rfl, rejected, rfl, rfl⟩⟩

end RoleAlgebra
