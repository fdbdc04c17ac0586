import BattleBelief.Oracle.Fixture

/-!
# Results of the Oracle

What a run of a fixture leaves behind: the canonical input and transcript, their digests and one
identity for each request that the simulator made of a player. A result is validated when it is
constructed, from its bytes.
-/

namespace BattleBelief.Oracle

open Python (Json)

variable [JsonModule] [Rfc8785]

/-! ## §1 Canonical evidence -/

/-- `_canonical_json_object`. -/
def canonicalJsonObject (raw : List Nat) : Except PyException Json := do
  let value ← decodeJson raw
  let canonical ← Rfc8785.dumps value
  refuseIf (canonical ≠ raw) "protocol message JSON was not canonical"
  pure value

/-- The types that `_canonical_evidence_document` is asked for. -/
inductive DocumentType where
  | dict
  | list
  deriving DecidableEq

/-- `__name__` -/
def DocumentType.name : DocumentType → String
  | .dict => "dict"
  | .list => "list"

/-- `type(value) is expected_type`. -/
def DocumentType.isTypeOf : DocumentType → Json → Bool
  | .dict, .obj _ => true
  | .list, .arr _ => true
  | _, _ => false

/-- `_canonical_evidence_document`. -/
def canonicalEvidenceDocument (raw : List Nat) (fieldName : String) (expectedType : DocumentType) :
    Except PyException Json :=
  match decodeJson raw with
  | .error (.valueError _) => .error (.valueError (fieldName ++ " must contain valid UTF-8 JSON"))
  | .error err => .error err
  | .ok value => do
      let message := fieldName ++ " must be a canonical JCS " ++ expectedType.name
      refuseIf (!expectedType.isTypeOf value) message
      let canonical ← Rfc8785.dumps value
      refuseIf (canonical ≠ raw) message
      pure value

/-! ## §2 Request identities -/

/-- Identity for one emitted player request, never an `rqid`. -/
structure OracleRequestIdentity where
  fixtureId : String
  sequence : Nat
  side : PlayerSide
  requestDigest : String
  fixture : isFixtureId fixtureId = true
  safe : (sequence : Int) ≤ maxSafeInteger
  digest : isDigest requestDigest = true

omit [JsonModule] [Rfc8785] in
theorem OracleRequestIdentity.ext_iff {first second : OracleRequestIdentity} :
    first = second ↔ first.fixtureId = second.fixtureId ∧ first.sequence = second.sequence ∧
      first.side = second.side ∧ first.requestDigest = second.requestDigest := by
  cases first
  cases second
  exact OracleRequestIdentity.mk.injEq .. ▸ Iff.rfl

instance : DecidableEq OracleRequestIdentity :=
  fun _ _ => decidable_of_iff _ OracleRequestIdentity.ext_iff.symm

omit [JsonModule] [Rfc8785] in
def OracleRequestIdentity.create (fixtureId : String) (sequence : Nat) (side : PlayerSide)
    (requestDigest : String) : Except PyException OracleRequestIdentity :=
  if fixture : isFixtureId fixtureId = true then
    if safe : (sequence : Int) ≤ maxSafeInteger then
      if digest : isDigest requestDigest = true then
        .ok { fixtureId, sequence, side, requestDigest, fixture, safe, digest }
      else .error (.valueError "request_digest must be a lowercase sha256 digest")
    else .error (.valueError "sequence must be a JCS-safe non-negative integer")
  else .error (.valueError "fixture_id is invalid")

/-- `_request_identities`, after `sequence` requests. -/
def requestIdentitiesFrom (fixtureId : String) (sequence : Nat) :
    List ProtocolMessage → Except PyException (List OracleRequestIdentity)
  | [] => .ok []
  | .sideUpdateMessage side _ requestJson :: rest => do
      let value ← canonicalJsonObject requestJson
      let requestDigest ← manifestDigest value
      let identity ← OracleRequestIdentity.create fixtureId sequence side requestDigest
      let later ← requestIdentitiesFrom fixtureId (sequence + 1) rest
      pure (identity :: later)
  | _ :: rest => requestIdentitiesFrom fixtureId sequence rest

/-- `_request_identities`. -/
def requestIdentities (fixtureId : String) (messages : List ProtocolMessage) :
    Except PyException (List OracleRequestIdentity) :=
  requestIdentitiesFrom fixtureId 0 messages

/-! ## §3 Transcripts -/

/-- The entry that `_transcript_document` appends for a message. -/
def transcriptEntry : ProtocolMessage → Except PyException Json
  | .updateMessage lines =>
      .ok (.obj [("kind", .str "update"), ("lines", .arr (lines.map .str))])
  | .sideUpdateMessage side _ requestJson => do
      let value ← canonicalJsonObject requestJson
      pure (.obj [("kind", .str "side_request"), ("side", .str side.value),
        ("request_json", value)])
  | .sideErrorMessage side line =>
      .ok (.obj [("kind", .str "side_error"), ("side", .str side.value), ("line", .str line)])
  | .endMessage logJson => do
      let value ← canonicalJsonObject logJson
      pure (.obj [("kind", .str "end"), ("log_json", value)])

/-- `_transcript_document`. -/
def transcriptDocument (messages : List ProtocolMessage) : Except PyException (List Json) :=
  messages.mapM transcriptEntry

/-- `entry.get("kind") == kind`, for a `dict`. -/
def isOfKind (entry : Json) (kind : String) : Bool :=
  match entry with
  | .obj members => (Json.get? members "kind").any fun value => isText value kind
  | _ => false

/-- `entry.get(key)`, for a `dict`. -/
def entryField (entry : Json) (key : String) : Option Json :=
  match entry with
  | .obj members => Json.get? members key
  | _ => none

/-- The side that an entry names. A list or a dict cannot be looked up in a set. -/
def entrySide (entry : Json) : Except PyException (Option PlayerSide) :=
  match entryField entry "side" with
  | some (.str text) => .ok (PlayerSide.ofValue text)
  | some (.arr _) => .error (.other "TypeError" none)
  | some (.obj _) => .error (.other "TypeError" none)
  | _ => .ok none

/-- The loop of `OracleResult.__post_init__`, for one entry of the transcript. -/
def sideRequest (entry : Json) : Except PyException (Option (PlayerSide × String)) :=
  if !isOfKind entry "side_request" then .ok none
  else do
    match ← entrySide entry, entryField entry "request_json" with
    | some side, some (.obj request) => do
        let digest ← manifestDigest (.obj request)
        pure (some (side, digest))
    | _, _ => throw (.valueError "canonical transcript side_request is invalid")

/-! ## §4 Results -/

inductive OracleStatus where
  | success
  | failure
  deriving DecidableEq, Repr

/-- The fields that are known before the simulator starts. -/
structure Evidence where
  fixtureId : String
  sourceManifestDigest : String
  buildManifestDigest : String
  rulesetSnapshotDigest : String
  fixtureDigest : String
  seedDigest : String
  inputDigest : String
  deriving DecidableEq

/-- The fields of an `OracleResult` that are not validated yet. -/
structure ResultFields extends Evidence where
  status : OracleStatus
  failureClass : Option OracleFailureClass
  transcriptDigest : String
  canonicalInput : List Nat
  canonicalTranscript : List Nat
  requestIdentities : List OracleRequestIdentity
  deriving DecidableEq

/-- The digests, under the names of their fields. -/
def ResultFields.digests (fields : ResultFields) : List (String × String) :=
  [("source_manifest_digest", fields.sourceManifestDigest),
    ("build_manifest_digest", fields.buildManifestDigest),
    ("ruleset_snapshot_digest", fields.rulesetSnapshotDigest),
    ("fixture_digest", fields.fixtureDigest), ("seed_digest", fields.seedDigest),
    ("input_digest", fields.inputDigest), ("transcript_digest", fields.transcriptDigest)]

def ResultFields.statusAgrees (fields : ResultFields) : Bool :=
  decide (fields.status = .success) = fields.failureClass.isNone

/-- The sides and digests of the transcript's side requests. -/
def transcriptIdentities (transcript : Json) : Except PyException (List (PlayerSide × String)) :=
  match transcript with
  | .arr entries => do
      let found ← entries.mapM sideRequest
      pure found.reduceOption
  | _ => .ok []

/-- `OracleResult.__post_init__`. -/
def ResultFields.postInit (fields : ResultFields) : Except PyException Unit := do
  refuseIf (!isFixtureId fields.fixtureId) "fixture_id is invalid"
  refuseIf (!fields.statusAgrees) "success/failure_class combination is invalid"
  let _ ← fields.digests.mapM fun digest => requireDigest (.str digest.2) digest.1
  let inputDocument ← canonicalEvidenceDocument fields.canonicalInput "canonical_input" .dict
  let transcript ← canonicalEvidenceDocument fields.canonicalTranscript "canonical_transcript" .list
  let inputDigest ← manifestDigest inputDocument
  refuseIf (inputDigest ≠ fields.inputDigest) "input_digest does not match canonical_input"
  let transcriptDigest ← manifestDigest transcript
  refuseIf (transcriptDigest ≠ fields.transcriptDigest)
    "transcript_digest does not match canonical_transcript"
  refuseIf (!(entryField inputDocument "fixture_id").any fun value => isText value fields.fixtureId)
    "canonical input fixture_id does not bind this result"
  refuseIf (fields.requestIdentities.map OracleRequestIdentity.sequence ≠
      List.range fields.requestIdentities.length)
    "request identities must use contiguous canonical sequence numbers"
  refuseIf (fields.requestIdentities.any fun identity => identity.fixtureId ≠ fields.fixtureId)
    "request identity fixture IDs must bind this result"
  let identities ← transcriptIdentities transcript
  refuseIf ((fields.requestIdentities.map fun identity => (identity.side, identity.requestDigest)) ≠
      identities)
    "request identities do not bind transcript side requests"

/-- Canonical evidence for one fixture execution, without operational data. -/
structure OracleResult extends ResultFields where
  validated : toResultFields.postInit = .ok ()

/-- The constructor of `OracleResult`. -/
def OracleResult.create (fields : ResultFields) : Except PyException OracleResult :=
  match h : fields.postInit with
  | .error err => .error err
  | .ok () => .ok { toResultFields := fields, validated := h }

theorem OracleResult.create_eq_ok {fields : ResultFields} {result : OracleResult} :
    OracleResult.create fields = .ok result ↔ result.toResultFields = fields := by
  rw [OracleResult.create]
  split
  · rename_i err herror
    refine iff_of_false nofun ?_
    rintro rfl
    cases result.validated.symm.trans herror
  · rename_i hvalid
    rw [Except.ok.injEq]
    constructor
    · rintro rfl
      rfl
    · rintro rfl
      rfl

theorem OracleResult.exists_create_iff {fields : ResultFields} :
    (∃ result, OracleResult.create fields = .ok result) ↔ fields.postInit = .ok () := by
  constructor
  · rintro ⟨result, hresult⟩
    exact OracleResult.create_eq_ok.mp hresult ▸ result.validated
  · intro h
    exact ⟨⟨fields, h⟩, OracleResult.create_eq_ok.mpr rfl⟩

/-! ## §5 What validation says -/

theorem canonicalJsonObject_eq_ok {raw : List Nat} {value : Json} :
    canonicalJsonObject raw = .ok value ↔
      decodeJson raw = .ok value ∧ Rfc8785.dumps value = .ok raw := by
  simp only [canonicalJsonObject, Runs.bind_eq_ok, refuseIf_eq_ok, not_not]
  constructor
  · rintro ⟨value', hread, canonical, hcanonical, u, rfl, hvalue⟩
    obtain rfl := Except.ok.inj hvalue
    exact ⟨hread, hcanonical⟩
  · rintro ⟨hread, hcanonical⟩
    exact ⟨value, hread, raw, hcanonical, (), rfl, rfl⟩

theorem canonicalEvidenceDocument_eq_ok {raw : List Nat} {fieldName : String}
    {expectedType : DocumentType} {value : Json} :
    canonicalEvidenceDocument raw fieldName expectedType = .ok value ↔
      decodeJson raw = .ok value ∧ expectedType.isTypeOf value = true ∧
        Rfc8785.dumps value = .ok raw := by
  rw [canonicalEvidenceDocument]
  cases hread : decodeJson raw with
  | error err => cases err <;> simp
  | ok value' =>
    simp only [Runs.bind_eq_ok, refuseIf_eq_ok, Except.ok.injEq, not_not, Bool.not_eq_true',
      Bool.not_eq_false]
    constructor
    · rintro ⟨u, htype, canonical, hcanonical, u', rfl, hvalue⟩
      obtain rfl := Except.ok.inj hvalue
      exact ⟨rfl, htype, hcanonical⟩
    · rintro ⟨rfl, htype, hcanonical⟩
      exact ⟨(), htype, raw, hcanonical, (), rfl, rfl⟩

omit [JsonModule] [Rfc8785] in
theorem requireDigest_eq_ok {text fieldName digest : String} :
    requireDigest (.str text) fieldName = .ok digest ↔ isDigest text = true ∧ digest = text := by
  rw [requireDigest]
  split_ifs with h
  · rw [Except.ok.injEq]
    exact ⟨fun heq => ⟨h, heq.symm⟩, fun heq => heq.2.symm⟩
  · exact iff_of_false nofun fun heq => h heq.1

omit [JsonModule] [Rfc8785] in
theorem mapM_requireDigest {digests : List (String × String)} :
    (∃ values, (digests.mapM fun digest => requireDigest (.str digest.2) digest.1) = .ok values) ↔
      ∀ digest ∈ digests, isDigest digest.2 = true := by
  constructor
  · rintro ⟨values, hvalues⟩ digest hmem
    obtain ⟨value, -, hvalue⟩ := Runs.exists_of_mapM hvalues hmem
    exact (requireDigest_eq_ok.mp hvalue).1
  · intro h
    apply Runs.exists_mapM
    intro digest hmem
    exact ⟨digest.2, requireDigest_eq_ok.mpr ⟨h digest hmem, rfl⟩⟩

omit [JsonModule] in
theorem manifestDigest_eq {value : Json} {raw : List Nat} (h : Rfc8785.dumps value = .ok raw) :
    manifestDigest value = .ok (sha256Digest raw) := by
  rw [manifestDigest, h]
  rfl

/-- The fields that name the result agree with each other. -/
structure ResultFields.WellFormed (fields : ResultFields) : Prop where
  fixture : isFixtureId fields.fixtureId = true
  status : fields.statusAgrees = true
  digests : ∀ digest ∈ fields.digests, isDigest digest.2 = true

/-- The bytes are the canonical form of these documents, and the digests and identities are those
of the documents. -/
structure ResultFields.Binds (fields : ResultFields) (input : List (String × Json))
    (entries : List Json) : Prop where
  inputRead : decodeJson fields.canonicalInput = .ok (.obj input)
  canonicalInput : Rfc8785.dumps (.obj input) = .ok fields.canonicalInput
  transcriptRead : decodeJson fields.canonicalTranscript = .ok (.arr entries)
  canonicalTranscript : Rfc8785.dumps (.arr entries) = .ok fields.canonicalTranscript
  inputDigest : sha256Digest fields.canonicalInput = fields.inputDigest
  transcriptDigest : sha256Digest fields.canonicalTranscript = fields.transcriptDigest
  fixture : ∃ value, Json.get? input "fixture_id" = some value ∧
    isText value fields.fixtureId = true
  sequences : fields.requestIdentities.map OracleRequestIdentity.sequence =
    List.range fields.requestIdentities.length
  fixtures : ∀ identity ∈ fields.requestIdentities, identity.fixtureId = fields.fixtureId
  identities : ∃ found, entries.mapM sideRequest = .ok found ∧
    (fields.requestIdentities.map fun identity => (identity.side, identity.requestDigest)) =
      found.reduceOption

omit [JsonModule] [Rfc8785] in
theorem isTypeOf_dict {value : Json} (h : DocumentType.dict.isTypeOf value = true) :
    ∃ members, value = .obj members := by
  cases value with
  | obj members => exact ⟨members, rfl⟩
  | null => cases h
  | bool value => cases h
  | int value => cases h
  | float text => cases h
  | str value => cases h
  | arr items => cases h

omit [JsonModule] [Rfc8785] in
theorem isTypeOf_list {value : Json} (h : DocumentType.list.isTypeOf value = true) :
    ∃ items, value = .arr items := by
  cases value with
  | arr items => exact ⟨items, rfl⟩
  | null => cases h
  | bool value => cases h
  | int value => cases h
  | float text => cases h
  | str value => cases h
  | obj members => cases h

/-- Validation passes exactly when the documents bind the other fields. -/
theorem ResultFields.postInit_eq_ok (fields : ResultFields) :
    fields.postInit = .ok () ↔ fields.WellFormed ∧ ∃ input entries, fields.Binds input entries := by
  constructor
  · intro h
    obtain ⟨_, hfixture, h⟩ := Runs.bind_eq_ok.mp h
    obtain ⟨_, hstatus, h⟩ := Runs.bind_eq_ok.mp h
    obtain ⟨values, hvalues, h⟩ := Runs.bind_eq_ok.mp h
    obtain ⟨inputDocument, hinput, h⟩ := Runs.bind_eq_ok.mp h
    obtain ⟨hinputRead, hdict, hinputCanonical⟩ := canonicalEvidenceDocument_eq_ok.mp hinput
    obtain ⟨input, rfl⟩ := isTypeOf_dict hdict
    obtain ⟨transcript, htranscript, h⟩ := Runs.bind_eq_ok.mp h
    obtain ⟨htranscriptRead, hlist, htranscriptCanonical⟩ :=
      canonicalEvidenceDocument_eq_ok.mp htranscript
    obtain ⟨entries, rfl⟩ := isTypeOf_list hlist
    obtain ⟨inputDigest, hinputDigest, h⟩ := Runs.bind_eq_ok.mp h
    obtain ⟨_, hinputBinds, h⟩ := Runs.bind_eq_ok.mp h
    obtain ⟨transcriptDigest, htranscriptDigest, h⟩ := Runs.bind_eq_ok.mp h
    obtain ⟨_, htranscriptBinds, h⟩ := Runs.bind_eq_ok.mp h
    obtain ⟨_, hid, h⟩ := Runs.bind_eq_ok.mp h
    obtain ⟨_, hsequences, h⟩ := Runs.bind_eq_ok.mp h
    obtain ⟨_, hids, h⟩ := Runs.bind_eq_ok.mp h
    obtain ⟨identities, hidentities, h⟩ := Runs.bind_eq_ok.mp h
    obtain ⟨found, hfound, hreduced⟩ := Runs.bind_eq_ok.mp hidentities
    rw [manifestDigest_eq hinputCanonical, Except.ok.injEq] at hinputDigest
    rw [manifestDigest_eq htranscriptCanonical, Except.ok.injEq] at htranscriptDigest
    have hidText := refuseIf_eq_ok.mp hid
    have hidsAll := refuseIf_eq_ok.mp hids
    have hsame := refuseIf_eq_ok.mp h
    refine ⟨⟨by simpa using refuseIf_eq_ok.mp hfixture, by simpa using refuseIf_eq_ok.mp hstatus,
      mapM_requireDigest.mp ⟨values, hvalues⟩⟩, input, entries, ?_⟩
    exact
      { inputRead := hinputRead
        canonicalInput := hinputCanonical
        transcriptRead := htranscriptRead
        canonicalTranscript := htranscriptCanonical
        inputDigest := hinputDigest.trans (not_not.mp (refuseIf_eq_ok.mp hinputBinds))
        transcriptDigest :=
          htranscriptDigest.trans (not_not.mp (refuseIf_eq_ok.mp htranscriptBinds))
        fixture := by simpa [entryField, Option.any_eq_true] using hidText
        sequences := not_not.mp (refuseIf_eq_ok.mp hsequences)
        fixtures := by simpa using hidsAll
        identities := ⟨found, hfound, (not_not.mp hsame).trans (Except.ok.inj hreduced).symm⟩ }
  · rintro ⟨hwell, input, entries, hbinds⟩
    obtain ⟨values, hvalues⟩ := mapM_requireDigest.mpr hwell.digests
    obtain ⟨found, hfound, hreduced⟩ := hbinds.identities
    have hinput : canonicalEvidenceDocument fields.canonicalInput "canonical_input" .dict =
        .ok (.obj input) :=
      canonicalEvidenceDocument_eq_ok.mpr ⟨hbinds.inputRead, rfl, hbinds.canonicalInput⟩
    have htranscript :
        canonicalEvidenceDocument fields.canonicalTranscript "canonical_transcript" .list =
          .ok (.arr entries) :=
      canonicalEvidenceDocument_eq_ok.mpr ⟨hbinds.transcriptRead, rfl, hbinds.canonicalTranscript⟩
    have hidentities : transcriptIdentities (.arr entries) = .ok found.reduceOption :=
      Runs.bind_eq_ok.mpr ⟨found, hfound, rfl⟩
    rw [postInit]
    refine Runs.bind_eq_ok.mpr ⟨(), refuseIf_eq_ok.mpr (by simp [hwell.fixture]), ?_⟩
    refine Runs.bind_eq_ok.mpr ⟨(), refuseIf_eq_ok.mpr (by simp [hwell.status]), ?_⟩
    refine Runs.bind_eq_ok.mpr ⟨values, hvalues, ?_⟩
    refine Runs.bind_eq_ok.mpr ⟨_, hinput, ?_⟩
    refine Runs.bind_eq_ok.mpr ⟨_, htranscript, ?_⟩
    refine Runs.bind_eq_ok.mpr ⟨_, manifestDigest_eq hbinds.canonicalInput, ?_⟩
    refine Runs.bind_eq_ok.mpr ⟨(), refuseIf_eq_ok.mpr (not_not.mpr hbinds.inputDigest), ?_⟩
    refine Runs.bind_eq_ok.mpr ⟨_, manifestDigest_eq hbinds.canonicalTranscript, ?_⟩
    refine Runs.bind_eq_ok.mpr ⟨(), refuseIf_eq_ok.mpr (not_not.mpr hbinds.transcriptDigest), ?_⟩
    refine Runs.bind_eq_ok.mpr ⟨(), refuseIf_eq_ok.mpr ?_, ?_⟩
    · simpa [entryField, Option.any_eq_true] using hbinds.fixture
    refine Runs.bind_eq_ok.mpr ⟨(), refuseIf_eq_ok.mpr (not_not.mpr hbinds.sequences), ?_⟩
    refine Runs.bind_eq_ok.mpr ⟨(), refuseIf_eq_ok.mpr (by simpa using hbinds.fixtures), ?_⟩
    refine Runs.bind_eq_ok.mpr ⟨_, hidentities, refuseIf_eq_ok.mpr (not_not.mpr hreduced)⟩

end BattleBelief.Oracle
