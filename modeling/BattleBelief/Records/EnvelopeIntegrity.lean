import BattleBelief.Library.HashChain
import BattleBelief.Library.PythonEquality
import BattleBelief.Records.EnvelopeBytes

/-!
# Envelope Integrity

An envelope names its record twice: the id digests where in a run the decision was made, and the
digest of the record digests the id and all of the payload.

- `validate_envelope`: the validator accepts the envelope of every record
- `envelope_tamper_evident`: another document with the digest of a record has its id and its payload
- `toPayload_injective`: a record can be told from its payload
-/

namespace BattleBelief

open Python (Json)
open Python.Json (get? pyEq)
open Runs
open HashChain (CollisionFree)

/-! ## §1 The validator -/

/-- The pair that `dict` makes of one item of a sequence. A key that is no text has no canonical
form. -/
def pairOf : Json → Option (String × Json)
  | .arr [.str key, value] => some (key, value)
  | .str text =>
      match text.toList with
      | [key, value] => some (String.singleton key, .str (String.singleton value))
      | _ => none
  | .obj [(key, _), (value, _)] => some (key, .str value)
  | _ => none

/-- `dict(value)`, where it has a canonical form. -/
def pyDict : Json → Option (List (String × Json))
  | .obj members => some members
  | .arr items => (items.mapM pairOf).map Python.Dict.ofPairs
  | .str text => if text = "" then some [] else none
  | _ => none

section Validator

variable [Rfc8785]

/-- `derive_record_id` of any values. -/
def deriveRecordIdOf (runContextDigest battleIdDigest decisionIndex requestIdentity : Json) :
    Except PyException String := do
  match decisionIndex with
  | .int index => requireSafeInteger "decision_index" index
  | _ => .error (.valueError "decision_index must be a JCS-safe non-negative integer")
  match pyDict requestIdentity with
  | none => .error (.other "TypeError" none)
  | some members =>
      manifestDigest (.obj [("run_context_digest", runContextDigest),
        ("battle_id_digest", battleIdDigest), ("decision_index", decisionIndex),
        ("request_identity", .obj members)])

/-- The id and the digest that an envelope with this payload must have. -/
def expectedIdentities (payload : List (String × Json))
    (runContextDigest battleIdDigest decisionIndex requestIdentity : Json) :
    Except PyException (String × String) := do
  let expectedId ← deriveRecordIdOf runContextDigest battleIdDigest decisionIndex requestIdentity
  let expectedDigest ← DecisionRecord.digestRecordEnvelope expectedId (.obj payload)
  pure (expectedId, expectedDigest)

/-- `validate_decision_record_envelope` -/
def validateDecisionRecordEnvelope (document : List (String × Json)) : List String :=
  match get? document "payload" with
  | some (.obj payload) =>
      match get? payload "run_context_digest", get? payload "battle_id_digest",
        get? payload "decision_index", get? payload "request_identity", get? document "record_id",
        get? document "record_digest" with
      | some runContextDigest, some battleIdDigest, some decisionIndex, some requestIdentity,
        some recordId, some recordDigest =>
          match expectedIdentities payload runContextDigest battleIdDigest decisionIndex
            requestIdentity with
          | .error _ => ["decision-record identity fields are invalid"]
          | .ok (expectedId, expectedDigest) =>
              (if pyEq recordId (.str expectedId) then []
                else ["record_id does not match decision-record identity"]) ++
              (if pyEq recordDigest (.str expectedDigest) then []
                else ["record_digest does not match decision-record envelope"])
      | _, _, _, _, _, _ => ["decision-record envelope is missing identity fields"]
  | _ => ["decision-record payload is missing"]

/-! ## §2 What is accepted -/

/-- The document that the digest of a record is of. -/
def digestedEnvelope (recordId : String) (payload : Json) : Json :=
  .obj [("record_id", .str recordId), ("payload", payload)]

/-- The parts of an accepted envelope. -/
structure Accepts (document payload : List (String × Json)) (recordId recordDigest : String) :
    Prop where
  carries : get? document "payload" = some (.obj payload)
  identified : ∃ runContextDigest battleIdDigest decisionIndex requestIdentity,
    get? payload "run_context_digest" = some runContextDigest ∧
    get? payload "battle_id_digest" = some battleIdDigest ∧
    get? payload "decision_index" = some decisionIndex ∧
    get? payload "request_identity" = some requestIdentity ∧
    deriveRecordIdOf runContextDigest battleIdDigest decisionIndex requestIdentity = .ok recordId
  digested : manifestDigest (digestedEnvelope recordId (.obj payload)) = .ok recordDigest
  named : get? document "record_id" = some (.str recordId)
  sealed : get? document "record_digest" = some (.str recordDigest)

theorem validate_eq_nil {document : List (String × Json)} :
    validateDecisionRecordEnvelope document = [] ↔
      ∃ payload recordId recordDigest, Accepts document payload recordId recordDigest := by
  constructor
  · intro h
    unfold validateDecisionRecordEnvelope at h
    split at h
    · next payload hpayload =>
      split at h
      · next _ _ _ _ _ _ hcontext hbattle hindex hidentity hid hdigest =>
        split at h
        · cases h
        · next expectedId expectedDigest hexpected =>
          obtain ⟨derived, hderived, hrest⟩ := bind_eq_ok.mp hexpected
          obtain ⟨digested, hdigested, hpair⟩ := bind_eq_ok.mp hrest
          obtain ⟨rfl, rfl⟩ := Prod.mk.inj (Except.ok.inj hpair)
          rw [List.append_eq_nil_iff] at h
          obtain ⟨hsameId, hsameDigest⟩ := h
          split_ifs at hsameId with heqId
          split_ifs at hsameDigest with heqDigest
          rw [Json.pyEq_str.mp heqId] at hid
          rw [Json.pyEq_str.mp heqDigest] at hdigest
          exact ⟨payload, derived, digested, hpayload,
            ⟨_, _, _, _, hcontext, hbattle, hindex, hidentity, hderived⟩, hdigested, hid, hdigest⟩
      · cases h
    · cases h
  · rintro ⟨payload, recordId, recordDigest, hpayload,
      ⟨context, battle, index, identity, hcontext, hbattle, hindex, hidentity, hderived⟩, hdigested,
      hid, hdigest⟩
    have hexpected : expectedIdentities payload context battle index identity = .ok (recordId, recordDigest) := by
      apply Runs.bind_of_ok hderived
      apply Runs.bind_of_ok hdigested
      rfl
    have hself : ∀ text, pyEq (.str text) (.str text) = true := fun _ => Json.pyEq_str.mpr rfl
    simp only [validateDecisionRecordEnvelope, hpayload, hcontext, hbattle, hindex, hidentity, hid,
      hdigest, hexpected, hself, if_true, List.append_nil]

/-! ## §3 Integrity -/

/-- With one digest the two documents are equal. -/
def DigestSeparates (first second : Json) : Prop :=
  ∀ digest, manifestDigest first = .ok digest → manifestDigest second = .ok digest →
    pyEq first second = true

omit [Rfc8785] in
/-- Two digested envelopes are equal in both of their parts. -/
theorem pyEq_digestedEnvelope {recordId otherId : String} {payload other : Json} :
    pyEq (digestedEnvelope recordId payload) (digestedEnvelope otherId other) = true ↔
      recordId = otherId ∧ pyEq payload other = true := by
  simp [digestedEnvelope, pyEq, Json.membersEq, get?, Python.Dict.get?, Json.scalarEq]

/-- The identity of a record is the one that its payload has. -/
theorem deriveRecordIdOf_payload (record : DecisionRecord) :
    deriveRecordIdOf (.str record.runContextDigest) (.str record.battleIdDigest)
      (.int record.decisionIndex) record.requestIdentity.project = record.recordId := rfl

/-- An envelope of the record that the validator accepts. Whatever else it accepts with this digest
has the id and the payload of the record, if the digest separates the two. -/
structure SealsRecord (record : DecisionRecord) (envelope : List (String × Json))
    (recordId recordDigest : String) : Prop where
  written : record.toEnvelope = .ok (.obj envelope)
  identified : record.recordId = .ok recordId
  digested : record.recordDigest = .ok recordDigest
  accepted : validateDecisionRecordEnvelope envelope = []
  evident : ∀ document, validateDecisionRecordEnvelope document = [] →
    get? document "record_digest" = some (.str recordDigest) →
    (∀ otherId payload, get? document "record_id" = some (.str otherId) →
      get? document "payload" = some payload → DigestSeparates
        (digestedEnvelope otherId payload) (digestedEnvelope recordId record.toPayload)) →
    get? document "record_id" = some (.str recordId) ∧
      ∃ payload, get? document "payload" = some payload ∧ pyEq payload record.toPayload = true

/-- **Integrity.** The envelope of every record is accepted, and it cannot be tampered with under its
digest. -/
theorem envelope_integrity (hdumps : DumpsPlain) (record : DecisionRecord) :
    ∃ envelope recordId recordDigest, SealsRecord record envelope recordId recordDigest := by
  obtain ⟨recordId, recordDigest, hrecordId, hdigest, henvelope⟩ := record.exists_envelope hdumps
  refine ⟨_, recordId, recordDigest, henvelope, hrecordId, Runs.bind_of_ok hrecordId hdigest, ?_, ?_⟩
  · apply validate_eq_nil.mpr
    refine ⟨_, recordId, recordDigest, rfl, ⟨_, _, _, _, rfl, rfl, rfl, rfl, ?_⟩, hdigest, rfl, rfl⟩
    rw [deriveRecordIdOf_payload, hrecordId]
  · intro document haccepted hsealed hseparates
    obtain ⟨payload, otherId, otherDigest, haccepts⟩ := validate_eq_nil.mp haccepted
    obtain rfl : otherDigest = recordDigest :=
      Json.str.inj (Option.some.inj (haccepts.sealed.symm.trans hsealed))
    have hequal := hseparates otherId (.obj payload) haccepts.named haccepts.carries otherDigest
      haccepts.digested hdigest
    obtain ⟨rfl, hpayload⟩ := pyEq_digestedEnvelope.mp hequal
    exact ⟨haccepts.named, .obj payload, haccepts.carries, hpayload⟩

end Validator

/-- The fields of a record of a request to wait. -/
def waitNoopFields : RecordFields where
  recordSchemaVersion := 2
  recordStatus := .waitNoop
  runContextDigest := sha256Digest []
  battleIdDigest := sha256Digest []
  decisionIndex := 0
  observedStateDigest := sha256Digest []
  safeSubmissionSetDigest := sha256Digest []
  selectedSubmission := none
  submissionProvenance := none
  fallbackOrErrorClass := none
  policyOrArmId := "heuristic"
  runtimeAndContractDigests := ⟨sha256Digest [], sha256Digest [], sha256Digest [], sha256Digest [],
    by simp [isDigest_sha256Digest]⟩

theorem waitNoopFields_content : firstFault waitNoopFields.contentChecks = none := by
  have harm : isArmId "heuristic" = true := by decide
  rw [firstFault_eq_none]
  simp [RecordFields.contentChecks, waitNoopFields, isDigest_sha256Digest, harm, dispositionChecks,
    selectedRequired, selectionForbidden, errorForbidden, statusErrorCodes]

theorem waitNoop_sealed :
    letI := compactCanonicalizer
    let record : DecisionRecord := ⟨waitNoopFields, ⟨0, sha256Digest [], by decide,
      isDigest_sha256Digest []⟩, rfl, waitNoopFields_content⟩
    ∃ envelope recordId recordDigest, SealsRecord record envelope recordId recordDigest := by
  let _ := compactCanonicalizer
  intro record
  exact envelope_integrity compactCanonicalizer_dumpsPlain record

/-! ## §4 What a payload tells -/

theorem DecisionRecordStatus.value_injective : Function.Injective DecisionRecordStatus.value := by
  intro first second h
  cases first <;> cases second <;> first | rfl | (revert h; decide)

theorem DecisionRecordErrorCode.value_injective :
    Function.Injective DecisionRecordErrorCode.value := by
  have hread : ∀ code : DecisionRecordErrorCode, ofValue code.value = some code := by
    intro code
    cases code <;> decide
  intro first second h
  exact Option.some.inj ((hread first).symm.trans (h ▸ hread second))

theorem ActionProvenance.value_injective : Function.Injective ActionProvenance.value := by
  intro first second h
  cases first <;> cases second <;> first | rfl | (revert h; decide)

theorem ActionKind.value_injective : Function.Injective ActionKind.value := by
  intro first second h
  cases first <;> cases second <;> first | rfl | (revert h; decide)

/-- An optional value can be told from its document, if the document is never null. -/
theorem optionalJson_injective {α : Type} {project : α → Json} (h : Function.Injective project)
    (hnull : ∀ value, project value ≠ .null) : Function.Injective (optionalJson project) := by
  intro first second heq
  cases first with
  | none =>
    cases second with
    | none => rfl
    | some value => exact absurd heq.symm (hnull value)
  | some value =>
    cases second with
    | none => exact absurd heq (hnull value)
    | some other => exact congrArg some (h heq)

theorem optionalStr_injective : Function.Injective optionalStr :=
  optionalJson_injective (fun _ _ => Json.str.inj) fun _ => Json.noConfusion

theorem optionalInt_injective : Function.Injective optionalInt :=
  optionalJson_injective (fun _ _ => Json.int.inj) fun _ => Json.noConfusion

theorem integers_injective : Function.Injective integers := by
  intro first second h
  exact List.map_injective_iff.mpr (fun _ _ => Json.int.inj) (Json.arr.inj h)

/-- A submission can be told from its projection. -/
theorem projectBattleSubmission_injective : Function.Injective projectBattleSubmission := by
  intro first second h
  simp only [projectBattleSubmission, Json.obj.injEq, List.cons.injEq, Prod.mk.injEq, Json.str.injEq,
    Json.bool.injEq, true_and, and_true] at h
  obtain ⟨hkind, hprovenance, hslot, hmove, htera, horder⟩ := h
  cases first
  cases second
  obtain rfl := ActionKind.value_injective hkind
  obtain rfl := ActionProvenance.value_injective hprovenance
  obtain rfl := optionalInt_injective hslot
  obtain rfl := optionalStr_injective hmove
  obtain rfl : _ = _ := htera
  obtain rfl := integers_injective horder
  rfl

theorem RuntimeAndContractDigests.toDict_injective :
    Function.Injective RuntimeAndContractDigests.toDict := by
  intro first second h
  simp only [toDict, Json.obj.injEq, List.cons.injEq, Prod.mk.injEq, Json.str.injEq, true_and,
    and_true] at h
  cases first
  cases second
  simp only [mk.injEq]
  exact h

theorem PublicRequestIdentity.project_injective : Function.Injective project := by
  intro first second h
  simp only [project, Json.obj.injEq, List.cons.injEq, Prod.mk.injEq, Json.str.injEq, Json.int.injEq,
    true_and, and_true] at h
  exact ext_iff.mpr h

theorem RecordFields.eq_iff {first second : RecordFields} :
    first = second ↔ first.recordSchemaVersion = second.recordSchemaVersion ∧
      first.recordStatus = second.recordStatus ∧ first.runContextDigest = second.runContextDigest ∧
      first.battleIdDigest = second.battleIdDigest ∧ first.decisionIndex = second.decisionIndex ∧
      first.observedStateDigest = second.observedStateDigest ∧
      first.safeSubmissionSetDigest = second.safeSubmissionSetDigest ∧
      first.selectedSubmission = second.selectedSubmission ∧
      first.submissionProvenance = second.submissionProvenance ∧
      first.fallbackOrErrorClass = second.fallbackOrErrorClass ∧
      first.policyOrArmId = second.policyOrArmId ∧
      first.runtimeAndContractDigests = second.runtimeAndContractDigests := by
  cases first
  cases second
  simp only [mk.injEq]

/-- A record can be told from its payload. -/
theorem DecisionRecord.toPayload_injective : Function.Injective DecisionRecord.toPayload := by
  intro first second h
  simp only [toPayload, Json.obj.injEq, List.cons.injEq, Prod.mk.injEq, Json.str.injEq,
    Json.int.injEq, true_and, and_true] at h
  obtain ⟨hversion, hstatus, hcontext, hbattle, hindex, hidentity, hstate, hsafe, hselected,
    hprovenance, herror, harm, hdigests⟩ := h
  have hselected' : first.selectedSubmission = second.selectedSubmission := by
    apply optionalJson_injective projectBattleSubmission_injective _ hselected
    intro submission hnull
    cases hnull
  have hprovenance' : first.submissionProvenance = second.submissionProvenance :=
    Option.map_injective ActionProvenance.value_injective (optionalStr_injective hprovenance)
  have herror' : first.fallbackOrErrorClass = second.fallbackOrErrorClass :=
    Option.map_injective DecisionRecordErrorCode.value_injective (optionalStr_injective herror)
  have hfields : first.toRecordFields = second.toRecordFields :=
    RecordFields.eq_iff.mpr ⟨hversion, DecisionRecordStatus.value_injective hstatus, hcontext, hbattle,
      hindex, hstate, hsafe, hselected', hprovenance', herror', harm,
      RuntimeAndContractDigests.toDict_injective hdigests⟩
  have hsame := PublicRequestIdentity.project_injective hidentity
  cases first
  cases second
  simp only [mk.injEq]
  exact ⟨hfields, hsame⟩

/-- The document that the digest of a record is of. -/
def DecisionRecord.IsEnvelope [Rfc8785] (record : DecisionRecord) (document : Json) : Prop :=
  ∃ recordId, record.recordId = .ok recordId ∧ document = digestedEnvelope recordId record.toPayload

/-- Records can be told from their digests, if their envelopes do not collide. -/
theorem collisionFree_recordDigest [Rfc8785] {S : DecisionRecord → Prop}
    (hfree : CollisionFree manifestDigest fun document => ∃ record, S record ∧
      record.IsEnvelope document) :
    CollisionFree DecisionRecord.recordDigest S := by
  intro first second digest hfirst hsecond hdigest hdigest'
  obtain ⟨recordId, hid, henvelope⟩ := bind_eq_ok.mp hdigest
  obtain ⟨otherId, hotherId, hother⟩ := bind_eq_ok.mp hdigest'
  have hdocuments := hfree _ _ digest ⟨first, hfirst, recordId, hid, rfl⟩
    ⟨second, hsecond, otherId, hotherId, rfl⟩ henvelope hother
  simp only [digestedEnvelope, Json.obj.injEq, List.cons.injEq, Prod.mk.injEq, true_and,
    and_true] at hdocuments
  exact DecisionRecord.toPayload_injective hdocuments.2

theorem RunContextPayload.toDict_injective : Function.Injective RunContextPayload.toDict := by
  intro first second h
  simp only [toDict, Json.obj.injEq, List.cons.injEq, Prod.mk.injEq, Json.str.injEq, Json.int.injEq,
    true_and, and_true] at h
  cases first
  cases second
  simp only [mk.injEq]
  exact h

theorem RunScopePayload.toDict_injective : Function.Injective RunScopePayload.toDict := by
  intro first second h
  simp only [toDict, Json.obj.injEq, List.cons.injEq, Prod.mk.injEq, Json.str.injEq, true_and,
    and_true] at h
  cases first
  cases second
  simp only [mk.injEq]
  exact h

end BattleBelief
