import BattleBelief.CanonicalDomain
import BattleBelief.Library.Runs
import BattleBelief.Records.DecisionRecord

/-!
# Record Envelopes

A decision record as a document, with the id of the decision and the digest of the record. Every
number in the document has been checked by the constructor of the record, so that no record is
without a digest.

- `exists_recordDigest`: every record has an id and a digest
-/

namespace BattleBelief

open Python (Json)
open Runs

/-! ## §1 Documents -/

def DecisionRecordStatus.value : DecisionRecordStatus → String
  | .submitted => "submitted"
  | .waitNoop => "wait_noop"
  | .policyRejected => "policy_rejected"
  | .actionGateRejected => "action_gate_rejected"
  | .commandEncodingFailed => "command_encoding_failed"
  | .sendFailed => "send_failed"
  | .sessionAborted => "session_aborted"
  | .supersededBeforeSelection => "superseded_before_selection"
  | .terminallyDiscarded => "terminally_discarded"
  | .reconciliationRejected => "reconciliation_rejected"
  | .freshnessInvalidated => "freshness_invalidated"

def RuntimeAndContractDigests.toDict (digests : RuntimeAndContractDigests) : Json :=
  .obj [("runtime_digest", .str digests.runtimeDigest),
    ("contract_set_digest", .str digests.contractSetDigest),
    ("policy_digest", .str digests.policyDigest),
    ("fallback_and_safety_digest", .str digests.fallbackAndSafetyDigest)]

/-- `project_request_identity` of a public identity. -/
def PublicRequestIdentity.project (identity : PublicRequestIdentity) : Json :=
  .obj [("rqid", .int identity.rqid), ("request_digest", .str identity.requestDigest)]

namespace DecisionRecord

def toPayload (record : DecisionRecord) : Json :=
  .obj [("record_schema_version", .int record.recordSchemaVersion),
    ("record_status", .str record.recordStatus.value),
    ("run_context_digest", .str record.runContextDigest),
    ("battle_id_digest", .str record.battleIdDigest),
    ("decision_index", .int record.decisionIndex),
    ("request_identity", record.requestIdentity.project),
    ("observed_state_digest", .str record.observedStateDigest),
    ("safe_submission_set_digest", .str record.safeSubmissionSetDigest),
    ("selected_submission", optionalJson projectBattleSubmission record.selectedSubmission),
    ("submission_provenance",
      optionalStr (record.submissionProvenance.map ActionProvenance.value)),
    ("fallback_or_error_class",
      optionalStr (record.fallbackOrErrorClass.map DecisionRecordErrorCode.value)),
    ("policy_or_arm_id", .str record.policyOrArmId),
    ("runtime_and_contract_digests", record.runtimeAndContractDigests.toDict)]

section Digests

variable [Rfc8785]

/-- `derive_record_id`. -/
def deriveRecordId (runContextDigest battleIdDigest : String) (decisionIndex : Int)
    (requestIdentity : Json) : Except PyException String := do
  requireSafeInteger "decision_index" decisionIndex
  manifestDigest (.obj [("run_context_digest", .str runContextDigest),
    ("battle_id_digest", .str battleIdDigest),
    ("decision_index", .int decisionIndex),
    ("request_identity", requestIdentity)])

/-- `digest_record_envelope`. -/
def digestRecordEnvelope (recordId : String) (payload : Json) : Except PyException String :=
  manifestDigest (.obj [("record_id", .str recordId), ("payload", payload)])

def recordId (record : DecisionRecord) : Except PyException String :=
  deriveRecordId record.runContextDigest record.battleIdDigest record.decisionIndex
    record.requestIdentity.project

def recordDigest (record : DecisionRecord) : Except PyException String := do
  let recordId ← record.recordId
  digestRecordEnvelope recordId record.toPayload

theorem isDigest_of_recordDigest {record : DecisionRecord} {digest : String}
    (h : record.recordDigest = .ok digest) : isDigest digest = true := by
  obtain ⟨recordId, -, hdigest⟩ := bind_eq_ok.mp h
  exact isDigest_of_manifestDigest hdigest

end Digests

end DecisionRecord

/-! ## §2 Numbers -/

theorem inDomain_int {value : Int} (hlow : -maxSafeInteger ≤ value) (hhigh : value ≤ maxSafeInteger) :
    (Json.int value).inDomain = true := by
  have hlow' : -9007199254740991 ≤ value := hlow
  have hhigh' : value ≤ 9007199254740991 := hhigh
  simp only [Json.inDomain, hlow', hhigh', decide_true, Bool.and_self]

/-- A number between one and six, and every smaller range, has a canonical form. -/
theorem inDomain_slot {value : Int} (hlow : 1 ≤ value) (hhigh : value ≤ 6) :
    (Json.int value).inDomain = true := by
  have hmax : maxSafeInteger = 9007199254740991 := rfl
  exact inDomain_int (by omega) (by omega)

theorem inDomain_integers {values : List Int} (h : ∀ value ∈ values, 1 ≤ value ∧ value ≤ 6) :
    (integers values).inDomain = true := by
  show Json.itemsInDomain (values.map .int) = true
  induction values with
  | nil => rfl
  | cons value rest ih =>
    obtain ⟨⟨hlow, hhigh⟩, hrest⟩ := List.forall_mem_cons.mp h
    rw [List.map_cons, Json.itemsInDomain, inDomain_slot hlow hhigh, ih hrest]
    rfl

/-- No check of the constructor of a submission fails. -/
theorem submissionChecks_pass (submission : BattleSubmission) :
    ∀ check ∈ submissionChecks submission.kind submission.provenance submission.slot
      submission.moveId submission.terastallize submission.teamOrder, check.1 = false := by
  have hvalid := submission.valid
  simp only [submissionFault, Option.map_eq_none_iff, List.find?_eq_none] at hvalid
  intro check hcheck
  exact Bool.eq_false_iff.mpr (hvalid check (List.mem_cons_of_mem _ hcheck))

theorem slot_bounds {submission : BattleSubmission} {value : Int}
    (h : submission.slot = some value) : 1 ≤ value ∧ value ≤ 6 := by
  have hchecks := submissionChecks_pass submission
  rw [h] at hchecks
  cases hkind : submission.kind with
  | move =>
    simp [hkind, submissionChecks, slotWithin] at hchecks
    omega
  | switch =>
    simp [hkind, submissionChecks, slotWithin] at hchecks
    omega
  | revive =>
    simp [hkind, submissionChecks, slotWithin] at hchecks
    omega
  | team => simp [hkind, submissionChecks] at hchecks
  | default => simp [hkind, submissionChecks] at hchecks

/-- Only team orders have any slots, and theirs are checked. -/
theorem teamOrder_bounds (submission : BattleSubmission) :
    ∀ value ∈ submission.teamOrder, 1 ≤ value ∧ value ≤ 6 := by
  have hchecks := submissionChecks_pass submission
  cases hkind : submission.kind with
  | team =>
    simp [hkind, submissionChecks] at hchecks
    intro value hvalue
    exact hchecks.2.1.2 value hvalue
  | move =>
    simp [hkind, submissionChecks] at hchecks
    simp [hchecks.2.2.1]
  | switch =>
    simp [hkind, submissionChecks] at hchecks
    simp [hchecks.2.2.2.1]
  | revive =>
    simp [hkind, submissionChecks] at hchecks
    simp [hchecks.2.2.2.1]
  | default =>
    simp [hkind, submissionChecks] at hchecks
    simp [hchecks.2.2.2.2]

theorem inDomain_optionalStr (value : Option String) : (optionalStr value).inDomain = true := by
  cases value <;> rfl

theorem inDomain_submission (submission : BattleSubmission) :
    (projectBattleSubmission submission).inDomain = true := by
  have hslot : (optionalInt submission.slot).inDomain = true := by
    cases hvalue : submission.slot with
    | none => rfl
    | some value => exact inDomain_slot (slot_bounds hvalue).1 (slot_bounds hvalue).2
  have horder := inDomain_integers (teamOrder_bounds submission)
  simp only [projectBattleSubmission, Json.inDomain, Json.membersInDomain, hslot, horder,
    inDomain_optionalStr, Bool.and_self]

namespace DecisionRecord

theorem index_bounds (record : DecisionRecord) :
    0 ≤ record.decisionIndex ∧ record.decisionIndex ≤ maxSafeInteger := by
  have hchecks := firstFault_eq_none.mp record.numbers
  simp only [RecordFields.numberChecks, List.forall_mem_cons] at hchecks
  simpa using hchecks.2.2.1

theorem inDomain_index (record : DecisionRecord) : (Json.int record.decisionIndex).inDomain = true := by
  have hmax : maxSafeInteger = 9007199254740991 := rfl
  obtain ⟨hlow, hhigh⟩ := record.index_bounds
  exact inDomain_int (by omega) hhigh

theorem inDomain_identity (identity : PublicRequestIdentity) :
    identity.project.inDomain = true := by
  have hmax : maxSafeInteger = 9007199254740991 := rfl
  obtain ⟨hlow, hhigh⟩ := identity.safe
  have hrqid : (Json.int identity.rqid).inDomain = true := inDomain_int (by omega) hhigh
  simp only [PublicRequestIdentity.project, Json.inDomain, Json.membersInDomain, Bool.and_true]
  simpa only [Json.inDomain] using hrqid

theorem inDomain_version (record : DecisionRecord) :
    (Json.int record.recordSchemaVersion).inDomain = true := by
  have hchecks := firstFault_eq_none.mp record.numbers
  simp only [RecordFields.numberChecks, List.forall_mem_cons] at hchecks
  have hversion : record.recordSchemaVersion = 1 ∨ record.recordSchemaVersion = 2 := by
    by_contra hnot
    rw [not_or] at hnot
    simp [hnot.1, hnot.2] at hchecks
  rcases hversion with hone | htwo
  · rw [hone]
    rfl
  · rw [htwo]
    rfl

theorem inDomain_payload (record : DecisionRecord) : record.toPayload.inDomain = true := by
  have hselected : (optionalJson projectBattleSubmission record.selectedSubmission).inDomain = true := by
    cases record.selectedSubmission with
    | none => rfl
    | some submission => exact inDomain_submission submission
  have hdigests : record.runtimeAndContractDigests.toDict.inDomain = true := rfl
  have hversion := record.inDomain_version
  have hindex := record.inDomain_index
  simp only [Json.inDomain] at hversion hindex
  simp only [toPayload, Json.inDomain, Json.membersInDomain, hversion, hindex, hselected, hdigests,
    inDomain_identity, inDomain_optionalStr, Bool.and_self]

variable [Rfc8785]

/-- Every record has an id and a digest. -/
theorem exists_recordDigest (hdumps : DumpsDomain) (record : DecisionRecord) :
    ∃ digest, record.recordDigest = .ok digest := by
  have hindex := record.inDomain_index
  have hid : (Json.obj [("run_context_digest", .str record.runContextDigest),
      ("battle_id_digest", .str record.battleIdDigest),
      ("decision_index", .int record.decisionIndex),
      ("request_identity", record.requestIdentity.project)]).inDomain = true := by
    simp only [Json.inDomain] at hindex
    simp only [Json.inDomain, Json.membersInDomain, hindex, inDomain_identity, Bool.and_self]
  obtain ⟨recordId, hrecordId⟩ := hdumps.digest_iff.mpr hid
  have hderived : record.recordId = .ok recordId := by
    have hsafe : requireSafeInteger "decision_index" record.decisionIndex = .ok () := by
      rw [requireSafeInteger, if_pos record.index_bounds]
    apply Runs.bind_of_ok hsafe
    exact hrecordId
  have henvelope : (Json.obj [("record_id", .str recordId), ("payload", record.toPayload)]).inDomain =
      true := by
    simp only [Json.inDomain, Json.membersInDomain, inDomain_payload, Bool.and_self]
  obtain ⟨digest, hdigest⟩ := hdumps.digest_iff.mpr henvelope
  refine ⟨digest, ?_⟩
  apply Runs.bind_of_ok hderived
  exact hdigest

end DecisionRecord

end BattleBelief
