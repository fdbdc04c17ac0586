import BattleBelief.Records.PublicProjection

/-!
# Decision Records

The record that a session leaves of one decision request: how the request was disposed of, what was
selected and which error stood in the way, together with the identity of the run. Contexts and
records carry the checks of their constructors.

- `DecisionRecord.create_ok`: a record can be made from safe numbers, digests and a disposition that the matrix of statuses allows
-/

namespace BattleBelief

open Python (Json)

/-! ## §1 Statuses and error codes -/

inductive DecisionRecordStatus where
  | submitted
  | waitNoop
  | policyRejected
  | actionGateRejected
  | commandEncodingFailed
  | sendFailed
  | sessionAborted
  | supersededBeforeSelection
  | terminallyDiscarded
  | reconciliationRejected
  | freshnessInvalidated
  deriving DecidableEq, Repr

inductive DecisionRecordErrorCode where
  | noLegalActionAvailable
  | localActionGateRejection
  | commandEncodingFailed
  | sendFailed
  | serverInvalidChoice
  | serverUnavailableChoice
  | requestStateReconciliationMismatch
  | staleRqid
  | disconnect
  | transportTimeout
  | timerOrForfeit
  | unknownProtocolEvent
  | malformedProtocolMessage
  | reducerInvariantFailure
  deriving DecidableEq, Repr

def DecisionRecordErrorCode.value : DecisionRecordErrorCode → String
  | .noLegalActionAvailable => "no_legal_action_available"
  | .localActionGateRejection => "local_action_gate_rejection"
  | .commandEncodingFailed => "command_encoding_failed"
  | .sendFailed => "send_failed"
  | .serverInvalidChoice => "server_invalid_choice"
  | .serverUnavailableChoice => "server_unavailable_choice"
  | .requestStateReconciliationMismatch => "request_state_reconciliation_mismatch"
  | .staleRqid => "stale_rqid"
  | .disconnect => "disconnect"
  | .transportTimeout => "transport_timeout"
  | .timerOrForfeit => "timer_or_forfeit"
  | .unknownProtocolEvent => "unknown_protocol_event"
  | .malformedProtocolMessage => "malformed_protocol_message"
  | .reducerInvariantFailure => "reducer_invariant_failure"

/-- Every error code, in the order of the enumeration. -/
def DecisionRecordErrorCode.all : List DecisionRecordErrorCode :=
  [.noLegalActionAvailable, .localActionGateRejection, .commandEncodingFailed, .sendFailed,
    .serverInvalidChoice, .serverUnavailableChoice, .requestStateReconciliationMismatch,
    .staleRqid, .disconnect, .transportTimeout, .timerOrForfeit, .unknownProtocolEvent,
    .malformedProtocolMessage, .reducerInvariantFailure]

/-- `DecisionRecordErrorCode(value)`, where it does not raise. -/
def DecisionRecordErrorCode.ofValue (value : String) : Option DecisionRecordErrorCode :=
  DecisionRecordErrorCode.all.find? fun code => code.value = value

/-- `STATUS_ERROR_CODES`: the statuses that ask for an error code, and those they accept. -/
def statusErrorCodes : DecisionRecordStatus → Option (List DecisionRecordErrorCode)
  | .policyRejected => some [.noLegalActionAvailable]
  | .actionGateRejected => some [.localActionGateRejection]
  | .commandEncodingFailed => some [.commandEncodingFailed]
  | .sendFailed => some [.sendFailed, .serverInvalidChoice, .serverUnavailableChoice]
  | .sessionAborted =>
      some [.disconnect, .transportTimeout, .timerOrForfeit, .unknownProtocolEvent,
        .malformedProtocolMessage, .reducerInvariantFailure]
  | .reconciliationRejected => some [.requestStateReconciliationMismatch, .staleRqid]
  | _ => none

def selectedRequired : List DecisionRecordStatus :=
  [.submitted, .actionGateRejected, .commandEncodingFailed, .sendFailed]

def selectionForbidden : List DecisionRecordStatus :=
  [.waitNoop, .policyRejected, .supersededBeforeSelection, .terminallyDiscarded,
    .reconciliationRejected, .freshnessInvalidated]

def errorForbidden : List DecisionRecordStatus :=
  [.submitted, .waitNoop, .supersededBeforeSelection, .terminallyDiscarded, .freshnessInvalidated]

/-- The checks on how a status goes together with a selection and an error code. -/
def dispositionChecks (status : DecisionRecordStatus) (errorCode : Option DecisionRecordErrorCode)
    (selected : Bool) : List (Bool × String) :=
  [(status ∈ selectedRequired && !selected, "record status requires selected_submission"),
    (status ∈ selectionForbidden && selected, "record status must not contain selected_submission"),
    (status ∈ errorForbidden && errorCode.isSome, "record status must not contain an error class"),
    ((statusErrorCodes status).isSome && errorCode.isNone, "record status requires an error class"),
    ((statusErrorCodes status).any fun codes => !errorCode.any fun code => code ∈ codes,
      "error class is not valid for record status")]

/-- No check of `dispositionChecks` fails. -/
def isDisposition (status : DecisionRecordStatus) (errorCode : Option DecisionRecordErrorCode)
    (selected : Bool) : Bool :=
  (dispositionChecks status errorCode selected).all fun check => !check.1

/-! ## §2 The run context -/

/-- `_ARM_ID_RE`: runs of lower-case letters and digits with single separators between them.
`afterSeparator` holds where a run must begin. -/
def armIdChars : Bool → List Char → Bool
  | afterSeparator, [] => !afterSeparator
  | afterSeparator, c :: rest =>
      if ('a' ≤ c && c ≤ 'z') || ('0' ≤ c && c ≤ '9') then armIdChars false rest
      else (c = '-' || c = '_') && !afterSeparator && armIdChars true rest

def isArmId (text : String) : Bool := armIdChars true text.toList

structure RuntimeAndContractDigests where
  runtimeDigest : String
  contractSetDigest : String
  policyDigest : String
  fallbackAndSafetyDigest : String
  valid : [runtimeDigest, contractSetDigest, policyDigest, fallbackAndSafetyDigest].all isDigest
  deriving DecidableEq

structure RunContextPayload where
  schemaVersion : Int
  evaluationRunBindingDigest : String
  runScopeDigest : String
  battleIdDigest : String
  battleOrdinal : Int
  version : schemaVersion = 1
  digests : [evaluationRunBindingDigest, runScopeDigest, battleIdDigest].all isDigest
  ordinal : 0 ≤ battleOrdinal ∧ battleOrdinal ≤ maxSafeInteger
  deriving DecidableEq

def RunContextPayload.toDict (payload : RunContextPayload) : Json :=
  .obj [("schema_version", .int payload.schemaVersion),
    ("evaluation_run_binding_digest", .str payload.evaluationRunBindingDigest),
    ("run_scope_digest", .str payload.runScopeDigest),
    ("battle_id_digest", .str payload.battleIdDigest),
    ("battle_ordinal", .int payload.battleOrdinal)]

structure RunScopePayload where
  registrationDigest : String
  armBindingDigest : String
  scheduleDigest : String
  scheduleRowId : String
  budgetProfileDigest : String
  seedFamilyDigest : String
  runtimeDigest : String
  contractSetDigest : String
  digests : [registrationDigest, armBindingDigest, scheduleDigest, budgetProfileDigest,
    seedFamilyDigest, runtimeDigest, contractSetDigest].all isDigest
  rowId : scheduleRowId ≠ ""
  deriving DecidableEq

def RunScopePayload.toDict (scope : RunScopePayload) : Json :=
  .obj [("registration_digest", .str scope.registrationDigest),
    ("arm_binding_digest", .str scope.armBindingDigest),
    ("schedule_digest", .str scope.scheduleDigest),
    ("schedule_row_id", .str scope.scheduleRowId),
    ("budget_profile_digest", .str scope.budgetProfileDigest),
    ("seed_family_digest", .str scope.seedFamilyDigest),
    ("runtime_digest", .str scope.runtimeDigest),
    ("contract_set_digest", .str scope.contractSetDigest)]

structure ResolvedDecisionRecordBinding where
  evaluationRunBindingDigest : String
  registrationDigest : String
  armBindingDigest : String
  scheduleDigest : String
  budgetProfileDigest : String
  seedFamilyDigest : String
  armId : String
  runtimeAndContractDigests : RuntimeAndContractDigests
  digests : [evaluationRunBindingDigest, registrationDigest, armBindingDigest, scheduleDigest,
    budgetProfileDigest, seedFamilyDigest].all isDigest
  arm : armId.toList.length ≤ 128 ∧ isArmId armId = true
  deriving DecidableEq

/-- The part of a scope that a binding determines. -/
def RunScopePayload.bound (scope : RunScopePayload) : List String :=
  [scope.registrationDigest, scope.armBindingDigest, scope.scheduleDigest,
    scope.budgetProfileDigest, scope.seedFamilyDigest, scope.runtimeDigest,
    scope.contractSetDigest]

def ResolvedDecisionRecordBinding.expectedScope (binding : ResolvedDecisionRecordBinding) :
    List String :=
  [binding.registrationDigest, binding.armBindingDigest, binding.scheduleDigest,
    binding.budgetProfileDigest, binding.seedFamilyDigest,
    binding.runtimeAndContractDigests.runtimeDigest,
    binding.runtimeAndContractDigests.contractSetDigest]

section Contexts

variable [Rfc8785]

def deriveRunScopeDigest (scope : RunScopePayload) : Except PyException String :=
  manifestDigest scope.toDict

def requireSafeInteger (name : String) (value : Int) : Except PyException Unit :=
  if 0 ≤ value ∧ value ≤ maxSafeInteger then .ok ()
  else .error (.valueError s!"{name} must be a JCS-safe non-negative integer")

def deriveBattleIdDigest (runScopeDigest scheduleRowId : String) (battleOrdinal : Int) :
    Except PyException String := do
  requireSafeInteger "battle_ordinal" battleOrdinal
  manifestDigest (.obj [("run_scope_digest", .str runScopeDigest),
    ("schedule_row_id", .str scheduleRowId), ("battle_ordinal", .int battleOrdinal)])

/-- A measurement run. A context without a resolved binding does not pass its constructor. -/
structure MeasurementRunContext where
  payload : RunContextPayload
  runContextDigest : String
  runScope : RunScopePayload
  resolvedBinding : ResolvedDecisionRecordBinding
  digest : isDigest runContextDigest = true
  payloadDigest : manifestDigest payload.toDict = .ok runContextDigest
  binding : payload.evaluationRunBindingDigest = resolvedBinding.evaluationRunBindingDigest
  scopeDigest : deriveRunScopeDigest runScope = .ok payload.runScopeDigest
  battleId : deriveBattleIdDigest payload.runScopeDigest runScope.scheduleRowId
    payload.battleOrdinal = .ok payload.battleIdDigest
  scope : runScope.bound = resolvedBinding.expectedScope

end Contexts

/-! ## §3 Records -/

/-- The fields of a record, before the checks. -/
structure RecordFields where
  recordSchemaVersion : Int
  recordStatus : DecisionRecordStatus
  runContextDigest : String
  battleIdDigest : String
  decisionIndex : Int
  observedStateDigest : String
  safeSubmissionSetDigest : String
  selectedSubmission : Option BattleSubmission
  submissionProvenance : Option ActionProvenance
  fallbackOrErrorClass : Option DecisionRecordErrorCode
  policyOrArmId : String
  runtimeAndContractDigests : RuntimeAndContractDigests
  deriving DecidableEq

/-- The checks of `__post_init__` before the request identity is made public. -/
def RecordFields.numberChecks (fields : RecordFields) : List (Bool × String) :=
  [(fields.recordSchemaVersion ≠ 1 && fields.recordSchemaVersion ≠ 2,
      "unsupported Decision-Record schema version"),
    (fields.recordStatus = .freshnessInvalidated && fields.recordSchemaVersion ≠ 2,
      "freshness_invalidated requires Decision-Record schema v2"),
    (!(0 ≤ fields.decisionIndex && fields.decisionIndex ≤ maxSafeInteger),
      "decision_index must be a JCS-safe non-negative integer")]

/-- The checks of `__post_init__` after that. -/
def RecordFields.contentChecks (fields : RecordFields) : List (Bool × String) :=
  [(!isDigest fields.runContextDigest, "run_context_digest must be a sha256 digest"),
    (!isDigest fields.battleIdDigest, "battle_id_digest must be a sha256 digest"),
    (!isDigest fields.observedStateDigest, "observed_state_digest must be a sha256 digest"),
    (!isDigest fields.safeSubmissionSetDigest,
      "safe_submission_set_digest must be a sha256 digest"),
    (!isArmId fields.policyOrArmId, "policy_or_arm_id must be a valid arm ID"),
    (fields.selectedSubmission.isNone && fields.submissionProvenance.isSome,
      "submission provenance requires a selected submission"),
    (fields.selectedSubmission.any fun submission =>
        fields.submissionProvenance ≠ some submission.provenance,
      "submission provenance must match selected submission")] ++
    dispositionChecks fields.recordStatus fields.fallbackOrErrorClass
      fields.selectedSubmission.isSome

/-- The complaint of the first check that fails. -/
def firstFault (checks : List (Bool × String)) : Option String :=
  (checks.find? Prod.fst).map Prod.snd

structure DecisionRecord extends RecordFields where
  requestIdentity : PublicRequestIdentity
  numbers : firstFault toRecordFields.numberChecks = none
  content : firstFault toRecordFields.contentChecks = none
  deriving DecidableEq

/-- The error for checks of which one fails. -/
def faultError (checks : List (Bool × String)) : PyException :=
  .valueError ((firstFault checks).getD "")

/-- The checks of `DecisionRecord.__post_init__`. -/
def RecordFields.toRecord (fields : RecordFields) (identity : RequestIdentity) :
    Except PyException DecisionRecord :=
  if hnumbers : firstFault fields.numberChecks = none then do
    let publicIdentity ← PublicRequestIdentity.fromInternal identity
    if hcontent : firstFault fields.contentChecks = none then
      pure ⟨fields, publicIdentity, hnumbers, hcontent⟩
    else .error (faultError fields.contentChecks)
  else .error (faultError fields.numberChecks)

/-- What is taken from the run context, for a record of schema version 2. -/
def recordFields [Rfc8785] (context : MeasurementRunContext) (status : DecisionRecordStatus)
    (decisionIndex : Int) (observedStateDigest safeSubmissionSetDigest : String)
    (selected : Option BattleSubmission) (errorCode : Option DecisionRecordErrorCode) :
    RecordFields where
  recordSchemaVersion := 2
  recordStatus := status
  runContextDigest := context.runContextDigest
  battleIdDigest := context.payload.battleIdDigest
  decisionIndex := decisionIndex
  observedStateDigest := observedStateDigest
  safeSubmissionSetDigest := safeSubmissionSetDigest
  selectedSubmission := selected
  submissionProvenance := selected.map fun submission => submission.provenance
  fallbackOrErrorClass := errorCode
  policyOrArmId := context.resolvedBinding.armId
  runtimeAndContractDigests := context.resolvedBinding.runtimeAndContractDigests

/-- `DecisionRecord.create`, as the session calls it. -/
def DecisionRecord.create [Rfc8785] (context : MeasurementRunContext)
    (status : DecisionRecordStatus) (decisionIndex : Int) (identity : RequestIdentity)
    (observedStateDigest safeSubmissionSetDigest : String) (selected : Option BattleSubmission)
    (errorCode : Option DecisionRecordErrorCode) : Except PyException DecisionRecord :=
  (recordFields context status decisionIndex observedStateDigest safeSubmissionSetDigest selected
    errorCode).toRecord identity

/-! ## §4 Which records there are -/

theorem firstFault_eq_none {checks : List (Bool × String)} :
    firstFault checks = none ↔ ∀ check ∈ checks, check.1 = false := by
  simp [firstFault, List.find?_eq_none]

/-- A record has the fields that it was made of. -/
theorem RecordFields.toRecord_eq_ok {fields : RecordFields} {identity : RequestIdentity}
    {record : DecisionRecord} (h : fields.toRecord identity = .ok record) :
    record.toRecordFields = fields := by
  unfold RecordFields.toRecord at h
  cases hidentity : PublicRequestIdentity.fromInternal identity with
  | error err =>
    simp only [hidentity, bind, Except.bind] at h
    split_ifs at h
  | ok publicIdentity =>
    simp only [hidentity, bind, Except.bind] at h
    split_ifs at h
    obtain rfl := Except.ok.inj h
    rfl

/-- A record can be made when the numbers are safe, the digests are digests and the status goes
together with the selection and the error code. -/
theorem DecisionRecord.create_ok [Rfc8785] (context : MeasurementRunContext)
    {status : DecisionRecordStatus} {decisionIndex : Int} {identity : RequestIdentity}
    {observedStateDigest safeSubmissionSetDigest : String} {selected : Option BattleSubmission}
    {errorCode : Option DecisionRecordErrorCode}
    (hindex : 0 ≤ decisionIndex ∧ decisionIndex ≤ maxSafeInteger)
    {publicIdentity : PublicRequestIdentity}
    (hidentity : PublicRequestIdentity.fromInternal identity = .ok publicIdentity)
    (hstate : isDigest observedStateDigest = true)
    (hsafe : isDigest safeSubmissionSetDigest = true)
    (hdisposition : isDisposition status errorCode selected.isSome = true) :
    ∃ record, DecisionRecord.create context status decisionIndex identity observedStateDigest
        safeSubmissionSetDigest selected errorCode = .ok record ∧
      record.toRecordFields = recordFields context status decisionIndex observedStateDigest
        safeSubmissionSetDigest selected errorCode ∧ record.requestIdentity = publicIdentity := by
  have hnumbers : firstFault (recordFields context status decisionIndex observedStateDigest
      safeSubmissionSetDigest selected errorCode).numberChecks = none := by
    rw [firstFault_eq_none]
    simp [RecordFields.numberChecks, recordFields, hindex]
  have hcontent : firstFault (recordFields context status decisionIndex observedStateDigest
      safeSubmissionSetDigest selected errorCode).contentChecks = none := by
    rw [firstFault_eq_none]
    intro check hcheck
    have hbattle : isDigest context.payload.battleIdDigest = true := by
      have hall := context.payload.digests
      simp only [List.all_cons, Bool.and_eq_true] at hall
      exact hall.2.2.1
    rcases List.mem_append.mp hcheck with hcheck | hcheck
    · simp only [recordFields, context.digest, hbattle, hstate, hsafe,
        context.resolvedBinding.arm.2, List.mem_cons, List.not_mem_nil, or_false] at hcheck
      rcases hcheck with rfl | rfl | rfl | rfl | rfl | rfl | rfl
      all_goals cases selected <;> simp
    · have hpass := List.all_eq_true.mp hdisposition check hcheck
      simpa using hpass
  refine ⟨⟨_, publicIdentity, hnumbers, hcontent⟩, ?_, rfl, rfl⟩
  simp only [DecisionRecord.create, RecordFields.toRecord, hnumbers, hidentity, hcontent, bind,
    Except.bind, pure, Except.pure, dite_true]

end BattleBelief
