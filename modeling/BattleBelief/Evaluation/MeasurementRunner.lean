import BattleBelief.Session.MeasurementSession
import BattleBelief.Library.Runs

/-!
# The Measurement Runner

Runs one measurement session, flushes and closes its trace sink, and sums the outcome up in a
result. The result is derived from three sources, the session, the ledger of the sink and its
lifecycle, and is checked against them by a validator of its own.
-/

namespace BattleBelief

open Runs

/-! ## §1 Results -/

inductive RunStatus where
  | completed
  | failed
  | aborted
  | traceFailed
  | noRequest
  | incomplete
  deriving DecidableEq, Repr

inductive BattleOutcome where
  | ourWin
  | opponentWin
  | tie
  | void
  | incomplete
  deriving DecidableEq, Repr

inductive TraceStatus where
  | emitted
  | noRecords
  | sinkFailed
  | notAttempted
  deriving DecidableEq, Repr

/-- `_ALLOWED_ERROR_CODES`. -/
def allowedErrorCodes : List String :=
  DecisionRecordErrorCode.all.map DecisionRecordErrorCode.value ++
    ["trace_sink_failure", "decision_record_construction_failure", "runtime_error"]

/-- A character of a code: `[a-z0-9_]` -/
def isCodeChar (c : Char) : Bool := ('a' ≤ c && c ≤ 'z') || ('0' ≤ c && c ≤ '9') || c = '_'

/-- `_CODE_RE`: `^[a-z][a-z0-9_]{0,63}$` -/
def isStableCode (text : String) : Bool :=
  match text.toList with
  | [] => false
  | c :: rest => 'a' ≤ c && c ≤ 'z' && rest.length ≤ 63 && rest.all isCodeChar

/-- The fields of a result, before the checks. -/
structure RunResultFields where
  schemaVersion : Int
  runContextDigest : String
  runStatus : RunStatus
  battleOutcome : BattleOutcome
  primaryErrorClass : Option String
  decisionRecordDigests : List String
  explicitSubmissionCount : Int
  defaultSubmissionCount : Int
  roomControlOrChatCount : Int
  ignoredDisplayCount : Int
  finalObservedStateDigest : String
  traceStatus : TraceStatus

namespace RunResultFields

variable (fields : RunResultFields)

/-- The counters, by name. -/
def counts : List (String × Int) :=
  [("explicit_submission_count", fields.explicitSubmissionCount),
    ("default_submission_count", fields.defaultSubmissionCount),
    ("room_control_or_chat_count", fields.roomControlOrChatCount),
    ("ignored_display_count", fields.ignoredDisplayCount)]

/-- The checks of `__post_init__`. -/
def checks : List (Bool × String) :=
  [(decide (fields.schemaVersion ≠ 1), "unsupported measurement-run-result schema version"),
    (!isDigest fields.runContextDigest, "run_context_digest must be a sha256 digest"),
    (!isDigest fields.finalObservedStateDigest,
      "final_observed_state_digest must be a sha256 digest"),
    (fields.primaryErrorClass.any fun code => !isStableCode code || code ∉ allowedErrorCodes,
      "primary_error_class must be an allowed stable code or null"),
    (!fields.decisionRecordDigests.all isDigest,
      "decision_record_digests must be a tuple of digests"),
    (!fields.decisionRecordDigests.Nodup, "decision_record_digests must be unique")] ++
    fields.counts.map fun (name, value) =>
      (!(0 ≤ value && value ≤ maxSafeInteger), s!"{name} must be a JCS-safe non-negative integer")

end RunResultFields

structure MeasurementRunResult extends RunResultFields where
  valid : firstFault toRunResultFields.checks = none

/-- The constructor with the checks of its `__post_init__`. -/
def RunResultFields.toResult (fields : RunResultFields) : Except PyException MeasurementRunResult :=
  if h : firstFault fields.checks = none then .ok ⟨fields, h⟩ else .error (faultError fields.checks)

/-! ## §2 Error codes -/

/-- `type(error).__name__`. -/
def PyException.className : PyException → String
  | .reducerInvariantError _ => "ReducerInvariantError"
  | .reducerInvariantFailure _ => "ReducerInvariantFailure"
  | .staleRequestIdentity _ => "StaleRequestIdentity"
  | .localActionGateRejection _ => "LocalActionGateRejection"
  | .noLegalActionError _ => "NoLegalActionError"
  | .traceSinkFailure => "TraceSinkFailure"
  | .decisionRecordConstructionFailure => "DecisionRecordConstructionFailure"
  | .unknownProtocolEvent _ => "UnknownProtocolEvent"
  | .malformedProtocolMessage _ => "MalformedProtocolMessage"
  | .requestStateReconciliationMismatch _ => "RequestStateReconciliationMismatch"
  | .transportTimeout _ => "TransportTimeout"
  | .disconnect _ => "Disconnect"
  | .timerOrForfeit _ => "TimerOrForfeit"
  | .serverInvalidChoice _ => "ServerInvalidChoice"
  | .serverUnavailableChoice _ => "ServerUnavailableChoice"
  | .valueError _ => "ValueError"
  | .assertionError => "AssertionError"
  | .other className _ => className

/-- `re.sub(r"(?<!^)(?=[A-Z])", "_", name)`; `first` holds at the start of the name. -/
def separateWords : Bool → List Char → List Char
  | _, [] => []
  | first, c :: rest =>
      if !first && 'A' ≤ c && c ≤ 'Z' then '_' :: c :: separateWords false rest
      else c :: separateWords false rest

/-- `re.sub(r"[^a-z0-9_]+", "_", name)`; `inside` holds within a run of other characters. -/
def joinOthers : Bool → List Char → List Char
  | _, [] => []
  | inside, c :: rest =>
      if isCodeChar c then c :: joinOthers false rest
      else if inside then joinOthers true rest
      else '_' :: joinOthers true rest

/-- The code that the name of a class stands for. -/
def classCode (name : String) : String :=
  let snakeName := Python.lower (String.ofList (separateWords true name.toList))
  let joined := (joinOthers false snakeName.toList).dropWhile fun c => c = '_'
  String.ofList (joined.reverse.dropWhile fun c => c = '_').reverse

/-- `_stable_error_code`: the code of an error, or what the name of its class stands for. An error
without a code has the empty text for one, which is not allowed. -/
def stableErrorCode (error : PyException) : String :=
  if error.code ∈ allowedErrorCodes then error.code
  else
    let code := classCode error.className
    if code ∈ allowedErrorCodes then String.ofList (code.toList.take 64) else "runtime_error"

/-! ## §3 The validator -/

/-- The complaints of the checks that fail, in order. -/
def complaints (checks : List (Bool × String)) : List String := (checks.filter Prod.fst).map Prod.snd

/-- The outcomes that a winner proves. -/
def outcomeByWinner : String → Option BattleOutcome
  | "our_side" => some .ourWin
  | "opponent_side" => some .opponentWin
  | "tie" => some .tie
  | _ => none

/-- The outcome that the winner of the projection proves. -/
def provenOutcome (state : ObservedState) : Option BattleOutcome :=
  (winnerProjection state).bind outcomeByWinner

/-- Some submissions may be counted that there is no record of. -/
def partialTrace (result : RunResultFields) (records : List DecisionRecord) : Bool :=
  result.traceStatus = .sinkFailed &&
    (result.primaryErrorClass = some "trace_sink_failure" ||
      records.any fun record => record.recordStatus = .submitted)

def countChecks (result : RunResultFields) (records : List DecisionRecord) : List (Bool × String) :=
  let explicit : Int := submittedCount .explicitRequest records
  let default : Int := submittedCount .serverDefault records
  if partialTrace result records then
    [(result.explicitSubmissionCount < explicit,
        "explicit submission count is below accepted records"),
      (result.defaultSubmissionCount < default,
        "default submission count is below accepted records")]
  else
    [(result.explicitSubmissionCount ≠ explicit, "explicit submission count does not match records"),
      (result.defaultSubmissionCount ≠ default, "default submission count does not match records")]

/-- The checks against the records, whose digests are given. -/
def recordChecks (result : RunResultFields) (records : List DecisionRecord)
    (digests : List String) : List (Bool × String) :=
  if records.isEmpty then
    [(!result.decisionRecordDigests.isEmpty, "decision record digests have no corresponding records")]
  else
    let indices := records.map fun record => record.decisionIndex
    [(decide (digests ≠ result.decisionRecordDigests),
        "decision record digests are not in decision order"),
      (indices ≠ indices.insertionSort (· ≤ ·) || !indices.Nodup,
        "decision records have invalid decision_index order"),
      (records.any fun record => record.runContextDigest ≠ result.runContextDigest,
        "decision records do not share the run context")] ++
      countChecks result records

def traceChecks (result : RunResultFields) : List (Bool × String) :=
  let hasRecords := !result.decisionRecordDigests.isEmpty
  [(hasRecords && result.traceStatus ≠ .emitted && result.traceStatus ≠ .sinkFailed,
      "record digests require an emitted trace or sink failure"),
    (!hasRecords && result.traceStatus = .emitted, "an emitted trace requires at least one record")]

/-- `_validate_status_matrix`. -/
def validateStatusMatrix (result : RunResultFields) : List (Bool × String) :=
  let hasRecords := !result.decisionRecordDigests.isEmpty
  let silent := result.traceStatus = .noRecords || result.traceStatus = .notAttempted
  let statusChecks : List (Bool × String) :=
    match result.runStatus with
    | .completed =>
        [(result.primaryErrorClass.isSome, "completed result must not have a primary error"),
          (!hasRecords || result.traceStatus ≠ .emitted,
            "completed result requires an emitted decision record")]
    | .noRequest =>
        [(result.primaryErrorClass.isSome, "no_request result must not have a primary error"),
          (hasRecords || !silent, "no_request result must not contain decision records"),
          (result.explicitSubmissionCount ≠ 0 || result.defaultSubmissionCount ≠ 0,
            "no_request result must have zero submission counters")]
    | .traceFailed =>
        [(result.primaryErrorClass ≠ some "trace_sink_failure",
            "trace_failed result requires trace_sink_failure"),
          (result.traceStatus ≠ .sinkFailed,
            "trace_failed result requires sink_failed trace status")]
    | .failed | .aborted =>
        [(result.primaryErrorClass.isNone, "failed result requires a primary error")]
    | .incomplete =>
        [(result.primaryErrorClass.isSome, "incomplete result must not have a primary error"),
          (result.battleOutcome ≠ .incomplete,
            "incomplete result requires incomplete battle outcome")]
  statusChecks ++
    [(silent && hasRecords, "record digests contradict an empty trace status"),
      (result.traceStatus = .emitted && !hasRecords, "emitted trace status requires record digests")]

/-- The class of the primary error that the result of a session asks for. -/
def expectedPrimary (result : RunResultFields) (session : BattleSessionResult) : Option String :=
  let expected := session.primaryError.map stableErrorCode
  if expected.isNone && result.primaryErrorClass = some "trace_sink_failure" &&
      result.traceStatus = .sinkFailed then
    some "trace_sink_failure"
  else expected

def sessionChecks (result : RunResultFields) (session : BattleSessionResult) :
    List (Bool × String) :=
  [(result.roomControlOrChatCount ≠ session.roomControlOrChatCount,
      "room-control count does not match session result"),
    (result.explicitSubmissionCount ≠ session.explicitRequestSubmissions,
      "explicit count does not match session result"),
    (result.defaultSubmissionCount ≠ session.defaultSubmissions,
      "default count does not match session result"),
    (result.primaryErrorClass ≠ expectedPrimary result session,
      "primary error class does not match session result"),
    (session.traceError.isSome && result.traceStatus ≠ .sinkFailed,
      "trace status does not match session trace error"),
    (session.recordError.isSome && result.traceStatus = .emitted,
      "record construction failure cannot emit a complete trace")]

/-- The checks against the final state, whose digest is given. -/
def finalStateChecks (result : RunResultFields) (state : ObservedState) (stateDigest : String) :
    List (Bool × String) :=
  let expected := provenOutcome state
  [(result.finalObservedStateDigest ≠ stateDigest,
      "final observed-state digest does not match state"),
    (result.ignoredDisplayCount ≠ state.ignoredDisplayCount,
      "ignored-display count does not match state"),
    (expected.isSome && some result.battleOutcome ≠ expected,
      "battle outcome does not match final state"),
    (expected.isNone && (result.battleOutcome = .ourWin || result.battleOutcome = .opponentWin ||
        result.battleOutcome = .tie),
      "winner outcome cannot be proven from final state")]

section Runner

variable [Python.UnicodeDatabase] [Rfc8785]

/-- `validate_measurement_run_result`. -/
def validateMeasurementRunResult (result : MeasurementRunResult) (records : List DecisionRecord)
    (session : Option BattleSessionResult) (finalState : Option ObservedState) :
    Except PyException (List String) := do
  let digests ← records.mapM DecisionRecord.recordDigest
  let stateDigests ← finalState.toList.mapM observedStateDigest
  let fields := result.toRunResultFields
  pure (complaints (recordChecks fields records digests ++ traceChecks fields ++
    validateStatusMatrix fields ++ session.toList.flatMap (sessionChecks fields) ++
    (finalState.toList.zip stateDigests).flatMap fun (state, stateDigest) =>
      finalStateChecks fields state stateDigest))

/-! ## §4 The runner -/

/-- Whether flushing or closing the sink raises. Both are tried. -/
def lifecycleFailed (sink : RecordingTraceSink) : Bool :=
  !sink.flush.isOk || !sink.close.isOk

section Summary

variable (session : BattleSessionResult) (lifecycleFailed : Bool)

/-- `trace_error`. -/
def traceErrorOf : Bool := session.traceError.isSome || lifecycleFailed

def traceStatusOf (records : List DecisionRecord) : TraceStatus :=
  if traceErrorOf session lifecycleFailed then .sinkFailed
  else if !records.isEmpty then .emitted
  else if session.recordError.isSome then .notAttempted
  else .noRecords

def battleOutcomeOf : BattleOutcome :=
  (provenOutcome session.state).getD
    (if session.primaryError.isSome then .void else .incomplete)

/-- `primary_error`: a failure of the lifecycle stands in where there is no other error. -/
def primaryErrorOf : Option PyException :=
  if lifecycleFailed && session.primaryError.isNone then some .traceSinkFailure
  else session.primaryError

/-- `trace_only_failure`. -/
def traceOnlyFailure : Bool :=
  traceErrorOf session lifecycleFailed &&
    (session.primaryError.isNone ||
      session.primaryError.map stableErrorCode = some "trace_sink_failure")

def primaryErrorClassOf : Option String :=
  if traceOnlyFailure session lifecycleFailed then some "trace_sink_failure"
  else (primaryErrorOf session lifecycleFailed).map stableErrorCode

def runStatusOf (records : List DecisionRecord) : RunStatus :=
  if traceOnlyFailure session lifecycleFailed then .traceFailed
  else if (primaryErrorOf session lifecycleFailed).isSome then .failed
  else if records.isEmpty then .noRequest
  else .completed

/-- The fields of the result. -/
def summarize (runContextDigest : String) (records : List DecisionRecord) (digests : List String)
    (stateDigest : String) : RunResultFields where
  schemaVersion := 1
  runContextDigest := runContextDigest
  runStatus := runStatusOf session lifecycleFailed records
  battleOutcome := battleOutcomeOf session
  primaryErrorClass := primaryErrorClassOf session lifecycleFailed
  decisionRecordDigests := digests
  explicitSubmissionCount := session.explicitRequestSubmissions
  defaultSubmissionCount := session.defaultSubmissions
  roomControlOrChatCount := session.roomControlOrChatCount
  ignoredDisplayCount := session.state.ignoredDisplayCount
  finalObservedStateDigest := stateDigest
  traceStatus := traceStatusOf session lifecycleFailed records

end Summary

variable [JsonDecoder]

/-- A runner that has passed its constructor, which compares the run context with a schedule row. -/
structure MeasurementRunner where
  session : MeasurementSession
  runContext : MeasurementRunContext

/-- `run`. -/
def MeasurementRunner.run (runner : MeasurementRunner) : Except PyException MeasurementRunResult := do
  let session := runner.session.run.resultSnapshot
  let sink := runner.session.traceSink
  let records := sink.records
  let accepted ← sink.acceptedRecordDigests
  refuseIf (sink.acceptedRecordCount ≠ accepted.length)
    (.valueError "accepted record ledger count is inconsistent")
  let digests ← records.mapM DecisionRecord.recordDigest
  refuseIf (accepted ≠ digests)
    (.valueError "accepted record ledger does not match retained records")
  let stateDigest ← observedStateDigest session.state
  let result ← (summarize session (lifecycleFailed sink) runner.runContext.runContextDigest records
    digests stateDigest).toResult
  let errors ← validateMeasurementRunResult result records (some session) (some session.state)
  refuseIf (errors ≠ [])
    (.valueError ("invalid measurement-run result: " ++ Python.join "; " errors))
  pure result

end Runner

end BattleBelief
