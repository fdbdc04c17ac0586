import BattleBelief.Actions.RequestReader
import BattleBelief.Observation.Reducer
import BattleBelief.Protocol.FrameDecoder
import BattleBelief.Protocol.Parser
import BattleBelief.Records.DecisionRecord

/-!
# The Battle Session

One room-scoped, request-driven battle session. It reads the lines of its room in order, keeps the
observed state up to date, holds at most one request that is not answered yet, and hands a command
to the connection once request and state agree.

## What is explicit here

A method of the session is a function from the session to the session after it, or to a `Raised`
exception together with the session as the exception leaves it. What policy, connection and trace
sink do is an `Environment`, with any behaviour at all.

The `log` of a session has everything that it does to the outside, newest first, together with the
requests that it accepts as fresh. Nothing reads the log but the environment: the connection and the
sink may answer according to what they were given before. `errors` has the errors in the order in
which they come up, where the source raises or catches them; nothing reads it.
-/

namespace BattleBelief

variable [Python.UnicodeDatabase] [JsonDecoder] [Rfc8785]

/-! ## §1 Data -/

/-- One command as it is handed to the connection, with what the session knows at that moment. -/
structure SendAttempt where
  /-- The request that the command answers -/
  request : DecisionRequest
  submission : BattleSubmission
  command : String
  /-- The observed state -/
  state : ObservedState
  /-- The number of the request that was answered last -/
  answered : Option Int
  outcome : Except PyException Unit

/-- An entry of the log. -/
inductive SessionEntry where
  | freshRequest (request : DecisionRequest)
  | sendRoom (attempt : SendAttempt)
  | emit (record : DecisionRecord)
  | battleEnd
  | abort (error : PyException)

/-- The commands handed to the connection. -/
def sends (log : List SessionEntry) : List SendAttempt :=
  log.filterMap fun
    | .sendRoom attempt => some attempt
    | _ => none

/-- The records handed to the trace sink. -/
def records (log : List SessionEntry) : List DecisionRecord :=
  log.filterMap fun
    | .emit record => some record
    | _ => none

/-- The requests accepted as fresh. -/
def freshRequests (log : List SessionEntry) : List DecisionRequest :=
  log.filterMap fun
    | .freshRequest request => some request
    | _ => none

/-- Everything outside the session. -/
structure Environment where
  roomId : String
  policy : DecisionRequest → Except PyException BattleSubmission
  /-- `send_room`, after the commands of earlier calls -/
  sendRoom : List SendAttempt → String → Except PyException Unit
  /-- `trace_sink.emit`, after the records of earlier calls -/
  emit : List DecisionRecord → DecisionRecord → Except PyException Unit
  decisionRecordContext : Option MeasurementRunContext

structure PendingTrace where
  request : DecisionRequest
  observedStateDigest : String
  safeSubmissionSetDigest : String
  decisionIndex : Nat

structure BattleSession where
  state : ObservedState
  pendingRequest : Option DecisionRequest
  latestRequest : Option RequestIdentity
  submittedRequest : Option RequestIdentity
  primaryError : Option PyException
  traceError : Option PyException
  recordError : Option PyException
  done : Bool
  roomControlOrChatCount : Nat
  explicitRequestSubmissions : Nat
  defaultSubmissions : Nat
  pendingTrace : Option PendingTrace
  nextDecisionIndex : Nat
  traceFailed : Bool
  log : List SessionEntry
  /-- The errors that have occurred, newest first -/
  errors : List PyException

/-- The session that `__init__` makes. -/
def BattleSession.initial (state : ObservedState) : BattleSession where
  state := state
  pendingRequest := none
  latestRequest := none
  submittedRequest := none
  primaryError := none
  traceError := none
  recordError := none
  done := false
  roomControlOrChatCount := 0
  explicitRequestSubmissions := 0
  defaultSubmissions := 0
  pendingTrace := none
  nextDecisionIndex := 0
  traceFailed := false
  log := []
  errors := []

/-- An exception on its way out of a method, and the session as it leaves it. -/
structure Raised where
  error : PyException
  session : BattleSession

namespace BattleSession

variable (env : Environment) (session : BattleSession)

/-- Takes down that an error has occurred. -/
def occur (error : PyException) : BattleSession :=
  { session with errors := error :: session.errors }

def fail (error : PyException) : Except Raised BattleSession :=
  .error ⟨error, session.occur error⟩

/-- Keeps the first error as the primary one. -/
def notePrimary (error : PyException) : BattleSession :=
  { session with primaryError := some (session.primaryError.getD error) }

def enter (entry : SessionEntry) : BattleSession := { session with log := entry :: session.log }

/-! ## §2 Decision records -/

/-- `_handle_record_construction_failure`. -/
def handleRecordConstructionFailure : BattleSession :=
  { (session.occur .decisionRecordConstructionFailure).notePrimary
      .decisionRecordConstructionFailure with
    traceFailed := true
    recordError := some .decisionRecordConstructionFailure
    done := true }

/-- `_handle_trace_failure`. -/
def handleTraceFailure : BattleSession :=
  { (session.occur .traceSinkFailure).notePrimary .traceSinkFailure with
    traceFailed := true
    traceError := some .traceSinkFailure
    done := true }

/-- Hands a record to the sink. -/
def emitRecord (record : DecisionRecord) : BattleSession :=
  match env.emit (records session.log) record with
  | .error _ => (session.enter (.emit record)).handleTraceFailure
  | .ok () => session.enter (.emit record)

/-- `_finalize_pending`. -/
def finalizePending (status : DecisionRecordStatus) (errorCode : Option DecisionRecordErrorCode)
    (selected : Option BattleSubmission) : BattleSession :=
  match session.pendingTrace with
  | none => session
  | some pending =>
      let session := { session with pendingTrace := none }
      match env.decisionRecordContext with
      | none => session
      | some context =>
          if session.traceFailed then session
          else
            match DecisionRecord.create context status pending.decisionIndex
                pending.request.identity pending.observedStateDigest
                pending.safeSubmissionSetDigest selected errorCode with
            | .error _ => session.handleRecordConstructionFailure
            | .ok record => session.emitRecord env record

/-- `_open_trace`. -/
def openTrace (request : DecisionRequest) : Except Raised BattleSession :=
  if env.decisionRecordContext.isNone || session.traceFailed then .ok session
  else
    match observedStateDigest session.state with
    | .error err => session.fail err
    | .ok stateDigest =>
        match safeSubmissionSetDigest request.safeSubmissions with
        | .error err => session.fail err
        | .ok safeDigest =>
            .ok { session with
              pendingTrace := some ⟨request, stateDigest, safeDigest, session.nextDecisionIndex⟩
              nextDecisionIndex := session.nextDecisionIndex + 1 }

/-- `_refresh_pending_trace_state`. -/
def refreshPendingTraceState : Except Raised BattleSession :=
  match session.pendingTrace with
  | none => .ok session
  | some pending =>
      match observedStateDigest session.state with
      | .error err => session.fail err
      | .ok stateDigest =>
          .ok { session with
            pendingTrace := some { pending with observedStateDigest := stateDigest } }

/-! ## §3 Submission -/

/-- The code that a failed send is recorded under. -/
def sendErrorCode : PyException → DecisionRecordErrorCode
  | .serverInvalidChoice _ => .serverInvalidChoice
  | .serverUnavailableChoice _ => .serverUnavailableChoice
  | _ => .sendFailed

/-- Counts a submission that has been sent. -/
def countSubmission (authorized : BattleSubmission) : BattleSession :=
  match authorized.provenance with
  | .explicitRequest =>
      { session with explicitRequestSubmissions := session.explicitRequestSubmissions + 1 }
  | .serverDefault => { session with defaultSubmissions := session.defaultSubmissions + 1 }

/-- Disposes of the pending request by an error, and raises it. -/
def refuse (error : PyException) (status : DecisionRecordStatus)
    (errorCode : DecisionRecordErrorCode) (selected : Option BattleSubmission) :
    Except Raised BattleSession :=
  .error ⟨error, ((session.occur error).notePrimary error).finalizePending env status
    (some errorCode) selected⟩

/-- The end of `_submit`: the command is handed over, and only then counts as submitted. -/
def sendCommand (request : DecisionRequest) (authorized : BattleSubmission) (command : String) :
    Except Raised BattleSession :=
  let outcome := env.sendRoom (sends session.log) command
  let answered := session.submittedRequest.map fun identity => identity.rqid
  let session := session.enter (.sendRoom
    ⟨request, authorized, command, session.state, answered, outcome⟩)
  match outcome with
  | .error err => session.refuse env err .sendFailed (sendErrorCode err) (some authorized)
  | .ok () =>
      let session := { session.countSubmission authorized with
        submittedRequest := some request.identity
        pendingRequest := none }
      .ok (session.finalizePending env .submitted none (some authorized))

/-- The part of `_submit` after the policy has chosen. -/
def submitCandidate (request : DecisionRequest) (candidate : BattleSubmission) :
    Except Raised BattleSession :=
  match authorize candidate request.identity request.safeSubmissions with
  | .error err =>
      match err with
      | .localActionGateRejection _ =>
          session.refuse env err .actionGateRejected .localActionGateRejection (some candidate)
      | _ => session.fail err
  | .ok authorized =>
      match encodeSubmission authorized with
      | .error err =>
          session.refuse env err .commandEncodingFailed .commandEncodingFailed (some authorized)
      | .ok text =>
          session.sendCommand env request authorized s!"/choose {text}|{request.identity.rqid}"

/-- `_submit`. -/
def submit (request : DecisionRequest) : Except Raised BattleSession :=
  if some request.identity = session.submittedRequest then
    .ok { session with pendingRequest := none }
  else if request.kind = .wait then
    let session := { session with
      submittedRequest := some request.identity
      pendingRequest := none }
    .ok (session.finalizePending env .waitNoop none none)
  else
    match env.policy request with
    | .error err =>
        match err with
        | .noLegalActionError _ =>
            session.refuse env err .policyRejected .noLegalActionAvailable none
        | _ => session.fail err
    | .ok candidate => session.submitCandidate env request candidate

/-! ## §4 Reconciliation -/

/-- `_reject_reconciliation`, with the raise of its callers. -/
def rejectReconciliation (message : String) : Except Raised BattleSession :=
  session.refuse env (.requestStateReconciliationMismatch message) .reconciliationRejected
    .requestStateReconciliationMismatch none

/-- `_retry_pending`. -/
def retryPending (reason : String) (strict : Bool) : Except Raised BattleSession :=
  match session.pendingRequest with
  | none => .ok session
  | some request =>
      let latestRqid := session.submittedRequest.map fun identity => identity.rqid
      match reconcile env.roomId request session.state latestRqid with
      | .error err => session.fail err
      | .ok result =>
          match result.status with
          | .reject => session.rejectReconciliation env s!"{reason}: {result.reason}"
          | .pendingPublicState =>
              let activeIdentityPending := result.reason = activeNotYetKnown.reason
              if strict || (session.state.battleStarted && !activeIdentityPending) then
                session.rejectReconciliation env s!"{reason}: {result.reason}"
              else .ok session
          | .accept => do
              let session ← session.refreshPendingTraceState
              session.submit env request

/-! ## §5 Lines -/

/-- The error that a line ends in, for one of parser or reducer. -/
def reducerFailure : PyException → PyException
  | .reducerInvariantError fault => .reducerInvariantFailure fault.text
  | err => err

/-- The event of a line and the state after it. -/
def observeEvent (state : ObservedState) (parsed : Except PyException BattleEvent) :
    Except PyException (BattleEvent × ObservedState) :=
  (do
    let event ← parsed
    let state ← reduce state event
    pure (event, state)).mapError reducerFailure

/-- The reason for looking at a pending request again, and whether it must then reconcile. -/
def retryOf : BattleEvent → Option (String × Bool)
  | .turnStarted event => some (s!"pending request unresolved before turn {event.turn}", true)
  | .battleStarted _ => some ("pending request did not reconcile", true)
  | .gameTypeDeclared _ => some ("pending request did not reconcile", false)
  | .generationDeclared _ => some ("pending request did not reconcile", false)
  | .playerDeclared _ => some ("pending request did not reconcile", false)
  | .tierDeclared _ => some ("pending request did not reconcile", false)
  | .pokemonDragged _ => some ("pending request did not reconcile", false)
  | .pokemonSwitched _ => some ("pending request did not reconcile", false)
  | _ => none

def endsBattle : BattleEvent → Bool
  | .battleWon _ => true
  | .battleTied _ => true
  | _ => false

/-- The session after a win or a tie. -/
def finish : BattleSession :=
  { (session.enter .battleEnd).finalizePending env .terminallyDiscarded none none with
    pendingRequest := none
    done := true }

/-- The event of a battle line, at the next index, and the state after it. -/
def observeLine (payload : String) : Except PyException (BattleEvent × ObservedState) :=
  observeEvent session.state
    (parseBattleLine payload (session.state.eventIndex + 1) (some env.roomId))

/-- `_process_battle_event`. -/
def processBattleEvent (payload : String) : Except Raised BattleSession :=
  match session.observeLine env payload with
  | .error err => session.fail err
  | .ok (event, state) =>
      let session := { session with state := state }
      if endsBattle event then .ok (session.finish env)
      else
        match retryOf event with
        | some (reason, strict) => session.retryPending env reason strict
        | none => .ok session

/-- The state after a timer message. -/
def observeTimer (payload : String) : Except PyException (BattleEvent × ObservedState) :=
  observeEvent session.state (parseInactiveLine payload (session.state.eventIndex + 1))

/-- `_process_timer`. -/
def processTimer (payload : String) : Except Raised BattleSession :=
  match session.observeTimer payload with
  | .error err => session.fail err
  | .ok (_, state) => .ok { session with state := state }

/-- `_process_battle_error`. -/
def battleError (payload : String) : PyException :=
  if Python.startsWith payload "|error|[Invalid choice]" then .serverInvalidChoice payload
  else if Python.startsWith payload "|error|[Unavailable choice]" then
    .serverUnavailableChoice payload
  else .malformedProtocolMessage s!"unclassified battle error: {Python.repr payload}"

/-- `_check_freshness`: whether a request is known already. -/
def checkFreshness (latest : Option RequestIdentity) (identity : RequestIdentity) :
    Except PyException Bool :=
  match latest with
  | none => .ok false
  | some latest =>
      if identity.rqid < latest.rqid then
        .error (.staleRequestIdentity
          s!"request rqid={identity.rqid} is older than latest rqid={latest.rqid}")
      else if identity.rqid = latest.rqid then
        if identity.requestDigest = latest.requestDigest then .ok true
        else
          .error (.requestStateReconciliationMismatch
            s!"request rqid={identity.rqid} changed without a server error")
      else .ok false

/-- The session once a request has passed the freshness check: it supersedes a pending one. -/
def acceptFresh (request : DecisionRequest) : BattleSession :=
  let session := session.finalizePending env .supersededBeforeSelection none none
  { session.enter (.freshRequest request) with
    latestRequest := some request.identity
    pendingRequest := some request }

/-- `read_request` on the text after `|request|`. -/
def readPayload (payload : String) : Except PyException DecisionRequest :=
  readRequest env.roomId (Python.dropChars payload 9)

/-- `_process_request`. -/
def processRequest (payload : String) : Except Raised BattleSession :=
  match readPayload env payload with
  | .error err => session.fail err
  | .ok request =>
      match checkFreshness session.latestRequest request.identity with
      | .error err => session.fail err
      | .ok true => .ok session
      | .ok false => do
          let session ← (session.acceptFresh env request).openTrace env request
          if session.done then .ok session
          else session.retryPending env "request received" false

/-- `_process_line`. -/
def processLine (payload : String) : Except Raised BattleSession :=
  match classifyRoomPayload payload with
  | .battleEvent => session.processBattleEvent env payload
  | .decisionRequest => session.processRequest env payload
  | .battleError => session.fail (battleError payload)
  | .timerMessage => session.processTimer payload
  | .roomControlOrChat =>
      .ok { session with roomControlOrChatCount := session.roomControlOrChatCount + 1 }
  | .unknown =>
      session.fail (.unknownProtocolEvent s!"unknown room payload: {Python.repr payload}")

/-! ## §6 The run -/

/-- `_ABORT_RECORD_ERROR_CODES`. -/
def abortRecordErrorCodes : List DecisionRecordErrorCode :=
  [.sessionAborted, .reconciliationRejected].flatMap fun status =>
    (statusErrorCodes status).getD []

/-- `_record_error_code`. -/
def recordErrorCode (error : PyException) : Option DecisionRecordErrorCode :=
  (DecisionRecordErrorCode.ofValue error.code).filter fun code => code ∈ abortRecordErrorCodes

/-- The record that an aborted session leaves of its pending request. -/
def finalizeAborted (error : PyException) : BattleSession :=
  match recordErrorCode error with
  | none => session
  | some code =>
      if code = .requestStateReconciliationMismatch || code = .staleRqid then
        session.finalizePending env .freshnessInvalidated none none
      else session.finalizePending env .sessionAborted (some code) none

/-- `_abort`. -/
def abort (error : PyException) : BattleSession :=
  { ((session.notePrimary error).enter (.abort error)).finalizeAborted env error with
    pendingRequest := none
    done := true }

/-- The session after a line: an exception aborts it. -/
def settle (result : Except Raised BattleSession) : BattleSession :=
  match result with
  | .ok session => session
  | .error raised => raised.session.abort env raised.error

/-- One round of the loop of `run`. A session that is done has left the loop. -/
def feed (line : RoomLine) : BattleSession :=
  if session.done then session
  else if line.roomId ≠ some env.roomId then session
  else settle env (session.processLine env line.payload)

/-- The loop of `run` over the lines that the connection yields. -/
def feedAll (lines : List RoomLine) : BattleSession := lines.foldl (feed env) session

/-- `run`: the connection yields `lines`, and then ends, or raises `ending`. -/
def run (lines : List RoomLine) (ending : Option PyException) : BattleSession :=
  let session := session.feedAll env lines
  match ending with
  | none => session
  | some error => if session.done then session else (session.occur error).abort env error

end BattleSession

end BattleBelief
