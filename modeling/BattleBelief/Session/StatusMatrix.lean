import BattleBelief.Session.Settlement

/-!
# The Status Matrix

Every exit at which a session disposes of a request calls `_finalize_pending` with a status, an
error code and a selection of its own. Here the calls of a run are listed, method by method, and
each of them is a disposition that the constructor of a record accepts.

- `records_run`: the records of a run are those that its calls make, in this order
- `status_matrix_closed`: the constructor accepts every call, so that no record fails to be made
-/

namespace BattleBelief

open BattleSession Outcomes

/-! ## §1 Calls -/

/-- A call of `_finalize_pending`: its arguments, and the session that it is called on. -/
structure FinalizeCall where
  session : BattleSession
  status : DecisionRecordStatus
  errorCode : Option DecisionRecordErrorCode
  selected : Option BattleSubmission

namespace BattleSession

section Refusals

variable (session : BattleSession)

/-- The call of `refuse`. -/
def refuseCall (error : PyException) (status : DecisionRecordStatus)
    (errorCode : DecisionRecordErrorCode) (selected : Option BattleSubmission) : FinalizeCall :=
  ⟨(session.occur error).notePrimary error, status, some errorCode, selected⟩

/-- The call at the end of `_abort`, if the error has a code to be recorded under. -/
def abortCalls (error : PyException) : List FinalizeCall :=
  let session := (session.notePrimary error).enter (.abort error)
  match recordErrorCode error with
  | none => []
  | some code =>
      if code = .requestStateReconciliationMismatch || code = .staleRqid then
        [⟨session, .freshnessInvalidated, none, none⟩]
      else [⟨session, .sessionAborted, some code, none⟩]

/-- The call of `_reject_reconciliation`. -/
def rejectReconciliationCall (message : String) : FinalizeCall :=
  session.refuseCall (.requestStateReconciliationMismatch message) .reconciliationRejected
    .requestStateReconciliationMismatch none

end Refusals

variable [Rfc8785] [Python.UnicodeDatabase] (env : Environment) (session : BattleSession)

/-- The call at the end of `_submit`, after the command has been handed over. -/
def sendCommandCall (request : DecisionRequest) (authorized : BattleSubmission)
    (command : String) : FinalizeCall :=
  let outcome := env.sendRoom (sends session.log) command
  let answered := session.submittedRequest.map fun identity => identity.rqid
  let session := session.enter (.sendRoom
    ⟨request, authorized, command, session.state, answered, outcome⟩)
  match outcome with
  | .error err => session.refuseCall err .sendFailed (sendErrorCode err) (some authorized)
  | .ok () =>
      ⟨{ session.countSubmission authorized with
        submittedRequest := some request.identity
        pendingRequest := none }, .submitted, none, some authorized⟩

/-- The calls of `_submit` after the policy has chosen. -/
def submitCandidateCalls (request : DecisionRequest) (candidate : BattleSubmission) :
    List FinalizeCall :=
  match authorize candidate request.identity request.safeSubmissions with
  | .error err =>
      match err with
      | .localActionGateRejection _ =>
          [session.refuseCall err .actionGateRejected .localActionGateRejection (some candidate)]
      | _ => []
  | .ok authorized =>
      match encodeSubmission authorized with
      | .error err =>
          [session.refuseCall err .commandEncodingFailed .commandEncodingFailed (some authorized)]
      | .ok text =>
          [session.sendCommandCall env request authorized s!"/choose {text}|{request.identity.rqid}"]

/-- The calls of `_submit`. -/
def submitCalls (request : DecisionRequest) : List FinalizeCall :=
  if some request.identity = session.submittedRequest then []
  else if request.kind = .wait then
    [⟨{ session with
      submittedRequest := some request.identity
      pendingRequest := none }, .waitNoop, none, none⟩]
  else
    match env.policy request with
    | .error err =>
        match err with
        | .noLegalActionError _ =>
            [session.refuseCall err .policyRejected .noLegalActionAvailable none]
        | _ => []
    | .ok candidate => session.submitCandidateCalls env request candidate

/-- The calls of `_retry_pending`. -/
def retryPendingCalls (reason : String) (strict : Bool) : List FinalizeCall :=
  match session.pendingRequest with
  | none => []
  | some request =>
      let latestRqid := session.submittedRequest.map fun identity => identity.rqid
      match reconcile env.roomId request session.state latestRqid with
      | .error _ => []
      | .ok result =>
          match result.status with
          | .reject => [session.rejectReconciliationCall s!"{reason}: {result.reason}"]
          | .pendingPublicState =>
              let activeIdentityPending := result.reason = activeNotYetKnown.reason
              if strict || (session.state.battleStarted && !activeIdentityPending) then
                [session.rejectReconciliationCall s!"{reason}: {result.reason}"]
              else []
          | .accept =>
              match session.refreshPendingTraceState with
              | .error _ => []
              | .ok session => session.submitCalls env request

/-- The calls of `_process_battle_event`. -/
def battleEventCalls (payload : String) : List FinalizeCall :=
  match session.observeLine env payload with
  | .error _ => []
  | .ok (event, state) =>
      let session := { session with state := state }
      if endsBattle event then [⟨session.enter .battleEnd, .terminallyDiscarded, none, none⟩]
      else
        match retryOf event with
        | some (reason, strict) => session.retryPendingCalls env reason strict
        | none => []

variable [JsonDecoder]

/-- The calls of `_process_request`. -/
def requestCalls (payload : String) : List FinalizeCall :=
  match readPayload env payload with
  | .error _ => []
  | .ok request =>
      match checkFreshness session.latestRequest request.identity with
      | .error _ => []
      | .ok true => []
      | .ok false =>
          ⟨session, .supersededBeforeSelection, none, none⟩ ::
            match (session.acceptFresh env request).openTrace env request with
            | .error _ => []
            | .ok session =>
                if session.done then [] else session.retryPendingCalls env "request received" false

/-- The calls of `_process_line`. -/
def lineCalls (payload : String) : List FinalizeCall :=
  match classifyRoomPayload payload with
  | .battleEvent => session.battleEventCalls env payload
  | .decisionRequest => session.requestCalls env payload
  | _ => []

/-- The calls of one round of the loop of `run`, those of an abort included. -/
def feedCalls (line : RoomLine) : List FinalizeCall :=
  if session.done then []
  else if line.roomId ≠ some env.roomId then []
  else
    session.lineCalls env line.payload ++
      match session.processLine env line.payload with
      | .ok _ => []
      | .error raised => raised.session.abortCalls raised.error

/-- The calls of the loop of `run`. -/
def feedAllCalls (session : BattleSession) : List RoomLine → List FinalizeCall
  | [] => []
  | line :: rest => session.feedCalls env line ++ feedAllCalls (session.feed env line) rest

/-- The calls of `run`, first to last. -/
def runCalls (lines : List RoomLine) (ending : Option PyException) : List FinalizeCall :=
  session.feedAllCalls env lines ++
    match ending with
    | none => []
    | some error =>
        if (session.feedAll env lines).done then []
        else ((session.feedAll env lines).occur error).abortCalls error

end BattleSession

/-! ## §2 What comes of a call -/

section Made

variable [Rfc8785]

/-- `DecisionRecord.create` on the arguments of a call, for a pending trace. -/
def FinalizeCall.construct (call : FinalizeCall) (context : MeasurementRunContext)
    (pending : PendingTrace) : Except PyException DecisionRecord :=
  DecisionRecord.create context call.status pending.decisionIndex pending.request.identity
    pending.observedStateDigest pending.safeSubmissionSetDigest call.selected call.errorCode

/-- The record that a call hands to the sink. -/
def FinalizeCall.made (env : Environment) (call : FinalizeCall) : Option DecisionRecord :=
  match call.session.pendingTrace, env.decisionRecordContext with
  | some pending, some context =>
      if call.session.traceFailed then none else (call.construct context pending).toOption
  | _, _ => none

variable {env : Environment} {s t u : BattleSession}

/-- The records of `t` are those of `s` and then those that the calls make. -/
def RecordsBy (env : Environment) (s : BattleSession) (calls : List FinalizeCall)
    (t : BattleSession) : Prop :=
  records t.log = (calls.filterMap (FinalizeCall.made env)).reverse ++ records s.log

theorem RecordsBy.nil (h : records t.log = records s.log) : RecordsBy env s [] t := h

theorem RecordsBy.trans {first rest : List FinalizeCall} (hst : RecordsBy env s first t)
    (htu : RecordsBy env t rest u) : RecordsBy env s (first ++ rest) u := by
  unfold RecordsBy at hst htu ⊢
  rw [htu, hst, List.filterMap_append, List.reverse_append, List.append_assoc]

/-- A call makes its record, whatever the sink does with it. -/
theorem finalizePending_recordsBy (call : FinalizeCall)
    (hlog : records call.session.log = records s.log) :
    RecordsBy env s [call]
      (call.session.finalizePending env call.status call.errorCode call.selected) := by
  unfold RecordsBy finalizePending
  rw [← hlog]
  simp only [List.filterMap_cons, List.filterMap_nil, FinalizeCall.made, FinalizeCall.construct]
  cases hpending : call.session.pendingTrace with
  | none => rfl
  | some pending =>
    cases hcontext : env.decisionRecordContext with
    | none => rfl
    | some context =>
      simp only
      split_ifs with hfailed
      · rfl
      · split
        · next hcreate =>
          rw [hcreate]
          rfl
        · next record hcreate =>
          rw [hcreate, emitRecord_log]
          rfl

/-- The session at the end of a method, on return and on an exception. -/
def after : Except Raised BattleSession → BattleSession
  | .ok session => session
  | .error raised => raised.session

theorem refuse_recordsBy (error : PyException) (status : DecisionRecordStatus)
    (errorCode : DecisionRecordErrorCode) (selected : Option BattleSubmission) :
    RecordsBy env s [s.refuseCall error status errorCode selected]
      (after (s.refuse env error status errorCode selected)) :=
  finalizePending_recordsBy (s.refuseCall error status errorCode selected) rfl

theorem abort_recordsBy (error : PyException) :
    RecordsBy env s (s.abortCalls error) (s.abort env error) := by
  have hlog : records ((s.notePrimary error).enter (.abort error)).log = records s.log := rfl
  show RecordsBy env s _ (BattleSession.finalizeAborted env _ error)
  unfold BattleSession.finalizeAborted abortCalls
  cases recordErrorCode error with
  | none => exact .nil hlog
  | some code =>
    simp only
    split_ifs
    · exact finalizePending_recordsBy ⟨_, .freshnessInvalidated, none, none⟩ hlog
    · exact finalizePending_recordsBy ⟨_, .sessionAborted, some code, none⟩ hlog

theorem sendCommand_recordsBy (request : DecisionRequest) (authorized : BattleSubmission)
    (command : String) :
    RecordsBy env s [s.sendCommandCall env request authorized command]
      (after (s.sendCommand env request authorized command)) := by
  unfold sendCommand sendCommandCall
  simp only
  cases env.sendRoom (sends s.log) command with
  | error err => exact refuse_recordsBy err .sendFailed (sendErrorCode err) (some authorized)
  | ok _ =>
    refine finalizePending_recordsBy ⟨_, .submitted, none, some authorized⟩ ?_
    simp only [countSubmission_eq]
    rfl

variable [Python.UnicodeDatabase]

theorem submitCandidate_recordsBy (request : DecisionRequest) (candidate : BattleSubmission) :
    RecordsBy env s (s.submitCandidateCalls env request candidate)
      (after (s.submitCandidate env request candidate)) := by
  unfold submitCandidateCalls submitCandidate
  cases authorize candidate request.identity request.safeSubmissions with
  | error err => cases err <;> first | exact refuse_recordsBy _ _ _ _ | exact .nil rfl
  | ok authorized =>
    simp only
    cases encodeSubmission authorized with
    | error err => exact refuse_recordsBy _ _ _ _
    | ok text => exact sendCommand_recordsBy _ _ _

theorem submit_recordsBy (request : DecisionRequest) :
    RecordsBy env s (s.submitCalls env request) (after (s.submit env request)) := by
  unfold submitCalls submit
  split_ifs with hknown hwait
  · exact .nil rfl
  · exact finalizePending_recordsBy ⟨_, .waitNoop, none, none⟩ rfl
  · cases env.policy request with
    | error err => cases err <;> first | exact refuse_recordsBy _ _ _ _ | exact .nil rfl
    | ok candidate => exact submitCandidate_recordsBy request candidate

theorem refreshPendingTraceState_log (s : BattleSession) :
    (after s.refreshPendingTraceState).log = s.log := by
  unfold refreshPendingTraceState
  split
  · rfl
  · split <;> rfl

theorem retryPending_recordsBy (reason : String) (strict : Bool) :
    RecordsBy env s (s.retryPendingCalls env reason strict)
      (after (s.retryPending env reason strict)) := by
  unfold retryPendingCalls retryPending
  cases s.pendingRequest with
  | none => exact .nil rfl
  | some request =>
    simp only
    cases reconcile env.roomId request s.state
        (s.submittedRequest.map fun identity => identity.rqid) with
    | error err => exact .nil rfl
    | ok result =>
      simp only
      cases result.status with
      | reject => exact refuse_recordsBy _ _ _ _
      | pendingPublicState =>
        simp only
        split_ifs
        · exact refuse_recordsBy _ _ _ _
        · exact .nil rfl
      | accept =>
        have hlog := refreshPendingTraceState_log s
        cases hrefresh : s.refreshPendingTraceState with
        | error raised =>
          rw [hrefresh] at hlog
          exact .nil (congrArg records hlog)
        | ok t =>
          rw [hrefresh] at hlog
          have hkept : RecordsBy env s [] t := .nil (congrArg records hlog)
          exact hkept.trans (submit_recordsBy request)

theorem processBattleEvent_recordsBy (payload : String) :
    RecordsBy env s (s.battleEventCalls env payload)
      (after (s.processBattleEvent env payload)) := by
  unfold battleEventCalls processBattleEvent
  cases s.observeLine env payload with
  | error err => exact .nil rfl
  | ok observed =>
    obtain ⟨event, state⟩ := observed
    have hobserved : RecordsBy env s [] { s with state := state } := .nil rfl
    simp only
    split_ifs
    · exact finalizePending_recordsBy ⟨_, .terminallyDiscarded, none, none⟩ rfl
    · cases retryOf event with
      | none => exact hobserved
      | some retry => exact hobserved.trans (retryPending_recordsBy retry.1 retry.2)

theorem openTrace_log (env : Environment) (s : BattleSession) (request : DecisionRequest) :
    (after (s.openTrace env request)).log = s.log := by
  unfold openTrace
  split_ifs
  · rfl
  · split
    · rfl
    · split <;> rfl

variable [JsonDecoder]

theorem processRequest_recordsBy (payload : String) :
    RecordsBy env s (s.requestCalls env payload) (after (s.processRequest env payload)) := by
  unfold requestCalls processRequest
  cases readPayload env payload with
  | error err => exact .nil rfl
  | ok request =>
    simp only
    cases checkFreshness s.latestRequest request.identity with
    | error err => exact .nil rfl
    | ok known =>
      cases known with
      | true => exact .nil rfl
      | false =>
        have hsuperseded : RecordsBy env s [⟨s, .supersededBeforeSelection, none, none⟩]
            (s.acceptFresh env request) := finalizePending_recordsBy ⟨s, _, _, _⟩ rfl
        show RecordsBy env s ([_] ++ _) _
        refine hsuperseded.trans ?_
        have hlog := openTrace_log env (s.acceptFresh env request) request
        cases hopen : (s.acceptFresh env request).openTrace env request with
        | error raised =>
          rw [hopen] at hlog
          exact .nil (congrArg records hlog)
        | ok t =>
          rw [hopen] at hlog
          have hopened : RecordsBy env (s.acceptFresh env request) [] t :=
            .nil (congrArg records hlog)
          simp only [bind, Except.bind]
          split_ifs
          · exact hopened
          · exact hopened.trans (retryPending_recordsBy _ _)

theorem processLine_recordsBy (payload : String) :
    RecordsBy env s (s.lineCalls env payload) (after (s.processLine env payload)) := by
  unfold lineCalls processLine
  cases classifyRoomPayload payload with
  | battleEvent => exact processBattleEvent_recordsBy payload
  | decisionRequest => exact processRequest_recordsBy payload
  | timerMessage =>
    unfold processTimer
    simp only
    cases s.observeTimer payload <;> exact .nil rfl
  | battleError => exact .nil rfl
  | roomControlOrChat => exact .nil rfl
  | unknown => exact .nil rfl

theorem feed_recordsBy (line : RoomLine) :
    RecordsBy env s (s.feedCalls env line) (s.feed env line) := by
  unfold feedCalls feed
  split_ifs
  · exact .nil rfl
  · exact .nil rfl
  · have hline : RecordsBy env s _ _ := processLine_recordsBy line.payload
    cases hresult : s.processLine env line.payload with
    | ok t =>
      rw [hresult] at hline
      rw [List.append_nil]
      exact hline
    | error raised =>
      rw [hresult] at hline
      exact hline.trans (abort_recordsBy raised.error)

theorem feedAll_recordsBy (s : BattleSession) (lines : List RoomLine) :
    RecordsBy env s (s.feedAllCalls env lines) (s.feedAll env lines) := by
  induction lines generalizing s with
  | nil => exact .nil rfl
  | cons line rest ih => exact (feed_recordsBy line).trans (ih _)

/-- The records of a run are those that its calls make, in this order. -/
theorem records_run (env : Environment) (state : ObservedState) (lines : List RoomLine)
    (ending : Option PyException) :
    let start := BattleSession.initial state
    (records (start.run env lines ending).log).reverse =
      (start.runCalls env lines ending).filterMap (FinalizeCall.made env) := by
  intro start
  have hlines : RecordsBy env start _ _ := feedAll_recordsBy start lines
  suffices hrun : RecordsBy env start (start.runCalls env lines ending)
      (start.run env lines ending) by
    have hstart : records start.log = [] := rfl
    rw [hrun, hstart, List.append_nil, List.reverse_reverse]
  unfold runCalls run
  cases ending with
  | none =>
    rw [List.append_nil]
    exact hlines
  | some error =>
    simp only
    split_ifs
    · rw [List.append_nil]
      exact hlines
    · have hended : RecordsBy env (start.feedAll env lines) _ _ :=
        abort_recordsBy (s := (start.feedAll env lines).occur error) error
      exact hlines.trans hended

end Made

/-! ## §3 Acceptable calls -/

section Acceptance

/-- A record can be made of the pending trace, if there is one. -/
def RecordableTrace (s : BattleSession) : Prop :=
  ∀ pending, s.pendingTrace = some pending → Recordable pending

/-- The matrix of statuses allows the call, and a record can be made of the pending trace. -/
structure FinalizeCall.Acceptable (call : FinalizeCall) : Prop where
  disposition : isDisposition call.status call.errorCode call.selected.isSome = true
  trace : RecordableTrace call.session

/-- All of the calls are acceptable. -/
def AllAcceptable (calls : List FinalizeCall) : Prop := ∀ call ∈ calls, call.Acceptable

theorem AllAcceptable.nil : AllAcceptable [] := fun _ hmem => by cases hmem

theorem AllAcceptable.cons {call : FinalizeCall} {calls : List FinalizeCall}
    (hcall : call.Acceptable) (hcalls : AllAcceptable calls) : AllAcceptable (call :: calls) :=
  List.forall_mem_cons.mpr ⟨hcall, hcalls⟩

theorem AllAcceptable.append {first rest : List FinalizeCall} (hfirst : AllAcceptable first)
    (hrest : AllAcceptable rest) : AllAcceptable (first ++ rest) :=
  List.forall_mem_append.mpr ⟨hfirst, hrest⟩

theorem FinalizeCall.Acceptable.single {call : FinalizeCall} (h : call.Acceptable) :
    AllAcceptable [call] :=
  .cons h .nil

variable {s : BattleSession}

/-- An acceptable call makes a record of a pending trace, in whatever context. -/
theorem FinalizeCall.Acceptable.constructed [Rfc8785] {call : FinalizeCall}
    (h : call.Acceptable) (context : MeasurementRunContext) {pending : PendingTrace}
    (hpending : call.session.pendingTrace = some pending) :
    ∃ record, call.construct context pending = .ok record := by
  obtain ⟨hbounded, hstate, hsafe, identity, hidentity⟩ := h.trace pending hpending
  have hpublic := PublicRequestIdentity.fromInternal_eq_ok.mp hidentity
  have hindex : 0 ≤ (pending.decisionIndex : Int) ∧
      (pending.decisionIndex : Int) ≤ maxSafeInteger := by
    have hrqid := identity.safe.2
    rw [hpublic.1] at hrqid
    exact ⟨Int.natCast_nonneg _, hbounded.trans hrqid⟩
  obtain ⟨record, hcreate, -⟩ := DecisionRecord.create_ok context hindex hidentity hstate hsafe
    h.disposition
  exact ⟨record, hcreate⟩

theorem refuseCall_acceptable (h : RecordableTrace s) (error : PyException)
    {status : DecisionRecordStatus} {errorCode : DecisionRecordErrorCode}
    {selected : Option BattleSubmission}
    (hdisposition : isDisposition status (some errorCode) selected.isSome = true) :
    (s.refuseCall error status errorCode selected).Acceptable :=
  ⟨hdisposition, h⟩

/-- Whatever the error, the code that an abort records it under is one of its status. -/
theorem abortCalls_acceptable (h : RecordableTrace s) (error : PyException) :
    AllAcceptable (s.abortCalls error) := by
  have hentered : RecordableTrace ((s.notePrimary error).enter (.abort error)) := h
  unfold abortCalls
  cases hcode : recordErrorCode error with
  | none => exact .nil
  | some code =>
    simp only
    split_ifs with hfreshness
    · exact FinalizeCall.Acceptable.single ⟨rfl, hentered⟩
    · exact FinalizeCall.Acceptable.single
        ⟨disposition_aborted hcode (by simpa using hfreshness), hentered⟩

variable [Rfc8785] {env : Environment}

theorem sendCommandCall_acceptable (h : RecordableTrace s) (request : DecisionRequest)
    (authorized : BattleSubmission) (command : String) :
    (s.sendCommandCall env request authorized command).Acceptable := by
  unfold sendCommandCall
  simp only
  cases env.sendRoom (sends s.log) command with
  | error err => exact ⟨disposition_sendFailed err authorized, h⟩
  | ok _ =>
    refine ⟨rfl, ?_⟩
    simp only [countSubmission_eq]
    exact h

variable [Python.UnicodeDatabase]

theorem submitCandidateCalls_acceptable (h : RecordableTrace s) (request : DecisionRequest)
    (candidate : BattleSubmission) :
    AllAcceptable (s.submitCandidateCalls env request candidate) := by
  unfold submitCandidateCalls
  split
  · split
    · exact (refuseCall_acceptable h _ rfl).single
    · exact .nil
  · split
    · exact (refuseCall_acceptable h _ rfl).single
    · exact (sendCommandCall_acceptable h request _ _).single

theorem submitCalls_acceptable (h : RecordableTrace s) (request : DecisionRequest) :
    AllAcceptable (s.submitCalls env request) := by
  unfold submitCalls
  split_ifs
  · exact .nil
  · exact FinalizeCall.Acceptable.single ⟨rfl, h⟩
  · split
    · split
      · exact (refuseCall_acceptable h _ rfl).single
      · exact .nil
    · exact submitCandidateCalls_acceptable h request _

/-- A trace stays recordable when the digest of the state is taken again. -/
theorem refreshPendingTraceState_recordable (h : RecordableTrace s) {t : BattleSession}
    (hrefresh : s.refreshPendingTraceState = .ok t) : RecordableTrace t := by
  unfold refreshPendingTraceState at hrefresh
  cases hpending : s.pendingTrace with
  | none =>
    simp only [hpending] at hrefresh
    obtain rfl := Except.ok.inj hrefresh
    exact h
  | some old =>
    simp only [hpending] at hrefresh
    cases hdigest : observedStateDigest s.state with
    | error err =>
      rw [hdigest] at hrefresh
      cases hrefresh
    | ok stateDigest =>
      rw [hdigest] at hrefresh
      obtain rfl := Except.ok.inj hrefresh
      intro pending hsome
      obtain rfl := Option.some.inj hsome
      have hold := h old hpending
      exact ⟨hold.bounded, isDigest_of_manifestDigest hdigest, hold.safe, hold.identity⟩

theorem retryPendingCalls_acceptable (h : RecordableTrace s) (reason : String) (strict : Bool) :
    AllAcceptable (s.retryPendingCalls env reason strict) := by
  unfold retryPendingCalls
  split
  · exact .nil
  · next request _ =>
    simp only
    split
    · exact .nil
    · split
      · exact (refuseCall_acceptable h _ rfl).single
      · split_ifs
        · exact (refuseCall_acceptable h _ rfl).single
        · exact .nil
      · split
        · exact .nil
        · next hrefresh =>
          exact submitCalls_acceptable (refreshPendingTraceState_recordable h hrefresh) request

theorem battleEventCalls_acceptable (h : RecordableTrace s) (payload : String) :
    AllAcceptable (s.battleEventCalls env payload) := by
  unfold battleEventCalls
  split
  · exact .nil
  · next event state _ =>
    have hobserved : RecordableTrace { s with state := state } := h
    simp only
    split_ifs
    · exact FinalizeCall.Acceptable.single ⟨rfl, hobserved⟩
    · split
      · exact retryPendingCalls_acceptable hobserved _ _
      · exact .nil

omit [Python.UnicodeDatabase] in
theorem Trail.recordableTrace (h : Trail env s) : RecordableTrace s :=
  fun pending hpending => (h.traced pending hpending).toRecordable

variable [JsonDecoder]

/-- A fresh request is awaiting its answer with a trace of its own. -/
theorem requestCalls_acceptable (h : Settled env s) (horderly : Orderly env s)
    (hdone : s.done = false) (payload : String) :
    AllAcceptable (s.requestCalls env payload) := by
  unfold requestCalls
  split
  · exact .nil
  · next request hread =>
    split
    · exact .nil
    · exact .nil
    · next hfresh =>
      refine .cons ⟨rfl, h.toTrail.recordableTrace⟩ ?_
      have hwell := readRequest_wellFormed hread
      have haccepted := acceptFresh_accepted h horderly.toOrderlyLog hdone hwell hfresh
      split
      · exact .nil
      · next t hopen =>
        have hopened := (openTrace_keepsTrail haccepted hwell).of_ok hopen
        split_ifs
        · exact .nil
        · exact retryPendingCalls_acceptable hopened.toTrail.recordableTrace _ _

theorem feedCalls_acceptable (h : Settled env s) (horderly : Orderly env s) (line : RoomLine) :
    AllAcceptable (s.feedCalls env line) := by
  unfold feedCalls
  split_ifs with hdone hroom
  · exact .nil
  · exact .nil
  · have hrunning : s.done = false := by simpa using hdone
    have hkeeps := processLine_keepsTrail h horderly hrunning line.payload
    refine .append ?_ ?_
    · unfold lineCalls
      split
      · exact battleEventCalls_acceptable h.toTrail.recordableTrace _
      · exact requestCalls_acceptable h horderly hrunning _
      · exact .nil
    · cases hresult : s.processLine env line.payload with
      | ok t => exact .nil
      | error raised =>
        exact abortCalls_acceptable (hkeeps.of_error hresult).toTrail.recordableTrace raised.error

theorem feedAllCalls_acceptable (h : Settled env s) (horderly : Orderly env s)
    (lines : List RoomLine) : AllAcceptable (s.feedAllCalls env lines) := by
  induction lines generalizing s with
  | nil => exact .nil
  | cons line rest ih =>
    exact .append (feedCalls_acceptable h horderly line)
      (ih (feed_settled h horderly line) (feed_orderly horderly line))

theorem runCalls_acceptable (h : Settled env s) (horderly : Orderly env s) (lines : List RoomLine)
    (ending : Option PyException) : AllAcceptable (s.runCalls env lines ending) := by
  unfold runCalls
  refine .append (feedAllCalls_acceptable h horderly lines) ?_
  cases ending with
  | none => exact .nil
  | some error =>
    simp only
    split_ifs
    · exact .nil
    · have hlines := (feedAll_settled h horderly lines).toTrail.recordableTrace
      have hoccurred : RecordableTrace ((s.feedAll env lines).occur error) := hlines
      exact abortCalls_acceptable hoccurred error

/-- **The status matrix is closed.** In every run, each call of `_finalize_pending` supplies a
status, an error code and a selection that go together, and the constructor makes a record of them
and of the pending trace in every run context. The records of the run are those that the calls make,
and no record has failed to be made. -/
theorem status_matrix_closed (env : Environment) (state : ObservedState) (lines : List RoomLine)
    (ending : Option PyException) :
    let start := BattleSession.initial state
    let s := start.run env lines ending
    (∀ call ∈ start.runCalls env lines ending,
      isDisposition call.status call.errorCode call.selected.isSome = true ∧
        ∀ (context : MeasurementRunContext) (pending : PendingTrace),
          call.session.pendingTrace = some pending →
            ∃ record, call.construct context pending = .ok record) ∧
      (records s.log).reverse =
        (start.runCalls env lines ending).filterMap (FinalizeCall.made env) ∧
      s.recordError = none := by
  intro start s
  have hstart := settled_initial env state
  have horderly := orderly_initial env state
  have hs : Settled env s := run_settled hstart horderly lines ending
  refine ⟨fun call hcall => ?_, records_run env state lines ending, hs.constructed⟩
  have hacceptable := runCalls_acceptable hstart horderly lines ending call hcall
  exact ⟨hacceptable.disposition, fun context _ hpending =>
    hacceptable.constructed context hpending⟩

end Acceptance

end BattleBelief
