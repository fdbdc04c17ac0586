import BattleBelief.Session.BattleSession

/-!
# Answers

What the methods of a session can end in, said once per method, for the proofs about whole runs:

- `finalizePending_keepsCourse`: writing a record changes nothing but the recording itself
- `submit_outcome`: the ways in which an accepted request is answered
- `retryPending_outcome`: the ways in which a look at the pending request ends
- `feed_grows`: nothing is ever taken out of the log
-/

namespace BattleBelief

open BattleSession Outcomes

/-! ## §1 Recording -/

/-- `t` has the log of `s`, with one more record at most, and the same latest and submitted
requests. -/
structure KeepsLog (s t : BattleSession) : Prop where
  latestRequest : t.latestRequest = s.latestRequest
  submittedRequest : t.submittedRequest = s.submittedRequest
  done : s.done = true → t.done = true
  log : t.log = s.log ∨ ∃ record, t.log = .emit record :: s.log

/-- `t` is `s` but for the recording: the pending trace, what has been emitted and the errors. -/
structure KeepsCourse (s t : BattleSession) : Prop extends KeepsLog s t where
  pendingRequest : t.pendingRequest = s.pendingRequest
  state : t.state = s.state

theorem KeepsCourse.refl (s : BattleSession) : KeepsCourse s s :=
  ⟨⟨rfl, rfl, id, .inl rfl⟩, rfl, rfl⟩

theorem KeepsLog.sends {s t : BattleSession} (h : KeepsLog s t) :
    sends t.log = sends s.log := by
  rcases h.log with hlog | ⟨record, hlog⟩
  · rw [hlog]
  · rw [hlog]
    rfl

theorem KeepsLog.freshRequests {s t : BattleSession} (h : KeepsLog s t) :
    freshRequests t.log = freshRequests s.log := by
  rcases h.log with hlog | ⟨record, hlog⟩
  · rw [hlog]
  · rw [hlog]
    rfl

theorem occur_keepsCourse (s : BattleSession) (error : PyException) :
    KeepsCourse s (s.occur error) :=
  ⟨⟨rfl, rfl, id, .inl rfl⟩, rfl, rfl⟩

section Methods

variable [Rfc8785]

theorem emitRecord_keepsCourse (env : Environment) (s : BattleSession) (record : DecisionRecord) :
    KeepsCourse s (s.emitRecord env record) := by
  unfold emitRecord
  split
  · exact ⟨⟨rfl, rfl, fun _ => rfl, .inr ⟨record, rfl⟩⟩, rfl, rfl⟩
  · exact ⟨⟨rfl, rfl, id, .inr ⟨record, rfl⟩⟩, rfl, rfl⟩

/-- Writing a record changes nothing but the recording. -/
theorem finalizePending_keepsCourse (env : Environment) (s : BattleSession)
    (status : DecisionRecordStatus) (errorCode : Option DecisionRecordErrorCode)
    (selected : Option BattleSubmission) :
    KeepsCourse s (s.finalizePending env status errorCode selected) := by
  unfold finalizePending
  split
  · exact .refl s
  · split
    · exact ⟨⟨rfl, rfl, id, .inl rfl⟩, rfl, rfl⟩
    · simp only
      split_ifs
      · exact ⟨⟨rfl, rfl, id, .inl rfl⟩, rfl, rfl⟩
      · split
        · exact ⟨⟨rfl, rfl, fun _ => rfl, .inl rfl⟩, rfl, rfl⟩
        · next pending _ _ _ _ record _ =>
          obtain ⟨⟨hlatest, hsubmitted, hdone, hlog⟩, hpending, hstate⟩ :=
            emitRecord_keepsCourse env { s with pendingTrace := none } record
          exact ⟨⟨hlatest, hsubmitted, hdone, hlog⟩, hpending, hstate⟩

theorem finalizeAborted_keepsCourse (env : Environment) (s : BattleSession)
    (error : PyException) : KeepsCourse s (s.finalizeAborted env error) := by
  unfold finalizeAborted
  split
  · exact .refl s
  · split_ifs
    · exact finalizePending_keepsCourse env s _ _ _
    · exact finalizePending_keepsCourse env s _ _ _

/-- No trace is pending once a record has been written. -/
theorem finalizePending_pendingTrace (env : Environment) (s : BattleSession)
    (status : DecisionRecordStatus) (errorCode : Option DecisionRecordErrorCode)
    (selected : Option BattleSubmission) :
    (s.finalizePending env status errorCode selected).pendingTrace = none := by
  unfold finalizePending
  split
  · assumption
  · split
    · rfl
    · simp only
      split_ifs
      · rfl
      · split
        · rfl
        · unfold emitRecord
          split <;> rfl

/-- Without a run context no record is written. -/
theorem finalizePending_unrecorded {env : Environment} (hcontext : env.decisionRecordContext = none)
    (s : BattleSession) (status : DecisionRecordStatus)
    (errorCode : Option DecisionRecordErrorCode) (selected : Option BattleSubmission) :
    (s.finalizePending env status errorCode selected).log = s.log ∧
      (s.finalizePending env status errorCode selected).done = s.done := by
  unfold finalizePending
  split
  · exact ⟨rfl, rfl⟩
  · rw [hcontext]
    exact ⟨rfl, rfl⟩

theorem openTrace_unrecorded [Python.UnicodeDatabase] {env : Environment}
    (hcontext : env.decisionRecordContext = none) (s : BattleSession) (request : DecisionRequest) :
    s.openTrace env request = .ok s := by
  simp only [openTrace, hcontext, Option.isNone_none, Bool.true_or, if_true]

theorem abort_unrecorded {env : Environment} (hcontext : env.decisionRecordContext = none)
    (s : BattleSession) (error : PyException) :
    (s.abort env error).log = .abort error :: s.log := by
  show (finalizeAborted env _ error).log = _
  unfold finalizeAborted
  split
  · rfl
  · split_ifs
    · exact (finalizePending_unrecorded hcontext _ _ _ _).1
    · exact (finalizePending_unrecorded hcontext _ _ _ _).1

/-- `refuse` ends in the error that it was given, and changes nothing but the recording. -/
theorem refuse_eq (env : Environment) (s : BattleSession) (error : PyException)
    (status : DecisionRecordStatus) (errorCode : DecisionRecordErrorCode)
    (selected : Option BattleSubmission) :
    ∃ t, KeepsCourse s t ∧ s.refuse env error status errorCode selected = .error ⟨error, t⟩ := by
  obtain ⟨⟨hlatest, hsubmitted, hdone, hlog⟩, hpending, hstate⟩ :=
    finalizePending_keepsCourse env ((s.occur error).notePrimary error) status (some errorCode)
      selected
  exact ⟨_, ⟨⟨hlatest, hsubmitted, hdone, hlog⟩, hpending, hstate⟩, rfl⟩

variable [Python.UnicodeDatabase]

/-! ## §2 Submission -/

/-- How `submit` answers a request. -/
inductive SubmitOutcome (env : Environment) (s : BattleSession) (request : DecisionRequest) :
    Except Raised BattleSession → Prop where
  | known (h : some request.identity = s.submittedRequest) :
      SubmitOutcome env s request (.ok { s with pendingRequest := none })
  | noop (h : request.kind = .wait) :
      SubmitOutcome env s request
        (.ok (({ s with
          submittedRequest := some request.identity
          pendingRequest := none } : BattleSession).finalizePending env .waitNoop none none))
  | policyRefused (text : String) (hkind : request.kind ≠ .wait)
      (h : env.policy request = .error (.noLegalActionError text)) :
      SubmitOutcome env s request
        (s.refuse env (.noLegalActionError text) .policyRejected .noLegalActionAvailable none)
  | policyRaised (err : PyException) (hkind : request.kind ≠ .wait)
      (h : env.policy request = .error err) (hother : ∀ text, err ≠ .noLegalActionError text) :
      SubmitOutcome env s request (s.fail err)
  | gateRejected (candidate : BattleSubmission) (text : String) (hkind : request.kind ≠ .wait)
      (h : env.policy request = .ok candidate)
      (hnot : candidate ∉ request.safeSubmissions.submissions) :
      SubmitOutcome env s request
        (s.refuse env (.localActionGateRejection text) .actionGateRejected
          .localActionGateRejection (some candidate))
  | sent (candidate : BattleSubmission) (text : String) (hkind : request.kind ≠ .wait)
      (h : env.policy request = .ok candidate)
      (hmem : candidate ∈ request.safeSubmissions.submissions)
      (htext : encodeSubmission candidate = .ok text) :
      SubmitOutcome env s request
        (s.sendCommand env request candidate s!"/choose {text}|{request.identity.rqid}")

/-- A request that carries its own identity through to its safe set is answered in one of these
ways. -/
theorem submit_outcome (env : Environment) (s : BattleSession) {request : DecisionRequest}
    (hidentity : request.safeSubmissions.requestIdentity = request.identity) :
    SubmitOutcome env s request (s.submit env request) := by
  unfold submit
  split_ifs with hknown hwait
  · exact .known hknown
  · exact .noop hwait
  cases hpolicy : env.policy request with
  | error err =>
    by_cases hnoLegal : ∃ text, err = .noLegalActionError text
    · obtain ⟨text, rfl⟩ := hnoLegal
      exact .policyRefused text hwait hpolicy
    · have hother : ∀ text, err ≠ .noLegalActionError text := fun text heq => hnoLegal ⟨text, heq⟩
      simp only
      exact .policyRaised err hwait hpolicy hother
  | ok candidate =>
    simp only [submitCandidate]
    rw [← hidentity]
    cases hgate : authorize candidate request.safeSubmissions.requestIdentity
        request.safeSubmissions with
    | error err =>
      obtain ⟨text, rfl⟩ := authorize_eq_error hgate
      refine .gateRejected candidate text hwait hpolicy fun hmem => ?_
      -- the gate lets every member of the safe set through
      have hok : authorize candidate request.safeSubmissions.requestIdentity
          request.safeSubmissions = .ok candidate := by
        simp [authorize, SafeSubmissionSet.contains, hmem]
      rw [hok] at hgate
      cases hgate
    | ok authorized =>
      obtain ⟨rfl, hmem⟩ := authorize_eq_ok hgate
      obtain ⟨text, htext⟩ := encodeSubmission_ok authorized
      simp only [htext]
      rw [hidentity]
      exact .sent authorized text hwait hpolicy hmem htext

/-! ## §3 Retries -/

/-- The pending trace, with the digest of the state as it is now. -/
def BattleSession.withStateDigest (s : BattleSession) (stateDigest : String) : BattleSession :=
  { s with pendingTrace := s.pendingTrace.map fun pending =>
      { pending with observedStateDigest := stateDigest } }

/-- How a look at the pending request ends. -/
inductive RetryOutcome (env : Environment) (s : BattleSession) (request : DecisionRequest)
    (strict : Bool) : Except Raised BattleSession → Prop where
  | rejected (result : ReconciliationResult) (message : String)
      (h : reconcile env.roomId request s.state
        (s.submittedRequest.map fun identity => identity.rqid) = .ok result)
      (hstatus : result.status ≠ .accept)
      (hwhy : strict = false → result ≠ activeNotYetKnown) :
      RetryOutcome env s request strict (s.rejectReconciliation env message)
  | waiting (result : ReconciliationResult)
      (h : reconcile env.roomId request s.state
        (s.submittedRequest.map fun identity => identity.rqid) = .ok result)
      (hstatus : result.status = .pendingPublicState) (hstrict : strict = false)
      (hactive : s.state.battleStarted = true → result.reason = activeNotYetKnown.reason) :
      RetryOutcome env s request strict (.ok s)
  | undigested (result : ReconciliationResult) (err : PyException)
      (h : reconcile env.roomId request s.state
        (s.submittedRequest.map fun identity => identity.rqid) = .ok result)
      (hstatus : result.status = .accept) (htrace : s.pendingTrace.isSome)
      (hdigest : observedStateDigest s.state = .error err) :
      RetryOutcome env s request strict (s.fail err)
  | answered (result : ReconciliationResult) (t : BattleSession)
      (h : reconcile env.roomId request s.state
        (s.submittedRequest.map fun identity => identity.rqid) = .ok result)
      (hstatus : result.status = .accept)
      (ht : s.pendingTrace = none ∧ t = s ∨ ∃ stateDigest,
        observedStateDigest s.state = .ok stateDigest ∧ t = s.withStateDigest stateDigest) :
      RetryOutcome env s request strict (t.submit env request)

/-- A look at the pending request ends in one of these ways. -/
theorem retryPending_outcome (env : Environment) (s : BattleSession) {request : DecisionRequest}
    (hpending : s.pendingRequest = some request) (hwell : request.WellFormed env.roomId)
    (reason : String) (strict : Bool) :
    RetryOutcome env s request strict (s.retryPending env reason strict) := by
  obtain ⟨result, hresult⟩ := reconcile_ok hwell s.state
    (s.submittedRequest.map fun identity => identity.rqid)
  unfold retryPending
  simp only [hpending, hresult]
  cases hstatus : result.status with
  | reject =>
    refine .rejected result _ hresult (by rw [hstatus]; decide) fun _ heq => ?_
    rw [heq] at hstatus
    cases hstatus
  | pendingPublicState =>
    simp only
    split_ifs with habort
    · refine .rejected result _ hresult (by rw [hstatus]; decide) fun hstrict heq => ?_
      -- the session waits for the pokemon, unless it must not
      simp [hstrict, heq] at habort
    · simp only [Bool.or_eq_true, Bool.and_eq_true, not_or, not_and, Bool.not_eq_true] at habort
      refine .waiting result hresult hstatus habort.1 fun hstarted => ?_
      simpa using habort.2 hstarted
  | accept =>
    simp only [refreshPendingTraceState]
    cases htrace : s.pendingTrace with
    | none => exact .answered result s hresult hstatus (.inl ⟨htrace, rfl⟩)
    | some pending =>
      cases hdigest : observedStateDigest s.state with
      | error err => exact .undigested result err hresult hstatus (by rw [htrace]; rfl) hdigest
      | ok stateDigest =>
        refine .answered result _ hresult hstatus (.inr ⟨stateDigest, hdigest, ?_⟩)
        simp only [withStateDigest, htrace, Option.map_some]

/-! ## §4 The log grows -/

/-- The log of `s` is the end of the log afterwards, on return and on an exception. -/
def Grows (s : BattleSession) (result : Except Raised BattleSession) : Prop :=
  Satisfies (fun t => s.log <:+ t.log) (fun raised => s.log <:+ raised.session.log) result

omit [Rfc8785] [Python.UnicodeDatabase] in
theorem KeepsLog.suffix {s t : BattleSession} (h : KeepsLog s t) : s.log <:+ t.log := by
  rcases h.log with hlog | ⟨record, hlog⟩
  · exact hlog ▸ List.suffix_refl _
  · rw [hlog]
    exact List.suffix_cons _ _

omit [Rfc8785] [Python.UnicodeDatabase] in
theorem Grows.trans {s t : BattleSession} {result : Except Raised BattleSession}
    (hlog : s.log <:+ t.log) (h : Grows t result) : Grows s result :=
  h.mono (fun _ hafter => hlog.trans hafter) fun _ hafter => hlog.trans hafter

omit [Python.UnicodeDatabase] in
theorem finalizePending_suffix (env : Environment) (s : BattleSession)
    (status : DecisionRecordStatus) (errorCode : Option DecisionRecordErrorCode)
    (selected : Option BattleSubmission) :
    s.log <:+ (s.finalizePending env status errorCode selected).log :=
  (finalizePending_keepsCourse env s status errorCode selected).toKeepsLog.suffix

omit [Python.UnicodeDatabase] in
theorem refuse_grows (env : Environment) (s : BattleSession) (error : PyException)
    (status : DecisionRecordStatus) (errorCode : DecisionRecordErrorCode)
    (selected : Option BattleSubmission) :
    Grows s (s.refuse env error status errorCode selected) := by
  obtain ⟨t, hkeeps, heq⟩ := refuse_eq env s error status errorCode selected
  rw [heq]
  exact .error hkeeps.toKeepsLog.suffix

omit [Python.UnicodeDatabase] in
/-- The command is in the log afterwards, whether the connection took it or not. -/
theorem sendCommand_enters (env : Environment) (s : BattleSession) (request : DecisionRequest)
    (authorized : BattleSubmission) (command : String) :
    ∃ attempt : SendAttempt, attempt.request = request ∧ attempt.submission = authorized ∧
      attempt.command = command ∧ attempt.state = s.state ∧
      Grows (s.enter (.sendRoom attempt)) (s.sendCommand env request authorized command) := by
  unfold sendCommand
  refine ⟨⟨request, authorized, command, s.state, s.submittedRequest.map fun identity => identity.rqid,
    env.sendRoom (sends s.log) command⟩, rfl, rfl, rfl, rfl, ?_⟩
  simp only
  generalize SendAttempt.mk request authorized command s.state
    (s.submittedRequest.map fun identity => identity.rqid)
    (env.sendRoom (sends s.log) command) = attempt
  cases env.sendRoom (sends s.log) command with
  | error err => exact refuse_grows env _ _ _ _ _
  | ok _ =>
    have hcounted : (s.enter (.sendRoom attempt)).log <:+
        ((s.enter (.sendRoom attempt)).countSubmission authorized).log := by
      unfold countSubmission
      cases authorized.provenance <;> exact List.suffix_refl _
    exact .ok (hcounted.trans (finalizePending_suffix env { (s.enter (.sendRoom
      attempt)).countSubmission authorized with
        submittedRequest := some request.identity
        pendingRequest := none } _ _ _))

omit [Python.UnicodeDatabase] in
theorem sendCommand_grows (env : Environment) (s : BattleSession) (request : DecisionRequest)
    (authorized : BattleSubmission) (command : String) :
    Grows s (s.sendCommand env request authorized command) := by
  obtain ⟨attempt, -, -, -, -, hgrows⟩ := sendCommand_enters env s request authorized command
  exact Grows.trans (List.suffix_cons _ _) hgrows

theorem submit_grows (env : Environment) (s : BattleSession) (request : DecisionRequest) :
    Grows s (s.submit env request) := by
  unfold submit
  refine .ite (fun _ => .ok (List.suffix_refl _)) fun _ => .ite (fun _ => .ok ?_) fun _ => ?_
  · exact finalizePending_suffix env { s with
      submittedRequest := some request.identity
      pendingRequest := none } _ _ _
  · unfold submitCandidate
    repeat' split
    all_goals first
      | exact refuse_grows env s _ _ _ _
      | exact .error (List.suffix_refl _)
      | exact sendCommand_grows env s request _ _

theorem retryPending_grows (env : Environment) (s : BattleSession) (reason : String)
    (strict : Bool) : Grows s (s.retryPending env reason strict) := by
  unfold retryPending
  split
  · exact .ok (List.suffix_refl _)
  simp only
  split
  · exact .error (List.suffix_refl _)
  split
  · exact refuse_grows env s _ _ _ _
  · exact .ite (fun _ => refuse_grows env s _ _ _ _) fun _ => .ok (List.suffix_refl _)
  · have hrefresh : Grows s s.refreshPendingTraceState := by
      unfold refreshPendingTraceState
      split
      · exact .ok (List.suffix_refl _)
      · split
        · exact .error (List.suffix_refl _)
        · exact .ok (List.suffix_refl _)
    exact hrefresh.bind fun t ht => Grows.trans ht (submit_grows env t _)

/-- Opening a trace changes nothing but the recording. -/
theorem openTrace_keepsCourse (env : Environment) (s : BattleSession) (request : DecisionRequest) :
    Satisfies (KeepsCourse s) (fun raised => raised.session = s.occur raised.error)
      (s.openTrace env request) := by
  unfold openTrace
  refine .ite (fun _ => .ok (.refl s)) fun _ => ?_
  split
  · exact .error rfl
  · split
    · exact .error rfl
    · exact .ok ⟨⟨rfl, rfl, id, .inl rfl⟩, rfl, rfl⟩

theorem processBattleEvent_grows (env : Environment) (s : BattleSession) (payload : String) :
    Grows s (s.processBattleEvent env payload) := by
  unfold processBattleEvent
  split
  · exact .error (List.suffix_refl _)
  · next event state _ =>
    refine .ite (fun _ => .ok ?_) fun _ => ?_
    · exact (List.suffix_cons _ _).trans (finalizePending_suffix env
        (({ s with state := state } : BattleSession).enter .battleEnd) _ _ _)
    · split
      · exact retryPending_grows env { s with state := state } _ _
      · exact .ok (List.suffix_refl _)

omit [Python.UnicodeDatabase] in
theorem acceptFresh_log (env : Environment) (s : BattleSession) (request : DecisionRequest) :
    ∃ past, (s.acceptFresh env request).log = .freshRequest request :: past ∧ s.log <:+ past :=
  ⟨_, rfl, finalizePending_suffix env s _ _ _⟩

omit [Python.UnicodeDatabase] in
theorem abort_suffix (env : Environment) (s : BattleSession) (error : PyException) :
    s.log <:+ (s.abort env error).log :=
  (List.suffix_cons _ _).trans
    (finalizeAborted_keepsCourse env ((s.notePrimary error).enter (.abort error))
      error).toKeepsLog.suffix

omit [Python.UnicodeDatabase] in
theorem settle_suffix (env : Environment) {s : BattleSession}
    {result : Except Raised BattleSession} (h : Grows s result) : s.log <:+ (settle env result).log := by
  cases result with
  | ok t => exact h.of_ok rfl
  | error raised => exact (h.of_error rfl).trans (abort_suffix env raised.session raised.error)

variable [JsonDecoder]

theorem processRequest_grows (env : Environment) (s : BattleSession) (payload : String) :
    Grows s (s.processRequest env payload) := by
  unfold processRequest
  split
  · exact .error (List.suffix_refl _)
  next request _ =>
  split
  · exact .error (List.suffix_refl _)
  · exact .ok (List.suffix_refl _)
  · obtain ⟨past, hlog, hpast⟩ := acceptFresh_log env s request
    have haccepted : s.log <:+ (s.acceptFresh env request).log :=
      hlog ▸ hpast.trans (List.suffix_cons _ _)
    have hopened : Grows s ((s.acceptFresh env request).openTrace env request) :=
      (openTrace_keepsCourse env (s.acceptFresh env request) request).mono
        (fun _ hkeeps => haccepted.trans hkeeps.toKeepsLog.suffix) fun _ heq => heq ▸ haccepted
    refine hopened.bind fun t ht => .ite (fun _ => .ok ht) fun _ => ?_
    exact Grows.trans ht (retryPending_grows env t _ _)

theorem processLine_grows (env : Environment) (s : BattleSession) (payload : String) :
    Grows s (s.processLine env payload) := by
  unfold processLine
  split
  · exact processBattleEvent_grows env s payload
  · exact processRequest_grows env s payload
  · exact .error (List.suffix_refl _)
  · unfold processTimer
    split
    · exact .error (List.suffix_refl _)
    · exact .ok (List.suffix_refl _)
  · exact .ok (List.suffix_refl _)
  · exact .error (List.suffix_refl _)

/-- Nothing is ever taken out of the log. -/
theorem feed_grows (env : Environment) (s : BattleSession) (line : RoomLine) :
    s.log <:+ (s.feed env line).log := by
  unfold feed
  split_ifs
  · exact List.suffix_refl _
  · exact List.suffix_refl _
  · exact settle_suffix env (processLine_grows env s line.payload)

theorem feedAll_grows (env : Environment) (s : BattleSession) (lines : List RoomLine) :
    s.log <:+ (s.feedAll env lines).log := by
  induction lines generalizing s with
  | nil => exact List.suffix_refl _
  | cons line rest ih => exact (feed_grows env s line).trans (ih (s.feed env line))

theorem run_grows (env : Environment) (s : BattleSession) (lines : List RoomLine)
    (ending : Option PyException) : s.log <:+ (s.run env lines ending).log := by
  have hlines := feedAll_grows env s lines
  unfold run
  cases ending with
  | none => exact hlines
  | some error =>
    simp only
    split_ifs
    · exact hlines
    · exact hlines.trans (abort_suffix env ((s.feedAll env lines).occur error) error)

/-! ## §5 The end of a run -/

theorem feedAll_append (env : Environment) (s : BattleSession) (first rest : List RoomLine) :
    s.feedAll env (first ++ rest) = (s.feedAll env first).feedAll env rest := by
  rw [feedAll, feedAll, feedAll, List.foldl_append]

theorem feedAll_concat (env : Environment) (s : BattleSession) (first : List RoomLine)
    (line : RoomLine) : s.feedAll env (first ++ [line]) = (s.feedAll env first).feed env line :=
  feedAll_append env s first [line]

theorem run_append (env : Environment) (s : BattleSession) (first rest : List RoomLine)
    (ending : Option PyException) :
    s.run env (first ++ rest) ending = (s.feedAll env first).run env rest ending := by
  simp only [BattleSession.run, feedAll_append]

omit [Python.UnicodeDatabase] [JsonDecoder] in
theorem sends_abort (env : Environment) (s : BattleSession) (error : PyException) :
    sends (s.abort env error).log = sends s.log :=
  (finalizeAborted_keepsCourse env ((s.notePrimary error).enter (.abort error)) error).sends

/-- A session that is done has left the loop. -/
theorem feedAll_of_done (env : Environment) {s : BattleSession} (h : s.done = true)
    (lines : List RoomLine) : s.feedAll env lines = s := by
  induction lines with
  | nil => rfl
  | cons line rest ih =>
    have hfeed : s.feed env line = s := if_pos h
    rw [feedAll, List.foldl_cons, hfeed]
    exact ih

theorem run_of_done (env : Environment) {s : BattleSession} (h : s.done = true)
    (lines : List RoomLine) (ending : Option PyException) : s.run env lines ending = s := by
  unfold run
  rw [feedAll_of_done env h]
  cases ending with
  | none => rfl
  | some error => exact if_pos h

end Methods

end BattleBelief
