import BattleBelief.Session.PendingRequests
import BattleBelief.Session.SubmittedRecords

/-!
# Record Cardinality

A run leaves one record for each of its fresh requests, with consecutive indices, unless it loses
one: a line may raise an exception for which there is no record code while a request is waiting, the
digests of a request may fail, and the lines may end while a request is waiting.
`records_disposed_iff` says that these are the only ways.
-/

namespace BattleBelief

open BattleSession Outcomes

/-! ## §1 One record for each request -/

/-- What a record keeps of the identity of its request. -/
def DecisionRecord.identityPair (record : DecisionRecord) : Int × String :=
  (record.requestIdentity.rqid, record.requestIdentity.requestDigest)

def DecisionRequest.identityPair (request : DecisionRequest) : Int × String :=
  (request.identity.rqid, request.identity.requestDigest)

/-- There are as many records as fresh requests, their indices are 0, 1, ... in order, and each
fresh request has exactly one record. -/
structure Disposed (log : List SessionEntry) : Prop where
  count : (records log).length = (freshRequests log).length
  indices : (records log).reverse.map (fun record => record.decisionIndex) =
    (List.range (freshRequests log).length).map fun (index : Nat) => (index : Int)
  each : ∀ request ∈ freshRequests log,
    ((records log).map DecisionRecord.identityPair).count request.identityPair = 1

/-- In booked logs the newest record has the largest index. -/
theorem Booked.indices {log : List SessionEntry} (h : Booked log) :
    (records log).map (fun record => record.decisionIndex) =
      (List.range (recordedRequests log).length).reverse.map fun (index : Nat) => (index : Int) := by
  have hanswer : ∀ {past : List SessionEntry} {request : DecisionRequest} {record : DecisionRecord},
      unrecorded past = some request →
      record.decisionIndex + 1 = (freshRequests past).length →
      (records past).map (fun record => record.decisionIndex) =
        (List.range (recordedRequests past).length).reverse.map (fun (index : Nat) => (index : Int)) →
      (record :: records past).map (fun record => record.decisionIndex) =
        (List.range (freshRequests past).length).reverse.map fun (index : Nat) => (index : Int) := by
    intro past request record hopen hindex ih
    rw [freshRequests_of_unrecorded hopen, List.length_cons] at hindex
    rw [freshRequests_of_unrecorded hopen, List.length_cons, List.range_succ, List.reverse_append,
      List.reverse_singleton, List.singleton_append, List.map_cons, List.map_cons, ih]
    congr 1
    push_cast at hindex
    omega
  induction h with
  | nil => rfl
  | fresh request h hnone ih =>
    rw [recordedRequests_of_none hnone] at ih
    exact ih
  | failed attempt h hopen error hraised ih => exact ih
  | answered attempt record h hopen hsent hrecord hindex hstatus hselected ih =>
    exact hanswer hopen hindex ih
  | disposed request record h hopen hrecord hindex hstatus ih => exact hanswer hopen hindex ih
  | @ended past entry h hend ih =>
    cases entry <;> first | exact ih | cases hend

/-- A booked log is disposed of exactly when its latest request has a record. -/
theorem Booked.disposed_iff {log : List SessionEntry} (h : Booked log)
    (hfresh : (freshRequests log).Pairwise fun later earlier =>
      earlier.identity.rqid < later.identity.rqid) :
    Disposed log ↔ unrecorded log = none := by
  have hpairs : (records log).map DecisionRecord.identityPair =
      (recordedRequests log).map DecisionRequest.identityPair := h.recorded
  constructor
  · intro hdisposed
    cases hopen : unrecorded log with
    | none => rfl
    | some request =>
      have hlength := congrArg List.length hpairs
      rw [List.length_map, List.length_map, hdisposed.count, freshRequests_of_unrecorded hopen,
        List.length_cons] at hlength
      omega
  · intro hnone
    rw [recordedRequests_of_none hnone] at hpairs
    refine ⟨?_, ?_, fun request hrequest => ?_⟩
    · simpa only [List.length_map] using congrArg List.length hpairs
    · rw [List.map_reverse, h.indices, recordedRequests_of_none hnone, ← List.map_reverse,
        List.reverse_reverse]
    · have hnodup : ((freshRequests log).map DecisionRequest.identityPair).Nodup :=
        List.pairwise_map.mpr (hfresh.imp fun hlt heq => hlt.ne' (congrArg Prod.fst heq))
      rw [hpairs]
      exact List.count_eq_one_of_mem hnodup (List.mem_map_of_mem hrequest)

section Runs

variable [Python.UnicodeDatabase] [JsonDecoder] [Rfc8785]

/-! ## §2 Losing a record -/

omit [Python.UnicodeDatabase] [JsonDecoder] [Rfc8785] in
/-- An exception that ends a session without leaving a record of the waiting request. -/
def LeavesNoRecord (error : PyException) : Prop := recordErrorCode error = none

/-- The answer to an accepted request raises such an exception: the state has no digest, or the
policy raises it. A policy that finds no legal action leaves a record. -/
inductive LosesAnswer (env : Environment) (answered : Option Int) (state : ObservedState)
    (request : DecisionRequest) : Prop where
  | digest (result : ReconciliationResult) (err : PyException)
      (hresult : reconcile env.roomId request state answered = .ok result)
      (haccept : result.status = .accept) (hdigest : observedStateDigest state = .error err)
      (hcode : LeavesNoRecord err)
  | policy (result : ReconciliationResult) (err : PyException) (stateDigest : String)
      (hresult : reconcile env.roomId request state answered = .ok result)
      (haccept : result.status = .accept) (hdigest : observedStateDigest state = .ok stateDigest)
      (hkind : request.kind ≠ .wait) (hpolicy : env.policy request = .error err)
      (hother : ∀ text, err ≠ .noLegalActionError text) (hcode : LeavesNoRecord err)

/-- The number of the request that was answered last. -/
def BattleSession.answered (s : BattleSession) : Option Int :=
  s.submittedRequest.map fun identity => identity.rqid

/-- A battle line loses a record: it cannot be observed, or the request that it makes the session
look at again is lost by its answer. -/
def LosesEvent (env : Environment) (s : BattleSession) (payload : String) : Prop :=
  match s.observeLine env payload with
  | .error err => s.pendingRequest.isSome ∧ LeavesNoRecord err
  | .ok (event, after) => endsBattle event = false ∧ (retryOf event).isSome ∧
      ∃ request, s.pendingRequest = some request ∧ LosesAnswer env s.answered after request

/-- A request line loses a record: it cannot be read, or the fresh request that it brings has no
digests or is lost by its answer. -/
def LosesRequest (env : Environment) (s : BattleSession) (payload : String) : Prop :=
  match readPayload env payload with
  | .error err => s.pendingRequest.isSome ∧ LeavesNoRecord err
  | .ok request => checkFreshness s.latestRequest request.identity = .ok false ∧
      ((∃ err, observedStateDigest s.state = .error err ∨
        safeSubmissionSetDigest request.safeSubmissions = .error err) ∨
        LosesAnswer env s.answered s.state request)

/-- A timer message loses a record: it cannot be observed. -/
def LosesTimer (s : BattleSession) (payload : String) : Prop :=
  match s.observeTimer payload with
  | .error err => s.pendingRequest.isSome ∧ LeavesNoRecord err
  | .ok _ => False

/-- A line of our room with which a running session loses the record of a request. -/
def LosesRecord (env : Environment) (s : BattleSession) (line : RoomLine) : Prop :=
  line.roomId = some env.roomId ∧
    match classifyRoomPayload line.payload with
    | .battleEvent => LosesEvent env s line.payload
    | .decisionRequest => LosesRequest env s line.payload
    | .battleError => s.pendingRequest.isSome ∧ LeavesNoRecord (battleError line.payload)
    | .timerMessage => LosesTimer s line.payload
    | .roomControlOrChat => False
    | .unknown => False

/-- No line loses a record. -/
def NothingLost (env : Environment) : BattleSession → List RoomLine → Prop
  | _, [] => True
  | s, line :: rest =>
      (s.done = false → ¬LosesRecord env s line) ∧ NothingLost env (s.feed env line) rest

/-- Nothing is lost at the end of the lines: no request is waiting, or the connection raises an
exception that leaves a record. -/
def EndsRecorded (s : BattleSession) (ending : Option PyException) : Prop :=
  s.done = false → s.pendingRequest.isSome → ∃ error, ending = some error ∧ ¬LeavesNoRecord error

/-- An ended session has recorded its latest request. -/
def Kept (s : BattleSession) : Prop := s.done = true → unrecorded s.log = none

variable {env : Environment} {s t : BattleSession} {request : DecisionRequest}

/-! ## §3 One line -/

/-- A sink that never raises, for records of a measurement run. -/
structure Measured (env : Environment) : Prop where
  context : env.decisionRecordContext.isSome
  sink : ∀ past record, env.emit past record = .ok ()

omit [Python.UnicodeDatabase] [JsonDecoder] in
theorem Measured.not_raised (henv : Measured env) (log : List SessionEntry) : ¬SinkRaised env log := by
  rintro ⟨record, past, -, error, herror⟩
  rw [henv.sink] at herror
  cases herror

omit [Python.UnicodeDatabase] [JsonDecoder] in
theorem Measured.healthy (henv : Measured env) (h : Trail env s) : s.traceFailed = false := by
  cases hfailed : s.traceFailed with
  | false => rfl
  | true => exact absurd (h.blamed hfailed) (henv.not_raised s.log)

omit [Python.UnicodeDatabase] [JsonDecoder] in
/-- Between two lines the requests without a record are those that are waiting. -/
theorem Settled.unrecorded_iff (henv : Measured env) (h : Settled env s) (hdone : s.done = false) :
    unrecorded s.log = s.pendingRequest := by
  cases hpending : s.pendingRequest with
  | none => exact h.closed hdone henv.context hpending
  | some request =>
    obtain ⟨pending, htrace, rfl⟩ := h.awaiting hdone henv.context request hpending
    exact (h.traced pending htrace).unrecorded

omit [Python.UnicodeDatabase] [JsonDecoder] in
/-- A traced request has a record once it has been finalized. -/
theorem finalizePending_recorded (henv : Measured env)
    (hrecordable : ∀ pending, s.pendingTrace = some pending → Recordable pending)
    (hhealthy : s.traceFailed = false) (htrace : s.pendingTrace.isSome)
    {status : DecisionRecordStatus} {errorCode : Option DecisionRecordErrorCode}
    {selected : Option BattleSubmission}
    (hdisposition : isDisposition status errorCode selected.isSome = true) :
    unrecorded (s.finalizePending env status errorCode selected).log = none := by
  have hfinal : Finalized env s status selected
      (s.finalizePending env status errorCode selected) :=
    finalizePending_outcome env s hrecordable hdisposition
  exact hfinal.recorded henv.context hhealthy htrace

omit [Python.UnicodeDatabase] [JsonDecoder] in
/-- An abort leaves a record of a traced request exactly when there is a code for its error. -/
theorem abort_kept (henv : Measured env) (h : Trail env s) (error : PyException) :
    Kept (s.abort env error) ↔
      unrecorded s.log = none ∨ s.pendingTrace.isSome ∧ ¬LeavesNoRecord error := by
  have hkept : Kept (s.abort env error) ↔
      unrecorded (((s.notePrimary error).enter (.abort error)).finalizeAborted env error).log =
        none :=
    ⟨fun hkept => hkept rfl, fun hnone _ => hnone⟩
  rw [hkept]
  have hrecordable : ∀ pending,
      ((s.notePrimary error).enter (.abort error)).pendingTrace = some pending →
        Recordable pending :=
    fun pending hpending => (h.traced pending hpending).toRecordable
  have hhealthy : ((s.notePrimary error).enter (.abort error)).traceFailed = false := by
    show s.traceFailed = false
    exact henv.healthy h
  have hunrecorded : unrecorded ((s.notePrimary error).enter (.abort error)).log =
      unrecorded s.log := rfl
  have htrace : ((s.notePrimary error).enter (.abort error)).pendingTrace = s.pendingTrace := rfl
  generalize (s.notePrimary error).enter (.abort error) = u at hrecordable hhealthy hunrecorded htrace
  have hfinalized : ∀ {status errorCode}, isDisposition status errorCode false = true →
      (unrecorded (u.finalizePending env status errorCode none).log = none ↔
        unrecorded s.log = none ∨ s.pendingTrace.isSome) := by
    intro status errorCode hdisposition
    cases hpending : s.pendingTrace with
    | some pending =>
      refine iff_of_true (finalizePending_recorded henv hrecordable hhealthy ?_ hdisposition)
        (.inr rfl)
      rw [htrace, hpending]
      rfl
    | none =>
      have hidle : u.finalizePending env status errorCode none = u := by
        unfold finalizePending
        rw [htrace, hpending]
      rw [hidle, hunrecorded]
      simp
  unfold finalizeAborted LeavesNoRecord
  cases hcode : recordErrorCode error with
  | none =>
    simp only [not_true_eq_false, and_false, or_false]
    rw [hunrecorded]
  | some code =>
    simp only [reduceCtorEq, not_false_eq_true, and_true]
    split_ifs with hfreshness
    · exact hfinalized rfl
    · exact hfinalized (disposition_aborted hcode (by simpa using hfreshness))

/-- What a method comes to, as far as the records go: it loses one exactly under `lost`. -/
def Loses (env : Environment) (lost : Prop) (result : Except Raised BattleSession) : Prop :=
  Kept (settle env result) ↔ ¬lost

omit [Python.UnicodeDatabase] [JsonDecoder] in
/-- A session that goes on has lost nothing. -/
theorem loses_ok {lost : Prop} (hdone : t.done = false) (hnot : ¬lost) :
    Loses env lost (.ok t) := by
  refine iff_of_true (fun hended => ?_) hnot
  have hrunning : t.done = true := hended
  rw [hdone] at hrunning
  cases hrunning

/-- The latest request has a record, on return and on an exception. -/
def Recorded (result : Except Raised BattleSession) : Prop :=
  Satisfies (fun t => unrecorded t.log = none) (fun raised => unrecorded raised.session.log = none)
    result

omit [Python.UnicodeDatabase] [JsonDecoder] in
/-- Nor has one that has recorded its latest request. -/
theorem Recorded.loses (henv : Measured env) {result : Except Raised BattleSession}
    (h : Recorded result) (htrail : KeepsTrail env result) {lost : Prop} (hnot : ¬lost) :
    Loses env lost result := by
  refine iff_of_true ?_ hnot
  cases result with
  | ok t => exact fun _ => h.of_ok rfl
  | error raised =>
    have hraised := (htrail.of_error rfl).toTrail
    exact (abort_kept henv hraised raised.error).mpr (.inl (h.of_error rfl))

omit [Python.UnicodeDatabase] [JsonDecoder] in
/-- An exception out of a settled session loses the record of the waiting request, if there is no
code for it. -/
theorem Settled.loses_fail (henv : Measured env) (h : Settled env s) (hdone : s.done = false)
    (error : PyException) :
    Loses env (s.pendingRequest.isSome ∧ LeavesNoRecord error) (s.fail error) := by
  have hkept := abort_kept henv (h.toTrail.continue (continues_occur s error)) error
  have hwaiting := h.unrecorded_iff henv hdone
  refine hkept.trans ?_
  show unrecorded s.log = none ∨ s.pendingTrace.isSome ∧ ¬LeavesNoRecord error ↔ _
  rw [hwaiting]
  cases hpending : s.pendingRequest with
  | none => simp
  | some request =>
    obtain ⟨pending, htrace, -⟩ := h.awaiting hdone henv.context request hpending
    rw [htrace]
    simp

omit [Python.UnicodeDatabase] [JsonDecoder] in
theorem Poised.trace_isSome (henv : Measured env) (h : Poised env s request) :
    s.pendingTrace.isSome := by
  obtain ⟨pending, hpending, -⟩ := h.tracing henv.context
  rw [hpending]
  rfl

omit [Python.UnicodeDatabase] [JsonDecoder] in
theorem Poised.recordable (h : Poised env s request) :
    ∀ pending, s.pendingTrace = some pending → Recordable pending :=
  fun pending hpending => (h.traced pending hpending).toRecordable

omit [Python.UnicodeDatabase] [JsonDecoder] in
/-- A refusal leaves a record before it raises. -/
theorem Poised.refuse_recorded (henv : Measured env) (h : Poised env s request) (error : PyException)
    {status : DecisionRecordStatus} {errorCode : DecisionRecordErrorCode}
    {selected : Option BattleSubmission}
    (hdisposition : isDisposition status (some errorCode) selected.isSome = true) :
    Recorded (s.refuse env error status errorCode selected) := by
  have hnoted : ((s.occur error).notePrimary error).pendingTrace = s.pendingTrace := rfl
  have hhealthy : s.traceFailed = false := henv.healthy h.toTrail
  refine .error (finalizePending_recorded henv ?_ ?_ ?_ hdisposition)
  · rw [hnoted]
    exact h.recordable
  · exact hhealthy
  · rw [hnoted]
    exact h.trace_isSome henv

omit [Python.UnicodeDatabase] [JsonDecoder] in
/-- A command leaves a record, whether the connection takes it or not. -/
theorem sendCommand_recorded (henv : Measured env) (h : Poised env s request)
    (authorized : BattleSubmission) (command : String) :
    Recorded (s.sendCommand env request authorized command) := by
  have hhealthy := henv.healthy h.toTrail
  have htrace := h.trace_isSome henv
  unfold sendCommand
  simp only
  cases env.sendRoom (sends s.log) command with
  | error err =>
    refine .error (finalizePending_recorded henv ?_ ?_ ?_ (disposition_sendFailed err authorized))
    · exact h.recordable
    · exact hhealthy
    · exact htrace
  | ok _ =>
    simp only [countSubmission_eq]
    refine .ok (finalizePending_recorded henv ?_ ?_ ?_ rfl)
    · exact h.recordable
    · exact hhealthy
    · exact htrace

omit [JsonDecoder] in
/-- An answer loses the record of its request only when the policy raises an exception that leaves
none. -/
theorem submit_loses (henv : Measured env) (h : Poised env s request)
    (hawaited : Awaited env s request) :
    Loses env (request.kind ≠ .wait ∧ ∃ err, env.policy request = .error err ∧
      (∀ text, err ≠ .noLegalActionError text) ∧ LeavesNoRecord err) (s.submit env request) := by
  have htrail := submit_keepsTrail h hawaited
  have houtcome := submit_outcome env s hawaited.wellFormed.safeIdentity
  generalize s.submit env request = answer at htrail houtcome
  cases houtcome with
  | known hknown =>
    exact absurd (hawaited.unsubmitted request.identity hknown.symm) (lt_irrefl _)
  | noop hwait =>
    have hrecorded : Recorded (.ok (({ s with
        submittedRequest := some request.identity
        pendingRequest := none } : BattleSession).finalizePending env .waitNoop none none)) := by
      have hhealthy := henv.healthy h.toTrail
      have htrace := h.trace_isSome henv
      refine .ok (finalizePending_recorded henv ?_ ?_ ?_ rfl)
      · exact h.recordable
      · exact hhealthy
      · exact htrace
    exact hrecorded.loses henv htrail fun hlost => hlost.1 hwait
  | policyRefused text hkind hpolicy =>
    refine (h.refuse_recorded henv _ rfl).loses henv htrail ?_
    rintro ⟨-, err, herr, hother, -⟩
    rw [hpolicy] at herr
    exact hother text (Except.error.inj herr).symm
  | policyRaised err hkind hpolicy hother =>
    have hkept := abort_kept henv (h.toTrail.continue (continues_occur s err)) err
    obtain ⟨pending, hpending, -⟩ := h.tracing henv.context
    refine hkept.trans ?_
    show unrecorded s.log = none ∨ s.pendingTrace.isSome ∧ ¬LeavesNoRecord err ↔ _
    rw [(h.traced pending hpending).unrecorded, hpending, hpolicy]
    constructor
    · rintro (hnone | ⟨-, hcode⟩) ⟨-, other, hsame, -, hlost⟩
      · cases hnone
      · rw [← Except.error.inj hsame] at hlost
        exact hcode hlost
    · intro hnot
      exact .inr ⟨rfl, fun hcode => hnot ⟨hkind, err, rfl, hother, hcode⟩⟩
  | gateRejected candidate text hkind hpolicy hnot =>
    refine (h.refuse_recorded henv _ rfl).loses henv htrail ?_
    rintro ⟨-, err, herr, -⟩
    rw [hpolicy] at herr
    cases herr
  | sent candidate text hkind hpolicy hmem htext =>
    refine (sendCommand_recorded henv h _ _).loses henv htrail ?_
    rintro ⟨-, err, herr, -⟩
    rw [hpolicy] at herr
    cases herr

omit [JsonDecoder] in
/-- An answer is lost under the conditions of `LosesAnswer`. -/
theorem losesAnswer_iff {result : ReconciliationResult} {stateDigest : String}
    (hresult : reconcile env.roomId request s.state s.answered = .ok result)
    (haccept : result.status = .accept) (hdigest : observedStateDigest s.state = .ok stateDigest) :
    LosesAnswer env s.answered s.state request ↔ request.kind ≠ .wait ∧
      ∃ err, env.policy request = .error err ∧ (∀ text, err ≠ .noLegalActionError text) ∧
        LeavesNoRecord err := by
  constructor
  · intro hlost
    cases hlost with
    | digest other err hother haccept' herr hcode =>
      rw [hdigest] at herr
      cases herr
    | policy other err digest hother haccept' hok hkind hpolicy hnot hcode =>
      exact ⟨hkind, err, hpolicy, hnot, hcode⟩
  · rintro ⟨hkind, err, hpolicy, hnot, hcode⟩
    exact .policy result err stateDigest hresult haccept hdigest hkind hpolicy hnot hcode

omit [JsonDecoder] in
/-- Only an accepted request can be lost by its answer. -/
theorem LosesAnswer.accepted {result : ReconciliationResult}
    (h : LosesAnswer env s.answered s.state request)
    (hresult : reconcile env.roomId request s.state s.answered = .ok result) :
    result.status = .accept := by
  cases h with
  | digest other err hother haccept herr hcode =>
    rw [Except.ok.inj (hresult.symm.trans hother)]
    exact haccept
  | policy other err digest hother haccept hok hkind hpolicy hnot hcode =>
    rw [Except.ok.inj (hresult.symm.trans hother)]
    exact haccept

omit [JsonDecoder] in
/-- A look at the pending request loses its record only by its answer. -/
theorem retryPending_loses (henv : Measured env) (h : Settled env s) (horderly : Orderly env s)
    (hdone : s.done = false) (reason : String) (strict : Bool) :
    Loses env (∃ request, s.pendingRequest = some request ∧
      LosesAnswer env s.answered s.state request) (s.retryPending env reason strict) := by
  cases hpending : s.pendingRequest with
  | none =>
    have heq : s.retryPending env reason strict = .ok s := by
      simp only [retryPending, hpending]
    rw [heq]
    refine loses_ok hdone ?_
    rintro ⟨request, hrequest, -⟩
    cases hrequest
  | some request =>
    have hawaited := horderly.pending request hpending
    have hpoised := h.poised hdone hpending
    have htrail := retryPending_keepsTrail h horderly hdone reason strict
    have houtcome := retryPending_outcome env s hpending hawaited.wellFormed reason strict
    have hlost : (∃ other, some request = some other ∧
        LosesAnswer env s.answered s.state other) ↔ LosesAnswer env s.answered s.state request := by
      simp only [Option.some.injEq, exists_eq_left']
    unfold Loses
    rw [hlost]
    generalize s.retryPending env reason strict = answer at htrail houtcome
    cases houtcome with
    | rejected result message hresult hstatus hwhy =>
      refine (hpoised.refuse_recorded henv _ rfl).loses henv htrail fun hlost => ?_
      exact hstatus (hlost.accepted hresult)
    | waiting result hresult hstatus hstrict hactive =>
      refine loses_ok hdone fun hlost => ?_
      rw [hlost.accepted hresult] at hstatus
      cases hstatus
    | undigested result err hresult hstatus htrace hdigest =>
      refine (h.loses_fail henv hdone err).trans (not_congr ?_)
      rw [hpending]
      constructor
      · rintro ⟨-, hcode⟩
        exact .digest result err hresult hstatus hdigest hcode
      · intro hlost
        cases hlost with
        | digest other err' hother haccept herr hcode =>
          rw [hdigest] at herr
          rw [Except.error.inj herr]
          exact ⟨rfl, hcode⟩
        | policy other err' digest hother haccept hok hkind hpolicy hnot hcode =>
          rw [hdigest] at hok
          cases hok
    | answered result t hresult hstatus ht =>
      rcases ht with ⟨hnone, -⟩ | ⟨stateDigest, hdigest, rfl⟩
      · have htraced := hpoised.trace_isSome henv
        rw [hnone] at htraced
        cases htraced
      · have hsubmit := submit_loses henv (hpoised.withStateDigest hdigest)
          (hawaited.congr ⟨rfl, rfl, id, .inl rfl⟩)
        exact hsubmit.trans (not_congr (losesAnswer_iff hresult hstatus hdigest).symm)

omit [Python.UnicodeDatabase] [JsonDecoder] in
/-- A battle that ends leaves a record of the waiting request. -/
theorem finish_recorded (henv : Measured env) (h : Settled env s) (hdone : s.done = false) :
    unrecorded (s.finish env).log = none := by
  show unrecorded ((s.enter .battleEnd).finalizePending env .terminallyDiscarded none none).log = none
  have hwaiting := h.unrecorded_iff henv hdone
  cases hpending : s.pendingRequest with
  | some request =>
    have hpoised := h.poised hdone hpending
    have hhealthy := henv.healthy h.toTrail
    have htrace := hpoised.trace_isSome henv
    refine finalizePending_recorded henv ?_ ?_ ?_ rfl
    · exact hpoised.recordable
    · exact hhealthy
    · exact htrace
  | none =>
    rw [hpending] at hwaiting
    have htrace : s.pendingTrace = none := by
      cases htrace : s.pendingTrace with
      | none => rfl
      | some pending =>
        rw [(h.traced pending htrace).unrecorded] at hwaiting
        cases hwaiting
    have hidle : (s.enter .battleEnd).finalizePending env .terminallyDiscarded none none =
        s.enter .battleEnd := by
      have hnone : (s.enter .battleEnd).pendingTrace = none := htrace
      unfold finalizePending
      rw [hnone]
    rw [hidle]
    exact hwaiting

omit [JsonDecoder] in
theorem processBattleEvent_loses (henv : Measured env) (h : Settled env s)
    (horderly : Orderly env s) (hdone : s.done = false) (payload : String) :
    Loses env (LosesEvent env s payload) (s.processBattleEvent env payload) := by
  unfold processBattleEvent LosesEvent
  cases hline : s.observeLine env payload with
  | error err => exact h.loses_fail henv hdone err
  | ok observed =>
    obtain ⟨event, after⟩ := observed
    have hobserved := h.observe after
    have horder := horderly.observe after
    simp only
    cases hends : endsBattle event with
    | true =>
      have hrecorded : unrecorded (({ s with state := after } : BattleSession).finish env).log = none :=
        finish_recorded henv hobserved hdone
      exact iff_of_true (fun _ => hrecorded) fun hlost => by cases hlost.1
    | false =>
      simp only [Bool.false_eq_true, if_false, true_and]
      cases hretry : retryOf event with
      | none => exact loses_ok hdone fun hlost => by cases hlost.1
      | some retry =>
        obtain ⟨reason, strict⟩ := retry
        have hlook := retryPending_loses henv hobserved horder hdone reason strict
        simp only [Option.isSome_some, true_and]
        exact hlook

omit [Python.UnicodeDatabase] [JsonDecoder] [Rfc8785] in
theorem leavesRecord_of_code {error : PyException} (value : String) (hcode : error.code = value)
    (hvalue : ((DecisionRecordErrorCode.ofValue value).filter fun code =>
      code ∈ abortRecordErrorCodes).isSome) : ¬LeavesNoRecord error := by
  unfold LeavesNoRecord recordErrorCode
  rw [hcode]
  exact Option.isSome_iff_ne_none.mp hvalue

omit [Python.UnicodeDatabase] [JsonDecoder] [Rfc8785] in
/-- The exceptions that the freshness check raises have codes. -/
theorem checkFreshness_leavesRecord {latest : Option RequestIdentity} {identity : RequestIdentity}
    {err : PyException} (h : checkFreshness latest identity = .error err) : ¬LeavesNoRecord err := by
  unfold checkFreshness at h
  split at h
  · cases h
  · split_ifs at h
    · rw [← Except.error.inj h]
      exact leavesRecord_of_code "stale_rqid" rfl (by decide)
    · rw [← Except.error.inj h]
      exact leavesRecord_of_code "request_state_reconciliation_mismatch" rfl (by decide)

omit [Python.UnicodeDatabase] [JsonDecoder] in
/-- Where the sink does not raise, a record does not end the session. -/
theorem Finalized.done (henv : Measured env) {status : DecisionRecordStatus}
    {selected : Option BattleSubmission} (ht : Finalized env s status selected t) :
    t.done = s.done := by
  cases ht with
  | idle hnone => rfl
  | unwritten hwhy => rfl
  | written pending record hsome hhealthy hrecord hindex hstatus hselected =>
    simp only [emitRecord, henv.sink]
    rfl

omit [Python.UnicodeDatabase] [JsonDecoder] in
theorem acceptFresh_done (henv : Measured env) (h : Settled env s) :
    (s.acceptFresh env request).done = s.done := by
  have hfinal : Finalized env s .supersededBeforeSelection none
      (s.finalizePending env .supersededBeforeSelection none none) :=
    finalizePending_outcome env s
      (fun pending hpending => (h.traced pending hpending).toRecordable) rfl
  show (s.finalizePending env .supersededBeforeSelection none none).done = s.done
  exact hfinal.done henv

omit [JsonDecoder] [Python.UnicodeDatabase] in
theorem answered_acceptFresh (env : Environment) (s : BattleSession) (request : DecisionRequest) :
    (s.acceptFresh env request).answered = s.answered := by
  have hkeeps := finalizePending_keepsCourse env s .supersededBeforeSelection none none
  show (s.finalizePending env .supersededBeforeSelection none none).answered = s.answered
  rw [answered, hkeeps.submittedRequest, answered]

omit [JsonDecoder] in
/-- A fresh request is lost if it has no digests, or by its answer. -/
theorem openTrace_loses (henv : Measured env) (h : Accepted env t request) (horderly : Orderly env t)
    (hdone : t.done = false) (hstate : t.state = s.state) (hanswered : t.answered = s.answered)
    (htrace : t.pendingTrace = none) (hwell : request.WellFormed env.roomId) :
    Loses env ((∃ err, observedStateDigest s.state = .error err ∨
        safeSubmissionSetDigest request.safeSubmissions = .error err) ∨
        LosesAnswer env s.answered s.state request) (do
      let opened ← t.openTrace env request
      if opened.done then .ok opened else opened.retryPending env "request received" false) := by
  have hfails : ∀ err, ¬Kept ((t.occur err).abort env err) := by
    intro err
    rw [abort_kept henv (h.toTrail.continue (continues_occur t err)) err]
    show ¬(unrecorded t.log = none ∨ t.pendingTrace.isSome ∧ _)
    rw [h.latest, htrace]
    simp
  have hkeeps := openTrace_keepsTrail h hwell
  have hcourse := openTrace_keepsCourse env t request
  have hopens : (env.decisionRecordContext.isNone || t.traceFailed) = false := by
    rw [henv.healthy h.toTrail, Option.isNone_eq_false_iff.mpr henv.context]
    rfl
  simp only [openTrace, hopens, Bool.false_eq_true, if_false] at hkeeps hcourse ⊢
  rw [← hstate, ← hanswered]
  cases hdigest : observedStateDigest t.state with
  | error err => exact iff_of_false (hfails err) (not_not.mpr (.inl ⟨err, .inl rfl⟩))
  | ok stateDigest =>
    cases hsafe : safeSubmissionSetDigest request.safeSubmissions with
    | error err => exact iff_of_false (hfails err) (not_not.mpr (.inl ⟨err, .inr rfl⟩))
    | ok safeDigest =>
      simp only [hdigest, hsafe] at hkeeps hcourse
      have hlook := retryPending_loses henv (hkeeps.of_ok rfl) (horderly.congr (hcourse.of_ok rfl))
        hdone "request received" false
      simp only [bind, Except.bind]
      show Loses env _ (if t.done = true then _ else _)
      rw [if_neg (by simp [hdone])]
      refine hlook.trans (not_congr ?_)
      constructor
      · rintro ⟨other, hother, hanswer⟩
        obtain rfl : request = other := Option.some.inj (h.pending.symm.trans hother)
        exact .inr hanswer
      · rintro (⟨err, herr | herr⟩ | hanswer)
        · cases herr
        · cases herr
        · exact ⟨request, h.pending, hanswer⟩

theorem processRequest_loses (henv : Measured env) (h : Settled env s) (horderly : Orderly env s)
    (hdone : s.done = false) (payload : String) :
    Loses env (LosesRequest env s payload) (s.processRequest env payload) := by
  unfold processRequest LosesRequest
  cases hread : readPayload env payload with
  | error err => exact h.loses_fail henv hdone err
  | ok request =>
    simp only
    cases hfresh : checkFreshness s.latestRequest request.identity with
    | error err =>
      refine (h.loses_fail henv hdone err).trans (iff_of_true ?_ fun hlost => by cases hlost.1)
      exact fun hlost => checkFreshness_leavesRecord hfresh hlost.2
    | ok isKnown =>
      cases isKnown with
      | true => exact loses_ok hdone fun hlost => by cases hlost.1
      | false =>
        have hwell := readRequest_wellFormed hread
        have haccepted := acceptFresh_accepted h horderly.toOrderlyLog hdone hwell hfresh
        have horder := acceptFresh_orderly horderly.toOrderlyLog hwell hfresh
        have hrunning : (s.acceptFresh env request).done = false :=
          (acceptFresh_done henv h).trans hdone
        have hstate := state_acceptFresh env s request
        have hanswered := answered_acceptFresh env s request
        have htrace := pendingTrace_acceptFresh env s request
        simp only [true_and]
        generalize s.acceptFresh env request = u at haccepted horder hrunning hstate hanswered htrace
        exact openTrace_loses henv haccepted horder hrunning hstate hanswered htrace hwell

/-- A line loses a record exactly under the conditions of `LosesRecord`. -/
theorem feed_kept_iff (henv : Measured env) (h : Settled env s) (horderly : Orderly env s)
    (hdone : s.done = false) (line : RoomLine) :
    Kept (s.feed env line) ↔ ¬LosesRecord env s line := by
  unfold feed LosesRecord
  rw [if_neg (by simp [hdone])]
  split_ifs with hroom
  · refine iff_of_true (fun hended => ?_) fun hlost => hroom hlost.1
    rw [hdone] at hended
    cases hended
  rw [not_not] at hroom
  simp only [hroom, true_and, processLine]
  show Loses env _ _
  cases classifyRoomPayload line.payload with
  | battleEvent => exact processBattleEvent_loses henv h horderly hdone line.payload
  | decisionRequest => exact processRequest_loses henv h horderly hdone line.payload
  | battleError => exact h.loses_fail henv hdone _
  | timerMessage =>
    simp only [processTimer, LosesTimer]
    cases hline : s.observeTimer line.payload with
    | error err => exact h.loses_fail henv hdone err
    | ok observed => exact loses_ok hdone id
  | roomControlOrChat => exact loses_ok hdone id
  | unknown =>
    refine (h.loses_fail henv hdone _).trans (iff_of_true ?_ id)
    exact fun hlost => leavesRecord_of_code "unknown_protocol_event" rfl (by decide) hlost.2

/-! ## §4 Whole runs -/

/-- The latest request is recorded in the end exactly when no line loses a record and the end of the
lines does not either. -/
theorem run_recorded_iff (henv : Measured env) (h : Settled env s) (horderly : Orderly env s)
    (hkept : Kept s) (lines : List RoomLine) (ending : Option PyException) :
    unrecorded (s.run env lines ending).log = none ↔
      NothingLost env s lines ∧ EndsRecorded (s.feedAll env lines) ending := by
  induction lines generalizing s with
  | nil =>
    show unrecorded (s.run env [] ending).log = none ↔ True ∧ EndsRecorded s ending
    rw [true_and]
    cases hdone : s.done with
    | true =>
      rw [run_of_done env hdone]
      refine iff_of_true (hkept hdone) fun hrunning => ?_
      rw [hdone] at hrunning
      cases hrunning
    | false =>
      have hwaiting := h.unrecorded_iff henv hdone
      cases ending with
      | none =>
        have hrun : s.run env [] none = s := rfl
        rw [hrun, hwaiting]
        constructor
        · intro hnone _ hsome
          rw [hnone] at hsome
          cases hsome
        · intro hends
          cases hpending : s.pendingRequest with
          | none => rfl
          | some request =>
            obtain ⟨error, herror, -⟩ := hends hdone (by rw [hpending]; rfl)
            cases herror
      | some error =>
        have hrun : s.run env [] (some error) = settle env (s.fail error) := by
          show (if s.done = true then s else (s.occur error).abort env error) = _
          rw [if_neg (by simp [hdone])]
          rfl
        have hended : (settle env (s.fail error)).done = true := rfl
        have hloses : (settle env (s.fail error)).done = true →
            unrecorded (settle env (s.fail error)).log = none ↔
              ¬(s.pendingRequest.isSome ∧ LeavesNoRecord error) :=
          h.loses_fail henv hdone error
        rw [hrun]
        rw [imp_iff_right hended] at hloses
        rw [hloses]
        constructor
        · intro hnot _ hsome
          exact ⟨error, rfl, fun hcode => hnot ⟨hsome, hcode⟩⟩
        · rintro hends ⟨hsome, hcode⟩
          obtain ⟨other, hother, hleaves⟩ := hends hdone hsome
          exact hleaves (Option.some.inj hother ▸ hcode)
  | cons line rest ih =>
    have hstep := feed_settled h horderly line
    have horder := feed_orderly horderly line
    show unrecorded ((s.feed env line).run env rest ending).log = none ↔
      ((s.done = false → ¬LosesRecord env s line) ∧ NothingLost env (s.feed env line) rest) ∧
        EndsRecorded ((s.feed env line).feedAll env rest) ending
    cases hdone : s.done with
    | true =>
      have hfeed : s.feed env line = s := if_pos hdone
      rw [hfeed] at hstep horder ⊢
      simp only [Bool.true_eq_false, false_implies, true_and]
      exact ih hstep horder hkept
    | false =>
      have hline := feed_kept_iff henv h horderly hdone line
      simp only [forall_const]
      rw [← hline, and_assoc]
      constructor
      · intro hrecorded
        -- a session that has lost a record is done, and so keeps it lost
        have hkept' : Kept (s.feed env line) := by
          intro hended
          rwa [run_of_done env hended] at hrecorded
        exact ⟨hkept', (ih hstep horder hkept').mp hrecorded⟩
      · rintro ⟨hkept', hothers⟩
        exact (ih hstep horder hkept').mpr hothers

/-- **Every fresh request has its record, unless it is lost.** With a sink that never raises, a
measurement run leaves one record for each fresh request, in order and with the indices 0, 1, ...,
exactly when no line loses a record and no request is waiting when the lines end. -/
theorem records_disposed_iff (env : Environment) (henv : Measured env) (state : ObservedState)
    (lines : List RoomLine) (ending : Option PyException) :
    let start := BattleSession.initial state
    Disposed (start.run env lines ending).log ↔
      NothingLost env start lines ∧ EndsRecorded (start.feedAll env lines) ending := by
  intro start
  have hstart := settled_initial env state
  have horderly := orderly_initial env state
  have hbooked := (run_settled hstart horderly lines ending).booked henv.context
  have hfresh := (run_orderly horderly lines ending).fresh
  rw [hbooked.disposed_iff hfresh]
  exact run_recorded_iff henv hstart horderly (fun hdone => by cases hdone) lines ending

end Runs

/-! ## §5 Runs -/

def zeroDigest : String := "sha256:" ++ String.ofList (List.replicate 64 '0')

/-- The first battle of a measurement run. -/
def measurementContext : letI := compactCanonicalizer; MeasurementRunContext :=
  letI := compactCanonicalizer
  let digests : RuntimeAndContractDigests := ⟨zeroDigest, zeroDigest, zeroDigest, zeroDigest, by decide⟩
  { payload :=
      { schemaVersion := 1
        evaluationRunBindingDigest := zeroDigest
        runScopeDigest := "sha256:adee4fe1dbf478bcf9f350fff6de73d2c20fb4a5143cb04eb215d7e54e58d796"
        battleIdDigest := "sha256:a28ac2cc2d2241f77d278497433e59dc691fd4efbf555af2da004301ae6e686d"
        battleOrdinal := 0
        version := rfl
        digests := by decide +kernel
        ordinal := by decide }
    runContextDigest := "sha256:7dff296b80f9da9004df91cd4c45453d919bc4e8ca0521eef14aedb691b59980"
    runScope := ⟨zeroDigest, zeroDigest, zeroDigest, "row", zeroDigest, zeroDigest, zeroDigest,
      zeroDigest, by decide +kernel, by decide⟩
    resolvedBinding := ⟨zeroDigest, zeroDigest, zeroDigest, zeroDigest, zeroDigest, zeroDigest,
      "heuristic", digests, by decide +kernel, by decide⟩
    digest := by decide +kernel
    payloadDigest := by decide +kernel
    binding := rfl
    scopeDigest := by decide +kernel
    battleId := by decide +kernel
    scope := rfl }

/-- The heuristic policy in a measurement run whose sink takes every record. -/
def measuredEnvironment : letI := compactCanonicalizer; Environment :=
  letI := compactCanonicalizer
  { heuristicEnvironment with decisionRecordContext := some measurementContext }

theorem measuredEnvironment_measured :
    letI := compactCanonicalizer
    Measured measuredEnvironment :=
  letI := compactCanonicalizer
  ⟨rfl, fun _ _ => rfl⟩

/-- The measurement run waits for Garchomp's switch, with one request and no record. -/
theorem garchomp_measured_waits :
    letI := Python.asciiDatabase
    letI := garchompDecoder
    letI := compactCanonicalizer
    ∃ waiting, (BattleSession.initial (ObservedState.initial "ash")).feedAll measuredEnvironment
        (metadata ++ [garchompLine]) = waiting ∧
      Waits waiting garchompRequest ∧ (freshRequests waiting.log).length = 1 ∧
        (records waiting.log).length = 0 ∧
        (waiting.observeLine measuredEnvironment garchompEnters.payload).map (fun observed =>
          decide (observed.1.isEntry ∧ observed.2.battleStarted = true ∧
            observed.2.activeNickname "p1" = some "Garchomp")) = .ok true := by
  let _ := Python.asciiDatabase
  let _ := garchompDecoder
  let _ := compactCanonicalizer
  have hevaluates : ∃ arrival, (BattleSession.initial (ObservedState.initial "ash")).feedAll
        measuredEnvironment metadata = arrival ∧
      (arrival.done = false ∧ arrival.latestRequest = none) ∧
      FitsGarchomp arrival.state ∧ arrival.state.activeNickname "p1" = none ∧
      ((arrival.acceptFresh measuredEnvironment garchompRequest).openTrace measuredEnvironment
          garchompRequest).toOption.map (fun opened =>
        (opened.done, (freshRequests opened.log).length, (records opened.log).length)) =
          some (false, 1, 0) ∧
      (arrival.observeLine measuredEnvironment garchompEnters.payload).map (fun observed =>
        decide (observed.1.isEntry ∧ observed.2.battleStarted = true ∧
          observed.2.activeNickname "p1" = some "Garchomp")) = .ok true := by
    refine ⟨_, rfl, ?_⟩
    decide +kernel
  have horderly := feedAll_orderly (orderly_initial measuredEnvironment
    (ObservedState.initial "ash")) metadata
  obtain ⟨arrival, harrival, ⟨hdone, hlatest⟩, hfits, hactive, hopening, hentry⟩ := hevaluates
  rw [harrival] at horderly
  obtain ⟨opened, hsome, hcounts⟩ := Option.map_eq_some_iff.mp hopening
  have hopened : (arrival.acceptFresh measuredEnvironment garchompRequest).openTrace
      measuredEnvironment garchompRequest = .ok opened := by
    cases htrace : (arrival.acceptFresh measuredEnvironment garchompRequest).openTrace
        measuredEnvironment garchompRequest with
    | error raised =>
      rw [htrace] at hsome
      cases hsome
    | ok other =>
      rw [htrace] at hsome
      rw [Option.some.inj hsome]
  obtain ⟨hrunning, hfresh, hrecords⟩ : opened.done = false ∧
      (freshRequests opened.log).length = 1 ∧ (records opened.log).length = 0 := by
    simpa only [Prod.mk.injEq] using hcounts
  obtain ⟨hfeed, hwaits, -⟩ := arrival_waits horderly (garchompLine_arrives rfl hdone hlatest) rfl
    hfits.formatFits hactive hopened hrunning
  have hkeeps := (openTrace_keepsCourse measuredEnvironment _ _).of_ok hopened
  refine ⟨opened, ?_, hwaits, hfresh, hrecords, ?_⟩
  · rw [feedAll_concat, harrival]
    exact hfeed
  · rw [observeLine, hkeeps.state, state_acceptFresh]
    exact hentry

/-- The lines end while the session waits for Garchomp's switch: its request has no record. -/
theorem waiting_request_unrecorded :
    letI := Python.asciiDatabase
    letI := garchompDecoder
    letI := compactCanonicalizer
    let s := (BattleSession.initial (ObservedState.initial "ash")).run measuredEnvironment
      (metadata ++ [garchompLine]) none
    Measured measuredEnvironment ∧ (freshRequests s.log).length = 1 ∧ (records s.log).length = 0 ∧
      ¬Disposed s.log := by
  let _ := Python.asciiDatabase
  let _ := garchompDecoder
  let _ := compactCanonicalizer
  obtain ⟨waiting, hwaiting, -, hfresh, hrecords, -⟩ := garchomp_measured_waits
  intro s
  have hs : s = waiting := hwaiting
  rw [hs]
  refine ⟨measuredEnvironment_measured, hfresh, hrecords, fun hdisposed => ?_⟩
  have hcount := hdisposed.count
  rw [hfresh, hrecords] at hcount
  cases hcount

/-- After the switch the request is answered, and nothing has been lost. -/
theorem garchomp_answer_recorded :
    letI := Python.asciiDatabase
    letI := garchompDecoder
    letI := compactCanonicalizer
    let start := BattleSession.initial (ObservedState.initial "ash")
    let lines := metadata ++ [garchompLine, garchompEnters]
    NothingLost measuredEnvironment start lines ∧
      EndsRecorded (start.feedAll measuredEnvironment lines) none := by
  let _ := Python.asciiDatabase
  let _ := garchompDecoder
  let _ := compactCanonicalizer
  intro start lines
  obtain ⟨waiting, hwaiting, hwaits, -, -, hentry⟩ := garchomp_measured_waits
  obtain ⟨⟨event, after⟩, hobserved, hboth⟩ := Runs.map_eq_ok.mp hentry
  obtain ⟨hevent, hstarted, hactive⟩ := of_decide_eq_true hboth
  have hstart := settled_initial measuredEnvironment (ObservedState.initial "ash")
  have horderly := orderly_initial measuredEnvironment (ObservedState.initial "ash")
  have hsettled : Settled measuredEnvironment waiting :=
    hwaiting ▸ feedAll_settled hstart horderly (metadata ++ [garchompLine])
  have hordered : Orderly measuredEnvironment waiting :=
    hwaiting ▸ feedAll_orderly horderly (metadata ++ [garchompLine])
  have hbattle : classifyRoomPayload garchompEnters.payload = .battleEvent := by
    decide +kernel
  -- the state has a digest, and the policy picks a submission
  have hlost : ¬LosesRecord measuredEnvironment waiting garchompEnters := by
    intro hloses
    have hevents := hloses.2
    simp only [hbattle, LosesEvent, hobserved] at hevents
    obtain ⟨-, -, request, hpending, hanswer⟩ := hevents
    obtain rfl : garchompRequest = request := Option.some.inj (hwaits.pending.symm.trans hpending)
    cases hanswer with
    | digest result err hresult haccept hdigest hcode => cases hdigest
    | policy result err stateDigest hresult haccept hdigest hkind hpolicy hother hcode =>
      have hchoices : garchompRequest.safeSubmissions.submissions ≠ [] := nofun
      obtain ⟨submission, -, hselects⟩ := heuristicSelect_mem hchoices
      cases hselects.symm.trans hpolicy
  have hkept := (feed_kept_iff measuredEnvironment_measured hsettled hordered hwaits.running
    garchompEnters).mpr hlost
  have hidle := bringsIn_resolves hordered hwaits.running hwaits.pending
    ⟨rfl, hbattle, ⟨event, hobserved, hevent⟩, hactive⟩ hstarted
  have hrecorded : unrecorded (waiting.feed measuredEnvironment garchompEnters).log = none := by
    cases hdone : (waiting.feed measuredEnvironment garchompEnters).done with
    | true => exact hkept hdone
    | false =>
      have hwhole := feed_settled hsettled hordered garchompEnters
      exact (hwhole.unrecorded_iff measuredEnvironment_measured hdone).trans hidle
  have hrun : start.run measuredEnvironment lines none =
      waiting.feed measuredEnvironment garchompEnters := by
    show start.feedAll measuredEnvironment (metadata ++ [garchompLine] ++ [garchompEnters]) = _
    rw [feedAll_concat, hwaiting]
  have hbooked := (run_settled hstart horderly lines none).booked measuredEnvironment_measured.context
  have hfresh := (run_orderly horderly lines none).fresh
  refine (records_disposed_iff measuredEnvironment measuredEnvironment_measured _ lines none).mp ?_
  rw [hbooked.disposed_iff hfresh]
  show unrecorded (start.run measuredEnvironment lines none).log = none
  rw [hrun]
  exact hrecorded

end BattleBelief
