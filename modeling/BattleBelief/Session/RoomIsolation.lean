import BattleBelief.Session.RequestBeforeSwitch

/-!
# Room Isolation

The lines of other rooms and the chat of our own leave no trace in a session but the count of chat
lines. Nothing that a session does depends on that count: each method does the same with any other
count. So two streams of lines that differ in noise only come to the same session, count aside.

- `room_isolation`: commands, state, records and errors depend on the lines that concern the session
-/

namespace BattleBelief

open BattleSession

/-! ## §1 Counts -/

namespace BattleSession

/-- The session with another count of chat lines. -/
def recount (session : BattleSession) (count : Nat) : BattleSession :=
  { session with roomControlOrChatCount := count }

/-- The outcome of a method with another count. -/
def recountResult (count : Nat) : Except Raised BattleSession → Except Raised BattleSession
  | .ok session => .ok (session.recount count)
  | .error raised => .error ⟨raised.error, raised.session.recount count⟩

variable (s : BattleSession) (count : Nat)

@[simp] theorem recount_log : (s.recount count).log = s.log := rfl

@[simp] theorem recount_state : (s.recount count).state = s.state := rfl

@[simp] theorem recount_done : (s.recount count).done = s.done := rfl

@[simp] theorem recount_pendingTrace : (s.recount count).pendingTrace = s.pendingTrace := rfl

@[simp] theorem recount_pendingRequest :
    (s.recount count).pendingRequest = s.pendingRequest := rfl

@[simp] theorem recount_submittedRequest :
    (s.recount count).submittedRequest = s.submittedRequest := rfl

@[simp] theorem recount_latestRequest : (s.recount count).latestRequest = s.latestRequest := rfl

/-- Both branches of a condition that does not depend on the count. -/
theorem recountResult_ite {p q : Prop} [Decidable p] [Decidable q] (hpq : p ↔ q)
    {first second first' second' : Except Raised BattleSession}
    (hfirst : first' = recountResult count first)
    (hsecond : second' = recountResult count second) :
    (if p then first' else second') = recountResult count (if q then first else second) := by
  by_cases h : p
  · rw [if_pos h, if_pos (hpq.mp h), hfirst]
  · rw [if_neg h, if_neg fun hq => h (hpq.mpr hq), hsecond]

end BattleSession

/-! ## §2 Methods -/

section Methods

variable [Rfc8785]

variable (env : Environment) (s : BattleSession) (count : Nat)

theorem recount_emitRecord (record : DecisionRecord) :
    (s.recount count).emitRecord env record = (s.emitRecord env record).recount count := by
  unfold emitRecord
  simp only [recount_log]
  cases env.emit (records s.log) record <;> rfl

theorem recount_finalizePending (status : DecisionRecordStatus)
    (errorCode : Option DecisionRecordErrorCode) (selected : Option BattleSubmission) :
    (s.recount count).finalizePending env status errorCode selected =
      (s.finalizePending env status errorCode selected).recount count := by
  unfold finalizePending
  simp only [recount_pendingTrace]
  cases s.pendingTrace with
  | none => rfl
  | some pending =>
    cases env.decisionRecordContext with
    | none => rfl
    | some context =>
      cases hfailed : s.traceFailed with
      | true =>
        have hrecounted : (s.recount count).traceFailed = true := hfailed
        simp only [hrecounted, if_true]
        rfl
      | false =>
        have hrecounted : (s.recount count).traceFailed = false := hfailed
        simp only [hrecounted, Bool.false_eq_true, if_false]
        cases DecisionRecord.create context status pending.decisionIndex pending.request.identity
            pending.observedStateDigest pending.safeSubmissionSetDigest selected errorCode with
        | error err => rfl
        | ok record =>
          exact recount_emitRecord env { s with pendingTrace := none, traceFailed := false } count
            record

theorem recount_openTrace [Python.UnicodeDatabase] (request : DecisionRequest) :
    (s.recount count).openTrace env request =
      recountResult count (s.openTrace env request) := by
  unfold openTrace
  refine recountResult_ite count Iff.rfl rfl ?_
  simp only [recount_state]
  cases observedStateDigest s.state with
  | error err => rfl
  | ok stateDigest =>
    simp only
    cases safeSubmissionSetDigest request.safeSubmissions <;> rfl

theorem recount_refreshPendingTraceState [Python.UnicodeDatabase] :
    (s.recount count).refreshPendingTraceState =
      recountResult count s.refreshPendingTraceState := by
  unfold refreshPendingTraceState
  simp only [recount_pendingTrace, recount_state]
  cases s.pendingTrace with
  | none => rfl
  | some pending =>
    simp only
    cases observedStateDigest s.state <;> rfl

theorem recount_refuse (error : PyException) (status : DecisionRecordStatus)
    (errorCode : DecisionRecordErrorCode) (selected : Option BattleSubmission) :
    (s.recount count).refuse env error status errorCode selected =
      recountResult count (s.refuse env error status errorCode selected) := by
  have hfinal := recount_finalizePending env ((s.occur error).notePrimary error) count status
    (some errorCode) selected
  exact congrArg (fun t => (.error ⟨error, t⟩ : Except Raised BattleSession)) hfinal

omit [Rfc8785] in
theorem recount_countSubmission (authorized : BattleSubmission) :
    (s.recount count).countSubmission authorized =
      (s.countSubmission authorized).recount count := by
  unfold countSubmission
  cases authorized.provenance <;> rfl

theorem recount_sendCommand (request : DecisionRequest) (authorized : BattleSubmission)
    (command : String) :
    (s.recount count).sendCommand env request authorized command =
      recountResult count (s.sendCommand env request authorized command) := by
  unfold sendCommand
  simp only [recount_log, recount_state, recount_submittedRequest]
  generalize SendAttempt.mk request authorized command s.state
    (s.submittedRequest.map fun identity => identity.rqid)
    (env.sendRoom (sends s.log) command) = attempt
  cases env.sendRoom (sends s.log) command with
  | error err =>
    exact recount_refuse env (s.enter (.sendRoom attempt)) count err .sendFailed
      (sendErrorCode err) (some authorized)
  | ok _ =>
    have hcounted : ((s.recount count).enter (.sendRoom attempt)).countSubmission authorized =
        ((s.enter (.sendRoom attempt)).countSubmission authorized).recount count :=
      recount_countSubmission (s.enter (.sendRoom attempt)) count authorized
    simp only [hcounted]
    exact congrArg Except.ok (recount_finalizePending env
      { (s.enter (.sendRoom attempt)).countSubmission authorized with
        submittedRequest := some request.identity
        pendingRequest := none } count .submitted none (some authorized))

variable [Python.UnicodeDatabase]

theorem recount_submit (request : DecisionRequest) :
    (s.recount count).submit env request = recountResult count (s.submit env request) := by
  unfold submit
  refine recountResult_ite count Iff.rfl rfl (recountResult_ite count Iff.rfl ?_ ?_)
  · exact congrArg Except.ok (recount_finalizePending env { s with
      submittedRequest := some request.identity
      pendingRequest := none } count .waitNoop none none)
  cases env.policy request with
  | error err => cases err <;> first | exact recount_refuse env s count _ _ _ _ | rfl
  | ok candidate =>
    simp only [submitCandidate]
    cases authorize candidate request.identity request.safeSubmissions with
    | error err => cases err <;> first | exact recount_refuse env s count _ _ _ _ | rfl
    | ok authorized =>
      simp only
      cases encodeSubmission authorized with
      | error err => exact recount_refuse env s count _ _ _ _
      | ok text => exact recount_sendCommand env s count request authorized _

theorem recount_retryPending (reason : String) (strict : Bool) :
    (s.recount count).retryPending env reason strict =
      recountResult count (s.retryPending env reason strict) := by
  unfold retryPending
  simp only [recount_pendingRequest, recount_submittedRequest, recount_state]
  cases s.pendingRequest with
  | none => rfl
  | some request =>
    simp only
    cases reconcile env.roomId request s.state
        (s.submittedRequest.map fun identity => identity.rqid) with
    | error err => rfl
    | ok result =>
      simp only
      cases result.status with
      | reject => exact recount_refuse env s count _ _ _ _
      | pendingPublicState =>
        exact recountResult_ite count Iff.rfl (recount_refuse env s count _ _ _ _) rfl
      | accept =>
        simp only [recount_refreshPendingTraceState]
        cases s.refreshPendingTraceState with
        | error raised => rfl
        | ok t => exact recount_submit env t count request

theorem recount_processBattleEvent (payload : String) :
    (s.recount count).processBattleEvent env payload =
      recountResult count (s.processBattleEvent env payload) := by
  have hobserve : (s.recount count).observeLine env payload = s.observeLine env payload := rfl
  unfold processBattleEvent
  rw [hobserve]
  cases s.observeLine env payload with
  | error err => rfl
  | ok observed =>
    obtain ⟨event, state⟩ := observed
    simp only
    cases endsBattle event with
    | true =>
      have hfinal := recount_finalizePending env
        (({ s with state := state } : BattleSession).enter .battleEnd) count .terminallyDiscarded
        none none
      exact congrArg (fun t : BattleSession => Except.ok
        { t with pendingRequest := none, done := true }) hfinal
    | false =>
      cases retryOf event with
      | none => rfl
      | some retry => exact recount_retryPending env { s with state := state } count _ _

omit [Rfc8785] in
theorem recount_processTimer (payload : String) :
    (s.recount count).processTimer payload = recountResult count (s.processTimer payload) := by
  have hobserve : (s.recount count).observeTimer payload = s.observeTimer payload := rfl
  unfold processTimer
  rw [hobserve]
  cases s.observeTimer payload <;> rfl

variable [JsonDecoder]

theorem recount_processRequest (payload : String) :
    (s.recount count).processRequest env payload =
      recountResult count (s.processRequest env payload) := by
  unfold processRequest
  simp only [recount_latestRequest]
  cases readPayload env payload with
  | error err => rfl
  | ok request =>
    simp only
    cases checkFreshness s.latestRequest request.identity with
    | error err => rfl
    | ok known =>
      cases known with
      | true => rfl
      | false =>
        have haccept : (s.recount count).acceptFresh env request =
            (s.acceptFresh env request).recount count := by
          unfold acceptFresh
          rw [recount_finalizePending]
          rfl
        simp only [haccept, recount_openTrace]
        cases (s.acceptFresh env request).openTrace env request with
        | error raised => rfl
        | ok t =>
          exact recountResult_ite count Iff.rfl rfl (recount_retryPending env t count _ _)

/-- A line that is not chat is processed in the same way, whatever the count. -/
theorem recount_processLine (payload : String)
    (hchat : classifyRoomPayload payload ≠ .roomControlOrChat) :
    (s.recount count).processLine env payload =
      recountResult count (s.processLine env payload) := by
  unfold processLine
  cases hkind : classifyRoomPayload payload with
  | battleEvent => exact recount_processBattleEvent env s count payload
  | decisionRequest => exact recount_processRequest env s count payload
  | battleError => rfl
  | timerMessage => exact recount_processTimer s count payload
  | roomControlOrChat => exact absurd hkind hchat
  | unknown => rfl

omit [Python.UnicodeDatabase] [JsonDecoder] in
theorem recount_abort (error : PyException) :
    (s.recount count).abort env error = (s.abort env error).recount count := by
  have hfinal : ((((s.recount count).notePrimary error).enter (.abort error)).finalizeAborted env
      error) = (((s.notePrimary error).enter (.abort error)).finalizeAborted env error).recount
        count := by
    unfold finalizeAborted
    cases recordErrorCode error with
    | none => rfl
    | some code =>
      simp only
      split_ifs
      · exact recount_finalizePending env ((s.notePrimary error).enter (.abort error)) count _ _ _
      · exact recount_finalizePending env ((s.notePrimary error).enter (.abort error)) count _ _ _
  exact congrArg (fun t : BattleSession => { t with pendingRequest := none, done := true }) hfinal

/-! ## §3 Noise -/

/-- The line is of our room, and not chat. -/
def concerns (line : RoomLine) : Bool :=
  line.roomId = some env.roomId && classifyRoomPayload line.payload ≠ .roomControlOrChat

/-- A line that does not concern the session changes nothing but the count. -/
theorem feed_of_noise {line : RoomLine} (h : concerns env line = false) :
    (s.feed env line).recount count = s.recount count := by
  unfold feed
  split_ifs with hdone hroom
  · rfl
  · rfl
  · have hchat : classifyRoomPayload line.payload = .roomControlOrChat := by
      rw [not_not] at hroom
      simpa [concerns, hroom] using h
    simp only [processLine, hchat]
    rfl

/-- Every other line does the same, whatever the count. -/
theorem recount_feed {line : RoomLine} (h : concerns env line = true) :
    (s.feed env line).recount count = (s.recount count).feed env line := by
  have hchat : classifyRoomPayload line.payload ≠ .roomControlOrChat := by
    simp only [concerns, Bool.and_eq_true, decide_eq_true_eq] at h
    exact h.2
  unfold feed
  simp only [recount_done, recount_processLine env s count line.payload hchat]
  split_ifs
  · rfl
  · rfl
  · cases s.processLine env line.payload with
    | ok t => rfl
    | error raised => exact (recount_abort env raised.session count raised.error).symm

/-- Without the noise the lines lead to the same session, count aside. -/
theorem recount_feedAll (lines : List RoomLine) :
    (s.feedAll env lines).recount count =
      (s.recount count).feedAll env (lines.filter (concerns env)) := by
  induction lines generalizing s with
  | nil => rfl
  | cons line rest ih =>
    have hrest := ih (s.feed env line)
    cases hconcerns : concerns env line with
    | true =>
      rw [recount_feed env s count hconcerns] at hrest
      rw [List.filter_cons_of_pos hconcerns]
      exact hrest
    | false =>
      rw [feed_of_noise env s count hconcerns] at hrest
      rw [List.filter_cons_of_neg (by simp [hconcerns])]
      exact hrest

theorem recount_run (lines : List RoomLine) (ending : Option PyException) :
    (s.run env lines ending).recount count =
      (s.recount count).run env (lines.filter (concerns env)) ending := by
  have hlines := recount_feedAll env s count lines
  unfold run
  simp only [← hlines, recount_done]
  cases ending with
  | none => rfl
  | some error =>
    simp only
    split_ifs
    · rfl
    · exact (recount_abort env ((s.feedAll env lines).occur error) count error).symm

end Methods

section Sessions

variable [Python.UnicodeDatabase] [JsonDecoder] [Rfc8785]

/-- **Room isolation.** Two streams that have the same lines for the session, in the same order,
among whatever lines of other rooms and chat, lead to the same commands, the same observed state,
the same records and the same primary error. Only the count of chat lines tells them apart. -/
theorem room_isolation (env : Environment) (state : ObservedState) (lines noisy : List RoomLine)
    (ending : Option PyException)
    (hsame : noisy.filter (concerns env) = lines.filter (concerns env)) :
    let s := (BattleSession.initial state).run env lines ending
    let t := (BattleSession.initial state).run env noisy ending
    sends t.log = sends s.log ∧ t.state = s.state ∧ records t.log = records s.log ∧
      t.primaryError = s.primaryError ∧
        t = { s with roomControlOrChatCount := t.roomControlOrChatCount } := by
  intro s t
  have hquiet : t.recount t.roomControlOrChatCount = s.recount t.roomControlOrChatCount := by
    unfold s t
    rw [recount_run, recount_run, hsame]
  have heq : t = s.recount t.roomControlOrChatCount := hquiet
  refine ⟨?_, ?_, ?_, ?_, heq⟩
  · rw [heq, recount_log]
  · rw [heq, recount_state]
  · rw [heq, recount_log]
  · rw [heq]
    rfl

end Sessions

/-- Chat with a request in it, and a switch in another room, do not come between Garchomp's request
and its answer. -/
theorem garchomp_among_noise :
    letI := Python.asciiDatabase
    letI := garchompDecoder
    letI := compactCanonicalizer
    let start := BattleSession.initial (ObservedState.initial "ash")
    let chat := ourLine ("|c|misty|" ++ "|request|" ++ garchompText)
    let elsewhere : RoomLine := ⟨some "battle-gen9ou-2", "|switch|p1a: Pikachu|Pikachu, M|100/100"⟩
    sends (start.run heuristicEnvironment
        (metadata ++ [chat, garchompLine, elsewhere, garchompEnters]) none).log =
      sends (start.run heuristicEnvironment (metadata ++ [garchompLine, garchompEnters]) none).log := by
  let _ := Python.asciiDatabase
  let _ := garchompDecoder
  let _ := compactCanonicalizer
  intro start chat elsewhere
  have hchat : concerns heuristicEnvironment chat = false := by
    unfold chat
    decide +kernel
  have helsewhere : concerns heuristicEnvironment elsewhere = false := rfl
  have hsame : (metadata ++ [chat, garchompLine, elsewhere, garchompEnters]).filter
      (concerns heuristicEnvironment) =
        (metadata ++ [garchompLine, garchompEnters]).filter (concerns heuristicEnvironment) := by
    simp only [List.filter_append, List.filter_cons, hchat, helsewhere, Bool.false_eq_true, if_false]
  exact (room_isolation heuristicEnvironment (ObservedState.initial "ash") _ _ none hsame).1

end BattleBelief
