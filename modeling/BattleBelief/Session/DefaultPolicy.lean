import BattleBelief.Session.RecordCardinality
import BattleBelief.Session.StatusMatrix

/-!
# The Default Policy

Between a request that the reconciler accepts and the connection stand the policy, the action gate
and the encoder. With `HeuristicPolicy` none of them ever stops a request that the reader returned:
every such request offers the default, the policy picks one of the safe submissions, the gate knows
each of them and each has an encoding.

Only the recording may come in between. A trace needs digests, and a request number that is not safe
in JSON has none, nor may the observed state have one.

- `unsafe_rqid_unanswered`: an accepted request that is not answered, because of its number
- `default_policy_safe`: whenever the recording does not stop a look, the request is answered once
-/

namespace BattleBelief

open BattleSession Outcomes

/-! ## §1 The safety chain -/

/-- The statuses of a request that policy, gate or encoder have stopped. -/
def safetyRejections : List DecisionRecordStatus :=
  [.policyRejected, .actionGateRejected, .commandEncodingFailed]

section Chain

variable [Python.UnicodeDatabase]

/-- The policy picks a safe submission, the gate lets it through, and it is encoded. -/
structure PassesChain (request : DecisionRequest) (submission : BattleSubmission)
    (command : String) : Prop where
  policy : heuristicSelect request = .ok submission
  safe : submission ∈ request.safeSubmissions.submissions
  gate : authorize submission request.identity request.safeSubmissions = .ok submission
  encoded : ∃ text, encodeSubmission submission = .ok text ∧
    command = s!"/choose {text}|{request.identity.rqid}"

variable {roomId : String} {request : DecisionRequest}

/-- A request that wants a decision passes the chain. -/
theorem DecisionRequest.WellFormed.passesChain (h : request.WellFormed roomId)
    (hkind : request.kind ≠ .wait) : ∃ submission command, PassesChain request submission command := by
  obtain ⟨default, hdefault, -⟩ := h.default_mem hkind
  obtain ⟨submission, hmem, hselect⟩ := heuristicSelect_mem (List.ne_nil_of_mem hdefault)
  obtain ⟨text, htext⟩ := encodeSubmission_ok submission
  refine ⟨submission, _, hselect, hmem, ?_, text, htext, rfl⟩
  simp [authorize, h.safeIdentity, SafeSubmissionSet.contains, hmem]

end Chain

/-! ## §2 Answers -/

section Answers

variable [Python.UnicodeDatabase] [Rfc8785]

/-- The same surroundings with the default policy. -/
def Environment.withDefaultPolicy (env : Environment) : Environment :=
  { env with policy := heuristicSelect }

/-- One command is handed over for the request, in this state and through the whole chain. -/
def AnsweredOnce (request : DecisionRequest) (state : ObservedState) (log : List SessionEntry) :
    Prop :=
  ∃ attempt, commandsFor request log = [attempt] ∧ attempt.request = request ∧
    attempt.state = state ∧ PassesChain request attempt.submission attempt.command

/-- The reconciler accepts the request in the state of the session. -/
def Reconciles (env : Environment) (s : BattleSession) (request : DecisionRequest) : Prop :=
  ∃ result, reconcile env.roomId request s.state
    (s.submittedRequest.map fun identity => identity.rqid) = .ok result ∧ result.status = .accept

/-- The digest of the state can be taken, if a trace is pending. -/
def Digestible (s : BattleSession) : Prop :=
  s.pendingTrace.isSome → ∃ stateDigest, observedStateDigest s.state = .ok stateDigest

variable {env : Environment} {s : BattleSession} {request : DecisionRequest}

/-- With the default policy an awaited request is handed over through the whole chain. -/
theorem submit_enters (h : Awaited env.withDefaultPolicy s request) (hkind : request.kind ≠ .wait) :
    ∃ attempt : SendAttempt, attempt.request = request ∧ attempt.state = s.state ∧
      PassesChain request attempt.submission attempt.command ∧
      Grows (s.enter (.sendRoom attempt)) (s.submit env.withDefaultPolicy request) := by
  obtain ⟨submission, _, hchain⟩ := h.wellFormed.passesChain hkind
  have hpolicy : env.withDefaultPolicy.policy request = .ok submission := hchain.policy
  have houtcome := submit_outcome env.withDefaultPolicy s h.wellFormed.safeIdentity
  generalize s.submit env.withDefaultPolicy request = answer at houtcome
  cases houtcome with
  | known hknown => exact absurd (h.unsubmitted request.identity hknown.symm) (lt_irrefl _)
  | noop hwait => exact absurd hwait hkind
  | policyRefused text _ herror =>
    rw [hpolicy] at herror
    cases herror
  | policyRaised err _ herror _ =>
    rw [hpolicy] at herror
    cases herror
  | gateRejected other text _ hother hnot =>
    obtain rfl := Except.ok.inj (hpolicy.symm.trans hother)
    exact absurd hchain.safe hnot
  | sent other text _ hother hmem htext =>
    obtain rfl := Except.ok.inj (hpolicy.symm.trans hother)
    obtain ⟨attempt, hrequest, hsubmission, hcommand, hstate, hgrows⟩ := sendCommand_enters
      env.withDefaultPolicy s request submission s!"/choose {text}|{request.identity.rqid}"
    refine ⟨attempt, hrequest, hstate, ?_, hgrows⟩
    rw [hsubmission, hcommand]
    exact ⟨hchain.policy, hchain.safe, hchain.gate, text, htext, rfl⟩

/-- So is a pending request that the reconciler accepts. -/
theorem retryPending_enters (h : Orderly env.withDefaultPolicy s)
    (hpending : s.pendingRequest = some request) (hkind : request.kind ≠ .wait)
    (haccept : Reconciles env s request) (hdigest : Digestible s) (reason : String)
    (strict : Bool) :
    ∃ attempt : SendAttempt, attempt.request = request ∧ attempt.state = s.state ∧
      PassesChain request attempt.submission attempt.command ∧
      Grows (s.enter (.sendRoom attempt))
        (s.retryPending env.withDefaultPolicy reason strict) := by
  obtain ⟨accepted, haccepted, hstatus⟩ := haccept
  have hawaited := h.pending request hpending
  have houtcome := retryPending_outcome env.withDefaultPolicy s hpending hawaited.wellFormed reason
    strict
  generalize s.retryPending env.withDefaultPolicy reason strict = answer at houtcome
  cases houtcome with
  | rejected result message hresult hnot _ =>
    rw [← Except.ok.inj (haccepted.symm.trans hresult)] at hnot
    exact absurd hstatus hnot
  | waiting result hresult hnot _ _ =>
    rw [← Except.ok.inj (haccepted.symm.trans hresult), hstatus] at hnot
    cases hnot
  | undigested result err hresult _ htrace herror =>
    obtain ⟨stateDigest, hok⟩ := hdigest htrace
    rw [hok] at herror
    cases herror
  | answered result t hresult _ ht =>
    rcases ht with ⟨-, rfl⟩ | ⟨stateDigest, -, rfl⟩
    · exact submit_enters hawaited hkind
    · have hkept : KeepsLog s (s.withStateDigest stateDigest) := ⟨rfl, rfl, id, .inl rfl⟩
      exact submit_enters (hawaited.congr hkept) hkind

/-! ## §3 Looks -/

/-- The digest of the state has just been taken when a trace is opened. -/
theorem openTrace_digestible {t : BattleSession} (hnone : s.pendingTrace = none)
    (hopened : s.openTrace env request = .ok t) : Digestible t := by
  intro htrace
  unfold openTrace at hopened
  split_ifs at hopened
  · obtain rfl := Except.ok.inj hopened
    rw [hnone] at htrace
    cases htrace
  · cases hdigest : observedStateDigest s.state with
    | error err =>
      simp only [hdigest] at hopened
      cases hopened
    | ok stateDigest =>
      simp only [hdigest] at hopened
      cases hsafe : safeSubmissionSetDigest request.safeSubmissions with
      | error err =>
        simp only [hsafe] at hopened
        cases hopened
      | ok safeDigest =>
        simp only [hsafe] at hopened
        obtain rfl := Except.ok.inj hopened
        exact ⟨stateDigest, hdigest⟩

variable [JsonDecoder]

/-- A line makes the session `t` look at its request while nothing stops the recording: a fresh
request comes in and its trace is opened, or an event has the pending one looked at again. -/
inductive Looks (env : Environment) (s : BattleSession) (line : RoomLine)
    (request : DecisionRequest) : BattleSession → Prop where
  | arrival (t : BattleSession) (harrives : Arrives env s line request)
      (hopened : (s.acceptFresh env request).openTrace env request = .ok t)
      (hdone : t.done = false) : Looks env s line request t
  | event (event : BattleEvent) (after : ObservedState) (hdone : s.done = false)
      (hroom : line.roomId = some env.roomId)
      (hkind : classifyRoomPayload line.payload = .battleEvent)
      (hobserved : s.observeLine env line.payload = .ok (event, after))
      (hends : endsBattle event = false) (hretry : (retryOf event).isSome)
      (hpending : s.pendingRequest = some request)
      (hdigest : Digestible { s with state := after }) :
      Looks env s line request { s with state := after }

/-- What a look comes to: the request is pending, and it is looked at. -/
theorem Looks.outcome {line : RoomLine} {t : BattleSession} (h : Orderly env s)
    (hlook : Looks env s line request t) :
    Orderly env t ∧ t.pendingRequest = some request ∧ Digestible t ∧
      ∃ reason strict, s.feed env line = settle env (t.retryPending env reason strict) := by
  cases hlook with
  | arrival _ harrives hopened hdone =>
    have hwell := readRequest_wellFormed harrives.read
    have hkeeps := (openTrace_keepsCourse env (s.acceptFresh env request) request).of_ok hopened
    have haccepted := acceptFresh_orderly h.toOrderlyLog hwell harrives.fresh
    refine ⟨haccepted.congr hkeeps, hkeeps.pendingRequest,
      openTrace_digestible (pendingTrace_acceptFresh env s request) hopened,
      "request received", false, ?_⟩
    unfold feed
    rw [if_neg (by simp [harrives.running]), if_neg (by simp [harrives.room])]
    simp only [processLine, harrives.kind, processRequest, harrives.read, harrives.fresh, hopened,
      bind, Except.bind, hdone]
    rfl
  | event event after hdone hroom hkind hobserved hends hretry hpending hdigest =>
    obtain ⟨⟨reason, strict⟩, hretry⟩ := Option.isSome_iff_exists.mp hretry
    refine ⟨h.observe after, hpending, hdigest, reason, strict, ?_⟩
    unfold feed
    rw [if_neg (by simp [hdone]), if_neg (by simp [hroom])]
    simp only [processLine, hkind, processBattleEvent, hobserved, hends, hretry]
    rfl

/-- A look at a request that the reconciler accepts puts its command into the log. -/
theorem Looks.enters {line : RoomLine} {t : BattleSession} (h : Orderly env.withDefaultPolicy s)
    (hlook : Looks env.withDefaultPolicy s line request t) (hkind : request.kind ≠ .wait)
    (haccept : Reconciles env t request) :
    ∃ attempt ∈ sends (s.feed env.withDefaultPolicy line).log, attempt.request = request ∧
      attempt.state = t.state ∧ PassesChain request attempt.submission attempt.command := by
  obtain ⟨ht, hpending, hdigest, reason, strict, hfeed⟩ := hlook.outcome h
  obtain ⟨attempt, hrequest, hstate, hchain, hgrows⟩ :=
    retryPending_enters ht hpending hkind haccept hdigest reason strict
  refine ⟨attempt, ?_, hrequest, hstate, hchain⟩
  rw [hfeed]
  have hsuffix := settle_suffix env.withDefaultPolicy hgrows
  exact (hsuffix.filterMap _).subset List.mem_cons_self

/-- Nothing that comes later takes the command back or adds another one. -/
theorem Looks.answeredOnce {line : RoomLine} {t : BattleSession}
    (h : Orderly env.withDefaultPolicy s) (hlook : Looks env.withDefaultPolicy s line request t)
    (hkind : request.kind ≠ .wait) (haccept : Reconciles env t request) (rest : List RoomLine)
    (ending : Option PyException) :
    AnsweredOnce request t.state (s.run env.withDefaultPolicy (line :: rest) ending).log := by
  obtain ⟨attempt, hmem, hrequest, hstate, hchain⟩ := hlook.enters h hkind haccept
  have hfed := feed_orderly h line
  have hlength := commandsFor_run hfed hmem hrequest rest ending
  have hin : attempt ∈ commandsFor request
      ((s.feed env.withDefaultPolicy line).run env.withDefaultPolicy rest ending).log :=
    mem_commandsFor (((run_grows _ _ rest ending).filterMap _).subset hmem) hrequest
  obtain ⟨only, honly⟩ := List.length_eq_one_iff.mp hlength
  rw [honly] at hin
  obtain rfl := List.mem_singleton.mp hin
  exact ⟨attempt, honly, hrequest, hstate, hchain⟩

end Answers

/-! ## §4 Records -/

section Records

/-- Policy, gate and encoder have let everything pass. -/
def NothingRejected (calls : List FinalizeCall) : Prop :=
  ∀ call ∈ calls, call.status ∉ safetyRejections

theorem NothingRejected.nil : NothingRejected [] := fun _ hmem => by cases hmem

theorem NothingRejected.cons {call : FinalizeCall} {calls : List FinalizeCall}
    (status : DecisionRecordStatus) (hstatus : call.status = status) (h : status ∉ safetyRejections)
    (hcalls : NothingRejected calls) : NothingRejected (call :: calls) :=
  List.forall_mem_cons.mpr ⟨by rwa [hstatus], hcalls⟩

theorem NothingRejected.single {call : FinalizeCall} (status : DecisionRecordStatus)
    (hstatus : call.status = status) (h : status ∉ safetyRejections) : NothingRejected [call] :=
  .cons status hstatus h .nil

theorem NothingRejected.append {first rest : List FinalizeCall} (hfirst : NothingRejected first)
    (hrest : NothingRejected rest) : NothingRejected (first ++ rest) :=
  List.forall_mem_append.mpr ⟨hfirst, hrest⟩

theorem abortCalls_nothingRejected (s : BattleSession) (error : PyException) :
    NothingRejected (s.abortCalls error) := by
  unfold abortCalls
  cases recordErrorCode error with
  | none => exact .nil
  | some code =>
    simp only
    split_ifs
    · exact .single .freshnessInvalidated rfl (by decide)
    · exact .single .sessionAborted rfl (by decide)

variable [Rfc8785] {env : Environment} {s : BattleSession} {request : DecisionRequest}

theorem sendCommandCall_nothingRejected (request : DecisionRequest) (authorized : BattleSubmission)
    (command : String) : NothingRejected [s.sendCommandCall env request authorized command] := by
  unfold sendCommandCall
  simp only
  cases env.sendRoom (sends s.log) command with
  | error err => exact .single .sendFailed rfl (by decide)
  | ok _ => exact .single .submitted rfl (by decide)

variable [Python.UnicodeDatabase]

/-- The chain is passed, and only the connection may still fail. -/
theorem submitCalls_nothingRejected {roomId : String} (h : request.WellFormed roomId) :
    NothingRejected (s.submitCalls env.withDefaultPolicy request) := by
  unfold submitCalls
  split_ifs with hknown hwait
  · exact .nil
  · exact .single .waitNoop rfl (by decide)
  · obtain ⟨submission, _, hchain⟩ := h.passesChain hwait
    obtain ⟨text, htext, -⟩ := hchain.encoded
    have hpolicy : env.withDefaultPolicy.policy request = .ok submission := hchain.policy
    simp only [hpolicy, submitCandidateCalls, hchain.gate, htext]
    exact sendCommandCall_nothingRejected request submission _

theorem retryPendingCalls_nothingRejected (h : Orderly env.withDefaultPolicy s) (reason : String)
    (strict : Bool) :
    NothingRejected (s.retryPendingCalls env.withDefaultPolicy reason strict) := by
  unfold retryPendingCalls
  cases hpending : s.pendingRequest with
  | none => exact .nil
  | some request =>
    simp only
    split
    · exact .nil
    · split
      · exact .single .reconciliationRejected rfl (by decide)
      · split_ifs
        · exact .single .reconciliationRejected rfl (by decide)
        · exact .nil
      · split
        · exact .nil
        · exact submitCalls_nothingRejected (h.pending request hpending).wellFormed

variable [JsonDecoder]

theorem lineCalls_nothingRejected (h : Orderly env.withDefaultPolicy s) (payload : String) :
    NothingRejected (s.lineCalls env.withDefaultPolicy payload) := by
  unfold lineCalls
  split
  · unfold battleEventCalls
    split
    · exact .nil
    · next event after _ =>
      simp only
      split_ifs
      · exact .single .terminallyDiscarded rfl (by decide)
      · split
        · exact retryPendingCalls_nothingRejected (h.observe after) _ _
        · exact .nil
  · unfold requestCalls
    split
    · exact .nil
    · next request hread =>
      split
      · exact .nil
      · exact .nil
      · next hfresh =>
        refine .cons .supersededBeforeSelection rfl (by decide) ?_
        have hwell := readRequest_wellFormed hread
        have haccepted := acceptFresh_orderly h.toOrderlyLog hwell hfresh
        have hkeeps := openTrace_keepsCourse env.withDefaultPolicy
          (s.acceptFresh env.withDefaultPolicy request) request
        split
        · exact .nil
        · next t hopened =>
          split_ifs
          · exact .nil
          · exact retryPendingCalls_nothingRejected (haccepted.congr (hkeeps.of_ok hopened)) _ _
  · exact .nil

theorem feedAllCalls_nothingRejected (h : Orderly env.withDefaultPolicy s) (lines : List RoomLine) :
    NothingRejected (s.feedAllCalls env.withDefaultPolicy lines) := by
  induction lines generalizing s with
  | nil => exact .nil
  | cons line rest ih =>
    refine .append ?_ (ih (feed_orderly h line))
    unfold feedCalls
    split_ifs
    · exact .nil
    · exact .nil
    · refine .append (lineCalls_nothingRejected h line.payload) ?_
      split
      · exact .nil
      · exact abortCalls_nothingRejected _ _

theorem runCalls_nothingRejected (h : Orderly env.withDefaultPolicy s) (lines : List RoomLine)
    (ending : Option PyException) :
    NothingRejected (s.runCalls env.withDefaultPolicy lines ending) := by
  unfold runCalls
  refine .append (feedAllCalls_nothingRejected h lines) ?_
  cases ending with
  | none => exact .nil
  | some error =>
    simp only
    split_ifs
    · exact .nil
    · exact abortCalls_nothingRejected _ _

omit [Python.UnicodeDatabase] [JsonDecoder] in
/-- A record bears the status of the call that made it. -/
theorem FinalizeCall.made_status {call : FinalizeCall} {record : DecisionRecord}
    (h : call.made env = some record) : record.recordStatus = call.status := by
  unfold FinalizeCall.made at h
  cases hpending : call.session.pendingTrace with
  | none =>
    simp only [hpending] at h
    cases h
  | some pending =>
    cases hcontext : env.decisionRecordContext with
    | none =>
      simp only [hpending, hcontext] at h
      cases h
    | some context =>
      simp only [hpending, hcontext] at h
      split_ifs at h
      cases hcreate : call.construct context pending with
      | error err =>
        rw [hcreate] at h
        cases h
      | ok made =>
        rw [hcreate] at h
        obtain rfl := Option.some.inj h
        rw [RecordFields.toRecord_eq_ok hcreate]
        rfl

/-- No record of a run with the default policy tells of a rejection. -/
theorem records_nothingRejected (env : Environment) (state : ObservedState) (lines : List RoomLine)
    (ending : Option PyException) :
    ∀ record ∈ records ((BattleSession.initial state).run env.withDefaultPolicy lines ending).log,
      record.recordStatus ∉ safetyRejections := by
  intro record hrecord
  have hmade := records_run env.withDefaultPolicy state lines ending
  rw [← List.mem_reverse, hmade] at hrecord
  obtain ⟨call, hcall, hmade⟩ := List.mem_filterMap.mp hrecord
  rw [FinalizeCall.made_status hmade]
  exact runCalls_nothingRejected (orderly_initial _ state) lines ending call hcall

/-- **The default policy passes the safety chain.** In every run with `HeuristicPolicy`, whatever
connection and sink do: when the session looks at a request that wants a decision, nothing stops the
recording and the reconciler accepts, then the policy picks a safe submission, the gate lets it
through, it is encoded, and exactly one command is handed over for the request in the whole run. No
record ever tells of a rejection by policy, gate or encoder. -/
theorem default_policy_safe (surroundings : Environment) (state : ObservedState) :
    let env := surroundings.withDefaultPolicy
    let start := BattleSession.initial state
    (∀ before line request t, Looks env (start.feedAll env before) line request t →
      request.kind ≠ .wait → Reconciles env t request → ∀ rest ending,
        AnsweredOnce request t.state (start.run env (before ++ line :: rest) ending).log) ∧
      ∀ lines ending, ∀ record ∈ records (start.run env lines ending).log,
        record.recordStatus ∉ safetyRejections := by
  intro env start
  refine ⟨fun before line request t hlook hkind haccept rest ending => ?_, fun lines ending =>
    records_nothingRejected surroundings state lines ending⟩
  have horderly := feedAll_orderly (orderly_initial env state) before
  rw [run_append]
  exact hlook.answeredOnce horderly hkind haccept rest ending

end Records

/-- With the named pokemon on the field, the first request reconciles. -/
theorem reconciles_of_active [Python.UnicodeDatabase] [Rfc8785] {env : Environment} {s : BattleSession}
    {request : DecisionRequest} (hwell : request.WellFormed env.roomId)
    (hfits : FormatFits request s.state) (hfirst : s.submittedRequest = none) {nickname : String}
    (hidentity : request.activeIdentity = some nickname)
    (hactive : s.state.activeNickname request.sideId = some nickname) : Reconciles env s request := by
  refine ⟨accepted, ?_, rfl⟩
  rw [hfirst]
  exact reconcile_of_active hwell hfits (fun _ hlatest => by cases hlatest) hidentity hactive

/-- Garchomp's request arrives with Garchomp on the field. -/
theorem garchomp_active_answered :
    letI := Python.asciiDatabase
    letI := garchompDecoder
    letI := compactCanonicalizer
    ∃ state, AnsweredOnce garchompRequest state
      ((BattleSession.initial (ObservedState.initial "ash")).run
        heuristicEnvironment.withDefaultPolicy (metadata ++ [garchompEnters] ++ [garchompLine])
        none).log := by
  let _ := Python.asciiDatabase
  let _ := garchompDecoder
  let _ := compactCanonicalizer
  have henv : heuristicEnvironment.withDefaultPolicy = heuristicEnvironment := rfl
  have hsafe := (default_policy_safe heuristicEnvironment (ObservedState.initial "ash")).1
    (metadata ++ [garchompEnters]) garchompLine garchompRequest
  have hevaluates :
      let arrival := (BattleSession.initial (ObservedState.initial "ash")).feedAll
        heuristicEnvironment (metadata ++ [garchompEnters])
      (arrival.done = false ∧ arrival.latestRequest = none ∧ arrival.submittedRequest = none) ∧
        FitsGarchomp arrival.state ∧ arrival.state.activeNickname "p1" = some "Garchomp" := by
    decide +kernel
  rw [henv] at hsafe ⊢
  -- the session that the request meets need not be evaluated any further
  generalize (BattleSession.initial (ObservedState.initial "ash")).feedAll heuristicEnvironment
    (metadata ++ [garchompEnters]) = arrival at hsafe hevaluates
  obtain ⟨⟨hdone, hlatest, hfirst⟩, hfits, hactive⟩ := hevaluates
  have hcontext : heuristicEnvironment.decisionRecordContext = none := rfl
  have harrives : Arrives heuristicEnvironment arrival garchompLine garchompRequest :=
    garchompLine_arrives rfl hdone hlatest
  have hopened := openTrace_unrecorded hcontext
    (arrival.acceptFresh heuristicEnvironment garchompRequest) garchompRequest
  have hlook : Looks heuristicEnvironment arrival garchompLine garchompRequest
      (arrival.acceptFresh heuristicEnvironment garchompRequest) :=
    .arrival _ harrives hopened ((done_acceptFresh hcontext arrival _).trans hdone)
  have hstate := state_acceptFresh heuristicEnvironment arrival garchompRequest
  have hreconciles : Reconciles heuristicEnvironment
      (arrival.acceptFresh heuristicEnvironment garchompRequest) garchompRequest := by
    refine reconciles_of_active harrives.wellFormed
      ?_ ?_ rfl ?_
    · rw [hstate]
      exact hfits.formatFits
    · rw [submittedRequest_acceptFresh, hfirst]
    · rw [hstate]
      exact hactive
  exact ⟨_, hsafe _ hlook (by decide) hreconciles [] none⟩

/-! ## §5 Unsafe numbers -/

section Unsafe

variable [Python.UnicodeDatabase] [Rfc8785] {env : Environment} {s : BattleSession}
  {request : DecisionRequest}

/-- No trace is opened for a number that is not safe in JSON. -/
theorem openTrace_of_unsafe (hcontext : env.decisionRecordContext.isSome)
    (hhealthy : s.traceFailed = false)
    (hidentity : request.safeSubmissions.requestIdentity = request.identity)
    (hlarge : maxSafeInteger < request.identity.rqid) :
    ∃ error, s.openTrace env request = s.fail error := by
  have hclosed : ¬(env.decisionRecordContext.isNone || s.traceFailed) = true := by
    simp [hhealthy, Option.isNone_iff_eq_none, Option.isSome_iff_ne_none.mp hcontext]
  unfold openTrace
  rw [if_neg hclosed]
  cases observedStateDigest s.state with
  | error err => exact ⟨err, rfl⟩
  | ok stateDigest =>
    cases hsafe : safeSubmissionSetDigest request.safeSubmissions with
    | error err => exact ⟨err, rfl⟩
    | ok safeDigest =>
      obtain ⟨-, identity, hpublic⟩ := safeSubmissionSetDigest_eq_ok hsafe
      rw [hidentity] at hpublic
      have hbound := identity.safe.2
      rw [(PublicRequestIdentity.fromInternal_eq_ok.mp hpublic).1] at hbound
      omega

variable [JsonDecoder] {line : RoomLine}

/-- A session that writes records stops at a request with such a number. -/
theorem unsafe_stops (hsettled : Settled env s) (horderly : Orderly env s)
    (harrives : Arrives env s line request) (hcontext : env.decisionRecordContext.isSome)
    (hlarge : maxSafeInteger < request.identity.rqid) :
    (s.feed env line).done = true ∧ sends (s.feed env line).log = sends s.log := by
  have hwell := readRequest_wellFormed harrives.read
  have haccepted := acceptFresh_accepted hsettled horderly.toOrderlyLog harrives.running hwell
    harrives.fresh
  have hfeed : s.feed env line = settle env (s.processRequest env line.payload) := by
    unfold feed
    rw [if_neg (by simp [harrives.running]), if_neg (by simp [harrives.room])]
    simp only [processLine, harrives.kind]
  rw [hfeed]
  simp only [processRequest, harrives.read, harrives.fresh]
  cases hfailed : (s.acceptFresh env request).traceFailed with
  | true =>
    -- the record of the request before has just failed
    have hdone := haccepted.toTrail.stopped hfailed
    have hopened : (s.acceptFresh env request).openTrace env request =
        .ok (s.acceptFresh env request) := by
      unfold openTrace
      rw [if_pos (by simp [hfailed])]
    simp only [hopened, bind, Except.bind, hdone, if_true]
    exact ⟨hdone, sends_acceptFresh env s request⟩
  | false =>
    obtain ⟨error, hopened⟩ := openTrace_of_unsafe hcontext hfailed hwell.safeIdentity hlarge
    simp only [hopened, bind, Except.bind]
    exact ⟨rfl, (sends_abort env _ _).trans (sends_acceptFresh env s request)⟩

/-- No command is ever handed over for it. -/
theorem unsafe_unanswered (hsettled : Settled env s) (horderly : Orderly env s)
    (harrives : Arrives env s line request) (hcontext : env.decisionRecordContext.isSome)
    (hlarge : maxSafeInteger < request.identity.rqid) (rest : List RoomLine)
    (ending : Option PyException) :
    commandsFor request (s.run env (line :: rest) ending).log = [] := by
  obtain ⟨hdone, hsends⟩ := unsafe_stops hsettled horderly harrives hcontext hlarge
  have hrun : s.run env (line :: rest) ending = s.feed env line := run_of_done env hdone rest ending
  rw [hrun, commandsFor, hsends, List.filter_eq_nil_iff]
  intro attempt hattempt
  simpa using commandsFor_fresh horderly harrives attempt hattempt

end Unsafe

/-- Garchomp's request under the first number that is not safe. -/
def unsafeText : String :=
  "\x7b\"rqid\":9007199254740992" ++ Python.dropChars garchompText 9

/-- What it decodes to. -/
def unsafeMembers : Members :=
  match garchompJson with
  | .obj members => ("rqid", .int 9007199254740992) :: members.tail
  | _ => []

/-- A decoder that knows this request. -/
@[reducible] def unsafeDecoder : JsonDecoder where
  loads text :=
    if text = unsafeText then .ok (.obj unsafeMembers)
    else .error (.decodeError "Expecting value: line 1 column 1 (char 0)")

def unsafeIdentity : RequestIdentity where
  roomId := "battle-gen9ou-1"
  rqid := 9007199254740992
  requestDigest := canonicalDigest unsafeMembers

/-- The request that the text stands for. -/
def unsafeRequest : DecisionRequest :=
  { garchompRequest with
    identity := unsafeIdentity
    safeSubmissions := ⟨unsafeIdentity, [earthquake, defaultSubmission]⟩ }

def unsafeLine : RoomLine := ourLine ("|request|" ++ unsafeText)

/-- In a measurement run the request is not answered, although the reconciler would accept it. -/
theorem unsafe_rqid_unanswered :
    letI := Python.asciiDatabase
    letI := unsafeDecoder
    letI := compactCanonicalizer
    let start := BattleSession.initial (ObservedState.initial "ash")
    let arrival := start.feedAll measuredEnvironment (metadata ++ [garchompEnters])
    measuredEnvironment.policy = heuristicSelect ∧
      Arrives measuredEnvironment arrival unsafeLine unsafeRequest ∧
      unsafeRequest.kind ≠ .wait ∧ Reconciles measuredEnvironment arrival unsafeRequest ∧
      commandsFor unsafeRequest (start.run measuredEnvironment
        (metadata ++ [garchompEnters] ++ [unsafeLine]) none).log = [] := by
  let _ := Python.asciiDatabase
  let _ := unsafeDecoder
  let _ := compactCanonicalizer
  intro start arrival
  have hevaluates : (arrival.done = false ∧ arrival.latestRequest = none ∧
      arrival.submittedRequest = none) ∧
      FitsGarchomp arrival.state ∧ arrival.state.activeNickname "p1" = some "Garchomp" := by
    unfold arrival start
    decide +kernel
  obtain ⟨⟨hdone, hlatest, hfirst⟩, hfits, hactive⟩ := hevaluates
  have hloads : JsonDecoder.loads unsafeText = .ok (.obj unsafeMembers) := if_pos rfl
  have hload : loadRequest unsafeText = .ok unsafeMembers := by rw [loadRequest, hloads]
  have htext : Python.dropChars unsafeLine.payload 9 = unsafeText := dropChars_request unsafeText
  have hread : readPayload measuredEnvironment unsafeLine.payload = .ok unsafeRequest := by
    rw [readPayload, htext, readRequest, hload]
    decide +kernel
  have harrives : Arrives measuredEnvironment arrival unsafeLine unsafeRequest := by
    refine ⟨hdone, rfl, classify_request unsafeText, hread, ?_⟩
    rw [hlatest]
    rfl
  have hsettled : Settled measuredEnvironment arrival :=
    feedAll_settled (settled_initial _ _) (orderly_initial _ _) _
  have horderly : Orderly measuredEnvironment arrival := feedAll_orderly (orderly_initial _ _) _
  have hreconciles : Reconciles measuredEnvironment arrival unsafeRequest :=
    reconciles_of_active harrives.wellFormed ⟨hfits.formatFits.side, hfits.formatFits.generation,
      hfits.formatFits.gameType, hfits.formatFits.tier, hfits.formatFits.teamSize⟩ hfirst rfl hactive
  refine ⟨rfl, harrives, by decide, hreconciles, ?_⟩
  rw [run_append]
  exact unsafe_unanswered hsettled horderly harrives rfl (by decide) [] none

end BattleBelief
