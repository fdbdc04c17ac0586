import BattleBelief.Session.Recording

/-!
# Settlement

Every method of a session keeps the trail, and between two lines the session is settled. From this:

- `submitted_records`: the records of submissions are the commands that the connection took
- `fail_stop`: after a failure to record nothing is handed over, and the first error is reported
-/

namespace BattleBelief

open BattleSession Outcomes

section Methods

variable [Rfc8785]

variable {env : Environment} {s t : BattleSession} {request : DecisionRequest}

/-! ## §1 Exceptions -/

omit [Rfc8785] in
/-- Taking an error down and noting it keeps the first one the primary one. -/
theorem first_note (h : s.primaryError = s.errors.getLast?) (error : PyException) :
    ((s.occur error).notePrimary error).primaryError =
      ((s.occur error).notePrimary error).errors.getLast? := by
  show some (s.primaryError.getD error) = (error :: s.errors).getLast?
  rw [List.getLast?_cons, h]

/-- An exception raised without more ado. -/
theorem Trail.fail (h : Trail env s) (hbooked : KeepsBooks env s)
    (hfirst : s.primaryError = s.errors.getLast?) (error : PyException) :
    KeepsTrail env (s.fail error) := by
  refine .error ⟨h.continue (continues_occur s error), hbooked, List.mem_cons_self, ?_⟩
  show (error :: s.errors).getLast? = some (s.primaryError.getD error)
  rw [List.getLast?_cons, hfirst]

/-- A request is disposed of by an error, and the error is raised. -/
theorem refuse_keepsTrail {error : PyException}
    (h : Trail env ((s.occur error).notePrimary error)) (hbooked : KeepsBooks env s)
    (hfirst : s.primaryError = s.errors.getLast?) {status : DecisionRecordStatus}
    {errorCode : DecisionRecordErrorCode} {selected : Option BattleSubmission}
    (hstatus : status ≠ .submitted)
    (hdisposition : isDisposition status (some errorCode) selected.isSome = true) :
    KeepsTrail env (s.refuse env error status errorCode selected) := by
  have hfinal := finalizePending_outcome env ((s.occur error).notePrimary error)
    (fun pending hpending => (h.traced pending hpending).toRecordable) hdisposition
  have hfirstNoted := first_note hfirst error
  have herrors : error ∈ (((s.occur error).notePrimary error).finalizePending env status
      (some errorCode) selected).errors := by
    refine hfinal.errors_subset ?_
    exact List.mem_cons_self
  have hprimary := hfinal.first hfirstNoted
  refine .error ⟨h.finalized hfinal, h.finalized_booked hbooked hstatus hfinal, herrors, ?_⟩
  show (((s.occur error).notePrimary error).finalizePending env status (some errorCode)
    selected).errors.getLast? = _
  rw [← hprimary]
  obtain ⟨first, hsome⟩ : ∃ first, (((s.occur error).notePrimary error).finalizePending env status
      (some errorCode) selected).primaryError = some first := by
    rw [hprimary]
    exact Option.isSome_iff_exists.mp (List.getLast?_isSome.mpr (List.ne_nil_of_mem herrors))
  rw [hsome]
  rfl

/-! ## §2 Answers -/

/-- A session that is about to answer the request. -/
structure Poised (env : Environment) (s : BattleSession) (request : DecisionRequest) : Prop extends
    Trail env s where
  booked : KeepsBooks env s
  first : s.primaryError = s.errors.getLast?
  running : s.done = false
  flawless : s.errors = []
  counted : env.decisionRecordContext.isSome → s.nextDecisionIndex = (freshRequests s.log).length
  tracing : env.decisionRecordContext.isSome → ∃ pending, s.pendingTrace = some pending ∧
    pending.request = request

theorem Settled.poised (h : Settled env s) (hdone : s.done = false)
    (hpending : s.pendingRequest = some request) : Poised env s request where
  toTrail := h.toTrail
  booked := h.booked
  first := h.first
  running := hdone
  flawless := h.flawless hdone
  counted := h.counted hdone
  tracing hcontext := h.awaiting hdone hcontext request hpending

theorem Poised.refuse (h : Poised env s request) (error : PyException)
    {status : DecisionRecordStatus} {errorCode : DecisionRecordErrorCode}
    {selected : Option BattleSubmission} (hstatus : status ≠ .submitted)
    (hdisposition : isDisposition status (some errorCode) selected.isSome = true) :
    KeepsTrail env (s.refuse env error status errorCode selected) :=
  refuse_keepsTrail ((h.toTrail.continue (continues_occur s error)).continue
    (continues_notePrimary (s.occur error) error)) h.booked h.first hstatus hdisposition

/-- A session that has nothing pending is settled once its record is written. -/
theorem Finalized.settled {status : DecisionRecordStatus} {selected : Option BattleSubmission}
    (hfinal : Finalized env s status selected t) (hkeeps : KeepsCourse s t) (h : Trail env s)
    (hbooked : KeepsBooks env t) (hfirst : s.primaryError = s.errors.getLast?)
    (hflawless : s.errors = []) (hhealthy : s.traceFailed = false) (hpending : s.pendingRequest = none)
    (hcounted : env.decisionRecordContext.isSome →
      s.nextDecisionIndex = (freshRequests s.log).length)
    (htracing : env.decisionRecordContext.isSome → s.pendingTrace.isSome) : Settled env t where
  toTrail := h.finalized hfinal
  booked := hbooked
  first := hfinal.first hfirst
  flawless := hfinal.flawless fun _ => hflawless
  counted _ hcontext := by rw [hfinal.nextDecisionIndex, hkeeps.freshRequests, hcounted hcontext]
  awaiting _ _ request hrequest := by
    rw [hkeeps.pendingRequest, hpending] at hrequest
    cases hrequest
  closed _ hcontext _ := hfinal.recorded hcontext hhealthy (htracing hcontext)

/-- A command goes into the trail, with its count and the error that it ended in. -/
theorem Trail.send (h : Trail env s) (hhealthy : s.traceFailed = false) {attempt : SendAttempt}
    (hlog : t.log = .sendRoom attempt :: s.log)
    (hexplicit : t.explicitRequestSubmissions = s.explicitRequestSubmissions +
      if attempt.succeeded && attempt.submission.provenance = .explicitRequest then 1 else 0)
    (hdefault : t.defaultSubmissions = s.defaultSubmissions +
      if attempt.succeeded && attempt.submission.provenance = .serverDefault then 1 else 0)
    (hfailed : t.traceFailed = s.traceFailed) (hrecordError : t.recordError = s.recordError)
    (herrors : s.errors ⊆ t.errors)
    (hnoticed : ∀ error, attempt.outcome = .error error → error ∈ t.errors)
    (htrace : t.pendingTrace = s.pendingTrace) : Trail env t := by
  have hcount : ∀ provenance, succeededWith provenance t.log = succeededWith provenance s.log +
      if attempt.succeeded && attempt.submission.provenance = provenance then 1 else 0 := by
    intro provenance
    rw [hlog]
    exact List.countP_cons
  have hraised : SinkRaised env t.log ↔ SinkRaised env s.log := by
    rw [hlog]
    exact sinkRaised_cons_of_not_emit fun _ heq => by cases heq
  have hfresh : freshRequests t.log = freshRequests s.log := by
    rw [hlog]
    rfl
  refine ⟨?_, ?_, ?_, ?_, ?_, ?_, ?_, ?_, ?_, ?_, ?_⟩
  · rw [hexplicit, h.explicit, hcount]
  · rw [hdefault, h.default, hcount]
  · intro entry past hsuffix hpast
    rw [hlog] at hsuffix
    rcases List.suffix_cons_iff.mp hsuffix with heq | hold
    · obtain ⟨rfl, rfl⟩ := List.cons.inj heq
      exact absurd hpast (h.healthy hhealthy)
    · exact h.silent entry past hold hpast
  · rw [hraised, hfailed]
    exact h.healthy
  · rw [hraised, hfailed]
    exact h.blamed
  · rw [hfailed, hhealthy]
    exact fun hcontra => by cases hcontra
  · rw [hrecordError, h.constructed]
  · intro error hin
    rw [hlog] at hin
    rcases hin.of_cons with hold | ⟨other, heq, houtcome⟩ | heq | ⟨-, record, heq, -⟩
    · exact herrors (h.noticed error hold)
    · obtain rfl := SessionEntry.sendRoom.inj heq
      exact hnoticed error houtcome
    · cases heq
    · cases heq
  · rw [hfresh]
    exact h.numbered
  · rw [htrace]
    exact h.untraced
  · intro pending hpending
    rw [htrace] at hpending
    obtain ⟨hrecordable, hunrecorded, hindex⟩ := h.traced pending hpending
    rw [hlog]
    exact ⟨hrecordable, hunrecorded, hindex⟩

omit [Rfc8785] in
theorem disposition_sendFailed (error : PyException) (submission : BattleSubmission) :
    isDisposition .sendFailed (some (sendErrorCode error)) (some submission).isSome = true := by
  cases error <;> rfl

omit [Rfc8785] in
theorem countSubmission_eq (s : BattleSession) (authorized : BattleSubmission) :
    s.countSubmission authorized = { s with
      explicitRequestSubmissions := s.explicitRequestSubmissions +
        if authorized.provenance = .explicitRequest then 1 else 0
      defaultSubmissions := s.defaultSubmissions +
        if authorized.provenance = .serverDefault then 1 else 0 } := by
  unfold countSubmission
  cases authorized.provenance <;> rfl

/-- Handing over a command keeps the trail. -/
theorem sendCommand_keepsTrail (h : Poised env s request) (authorized : BattleSubmission)
    (command : String) : KeepsTrail env (s.sendCommand env request authorized command) := by
  have hhealthy := h.toTrail.traceFailed_eq_false h.running
  unfold sendCommand
  simp only
  generalize hattempt : SendAttempt.mk request authorized command s.state
    (s.submittedRequest.map fun identity => identity.rqid)
    (env.sendRoom (sends s.log) command) = attempt
  have hrequest : attempt.request = request := by rw [← hattempt]
  have hsubmission : attempt.submission = authorized := by rw [← hattempt]
  have houtcome : attempt.outcome = env.sendRoom (sends s.log) command := by rw [← hattempt]
  have hopen : env.decisionRecordContext.isSome → unrecorded s.log = some attempt.request := by
    intro hcontext
    obtain ⟨pending, hpending, heq⟩ := h.tracing hcontext
    rw [(h.traced pending hpending).unrecorded, heq, hrequest]
  cases hsent : env.sendRoom (sends s.log) command with
  | error err =>
    have hfailed : attempt.succeeded = false := by
      unfold SendAttempt.succeeded
      rw [houtcome, hsent]
    have hnoted : Trail env (((s.enter (.sendRoom attempt)).occur err).notePrimary err) := by
      refine h.toTrail.send hhealthy rfl ?_ ?_ rfl rfl (fun _ hmem => List.mem_cons_of_mem _ hmem)
        (fun error heq => ?_) rfl
      · rw [hfailed]
        rfl
      · rw [hfailed]
        rfl
      · rw [houtcome, hsent] at heq
        rw [← Except.error.inj heq]
        exact List.mem_cons_self
    have hbooked : KeepsBooks env (s.enter (.sendRoom attempt)) := fun hcontext =>
      .failed attempt (h.booked hcontext) (hopen hcontext) err (houtcome.trans hsent)
    exact refuse_keepsTrail hnoted hbooked h.first (by decide) (disposition_sendFailed err authorized)
  | ok _ =>
    have hsucceeded : attempt.succeeded = true := by
      unfold SendAttempt.succeeded
      rw [houtcome, hsent]
    have hnoError : ∀ error, attempt.outcome = .error error → error ∈ s.errors := by
      intro error heq
      rw [houtcome, hsent] at heq
      cases heq
    generalize hu : ({ (s.enter (.sendRoom attempt)).countSubmission authorized with
      submittedRequest := some request.identity
      pendingRequest := none } : BattleSession) = u
    rw [countSubmission_eq] at hu
    have hcounted : Trail env u := by
      subst hu
      refine h.toTrail.send hhealthy rfl ?_ ?_ rfl rfl (fun _ hmem => hmem) hnoError rfl
      · simp only [hsucceeded, hsubmission, Bool.true_and, decide_eq_true_eq]
        rfl
      · simp only [hsucceeded, hsubmission, Bool.true_and, decide_eq_true_eq]
        rfl
    have hlog : u.log = .sendRoom attempt :: s.log := by rw [← hu]; rfl
    have htrace : u.pendingTrace = s.pendingTrace := by rw [← hu]; rfl
    have hfailedTrace : u.traceFailed = s.traceFailed := by rw [← hu]; rfl
    have hfinal : Finalized env u .submitted (some authorized)
        (u.finalizePending env .submitted none (some authorized)) :=
      finalizePending_outcome env u
        (fun pending hpending => (hcounted.traced pending hpending).toRecordable) rfl
    have hkeeps := finalizePending_keepsCourse env u .submitted none (some authorized)
    have hsubmitted : KeepsBooks env (u.finalizePending env .submitted none (some authorized)) := by
      intro hcontext
      obtain ⟨pending, hpending, heq⟩ := h.tracing hcontext
      generalize u.finalizePending env .submitted none (some authorized) = t at hfinal
      cases hfinal with
      | idle hnone =>
        rw [htrace, hpending] at hnone
        cases hnone
      | unwritten hwhy =>
        rcases hwhy with hnone | hfailed
        · rw [hnone] at hcontext
          cases hcontext
        · rw [hfailedTrace, hhealthy] at hfailed
          cases hfailed
      | written other record hother _ hrecord hindex hstatus hselected =>
        obtain rfl : pending = other := Option.some.inj (hpending.symm.trans (htrace ▸ hother))
        rw [emitRecord_log]
        show Booked (.emit record :: u.log)
        rw [hlog]
        refine .answered attempt record (h.booked hcontext) (hopen hcontext)
          (houtcome.trans hsent) ?_ ?_ hstatus ?_
        · rw [hrequest, ← heq]
          exact hrecord
        · rw [hindex]
          exact_mod_cast (h.traced pending hpending).index
        · rw [hselected, hsubmission]
    refine .ok (hfinal.settled hkeeps hcounted hsubmitted ?_ ?_ (hfailedTrace.trans hhealthy) ?_ ?_
      ?_)
    · rw [← hu]
      exact h.first
    · rw [← hu]
      exact h.flawless
    · rw [← hu]
    · intro hcontext
      rw [← hu]
      exact h.counted hcontext
    · intro hcontext
      obtain ⟨pending, hpending, -⟩ := h.tracing hcontext
      rw [htrace, hpending]
      rfl

variable [Python.UnicodeDatabase]

/-- An accepted request is answered without leaving the trail. -/
theorem submit_keepsTrail (h : Poised env s request) (hawaited : Awaited env s request) :
    KeepsTrail env (s.submit env request) := by
  have houtcome := submit_outcome env s hawaited.wellFormed.safeIdentity
  generalize s.submit env request = answer at houtcome
  cases houtcome with
  | known hknown =>
    exact absurd (hawaited.unsubmitted request.identity hknown.symm) (lt_irrefl _)
  | noop hwait =>
    generalize hu : ({ s with
      submittedRequest := some request.identity
      pendingRequest := none } : BattleSession) = u
    have hunmarked : Trail env u := by
      rw [← hu]
      exact h.toTrail.continue
        ⟨rfl, rfl, rfl, rfl, rfl, id, fun _ hmem => hmem, fun _ hsome => hsome⟩
    have hfinal : Finalized env u .waitNoop none (u.finalizePending env .waitNoop none none) :=
      finalizePending_outcome env u
        (fun pending hpending => (hunmarked.traced pending hpending).toRecordable) rfl
    have hbooked : KeepsBooks env u := by
      rw [← hu]
      exact h.booked
    refine .ok (hfinal.settled (finalizePending_keepsCourse env u _ _ _) hunmarked
      (hunmarked.finalized_booked hbooked (by decide) hfinal) ?_ ?_ ?_ ?_ ?_ ?_)
    · rw [← hu]
      exact h.first
    · rw [← hu]
      exact h.flawless
    · rw [← hu]
      exact h.toTrail.traceFailed_eq_false h.running
    · rw [← hu]
    · rw [← hu]
      exact h.counted
    · rw [← hu]
      intro hcontext
      obtain ⟨pending, hpending, -⟩ := h.tracing hcontext
      show s.pendingTrace.isSome
      rw [hpending]
      rfl
  | policyRefused text hkind hpolicy => exact h.refuse _ (by decide) rfl
  | policyRaised err hkind hpolicy hother => exact h.toTrail.fail h.booked h.first err
  | gateRejected candidate text hkind hpolicy hnot => exact h.refuse _ (by decide) rfl
  | sent candidate text hkind hpolicy hmem htext => exact sendCommand_keepsTrail h _ _

/-- A new digest of the state does not keep a session from answering. -/
theorem Poised.withStateDigest (h : Poised env s request) {stateDigest : String}
    (hdigest : observedStateDigest s.state = .ok stateDigest) :
    Poised env (s.withStateDigest stateDigest) request where
  explicit := h.explicit
  default := h.default
  silent := h.silent
  healthy := h.healthy
  blamed := h.blamed
  stopped := h.stopped
  constructed := h.constructed
  noticed := h.noticed
  numbered := h.numbered
  untraced hcontext := by
    show s.pendingTrace.map _ = none
    rw [h.untraced hcontext]
    rfl
  traced pending hpending := by
    obtain ⟨old, hold, rfl⟩ := Option.map_eq_some_iff.mp hpending
    obtain ⟨⟨hbounded, hstate, hsafe, hidentity⟩, hunrecorded, hindex⟩ := h.traced old hold
    exact ⟨⟨hbounded, isDigest_of_manifestDigest hdigest, hsafe, hidentity⟩, hunrecorded, hindex⟩
  booked := h.booked
  first := h.first
  running := h.running
  flawless := h.flawless
  counted := h.counted
  tracing hcontext := by
    obtain ⟨pending, hpending, heq⟩ := h.tracing hcontext
    refine ⟨{ pending with observedStateDigest := stateDigest }, ?_, heq⟩
    show s.pendingTrace.map _ = some _
    rw [hpending]
    rfl

/-- A look at the pending request keeps the trail. -/
theorem retryPending_keepsTrail (h : Settled env s) (horderly : Orderly env s)
    (hdone : s.done = false) (reason : String) (strict : Bool) :
    KeepsTrail env (s.retryPending env reason strict) := by
  cases hpending : s.pendingRequest with
  | none =>
    have heq : s.retryPending env reason strict = .ok s := by
      simp only [retryPending, hpending]
    rw [heq]
    exact .ok h
  | some request =>
    have hawaited := horderly.pending request hpending
    have hpoised := h.poised hdone hpending
    have houtcome := retryPending_outcome env s hpending hawaited.wellFormed reason strict
    generalize s.retryPending env reason strict = answer at houtcome
    cases houtcome with
    | rejected result message hresult hstatus hwhy => exact hpoised.refuse _ (by decide) rfl
    | waiting result hresult hstatus hstrict hactive => exact .ok h
    | undigested result err hresult hstatus htrace hdigest =>
      exact h.toTrail.fail h.booked h.first err
    | answered result t hresult hstatus ht =>
      rcases ht with ⟨-, rfl⟩ | ⟨stateDigest, hdigest, rfl⟩
      · exact submit_keepsTrail hpoised hawaited
      · exact submit_keepsTrail (hpoised.withStateDigest hdigest)
          (hawaited.congr ⟨rfl, rfl, id, .inl rfl⟩)

/-! ## §3 Lines -/

omit [Python.UnicodeDatabase] in
/-- Nothing that a settled session is about depends on the observed state. -/
theorem Settled.observe (h : Settled env s) (state : ObservedState) :
    Settled env { s with state := state } :=
  ⟨h.toTrail.continue ⟨rfl, rfl, rfl, rfl, rfl, id, fun _ hmem => hmem, fun _ hsome => hsome⟩,
    h.booked, h.first, h.flawless, h.counted, h.awaiting, h.closed⟩

omit [Python.UnicodeDatabase] in
theorem Settled.fail (h : Settled env s) (error : PyException) : KeepsTrail env (s.fail error) :=
  h.toTrail.fail h.booked h.first error

omit [Python.UnicodeDatabase] in
/-- An ended session is settled if its trail is. -/
theorem Trail.ended (h : Trail env t) (hbooked : KeepsBooks env t)
    (hfirst : t.primaryError = t.errors.getLast?) :
    Settled env { t with pendingRequest := none, done := true } :=
  ⟨h.continue ⟨rfl, rfl, rfl, rfl, rfl, fun _ => rfl, fun _ hmem => hmem, fun _ hsome => hsome⟩,
    hbooked, hfirst, fun hnot => (by cases hnot), fun hnot => (by cases hnot),
    fun hnot => (by cases hnot), fun hnot => (by cases hnot)⟩

omit [Python.UnicodeDatabase] in
theorem keepsBooks_enter (h : KeepsBooks env s) {entry : SessionEntry} (hend : entry.isEnd) :
    KeepsBooks env (s.enter entry) :=
  fun hcontext => .ended entry (h hcontext) hend

omit [Python.UnicodeDatabase] in
theorem finish_settled (h : Settled env s) : Settled env (s.finish env) := by
  have hentered : Trail env (s.enter .battleEnd) :=
    h.toTrail.enter trivial fun _ heq => by cases heq
  have hfinal : Finalized env (s.enter .battleEnd) .terminallyDiscarded none
      ((s.enter .battleEnd).finalizePending env .terminallyDiscarded none none) :=
    finalizePending_outcome env _
      (fun pending hpending => (hentered.traced pending hpending).toRecordable) rfl
  exact (hentered.finalized hfinal).ended
    (hentered.finalized_booked (keepsBooks_enter h.booked trivial) (by decide) hfinal)
    (hfinal.first h.first)

omit [Rfc8785] [Python.UnicodeDatabase] in
/-- The records that an abort may leave are dispositions. -/
theorem disposition_aborted {error : PyException} {code : DecisionRecordErrorCode}
    (h : recordErrorCode error = some code)
    (hnot : (code = .requestStateReconciliationMismatch || code = .staleRqid) = false) :
    isDisposition .sessionAborted (some code) false = true := by
  have hmem := (Option.filter_eq_some_iff.mp h).2
  revert hmem hnot
  cases code <;> decide

omit [Python.UnicodeDatabase] in
/-- An exception that has been taken down ends the session, settled. -/
theorem abort_settled {error : PyException} (h : Trail env s) (hbooked : KeepsBooks env s)
    (hnoticed : error ∈ s.errors)
    (hfirst : s.errors.getLast? = some (s.primaryError.getD error)) :
    Settled env (s.abort env error) := by
  have hnoted := h.continue (continues_notePrimary s error)
  have hentered : Trail env ((s.notePrimary error).enter (.abort error)) :=
    hnoted.enter trivial fun other heq => by
      rw [← SessionEntry.abort.inj heq]
      exact hnoticed
  have henteredBooked : KeepsBooks env ((s.notePrimary error).enter (.abort error)) :=
    keepsBooks_enter hbooked trivial
  have henteredFirst : ((s.notePrimary error).enter (.abort error)).primaryError =
      ((s.notePrimary error).enter (.abort error)).errors.getLast? := hfirst.symm
  unfold abort finalizeAborted
  generalize (s.notePrimary error).enter (.abort error) = u at hentered henteredBooked henteredFirst
  have hrecordable : ∀ pending, u.pendingTrace = some pending → Recordable pending :=
    fun pending hpending => (hentered.traced pending hpending).toRecordable
  split
  · exact hentered.ended henteredBooked henteredFirst
  · next code hcode =>
    split_ifs with hfreshness
    · have hfinal : Finalized env u .freshnessInvalidated none
          (u.finalizePending env .freshnessInvalidated none none) :=
        finalizePending_outcome env u hrecordable rfl
      exact (hentered.finalized hfinal).ended
        (hentered.finalized_booked henteredBooked (by decide) hfinal) (hfinal.first henteredFirst)
    · have hfinal : Finalized env u .sessionAborted none
          (u.finalizePending env .sessionAborted (some code) none) :=
        finalizePending_outcome env u hrecordable
          (disposition_aborted hcode (by simpa using hfreshness))
      exact (hentered.finalized hfinal).ended
        (hentered.finalized_booked henteredBooked (by decide) hfinal) (hfinal.first henteredFirst)

omit [Python.UnicodeDatabase] in
theorem settle_settled {result : Except Raised BattleSession} (h : KeepsTrail env result) :
    Settled env (settle env result) := by
  cases result with
  | ok t => exact h.of_ok rfl
  | error raised =>
    have hraised := h.of_error rfl
    exact abort_settled hraised.toTrail hraised.booked hraised.noticedError hraised.first

theorem processBattleEvent_keepsTrail (h : Settled env s) (horderly : Orderly env s)
    (hdone : s.done = false) (payload : String) :
    KeepsTrail env (s.processBattleEvent env payload) := by
  unfold processBattleEvent
  split
  · exact h.fail _
  · next event state _ =>
    have hobserved := h.observe state
    simp only
    split_ifs
    · exact .ok (finish_settled hobserved)
    · split
      · exact retryPending_keepsTrail hobserved (horderly.observe state) hdone _ _
      · exact .ok hobserved

/-! ## §4 Fresh requests -/

omit [Python.UnicodeDatabase] in
/-- A fresh request goes into the trail once the one before it has been recorded. -/
theorem Trail.fresh (h : Trail env s) (htrace : s.pendingTrace = none)
    (hrqid : ((freshRequests s.log).length : Int) ≤ request.identity.rqid) :
    Trail env { s.enter (.freshRequest request) with
      latestRequest := some request.identity
      pendingRequest := some request } where
  explicit := h.explicit
  default := h.default
  silent entry past hsuffix hraised := by
    rcases List.suffix_cons_iff.mp hsuffix with heq | hold
    · rw [(List.cons.inj heq).1]
      rfl
    · exact h.silent entry past hold hraised
  healthy hfailed hraised := h.healthy hfailed
    ((sinkRaised_cons_of_not_emit fun _ heq => by cases heq).mp hraised)
  blamed hfailed := (h.blamed hfailed).cons _
  stopped := h.stopped
  constructed := h.constructed
  noticed error hin := by
    rcases hin.of_cons with hold | ⟨attempt, heq, -⟩ | heq | ⟨-, record, heq, -⟩
    · exact h.noticed error hold
    · cases heq
    · cases heq
    · cases heq
  numbered last hlast := by
    obtain rfl : request = last := Option.some.inj hlast
    show (((freshRequests s.log).length + 1 : Nat) : Int) ≤ _
    push_cast
    omega
  untraced := h.untraced
  traced pending hpending := by
    have hnone : s.pendingTrace = some pending := hpending
    rw [htrace] at hnone
    cases hnone

/-- There are no more fresh requests than the number of the next one says. -/
theorem Trail.length_le_rqid (h : Trail env s) (hlatest : OrderlyLog env s)
    (hwell : request.WellFormed env.roomId)
    (hfresh : checkFreshness s.latestRequest request.identity = .ok false) :
    ((freshRequests s.log).length : Int) ≤ request.identity.rqid := by
  have hlt := lt_of_checkFreshness hfresh
  rw [hlatest.latest] at hlt
  have hnumbered := h.numbered
  cases hlist : freshRequests s.log with
  | nil => exact hwell.identity.rqid
  | cons last older =>
    rw [hlist] at hlt hnumbered
    have hbound := hnumbered last rfl
    have hless := hlt last.identity rfl
    omega

/-- What holds once a request has been accepted as fresh, and before its trace is opened. -/
structure Accepted (env : Environment) (s : BattleSession) (request : DecisionRequest) : Prop
    extends Trail env s where
  booked : KeepsBooks env s
  first : s.primaryError = s.errors.getLast?
  flawless : s.done = false → s.errors = []
  pending : s.pendingRequest = some request
  latest : unrecorded s.log = some request
  counted : env.decisionRecordContext.isSome →
    s.nextDecisionIndex + 1 = (freshRequests s.log).length

theorem acceptFresh_accepted (h : Settled env s) (horderly : OrderlyLog env s)
    (hdone : s.done = false) (hwell : request.WellFormed env.roomId)
    (hfresh : checkFreshness s.latestRequest request.identity = .ok false) :
    Accepted env (s.acceptFresh env request) request := by
  have hrqid := h.toTrail.length_le_rqid horderly hwell hfresh
  have hfinal : Finalized env s .supersededBeforeSelection none
      (s.finalizePending env .supersededBeforeSelection none none) :=
    finalizePending_outcome env s
      (fun pending hpending => (h.traced pending hpending).toRecordable) rfl
  have hkeeps := finalizePending_keepsCourse env s .supersededBeforeSelection none none
  have htrace := finalizePending_pendingTrace env s .supersededBeforeSelection none none
  unfold acceptFresh
  generalize s.finalizePending env .supersededBeforeSelection none none = t at hfinal hkeeps htrace
  have ht := h.toTrail.finalized hfinal
  have htFresh : freshRequests t.log = freshRequests s.log := hkeeps.freshRequests
  have hrecorded : env.decisionRecordContext.isSome → unrecorded t.log = none := by
    intro hcontext
    cases hpending : s.pendingTrace with
    | some pending =>
      exact hfinal.recorded hcontext (h.toTrail.traceFailed_eq_false hdone) (by rw [hpending]; rfl)
    | none =>
      -- without a trace there is no request pending, and so none without a record
      have hnoRequest : s.pendingRequest = none := by
        cases hrequest : s.pendingRequest with
        | none => rfl
        | some other =>
          obtain ⟨pending, hsome, -⟩ := h.awaiting hdone hcontext other hrequest
          rw [hpending] at hsome
          cases hsome
      have hlog : t.log = s.log := by
        cases hfinal with
        | idle hnone => rfl
        | unwritten hwhy => rfl
        | written pending record hsome hhealthy hrecord hindex hstatus hselected =>
          rw [hpending] at hsome
          cases hsome
      rw [hlog]
      exact h.closed hdone hcontext hnoRequest
  refine ⟨ht.fresh htrace (htFresh ▸ hrqid), fun hcontext => ?_, hfinal.first h.first,
    hfinal.flawless h.flawless, rfl, rfl, fun hcontext => ?_⟩
  · exact .fresh request (h.toTrail.finalized_booked h.booked (by decide) hfinal hcontext)
      (hrecorded hcontext)
  · show t.nextDecisionIndex + 1 = (freshRequests t.log).length + 1
    rw [hfinal.nextDecisionIndex, htFresh, h.counted hdone hcontext]

/-- Once its trace is open, a fresh request is awaiting its answer. -/
theorem openTrace_keepsTrail (h : Accepted env s request)
    (hwell : request.WellFormed env.roomId) : KeepsTrail env (s.openTrace env request) := by
  unfold openTrace
  split_ifs with hclosed
  · refine .ok ⟨h.toTrail, h.booked, h.first, h.flawless, fun hdone hcontext => ?_, fun hdone hcontext => ?_,
      fun hdone hcontext => ?_⟩
    all_goals
      rw [h.toTrail.traceFailed_eq_false hdone, Bool.or_false] at hclosed
      rw [Option.isNone_iff_eq_none.mp hclosed] at hcontext
      cases hcontext
  · split
    · exact h.toTrail.fail h.booked h.first _
    · next stateDigest hstate =>
      split
      · exact h.toTrail.fail h.booked h.first _
      · next safeDigest hsafe =>
        have hcontext : env.decisionRecordContext.isSome := by
          simp only [Bool.or_eq_true, not_or, Option.isNone_iff_eq_none] at hclosed
          exact Option.isSome_iff_ne_none.mpr hclosed.1
        have hcounted := h.counted hcontext
        obtain ⟨hisDigest, identity, hidentity⟩ := safeSubmissionSetDigest_eq_ok hsafe
        rw [hwell.safeIdentity] at hidentity
        have hbounded : (s.nextDecisionIndex : Int) ≤ request.identity.rqid := by
          have hnumbered := h.numbered request (head_of_unrecorded h.latest)
          omega
        have hopened : Traceable s.log ⟨request, stateDigest, safeDigest, s.nextDecisionIndex⟩ :=
          ⟨⟨hbounded, isDigest_of_manifestDigest hstate, hisDigest, identity, hidentity⟩, h.latest,
            hcounted⟩
        refine .ok ⟨⟨h.explicit, h.default, h.silent, h.healthy, h.blamed, h.stopped, h.constructed,
          h.noticed, h.numbered, fun hnone => ?_, fun pending hpending => ?_⟩, h.booked, h.first,
          h.flawless, fun _ _ => hcounted, fun _ _ other hother => ?_, fun _ _ hnone => ?_⟩
        · rw [hnone] at hcontext
          cases hcontext
        · rw [← Option.some.inj hpending]
          exact hopened
        · refine ⟨_, rfl, ?_⟩
          exact Option.some.inj (h.pending.symm.trans hother)
        · have hnoRequest : s.pendingRequest = none := hnone
          rw [h.pending] at hnoRequest
          cases hnoRequest

variable [JsonDecoder]

theorem processRequest_keepsTrail (h : Settled env s) (horderly : Orderly env s)
    (hdone : s.done = false) (payload : String) :
    KeepsTrail env (s.processRequest env payload) := by
  unfold processRequest
  split
  · exact h.fail _
  · next request hread =>
    split
    · exact h.fail _
    · exact .ok h
    · next hfresh =>
      have hwell := readRequest_wellFormed hread
      have haccepted := acceptFresh_accepted h horderly.toOrderlyLog hdone hwell hfresh
      have horder := acceptFresh_orderly horderly.toOrderlyLog hwell hfresh
      have hkeeps := openTrace_keepsCourse env (s.acceptFresh env request) request
      have hopened := openTrace_keepsTrail haccepted hwell
      cases hopen : (s.acceptFresh env request).openTrace env request with
      | error raised => exact .error (hopened.of_error hopen)
      | ok t =>
        have ht := hopened.of_ok hopen
        simp only [bind, Except.bind]
        split_ifs with hnot
        · exact .ok ht
        · exact retryPending_keepsTrail ht (horder.congr (hkeeps.of_ok hopen)) (by simpa using hnot)
            _ _

/-- Every line keeps the trail. -/
theorem processLine_keepsTrail (h : Settled env s) (horderly : Orderly env s)
    (hdone : s.done = false) (payload : String) : KeepsTrail env (s.processLine env payload) := by
  unfold processLine
  split
  · exact processBattleEvent_keepsTrail h horderly hdone payload
  · exact processRequest_keepsTrail h horderly hdone payload
  · exact h.fail _
  · unfold processTimer
    split
    · exact h.fail _
    · next event state _ => exact .ok (h.observe state)
  · exact .ok ⟨h.toTrail.continue
      ⟨rfl, rfl, rfl, rfl, rfl, id, fun _ hmem => hmem, fun _ hsome => hsome⟩, h.booked, h.first,
      h.flawless, h.counted, h.awaiting, h.closed⟩
  · exact h.fail _

/-! ## §5 Runs -/

omit [Python.UnicodeDatabase] [JsonDecoder] in
theorem settled_initial (env : Environment) (state : ObservedState) :
    Settled env (.initial state) where
  explicit := rfl
  default := rfl
  silent _ _ hsuffix := by cases List.eq_nil_of_suffix_nil hsuffix
  healthy _ hraised := by
    obtain ⟨record, past, hsuffix, -⟩ := hraised
    cases List.eq_nil_of_suffix_nil hsuffix
  blamed hfailed := by cases hfailed
  stopped hfailed := by cases hfailed
  constructed := rfl
  noticed error hin := by
    cases hin with
    | send attempt error hmem => cases hmem
    | abort error hmem => cases hmem
    | sink hraised =>
      obtain ⟨record, past, hsuffix, -⟩ := hraised
      cases List.eq_nil_of_suffix_nil hsuffix
  numbered _ hlast := by cases hlast
  untraced _ := rfl
  traced _ hpending := by cases hpending
  booked _ := .nil
  first := rfl
  flawless _ := rfl
  counted _ _ := rfl
  awaiting _ _ _ hpending := by cases hpending
  closed _ _ _ := rfl

theorem feed_settled (h : Settled env s) (horderly : Orderly env s) (line : RoomLine) :
    Settled env (s.feed env line) := by
  unfold feed
  split_ifs with hdone hroom
  · exact h
  · exact h
  · exact settle_settled (processLine_keepsTrail h horderly (by simpa using hdone) line.payload)

theorem feedAll_settled (h : Settled env s) (horderly : Orderly env s) (lines : List RoomLine) :
    Settled env (s.feedAll env lines) := by
  induction lines generalizing s with
  | nil => exact h
  | cons line rest ih => exact ih (feed_settled h horderly line) (feed_orderly horderly line)

theorem run_settled (h : Settled env s) (horderly : Orderly env s) (lines : List RoomLine)
    (ending : Option PyException) : Settled env (s.run env lines ending) := by
  have hlines := feedAll_settled h horderly lines
  unfold run
  cases ending with
  | none => exact hlines
  | some error =>
    simp only
    split_ifs with hdone
    · exact hlines
    · have hraised := (hlines.fail error).of_error rfl
      exact abort_settled hraised.toTrail hraised.booked hraised.noticedError hraised.first

/-! ## §6 Fail-stop -/

/-- **Fail-stop.** In every run:

- once the trace sink has raised on a record, no command and no record is handed over any more;
- a decision record can always be constructed;
- every send, sink or abort error of the log has been taken down, and the primary error is the first
  of all errors in the order in which they came up;
- what is the primary error after some of the lines is so in the end, and from then on nothing is
  handed over. -/
theorem fail_stop (env : Environment) (state : ObservedState) (lines : List RoomLine)
    (ending : Option PyException) :
    let start := BattleSession.initial state
    let s := start.run env lines ending
    (∀ entry past, entry :: past <:+ s.log → SinkRaised env past → entry.isHandover = false) ∧
      s.recordError = none ∧
      (∀ error, ErrorIn env s.log error → error ∈ s.errors) ∧
      s.primaryError = s.errors.getLast? ∧
      ∀ first rest, lines = first ++ rest → ∀ error,
        (start.feedAll env first).primaryError = some error →
          s.primaryError = some error ∧ s.log = (start.feedAll env first).log := by
  intro start s
  have hstart := settled_initial env state
  have horderly := orderly_initial env state
  have hs : Settled env s := run_settled hstart horderly lines ending
  refine ⟨hs.silent, hs.constructed, hs.noticed, hs.first, ?_⟩
  rintro first rest rfl error hprimary
  have hfirst := feedAll_settled hstart horderly first
  have hdone : (start.feedAll env first).done = true := by
    by_contra hnot
    -- a running session has met no error
    have hnone := hfirst.first
    rw [hfirst.flawless (by simpa using hnot), hprimary] at hnone
    cases hnone
  have hrun : s = start.feedAll env first := by
    show start.run env (first ++ rest) ending = _
    rw [run_append]
    exact run_of_done env hdone rest ending
  rw [hrun]
  exact ⟨hprimary, rfl⟩

end Methods

end BattleBelief
