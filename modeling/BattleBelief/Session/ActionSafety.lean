import BattleBelief.Session.Answers

/-!
# Action Safety

Whatever policy and connection do, a session hands out a command only as the answer to its latest
fresh request: a safe submission in that request's set, at a moment when request and observed state
agree. No request is answered twice, and an ended session is silent.

`OrderlyLog` holds at every moment, also while an exception is on its way out. `Orderly` adds what
holds between two lines: the pending request is the latest one and still unanswered.
-/

namespace BattleBelief

open BattleSession Outcomes

/-! ## §1 Justified commands -/

/-- The entries after which nothing is sent any more. -/
def SessionEntry.isEnd : SessionEntry → Prop
  | .battleEnd => True
  | .abort _ => True
  | _ => False

section Invariant

variable [Python.UnicodeDatabase] [Rfc8785]

/-- The command answers the latest of the fresh requests before it, with a safe submission, in an
observed state that agrees with the request; and the session has not ended before. -/
structure Justified (env : Environment) (past : List SessionEntry) (attempt : SendAttempt) :
    Prop where
  latest : (freshRequests past).head? = some attempt.request
  command : ∃ submission ∈ attempt.request.safeSubmissions.submissions, ∃ text,
    encodeSubmission submission = .ok text ∧
      attempt.command = s!"/choose {text}|{attempt.request.identity.rqid}"
  accepted : ∃ result, reconcile env.roomId attempt.request attempt.state attempt.answered =
    .ok result ∧ result.status = .accept
  running : ∀ entry ∈ past, ¬entry.isEnd

/-- Every command in the log is justified by what is in the log before it. -/
def SafeLog (env : Environment) (log : List SessionEntry) : Prop :=
  ∀ attempt past, .sendRoom attempt :: past <:+ log → Justified env past attempt

theorem SafeLog.cons {env : Environment} {log : List SessionEntry} {entry : SessionEntry}
    (h : SafeLog env log) (hentry : ∀ attempt, entry = .sendRoom attempt → Justified env log attempt) :
    SafeLog env (entry :: log) := by
  intro attempt past hsuffix
  rcases List.suffix_cons_iff.mp hsuffix with heq | hold
  · obtain ⟨rfl, rfl⟩ := List.cons.inj heq
    exact hentry attempt rfl
  · exact h attempt past hold

/-! ## §2 The invariant -/

/-- What holds of a session at every moment. -/
structure OrderlyLog (env : Environment) (s : BattleSession) : Prop where
  safe : SafeLog env s.log
  increasing : (sends s.log).Pairwise fun later earlier =>
    earlier.request.identity.rqid < later.request.identity.rqid
  fresh : (freshRequests s.log).Pairwise fun later earlier =>
    earlier.identity.rqid < later.identity.rqid
  latest : s.latestRequest = (freshRequests s.log).head?.map fun request => request.identity
  bounded : ∀ attempt ∈ sends s.log, ∃ last, (freshRequests s.log).head? = some last ∧
    attempt.request.identity.rqid ≤ last.identity.rqid
  submitted : ∀ identity, s.submittedRequest = some identity →
    ∃ last, (freshRequests s.log).head? = some last ∧ identity.rqid ≤ last.identity.rqid
  concluded : ∀ entry ∈ s.log, entry.isEnd → s.done = true

/-- The request is the latest one, and has not been answered. -/
structure Awaited (env : Environment) (s : BattleSession) (request : DecisionRequest) : Prop where
  wellFormed : request.WellFormed env.roomId
  latest : (freshRequests s.log).head? = some request
  unsent : ∀ attempt ∈ sends s.log, attempt.request.identity.rqid < request.identity.rqid
  unsubmitted : ∀ identity, s.submittedRequest = some identity →
    identity.rqid < request.identity.rqid

/-- What holds of a session between two lines. -/
structure Orderly (env : Environment) (s : BattleSession) : Prop extends OrderlyLog env s where
  pending : ∀ request, s.pendingRequest = some request → Awaited env s request
  answered : s.done = false → s.pendingRequest = none →
    ∀ last, (freshRequests s.log).head? = some last →
      last.kind = .wait ∨ ∃ attempt ∈ sends s.log, attempt.request = last

variable {env : Environment} {s t : BattleSession} {request : DecisionRequest}

theorem orderly_initial (env : Environment) (state : ObservedState) :
    Orderly env (.initial state) where
  safe := fun _ _ h => by cases List.eq_nil_of_suffix_nil h
  increasing := .nil
  fresh := .nil
  latest := rfl
  bounded := fun _ h => by cases h
  submitted := fun _ h => by cases h
  concluded := fun _ h => by cases h
  pending := fun _ h => by cases h
  answered := fun _ _ _ h => by cases h

theorem OrderlyLog.congr (h : OrderlyLog env s) (hkeeps : KeepsLog s t) : OrderlyLog env t where
  safe := by
    rcases hkeeps.log with hlog | ⟨record, hlog⟩
    · rw [hlog]
      exact h.safe
    · rw [hlog]
      exact h.safe.cons fun _ heq => by cases heq
  increasing := by
    rw [hkeeps.sends]
    exact h.increasing
  fresh := by
    rw [hkeeps.freshRequests]
    exact h.fresh
  latest := by rw [hkeeps.latestRequest, hkeeps.freshRequests, h.latest]
  bounded := by
    rw [hkeeps.sends, hkeeps.freshRequests]
    exact h.bounded
  submitted := by
    rw [hkeeps.submittedRequest, hkeeps.freshRequests]
    exact h.submitted
  concluded := by
    intro entry hentry hend
    refine hkeeps.done (h.concluded entry ?_ hend)
    rcases hkeeps.log with hlog | ⟨record, hlog⟩
    · rw [← hlog]
      exact hentry
    · rw [hlog] at hentry
      rcases List.mem_cons.mp hentry with rfl | hold
      · cases hend
      · exact hold

theorem Awaited.congr (h : Awaited env s request) (hkeeps : KeepsLog s t) :
    Awaited env t request where
  wellFormed := h.wellFormed
  latest := by rw [hkeeps.freshRequests, h.latest]
  unsent := by
    rw [hkeeps.sends]
    exact h.unsent
  unsubmitted := by
    rw [hkeeps.submittedRequest]
    exact h.unsubmitted

/-- An ended session has nothing pending, and is orderly if its log is. -/
theorem OrderlyLog.ended (h : OrderlyLog env s) (hdone : s.done = true)
    (hpending : s.pendingRequest = none) : Orderly env s where
  toOrderlyLog := h
  pending := fun request hrequest => by
    rw [hpending] at hrequest
    cases hrequest
  answered := fun hnot => by
    rw [hdone] at hnot
    cases hnot

/-- A session with a request pending is orderly if its log is and nobody has answered yet. -/
theorem OrderlyLog.waiting (h : OrderlyLog env s) (hpending : s.pendingRequest = some request)
    (hawaited : Awaited env s request) : Orderly env s where
  toOrderlyLog := h
  pending := fun other hother => by
    rw [hpending] at hother
    obtain rfl := Option.some.inj hother
    exact hawaited
  answered := fun _ hnone => by
    rw [hpending] at hnone
    cases hnone

/-! ## §3 Answers -/

/-- The outcome that every method keeps to. -/
def KeepsOrder (env : Environment) (result : Except Raised BattleSession) : Prop :=
  Satisfies (Orderly env) (fun raised => OrderlyLog env raised.session) result

/-- The log with the answer to an awaited request. -/
theorem OrderlyLog.answer (h : OrderlyLog env s) (hdone : s.done = false)
    (hawaited : Awaited env s request) {attempt : SendAttempt} (hrequest : attempt.request = request)
    (hjustified : Justified env s.log attempt) : OrderlyLog env (s.enter (.sendRoom attempt)) where
  safe := h.safe.cons fun other heq => by
    obtain rfl := SessionEntry.sendRoom.inj heq
    exact hjustified
  increasing := by
    refine List.pairwise_cons.mpr ⟨fun earlier hearlier => ?_, h.increasing⟩
    rw [hrequest]
    exact hawaited.unsent earlier hearlier
  fresh := h.fresh
  latest := h.latest
  bounded := by
    intro other hother
    rcases List.mem_cons.mp hother with rfl | hold
    · exact ⟨request, hawaited.latest, by rw [hrequest]⟩
    · exact h.bounded other hold
  submitted := h.submitted
  concluded := by
    intro entry hentry hend
    rcases List.mem_cons.mp hentry with rfl | hold
    · cases hend
    · have hended := h.concluded entry hold hend
      rw [hdone] at hended
      cases hended

/-- Nothing but the recording changes when a request is refused. -/
theorem OrderlyLog.refuse (h : OrderlyLog env s) (error : PyException)
    (status : DecisionRecordStatus) (errorCode : DecisionRecordErrorCode)
    (selected : Option BattleSubmission) :
    KeepsOrder env (s.refuse env error status errorCode selected) := by
  obtain ⟨t, hkeeps, heq⟩ := refuse_eq env s error status errorCode selected
  rw [heq]
  exact .error (h.congr hkeeps.toKeepsLog)

theorem OrderlyLog.fail (h : OrderlyLog env s) (error : PyException) :
    KeepsOrder env (s.fail error) :=
  .error (h.congr (occur_keepsCourse s error).toKeepsLog)

/-- Handing over the command for an awaited request. -/
theorem sendCommand_keepsOrder (h : OrderlyLog env s) (hdone : s.done = false)
    (hawaited : Awaited env s request) {authorized : BattleSubmission} {text : String}
    (hmem : authorized ∈ request.safeSubmissions.submissions)
    (htext : encodeSubmission authorized = .ok text) {result : ReconciliationResult}
    (hresult : reconcile env.roomId request s.state
      (s.submittedRequest.map fun identity => identity.rqid) = .ok result)
    (haccept : result.status = .accept) :
    KeepsOrder env
      (s.sendCommand env request authorized s!"/choose {text}|{request.identity.rqid}") := by
  unfold sendCommand
  simp only
  generalize hattempt : SendAttempt.mk request authorized s!"/choose {text}|{request.identity.rqid}" s.state
    (s.submittedRequest.map fun identity => identity.rqid)
    (env.sendRoom (sends s.log) s!"/choose {text}|{request.identity.rqid}") = attempt
  have hrequest : attempt.request = request := by rw [← hattempt]
  have hjustified : Justified env s.log attempt := by
    rw [← hattempt]
    refine ⟨hawaited.latest, ⟨authorized, hmem, text, htext, rfl⟩, ⟨result, hresult, haccept⟩, ?_⟩
    intro entry hentry hend
    have hended := h.concluded entry hentry hend
    rw [hdone] at hended
    cases hended
  have hsent := h.answer hdone hawaited hrequest hjustified
  cases houtcome : env.sendRoom (sends s.log) s!"/choose {text}|{request.identity.rqid}" with
  | error err => exact hsent.refuse err .sendFailed (sendErrorCode err) (some authorized)
  | ok _ =>
    simp only
    -- only now the request counts as submitted
    have hcounted : KeepsCourse (s.enter (.sendRoom attempt))
        ((s.enter (.sendRoom attempt)).countSubmission authorized) := by
      unfold countSubmission
      cases authorized.provenance <;> exact ⟨⟨rfl, rfl, id, .inl rfl⟩, rfl, rfl⟩
    have hlog := hsent.congr hcounted.toKeepsLog
    have hlast : (freshRequests (s.enter (.sendRoom attempt)).log).head? = some request :=
      hawaited.latest
    generalize (s.enter (.sendRoom attempt)).countSubmission authorized = u at hcounted hlog
    have hkeeps := finalizePending_keepsCourse env { u with
      submittedRequest := some request.identity
      pendingRequest := none } .submitted none (some authorized)
    have hsubmitted : OrderlyLog env ({ u with
        submittedRequest := some request.identity
        pendingRequest := none } : BattleSession) :=
      ⟨hlog.safe, hlog.increasing, hlog.fresh, hlog.latest, hlog.bounded, fun identity hidentity =>
        ⟨request, by rw [hcounted.freshRequests, hlast],
          by rw [Option.some.inj hidentity]⟩, hlog.concluded⟩
    refine .ok ⟨hsubmitted.congr hkeeps.toKeepsLog, fun other hother => ?_, fun _ _ last hhead => ?_⟩
    · rw [hkeeps.pendingRequest] at hother
      cases hother
    · rw [hkeeps.freshRequests] at hhead
      rw [hcounted.freshRequests, hlast] at hhead
      refine .inr ⟨attempt, ?_, hrequest.trans (Option.some.inj hhead)⟩
      rw [hkeeps.sends]
      show attempt ∈ sends u.log
      rw [hcounted.sends]
      exact List.mem_cons_self

/-- An accepted request is answered in order. -/
theorem submit_keepsOrder (h : OrderlyLog env s) (hdone : s.done = false)
    (hawaited : Awaited env s request) {result : ReconciliationResult}
    (hresult : reconcile env.roomId request s.state
      (s.submittedRequest.map fun identity => identity.rqid) = .ok result)
    (haccept : result.status = .accept) : KeepsOrder env (s.submit env request) := by
  have houtcome := submit_outcome env s hawaited.wellFormed.safeIdentity
  generalize s.submit env request = answer at houtcome
  cases houtcome with
  | known hknown =>
    -- a submitted request has a smaller number than an awaited one
    exact absurd (hawaited.unsubmitted request.identity hknown.symm) (lt_irrefl _)
  | noop hwait =>
    have hkeeps := finalizePending_keepsCourse env { s with
      submittedRequest := some request.identity
      pendingRequest := none } .waitNoop none none
    have hsubmitted : OrderlyLog env ({ s with
        submittedRequest := some request.identity
        pendingRequest := none } : BattleSession) :=
      ⟨h.safe, h.increasing, h.fresh, h.latest, h.bounded, fun identity hidentity =>
        ⟨request, hawaited.latest, by rw [Option.some.inj hidentity]⟩, h.concluded⟩
    refine .ok ⟨hsubmitted.congr hkeeps.toKeepsLog, fun other hother => ?_, fun _ _ last hhead => ?_⟩
    · rw [hkeeps.pendingRequest] at hother
      cases hother
    · rw [hkeeps.freshRequests] at hhead
      have hlast : some request = some last := hawaited.latest.symm.trans hhead
      exact .inl (Option.some.inj hlast ▸ hwait)
  | policyRefused text hkind hpolicy => exact h.refuse _ _ _ _
  | policyRaised err hkind hpolicy hother => exact h.fail err
  | gateRejected candidate text hkind hpolicy hnot => exact h.refuse _ _ _ _
  | sent candidate text hkind hpolicy hmem htext =>
    exact sendCommand_keepsOrder h hdone hawaited hmem htext hresult haccept

/-- A look at the pending request keeps the order. -/
theorem retryPending_keepsOrder (h : Orderly env s) (hdone : s.done = false) (reason : String)
    (strict : Bool) : KeepsOrder env (s.retryPending env reason strict) := by
  cases hpending : s.pendingRequest with
  | none =>
    have heq : s.retryPending env reason strict = .ok s := by
      simp only [retryPending, hpending]
    rw [heq]
    exact .ok h
  | some request =>
    have hawaited := h.pending request hpending
    have houtcome := retryPending_outcome env s hpending hawaited.wellFormed reason strict
    generalize s.retryPending env reason strict = answer at houtcome
    cases houtcome with
    | rejected result message hresult hstatus hwhy => exact h.toOrderlyLog.refuse _ _ _ _
    | waiting result hresult hstatus hstrict hactive => exact .ok h
    | undigested result err hresult hstatus htrace hdigest => exact h.toOrderlyLog.fail err
    | answered result t hresult hstatus ht =>
      rcases ht with ⟨-, rfl⟩ | ⟨stateDigest, -, rfl⟩
      · exact submit_keepsOrder h.toOrderlyLog hdone hawaited hresult hstatus
      · have hkeeps : KeepsLog s (s.withStateDigest stateDigest) :=
          ⟨rfl, rfl, id, .inl rfl⟩
        exact submit_keepsOrder (h.toOrderlyLog.congr hkeeps) hdone (hawaited.congr hkeeps) hresult
          hstatus

/-! ## §4 Lines -/

/-- Observing an event leaves requests and log alone. -/
theorem Orderly.observe (h : Orderly env s) (state : ObservedState) :
    Orderly env { s with state := state } := by
  have hkeeps : KeepsLog s { s with state := state } := ⟨rfl, rfl, id, .inl rfl⟩
  exact ⟨h.toOrderlyLog.congr hkeeps, fun request hrequest => (h.pending request hrequest).congr hkeeps,
    h.answered⟩

/-- The log of a session gets its end. -/
theorem OrderlyLog.enterEnd (h : OrderlyLog env s) {entry : SessionEntry}
    (hentry : entry = .battleEnd ∨ ∃ error, entry = .abort error) :
    OrderlyLog env { s.enter entry with done := true } := by
  have hlog : SafeLog env (entry :: s.log) ∧ sends (entry :: s.log) = sends s.log ∧
      freshRequests (entry :: s.log) = freshRequests s.log := by
    rcases hentry with rfl | ⟨error, rfl⟩
    · exact ⟨h.safe.cons fun _ heq => (by cases heq), rfl, rfl⟩
    · exact ⟨h.safe.cons fun _ heq => (by cases heq), rfl, rfl⟩
  obtain ⟨hsafe, hsends, hfresh⟩ := hlog
  constructor
  · exact hsafe
  · simpa only [enter, hsends] using h.increasing
  · simpa only [enter, hfresh] using h.fresh
  · simpa only [enter, hfresh] using h.latest
  · simpa only [enter, hsends, hfresh] using h.bounded
  · simpa only [enter, hfresh] using h.submitted
  · exact fun _ _ _ => rfl

/-- A session that ends is orderly, with one more record at most. -/
theorem OrderlyLog.close (h : OrderlyLog env s) {entry : SessionEntry}
    (hentry : entry = .battleEnd ∨ ∃ error, entry = .abort error)
    (hkeeps : KeepsLog (s.enter entry) t) :
    Orderly env { t with pendingRequest := none, done := true } := by
  have hended : KeepsLog { s.enter entry with done := true }
      { t with pendingRequest := none, done := true } :=
    ⟨hkeeps.latestRequest, hkeeps.submittedRequest, fun _ => rfl, hkeeps.log⟩
  exact ((h.enterEnd hentry).congr hended).ended rfl rfl

theorem finish_orderly (h : OrderlyLog env s) : Orderly env (s.finish env) :=
  h.close (.inl rfl)
    (finalizePending_keepsCourse env (s.enter .battleEnd) .terminallyDiscarded none none).toKeepsLog

theorem abort_orderly (h : OrderlyLog env s) (error : PyException) :
    Orderly env (s.abort env error) := by
  have hnoted : OrderlyLog env (s.notePrimary error) := h.congr ⟨rfl, rfl, id, .inl rfl⟩
  exact hnoted.close (.inr ⟨error, rfl⟩) (finalizeAborted_keepsCourse env _ error).toKeepsLog

theorem settle_orderly {result : Except Raised BattleSession} (h : KeepsOrder env result) :
    Orderly env (settle env result) := by
  cases result with
  | ok t => exact h.of_ok rfl
  | error raised => exact abort_orderly (h.of_error rfl) raised.error

omit [Python.UnicodeDatabase] [Rfc8785] in
/-- A request passes the freshness check only with a larger number than the latest one. -/
theorem lt_of_checkFreshness {latest : Option RequestIdentity} {identity : RequestIdentity}
    (h : checkFreshness latest identity = .ok false) :
    ∀ last, latest = some last → last.rqid < identity.rqid := by
  rintro last rfl
  by_contra hnot
  simp only [checkFreshness] at h
  by_cases hless : identity.rqid < last.rqid
  · rw [if_pos hless] at h
    cases h
  · rw [if_neg hless, if_pos (by omega)] at h
    split_ifs at h
    all_goals cases h

/-- A fresh request becomes the pending one, and nobody has answered it. -/
theorem acceptFresh_orderly (h : OrderlyLog env s) (hwell : request.WellFormed env.roomId)
    (hfresh : checkFreshness s.latestRequest request.identity = .ok false) :
    Orderly env (s.acceptFresh env request) := by
  have hkeeps := finalizePending_keepsCourse env s .supersededBeforeSelection none none
  have hlarger : ∀ last, (freshRequests s.log).head? = some last →
      last.identity.rqid < request.identity.rqid := by
    intro last hlast
    refine lt_of_checkFreshness hfresh last.identity ?_
    rw [h.latest, hlast]
    rfl
  unfold acceptFresh
  have ht := h.congr hkeeps.toKeepsLog
  have htFresh := hkeeps.freshRequests
  generalize s.finalizePending env .supersededBeforeSelection none none = t at hkeeps ht htFresh
  have hlarger' : ∀ last, (freshRequests t.log).head? = some last →
      last.identity.rqid < request.identity.rqid := by
    rw [htFresh]
    exact hlarger
  have hlog : OrderlyLog env ({ t.enter (.freshRequest request) with
      latestRequest := some request.identity
      pendingRequest := some request } : BattleSession) := by
    constructor
    · exact ht.safe.cons fun _ heq => by cases heq
    · exact ht.increasing
    · refine List.pairwise_cons.mpr ⟨fun earlier hearlier => ?_, ht.fresh⟩
      -- the latest request has the largest number so far
      cases hlist : freshRequests t.log with
      | nil =>
        have hmem : earlier ∈ freshRequests t.log := hearlier
        rw [hlist] at hmem
        cases hmem
      | cons last older =>
        have hmem : earlier ∈ freshRequests t.log := hearlier
        have hlast := hlarger' last (by rw [hlist]; rfl)
        have hsorted := ht.fresh
        rw [hlist] at hmem hsorted
        rcases List.mem_cons.mp hmem with rfl | hold
        · exact hlast
        · exact lt_trans ((List.pairwise_cons.mp hsorted).1 earlier hold) hlast
    · rfl
    · intro attempt hattempt
      obtain ⟨last, hlast, hle⟩ := ht.bounded attempt hattempt
      exact ⟨request, rfl, le_trans hle (hlarger' last hlast).le⟩
    · intro identity hidentity
      obtain ⟨last, hlast, hle⟩ := ht.submitted identity hidentity
      exact ⟨request, rfl, le_trans hle (hlarger' last hlast).le⟩
    · intro entry hentry hend
      rcases List.mem_cons.mp hentry with rfl | hold
      · cases hend
      · exact ht.concluded entry hold hend
  refine hlog.waiting rfl ⟨hwell, rfl, fun attempt hattempt => ?_, fun identity hidentity => ?_⟩
  · obtain ⟨last, hlast, hle⟩ := ht.bounded attempt hattempt
    exact lt_of_le_of_lt hle (hlarger' last hlast)
  · obtain ⟨last, hlast, hle⟩ := ht.submitted identity hidentity
    exact lt_of_le_of_lt hle (hlarger' last hlast)

theorem Orderly.congr (h : Orderly env s) (hkeeps : KeepsCourse s t) : Orderly env t where
  toOrderlyLog := h.toOrderlyLog.congr hkeeps.toKeepsLog
  pending := by
    rw [hkeeps.pendingRequest]
    exact fun request hrequest => (h.pending request hrequest).congr hkeeps.toKeepsLog
  answered := by
    rw [hkeeps.pendingRequest, hkeeps.sends, hkeeps.freshRequests]
    intro hdone
    refine h.answered ?_
    cases hs : s.done with
    | false => rfl
    | true =>
      rw [hkeeps.done hs] at hdone
      cases hdone

theorem processBattleEvent_keepsOrder (h : Orderly env s) (hdone : s.done = false)
    (payload : String) : KeepsOrder env (s.processBattleEvent env payload) := by
  unfold processBattleEvent
  split
  · exact h.toOrderlyLog.fail _
  · next event state _ =>
    have hobserved := h.observe state
    simp only
    split_ifs
    · exact .ok (finish_orderly hobserved.toOrderlyLog)
    · split
      · exact retryPending_keepsOrder hobserved hdone _ _
      · exact .ok hobserved

variable [JsonDecoder]

theorem processRequest_keepsOrder (h : Orderly env s) (payload : String) :
    KeepsOrder env (s.processRequest env payload) := by
  unfold processRequest
  split
  · exact h.toOrderlyLog.fail _
  · next request hread =>
    split
    · exact h.toOrderlyLog.fail _
    · exact .ok h
    · next hfresh =>
      have haccepted := acceptFresh_orderly h.toOrderlyLog (readRequest_wellFormed hread) hfresh
      have hopened : Satisfies (KeepsCourse (s.acceptFresh env request))
          (fun raised => OrderlyLog env raised.session)
          ((s.acceptFresh env request).openTrace env request) :=
        (openTrace_keepsCourse env (s.acceptFresh env request) request).mono (fun _ hkeeps => hkeeps)
          fun raised heq => heq ▸ haccepted.toOrderlyLog.congr (occur_keepsCourse _ _).toKeepsLog
      refine hopened.bind fun t hkeeps => ?_
      have ht := haccepted.congr hkeeps
      refine .ite (fun _ => .ok ht) fun hnot => ?_
      exact retryPending_keepsOrder ht (by simpa using hnot) _ _

/-- Every line is processed in order. -/
theorem processLine_keepsOrder (h : Orderly env s) (hdone : s.done = false) (payload : String) :
    KeepsOrder env (s.processLine env payload) := by
  unfold processLine
  split
  · exact processBattleEvent_keepsOrder h hdone payload
  · exact processRequest_keepsOrder h payload
  · exact h.toOrderlyLog.fail _
  · unfold processTimer
    split
    · exact h.toOrderlyLog.fail _
    · next event state _ => exact .ok (h.observe state)
  · exact .ok ⟨h.toOrderlyLog.congr ⟨rfl, rfl, id, .inl rfl⟩, fun request hrequest =>
      (h.pending request hrequest).congr ⟨rfl, rfl, id, .inl rfl⟩, h.answered⟩
  · exact h.toOrderlyLog.fail _

/-! ## §5 Runs -/

theorem feed_orderly (h : Orderly env s) (line : RoomLine) : Orderly env (s.feed env line) := by
  unfold feed
  split_ifs with hdone hroom
  · exact h
  · exact h
  · exact settle_orderly (processLine_keepsOrder h (by simpa using hdone) line.payload)

theorem feedAll_orderly (h : Orderly env s) (lines : List RoomLine) :
    Orderly env (s.feedAll env lines) := by
  induction lines generalizing s with
  | nil => exact h
  | cons line rest ih => exact ih (feed_orderly h line)

theorem run_orderly (h : Orderly env s) (lines : List RoomLine) (ending : Option PyException) :
    Orderly env (s.run env lines ending) := by
  have hlines := feedAll_orderly h lines
  unfold run
  cases ending with
  | none => exact hlines
  | some error =>
    simp only
    split_ifs with hdone
    · exact hlines
    · exact abort_orderly (hlines.toOrderlyLog.congr (occur_keepsCourse _ error).toKeepsLog) error

/-- **Action safety.** In every run, whatever policy and connection do, each command is the answer
to the latest of the fresh requests before it: the encoding of a safe submission in that request's
set, with that request's number, in an observed state for which the reconciler accepts the request,
and before any abort or end of the battle. The numbers of the commands increase strictly. -/
theorem action_safety (env : Environment) (state : ObservedState) (lines : List RoomLine)
    (ending : Option PyException) :
    (∀ attempt past,
      .sendRoom attempt :: past <:+ ((BattleSession.initial state).run env lines ending).log →
        Justified env past attempt) ∧
      (sends ((BattleSession.initial state).run env lines ending).log).Pairwise
        fun later earlier => earlier.request.identity.rqid < later.request.identity.rqid := by
  have hrun := run_orderly (orderly_initial env state) lines ending
  exact ⟨hrun.safe, hrun.increasing⟩

end Invariant

end BattleBelief
