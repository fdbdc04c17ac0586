import BattleBelief.Library.Runs
import BattleBelief.Session.ActionSafety

/-!
# Requests Before Their Switch

The server sends a request before the public lines that it refers to. If the request arrives while
nobody of ours is on the field, the session waits for the switch that brings the named pokemon in,
and answers then, once. If another pokemon of ours is on the field, it does not wait.
-/

namespace BattleBelief

open BattleSession Outcomes

section Sessions

variable [Python.UnicodeDatabase] [JsonDecoder] [Rfc8785]

/-! ## §1 Requests and switches on the wire -/

/-- The commands handed over for a request. -/
def commandsFor (request : DecisionRequest) (log : List SessionEntry) : List SendAttempt :=
  (sends log).filter fun attempt => attempt.request.identity.rqid = request.identity.rqid

/-- A line of our room brings a running session a fresh request. -/
structure Arrives (env : Environment) (s : BattleSession) (line : RoomLine)
    (request : DecisionRequest) : Prop where
  running : s.done = false
  room : line.roomId = some env.roomId
  kind : classifyRoomPayload line.payload = .decisionRequest
  read : readPayload env line.payload = .ok request
  fresh : checkFreshness s.latestRequest request.identity = .ok false

def BattleEvent.isEntry : BattleEvent → Bool
  | .pokemonSwitched _ => true
  | .pokemonDragged _ => true
  | _ => false

/-- A switch or drag line of our room, after which `nickname` is active on the side. -/
structure BringsIn (env : Environment) (s : BattleSession) (line : RoomLine)
    (sideId nickname : String) (after : ObservedState) : Prop where
  room : line.roomId = some env.roomId
  kind : classifyRoomPayload line.payload = .battleEvent
  entry : ∃ event, s.observeLine env line.payload = .ok (event, after) ∧ event.isEntry
  active : after.activeNickname sideId = some nickname

variable {env : Environment} {s : BattleSession} {line : RoomLine} {request : DecisionRequest}

/-! ## §2 One request, one command -/

omit [JsonDecoder] in
/-- There is never more than one command for a request. -/
theorem commandsFor_length_le (h : Orderly env s) (request : DecisionRequest) :
    (commandsFor request s.log).length ≤ 1 := by
  have hpairwise := h.increasing.filter fun attempt =>
    attempt.request.identity.rqid = request.identity.rqid
  have hsame : ∀ attempt ∈ commandsFor request s.log,
      attempt.request.identity.rqid = request.identity.rqid := fun attempt hattempt => by
    simpa using (List.mem_filter.mp hattempt).2
  rw [commandsFor] at hsame ⊢
  generalize (sends s.log).filter _ = commands at hpairwise hsame
  match commands, hpairwise with
  | [], _ => exact Nat.zero_le _
  | [_], _ => exact le_refl _
  | first :: second :: _, hpairwise =>
    have hlt := (List.pairwise_cons.mp hpairwise).1 second List.mem_cons_self
    have hfirst := hsame first List.mem_cons_self
    have hsecond := hsame second (List.mem_cons_of_mem _ List.mem_cons_self)
    omega

omit [Python.UnicodeDatabase] [JsonDecoder] [Rfc8785] in
theorem mem_commandsFor {log : List SessionEntry} {attempt : SendAttempt}
    (hmem : attempt ∈ sends log) (hrequest : attempt.request = request) :
    attempt ∈ commandsFor request log :=
  List.mem_filter.mpr ⟨hmem, by simp [hrequest]⟩

/-- Once a command for a request has been handed over, there is exactly one in the end. -/
theorem commandsFor_run (h : Orderly env s) {attempt : SendAttempt} (hmem : attempt ∈ sends s.log)
    (hrequest : attempt.request = request) (rest : List RoomLine) (ending : Option PyException) :
    (commandsFor request (s.run env rest ending).log).length = 1 := by
  have hle := commandsFor_length_le (run_orderly h rest ending) request
  have hgrown : attempt ∈ sends (s.run env rest ending).log :=
    ((run_grows env s rest ending).filterMap _).subset hmem
  have hpos := List.length_pos_of_mem (mem_commandsFor hgrown hrequest)
  omega

/-- No command has been handed over for a request that is fresh. -/
theorem commandsFor_fresh (h : Orderly env s) (harrives : Arrives env s line request) :
    ∀ attempt ∈ sends s.log, attempt.request.identity.rqid ≠ request.identity.rqid := by
  intro attempt hattempt heq
  obtain ⟨last, hlast, hle⟩ := h.bounded attempt hattempt
  have hlt := lt_of_checkFreshness harrives.fresh last.identity (by rw [h.latest, hlast]; rfl)
  omega

/-! ## §3 The arrival -/

theorem Arrives.wellFormed (h : Arrives env s line request) : request.WellFormed env.roomId :=
  readRequest_wellFormed h.read

/-- The session that a fresh request meets once its trace has been opened. -/
theorem arrival_outcome (h : Orderly env s) (harrives : Arrives env s line request) :
    (∃ raised : Raised, raised.session = (s.acceptFresh env request).occur raised.error ∧
        s.feed env line = raised.session.abort env raised.error) ∨
      ∃ t, KeepsCourse (s.acceptFresh env request) t ∧
        (t.done = true ∧ s.feed env line = t ∨
          t.done = false ∧ Orderly env t ∧ t.pendingRequest = some request ∧
            s.feed env line = settle env (t.retryPending env "request received" false)) := by
  have hfeed : s.feed env line = settle env (s.processRequest env line.payload) := by
    unfold feed
    rw [if_neg (by simp [harrives.running]), if_neg (by simp [harrives.room])]
    simp only [processLine, harrives.kind]
  have haccepted := acceptFresh_orderly h.toOrderlyLog harrives.wellFormed harrives.fresh
  have hopened := openTrace_keepsCourse env (s.acceptFresh env request) request
  rw [hfeed]
  simp only [processRequest, harrives.read, harrives.fresh]
  cases hopen : (s.acceptFresh env request).openTrace env request with
  | error raised => exact .inl ⟨raised, hopened.of_error hopen, rfl⟩
  | ok t =>
    have hkeeps := hopened.of_ok hopen
    refine .inr ⟨t, hkeeps, ?_⟩
    simp only [bind, Except.bind]
    cases hdone : t.done with
    | true => exact .inl ⟨rfl, rfl⟩
    | false => exact .inr ⟨rfl, haccepted.congr hkeeps, hkeeps.pendingRequest, rfl⟩

omit [Python.UnicodeDatabase] [JsonDecoder] in
theorem sends_acceptFresh (env : Environment) (s : BattleSession) (request : DecisionRequest) :
    sends (s.acceptFresh env request).log = sends s.log :=
  (finalizePending_keepsCourse env s .supersededBeforeSelection none none).sends

omit [Python.UnicodeDatabase] [JsonDecoder] in
theorem state_acceptFresh (env : Environment) (s : BattleSession) (request : DecisionRequest) :
    (s.acceptFresh env request).state = s.state :=
  (finalizePending_keepsCourse env s .supersededBeforeSelection none none).state

omit [Python.UnicodeDatabase] [JsonDecoder] in
theorem submittedRequest_acceptFresh (env : Environment) (s : BattleSession)
    (request : DecisionRequest) :
    (s.acceptFresh env request).submittedRequest = s.submittedRequest :=
  (finalizePending_keepsCourse env s .supersededBeforeSelection none none).submittedRequest

omit [Python.UnicodeDatabase] [JsonDecoder] in
theorem pendingTrace_acceptFresh (env : Environment) (s : BattleSession)
    (request : DecisionRequest) : (s.acceptFresh env request).pendingTrace = none :=
  finalizePending_pendingTrace env s .supersededBeforeSelection none none

omit [Python.UnicodeDatabase] [JsonDecoder] in
theorem done_acceptFresh (hcontext : env.decisionRecordContext = none) (s : BattleSession)
    (request : DecisionRequest) : (s.acceptFresh env request).done = s.done :=
  (finalizePending_unrecorded hcontext s .supersededBeforeSelection none none).2

/-- A fresh request is among the fresh requests after its line. -/
theorem arrival_mem (h : Orderly env s) (harrives : Arrives env s line request) :
    request ∈ freshRequests (s.feed env line).log := by
  obtain ⟨past, hlog, -⟩ := acceptFresh_log env s request
  have hmem : request ∈ freshRequests (s.acceptFresh env request).log := by
    rw [hlog]
    exact List.mem_cons_self
  have hsuffix : (s.acceptFresh env request).log <:+ (s.feed env line).log := by
    rcases arrival_outcome h harrives with ⟨raised, hsession, hfeed⟩ | ⟨t, hkeeps, hcase⟩
    · have hraised : (s.acceptFresh env request).log = raised.session.log := by
        rw [hsession]
        rfl
      rw [hfeed, hraised]
      exact abort_suffix env _ _
    · rcases hcase with ⟨-, hfeed⟩ | ⟨-, -, -, hfeed⟩
      · rw [hfeed]
        exact hkeeps.toKeepsLog.suffix
      · rw [hfeed]
        exact hkeeps.toKeepsLog.suffix.trans (settle_suffix env (retryPending_grows env t _ _))
  exact (hsuffix.filterMap _).subset hmem

omit [JsonDecoder] in
/-- The numbers that the reconciler compares with: an awaited request has the largest. -/
theorem Awaited.latest_le {request : DecisionRequest} (h : Awaited env s request) :
    ∀ latest ∈ s.submittedRequest.map fun identity => identity.rqid,
      latest ≤ request.identity.rqid := by
  intro latest hlatest
  obtain ⟨identity, hidentity, rfl⟩ := Option.map_eq_some_iff.mp hlatest
  exact (h.unsubmitted identity hidentity).le

/-- A request that arrives while another pokemon of ours is active ends the session, unanswered. -/
theorem otherActive_stops (h : Orderly env s) (harrives : Arrives env s line request)
    (hneeds : request.kind.needsActive = true) (hfits : FormatFits request s.state)
    {nickname other : String} (hidentity : request.activeIdentity = some nickname)
    (hactive : s.state.activeNickname request.sideId = some other) (hne : other ≠ nickname) :
    (s.feed env line).done = true ∧ sends (s.feed env line).log = sends s.log := by
  rcases arrival_outcome h harrives with ⟨raised, hsession, hfeed⟩ | ⟨t, hkeeps, hcase⟩
  · rw [hfeed, hsession]
    exact ⟨rfl, (sends_abort env _ _).trans (sends_acceptFresh env s request)⟩
  have hsends : sends t.log = sends s.log := hkeeps.sends.trans (sends_acceptFresh env s request)
  rcases hcase with ⟨hdone, hfeed⟩ | ⟨-, ht, hpending, hfeed⟩
  · rw [hfeed]
    exact ⟨hdone, hsends⟩
  have hstate : t.state = s.state := hkeeps.state.trans (state_acceptFresh env s request)
  have hawaited := ht.pending request hpending
  obtain ⟨reason, hreject⟩ := reconcile_of_otherActive hawaited.wellFormed (hstate ▸ hfits)
    hawaited.latest_le hneeds hidentity (hstate ▸ hactive) hne
  have houtcome := retryPending_outcome env t hpending hawaited.wellFormed "request received" false
  rw [hfeed]
  generalize t.retryPending env "request received" false = answer at houtcome
  cases houtcome with
  | rejected result message hresult hstatus hwhy =>
    obtain ⟨u, hu, heq⟩ := refuse_eq env t (.requestStateReconciliationMismatch message)
      .reconciliationRejected .requestStateReconciliationMismatch none
    rw [rejectReconciliation, heq]
    exact ⟨rfl, (sends_abort env u _).trans (hu.sends.trans hsends)⟩
  | waiting result hresult hstatus hstrict hstarted =>
    rw [← Except.ok.inj (hreject.symm.trans hresult)] at hstatus
    cases hstatus
  | undigested result err hresult hstatus htrace hdigest =>
    rw [← Except.ok.inj (hreject.symm.trans hresult)] at hstatus
    cases hstatus
  | answered result u hresult hstatus hu =>
    rw [← Except.ok.inj (hreject.symm.trans hresult)] at hstatus
    cases hstatus

/-- No command is handed over for it later either. -/
theorem otherActive_unanswered (h : Orderly env s) (harrives : Arrives env s line request)
    (hneeds : request.kind.needsActive = true) (hfits : FormatFits request s.state)
    {nickname other : String} (hidentity : request.activeIdentity = some nickname)
    (hactive : s.state.activeNickname request.sideId = some other) (hne : other ≠ nickname)
    (rest : List RoomLine) (ending : Option PyException) :
    commandsFor request (s.run env (line :: rest) ending).log = [] := by
  obtain ⟨hdone, hsends⟩ := otherActive_stops h harrives hneeds hfits hidentity hactive hne
  have hrun : s.run env (line :: rest) ending = s.feed env line := run_of_done env hdone rest ending
  rw [hrun, commandsFor, hsends, List.filter_eq_nil_iff]
  intro attempt hattempt
  simpa using commandsFor_fresh h harrives attempt hattempt

/-- Where no records are written, the session ends in a mismatch. -/
theorem otherActive_aborts (hcontext : env.decisionRecordContext = none) (h : Orderly env s)
    (harrives : Arrives env s line request) (hneeds : request.kind.needsActive = true)
    (hfits : FormatFits request s.state) {nickname other : String}
    (hidentity : request.activeIdentity = some nickname)
    (hactive : s.state.activeNickname request.sideId = some other) (hne : other ≠ nickname) :
    ∃ text past, (s.feed env line).log =
      .abort (.requestStateReconciliationMismatch text) :: past := by
  have ht := acceptFresh_orderly h.toOrderlyLog harrives.wellFormed harrives.fresh
  have hdone : (s.acceptFresh env request).done = false :=
    (done_acceptFresh hcontext s request).trans harrives.running
  have hfeed : s.feed env line =
      settle env ((s.acceptFresh env request).retryPending env "request received" false) := by
    unfold feed
    rw [if_neg (by simp [harrives.running]), if_neg (by simp [harrives.room])]
    simp only [processLine, harrives.kind, processRequest, harrives.read, harrives.fresh,
      openTrace_unrecorded hcontext, bind, Except.bind, hdone]
    rfl
  have hawaited := ht.pending request rfl
  obtain ⟨reason, hreject⟩ := reconcile_of_otherActive hawaited.wellFormed
    (state_acceptFresh env s request ▸ hfits) hawaited.latest_le hneeds hidentity
    (state_acceptFresh env s request ▸ hactive) hne
  have houtcome := retryPending_outcome env (s.acceptFresh env request) rfl hawaited.wellFormed
    "request received" false
  rw [hfeed]
  generalize (s.acceptFresh env request).retryPending env "request received" false = answer
    at houtcome
  cases houtcome with
  | rejected result message hresult hstatus hwhy =>
    exact ⟨message, _, abort_unrecorded hcontext _ _⟩
  | waiting result hresult hstatus hstrict hstarted =>
    rw [← Except.ok.inj (hreject.symm.trans hresult)] at hstatus
    cases hstatus
  | undigested result err hresult hstatus htrace hdigest =>
    rw [← Except.ok.inj (hreject.symm.trans hresult)] at hstatus
    cases hstatus
  | answered result u hresult hstatus hu =>
    rw [← Except.ok.inj (hreject.symm.trans hresult)] at hstatus
    cases hstatus

/-! ## §4 Waiting -/

/-- A line that leaves a waiting request alone: it is of another room, chat, a timer message, a
request that is known already, or a battle line that neither ends the battle nor starts it or a
turn, and after which nobody of ours is active and the format still fits. -/
inductive Quiet (env : Environment) (s : BattleSession) (request : DecisionRequest)
    (line : RoomLine) : Prop where
  | otherRoom (h : line.roomId ≠ some env.roomId)
  | chat (h : classifyRoomPayload line.payload = .roomControlOrChat)
  | timer (h : classifyRoomPayload line.payload = .timerMessage)
      (hok : ∃ result, s.observeTimer line.payload = .ok result)
  | known (h : classifyRoomPayload line.payload = .decisionRequest)
      (hknown : ∃ other, readPayload env line.payload = .ok other ∧
        checkFreshness s.latestRequest other.identity = .ok true)
  | event (h : classifyRoomPayload line.payload = .battleEvent) (event : BattleEvent)
      (after : ObservedState) (hok : s.observeLine env line.payload = .ok (event, after))
      (hends : endsBattle event = false) (hretry : ∀ reason, retryOf event ≠ some (reason, true))
      (hfits : FormatFits request after) (hactive : after.activeNickname request.sideId = none)

/-- All of the lines leave the request alone. -/
def QuietAlong (env : Environment) (request : DecisionRequest) : BattleSession → List RoomLine → Prop
  | _, [] => True
  | s, line :: rest => Quiet env s request line ∧ QuietAlong env request (s.feed env line) rest

/-- A running session with the request pending. -/
structure Waits (s : BattleSession) (request : DecisionRequest) : Prop where
  running : s.done = false
  pending : s.pendingRequest = some request

omit [JsonDecoder] in
/-- While nobody of ours is active, a look at the pending request changes nothing. -/
theorem retryPending_of_noneActive (h : Orderly env s) (hwaits : Waits s request)
    (hneeds : request.kind.needsActive = true) (hfits : FormatFits request s.state)
    (hactive : s.state.activeNickname request.sideId = none) (reason : String) :
    s.retryPending env reason false = .ok s := by
  have hawaited := h.pending request hwaits.pending
  have hanswer := reconcile_of_noneActive hawaited.wellFormed hfits hawaited.latest_le hneeds hactive
  have houtcome := retryPending_outcome env s hwaits.pending hawaited.wellFormed reason false
  generalize s.retryPending env reason false = answer at houtcome
  cases houtcome with
  | rejected result message hresult hstatus hwhy =>
    exact absurd (Except.ok.inj (hresult.symm.trans hanswer)) (hwhy rfl)
  | waiting result hresult hstatus hstrict hstarted => rfl
  | undigested result err hresult hstatus htrace hdigest =>
    rw [← Except.ok.inj (hanswer.symm.trans hresult)] at hstatus
    cases hstatus
  | answered result t hresult hstatus ht =>
    rw [← Except.ok.inj (hanswer.symm.trans hresult)] at hstatus
    cases hstatus

/-- A quiet line leaves a waiting request waiting. -/
theorem feed_waits (h : Orderly env s) (hwaits : Waits s request)
    (hneeds : request.kind.needsActive = true) (hquiet : Quiet env s request line) :
    Waits (s.feed env line) request ∧ (s.feed env line).latestRequest = s.latestRequest := by
  have hnotDone : ¬s.done = true := by simp [hwaits.running]
  unfold feed
  rw [if_neg hnotDone]
  split_ifs with hroom
  · exact ⟨hwaits, rfl⟩
  cases hquiet with
  | otherRoom hother => exact absurd hother hroom
  | chat hkind =>
    simp only [processLine, hkind, settle]
    exact ⟨⟨hwaits.running, hwaits.pending⟩, trivial⟩
  | timer hkind hok =>
    obtain ⟨result, hresult⟩ := hok
    simp only [processLine, hkind, processTimer, hresult, settle]
    exact ⟨⟨hwaits.running, hwaits.pending⟩, trivial⟩
  | known hkind hknown =>
    obtain ⟨other, hread, hsame⟩ := hknown
    simp only [processLine, hkind, processRequest, hread, hsame, settle]
    exact ⟨hwaits, trivial⟩
  | event hkind event after hok hends hretry hfits hactive =>
    simp only [processLine, hkind, processBattleEvent, hok, hends]
    rw [if_neg (by simp)]
    have hafter : Waits { s with state := after } request := ⟨hwaits.running, hwaits.pending⟩
    cases hlook : retryOf event with
    | none => exact ⟨hafter, rfl⟩
    | some retry =>
      obtain ⟨reason, strict⟩ := retry
      cases strict with
      | true => exact absurd hlook (hretry reason)
      | false =>
        simp only
        rw [retryPending_of_noneActive (h.observe after) hafter hneeds hfits hactive]
        exact ⟨hafter, rfl⟩

theorem feedAll_waits (h : Orderly env s) (hwaits : Waits s request)
    (hneeds : request.kind.needsActive = true) (lines : List RoomLine)
    (hquiet : QuietAlong env request s lines) :
    Waits (s.feedAll env lines) request ∧
      (s.feedAll env lines).latestRequest = s.latestRequest := by
  induction lines generalizing s with
  | nil => exact ⟨hwaits, rfl⟩
  | cons line rest ih =>
    obtain ⟨hline, hrest⟩ := hquiet
    obtain ⟨hfed, hlatest⟩ := feed_waits h hwaits hneeds hline
    obtain ⟨hall, hsame⟩ := ih (feed_orderly h line) hfed hrest
    exact ⟨hall, hsame.trans hlatest⟩

/-- A request that arrives while nobody of ours is active starts to wait, if its trace can be
opened and the record of a superseded request does not end the session. -/
theorem arrival_waits (h : Orderly env s) (harrives : Arrives env s line request)
    (hneeds : request.kind.needsActive = true) (hfits : FormatFits request s.state)
    (hactive : s.state.activeNickname request.sideId = none) {opened : BattleSession}
    (hopened : (s.acceptFresh env request).openTrace env request = .ok opened)
    (hdone : opened.done = false) :
    s.feed env line = opened ∧ Waits opened request ∧
      opened.latestRequest = some request.identity := by
  have hkeeps := (openTrace_keepsCourse env (s.acceptFresh env request) request).of_ok hopened
  have haccepted := acceptFresh_orderly h.toOrderlyLog harrives.wellFormed harrives.fresh
  have hstate : opened.state = s.state := hkeeps.state.trans (state_acceptFresh env s request)
  have hwaits : Waits opened request := ⟨hdone, hkeeps.pendingRequest⟩
  have hretry := retryPending_of_noneActive (haccepted.congr hkeeps) hwaits hneeds
    (hstate ▸ hfits) (hstate ▸ hactive) "request received"
  refine ⟨?_, hwaits, hkeeps.latestRequest⟩
  unfold feed
  rw [if_neg (by simp [harrives.running]), if_neg (by simp [harrives.room])]
  simp only [processLine, harrives.kind, processRequest, harrives.read, harrives.fresh, hopened,
    bind, Except.bind, hdone, hretry, settle]
  rfl

/-! ## §5 The switch -/

/-- What a line that brings a pokemon in does to a session with a request pending. -/
theorem feed_of_bringsIn {sideId nickname : String} {after : ObservedState}
    (hdone : s.done = false) (hbrings : BringsIn env s line sideId nickname after) :
    ∃ reason, s.feed env line =
      settle env (({ s with state := after } : BattleSession).retryPending env reason false) := by
  obtain ⟨event, hobserved, hentry⟩ := hbrings.entry
  have hretry : endsBattle event = false ∧
      retryOf event = some ("pending request did not reconcile", false) := by
    cases event with
    | pokemonSwitched event => exact ⟨rfl, rfl⟩
    | pokemonDragged event => exact ⟨rfl, rfl⟩
    | _ => cases hentry
  refine ⟨"pending request did not reconcile", ?_⟩
  unfold feed
  rw [if_neg (by simp [hdone]), if_neg (by simp [hbrings.room])]
  simp only [processLine, hbrings.kind, processBattleEvent, hobserved, hretry]
  rfl

/-- The line that makes the named pokemon active finds the latest request answered, or answers
it. -/
theorem switch_answers (h : Orderly env s) (hdone : s.done = false)
    (hlatest : (freshRequests s.log).head? = some request) (hwait : request.kind ≠ .wait)
    {nickname : String} (hidentity : request.activeIdentity = some nickname)
    {after : ObservedState} (hbrings : BringsIn env s line request.sideId nickname after)
    (hfits : FormatFits request after) {candidate : BattleSubmission}
    (hpolicy : env.policy request = .ok candidate)
    (hsafe : candidate ∈ request.safeSubmissions.submissions)
    (hdigest : s.pendingTrace.isSome → ∃ digest, observedStateDigest after = .ok digest) :
    ∃ attempt ∈ sends (s.feed env line).log, attempt.request = request := by
  cases hpending : s.pendingRequest with
  | none =>
    rcases h.answered hdone hpending request hlatest with hkind | ⟨attempt, hmem, hrequest⟩
    · exact absurd hkind hwait
    · exact ⟨attempt, ((feed_grows env s line).filterMap _).subset hmem, hrequest⟩
  | some pending =>
    have hawaited := h.pending pending hpending
    obtain rfl : pending = request := Option.some.inj (hawaited.latest.symm.trans hlatest)
    obtain ⟨reason, hfeed⟩ := feed_of_bringsIn hdone hbrings
    have haccept := reconcile_of_active hawaited.wellFormed hfits hawaited.latest_le hidentity
      hbrings.active
    have houtcome := retryPending_outcome env { s with state := after } hpending
      hawaited.wellFormed reason false
    rw [hfeed]
    generalize ({ s with state := after } : BattleSession).retryPending env reason false = answer
      at houtcome
    cases houtcome with
    | rejected result message hresult hstatus hwhy =>
      rw [← Except.ok.inj (haccept.symm.trans hresult)] at hstatus
      exact absurd rfl hstatus
    | waiting result hresult hstatus hstrict hstarted =>
      rw [← Except.ok.inj (haccept.symm.trans hresult)] at hstatus
      cases hstatus
    | undigested result err hresult hstatus htrace herr =>
      obtain ⟨digest, hok⟩ := hdigest htrace
      rw [hok] at herr
      cases herr
    | answered result t hresult hstatus ht =>
      have hsubmitted : t.submittedRequest = s.submittedRequest := by
        rcases ht with ⟨-, rfl⟩ | ⟨_, -, rfl⟩ <;> rfl
      have hanswer := submit_outcome env t hawaited.wellFormed.safeIdentity
      generalize t.submit env pending = answer at hanswer
      cases hanswer with
      | known hknown =>
        rw [hsubmitted] at hknown
        exact absurd (hawaited.unsubmitted pending.identity hknown.symm) (lt_irrefl _)
      | noop hkind => exact absurd hkind hwait
      | policyRefused text hkind herr =>
        rw [hpolicy] at herr
        cases herr
      | policyRaised err hkind herr hother =>
        rw [hpolicy] at herr
        cases herr
      | gateRejected other text hkind hok hnot =>
        rw [hpolicy] at hok
        exact absurd (Except.ok.inj hok ▸ hsafe) hnot
      | sent other text hkind hok hmem htext =>
        obtain ⟨attempt, hrequest, -, -, -, hgrows⟩ := sendCommand_enters env t pending other
          s!"/choose {text}|{pending.identity.rqid}"
        have hsuffix := settle_suffix env hgrows
        exact ⟨attempt, (hsuffix.filterMap _).subset List.mem_cons_self, hrequest⟩

omit [JsonDecoder] in
/-- A fresh request stays the latest one as long as its identity is the latest. -/
theorem latest_of_mem (h : Orderly env s) (hmem : request ∈ freshRequests s.log)
    (hlatest : s.latestRequest = some request.identity) :
    (freshRequests s.log).head? = some request := by
  have hhead := h.latest
  have hsorted := h.fresh
  cases hlist : freshRequests s.log with
  | nil =>
    rw [hlist] at hmem
    cases hmem
  | cons last older =>
    rw [hlist] at hmem hsorted hhead
    rcases List.mem_cons.mp hmem with rfl | hold
    · rfl
    · have hlt := (List.pairwise_cons.mp hsorted).1 request hold
      rw [hlatest] at hhead
      have hsame : request.identity = last.identity := Option.some.inj hhead
      rw [hsame] at hlt
      exact absurd hlt (lt_irrefl _)

/-! ## §6 The whole run -/

/-- **Requests before their switch.** Let a fresh move or forced switch request name `nickname` as
the active pokemon, and let side, format and team size fit when it is looked at.

- If it arrives while another pokemon of our side is active, the session stops at once, by a
  reconciliation mismatch where no records are written, and no command is ever handed over for it.
- If it arrives while nobody of our side is active, and its trace can be opened, the session waits
  for as long as only quiet lines follow.
- If a switch or drag line that makes `nickname` active reaches the session while it runs and the
  request is its latest, exactly one command is handed over for it in the whole run, provided that
  the policy picks a safe submission and that the state has a digest in case a trace is pending. -/
theorem request_before_switch (env : Environment) (initialState : ObservedState)
    (before : List RoomLine) (line : RoomLine) (request : DecisionRequest) (nickname : String)
    (harrives : Arrives env ((BattleSession.initial initialState).feedAll env before) line request)
    (hkind : request.kind = .move ∨ request.kind = .forcedSwitch)
    (hidentity : request.activeIdentity = some nickname) :
    let start := BattleSession.initial initialState
    let arrival := start.feedAll env before
    (∀ other, arrival.state.activeNickname request.sideId = some other → other ≠ nickname →
      FormatFits request arrival.state →
        (arrival.feed env line).done = true ∧
          (env.decisionRecordContext = none → ∃ text past, (arrival.feed env line).log =
            .abort (.requestStateReconciliationMismatch text) :: past) ∧
          ∀ rest ending,
            commandsFor request (start.run env (before ++ line :: rest) ending).log = []) ∧
      (∀ opened between, arrival.state.activeNickname request.sideId = none →
        FormatFits request arrival.state →
        (arrival.acceptFresh env request).openTrace env request = .ok opened →
        opened.done = false → QuietAlong env request (arrival.feed env line) between →
          (start.feedAll env (before ++ line :: between)).done = false ∧
            (start.feedAll env (before ++ line :: between)).latestRequest =
              some request.identity) ∧
      ∀ between switchLine after,
        let switching := start.feedAll env (before ++ line :: between)
        switching.done = false → switching.latestRequest = some request.identity →
        BringsIn env switching switchLine request.sideId nickname after →
        FormatFits request after →
        (∃ candidate ∈ request.safeSubmissions.submissions, env.policy request = .ok candidate) →
        (switching.pendingTrace.isSome → ∃ digest, observedStateDigest after = .ok digest) →
          ∀ rest ending, (commandsFor request
            (start.run env (before ++ line :: between ++ switchLine :: rest) ending).log).length
              = 1 := by
  intro start arrival
  have harrival : Orderly env arrival := feedAll_orderly (orderly_initial env initialState) before
  have hneeds : request.kind.needsActive = true := by
    rcases hkind with hkind | hkind <;> rw [hkind] <;> rfl
  have hwait : request.kind ≠ .wait := by
    rcases hkind with hkind | hkind <;> rw [hkind] <;> decide
  have hsplit : ∀ between, start.feedAll env (before ++ line :: between) =
      (arrival.feed env line).feedAll env between :=
    fun between => feedAll_append env start before (line :: between)
  refine ⟨?_, ?_, ?_⟩
  · intro other hother hne hfits
    have hstops := otherActive_stops harrival harrives hneeds hfits hidentity hother hne
    refine ⟨hstops.1, fun hcontext => ?_, fun rest ending => ?_⟩
    · exact otherActive_aborts hcontext harrival harrives hneeds hfits hidentity hother hne
    · rw [run_append]
      exact otherActive_unanswered harrival harrives hneeds hfits hidentity hother hne rest ending
  · intro opened between hnone hfits hopened hdone hquiet
    obtain ⟨hfeed, hwaits, hlatest⟩ :=
      arrival_waits harrival harrives hneeds hfits hnone hopened hdone
    rw [hfeed] at hquiet
    obtain ⟨hstill, hsame⟩ :=
      feedAll_waits (hfeed ▸ feed_orderly harrival line) hwaits hneeds between hquiet
    rw [hsplit, hfeed]
    exact ⟨hstill.running, hsame.trans hlatest⟩
  · rintro between switchLine after switching hdone hlatest hbrings hfits
      ⟨candidate, hsafe, hpolicy⟩ hdigest rest ending
    have hswitching : Orderly env switching := feedAll_orderly (orderly_initial env initialState) _
    have hmem : request ∈ freshRequests switching.log := by
      have hlog : switching.log = ((arrival.feed env line).feedAll env between).log :=
        congrArg BattleSession.log (hsplit between)
      rw [hlog]
      exact ((feedAll_grows env _ between).filterMap _).subset (arrival_mem harrival harrives)
    obtain ⟨attempt, hattempt, hrequest⟩ := switch_answers hswitching hdone
      (latest_of_mem hswitching hmem hlatest) hwait hidentity hbrings hfits hpolicy hsafe hdigest
    rw [run_append]
    exact commandsFor_run (feed_orderly hswitching switchLine) hattempt hrequest rest ending

end Sessions

/-! ## §7 Runs -/

/-- A move request for a lone Garchomp. -/
def garchompText : String :=
  "\x7b\"rqid\":5,\"active\":[\x7b\"moves\":[\x7b\"id\":\"earthquake\"\x7d]\x7d],\"side\":\x7b\"id\":\"p1\","
    ++ "\"pokemon\":[\x7b\"ident\":\"p1: Garchomp\",\"details\":\"Garchomp, M\","
    ++ "\"condition\":\"100/100\",\"active\":true\x7d]\x7d\x7d"

/-- What it decodes to. -/
def garchompJson : Python.Json :=
  .obj [("rqid", .int 5),
    ("active", .arr [.obj [("moves", .arr [.obj [("id", .str "earthquake")]])]]),
    ("side", .obj [("id", .str "p1"),
      ("pokemon", .arr [.obj [("ident", .str "p1: Garchomp"), ("details", .str "Garchomp, M"),
        ("condition", .str "100/100"), ("active", .bool true)]])])]

/-- A decoder that knows this request. -/
@[reducible] def garchompDecoder : JsonDecoder where
  loads text :=
    if text = garchompText then .ok garchompJson
    else .error (.decodeError "Expecting value: line 1 column 1 (char 0)")

def garchompIdentity : RequestIdentity where
  roomId := "battle-gen9ou-1"
  rqid := 5
  requestDigest := "sha256:381cea85cb5653642c795d249ff6a4f5d049ea8853b33b27e4109899301b3c45"

def earthquake : BattleSubmission where
  kind := .move
  provenance := .explicitRequest
  slot := some 1
  moveId := some "earthquake"
  terastallize := false
  teamOrder := []
  valid := by decide

/-- The request that the text stands for. -/
def garchompRequest : DecisionRequest where
  identity := garchompIdentity
  kind := .move
  sideId := "p1"
  teamMemberCount := 1
  activeIdentity := some "Garchomp"
  safeSubmissions := ⟨garchompIdentity, [earthquake, defaultSubmission]⟩
  isUpdate := false

/-- The heuristic policy, a connection that takes every command and no records. -/
def heuristicEnvironment : letI := compactCanonicalizer; Environment :=
  letI := compactCanonicalizer
  { roomId := "battle-gen9ou-1"
    policy := heuristicSelect
    sendRoom := fun _ _ => .ok ()
    emit := fun _ _ => .ok ()
    decisionRecordContext := none }

def ourLine (payload : String) : RoomLine := ⟨some "battle-gen9ou-1", payload⟩

def metadata : List RoomLine :=
  ["|init|battle", "|gametype|singles", "|gen|9", "|tier|[Gen 9] OU", "|player|p1|ash|1|",
    "|player|p2|misty|1|", "|start|"].map ourLine

def garchompLine : RoomLine := ourLine ("|request|" ++ garchompText)

def garchompEnters : RoomLine := ourLine "|switch|p1a: Garchomp|Garchomp, M|100/100"

def pikachuEnters : RoomLine := ourLine "|switch|p1a: Pikachu|Pikachu, M|100/100"

/-- What the request looks at, but for the active pokemon. -/
def FitsGarchomp (state : ObservedState) : Prop :=
  state.ourSide = some "p1" ∧ state.generation = some 9 ∧ state.gameType = some "singles" ∧
    state.tier = some "[Gen 9] OU" ∧ state.knownTeamSize "p1" = none

instance (state : ObservedState) : Decidable (FitsGarchomp state) :=
  inferInstanceAs (Decidable (_ ∧ _))

theorem FitsGarchomp.formatFits {state : ObservedState} (h : FitsGarchomp state) :
    FormatFits garchompRequest state := by
  obtain ⟨hside, hgeneration, hgameType, htier, hteam⟩ := h
  refine ⟨hside, hgeneration, ⟨"singles", hgameType, by decide +kernel⟩,
    ⟨"[Gen 9] OU", htier, by decide +kernel⟩, fun size hsize => ?_⟩
  have hnone : none = some size := hteam.symm.trans hsize
  cases hnone

/-- What follows `|request|` is the text of the request. -/
theorem dropChars_request (text : String) : Python.dropChars ("|request|" ++ text) 9 = text := by
  have hchars : ("|request|" ++ text).toList.drop 9 = text.toList := by
    rw [String.toList_append]
    rfl
  rw [Python.dropChars, hchars, String.ofList_toList]

theorem classify_request (text : String) :
    classifyRoomPayload ("|request|" ++ text) = .decisionRequest := by
  have hchars : ("|request|" ++ text).toList =
      '|' :: 'r' :: ("equest|".toList ++ text.toList) := by
    rw [String.toList_append]
    rfl
  have hspacer : "|request|" ++ text ≠ "|" := by
    intro h
    rw [← String.toList_inj, hchars] at h
    simp at h
  have hstart : (!Python.startsWith ("|request|" ++ text) "|" ||
      Python.startsWith ("|request|" ++ text) "||") = false := by
    simp [Python.startsWith, hchars]
    rfl
  have htype : (splitPayload ("|request|" ++ text)).1 = "request" := by
    refine wireType_of_startsWith (by decide) ?_
    rw [Python.startsWith, hchars]
    exact List.isPrefixOf_iff_prefix.mpr ⟨text.toList, rfl⟩
  rw [classifyRoomPayload, if_neg hspacer, hstart, if_neg Bool.false_ne_true, htype, if_pos rfl]

example : classifyRoomPayload "|request|" = .decisionRequest := by decide +kernel

/-- The request that the text of Garchomp's request is read as. -/
theorem readRequest_garchompText :
    letI := Python.asciiDatabase
    letI := garchompDecoder
    letI := compactCanonicalizer
    readRequest "battle-gen9ou-1" garchompText = .ok garchompRequest := by
  decide +kernel

/-- The request line brings Garchomp's request to every running session of the room that has read
none. -/
theorem garchompLine_arrives :
    letI := Python.asciiDatabase
    letI := garchompDecoder
    letI := compactCanonicalizer
    ∀ {env : Environment} {s : BattleSession}, env.roomId = "battle-gen9ou-1" →
      s.done = false → s.latestRequest = none → Arrives env s garchompLine garchompRequest := by
  let _ := Python.asciiDatabase
  let _ := garchompDecoder
  let _ := compactCanonicalizer
  intro env s hroom hdone hlatest
  have htext : Python.dropChars garchompLine.payload 9 = garchompText :=
    dropChars_request garchompText
  refine ⟨hdone, by rw [hroom]; rfl, classify_request garchompText, ?_, ?_⟩
  · rw [readPayload, hroom, htext]
    exact readRequest_garchompText
  · rw [hlatest]
    rfl

/-- With Pikachu on the field, the switch to Garchomp comes too late: no command is handed over. -/
theorem pikachu_active_unanswered :
    letI := Python.asciiDatabase
    letI := garchompDecoder
    letI := compactCanonicalizer
    let start := BattleSession.initial (ObservedState.initial "ash")
    let arrival := start.feedAll heuristicEnvironment (metadata ++ [pikachuEnters])
    Arrives heuristicEnvironment arrival garchompLine garchompRequest ∧
      FormatFits garchompRequest arrival.state ∧
      arrival.state.activeNickname "p1" = some "Pikachu" ∧
      (∃ after, BringsIn heuristicEnvironment arrival garchompEnters "p1" "Garchomp" after) ∧
      commandsFor garchompRequest (start.run heuristicEnvironment
        (metadata ++ [pikachuEnters] ++ garchompLine :: [garchompEnters]) none).log = [] := by
  let _ := Python.asciiDatabase
  let _ := garchompDecoder
  let _ := compactCanonicalizer
  intro start arrival
  have hevaluates : (arrival.done = false ∧ arrival.latestRequest = none) ∧
      FitsGarchomp arrival.state ∧ arrival.state.activeNickname "p1" = some "Pikachu" := by
    unfold arrival start
    decide +kernel
  obtain ⟨⟨hdone, hlatest⟩, hfits, hactive⟩ := hevaluates
  have harrives : Arrives heuristicEnvironment arrival garchompLine garchompRequest :=
    garchompLine_arrives rfl hdone hlatest
  have hentry : (arrival.observeLine heuristicEnvironment garchompEnters.payload).map
      (fun observed => (observed.1.isEntry, observed.2.activeNickname "p1")) =
        .ok (true, some "Garchomp") := by
    unfold arrival start
    decide +kernel
  obtain ⟨⟨event, after⟩, hobserved, hboth⟩ := Runs.map_eq_ok.mp hentry
  obtain ⟨hevent, hnickname⟩ := Prod.mk.inj hboth
  refine ⟨harrives, hfits.formatFits, hactive, ⟨after, rfl, by decide +kernel, ⟨event, hobserved, hevent⟩,
    hnickname⟩, ?_⟩
  have harrival := feedAll_orderly (orderly_initial heuristicEnvironment
    (ObservedState.initial "ash")) (metadata ++ [pikachuEnters])
  rw [run_append]
  exact otherActive_unanswered harrival harrives rfl hfits.formatFits rfl hactive (by decide) _ _

/-- With nobody on the field, the session waits for Garchomp's switch and then answers. -/
theorem garchomp_awaited_answered :
    letI := Python.asciiDatabase
    letI := garchompDecoder
    letI := compactCanonicalizer
    (commandsFor garchompRequest ((BattleSession.initial (ObservedState.initial "ash")).run
      heuristicEnvironment (metadata ++ [garchompLine] ++ [garchompEnters]) none).log).length
        = 1 := by
  let _ := Python.asciiDatabase
  let _ := garchompDecoder
  let _ := compactCanonicalizer
  let start := BattleSession.initial (ObservedState.initial "ash")
  let arrival := start.feedAll heuristicEnvironment metadata
  have hevaluates : (arrival.done = false ∧ arrival.latestRequest = none) ∧
      FitsGarchomp arrival.state ∧ arrival.state.activeNickname "p1" = none := by
    unfold arrival start
    decide +kernel
  have hentry : (arrival.observeLine heuristicEnvironment garchompEnters.payload).map
      (fun observed => decide (observed.1.isEntry ∧ FitsGarchomp observed.2 ∧
        observed.2.activeNickname "p1" = some "Garchomp")) = .ok true := by
    unfold arrival start
    decide +kernel
  obtain ⟨⟨hdone, hlatest⟩, hfits, hactive⟩ := hevaluates
  obtain ⟨⟨event, after⟩, hobserved, hboth⟩ := Runs.map_eq_ok.mp hentry
  obtain ⟨hevent, hfitsAfter, hnickname⟩ := of_decide_eq_true hboth
  have hthree := request_before_switch heuristicEnvironment (ObservedState.initial "ash") metadata
    garchompLine garchompRequest "Garchomp" (garchompLine_arrives rfl hdone hlatest) (.inl rfl) rfl
  have hcontext : heuristicEnvironment.decisionRecordContext = none := rfl
  have hopened := openTrace_unrecorded hcontext
    (arrival.acceptFresh heuristicEnvironment garchompRequest) garchompRequest
  have hwaiting := hthree.2.1 _ [] hactive hfits.formatFits hopened
    ((done_acceptFresh hcontext arrival _).trans hdone) True.intro
  have harrival := feedAll_orderly (orderly_initial heuristicEnvironment
    (ObservedState.initial "ash")) metadata
  obtain ⟨hfeed, -⟩ := arrival_waits harrival (garchompLine_arrives rfl hdone hlatest) rfl
    hfits.formatFits hactive hopened ((done_acceptFresh hcontext arrival _).trans hdone)
  have hswitching : start.feedAll heuristicEnvironment (metadata ++ [garchompLine]) =
      arrival.acceptFresh heuristicEnvironment garchompRequest := by
    rw [feedAll_concat]
    exact hfeed
  have hbrings : BringsIn heuristicEnvironment
      (start.feedAll heuristicEnvironment (metadata ++ [garchompLine])) garchompEnters "p1"
      "Garchomp" after := by
    rw [hswitching]
    refine ⟨rfl, by decide +kernel, ⟨event, ?_, hevent⟩, hnickname⟩
    rw [observeLine, state_acceptFresh]
    exact hobserved
  -- no trace is pending where no records are written
  have huntraced : (start.feedAll heuristicEnvironment
      (metadata ++ [garchompLine])).pendingTrace.isSome = false := by
    rw [hswitching, pendingTrace_acceptFresh]
    rfl
  exact hthree.2.2 [] garchompEnters after hwaiting.1 hwaiting.2 hbrings hfitsAfter.formatFits
    ⟨earthquake, List.mem_cons_self, rfl⟩
    (fun htrace => absurd (huntraced.symm.trans htrace) Bool.false_ne_true) [] none

end BattleBelief
