import BattleBelief.Actions.Agreement
import BattleBelief.Observation.EventFrame
import BattleBelief.Session.RequestBeforeSwitch
import BattleBelief.Session.Settlement

/-!
# Pending Requests

A request that the state cannot be compared with yet waits. The start of the battle and the start
of every turn end the waiting, one way or the other; and once the battle has started there is one
thing only that a request may still wait for, the pokemon that the server is about to send out.

- `LineStep`: what a line may do to the pending request
- `pending_resolved`: both facts, along every run
-/

namespace BattleBelief

open BattleSession Outcomes Runs

/-! ## §1 What a request waits for -/

/-- The events that a pending request has to be settled at. -/
def BattleEvent.isBoundary : BattleEvent → Bool
  | .battleStarted _ => true
  | .turnStarted _ => true
  | _ => false

/-- All that the reconciler may wait for is known, but for the pokemon that the request is for. -/
structure WaitsForActive (request : DecisionRequest) (state : ObservedState) : Prop where
  side : state.ourSide = some request.sideId
  generation : state.generation ≠ none
  gameType : state.gameType ≠ none
  tier : state.tier ≠ none
  needsActive : request.kind.needsActive = true
  unknown : state.activeNickname request.sideId = none

/-- Nobody of our side is known to be on the field. -/
def OwnActiveUnknown (state : ObservedState) : Prop :=
  ∀ ourSide, state.ourSide = some ourSide → state.activeNickname ourSide = none

section States

variable {request : DecisionRequest} {state after : ObservedState} {event : BattleEvent}

theorem WaitsForActive.ownActiveUnknown (h : WaitsForActive request state) :
    OwnActiveUnknown state := by
  intro ourSide hside
  obtain rfl := Option.some.inj (hside.symm.trans h.side)
  exact h.unknown

/-- A request that may still wait once the battle has started. -/
theorem Lacks.waitsForActive [Python.UnicodeDatabase]
    (h : Lacks request state activeNotYetKnown.reason) : WaitsForActive request state := by
  obtain ⟨hfits, hneeds, hunknown⟩ := h.of_active
  obtain ⟨gameType, hgameType, -⟩ := hfits.gameType
  obtain ⟨tier, htier, -⟩ := hfits.tier
  constructor
  · exact hfits.side
  · rw [hfits.generation]
    exact Option.some_ne_none 9
  · rw [hgameType]
    exact Option.some_ne_none gameType
  · rw [htier]
    exact Option.some_ne_none tier
  · exact hneeds
  · exact hunknown

/-! ## §2 Events that are no reason to look -/

/-- The active nickname of a side is missing exactly while nobody of it is active. -/
theorem activeNickname_eq_none {i : SideRef} :
    state.activeNickname i.id = none ↔ ∀ pv ∈ (state.sideAt i).pokemon, pv.active = false := by
  simp only [ObservedState.activeNickname, side_id, Option.map_eq_none_iff, List.find?_eq_none,
    Bool.not_eq_true]

/-- There is nobody active on a side that does not exist. -/
theorem exists_side_of_activeNickname {sideId nickname : String}
    (h : state.activeNickname sideId = some nickname) : ∃ i : SideRef, sideId = i.id := by
  unfold ObservedState.activeNickname at h
  split at h
  · next side hside =>
    obtain ⟨i, hi, -⟩ := side_eq_ok hside
    exact ⟨i, hi⟩
  · cases h

/-- Nobody enters the field by an event that the session does not look at. -/
theorem nobodyEnters (hsided : state.WellSided) (h : reduce state event = .ok after)
    (hretry : retryOf event = none) (i : SideRef)
    (hnobody : ∀ pv ∈ (state.sideAt i).pokemon, pv.active = false) :
    ∀ pv ∈ (after.sideAt i).pokemon, pv.active = false := by
  cases (reduce_step hsided h).2.2.2 i with
  | keep hevent hpokemon hslot =>
    rw [hpokemon]
    exact hnobody
  | active entry edit hfind hedit hnickname hpokemon hslot =>
    rw [findActive_eq_none.mpr hnobody] at hfind
    cases hfind
  | bench health entry hp hevent hside hentry hinactive hhp hpokemon hslot =>
    rw [hpokemon]
    intro pv hmem
    rcases List.mem_or_eq_of_mem_set hmem with hold | rfl
    · exact hnobody pv hold
    · exact hinactive
  | boosts entry values hevent hfind hvalues hpokemon hslot =>
    rw [findActive_eq_none.mpr hnobody] at hfind
    cases hfind
  | cure cured hevent hside hpokemon hslot =>
    rw [hpokemon]
    intro pv hmem
    obtain ⟨old, hold, rfl⟩ := List.mem_map.mp hmem
    exact hnobody old hold
  | activate nickname details token hp hevent hhp hpokemon hslot =>
    -- a switch is a reason to look
    rcases hevent with ⟨slot, heq⟩ | ⟨slot, heq⟩
    · rw [heq] at hretry
      cases hretry
    · rw [heq] at hretry
      cases hretry

/-- What an event that is no reason to look leaves alone beside the sides. -/
theorem beside_kept (h : reduce state event = .ok after) (hretry : retryOf event = none) :
    after.battleStarted = state.battleStarted ∧ after.ourSide = state.ourSide ∧
      after.generation = state.generation ∧ after.gameType = state.gameType ∧
      after.tier = state.tier := by
  rw [reduce_beside h]
  cases event with
  | battleStarted event => cases hretry
  | turnStarted event => cases hretry
  | gameTypeDeclared event => cases hretry
  | generationDeclared event => cases hretry
  | playerDeclared event => cases hretry
  | tierDeclared event => cases hretry
  | fieldConditionChanged event =>
    simp only [effectBeside, reduceFieldConditionChanged, ObservedState.withSides]
    split_ifs <;> exact ⟨rfl, rfl, rfl, rfl, rfl⟩
  | _ => exact ⟨rfl, rfl, rfl, rfl, rfl⟩

/-- So such an event changes nothing about what a request waits for. -/
theorem ownActiveUnknown_kept (hsided : state.WellSided) (h : reduce state event = .ok after)
    (hretry : retryOf event = none) (hunknown : OwnActiveUnknown state) :
    OwnActiveUnknown after := by
  intro ourSide hside
  rw [(beside_kept h hretry).2.1] at hside
  rw [Option.eq_none_iff_forall_ne_some]
  intro nickname hactive
  obtain ⟨i, rfl⟩ := exists_side_of_activeNickname hactive
  have hnobody := activeNickname_eq_none.mp (hunknown i.id hside)
  have hstill := activeNickname_eq_none.mpr (nobodyEnters hsided h hretry i hnobody)
  rw [hstill] at hactive
  cases hactive

theorem waitsForActive_kept (hsided : state.WellSided) (h : reduce state event = .ok after)
    (hretry : retryOf event = none) (hwaits : WaitsForActive request state) :
    WaitsForActive request after := by
  obtain ⟨-, hside, hgeneration, hgameType, htier⟩ := beside_kept h hretry
  have hafter : after.ourSide = some request.sideId := hside.trans hwaits.side
  constructor
  · exact hafter
  · rw [hgeneration]
    exact hwaits.generation
  · rw [hgameType]
    exact hwaits.gameType
  · rw [htier]
    exact hwaits.tier
  · exact hwaits.needsActive
  · exact ownActiveUnknown_kept hsided h hretry hwaits.ownActiveUnknown request.sideId hafter

end States

/-! ## §3 What a line does to the pending request -/

/-- The state is the old one, or the old one after an event. -/
def Observes (state after : ObservedState) : Prop :=
  after = state ∨ ∃ event, reduce state event = .ok after

/-- What a line does to the pending request. -/
inductive PendingStep (s t : BattleSession) : Prop where
  | resolved (h : t.pendingRequest = none)
  /-- The line is no reason to look at the request. -/
  | kept (hpending : t.pendingRequest = s.pendingRequest) (hdone : t.done = s.done)
      (hstate : t.state = s.state ∨
        ∃ event, reduce s.state event = .ok t.state ∧ retryOf event = none)
  /-- The request was looked at, and has to wait. -/
  | looked (request : DecisionRequest) (hpending : t.pendingRequest = some request)
      (hwaits : t.state.battleStarted = true → WaitsForActive request t.state)
  /-- The record of the request that a fresh one supersedes has ended the session. -/
  | cutOff (hdone : t.done = true) (hstate : t.state = s.state)
      (hpending : s.pendingRequest.isSome)

structure LineStep (s t : BattleSession) : Prop where
  state : Observes s.state t.state
  pending : PendingStep s t

section Methods

variable [Rfc8785] [Python.UnicodeDatabase] {env : Environment} {s t : BattleSession}
  {request : DecisionRequest}

omit [Python.UnicodeDatabase] in
/-- The request is answered, or the exception leaves the state as it is. -/
theorem sendCommand_resolves (env : Environment) (s : BattleSession) (request : DecisionRequest)
    (authorized : BattleSubmission) (command : String) :
    Satisfies (fun t => t.pendingRequest = none ∧ t.state = s.state)
      (fun raised => raised.session.state = s.state)
      (s.sendCommand env request authorized command) := by
  unfold sendCommand
  simp only
  split
  · next err _ =>
    obtain ⟨t, hkeeps, heq⟩ := refuse_eq env (s.enter (.sendRoom ⟨request, authorized, command,
      s.state, s.submittedRequest.map fun identity => identity.rqid,
      env.sendRoom (sends s.log) command⟩)) err .sendFailed (sendErrorCode err) (some authorized)
    rw [heq]
    exact .error hkeeps.state
  · refine .ok ?_
    rw [countSubmission_eq]
    generalize hu : (BattleSession.mk ..) = u
    have hkeeps := finalizePending_keepsCourse env u .submitted none (some authorized)
    rw [hkeeps.pendingRequest, hkeeps.state, ← hu]
    exact ⟨rfl, rfl⟩

/-- An accepted request does not stay pending. -/
theorem submit_resolves (env : Environment) (s : BattleSession)
    (hidentity : request.safeSubmissions.requestIdentity = request.identity) :
    Satisfies (fun t => t.pendingRequest = none ∧ t.state = s.state)
      (fun raised => raised.session.state = s.state) (s.submit env request) := by
  have hrefuse : ∀ error status errorCode selected,
      Satisfies (fun t : BattleSession => t.pendingRequest = none ∧ t.state = s.state)
        (fun raised => raised.session.state = s.state)
        (s.refuse env error status errorCode selected) := by
    intro error status errorCode selected
    obtain ⟨t, hkeeps, heq⟩ := refuse_eq env s error status errorCode selected
    rw [heq]
    exact .error hkeeps.state
  have houtcome := submit_outcome env s hidentity
  generalize s.submit env request = answer at houtcome
  cases houtcome with
  | known hknown => exact .ok ⟨rfl, rfl⟩
  | noop hkind =>
    have hkeeps := finalizePending_keepsCourse env ({ s with
      submittedRequest := some request.identity
      pendingRequest := none } : BattleSession) .waitNoop none none
    exact .ok ⟨hkeeps.pendingRequest, hkeeps.state⟩
  | policyRefused text hkind hpolicy => exact hrefuse _ _ _ _
  | policyRaised err hkind hpolicy hother => exact .error rfl
  | gateRejected candidate text hkind hpolicy hnot => exact hrefuse _ _ _ _
  | sent candidate text hkind hpolicy hmem htext => exact sendCommand_resolves env s request _ _

/-- A look at the pending request resolves it, or finds that it has to wait. A strict look does
not let it wait. -/
theorem retryPending_looks (h : Orderly env s) (reason : String) (strict : Bool) :
    Satisfies (fun t => t.state = s.state ∧ (t.pendingRequest = none ∨ strict = false ∧
        ∃ request, t.pendingRequest = some request ∧
          (t.state.battleStarted = true → WaitsForActive request t.state)))
      (fun raised => raised.session.state = s.state) (s.retryPending env reason strict) := by
  cases hpending : s.pendingRequest with
  | none =>
    have heq : s.retryPending env reason strict = .ok s := by
      simp only [retryPending, hpending]
    rw [heq]
    exact .ok ⟨rfl, .inl hpending⟩
  | some request =>
    have hwell := (h.pending request hpending).wellFormed
    have houtcome := retryPending_outcome env s hpending hwell reason strict
    generalize s.retryPending env reason strict = answer at houtcome
    cases houtcome with
    | rejected result message hresult hstatus hwhy =>
      obtain ⟨t, hkeeps, heq⟩ := refuse_eq env s (.requestStateReconciliationMismatch message)
        .reconciliationRejected .requestStateReconciliationMismatch none
      rw [rejectReconciliation, heq]
      exact .error hkeeps.state
    | waiting result hresult hstatus hstrict hactive =>
      refine .ok ⟨rfl, .inr ⟨hstrict, request, hpending, fun hstarted => ?_⟩⟩
      obtain ⟨other, hother, hspeaks⟩ := reconcile_speaks hwell s.state
        (s.submittedRequest.map fun identity => identity.rqid)
      obtain rfl := Except.ok.inj (hother.symm.trans hresult)
      simp only [Speaks, hstatus] at hspeaks
      exact (hactive hstarted ▸ hspeaks.1).waitsForActive
    | undigested result err hresult hstatus htrace hdigest => exact .error rfl
    | answered result t hresult hstatus ht =>
      have hsame : t.state = s.state := by
        rcases ht with ⟨-, rfl⟩ | ⟨stateDigest, -, rfl⟩ <;> rfl
      refine (submit_resolves env t hwell.safeIdentity).mono (fun u hu => ?_) fun raised hu => ?_
      · exact ⟨hu.2.trans hsame, .inl hu.1⟩
      · exact hu.trans hsame

/-! ## §4 Lines -/

omit [Rfc8785] in
theorem reduce_of_observeEvent {state after : ObservedState} {event : BattleEvent}
    {parsed : Except PyException BattleEvent}
    (h : observeEvent state parsed = .ok (event, after)) :
    parsed = .ok event ∧ reduce state event = .ok after := by
  cases hparsed : parsed with
  | error err =>
    rw [hparsed] at h
    cases h
  | ok other =>
    cases hreduce : reduce state other with
    | error err =>
      rw [hparsed] at h
      simp only [observeEvent, bind, Except.bind, hreduce, Except.mapError] at h
      cases h
    | ok next =>
      rw [hparsed] at h
      simp only [observeEvent, bind, Except.bind, hreduce, Except.mapError, pure, Except.pure] at h
      obtain ⟨rfl, rfl⟩ := Prod.mk.inj (Except.ok.inj h)
      exact ⟨rfl, hreduce⟩

omit [Rfc8785] in
/-- A timer message is no reason to look. -/
theorem retryOf_inactiveLine {payload : String} {index : Int} {event : BattleEvent}
    (h : parseInactiveLine payload index = .ok event) : retryOf event = none := by
  simp only [parseInactiveLine] at h
  split_ifs at h
  · cases h
    rfl
  · cases h
    rfl

/-- What holds of every line, with what an exception leaves of the state. -/
def KeepsPending (s : BattleSession) (result : Except Raised BattleSession) : Prop :=
  Satisfies (LineStep s) (fun raised => Observes s.state raised.session.state) result

omit [Rfc8785] [Python.UnicodeDatabase] in
theorem fail_keepsPending (s : BattleSession) (error : PyException) :
    KeepsPending s (s.fail error) := .error (.inl rfl)

theorem processBattleEvent_keepsPending (h : Orderly env s) (payload : String) :
    KeepsPending s (s.processBattleEvent env payload) := by
  unfold processBattleEvent
  split
  · exact fail_keepsPending s _
  · next event state hobserved =>
    obtain ⟨-, hreduce⟩ := reduce_of_observeEvent hobserved
    have hobserves : Observes s.state state := .inr ⟨event, hreduce⟩
    simp only
    split_ifs
    · have hkeeps := finalizePending_keepsCourse env
        (({ s with state := state } : BattleSession).enter .battleEnd) .terminallyDiscarded none none
      refine .ok ⟨?_, .resolved rfl⟩
      show Observes s.state (finalizePending env _ _ _ _).state
      rw [hkeeps.state]
      exact hobserves
    · split
      · refine (retryPending_looks (h.observe state) _ _).mono (fun t ht => ?_) fun raised hraised => ?_
        · obtain ⟨hstate, hlooked⟩ := ht
          have hthis : Observes s.state t.state := hstate ▸ hobserves
          rcases hlooked with hnone | ⟨-, request, hpending, hwaits⟩
          · exact ⟨hthis, .resolved hnone⟩
          · exact ⟨hthis, .looked request hpending hwaits⟩
        · exact hraised ▸ hobserves
      · next hretry => exact .ok ⟨hobserves, .kept rfl rfl (.inr ⟨event, hreduce, hretry⟩)⟩

omit [Python.UnicodeDatabase] in
/-- The record of a superseded request can end the session only if there was one. -/
theorem acceptFresh_cutOff (h : Settled env s) (hdone : s.done = false)
    (hcut : (s.acceptFresh env request).done = true) : s.pendingRequest.isSome := by
  have hfinal : Finalized env s .supersededBeforeSelection none
      (s.finalizePending env .supersededBeforeSelection none none) :=
    finalizePending_outcome env s
      (fun pending hpending => (h.traced pending hpending).toRecordable) rfl
  have hdoneFinal : (s.finalizePending env .supersededBeforeSelection none none).done = true := hcut
  generalize s.finalizePending env .supersededBeforeSelection none none = t at hfinal hdoneFinal
  cases hfinal with
  | idle hnone =>
    rw [hdone] at hdoneFinal
    cases hdoneFinal
  | unwritten hwhy =>
    have hstill : s.done = true := hdoneFinal
    rw [hdone] at hstill
    cases hstill
  | written pending record hpending hhealthy hrecord hindex hstatus hselected =>
    rw [Option.isSome_iff_ne_none]
    intro hnoRequest
    have hcontext : env.decisionRecordContext.isSome := by
      rw [Option.isSome_iff_ne_none]
      intro hnoContext
      rw [h.untraced hnoContext] at hpending
      cases hpending
    -- the trace belongs to a request without a record, which is the pending one
    have hopen := h.closed hdone hcontext hnoRequest
    rw [(h.traced pending hpending).unrecorded] at hopen
    cases hopen

/-- Opening a trace does not end the session. -/
theorem openTrace_done (h : s.openTrace env request = .ok t) : t.done = s.done := by
  unfold openTrace at h
  split_ifs at h
  · cases h
    rfl
  · split at h
    · cases h
    · split at h
      · cases h
      · cases h
        rfl

variable [JsonDecoder]

theorem processRequest_keepsPending (h : Settled env s) (horderly : Orderly env s)
    (hdone : s.done = false) (payload : String) :
    KeepsPending s (s.processRequest env payload) := by
  unfold processRequest
  split
  · exact fail_keepsPending s _
  · next request hread =>
    split
    · exact fail_keepsPending s _
    · exact .ok ⟨.inl rfl, .kept rfl rfl (.inl rfl)⟩
    · next hfresh =>
      have hstate := state_acceptFresh env s request
      have hordered := acceptFresh_orderly horderly.toOrderlyLog (readRequest_wellFormed hread) hfresh
      have hcut : (s.acceptFresh env request).done = true → s.pendingRequest.isSome :=
        acceptFresh_cutOff h hdone
      have hopened : Satisfies
          (fun t => KeepsCourse (s.acceptFresh env request) t ∧
            (t.done = true → s.pendingRequest.isSome))
          (fun raised => Observes s.state raised.session.state)
          ((s.acceptFresh env request).openTrace env request) := by
        have hcourse := openTrace_keepsCourse env (s.acceptFresh env request) request
        refine ⟨fun heq => ⟨hcourse.of_ok heq, fun htDone => hcut ?_⟩, fun heq => .inl ?_⟩
        · exact (openTrace_done heq).symm.trans htDone
        · rw [hcourse.of_error heq]
          exact hstate
      refine hopened.bind fun t ht => ?_
      obtain ⟨hkeeps, hended⟩ := ht
      have hsame : t.state = s.state := hkeeps.state.trans hstate
      refine .ite (fun htDone => .ok ?_) fun hnot => ?_
      · exact ⟨.inl hsame, .cutOff htDone hsame (hended htDone)⟩
      · refine (retryPending_looks (hordered.congr hkeeps) _ _).mono (fun u hu => ?_)
          fun raised hraised => ?_
        · obtain ⟨hu, hlooked⟩ := hu
          have hthis : Observes s.state u.state := .inl (hu.trans hsame)
          rcases hlooked with hnone | ⟨-, request, hpending, hwaits⟩
          · exact ⟨hthis, .resolved hnone⟩
          · exact ⟨hthis, .looked request hpending hwaits⟩
        · exact .inl (hraised.trans hsame)

theorem processLine_keepsPending (h : Settled env s) (horderly : Orderly env s)
    (hdone : s.done = false) (payload : String) : KeepsPending s (s.processLine env payload) := by
  unfold processLine
  split
  · exact processBattleEvent_keepsPending horderly payload
  · exact processRequest_keepsPending h horderly hdone payload
  · exact fail_keepsPending s _
  · unfold processTimer
    split
    · exact fail_keepsPending s _
    · next event state hobserved =>
      obtain ⟨hparsed, hreduce⟩ := reduce_of_observeEvent hobserved
      have hretry := retryOf_inactiveLine hparsed
      exact .ok ⟨.inr ⟨event, hreduce⟩, .kept rfl rfl (.inr ⟨event, hreduce, hretry⟩)⟩
  · exact .ok ⟨.inl rfl, .kept rfl rfl (.inl rfl)⟩
  · exact fail_keepsPending s _

/-- The step lemma: an exception takes the pending request along. -/
theorem feed_lineStep (h : Settled env s) (horderly : Orderly env s) (line : RoomLine) :
    LineStep s (s.feed env line) := by
  unfold feed
  split_ifs with hdone hroom
  · exact ⟨.inl rfl, .kept rfl rfl (.inl rfl)⟩
  · exact ⟨.inl rfl, .kept rfl rfl (.inl rfl)⟩
  have hline := processLine_keepsPending h horderly (by simpa using hdone) line.payload
  cases hresult : s.processLine env line.payload with
  | ok t => exact hline.of_ok hresult
  | error raised =>
    have hstate : (raised.session.abort env raised.error).state = raised.session.state :=
      (finalizeAborted_keepsCourse env
        ((raised.session.notePrimary raised.error).enter (.abort raised.error)) raised.error).state
    refine ⟨?_, .resolved rfl⟩
    show Observes s.state (raised.session.abort env raised.error).state
    rw [hstate]
    exact hline.of_error hresult

/-- The line that makes our pokemon active leaves no request pending. -/
theorem bringsIn_resolves (h : Orderly env s) (hdone : s.done = false) {line : RoomLine}
    {nickname : String} {after : ObservedState} (hpending : s.pendingRequest = some request)
    (hbrings : BringsIn env s line request.sideId nickname after)
    (hstarted : after.battleStarted = true) : (s.feed env line).pendingRequest = none := by
  obtain ⟨reason, hfeed⟩ := feed_of_bringsIn hdone hbrings
  have hwell := (h.pending request hpending).wellFormed
  have houtcome := retryPending_outcome env { s with state := after } hpending hwell reason false
  rw [hfeed]
  generalize ({ s with state := after } : BattleSession).retryPending env reason false = answer
    at houtcome
  cases houtcome with
  | rejected result message hresult hstatus hwhy =>
    obtain ⟨t, -, heq⟩ := refuse_eq env { s with state := after }
      (.requestStateReconciliationMismatch message) .reconciliationRejected
      .requestStateReconciliationMismatch none
    rw [rejectReconciliation, heq]
    rfl
  | waiting result hresult hstatus hstrict hactive =>
    obtain ⟨other, hother, hspeaks⟩ := reconcile_speaks hwell after
      (s.submittedRequest.map fun identity => identity.rqid)
    obtain rfl := Except.ok.inj (hother.symm.trans hresult)
    simp only [Speaks, hstatus] at hspeaks
    have hunknown := (hactive hstarted ▸ hspeaks.1).waitsForActive.unknown
    rw [hbrings.active] at hunknown
    cases hunknown
  | undigested result err hresult hstatus htrace hdigest => rfl
  | answered result t hresult hstatus ht =>
    have hresolves := submit_resolves env t hwell.safeIdentity
    cases hsubmit : t.submit env request with
    | error raised => rfl
    | ok u => exact (hresolves.of_ok hsubmit).1

/-- The start of the battle or of a turn leaves no request pending in a session that goes on. -/
theorem boundary_resolves (h : Orderly env s) {line : RoomLine} {event : BattleEvent}
    (hroom : line.roomId = some env.roomId)
    (hkind : classifyRoomPayload line.payload = .battleEvent)
    (hparsed : parseBattleLine line.payload (s.state.eventIndex + 1) (some env.roomId) = .ok event)
    (hboundary : event.isBoundary = true) :
    (s.feed env line).done = true ∨ (s.feed env line).pendingRequest = none := by
  unfold feed
  by_cases hdone : s.done = true
  · rw [if_pos hdone]
    exact .inl hdone
  rw [if_neg hdone, if_neg (not_not.mpr hroom)]
  simp only [processLine, hkind]
  cases hresult : s.processBattleEvent env line.payload with
  | error raised => exact .inl rfl
  | ok t =>
    right
    show t.pendingRequest = none
    unfold processBattleEvent at hresult
    split at hresult
    · cases hresult
    · next other state hobserved =>
      obtain ⟨hsame, -⟩ := reduce_of_observeEvent hobserved
      obtain rfl := Except.ok.inj (hparsed.symm.trans hsame)
      obtain ⟨hends, reason, hretry⟩ : endsBattle event = false ∧ ∃ reason,
          retryOf event = some (reason, true) := by
        cases event with
        | battleStarted event => exact ⟨rfl, _, rfl⟩
        | turnStarted event => exact ⟨rfl, _, rfl⟩
        | _ => cases hboundary
      simp only [hends, hretry] at hresult
      obtain ⟨-, hnone | ⟨hstrict, -⟩⟩ := (retryPending_looks (h.observe state) reason true).of_ok hresult
      · exact hnone
      · cases hstrict

/-! ## §5 Runs -/

/-- What holds of the pending request once the battle has started. -/
def WaitsRightly (s : BattleSession) : Prop :=
  ∀ request, s.pendingRequest = some request → s.state.battleStarted = true →
    OwnActiveUnknown s.state ∧ (s.done = false → WaitsForActive request s.state)

omit [Rfc8785] [Python.UnicodeDatabase] [JsonDecoder] in
theorem LineStep.waitsRightly (hstep : LineStep s t) (hsided : s.state.WellSided)
    (h : WaitsRightly s) : WaitsRightly t := by
  intro request hrequest hstarted
  cases hstep.pending with
  | resolved hnone =>
    rw [hnone] at hrequest
    cases hrequest
  | kept hpending hdone hstate =>
    rw [hpending] at hrequest
    rw [hdone]
    rcases hstate with hsame | ⟨event, hreduce, hretry⟩
    · rw [hsame] at hstarted ⊢
      exact h request hrequest hstarted
    · rw [(beside_kept hreduce hretry).1] at hstarted
      obtain ⟨hunknown, hwaits⟩ := h request hrequest hstarted
      exact ⟨ownActiveUnknown_kept hsided hreduce hretry hunknown,
        fun hrunning => waitsForActive_kept hsided hreduce hretry (hwaits hrunning)⟩
  | looked other hpending hwaits =>
    obtain rfl := Option.some.inj (hpending.symm.trans hrequest)
    exact ⟨(hwaits hstarted).ownActiveUnknown, fun _ => hwaits hstarted⟩
  | cutOff hdone hstate hpending =>
    -- the superseded request was waiting for the same pokemon
    obtain ⟨old, hold⟩ := Option.isSome_iff_exists.mp hpending
    rw [hstate] at hstarted ⊢
    refine ⟨(h old hold hstarted).1, fun hrunning => ?_⟩
    rw [hdone] at hrunning
    cases hrunning

omit [Rfc8785] [Python.UnicodeDatabase] [JsonDecoder] in
theorem LineStep.wellSided (hstep : LineStep s t) (hsided : s.state.WellSided) :
    t.state.WellSided := by
  rcases hstep.state with hsame | ⟨event, hreduce⟩
  · rw [hsame]
    exact hsided
  · exact (reduce_step hsided hreduce).2.2.1

theorem feedAll_waitsRightly (h : Settled env s) (horderly : Orderly env s)
    (hsided : s.state.WellSided) (hwaits : WaitsRightly s) (lines : List RoomLine) :
    WaitsRightly (s.feedAll env lines) := by
  induction lines generalizing s with
  | nil => exact hwaits
  | cons line rest ih =>
    have hstep := feed_lineStep h horderly line
    exact ih (feed_settled h horderly line) (feed_orderly horderly line) (hstep.wellSided hsided)
      (hstep.waitsRightly hsided hwaits)

/-- The request was found to wait for its pokemon after some of the lines, and is pending since. -/
def LookedAt (env : Environment) (s : BattleSession) (lines : List RoomLine)
    (request : DecisionRequest) : Prop :=
  ∃ before rest, lines = before ++ rest ∧
    (s.feedAll env before).pendingRequest = some request ∧
    WaitsForActive request (s.feedAll env before).state

theorem feedAll_lookedAt (h : Settled env s) (horderly : Orderly env s)
    (hidle : s.pendingRequest = none) (lines : List RoomLine)
    (hpending : (s.feedAll env lines).pendingRequest = some request)
    (hstarted : (s.feedAll env lines).state.battleStarted = true)
    (hrunning : (s.feedAll env lines).done = false) : LookedAt env s lines request := by
  induction lines using List.reverseRecOn with
  | nil =>
    rw [show s.feedAll env [] = s from rfl, hidle] at hpending
    cases hpending
  | append_singleton lines line ih =>
    have hstep := feed_lineStep (feedAll_settled h horderly lines) (feedAll_orderly horderly lines) line
    have hlast : s.feedAll env (lines ++ [line]) = (s.feedAll env lines).feed env line :=
      feedAll_concat env s lines line
    rw [hlast] at hpending hstarted hrunning
    cases hstep.pending with
    | resolved hnone =>
      rw [hnone] at hpending
      cases hpending
    | kept hkept hdone hstate =>
      rw [hkept] at hpending
      rw [hdone] at hrunning
      have hstartedBefore : (s.feedAll env lines).state.battleStarted = true := by
        rcases hstate with hsame | ⟨event, hreduce, hretry⟩
        · exact hsame ▸ hstarted
        · exact (beside_kept hreduce hretry).1 ▸ hstarted
      obtain ⟨before, rest, rfl, hlook⟩ := ih hpending hstartedBefore hrunning
      exact ⟨before, rest ++ [line], List.append_assoc .., hlook⟩
    | looked other hother hwaits =>
      obtain rfl := Option.some.inj (hother.symm.trans hpending)
      refine ⟨lines ++ [line], [], (List.append_nil _).symm, ?_⟩
      rw [hlast]
      exact ⟨hother, hwaits hstarted⟩
    | cutOff hdone hstate hold =>
      rw [hdone] at hrunning
      cases hrunning

/-- A request can be pending at the end of a run only where the connection has not raised. -/
theorem feedAll_of_pending {lines : List RoomLine} {ending : Option PyException}
    (h : (s.run env lines ending).pendingRequest = some request) :
    s.run env lines ending = s.feedAll env lines := by
  cases ending with
  | none => rfl
  | some error =>
    have hcases : s.run env lines (some error) =
        if (s.feedAll env lines).done then s.feedAll env lines
        else ((s.feedAll env lines).occur error).abort env error := rfl
    rw [hcases] at h ⊢
    split_ifs at h ⊢
    · rfl
    · cases h

/-- **Pending requests.** After a line that starts the battle or a turn, the session has ended or no
request is pending. A request that stays pending once the battle has started was looked at when the
pokemon that it is for was all that the reconciler still missed; and in a state whose sides are in
their places that pokemon is still all that it misses. Where a failure to write a record has ended
the session, nobody of our side is known to be on the field either. -/
theorem pending_resolved (env : Environment) (initialState : ObservedState)
    (lines : List RoomLine) (ending : Option PyException) :
    let start := BattleSession.initial initialState
    let session := start.run env lines ending
    (∀ line event, line.roomId = some env.roomId →
      classifyRoomPayload line.payload = .battleEvent →
      parseBattleLine line.payload ((start.feedAll env lines).state.eventIndex + 1)
        (some env.roomId) = .ok event →
      event.isBoundary = true →
        (start.feedAll env (lines ++ [line])).done = true ∨
          (start.feedAll env (lines ++ [line])).pendingRequest = none) ∧
      (∀ request, session.pendingRequest = some request → session.state.battleStarted = true →
        session.done = false → LookedAt env start lines request) ∧
      (initialState.WellSided → ∀ request, session.pendingRequest = some request →
        session.state.battleStarted = true → OwnActiveUnknown session.state ∧
          (session.done = false → WaitsForActive request session.state)) := by
  intro start session
  have hsettled : Settled env start := settled_initial env initialState
  have horderly : Orderly env start := orderly_initial env initialState
  refine ⟨?_, ?_, ?_⟩
  · intro line event hroom hkind hparsed hboundary
    rw [feedAll_concat]
    exact boundary_resolves (feedAll_orderly horderly lines) hroom hkind hparsed hboundary
  · intro request hpending hstarted hrunning
    have hsession : session = start.feedAll env lines := feedAll_of_pending hpending
    rw [hsession] at hpending hstarted hrunning
    exact feedAll_lookedAt hsettled horderly rfl lines hpending hstarted hrunning
  · intro hsided request hpending hstarted
    have hsession : session = start.feedAll env lines := feedAll_of_pending hpending
    rw [hsession] at hpending hstarted ⊢
    exact feedAll_waitsRightly hsettled horderly hsided nofun lines request hpending hstarted

end Methods

/-- Garchomp's request waits for Garchomp, but not into the next turn. -/
theorem garchomp_pending :
    letI := Python.asciiDatabase
    letI := garchompDecoder
    letI := compactCanonicalizer
    ∃ start session turn, start = BattleSession.initial (ObservedState.initial "ash") ∧
      session = start.run heuristicEnvironment (metadata ++ [garchompLine]) none ∧
      turn = start.feedAll heuristicEnvironment
        (metadata ++ [garchompLine] ++ [ourLine "|turn|1"]) ∧
      WaitsForActive garchompRequest session.state ∧
      LookedAt heuristicEnvironment start (metadata ++ [garchompLine]) garchompRequest ∧
      (turn.done = true ∨ turn.pendingRequest = none) := by
  let _ := Python.asciiDatabase
  let _ := garchompDecoder
  let _ := compactCanonicalizer
  have hevaluates : ∃ arrival, (BattleSession.initial (ObservedState.initial "ash")).feedAll
        heuristicEnvironment metadata = arrival ∧
      (arrival.done = false ∧ arrival.latestRequest = none) ∧
      FitsGarchomp arrival.state ∧ arrival.state.activeNickname "p1" = none ∧
        arrival.state.eventIndex = 6 ∧ arrival.state.battleStarted = true := by
    refine ⟨_, rfl, ?_⟩
    decide +kernel
  have hturn : classifyRoomPayload "|turn|1" = .battleEvent := by
    decide +kernel
  have hparsed : parseBattleLine "|turn|1" 7 (some "battle-gen9ou-1") =
      .ok (.turnStarted ⟨7, 1⟩) := by
    decide +kernel
  have hcontext : heuristicEnvironment.decisionRecordContext = none := rfl
  have horderly := feedAll_orderly (orderly_initial heuristicEnvironment
    (ObservedState.initial "ash")) metadata
  obtain ⟨hboundary, hlook, hwaits⟩ := pending_resolved heuristicEnvironment
    (ObservedState.initial "ash") (metadata ++ [garchompLine]) none
  have hafter := hboundary (ourLine "|turn|1") (.turnStarted ⟨7, 1⟩) rfl hturn
  obtain ⟨arrival, harrival, ⟨hdone, hlatest⟩, hfits, hactive, hindex, hstarted⟩ := hevaluates
  rw [harrival] at horderly
  -- the arrival is followed by the lemma for it, and not by evaluation
  obtain ⟨hfeed, hwaiting, -⟩ := arrival_waits horderly (garchompLine_arrives rfl hdone hlatest) rfl
    hfits.formatFits hactive (openTrace_unrecorded hcontext _ garchompRequest)
    ((done_acceptFresh hcontext arrival _).trans hdone)
  have hstate : (arrival.acceptFresh heuristicEnvironment garchompRequest).state = arrival.state :=
    state_acceptFresh heuristicEnvironment arrival garchompRequest
  generalize arrival.acceptFresh heuristicEnvironment garchompRequest = session
    at hfeed hwaiting hstate
  have hsession : (BattleSession.initial (ObservedState.initial "ash")).feedAll
      heuristicEnvironment (metadata ++ [garchompLine]) = session := by
    rw [feedAll_concat, harrival]
    exact hfeed
  have hrun : (BattleSession.initial (ObservedState.initial "ash")).run heuristicEnvironment
      (metadata ++ [garchompLine]) none = session := hsession
  rw [← hstate] at hindex hstarted
  rw [hsession, hindex] at hafter
  rw [hrun] at hlook hwaits
  refine ⟨_, session, _, rfl, hrun.symm, rfl, ?_, ?_, hafter hparsed rfl⟩
  · exact (hwaits (ObservedState.wellSided_initial "ash") garchompRequest hwaiting.pending
      hstarted).2 hwaiting.running
  · exact hlook garchompRequest hwaiting.pending hstarted hwaiting.running

end BattleBelief
