import BattleBelief.Session.Settlement
import BattleBelief.Setup.Handoff

/-!
# The Conversation of a Client

A run of the coordinator says the commands of the setup to the server, and then the answers of its
session. Nobody checks on the wire who is to speak. That the client answers nothing but what it was
asked, in the room of its challenge, is a property of coordinator and session together.

## Main results

- `run_requested`: the fresh requests of a session were read from its lines
- `sent_of_returned`: a room is found only once all commands of the setup are sent
- `conversation_warranted`: whatever the socket delivers, each answer is one that a request of the
  server offers, and no request has two of them
-/

namespace BattleBelief

open Runs Outcomes BattleSession

/-! ## §1 The requests of a session -/

/-- No request has become fresh between `s` and `t`. -/
def SameRequests (s t : BattleSession) : Prop := freshRequests t.log = freshRequests s.log

/-- The outcome of a method that takes no request. -/
def TakesNoRequest (s : BattleSession) (result : Except Raised BattleSession) : Prop :=
  Satisfies (SameRequests s) (fun raised => SameRequests s raised.session) result

/-- A line of the room that the server asks this with. -/
structure Asks [Python.UnicodeDatabase] [JsonDecoder] [Rfc8785] (roomId : String) (line : RoomLine)
    (request : DecisionRequest) : Prop where
  room : line.roomId = some roomId
  kind : classifyRoomPayload line.payload = .decisionRequest
  reads : readRequest roomId (Python.dropChars line.payload 9) = .ok request

section Methods

variable {s t : BattleSession}

theorem SameRequests.takes {result : Except Raised BattleSession} (h : SameRequests s t)
    (hresult : TakesNoRequest t result) : TakesNoRequest s result :=
  hresult.mono (fun _ hu => hu.trans h) fun _ hraised => hraised.trans h

theorem fail_takesNoRequest (s : BattleSession) (error : PyException) :
    TakesNoRequest s (s.fail error) := .error rfl

variable [Rfc8785]

theorem finalizePending_sameRequests (env : Environment) (s : BattleSession)
    (status : DecisionRecordStatus) (errorCode : Option DecisionRecordErrorCode)
    (selected : Option BattleSubmission) :
    SameRequests s (s.finalizePending env status errorCode selected) :=
  (finalizePending_keepsCourse env s status errorCode selected).freshRequests

theorem refuse_takesNoRequest (env : Environment) (s : BattleSession) (error : PyException)
    (status : DecisionRecordStatus) (errorCode : DecisionRecordErrorCode)
    (selected : Option BattleSubmission) :
    TakesNoRequest s (s.refuse env error status errorCode selected) :=
  .error (finalizePending_sameRequests env _ _ _ _)

theorem sendCommand_takesNoRequest (env : Environment) (s : BattleSession)
    (request : DecisionRequest) (authorized : BattleSubmission) (command : String) :
    TakesNoRequest s (s.sendCommand env request authorized command) := by
  have hentered : ∀ attempt, SameRequests s (s.enter (.sendRoom attempt)) := fun _ => rfl
  unfold sendCommand
  simp only
  split
  · exact (hentered _).takes (refuse_takesNoRequest env _ _ _ _ _)
  · simp only [countSubmission_eq]
    exact .ok (finalizePending_sameRequests env _ _ _ _)

variable [Python.UnicodeDatabase]

/-- No answer takes a request. -/
theorem submit_takesNoRequest (env : Environment) (s : BattleSession) (request : DecisionRequest) :
    TakesNoRequest s (s.submit env request) := by
  unfold submit
  split_ifs
  · exact .ok rfl
  · exact .ok (finalizePending_sameRequests env _ _ _ _)
  · split
    · split
      · exact refuse_takesNoRequest env s _ _ _ _
      · exact fail_takesNoRequest s _
    · unfold submitCandidate
      split
      · split
        · exact refuse_takesNoRequest env s _ _ _ _
        · exact fail_takesNoRequest s _
      · split
        · exact refuse_takesNoRequest env s _ _ _ _
        · exact sendCommand_takesNoRequest env s _ _ _

theorem retryPending_takesNoRequest (env : Environment) (s : BattleSession) (reason : String)
    (strict : Bool) : TakesNoRequest s (s.retryPending env reason strict) := by
  unfold retryPending
  split
  · exact .ok rfl
  · simp only
    split
    · exact fail_takesNoRequest s _
    · split
      · exact refuse_takesNoRequest env s _ _ _ _
      · split_ifs
        · exact refuse_takesNoRequest env s _ _ _ _
        · exact .ok rfl
      · -- the state digest of the pending trace is brought up to date first
        have hrefreshed : TakesNoRequest s s.refreshPendingTraceState := by
          unfold refreshPendingTraceState
          split
          · exact .ok rfl
          · split
            · exact fail_takesNoRequest s _
            · exact .ok rfl
        exact hrefreshed.bind fun t ht => ht.takes (submit_takesNoRequest env t _)

theorem processBattleEvent_takesNoRequest (env : Environment) (s : BattleSession) (payload : String) :
    TakesNoRequest s (s.processBattleEvent env payload) := by
  unfold processBattleEvent
  split
  · exact fail_takesNoRequest s _
  · next event state _ =>
    have hobserved : SameRequests s { s with state := state } := rfl
    simp only
    split_ifs
    · exact .ok (finalizePending_sameRequests env (({ s with state := state } :
        BattleSession).enter .battleEnd) _ _ _)
    · split
      · exact hobserved.takes (retryPending_takesNoRequest env _ _ _)
      · exact .ok rfl

omit [Python.UnicodeDatabase] in
/-- Whatever an exception was raised with, an aborted session has taken no request since. -/
theorem settle_requests (env : Environment) {P : BattleSession → Prop}
    (hsame : ∀ t u, SameRequests t u → P t → P u) {result : Except Raised BattleSession}
    (h : Satisfies P (fun raised => P raised.session) result) : P (settle env result) := by
  cases result with
  | ok t => exact h.of_ok rfl
  | error raised =>
    apply hsame raised.session _ _ (h.of_error rfl)
    exact (finalizeAborted_keepsCourse env ((raised.session.notePrimary raised.error).enter
      (.abort raised.error)) raised.error).freshRequests

variable [JsonDecoder]

/-- The requests of a session that has read another line. -/
def MayTake (env : Environment) (s : BattleSession) (line : RoomLine) (t : BattleSession) : Prop :=
  ∀ request ∈ freshRequests t.log, request ∈ freshRequests s.log ∨ Asks env.roomId line request

theorem SameRequests.mayTake {env : Environment} (h : SameRequests s t) (line : RoomLine) :
    MayTake env s line t := by
  intro request hrequest
  rw [h] at hrequest
  exact .inl hrequest

theorem TakesNoRequest.mayTake {env : Environment} {result : Except Raised BattleSession}
    (h : TakesNoRequest s result) (line : RoomLine) :
    Satisfies (MayTake env s line) (fun raised => MayTake env s line raised.session) result :=
  h.mono (fun _ ht => ht.mayTake line) fun _ hraised => hraised.mayTake line

/-- A request that becomes fresh is the one that its line asks. -/
theorem processRequest_mayTake {env : Environment} {line : RoomLine}
    (hroom : line.roomId = some env.roomId)
    (hkind : classifyRoomPayload line.payload = .decisionRequest) :
    Satisfies (MayTake env s line) (fun raised => MayTake env s line raised.session)
      (s.processRequest env line.payload) := by
  unfold processRequest
  split
  · exact (fail_takesNoRequest s _).mayTake line
  · next request hread =>
    split
    · exact (fail_takesNoRequest s _).mayTake line
    · exact .ok (SameRequests.mayTake rfl line)
    · have haccepted : MayTake env s line (s.acceptFresh env request) := by
        intro other hother
        rcases List.mem_cons.mp hother with rfl | hold
        · exact .inr ⟨hroom, hkind, hread⟩
        · rw [← finalizePending_sameRequests env s .supersededBeforeSelection none none]
          exact .inl hold
      have hsame : ∀ u, SameRequests (s.acceptFresh env request) u → MayTake env s line u := by
        intro u hu other hother
        rw [hu] at hother
        exact haccepted other hother
      have hopened : TakesNoRequest (s.acceptFresh env request)
          ((s.acceptFresh env request).openTrace env request) :=
        (openTrace_keepsCourse env (s.acceptFresh env request) request).mono
          (fun _ hkeeps => hkeeps.freshRequests) fun raised heq => by
            rw [heq]
            rfl
      have hretried : TakesNoRequest (s.acceptFresh env request) (do
          let t ← (s.acceptFresh env request).openTrace env request
          if t.done then .ok t else t.retryPending env "request received" false) := by
        refine hopened.bind fun t ht => ?_
        split_ifs
        · exact .ok ht
        · exact ht.takes (retryPending_takesNoRequest env t _ _)
      exact hretried.mono (fun u hu => hsame u hu) fun raised hraised => hsame _ hraised

/-- One line. -/
theorem feed_mayTake (env : Environment) (s : BattleSession) (line : RoomLine) :
    MayTake env s line (s.feed env line) := by
  unfold feed
  split_ifs with hdone hroom
  · exact SameRequests.mayTake rfl line
  · exact SameRequests.mayTake rfl line
  · rw [not_not] at hroom
    apply settle_requests env
    · intro t u hsame ht request hrequest
      rw [hsame] at hrequest
      exact ht request hrequest
    · unfold processLine
      cases hkind : classifyRoomPayload line.payload with
      | battleEvent => exact (processBattleEvent_takesNoRequest env s _).mayTake line
      | decisionRequest => exact processRequest_mayTake hroom hkind
      | battleError => exact (fail_takesNoRequest s _).mayTake line
      | timerMessage =>
        simp only
        unfold processTimer
        split
        · exact (fail_takesNoRequest s _).mayTake line
        · exact .ok (SameRequests.mayTake rfl line)
      | roomControlOrChat => exact .ok (SameRequests.mayTake rfl line)
      | unknown => exact (fail_takesNoRequest s _).mayTake line

/-- The requests of a session are those it had, and those that its lines ask. -/
theorem feedAll_requested (env : Environment) (s : BattleSession) (lines : List RoomLine) :
    ∀ request ∈ freshRequests (s.feedAll env lines).log,
      request ∈ freshRequests s.log ∨ ∃ line ∈ lines, Asks env.roomId line request := by
  induction lines generalizing s with
  | nil => exact fun request hrequest => .inl hrequest
  | cons line rest ih =>
    intro request hrequest
    rcases ih (s.feed env line) request hrequest with hfed | ⟨later, hlater, hasks⟩
    · rcases feed_mayTake env s line request hfed with hold | hasks
      · exact .inl hold
      · exact .inr ⟨line, List.mem_cons_self, hasks⟩
    · exact .inr ⟨later, List.mem_cons_of_mem _ hlater, hasks⟩

/-- Every fresh request of a run was read from one of its lines. -/
theorem run_requested (env : Environment) (state : ObservedState) (lines : List RoomLine)
    (ending : Option PyException) :
    ∀ request ∈ freshRequests ((BattleSession.initial state).run env lines ending).log,
      ∃ line ∈ lines, Asks env.roomId line request := by
  intro request hrequest
  have hlines : request ∈ freshRequests ((BattleSession.initial state).feedAll env lines).log := by
    unfold run at hrequest
    cases ending with
    | none => exact hrequest
    | some error =>
      simp only at hrequest
      split_ifs at hrequest
      · exact hrequest
      · -- the exception ends the session, and asks nothing
        have hsame := (finalizeAborted_keepsCourse env
          (((((BattleSession.initial state).feedAll env lines).occur error).notePrimary error).enter
            (.abort error)) error).freshRequests
        exact hsame ▸ hrequest
  rcases feedAll_requested env _ lines request hlines with hinitial | hasked
  · cases hinitial
  · exact hasked

end Methods

/-! ## §2 The setup -/

section Setup

variable [Python.UnicodeDatabase] [JsonDecoder]

/-- A room is found only once all commands of the setup are sent. -/
theorem sent_of_returned {coordinator : BattleCoordinator} {connection : BattleConnection}
    {candidate : RoomCandidate}
    (h : (coordinator.discover connection).halted.outcome = .returned candidate) :
    (coordinator.discover connection).halted.state.sent.reverse = coordinator.setupCommands := by
  unfold BattleCoordinator.discover at h ⊢
  cases hreader : ChallengeStateReader.create coordinator.ourUserId coordinator.opponentUserId
      "gen9ou" with
  | error error =>
    rw [hreader] at h
    cases h
  | ok reader =>
    rw [hreader] at h
    simp only at h ⊢
    have hstart := sendGlobal_satisfies connection DiscoveryState.initial
      s!"|/cmd userdetails {coordinator.ourUserId}"
    split at h
    · rename_i halted hsend
      obtain ⟨⟨error, houtcome⟩, -⟩ := hstart.of_error hsend
      cases houtcome.symm.trans h
    · rename_i state hsend
      have hinitial : Discovers coordinator [] state := by
        rw [hstart.of_ok hsend]
        refine ⟨fun _ => ⟨fun _ hline => (by cases hline), ?_, fun _ hsome => (by cases hsome), rfl, rfl⟩,
          fun hcomplete => (by cases hcomplete)⟩
        intro roomId hmem
        cases hmem
      rcases discoverLines_run coordinator connection reader state connection.lines with
        ⟨final, -, error, hend⟩ | ⟨past, line, final, halted, -, hrun, hlast, hend⟩
      · rw [hend] at h
        cases h
      · rw [hend] at h ⊢
        -- the room is returned after the barrier, where the commands are sent
        cases (readLine_outcome reader).of_error hlast with
        | raised error houtcome => cases houtcome.symm.trans h
        | answer error houtcome => cases houtcome.symm.trans h
        | returned roomId found houtcome hcomplete hroom hnew htake hmatch hsent =>
          rw [hsent, ((discovers_of_runs hinitial hrun).after hcomplete).sent, List.reverse_reverse]

end Setup

/-! ## §3 The conversation -/

/-- What is said in a run, oldest first: the commands of the setup, and the answers. -/
structure Conversation where
  setup : List String
  answers : List SendAttempt

section Runs

variable [Python.UnicodeDatabase] [JsonDecoder] [Rfc8785]

/-- What a run of the coordinator says over a connection. -/
def BattleCoordinator.conversation (coordinator : BattleCoordinator)
    (connection : BattleConnection) : Conversation :=
  match connection.connect with
  | .error _ => ⟨[], []⟩
  | .ok () =>
      let discovery := coordinator.discover connection
      match discovery.halted.outcome with
      | .raised _ => ⟨discovery.halted.state.sent.reverse, []⟩
      | .returned candidate =>
          ⟨discovery.halted.state.sent.reverse,
            (sends (coordinator.runSession connection candidate discovery.rest).log).reverse⟩

/-- An answer that a line of the room asks for and offers. -/
structure IsOffered (roomId : String) (lines : List RoomLine) (attempt : SendAttempt) : Prop where
  asked : ∃ line ∈ lines, Asks roomId line attempt.request
  offered : ∃ submission ∈ attempt.request.safeSubmissions.submissions, ∃ text,
    encodeSubmission submission = .ok text ∧
      attempt.command = s!"/choose {text}|{attempt.request.identity.rqid}"

/-- The setup comes first and in order, and its end waits for the server's answer. All answers are
in one room, and after the whole setup. -/
structure IsWarranted (coordinator : BattleCoordinator) (lines : List RoomLine)
    (said : Conversation) : Prop where
  setup : said.setup <+: coordinator.setupCommands
  barred : 1 < said.setup.length → ∃ before barrier since, lines = before ++ barrier :: since ∧
    Barrier coordinator.ourUserId before barrier
  complete : said.answers ≠ [] → said.setup = coordinator.setupCommands
  offered : said.answers ≠ [] → ∃ roomId before barrier since,
    lines = before ++ barrier :: since ∧ Barrier coordinator.ourUserId before barrier ∧
      ∀ attempt ∈ said.answers, IsOffered roomId since attempt
  increasing : said.answers.Pairwise fun earlier later =>
    earlier.request.identity.rqid < later.request.identity.rqid

/-- A setup without answers. -/
theorem IsWarranted.of_setup {coordinator : BattleCoordinator} {lines : List RoomLine}
    {setup : List String} (horder : setup <+: coordinator.setupCommands)
    (hbarred : 1 < setup.length → ∃ before barrier since, lines = before ++ barrier :: since ∧
      Barrier coordinator.ourUserId before barrier) : IsWarranted coordinator lines ⟨setup, []⟩ where
  setup := horder
  barred := hbarred
  complete hne := (hne rfl).elim
  offered hne := (hne rfl).elim
  increasing := .nil

/-- A complete setup, and the answers in the room that was found. -/
theorem IsWarranted.of_answers {coordinator : BattleCoordinator} {lines : List RoomLine}
    {setup : List String} {answers : List SendAttempt} (horder : setup <+: coordinator.setupCommands)
    (hbarred : 1 < setup.length → ∃ before barrier since, lines = before ++ barrier :: since ∧
      Barrier coordinator.ourUserId before barrier) (hcomplete : setup = coordinator.setupCommands)
    (hoffered : ∃ roomId before barrier since, lines = before ++ barrier :: since ∧
      Barrier coordinator.ourUserId before barrier ∧
        ∀ attempt ∈ answers, IsOffered roomId since attempt)
    (hincreasing : answers.Pairwise fun earlier later =>
      earlier.request.identity.rqid < later.request.identity.rqid) :
    IsWarranted coordinator lines ⟨setup, answers⟩ where
  setup := horder
  barred := hbarred
  complete _ := hcomplete
  offered _ := hoffered
  increasing := hincreasing

/-- The answers of a session are offered by its lines. -/
theorem sends_offered (env : Environment) (state : ObservedState) (lines : List RoomLine)
    (ending : Option PyException) :
    let s := (BattleSession.initial state).run env lines ending
    (∀ attempt ∈ sends s.log, IsOffered env.roomId lines attempt) ∧
      (sends s.log).Pairwise fun later earlier =>
        earlier.request.identity.rqid < later.request.identity.rqid := by
  intro s
  have hrun : Orderly env s := run_orderly (orderly_initial env state) lines ending
  refine ⟨fun attempt hattempt => ?_, hrun.increasing⟩
  obtain ⟨entry, hentry, hsend⟩ := List.mem_filterMap.mp hattempt
  obtain rfl : entry = .sendRoom attempt := by
    cases entry <;> simp at hsend
    rw [hsend]
  obtain ⟨later, past, hlog⟩ := List.append_of_mem hentry
  have hjustified : Justified env past attempt := hrun.safe attempt past ⟨later, hlog.symm⟩
  refine ⟨?_, hjustified.command⟩
  -- the request was fresh before
  apply run_requested env state lines ending
  have hpast : attempt.request ∈ freshRequests past :=
    List.mem_of_mem_head? hjustified.latest
  show attempt.request ∈ freshRequests s.log
  rw [hlog]
  simp only [freshRequests, List.filterMap_append, List.filterMap_cons, List.mem_append]
  exact .inr hpast

section Connection

variable {coordinator : BattleCoordinator} {connection : BattleConnection}
  {decoded early late : List RoomLine}

theorem conversation_of_refused {error : PyException} (h : connection.connect = .error error) :
    coordinator.conversation connection = ⟨[], []⟩ := by
  rw [BattleCoordinator.conversation, h]

theorem conversation_of_raised (hconnect : connection.connect = .ok ()) {error : SetupException}
    (h : (coordinator.discover connection).halted.outcome = .raised error) :
    coordinator.conversation connection =
      ⟨(coordinator.discover connection).halted.state.sent.reverse, []⟩ := by
  rw [BattleCoordinator.conversation, hconnect]
  simp only [h]

/-- The session reads the lines that are handed over to it. -/
theorem conversation_of_returned (hconnect : connection.connect = .ok ()) {candidate : RoomCandidate}
    (h : (coordinator.discover connection).halted.outcome = .returned candidate) :
    ∃ stop, coordinator.conversation connection =
      ⟨(coordinator.discover connection).halted.state.sent.reverse,
        (sends (coordinator.startSession.run
          (coordinator.sessionEnvironment connection candidate.roomId)
          (coordinator.sessionLines connection candidate (coordinator.discover connection).rest)
          stop).log).reverse⟩ := by
  have hsession : ∀ rest, coordinator.runSession connection candidate rest =
      coordinator.startSession.run (coordinator.sessionEnvironment connection candidate.roomId)
        (coordinator.sessionLines connection candidate rest)
        (coordinator.handoffLines connection candidate rest).2 :=
    fun _ => run_received _ _ _ _
  refine ⟨(coordinator.handoffLines connection candidate (coordinator.discover connection).rest).2, ?_⟩
  rw [BattleCoordinator.conversation, hconnect]
  simp only [h]
  rw [hsession]

omit [Rfc8785] in
/-- The barrier is among the lines of the frames. -/
theorem exists_barrier_of_discovered (hdecoded : decoded = early ++ late)
    (hlines : connection.lines = nonLoginLines early ++ late)
    (hlong : 1 < (coordinator.discover connection).halted.state.sent.length) :
    ∃ before barrier since, decoded = before ++ barrier :: since ∧
      Barrier coordinator.ourUserId before barrier := by
  obtain ⟨read, hread, hdiscovered⟩ := discover_discovered coordinator connection
  obtain ⟨before, barrier, since, hsplit, hbarrier⟩ := hdiscovered.commands.barred hlong
  have hall : nonLoginLines early ++ late =
      before ++ barrier :: (since ++ (coordinator.discover connection).rest) := by
    rw [← hlines, hread, hsplit, List.append_assoc, List.cons_append]
  obtain ⟨before', since', hframes, hbarrier', -⟩ := exists_barrier hall hbarrier ""
  exact ⟨before', barrier, since', hdecoded.trans hframes, hbarrier'⟩

/-- What is said to a room that was found. -/
theorem answers_offered (hdecoded : decoded = early ++ late)
    (hlines : connection.lines = nonLoginLines early ++ late) {candidate : RoomCandidate}
    (h : (coordinator.discover connection).halted.outcome = .returned candidate)
    {attempts : List SendAttempt} (hoffered : ∀ attempt ∈ attempts, IsOffered candidate.roomId
      (coordinator.sessionLines connection candidate (coordinator.discover connection).rest) attempt) :
    ∃ roomId before barrier since, decoded = before ++ barrier :: since ∧
      Barrier coordinator.ourUserId before barrier ∧
        ∀ attempt ∈ attempts, IsOffered roomId since attempt := by
  obtain ⟨before, barrier, since, unread, hsplit, hbarrier, hfilter, -⟩ :=
    (handoff_of_lines hdecoded hlines h).complete
  refine ⟨candidate.roomId, before, barrier, since, hsplit, hbarrier, fun attempt hattempt => ?_⟩
  obtain ⟨⟨line, hline, hasks⟩, hcommand⟩ := hoffered attempt hattempt
  -- the lines of the session are lines of the room after the barrier
  have hmem : line ∈ since.filter (isOf candidate.roomId) := by
    rw [hfilter]
    exact List.mem_append_left _ hline
  exact ⟨⟨line, (List.mem_filter.mp hmem).1, hasks⟩, hcommand⟩

end Connection

/-- **Conversation.** Whatever frames the socket delivers, and whatever policy, server and connection
do, a run says nothing that is not warranted by the lines of these frames. -/
theorem conversation_warranted (coordinator : BattleCoordinator) (surroundings : BattleConnection)
    (client : Client) (frames : List Frame) (ending : PyException) :
    IsWarranted coordinator (frameLines ending frames).1
      (coordinator.conversation (surroundings.overSocket client frames ending)) := by
  generalize hsocket : surroundings.overSocket client frames ending = connection
  cases hconnect : connection.connect with
  | error error =>
    rw [conversation_of_refused hconnect]
    apply IsWarranted.of_setup List.nil_prefix
    intro hlong
    cases hlong
  | ok _ =>
    have hopen : (surroundings.overSocket client frames ending).connect = .ok () := by
      rw [hsocket]
      exact hconnect
    obtain ⟨connected, hconnected, hlines⟩ := overSocket_connected hopen
    obtain ⟨early, late, hdecoded, hstream⟩ := lines_keep hconnected
    rw [hsocket, hstream] at hlines
    obtain ⟨read, -, hdiscovered⟩ := discover_discovered coordinator connection
    have hbarred : 1 < (coordinator.discover connection).halted.state.sent.reverse.length →
        ∃ before barrier since, (frameLines ending frames).1 = before ++ barrier :: since ∧
          Barrier coordinator.ourUserId before barrier := by
      intro hlong
      rw [List.length_reverse] at hlong
      exact exists_barrier_of_discovered hdecoded hlines hlong
    cases houtcome : (coordinator.discover connection).halted.outcome with
    | raised error =>
      rw [conversation_of_raised hconnect houtcome]
      exact .of_setup hdiscovered.commands.order hbarred
    | returned candidate =>
      obtain ⟨stop, hsaid⟩ := conversation_of_returned hconnect houtcome
      obtain ⟨hoffered, hincreasing⟩ := sends_offered
        (coordinator.sessionEnvironment connection candidate.roomId)
        (.initial coordinator.ourUserId)
        (coordinator.sessionLines connection candidate (coordinator.discover connection).rest) stop
      rw [hsaid]
      apply IsWarranted.of_answers hdiscovered.commands.order hbarred (sent_of_returned houtcome)
      · apply answers_offered hdecoded hlines houtcome
        intro attempt hattempt
        exact hoffered attempt (List.mem_reverse.mp hattempt)
      · exact List.pairwise_reverse.mpr hincreasing

end Runs

end BattleBelief
