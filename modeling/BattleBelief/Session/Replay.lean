import BattleBelief.Session.Observer

/-!
# Replaying Records

Every record of a session can be checked against the lines of its room. Its request is the one that a
line brought, its digest of the safe submissions is the one of that request, and its digest of the
observed state is the one that an observer comes to who has read up to some line from there on.

- `Grounded`: a request and two digests that the lines account for
- `processLine_keepsTrack`: one line leaves all records accounted for
- `records_replayed`: so does a run
-/

namespace BattleBelief

open BattleSession Outcomes Runs

/-- A record has the identity of its request. -/
theorem RecordFields.identity_of_toRecord {fields : RecordFields} {identity : RequestIdentity}
    {record : DecisionRecord} (h : fields.toRecord identity = .ok record) :
    PublicRequestIdentity.fromInternal identity = .ok record.requestIdentity := by
  unfold RecordFields.toRecord at h
  split_ifs at h
  · obtain ⟨publicIdentity, hidentity, hmade⟩ := bind_eq_ok.mp h
    rw [← Except.ok.inj hmade]
    exact hidentity
  · obtain ⟨_, -, hmade⟩ := bind_eq_ok.mp h
    cases hmade

section Records

variable [Python.UnicodeDatabase] [JsonDecoder]

/-! ## §1 What the lines account for -/

/-- The line brings the request. -/
structure Brings (roomId : String) (line : RoomLine) (request : DecisionRequest) : Prop where
  room : line.roomId = some roomId
  kind : classifyRoomPayload line.payload = .decisionRequest
  reads : readRequest roomId (Python.dropChars line.payload 9) = .ok request

variable [Rfc8785]

/-- One of the lines brings the request, whose submissions have one of the digests. After this line or
some others, an observer has a state with the other digest. -/
structure Grounded (roomId : String) (start : Observation) (lines : List RoomLine)
    (request : DecisionRequest) (stateDigest safeDigest : String) : Prop where
  replayed : ∃ before line between known, before ++ line :: between <+: lines ∧
    Brings roomId line request ∧
    RunsTo (observe roomId) start (before ++ line :: between) known ∧
    observedStateDigest known.state = .ok stateDigest
  choices : safeSubmissionSetDigest request.safeSubmissions = .ok safeDigest

/-- The lines account for the record. -/
def Recalls (roomId : String) (start : Observation) (lines : List RoomLine)
    (record : DecisionRecord) : Prop :=
  ∃ request, PublicRequestIdentity.fromInternal request.identity = .ok record.requestIdentity ∧
    Grounded roomId start lines request record.observedStateDigest record.safeSubmissionSetDigest

variable {roomId : String} {start known : Observation} {lines later : List RoomLine}
  {request : DecisionRequest} {stateDigest safeDigest : String} {record : DecisionRecord}

/-- More lines account for no less. -/
theorem Grounded.mono (h : Grounded roomId start lines request stateDigest safeDigest)
    (hlines : lines <+: later) : Grounded roomId start later request stateDigest safeDigest where
  replayed := by
    obtain ⟨before, line, between, known, hprefix, hreplayed⟩ := h.replayed
    exact ⟨before, line, between, known, hprefix.trans hlines, hreplayed⟩
  choices := h.choices

theorem Recalls.mono (h : Recalls roomId start lines record) (hlines : lines <+: later) :
    Recalls roomId start later record := by
  obtain ⟨request, hidentity, hgrounded⟩ := h
  exact ⟨request, hidentity, hgrounded.mono hlines⟩

/-- The state that the observer has by now has as good a claim as the one before. -/
theorem Grounded.refresh (h : Grounded roomId start lines request stateDigest safeDigest)
    (hruns : RunsTo (observe roomId) start lines known) {fresh : String}
    (hfresh : observedStateDigest known.state = .ok fresh) :
    Grounded roomId start lines request fresh safeDigest where
  replayed := by
    obtain ⟨before, line, between, -, ⟨rest, rfl⟩, hbrings, -⟩ := h.replayed
    refine ⟨before, line, between ++ rest, known, ?_, hbrings, ?_, hfresh⟩
    · simp
    · simpa using hruns
  choices := h.choices

/-! ## §2 The session -/

/-- The lines account for the pending request of a session, and for its records. -/
structure Replayable (roomId : String) (start : Observation) (lines : List RoomLine)
    (s : BattleSession) : Prop where
  pending : ∀ pending, s.pendingTrace = some pending → Grounded roomId start lines pending.request
    pending.observedStateDigest pending.safeSubmissionSetDigest
  recorded : ∀ record ∈ records s.log, Recalls roomId start lines record

/-- The session also knows what the observer knows who has read these lines. -/
structure ReplaysTo (roomId : String) (start : Observation) (lines : List RoomLine)
    (known : Observation) (s : BattleSession) : Prop extends Replayable roomId start lines s where
  state : s.state = known.state

variable {env : Environment} {s t : BattleSession}

theorem ReplaysTo.congr (h : ReplaysTo roomId start lines known s) (hstate : t.state = s.state)
    (hpending : t.pendingTrace = s.pendingTrace) (hrecords : records t.log = records s.log) :
    ReplaysTo roomId start lines known t where
  state := hstate.trans h.state
  pending := by
    rw [hpending]
    exact h.pending
  recorded := by
    rw [hrecords]
    exact h.recorded

/-- The outcome of a method that keeps track. -/
def KeepsTrack (roomId : String) (start : Observation) (lines : List RoomLine) (known : Observation)
    (result : Except Raised BattleSession) : Prop :=
  Satisfies (ReplaysTo roomId start lines known)
    (fun raised => ReplaysTo roomId start lines known raised.session) result

theorem ReplaysTo.fail (h : ReplaysTo roomId start lines known s) (error : PyException) :
    KeepsTrack roomId start lines known (s.fail error) :=
  .error (h.congr rfl rfl rfl)

/-! ## §3 Records -/

theorem emitRecord_tracks (h : ReplaysTo roomId start lines known s)
    (hrecord : Recalls roomId start lines record) :
    ReplaysTo roomId start lines known (s.emitRecord env record) := by
  have hentered : ReplaysTo roomId start lines known (s.enter (.emit record)) :=
    ⟨⟨h.pending, List.forall_mem_cons.mpr ⟨hrecord, h.recorded⟩⟩, h.state⟩
  unfold emitRecord
  split
  · exact hentered.congr rfl rfl rfl
  · exact hentered

/-- The record of a pending request is about this request, and has its digests. -/
theorem finalizePending_tracks (h : ReplaysTo roomId start lines known s)
    (status : DecisionRecordStatus) (errorCode : Option DecisionRecordErrorCode)
    (selected : Option BattleSubmission) :
    ReplaysTo roomId start lines known (s.finalizePending env status errorCode selected) := by
  have hdropped : ReplaysTo roomId start lines known { s with pendingTrace := none } :=
    ⟨⟨fun _ hsome => (by cases hsome), h.recorded⟩, h.state⟩
  unfold finalizePending
  split
  · exact h
  · next pending hpending =>
    split
    · exact hdropped
    · simp only
      split_ifs
      · exact hdropped
      · split
        · exact hdropped.congr rfl rfl rfl
        · next record hcreate =>
          apply emitRecord_tracks hdropped
          refine ⟨pending.request, RecordFields.identity_of_toRecord hcreate, ?_⟩
          rw [RecordFields.toRecord_eq_ok hcreate]
          exact h.pending pending hpending

theorem refuse_keepsTrack (h : ReplaysTo roomId start lines known s) (error : PyException)
    (status : DecisionRecordStatus) (errorCode : DecisionRecordErrorCode)
    (selected : Option BattleSubmission) :
    KeepsTrack roomId start lines known (s.refuse env error status errorCode selected) := by
  have hnoted : ReplaysTo roomId start lines known ((s.occur error).notePrimary error) :=
    h.congr rfl rfl rfl
  exact .error (finalizePending_tracks hnoted _ _ _)

theorem abort_tracks (h : ReplaysTo roomId start lines known s) (error : PyException) :
    ReplaysTo roomId start lines known (s.abort env error) := by
  have hentered : ReplaysTo roomId start lines known ((s.notePrimary error).enter (.abort error)) :=
    h.congr rfl rfl rfl
  have hfinal : ReplaysTo roomId start lines known
      (((s.notePrimary error).enter (.abort error)).finalizeAborted env error) := by
    unfold finalizeAborted
    split
    · exact hentered
    · split_ifs
      · exact finalizePending_tracks hentered _ _ _
      · exact finalizePending_tracks hentered _ _ _
  exact hfinal.congr rfl rfl rfl

/-! ## §4 Methods -/

theorem sendCommand_keepsTrack (h : ReplaysTo roomId start lines known s) (request : DecisionRequest)
    (authorized : BattleSubmission) (command : String) :
    KeepsTrack roomId start lines known (s.sendCommand env request authorized command) := by
  have hentered : ∀ attempt, ReplaysTo roomId start lines known (s.enter (.sendRoom attempt)) :=
    fun _ => h.congr rfl rfl rfl
  unfold sendCommand
  simp only
  split
  · exact refuse_keepsTrack (hentered _) _ _ _ _
  · simp only [countSubmission_eq]
    apply Satisfies.ok
    apply finalizePending_tracks
    exact (hentered _).congr rfl rfl rfl

theorem submitCandidate_keepsTrack (h : ReplaysTo roomId start lines known s)
    (request : DecisionRequest) (candidate : BattleSubmission) :
    KeepsTrack roomId start lines known (s.submitCandidate env request candidate) := by
  unfold submitCandidate
  split
  · split
    · exact refuse_keepsTrack h _ _ _ _
    · exact h.fail _
  · split
    · exact refuse_keepsTrack h _ _ _ _
    · exact sendCommand_keepsTrack h _ _ _

theorem submit_keepsTrack (h : ReplaysTo roomId start lines known s) (request : DecisionRequest) :
    KeepsTrack roomId start lines known (s.submit env request) := by
  unfold submit
  split_ifs
  · exact .ok (h.congr rfl rfl rfl)
  · apply Satisfies.ok
    apply finalizePending_tracks
    exact h.congr rfl rfl rfl
  · split
    · split
      · exact refuse_keepsTrack h _ _ _ _
      · exact h.fail _
    · exact submitCandidate_keepsTrack h request _

/-- A pending request gets the digest of the state that the observer has, too. -/
theorem refreshPendingTraceState_keepsTrack (hruns : RunsTo (observe roomId) start lines known)
    (h : ReplaysTo roomId start lines known s) :
    KeepsTrack roomId start lines known s.refreshPendingTraceState := by
  unfold refreshPendingTraceState
  split
  · exact .ok h
  · next pending hpending =>
    split
    · exact h.fail _
    · next stateDigest hdigest =>
      refine .ok ⟨⟨fun fresh hfresh => ?_, h.recorded⟩, h.state⟩
      rw [← Option.some.inj hfresh]
      exact (h.pending pending hpending).refresh hruns (h.state ▸ hdigest)

theorem retryPending_keepsTrack (hruns : RunsTo (observe roomId) start lines known)
    (h : ReplaysTo roomId start lines known s) (reason : String) (strict : Bool) :
    KeepsTrack roomId start lines known (s.retryPending env reason strict) := by
  unfold retryPending
  split
  · exact .ok h
  · simp only
    split
    · exact h.fail _
    · split
      · exact refuse_keepsTrack h _ _ _ _
      · split_ifs
        · exact refuse_keepsTrack h _ _ _ _
        · exact .ok h
      · exact (refreshPendingTraceState_keepsTrack hruns h).bind fun t ht => submit_keepsTrack ht _

/-- A new trace is of the request that the last line has brought, and of the state by now. -/
theorem openTrace_keepsTrack (h : ReplaysTo roomId start lines known s)
    (hgrounded : ∀ stateDigest safeDigest, observedStateDigest known.state = .ok stateDigest →
      safeSubmissionSetDigest request.safeSubmissions = .ok safeDigest →
        Grounded roomId start lines request stateDigest safeDigest) :
    KeepsTrack roomId start lines known (s.openTrace env request) := by
  unfold openTrace
  split_ifs
  · exact .ok h
  · split
    · exact h.fail _
    · next stateDigest hstate =>
      split
      · exact h.fail _
      · next safeDigest hsafe =>
        refine .ok ⟨⟨fun pending hpending => ?_, h.recorded⟩, h.state⟩
        rw [← Option.some.inj hpending]
        exact hgrounded stateDigest safeDigest (h.state ▸ hstate) hsafe

/-! ## §5 Lines -/

theorem Replayable.mono (h : Replayable roomId start lines s) (hlines : lines <+: later) :
    Replayable roomId start later s where
  pending pending hpending := (h.pending pending hpending).mono hlines
  recorded record hrecord := (h.recorded record hrecord).mono hlines

/-- A session that goes on from any outcome of a method. -/
theorem KeepsTrack.settle {result : Except Raised BattleSession}
    (h : KeepsTrack roomId start lines known result) :
    Replayable roomId start lines (BattleSession.settle env result) := by
  cases result with
  | ok t => exact (h.of_ok rfl).toReplayable
  | error raised => exact (abort_tracks (h.of_error rfl) raised.error).toReplayable

section Lines

variable {line : RoomLine} {next : Observation} (hkept : Replayable roomId start lines s)
  (hruns : RunsTo (observe roomId) start (lines ++ [line]) next)

include hkept hruns

/-- What a battle event leads to. -/
theorem processBattleEvent_accounted {event : BattleEvent} {state : ObservedState}
    (hobserved : s.observeLine env line.payload = .ok (event, state)) (hstate : state = next.state) :
    Replayable roomId start (lines ++ [line])
      (settle env (s.processBattleEvent env line.payload)) := by
  have hlonger := hkept.mono (List.prefix_append lines [line])
  have htracks : ReplaysTo roomId start (lines ++ [line]) next { s with state := state } :=
    ⟨⟨hlonger.pending, hlonger.recorded⟩, hstate⟩
  suffices hkeeps : KeepsTrack roomId start (lines ++ [line]) next
      (s.processBattleEvent env line.payload) from hkeeps.settle
  unfold processBattleEvent
  rw [hobserved]
  simp only
  split_ifs
  · have hended : ReplaysTo roomId start (lines ++ [line]) next
        (({ s with state := state } : BattleSession).enter .battleEnd) := htracks.congr rfl rfl rfl
    exact .ok ((finalizePending_tracks hended _ _ _).congr rfl rfl rfl)
  · split
    · exact retryPending_keepsTrack hruns htracks _ _
    · exact .ok htracks

/-- What a request leads to: it is the one that this line brings. -/
theorem processRequest_accounted (hroom : env.roomId = roomId) (hline : line.roomId = some roomId)
    (hkind : classifyRoomPayload line.payload = .decisionRequest) (hstate : s.state = next.state) :
    Replayable roomId start (lines ++ [line]) (settle env (s.processRequest env line.payload)) := by
  have htracks : ReplaysTo roomId start (lines ++ [line]) next s :=
    ⟨hkept.mono (List.prefix_append _ _), hstate⟩
  suffices hkeeps : KeepsTrack roomId start (lines ++ [line]) next
      (s.processRequest env line.payload) from hkeeps.settle
  unfold processRequest
  split
  · exact htracks.fail _
  · next request hread =>
    split
    · exact htracks.fail _
    · exact .ok htracks
    · have haccepted : ReplaysTo roomId start (lines ++ [line]) next (s.acceptFresh env request) :=
        (finalizePending_tracks htracks _ _ _).congr rfl rfl rfl
      have hbrings : Brings roomId line request := by
        refine ⟨hline, hkind, ?_⟩
        rw [← hroom]
        exact hread
      refine Satisfies.bind (openTrace_keepsTrack haccepted fun stateDigest safeDigest hdigest hsafe =>
        ⟨⟨lines, line, [], next, List.prefix_rfl, hbrings, hruns, hdigest⟩, hsafe⟩) fun t ht => ?_
      split_ifs
      · exact .ok ht
      · exact retryPending_keepsTrack hruns ht _ _

end Lines

variable {seen unseen : List RoomLine}

/-- One line leaves the records accounted for. -/
theorem feed_accounted (line : RoomLine) (h : Watches env.roomId start s seen unseen known)
    (hkept : Replayable env.roomId start (seen ++ unseen) s) :
    Replayable env.roomId start (seen ++ unseen ++ [line]) (s.feed env line) := by
  have hlonger := hkept.mono (List.prefix_append (seen ++ unseen) [line])
  unfold feed
  split_ifs with hdone hroom
  · exact hlonger
  · exact hlonger
  · rw [not_not] at hroom
    rw [Bool.not_eq_true] at hdone
    obtain ⟨rfl, hover⟩ := h.reads hdone
    rw [List.append_nil] at hkept hlonger ⊢
    have htracks : ReplaysTo env.roomId start (seen ++ [line]) known s := ⟨hlonger, h.state⟩
    -- what an observer does not look at leaves it where it is
    have hquiet : observe env.roomId known line = .ok known →
        RunsTo (observe env.roomId) start (seen ++ [line]) known := fun hnext =>
      runs_concat.mpr ⟨known, h.runs, hnext⟩
    unfold processLine
    cases hkind : classifyRoomPayload line.payload with
    | battleEvent =>
      cases hobserved : s.observeLine env line.payload with
      | error error =>
        have hfail : s.processBattleEvent env line.payload = s.fail error := by
          simp only [processBattleEvent, hobserved]
        simp only [hfail]
        exact (htracks.fail error).settle
      | ok observed =>
        have hnext : observe env.roomId known line = .ok (.after observed) := by
          rw [h.observe_battleEvent hover hroom hkind, hobserved]
          rfl
        exact processBattleEvent_accounted hkept (runs_concat.mpr ⟨known, h.runs, hnext⟩) hobserved rfl
    | timerMessage =>
      simp only [processTimer]
      cases hobserved : s.observeTimer line.payload with
      | error error => exact (htracks.fail error).settle
      | ok observed => exact ⟨hlonger.pending, hlonger.recorded⟩
    | decisionRequest =>
      exact processRequest_accounted hkept (hquiet (by simp [observe, hkind])) rfl hroom hkind h.state
    | battleError => exact (htracks.fail _).settle
    | roomControlOrChat => exact ⟨hlonger.pending, hlonger.recorded⟩
    | unknown => exact (htracks.fail _).settle

/-! ## §6 Runs -/

theorem feedAll_accounted (env : Environment) (lines : List RoomLine)
    (h : Watches env.roomId start s seen unseen known)
    (hkept : Replayable env.roomId start (seen ++ unseen) s) :
    Replayable env.roomId start (seen ++ unseen ++ lines) (s.feedAll env lines) := by
  induction lines generalizing s seen unseen known with
  | nil =>
    rw [List.append_nil]
    exact hkept
  | cons line rest ih =>
    obtain ⟨seen', unseen', known', heq, hnext⟩ := feed_watches line h
    have hfed := feed_accounted line h hkept
    rw [← heq] at hfed
    have hrest := ih hnext hfed
    rw [heq, List.append_assoc, List.singleton_append] at hrest
    exact hrest

/-- **Replay.** The lines of a run account for every record of it: for the identity and the choices of
its request, and for the state that it was answered in. -/
theorem records_replayed (env : Environment) (state : ObservedState) (lines : List RoomLine)
    (ending : Option PyException) :
    let s := (BattleSession.initial state).run env lines ending
    ∀ record ∈ records s.log, Recalls env.roomId (.initial state) lines record := by
  intro s
  have hstart : Watches env.roomId (.initial state) (.initial state) [] [] (.initial state) :=
    ⟨runs_nil.mpr rfl, rfl, fun _ => ⟨rfl, rfl⟩, fun hdone => by cases hdone⟩
  have hkept : Replayable env.roomId (.initial state) [] (.initial state) :=
    ⟨fun _ hsome => (by cases hsome), fun _ hmem => (by cases hmem)⟩
  have hlines := feedAll_accounted env lines hstart hkept
  obtain ⟨seen, unseen, known, -, hread⟩ := feedAll_watches env lines hstart
  unfold s run
  cases ending with
  | none => exact hlines.recorded
  | some error =>
    simp only
    split_ifs
    · exact hlines.recorded
    · have htracks : ReplaysTo env.roomId (.initial state) lines known
          (((BattleSession.initial state).feedAll env lines).occur error) :=
        ⟨⟨hlines.pending, hlines.recorded⟩, hread.state⟩
      exact (abort_tracks htracks error).recorded

end Records

end BattleBelief
