import BattleBelief.Session.ActionSafety
import BattleBelief.Session.PendingRequests

/-!
# The Session as an Observer

What a session knows of its battle is decided by the lines of its room. An observer parses and
reduces these lines and does nothing else: it has no policy, sends nothing and keeps no records. A
session follows the observer as long as it reads, whatever policy, connection and sink do, and stops
reading before the end of the battle only after an error.

- `observe`: what a line tells an observer
- `feed_watches`: one line leaves a session with the observer, or ends it with an error
- `run_watches`: the state of a session is what the observer makes of the lines that it has read
- `observation_independent`: sessions in one room differ in how far they have read, and in nothing
  else that they know
-/

namespace BattleBelief

open BattleSession Outcomes Runs

/-! ## §1 The observer -/

/-- What is known of a battle, and whether it is over. -/
structure Observation where
  state : ObservedState
  ended : Bool

namespace Observation

/-- Before the first line. -/
def initial (state : ObservedState) : Observation := ⟨state, false⟩

/-- After an event that the reducer accepts. -/
def after (observed : BattleEvent × ObservedState) : Observation :=
  ⟨observed.2, endsBattle observed.1⟩

end Observation

section Observers

variable [Python.UnicodeDatabase]

/-- What a line tells an observer of the room. Requests, errors and chat tell nothing, and after the
end of the battle nothing is read. -/
def observe (roomId : String) (known : Observation) (line : RoomLine) :
    Except PyException Observation :=
  if known.ended || line.roomId ≠ some roomId then .ok known
  else
    match classifyRoomPayload line.payload with
    | .battleEvent => (observeEvent known.state (parseBattleLine line.payload
        (known.state.eventIndex + 1) (some roomId))).map Observation.after
    | .timerMessage => (observeEvent known.state (parseInactiveLine line.payload
        (known.state.eventIndex + 1))).map Observation.after
    | _ => .ok known

/-- What is known at the end of the battle remains. -/
theorem observe_over {roomId : String} {known : Observation} (h : known.ended = true) (line : RoomLine) :
    observe roomId known line = .ok known := by
  simp [observe, h]

theorem runs_over {roomId : String} {known : Observation} (h : known.ended = true)
    (lines : List RoomLine) : RunsTo (observe roomId) known lines known := by
  induction lines with
  | nil => simp
  | cons line rest ih => exact runs_cons.mpr ⟨known, observe_over h line, ih⟩

end Observers

/-! ## §2 What leaves the state alone -/

section Methods

variable {s t u : BattleSession}

/-- `t` knows what `s` knows, and has not ended since, unless by an error. -/
structure Undisturbed (s t : BattleSession) : Prop where
  state : t.state = s.state
  error : s.primaryError.isSome → t.primaryError.isSome
  ends : t.done = true → s.done = true ∨ t.primaryError.isSome

theorem Undisturbed.trans (h : Undisturbed s t) (h' : Undisturbed t u) : Undisturbed s u where
  state := h'.state.trans h.state
  error hs := h'.error (h.error hs)
  ends hu := by
    rcases h'.ends hu with ht | herror
    · exact (h.ends ht).imp_right h'.error
    · exact .inr herror

/-- Sessions that differ in neither state nor end. -/
theorem Undisturbed.of_eq (hstate : t.state = s.state) (hdone : t.done = s.done)
    (herror : t.primaryError = s.primaryError) : Undisturbed s t where
  state := hstate
  error hs := herror ▸ hs
  ends ht := .inl (hdone ▸ ht)

/-- The first error stays the primary one. -/
theorem notePrimary_isSome (s : BattleSession) (error : PyException) :
    (s.notePrimary error).primaryError.isSome := rfl

/-- The outcome of a method that observes nothing. -/
def LeavesState (s : BattleSession) (result : Except Raised BattleSession) : Prop :=
  Satisfies (Undisturbed s) (fun raised => raised.session.state = s.state) result

theorem fail_leavesState (s : BattleSession) (error : PyException) :
    LeavesState s (s.fail error) := .error rfl

theorem LeavesState.bind {result : Except Raised BattleSession}
    {next : BattleSession → Except Raised BattleSession} (h : LeavesState s result)
    (hnext : ∀ t, LeavesState t (next t)) : LeavesState s (result >>= next) := by
  refine Satisfies.bind h fun t ht => ?_
  exact (hnext t).mono (fun u hu => ht.trans hu) fun raised hraised => hraised.trans ht.state

/-- What leaves alone the state of an undisturbed session. -/
theorem Undisturbed.leaves {result : Except Raised BattleSession} (h : Undisturbed s t)
    (hleaves : LeavesState t result) : LeavesState s result :=
  hleaves.mono (fun _ hu => h.trans hu) fun _ hraised => hraised.trans h.state

section Records

variable [Rfc8785]

theorem emitRecord_undisturbed (env : Environment) (s : BattleSession) (record : DecisionRecord) :
    Undisturbed s (s.emitRecord env record) := by
  unfold emitRecord
  split
  · exact ⟨rfl, fun _ => rfl, fun _ => .inr rfl⟩
  · exact .of_eq rfl rfl rfl

/-- A record that cannot be made or handed over ends the session with an error. -/
theorem finalizePending_undisturbed (env : Environment) (s : BattleSession)
    (status : DecisionRecordStatus) (errorCode : Option DecisionRecordErrorCode)
    (selected : Option BattleSubmission) :
    Undisturbed s (s.finalizePending env status errorCode selected) := by
  have hdropped : Undisturbed s { s with pendingTrace := none } := .of_eq rfl rfl rfl
  unfold finalizePending
  split
  · exact .of_eq rfl rfl rfl
  · split
    · exact hdropped
    · simp only
      split_ifs
      · exact hdropped
      · split
        · exact ⟨rfl, fun _ => rfl, fun _ => .inr rfl⟩
        · exact hdropped.trans (emitRecord_undisturbed env _ _)

theorem refuse_leavesState (env : Environment) (s : BattleSession) (error : PyException)
    (status : DecisionRecordStatus) (errorCode : DecisionRecordErrorCode)
    (selected : Option BattleSubmission) :
    LeavesState s (s.refuse env error status errorCode selected) :=
  .error (finalizePending_undisturbed env _ _ _ _).state

theorem sendCommand_leavesState (env : Environment) (s : BattleSession) (request : DecisionRequest)
    (authorized : BattleSubmission) (command : String) :
    LeavesState s (s.sendCommand env request authorized command) := by
  unfold sendCommand
  simp only
  split
  · have hentered : ∀ entry, Undisturbed s (s.enter entry) := fun _ => .of_eq rfl rfl rfl
    exact (hentered _).leaves (refuse_leavesState env _ _ _ _ _)
  · simp only [countSubmission_eq]
    refine .ok (Undisturbed.trans ?_ (finalizePending_undisturbed env _ _ _ _))
    exact .of_eq rfl rfl rfl

/-- An aborted session has ended with an error, and knows what it knew. -/
theorem abort_ends (env : Environment) (s : BattleSession) (error : PyException) :
    (s.abort env error).state = s.state ∧ (s.abort env error).done = true ∧
      (s.abort env error).primaryError.isSome := by
  have hfinal : Undisturbed ((s.notePrimary error).enter (.abort error))
      (((s.notePrimary error).enter (.abort error)).finalizeAborted env error) := by
    unfold finalizeAborted
    split
    · exact .of_eq rfl rfl rfl
    · split_ifs
      · exact finalizePending_undisturbed env _ _ _ _
      · exact finalizePending_undisturbed env _ _ _ _
  exact ⟨hfinal.state, rfl, hfinal.error rfl⟩

end Records

variable [Rfc8785] [Python.UnicodeDatabase] {env : Environment}

theorem submitCandidate_leavesState (env : Environment) (s : BattleSession)
    (request : DecisionRequest) (candidate : BattleSubmission) :
    LeavesState s (s.submitCandidate env request candidate) := by
  unfold submitCandidate
  split
  · split
    · exact refuse_leavesState env s _ _ _ _
    · exact fail_leavesState s _
  · split
    · exact refuse_leavesState env s _ _ _ _
    · exact sendCommand_leavesState env s _ _ _

/-- No answer to a request changes what is known. -/
theorem submit_leavesState (env : Environment) (s : BattleSession) (request : DecisionRequest) :
    LeavesState s (s.submit env request) := by
  unfold submit
  split_ifs
  · exact .ok (.of_eq rfl rfl rfl)
  · refine .ok (Undisturbed.trans ?_ (finalizePending_undisturbed env _ _ _ _))
    exact .of_eq rfl rfl rfl
  · split
    · split
      · exact refuse_leavesState env s _ _ _ _
      · exact fail_leavesState s _
    · exact submitCandidate_leavesState env s request _

theorem refreshPendingTraceState_leavesState (s : BattleSession) :
    LeavesState s s.refreshPendingTraceState := by
  unfold refreshPendingTraceState
  split
  · exact .ok (.of_eq rfl rfl rfl)
  · split
    · exact fail_leavesState s _
    · exact .ok (.of_eq rfl rfl rfl)

/-- Neither does a look at the pending request. -/
theorem retryPending_leavesState (env : Environment) (s : BattleSession) (reason : String)
    (strict : Bool) : LeavesState s (s.retryPending env reason strict) := by
  unfold retryPending
  split
  · exact .ok (.of_eq rfl rfl rfl)
  · simp only
    split
    · exact fail_leavesState s _
    · split
      · exact refuse_leavesState env s _ _ _ _
      · split_ifs
        · exact refuse_leavesState env s _ _ _ _
        · exact .ok (.of_eq rfl rfl rfl)
      · exact (refreshPendingTraceState_leavesState s).bind fun t =>
          submit_leavesState env t _

theorem openTrace_leavesState (env : Environment) (s : BattleSession) (request : DecisionRequest) :
    LeavesState s (s.openTrace env request) := by
  unfold openTrace
  split_ifs
  · exact .ok (.of_eq rfl rfl rfl)
  · split
    · exact fail_leavesState s _
    · split
      · exact fail_leavesState s _
      · exact .ok (.of_eq rfl rfl rfl)

/-! ## §3 One line -/

omit [Rfc8785] in
/-- No timer message ends the battle. -/
theorem observeTimer_continues {payload : String} {event : BattleEvent} {state : ObservedState}
    (h : s.observeTimer payload = .ok (event, state)) : endsBattle event = false := by
  obtain ⟨hparsed, -⟩ := reduce_of_observeEvent h
  unfold parseInactiveLine at hparsed
  simp only at hparsed
  split_ifs at hparsed
  · rw [← Except.ok.inj hparsed]
    rfl
  · rw [← Except.ok.inj hparsed]
    rfl

/-- The session has read `seen` of the lines, and knows what an observer knows who reads them. It
has read all of them, or the battle is over, or an error has ended the session. -/
structure Watches (roomId : String) (start : Observation) (s : BattleSession)
    (seen unseen : List RoomLine) (known : Observation) : Prop where
  runs : RunsTo (observe roomId) start seen known
  state : s.state = known.state
  reads : s.done = false → unseen = [] ∧ known.ended = false
  ends : s.done = true → known.ended = true ∨ s.primaryError.isSome

variable {start known : Observation} {seen unseen : List RoomLine}

/-- A session that has ended in an error without reading the line. -/
theorem Watches.stopped (h : Watches env.roomId start s seen [] known) (line : RoomLine)
    (hstate : t.state = s.state) (hdone : t.done = true) (herror : t.primaryError.isSome) :
    Watches env.roomId start t seen [line] known where
  runs := h.runs
  state := hstate.trans h.state
  reads hrunning := by
    rw [hdone] at hrunning
    cases hrunning
  ends _ := .inr herror

/-- A session that has read a line which does not end the battle, and what came of that. -/
theorem Watches.settle {result : Except Raised BattleSession} {line : RoomLine} {next : Observation}
    (h : Watches env.roomId start s seen [] known)
    (hnext : observe env.roomId known line = .ok next) (hstate : t.state = next.state)
    (hdone : t.done = false) (hover : next.ended = false) (hresult : LeavesState t result) :
    Watches env.roomId start (settle env result) (seen ++ [line]) [] next := by
  have hruns : RunsTo (observe env.roomId) start (seen ++ [line]) next :=
    runs_concat.mpr ⟨known, h.runs, hnext⟩
  cases result with
  | error raised =>
    obtain ⟨hkept, hended, herror⟩ := abort_ends env raised.session raised.error
    have hraised : raised.session.state = t.state := hresult.of_error rfl
    refine ⟨hruns, (hkept.trans hraised).trans hstate, fun hrunning => ?_, fun _ => .inr herror⟩
    rw [BattleSession.settle, hended] at hrunning
    cases hrunning
  | ok u =>
    have hundisturbed : Undisturbed t u := hresult.of_ok rfl
    refine ⟨hruns, hundisturbed.state.trans hstate, fun _ => ⟨rfl, hover⟩, fun hended => ?_⟩
    rcases hundisturbed.ends hended with hbefore | herror
    · rw [hdone] at hbefore
      cases hbefore
    · exact .inr herror

/-- A session that raises on a line without having read anything new. -/
theorem Watches.refuses {line : RoomLine} (h : Watches env.roomId start s seen [] known)
    (error : PyException) :
    Watches env.roomId start (BattleSession.settle env (s.fail error)) seen [line] known := by
  obtain ⟨hkept, hended, herror⟩ := abort_ends env (s.occur error) error
  exact h.stopped line hkept hended herror

section Lines

variable {line : RoomLine} (h : Watches env.roomId start s seen [] known) (hover : known.ended = false)
  (hroom : line.roomId = some env.roomId)

include h hover hroom

/-- The observer takes a battle line as the session does. -/
theorem Watches.observe_battleEvent (hkind : classifyRoomPayload line.payload = .battleEvent) :
    observe env.roomId known line = (s.observeLine env line.payload).map Observation.after := by
  rw [observeLine, h.state]
  simp [observe, hover, hroom, hkind]

/-- So it takes a timer message. -/
theorem Watches.observe_timerMessage (hkind : classifyRoomPayload line.payload = .timerMessage) :
    observe env.roomId known line = (s.observeTimer line.payload).map Observation.after := by
  rw [observeTimer, h.state]
  simp [observe, hover, hroom, hkind]

variable (hdone : s.done = false)

include hdone

/-- A battle line is observed, and then answered. -/
theorem Watches.battleEvent (hkind : classifyRoomPayload line.payload = .battleEvent) :
    ∃ seen' unseen' known', seen' ++ unseen' = seen ++ [line] ∧
      Watches env.roomId start (BattleSession.settle env (s.processBattleEvent env line.payload))
        seen' unseen' known' := by
  unfold processBattleEvent
  cases hobserved : s.observeLine env line.payload with
  | error error => exact ⟨seen, [line], known, rfl, h.refuses error⟩
  | ok observed =>
    obtain ⟨event, state⟩ := observed
    have hnext : observe env.roomId known line = .ok ⟨state, endsBattle event⟩ := by
      rw [h.observe_battleEvent hover hroom hkind, hobserved]
      rfl
    refine ⟨seen ++ [line], [], ⟨state, endsBattle event⟩, List.append_nil _, ?_⟩
    simp only
    split_ifs with hends
    · -- the battle is over, whatever the last record leads to
      have hkept := (finalizePending_undisturbed env
        (({ s with state := state } : BattleSession).enter .battleEnd) .terminallyDiscarded none
        none).state
      refine ⟨runs_concat.mpr ⟨known, h.runs, hnext⟩, hkept, fun hrunning => ?_, fun _ => .inl hends⟩
      cases hrunning
    · have hcontinues : (⟨state, endsBattle event⟩ : Observation).ended = false := by
        simpa using hends
      apply h.settle (t := { s with state := state }) hnext rfl hdone hcontinues
      split
      · exact retryPending_leavesState env _ _ _
      · exact .ok (.of_eq rfl rfl rfl)

/-- So is a timer message, which does not end the battle. -/
theorem Watches.timerMessage (hkind : classifyRoomPayload line.payload = .timerMessage) :
    ∃ seen' unseen' known', seen' ++ unseen' = seen ++ [line] ∧
      Watches env.roomId start (BattleSession.settle env (s.processTimer line.payload))
        seen' unseen' known' := by
  unfold processTimer
  cases hobserved : s.observeTimer line.payload with
  | error error => exact ⟨seen, [line], known, rfl, h.refuses error⟩
  | ok observed =>
    obtain ⟨event, state⟩ := observed
    have hends : endsBattle event = false := observeTimer_continues hobserved
    have hnext : observe env.roomId known line = .ok ⟨state, false⟩ := by
      rw [h.observe_timerMessage hover hroom hkind, hobserved, ← hends]
      rfl
    refine ⟨seen ++ [line], [], ⟨state, false⟩, List.append_nil _, ?_⟩
    exact h.settle (t := { s with state := state }) hnext rfl hdone rfl (.ok (.of_eq rfl rfl rfl))

end Lines

variable [JsonDecoder]

/-- A request tells nothing of the battle. -/
theorem processRequest_leavesState (env : Environment) (s : BattleSession) (payload : String) :
    LeavesState s (s.processRequest env payload) := by
  unfold processRequest
  split
  · exact fail_leavesState s _
  · next request _ =>
    split
    · exact fail_leavesState s _
    · exact .ok (.of_eq rfl rfl rfl)
    · have haccepted : Undisturbed s (s.acceptFresh env request) :=
        (finalizePending_undisturbed env s _ _ _).trans (.of_eq rfl rfl rfl)
      apply haccepted.leaves
      apply (openTrace_leavesState env _ request).bind
      intro t
      split_ifs
      · exact .ok (.of_eq rfl rfl rfl)
      · exact retryPending_leavesState env t _ _

/-- Any line leaves the session with the observer, or ends it with an error. -/
theorem feed_watches (line : RoomLine) (h : Watches env.roomId start s seen unseen known) :
    ∃ seen' unseen' known', seen' ++ unseen' = seen ++ unseen ++ [line] ∧
      Watches env.roomId start (s.feed env line) seen' unseen' known' := by
  unfold feed
  split_ifs with hdone hroom
  · -- the loop has been left
    refine ⟨seen, unseen ++ [line], known, (List.append_assoc ..).symm, h.runs, h.state, ?_, h.ends⟩
    intro hrunning
    rw [hdone] at hrunning
    cases hrunning
  · rw [Bool.not_eq_true] at hdone
    obtain ⟨rfl, hover⟩ := h.reads hdone
    have hnext : observe env.roomId known line = .ok known := by simp [observe, hroom]
    refine ⟨seen ++ [line], [], known, by simp, runs_concat.mpr ⟨known, h.runs, hnext⟩, h.state,
      fun _ => ⟨rfl, hover⟩, h.ends⟩
  · rw [not_not] at hroom
    rw [Bool.not_eq_true] at hdone
    obtain ⟨rfl, hover⟩ := h.reads hdone
    rw [List.append_nil]
    -- what an observer does not look at leaves the state alone
    have hquiet : observe env.roomId known line = .ok known →
        LeavesState s (s.processLine env line.payload) →
        ∃ seen' unseen' known', seen' ++ unseen' = seen ++ [line] ∧
          Watches env.roomId start (settle env (s.processLine env line.payload)) seen' unseen'
            known' := fun hnext hleaves =>
      ⟨seen ++ [line], [], known, List.append_nil _, h.settle hnext h.state hdone hover hleaves⟩
    unfold processLine at hquiet ⊢
    cases hkind : classifyRoomPayload line.payload with
    | battleEvent => exact h.battleEvent hover hroom hdone hkind
    | timerMessage => exact h.timerMessage hover hroom hdone hkind
    | decisionRequest =>
      rw [hkind] at hquiet
      exact hquiet (by simp [observe, hkind]) (processRequest_leavesState env s _)
    | battleError =>
      rw [hkind] at hquiet
      exact hquiet (by simp [observe, hkind]) (fail_leavesState s _)
    | roomControlOrChat =>
      rw [hkind] at hquiet
      exact hquiet (by simp [observe, hkind]) (.ok (.of_eq rfl rfl rfl))
    | unknown =>
      rw [hkind] at hquiet
      exact hquiet (by simp [observe, hkind]) (fail_leavesState s _)

/-! ## §4 Runs -/

theorem feedAll_watches (env : Environment) (lines : List RoomLine)
    (h : Watches env.roomId start s seen unseen known) :
    ∃ seen' unseen' known', seen' ++ unseen' = seen ++ unseen ++ lines ∧
      Watches env.roomId start (s.feedAll env lines) seen' unseen' known' := by
  induction lines generalizing s seen unseen known with
  | nil => exact ⟨seen, unseen, known, (List.append_nil _).symm, h⟩
  | cons line rest ih =>
    obtain ⟨seen', unseen', known', heq, hnext⟩ := feed_watches line h
    obtain ⟨seen'', unseen'', known'', hrest, hrun⟩ := ih hnext
    refine ⟨seen'', unseen'', known'', ?_, hrun⟩
    rw [hrest, heq, List.append_assoc, List.singleton_append]

/-- The state of a session is what the observer makes of the lines that it has read. If it has no
primary error, these are all of them, up to the end of the battle. -/
theorem run_watches (env : Environment) (state : ObservedState) (lines : List RoomLine)
    (ending : Option PyException) :
    let s := (BattleSession.initial state).run env lines ending
    ∃ seen known, seen <+: lines ∧ RunsTo (observe env.roomId) (.initial state) seen known ∧
      s.state = known.state ∧
      (s.primaryError = none → RunsTo (observe env.roomId) (.initial state) lines known) := by
  intro s
  have hstart : Watches env.roomId (.initial state) (.initial state) [] [] (.initial state) :=
    ⟨runs_nil.mpr rfl, rfl, fun _ => ⟨rfl, rfl⟩, fun hdone => by cases hdone⟩
  obtain ⟨seen, unseen, known, hlines, hread⟩ := feedAll_watches env lines hstart
  rw [List.nil_append, List.nil_append] at hlines
  -- the end of the lines tells nothing more
  have hended : s.state = known.state ∧ (s.primaryError = none → unseen = [] ∨ known.ended = true) := by
    have hquiet : ∀ t, t = (BattleSession.initial state).feedAll env lines →
        t.primaryError = none → unseen = [] ∨ known.ended = true := by
      rintro t rfl hclean
      cases hdone : ((BattleSession.initial state).feedAll env lines).done with
      | false => exact .inl (hread.reads hdone).1
      | true =>
        apply Or.inr
        apply (hread.ends hdone).resolve_right
        simp [hclean]
    unfold s run
    cases ending with
    | none => exact ⟨hread.state, hquiet _ rfl⟩
    | some error =>
      simp only
      split_ifs with hdone
      · exact ⟨hread.state, hquiet _ rfl⟩
      · obtain ⟨hkept, -, herror⟩ :=
          abort_ends env (((BattleSession.initial state).feedAll env lines).occur error) error
        refine ⟨hkept.trans hread.state, fun hclean => ?_⟩
        rw [hclean] at herror
        cases herror
  refine ⟨seen, known, ⟨unseen, hlines⟩, hread.runs, hended.1, fun hclean => ?_⟩
  rw [← hlines]
  apply runs_append.mpr
  refine ⟨known, hread.runs, ?_⟩
  rcases hended.2 hclean with rfl | hover
  · exact runs_nil.mpr rfl
  · exact runs_over hover unseen

/-- **Observation.** What sessions in one room know is decided by the lines: each knows what an
observer makes of the lines that it has read. Of two sessions one is ahead on the same way, whatever
their policies, connections and sinks do, and two without errors know the same. -/
theorem observation_independent (env env' : Environment) (hroom : env'.roomId = env.roomId)
    (state : ObservedState) (lines : List RoomLine) (ending ending' : Option PyException) :
    let s := (BattleSession.initial state).run env lines ending
    let t := (BattleSession.initial state).run env' lines ending'
    ∃ known known',
      (∃ seen, seen <+: lines ∧ RunsTo (observe env.roomId) (.initial state) seen known) ∧
      (∃ seen, seen <+: lines ∧ RunsTo (observe env.roomId) (.initial state) seen known') ∧
      s.state = known.state ∧ t.state = known'.state ∧
      (∃ between, RunsTo (observe env.roomId) known between known' ∨
        RunsTo (observe env.roomId) known' between known) ∧
      (s.primaryError = none → t.primaryError = none → t.state = s.state) := by
  intro s t
  obtain ⟨seen, known, hseen, hruns, hstate, hclean⟩ := run_watches env state lines ending
  obtain ⟨seen', known', hseen', hruns', hstate', hclean'⟩ := run_watches env' state lines ending'
  rw [hroom] at hruns' hclean'
  refine ⟨known, known', ⟨seen, hseen, hruns⟩, ⟨seen', hseen', hruns'⟩, hstate, hstate', ?_, ?_⟩
  · rcases List.prefix_or_prefix_of_prefix hseen hseen' with ⟨between, rfl⟩ | ⟨between, rfl⟩
    · obtain ⟨middle, hmiddle, hbetween⟩ := runs_append.mp hruns'
      obtain rfl := runs_unique hruns hmiddle
      exact ⟨between, .inl hbetween⟩
    · obtain ⟨middle, hmiddle, hbetween⟩ := runs_append.mp hruns
      obtain rfl := runs_unique hruns' hmiddle
      exact ⟨between, .inr hbetween⟩
  · intro hs ht
    obtain rfl := runs_unique (hclean hs) (hclean' ht)
    exact hstate'.trans hstate.symm

end Methods

/-- The heuristic policy over a connection that takes no command. -/
def refusingEnvironment : letI := compactCanonicalizer; Environment :=
  letI := compactCanonicalizer
  { heuristicEnvironment with sendRoom := fun _ _ => .error (.disconnect "Showdown socket closed unexpectedly") }

/-- Where the connection refuses Garchomp's switch, the session still knows what it has read. -/
theorem garchomp_refused_observed :
    letI := Python.asciiDatabase
    letI := garchompDecoder
    letI := compactCanonicalizer
    let start := ObservedState.initial "ash"
    let lines := metadata ++ [garchompLine, garchompEnters]
    let s := (BattleSession.initial start).run heuristicEnvironment lines none
    let t := (BattleSession.initial start).run refusingEnvironment lines none
    ∃ known known',
      (∃ seen, seen <+: lines ∧
        RunsTo (observe heuristicEnvironment.roomId) (.initial start) seen known) ∧
      (∃ seen, seen <+: lines ∧
        RunsTo (observe heuristicEnvironment.roomId) (.initial start) seen known') ∧
      s.state = known.state ∧ t.state = known'.state ∧
      (∃ between, RunsTo (observe heuristicEnvironment.roomId) known between known' ∨
        RunsTo (observe heuristicEnvironment.roomId) known' between known) ∧
      (s.primaryError = none → t.primaryError = none → t.state = s.state) := by
  let _ := Python.asciiDatabase
  let _ := garchompDecoder
  let _ := compactCanonicalizer
  have hroom : refusingEnvironment.roomId = heuristicEnvironment.roomId := rfl
  exact observation_independent heuristicEnvironment refusingEnvironment hroom
    (ObservedState.initial "ash") (metadata ++ [garchompLine, garchompEnters]) none none

end BattleBelief
