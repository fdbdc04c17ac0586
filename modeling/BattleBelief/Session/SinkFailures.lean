import BattleBelief.Session.StatusMatrix
import BattleBelief.Session.SubmittedRecords

/-!
# Sink Failures

What a session tells of a sink that raised. Its trace error is there exactly when the sink has raised
on a record. Where that was the record of a submission, the session had met no error before, so that
the failure of the sink is its primary error: without that record the counters of the session are
ahead of the records that the sink has.

- `Blames`: what holds at every moment, also while an exception is on its way out
- `run_blames`: it holds in the end
- `run_traceError_iff`: the trace error tells whether the sink has raised
-/

namespace BattleBelief

open BattleSession Outcomes

section Methods

variable [Rfc8785] {env : Environment} {s t : BattleSession}

/-! ## §1 The invariant -/

theorem sinkRaisedOn_cons {log : List SessionEntry} {entry : SessionEntry} {record : DecisionRecord} :
    SinkRaisedOn env (entry :: log) record ↔ SinkRaisedOn env log record ∨
      entry = .emit record ∧ ∃ error, env.emit (records log) record = .error error := by
  constructor
  · rintro ⟨past, hsuffix, herror⟩
    rcases List.suffix_cons_iff.mp hsuffix with heq | hold
    · obtain ⟨rfl, rfl⟩ := List.cons.inj heq
      exact .inr ⟨rfl, herror⟩
    · exact .inl ⟨past, hold, herror⟩
  · rintro (⟨past, hsuffix, herror⟩ | ⟨rfl, herror⟩)
    · exact ⟨past, hsuffix.trans (List.suffix_cons entry log), herror⟩
    · exact ⟨log, List.suffix_refl _, herror⟩

/-- A failure to record has been taken down, and one on the record of a submission is the primary
error. -/
structure Blames (env : Environment) (s : BattleSession) : Prop where
  traced : s.traceError.isSome → s.traceFailed = true
  failed : s.traceFailed = true → s.traceError.isSome ∨ s.recordError.isSome
  submitted : ∀ record, SinkRaisedOn env s.log record → record.recordStatus = .submitted →
    s.primaryError = some .traceSinkFailure

/-- `t` has the log and the failures of `s`. -/
structure SameFailures (s t : BattleSession) : Prop where
  log : t.log = s.log
  traceError : t.traceError = s.traceError
  recordError : t.recordError = s.recordError
  traceFailed : t.traceFailed = s.traceFailed
  primaryError : t.primaryError = s.primaryError
  done : t.done = s.done

theorem Blames.congr (h : Blames env s) (hst : SameFailures s t) : Blames env t where
  traced := by
    rw [hst.traceError, hst.traceFailed]
    exact h.traced
  failed := by
    rw [hst.traceError, hst.recordError, hst.traceFailed]
    exact h.failed
  submitted := by
    rw [hst.log, hst.primaryError]
    exact h.submitted

theorem Blames.occur (h : Blames env s) (error : PyException) : Blames env (s.occur error) :=
  h.congr ⟨rfl, rfl, rfl, rfl, rfl, rfl⟩

/-- The primary error of before stays. -/
theorem Blames.notePrimary (h : Blames env s) (error : PyException) :
    Blames env (s.notePrimary error) where
  traced := h.traced
  failed := h.failed
  submitted record hraised hstatus := by
    show some (s.primaryError.getD error) = _
    rw [h.submitted record hraised hstatus]
    rfl

theorem Blames.enter (h : Blames env s) {entry : SessionEntry}
    (hnot : ∀ record, entry ≠ .emit record) : Blames env (s.enter entry) where
  traced := h.traced
  failed := h.failed
  submitted record hraised hstatus := by
    rcases sinkRaisedOn_cons.mp hraised with hold | ⟨heq, -⟩
    · exact h.submitted record hold hstatus
    · exact absurd heq (hnot record)

/-- A sink that raises on the record of a submission is the first to fail. -/
theorem Blames.emitRecord (h : Blames env s) (record : DecisionRecord)
    (hclean : record.recordStatus = .submitted → s.primaryError = none) :
    Blames env (s.emitRecord env record) := by
  unfold BattleSession.emitRecord
  cases hemit : env.emit (records s.log) record with
  | error error =>
    refine ⟨fun _ => rfl, fun _ => .inl rfl, fun other hraised hstatus => ?_⟩
    show some (s.primaryError.getD .traceSinkFailure) = _
    rcases sinkRaisedOn_cons.mp hraised with hold | ⟨heq, -⟩
    · rw [h.submitted other hold hstatus]
      rfl
    · obtain rfl := SessionEntry.emit.inj heq
      rw [hclean hstatus]
      rfl
  | ok _ =>
    refine ⟨h.traced, h.failed, fun other hraised hstatus => ?_⟩
    rcases sinkRaisedOn_cons.mp hraised with hold | ⟨heq, error, herror⟩
    · exact h.submitted other hold hstatus
    · obtain rfl := SessionEntry.emit.inj heq
      rw [hemit] at herror
      cases herror

theorem Blames.finalizePending (h : Blames env s) {status : DecisionRecordStatus}
    (errorCode : Option DecisionRecordErrorCode) (selected : Option BattleSubmission)
    (hclean : status = .submitted → s.primaryError = none) :
    Blames env (s.finalizePending env status errorCode selected) := by
  have hdropped : Blames env { s with pendingTrace := none } := h.congr ⟨rfl, rfl, rfl, rfl, rfl, rfl⟩
  unfold BattleSession.finalizePending
  split
  · exact h
  · split
    · exact hdropped
    · simp only
      split_ifs
      · exact hdropped
      · split
        · refine ⟨fun _ => rfl, fun _ => .inr rfl, fun record hraised hstatus => ?_⟩
          show some (s.primaryError.getD _) = _
          rw [h.submitted record hraised hstatus]
          rfl
        · next record hcreate =>
          have hfields := RecordFields.toRecord_eq_ok hcreate
          have hstatus : record.recordStatus = status := by
            rw [hfields]
            rfl
          apply hdropped.emitRecord record
          rw [hstatus]
          exact hclean

/-- A session that goes on after a record has no new primary error. -/
theorem finalizePending_primaryError (env : Environment) (s : BattleSession)
    (status : DecisionRecordStatus) (errorCode : Option DecisionRecordErrorCode)
    (selected : Option BattleSubmission) :
    (s.finalizePending env status errorCode selected).done = true ∨
      (s.finalizePending env status errorCode selected).primaryError = s.primaryError := by
  unfold BattleSession.finalizePending
  split
  · exact .inr rfl
  · split
    · exact .inr rfl
    · simp only
      split_ifs
      · exact .inr rfl
      · split
        · exact .inl rfl
        · unfold BattleSession.emitRecord
          split
          · exact .inl rfl
          · exact .inr rfl

/-! ## §2 Methods -/

/-- The outcome that every method keeps to. -/
def KeepsBlame (env : Environment) (result : Except Raised BattleSession) : Prop :=
  Satisfies (Blames env) (fun raised => Blames env raised.session) result

/-- The outcome of a method that touches no failures, but perhaps raises. -/
def KeepsFailures (s : BattleSession) (result : Except Raised BattleSession) : Prop :=
  Satisfies (SameFailures s) (fun raised => SameFailures s raised.session) result

omit [Rfc8785] in
theorem fail_keepsFailures (s : BattleSession) (error : PyException) :
    KeepsFailures s (s.fail error) :=
  .error ⟨rfl, rfl, rfl, rfl, rfl, rfl⟩

theorem Blames.keeps (h : Blames env s) {result : Except Raised BattleSession}
    (hkeeps : KeepsFailures s result) : KeepsBlame env result :=
  hkeeps.mono (fun _ hst => h.congr hst) fun _ hst => h.congr hst

theorem Blames.fail (h : Blames env s) (error : PyException) : KeepsBlame env (s.fail error) :=
  h.keeps (fail_keepsFailures s error)

theorem Blames.refuse (h : Blames env s) (error : PyException) {status : DecisionRecordStatus}
    (hstatus : status ≠ .submitted) (errorCode : DecisionRecordErrorCode)
    (selected : Option BattleSubmission) :
    KeepsBlame env (s.refuse env error status errorCode selected) := by
  have hnoted : Blames env ((s.occur error).notePrimary error) := (h.occur error).notePrimary error
  exact .error (hnoted.finalizePending (some errorCode) selected fun heq => absurd heq hstatus)

/-- A command goes out of a session without errors, so that only its record can bring the first. -/
theorem sendCommand_keepsBlame (h : Blames env s) (hclean : s.primaryError = none)
    (request : DecisionRequest) (authorized : BattleSubmission) (command : String) :
    KeepsBlame env (s.sendCommand env request authorized command) := by
  unfold sendCommand
  simp only
  have hentered : ∀ attempt, Blames env (s.enter (.sendRoom attempt)) := fun attempt =>
    h.enter fun _ heq => by cases heq
  cases env.sendRoom (sends s.log) command with
  | error err => exact (hentered _).refuse err (by decide) (sendErrorCode err) (some authorized)
  | ok _ =>
    simp only [countSubmission_eq]
    refine .ok (Blames.finalizePending ?_ none (some authorized) fun _ => hclean)
    exact (hentered _).congr ⟨rfl, rfl, rfl, rfl, rfl, rfl⟩

variable [Python.UnicodeDatabase]

theorem refreshPendingTraceState_keepsFailures (s : BattleSession) :
    KeepsFailures s s.refreshPendingTraceState := by
  unfold refreshPendingTraceState
  split
  · exact .ok ⟨rfl, rfl, rfl, rfl, rfl, rfl⟩
  · split
    · exact fail_keepsFailures s _
    · exact .ok ⟨rfl, rfl, rfl, rfl, rfl, rfl⟩

theorem openTrace_keepsFailures (env : Environment) (s : BattleSession) (request : DecisionRequest) :
    KeepsFailures s (s.openTrace env request) := by
  unfold openTrace
  split_ifs
  · exact .ok ⟨rfl, rfl, rfl, rfl, rfl, rfl⟩
  · split
    · exact fail_keepsFailures s _
    · split
      · exact fail_keepsFailures s _
      · exact .ok ⟨rfl, rfl, rfl, rfl, rfl, rfl⟩

theorem submitCandidate_keepsBlame (h : Blames env s) (hclean : s.primaryError = none)
    (request : DecisionRequest) (candidate : BattleSubmission) :
    KeepsBlame env (s.submitCandidate env request candidate) := by
  unfold submitCandidate
  split
  · split
    · exact h.refuse _ (by decide) _ _
    · exact h.fail _
  · split
    · exact h.refuse _ (by decide) _ _
    · exact sendCommand_keepsBlame h hclean request _ _

theorem submit_keepsBlame (h : Blames env s) (hclean : s.primaryError = none)
    (request : DecisionRequest) : KeepsBlame env (s.submit env request) := by
  unfold submit
  split_ifs
  · exact .ok (h.congr ⟨rfl, rfl, rfl, rfl, rfl, rfl⟩)
  · refine .ok (Blames.finalizePending ?_ none none fun heq => by cases heq)
    exact h.congr ⟨rfl, rfl, rfl, rfl, rfl, rfl⟩
  · split
    · split
      · exact h.refuse _ (by decide) _ _
      · exact h.fail _
    · exact submitCandidate_keepsBlame h hclean request _

theorem retryPending_keepsBlame (h : Blames env s) (hclean : s.primaryError = none)
    (reason : String) (strict : Bool) : KeepsBlame env (s.retryPending env reason strict) := by
  unfold retryPending
  split
  · exact .ok h
  · next request _ =>
    simp only
    split
    · exact h.fail _
    · split
      · exact h.refuse _ (by decide) _ _
      · split_ifs
        · exact h.refuse _ (by decide) _ _
        · exact .ok h
      · refine Satisfies.bind (Q := SameFailures s) ?_ fun t ht => ?_
        · exact (refreshPendingTraceState_keepsFailures s).mono (fun _ => id) fun _ => h.congr
        · exact submit_keepsBlame (h.congr ht) (ht.primaryError.trans hclean) request

theorem processBattleEvent_keepsBlame (h : Blames env s) (hclean : s.primaryError = none)
    (payload : String) : KeepsBlame env (s.processBattleEvent env payload) := by
  unfold processBattleEvent
  split
  · exact h.fail _
  · next event state _ =>
    have hobserved : Blames env { s with state := state } := h.congr ⟨rfl, rfl, rfl, rfl, rfl, rfl⟩
    simp only
    split_ifs
    · have hentered : Blames env (({ s with state := state } : BattleSession).enter .battleEnd) :=
        hobserved.enter fun _ heq => by cases heq
      have hdiscarded : Blames env ((({ s with state := state } : BattleSession).enter
          .battleEnd).finalizePending env .terminallyDiscarded none none) :=
        hentered.finalizePending none none fun heq => by cases heq
      exact .ok ⟨hdiscarded.traced, hdiscarded.failed, hdiscarded.submitted⟩
    · split
      · exact retryPending_keepsBlame hobserved hclean _ _
      · exact .ok hobserved

variable [JsonDecoder]

theorem processRequest_keepsBlame (h : Blames env s) (hclean : s.primaryError = none)
    (payload : String) : KeepsBlame env (s.processRequest env payload) := by
  unfold processRequest
  split
  · exact h.fail _
  · next request _ =>
    split
    · exact h.fail _
    · exact .ok h
    · have hsuperseded : Blames env (s.finalizePending env .supersededBeforeSelection none none) :=
        h.finalizePending none none fun heq => by cases heq
      have hprimary := finalizePending_primaryError env s .supersededBeforeSelection none none
      have haccepted : Blames env (s.acceptFresh env request) :=
        (hsuperseded.enter fun _ heq => by cases heq).congr ⟨rfl, rfl, rfl, rfl, rfl, rfl⟩
      refine Satisfies.bind (Q := SameFailures (s.acceptFresh env request)) ?_ fun t ht => ?_
      · exact (openTrace_keepsFailures env _ request).mono (fun _ => id) fun _ => haccepted.congr
      · split_ifs with hdone
        · exact .ok (haccepted.congr ht)
        · -- the record of the superseded request has not failed either
          have hrunning : (s.finalizePending env .supersededBeforeSelection none none).done ≠ true :=
            fun heq => hdone (ht.done.trans heq)
          have hkept := hprimary.resolve_left hrunning
          exact retryPending_keepsBlame (haccepted.congr ht)
            (ht.primaryError.trans (hkept.trans hclean)) _ _

theorem processLine_keepsBlame (h : Blames env s) (hclean : s.primaryError = none)
    (payload : String) : KeepsBlame env (s.processLine env payload) := by
  unfold processLine
  split
  · exact processBattleEvent_keepsBlame h hclean payload
  · exact processRequest_keepsBlame h hclean payload
  · exact h.fail _
  · unfold processTimer
    split
    · exact h.fail _
    · exact .ok (h.congr ⟨rfl, rfl, rfl, rfl, rfl, rfl⟩)
  · exact .ok (h.congr ⟨rfl, rfl, rfl, rfl, rfl, rfl⟩)
  · exact h.fail _

/-! ## §3 Runs -/

omit [Python.UnicodeDatabase] [JsonDecoder] in
theorem Blames.abort (h : Blames env s) (error : PyException) : Blames env (s.abort env error) := by
  have hentered : Blames env ((s.notePrimary error).enter (.abort error)) :=
    (h.notePrimary error).enter fun _ heq => by cases heq
  suffices hfinal : Blames env (((s.notePrimary error).enter (.abort error)).finalizeAborted env error) from
    ⟨hfinal.traced, hfinal.failed, hfinal.submitted⟩
  unfold finalizeAborted
  split
  · exact hentered
  · split_ifs
    · exact hentered.finalizePending none none fun heq => by cases heq
    · exact hentered.finalizePending _ none fun heq => by cases heq

omit [Python.UnicodeDatabase] [JsonDecoder] in
/-- A session that has not ended has no primary error. -/
theorem Settled.clean (h : Settled env s) (hdone : s.done = false) : s.primaryError = none := by
  rw [h.first, h.flawless hdone]
  rfl

theorem feed_blames (h : Blames env s) (hsettled : Settled env s) (line : RoomLine) :
    Blames env (s.feed env line) := by
  unfold feed
  split_ifs with hdone hroom
  · exact h
  · exact h
  · have hclean := hsettled.clean (by simpa using hdone)
    have hline := processLine_keepsBlame h hclean line.payload
    cases hresult : s.processLine env line.payload with
    | ok t => exact hline.of_ok hresult
    | error raised => exact (hline.of_error hresult).abort raised.error

theorem feedAll_blames (h : Blames env s) (hsettled : Settled env s) (horderly : Orderly env s)
    (lines : List RoomLine) : Blames env (s.feedAll env lines) := by
  induction lines generalizing s with
  | nil => exact h
  | cons line rest ih =>
    exact ih (feed_blames h hsettled line) (feed_settled hsettled horderly line)
      (feed_orderly horderly line)

/-- A session blames the sink for its failures, after every run. -/
theorem run_blames (env : Environment) (state : ObservedState) (lines : List RoomLine)
    (ending : Option PyException) : Blames env ((BattleSession.initial state).run env lines ending) := by
  have hstart : Blames env (.initial state) := by
    refine ⟨fun heq => (by cases heq), fun heq => (by cases heq), ?_⟩
    rintro record ⟨past, hsuffix, -⟩
    cases List.eq_nil_of_suffix_nil hsuffix
  have hlines := feedAll_blames hstart (settled_initial env state) (orderly_initial env state) lines
  unfold run
  cases ending with
  | none => exact hlines
  | some error =>
    simp only
    split_ifs
    · exact hlines
    · exact (hlines.occur error).abort error

/-- The trace error tells whether the sink has raised. -/
theorem run_traceError_iff (env : Environment) (state : ObservedState) (lines : List RoomLine)
    (ending : Option PyException) :
    let s := (BattleSession.initial state).run env lines ending
    s.traceError.isSome ↔ SinkRaised env s.log := by
  intro s
  have hs : Settled env s :=
    run_settled (settled_initial env state) (orderly_initial env state) lines ending
  have hblames : Blames env s := run_blames env state lines ending
  constructor
  · intro herror
    exact hs.blamed (hblames.traced herror)
  · intro hraised
    have hfailed : s.traceFailed = true := by
      by_contra hnot
      exact hs.healthy (Bool.eq_false_iff.mpr hnot) hraised
    rcases hblames.failed hfailed with htrace | hrecord
    · exact htrace
    · rw [hs.constructed] at hrecord
      cases hrecord

/-- Every record of a run is one of its run context. -/
theorem run_context (env : Environment) (state : ObservedState) (lines : List RoomLine)
    (ending : Option PyException) :
    ∀ record ∈ records ((BattleSession.initial state).run env lines ending).log,
      ∃ context, env.decisionRecordContext = some context ∧
        record.runContextDigest = context.runContextDigest := by
  intro record hrecord
  have hmade := records_run env state lines ending
  rw [← List.mem_reverse, hmade] at hrecord
  obtain ⟨call, -, hcall⟩ := List.mem_filterMap.mp hrecord
  unfold FinalizeCall.made at hcall
  split at hcall
  · next pending context _ hcontext =>
    split_ifs at hcall
    have hcreate : call.construct context pending = .ok record := by
      cases hresult : call.construct context pending with
      | error err =>
        rw [hresult] at hcall
        cases hcall
      | ok made =>
        rw [hresult] at hcall
        rw [Option.some.inj hcall]
    have hfields := RecordFields.toRecord_eq_ok hcreate
    refine ⟨context, hcontext, ?_⟩
    rw [hfields]
    rfl
  · cases hcall

end Methods

end BattleBelief
