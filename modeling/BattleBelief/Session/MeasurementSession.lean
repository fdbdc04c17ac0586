import BattleBelief.Records.RecordEnvelope
import BattleBelief.Session.RecordCardinality
import BattleBelief.Session.SinkFailures
import BattleBelief.Setup.Coordinator

/-!
# Measurement Sessions

A battle session that writes its records to a sink which keeps a ledger of those that its delegate
took. The delegate may raise at any time.

- `traceSink_records`: the ledger has the records that the delegate took, in order
- `accepted_ordered`: their indices increase
- `accepted_counts`: the counters of the session are their numbers, unless the sink has failed first
-/

namespace BattleBelief

open BattleSession

section Sessions

variable [Rfc8785]

/-! ## §1 The sink -/

/-- A trace sink with a lifecycle. What it does may depend on the records that it has been handed
before, newest first. -/
structure ClosableTraceSink where
  emit : List DecisionRecord → DecisionRecord → Except PyException Unit
  flush : List DecisionRecord → Except PyException Unit
  close : List DecisionRecord → Except PyException Unit

structure RecordingTraceSink where
  delegate : ClosableTraceSink
  /-- The records handed to the delegate, newest first -/
  handed : List DecisionRecord
  /-- `records`: those that the delegate took, in order -/
  records : List DecisionRecord

namespace RecordingTraceSink

/-- The sink that `__init__` makes. -/
def create (delegate : ClosableTraceSink) : RecordingTraceSink := ⟨delegate, [], []⟩

variable (sink : RecordingTraceSink)

/-- `emit`: a record that the delegate raises on is not kept. -/
def emit (record : DecisionRecord) : Except PyException Unit × RecordingTraceSink :=
  match sink.delegate.emit sink.handed record with
  | .error err => (.error err, { sink with handed := record :: sink.handed })
  | .ok () => (.ok (), { sink with
      handed := record :: sink.handed
      records := sink.records ++ [record] })

def acceptedRecordCount : Nat := sink.records.length

def acceptedRecordDigests : Except PyException (List String) :=
  sink.records.mapM DecisionRecord.recordDigest

def flush : Except PyException Unit := sink.delegate.flush sink.handed

def close : Except PyException Unit := sink.delegate.close sink.handed

/-- The sink after these records. -/
def emitAll (records : List DecisionRecord) : RecordingTraceSink :=
  records.foldl (fun sink record => (sink.emit record).2) sink

end RecordingTraceSink

/-! ## §2 The session -/

structure BattleSessionResult where
  state : ObservedState
  primaryError : Option PyException
  roomControlOrChatCount : Nat
  explicitRequestSubmissions : Nat
  defaultSubmissions : Nat
  traceError : Option PyException
  recordError : Option PyException

/-- `result_snapshot`. -/
def BattleSession.resultSnapshot (session : BattleSession) : BattleSessionResult where
  state := session.state
  primaryError := session.primaryError
  roomControlOrChatCount := session.roomControlOrChatCount
  explicitRequestSubmissions := session.explicitRequestSubmissions
  defaultSubmissions := session.defaultSubmissions
  traceError := session.traceError
  recordError := session.recordError

/-- A battle session with a recording sink of its own, before it runs. The session
neither opens nor closes its connection. -/
structure MeasurementSession where
  connection : BattleConnection
  roomId : String
  policy : DecisionRequest → Except PyException BattleSubmission
  initialState : ObservedState
  decisionRecordContext : MeasurementRunContext
  /-- The delegate of the trace sink -/
  delegate : ClosableTraceSink

namespace MeasurementSession

variable (session : MeasurementSession)

/-- What the battle session is run with. The sink answers for its delegate. -/
def environment : Environment where
  roomId := session.roomId
  policy := session.policy
  sendRoom := session.connection.sendRoom
  emit handed record := (RecordingTraceSink.emit ⟨session.delegate, handed, []⟩ record).1
  decisionRecordContext := some session.decisionRecordContext

/-- The sink once the records of a log have been handed to it. -/
def sinkAfter (log : List SessionEntry) : RecordingTraceSink :=
  (RecordingTraceSink.create session.delegate).emitAll (records log).reverse

theorem sinkAfter_emit (log : List SessionEntry) (record : DecisionRecord) :
    session.sinkAfter (.emit record :: log) = ((session.sinkAfter log).emit record).2 := by
  show RecordingTraceSink.emitAll _ (record :: records log).reverse = _
  rw [List.reverse_cons, RecordingTraceSink.emitAll, List.foldl_append]
  rfl

variable [Python.UnicodeDatabase] [JsonDecoder]

/-- `run`. A session catches whatever its lines raise, so that `failure_result` is not asked for. -/
def run : BattleSession :=
  (BattleSession.initial session.initialState).run session.environment session.connection.lines
    session.connection.ending

/-- The sink after the run. -/
def traceSink : RecordingTraceSink := session.sinkAfter session.run.log

end MeasurementSession

/-! ## §3 The ledger -/

omit [Rfc8785] in
theorem RecordingTraceSink.emit_outcome (sink : RecordingTraceSink) (record : DecisionRecord) :
    (sink.emit record).1 = sink.delegate.emit sink.handed record := by
  unfold RecordingTraceSink.emit
  split
  · next heq => rw [heq]
  · next heq => rw [heq]

/-- The sink has been handed the records of the log, and has kept those that its delegate took. -/
theorem MeasurementSession.sinkAfter_eq (session : MeasurementSession) (log : List SessionEntry) :
    session.sinkAfter log =
      ⟨session.delegate, records log, (takenRecords session.environment log).reverse⟩ := by
  induction log with
  | nil => rfl
  | cons entry past ih =>
    cases entry with
    | emit record =>
      have houtcome : session.environment.emit (records past) record =
          session.delegate.emit (records past) record :=
        RecordingTraceSink.emit_outcome ⟨session.delegate, records past, []⟩ record
      rw [session.sinkAfter_emit, ih, RecordingTraceSink.emit]
      cases hemit : session.delegate.emit (records past) record with
      | error err =>
        have htaken : takenRecords session.environment (.emit record :: past) =
            takenRecords session.environment past := by
          simp only [takenRecords, houtcome, hemit]
        simp only [htaken]
        rfl
      | ok _ =>
        have htaken : takenRecords session.environment (.emit record :: past) =
            record :: takenRecords session.environment past := by
          simp only [takenRecords, houtcome, hemit]
        simp only [htaken, List.reverse_cons]
        rfl
    | freshRequest request => exact ih
    | sendRoom attempt => exact ih
    | battleEnd => exact ih
    | abort error => exact ih

variable [Python.UnicodeDatabase] [JsonDecoder] (session : MeasurementSession)

/-- The ledger has the records that the delegate took, in order. -/
theorem traceSink_records :
    session.traceSink.records = (takenRecords session.environment session.run.log).reverse := by
  rw [MeasurementSession.traceSink, session.sinkAfter_eq]

theorem run_settled_session : Settled session.environment session.run :=
  run_settled (settled_initial _ _) (orderly_initial _ _) _ _

theorem run_booked : Booked session.run.log := (run_settled_session session).booked rfl

/-- The delegate took all of the records, or it raised on the last one. -/
theorem accepted_or_lost :
    takenRecords session.environment session.run.log = records session.run.log ∨
      ∃ lost, records session.run.log = lost :: takenRecords session.environment session.run.log ∧
        SinkRaisedOn session.environment session.run.log lost :=
  takenRecords_eq (run_settled_session session).silent

theorem taken_sublist :
    (takenRecords session.environment session.run.log).Sublist (records session.run.log) := by
  rcases accepted_or_lost session with hall | ⟨lost, heq, -⟩
  · rw [hall]
  · rw [heq]
    exact List.sublist_cons_self _ _

/-- The indices of the ledger increase. -/
theorem accepted_ordered :
    session.traceSink.records.Pairwise fun earlier later =>
      earlier.decisionIndex < later.decisionIndex := by
  have hdescending : ((records session.run.log).map fun record => record.decisionIndex).Pairwise
      fun later earlier => earlier < later := by
    rw [(run_booked session).indices, List.pairwise_map, List.pairwise_reverse]
    exact List.pairwise_lt_range.imp fun hlt => Int.ofNat_lt.mpr hlt
  rw [traceSink_records, List.pairwise_reverse]
  exact (List.pairwise_map.mp hdescending).sublist (taken_sublist session)

/-- All of the ledger is about the run context of the session. -/
theorem accepted_context {record : DecisionRecord} (h : record ∈ session.traceSink.records) :
    record.runContextDigest = session.decisionRecordContext.runContextDigest := by
  rw [traceSink_records, List.mem_reverse] at h
  have hrecord := (taken_sublist session).mem h
  obtain ⟨context, hcontext, hdigest⟩ := run_context session.environment session.initialState
    session.connection.lines session.connection.ending record hrecord
  rw [hdigest, ← Option.some.inj hcontext]

/-! ## §4 Counters -/

/-- How many of the records are of submissions with this provenance. -/
def submittedCount (provenance : ActionProvenance) (records : List DecisionRecord) : Nat :=
  records.countP fun record =>
    record.recordStatus = .submitted && record.submissionProvenance = some provenance

omit [Rfc8785] [Python.UnicodeDatabase] [JsonDecoder] in
/-- A record has the provenance of its submission. -/
theorem DecisionRecord.submissionProvenance_eq (record : DecisionRecord) :
    record.submissionProvenance = record.selectedSubmission.map fun submission =>
      submission.provenance := by
  have hchecks := firstFault_eq_none.mp record.content
  simp only [RecordFields.contentChecks, List.cons_append, List.forall_mem_cons] at hchecks
  obtain ⟨-, -, -, -, -, hmissing, hmatching, -⟩ := hchecks
  cases hselected : record.selectedSubmission with
  | none => simpa [hselected] using hmissing
  | some submission => simpa [hselected] using hmatching

omit [Rfc8785] [Python.UnicodeDatabase] [JsonDecoder] in
/-- In booked logs the submissions on record are the commands that the connection took. -/
theorem Booked.submittedCount {log : List SessionEntry} (h : Booked log)
    (provenance : ActionProvenance) :
    submittedCount provenance (records log) = succeededWith provenance log := by
  have hsubmissions := congrArg (List.countP fun submission : Int × String × Option BattleSubmission =>
    submission.2.2.map (fun selected => selected.provenance) = some provenance) h.submitted
  rw [List.countP_map, List.countP_map, List.countP_filter, List.countP_filter] at hsubmissions
  refine Eq.trans ?_ (hsubmissions.trans ?_)
  · refine List.countP_congr fun record _ => ?_
    rw [record.submissionProvenance_eq, Bool.and_comm]
    exact Iff.rfl
  · refine List.countP_congr fun attempt _ => ?_
    simp only [Function.comp, SendAttempt.submitted, Option.map_some, Option.some.injEq,
      Bool.and_eq_true, decide_eq_true_eq]
    exact and_comm

/-- The counter of a session for a provenance. -/
def BattleSession.submissions (session : BattleSession) : ActionProvenance → Nat
  | .explicitRequest => session.explicitRequestSubmissions
  | .serverDefault => session.defaultSubmissions

theorem run_submissions (provenance : ActionProvenance) :
    session.run.submissions provenance = submittedCount provenance (records session.run.log) := by
  rw [(run_booked session).submittedCount]
  cases provenance with
  | explicitRequest => exact (run_settled_session session).explicit
  | serverDefault => exact (run_settled_session session).default

theorem submittedCount_accepted (provenance : ActionProvenance) :
    submittedCount provenance session.traceSink.records =
      submittedCount provenance (takenRecords session.environment session.run.log) := by
  rw [traceSink_records, submittedCount, List.countP_reverse, submittedCount]

/-- The ledger has no more submissions than the session has counted. -/
theorem accepted_le (provenance : ActionProvenance) :
    submittedCount provenance session.traceSink.records ≤ session.run.submissions provenance := by
  rw [submittedCount_accepted, run_submissions]
  exact (taken_sublist session).countP_le

/-- The ledger has the submissions that the session has counted, unless the failure of the sink is
the primary error. -/
theorem accepted_counts :
    (∀ provenance, submittedCount provenance session.traceSink.records =
        session.run.submissions provenance) ∨
      session.run.traceError.isSome ∧ session.run.primaryError = some .traceSinkFailure := by
  have hblames := run_blames session.environment session.initialState session.connection.lines
    session.connection.ending
  have htrace := run_traceError_iff session.environment session.initialState session.connection.lines
    session.connection.ending
  simp only [submittedCount_accepted, run_submissions]
  rcases accepted_or_lost session with hall | ⟨lost, hlost, hraised⟩
  · rw [hall]
    exact .inl fun _ => rfl
  · by_cases hsubmitted : lost.recordStatus = .submitted
    · right
      obtain ⟨past, hsuffix, herror⟩ := hraised
      exact ⟨htrace.mpr ⟨lost, past, hsuffix, herror⟩,
        hblames.submitted lost ⟨past, hsuffix, herror⟩ hsubmitted⟩
    · left
      intro provenance
      rw [hlost, submittedCount, submittedCount, List.countP_cons_of_neg]
      simp [hsubmitted]

end Sessions

end BattleBelief
