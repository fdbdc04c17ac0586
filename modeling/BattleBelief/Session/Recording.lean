import BattleBelief.Session.ActionSafety

/-!
# Recording

The log of a session read as an account of its requests. Where records are written, the log is
`Booked`: a fresh request is answered by a command at most, and then by one record, before the next
one comes in. Whatever the sink does, the session falls silent once the sink has raised.

`Trail` holds at every moment, also while an exception is on its way out. `Settled` adds what holds
between two lines.
-/

namespace BattleBelief

open BattleSession Outcomes

/-! ## §1 The log as an account -/

/-- The latest fresh request, if there is no record of it yet. -/
def unrecorded : List SessionEntry → Option DecisionRequest
  | [] => none
  | .freshRequest request :: _ => some request
  | .emit _ :: _ => none
  | _ :: past => unrecorded past

/-- A command or a record. -/
def SessionEntry.isHandover : SessionEntry → Bool
  | .sendRoom _ => true
  | .emit _ => true
  | _ => false

/-- The record is one of this request. -/
structure RecordOf (request : DecisionRequest) (record : DecisionRecord) : Prop where
  rqid : record.requestIdentity.rqid = request.identity.rqid
  requestDigest : record.requestIdentity.requestDigest = request.identity.requestDigest

/-- Every request has one record, and a command before it at most; its index is the number of fresh
requests before it. A command that the connection took is at once followed by its record. -/
inductive Booked : List SessionEntry → Prop where
  | nil : Booked []
  | fresh {past : List SessionEntry} (request : DecisionRequest) (h : Booked past)
      (hnone : unrecorded past = none) : Booked (.freshRequest request :: past)
  | failed {past : List SessionEntry} (attempt : SendAttempt) (h : Booked past)
      (hopen : unrecorded past = some attempt.request) (error : PyException)
      (hraised : attempt.outcome = .error error) : Booked (.sendRoom attempt :: past)
  | answered {past : List SessionEntry} (attempt : SendAttempt) (record : DecisionRecord)
      (h : Booked past) (hopen : unrecorded past = some attempt.request)
      (hsent : attempt.outcome = .ok ()) (hrecord : RecordOf attempt.request record)
      (hindex : record.decisionIndex + 1 = (freshRequests past).length)
      (hstatus : record.recordStatus = .submitted)
      (hselected : record.selectedSubmission = some attempt.submission) :
      Booked (.emit record :: .sendRoom attempt :: past)
  | disposed {past : List SessionEntry} (request : DecisionRequest) (record : DecisionRecord)
      (h : Booked past) (hopen : unrecorded past = some request) (hrecord : RecordOf request record)
      (hindex : record.decisionIndex + 1 = (freshRequests past).length)
      (hstatus : record.recordStatus ≠ .submitted) : Booked (.emit record :: past)
  | ended {past : List SessionEntry} (entry : SessionEntry) (h : Booked past) (hend : entry.isEnd) :
      Booked (entry :: past)

theorem unrecorded_cons_end {entry : SessionEntry} (h : entry.isEnd) (log : List SessionEntry) :
    unrecorded (entry :: log) = unrecorded log := by
  cases entry <;> first | rfl | cases h

/-- A request without a record is the latest one. -/
theorem head_of_unrecorded {log : List SessionEntry} {request : DecisionRequest}
    (h : unrecorded log = some request) : (freshRequests log).head? = some request := by
  induction log with
  | nil => cases h
  | cons entry past ih =>
    cases entry with
    | freshRequest other =>
      obtain rfl := Option.some.inj h
      rfl
    | emit record => cases h
    | _ => exact ih h

/-- A command that the connection took. -/
def SendAttempt.succeeded (attempt : SendAttempt) : Bool :=
  match attempt.outcome with
  | .ok () => true
  | .error _ => false

/-- How many commands with this provenance the connection took. -/
def succeededWith (provenance : ActionProvenance) (log : List SessionEntry) : Nat :=
  (sends log).countP fun attempt =>
    attempt.succeeded && attempt.submission.provenance = provenance

/-! ## §2 The sink -/

section Sink

variable [Rfc8785]

/-- The sink raised on a record. -/
def SinkRaised (env : Environment) (log : List SessionEntry) : Prop :=
  ∃ record past, .emit record :: past <:+ log ∧ ∃ error, env.emit (records past) record = .error error

/-- The errors that the log tells of. -/
inductive ErrorIn (env : Environment) (log : List SessionEntry) : PyException → Prop where
  | send (attempt : SendAttempt) (error : PyException) (hmem : .sendRoom attempt ∈ log)
      (hraised : attempt.outcome = .error error) : ErrorIn env log error
  | abort (error : PyException) (hmem : .abort error ∈ log) : ErrorIn env log error
  | sink (hraised : SinkRaised env log) : ErrorIn env log .traceSinkFailure

variable {env : Environment} {log : List SessionEntry} {entry : SessionEntry}

theorem SinkRaised.cons (h : SinkRaised env log) (entry : SessionEntry) :
    SinkRaised env (entry :: log) := by
  obtain ⟨record, past, hsuffix, herror⟩ := h
  exact ⟨record, past, hsuffix.trans (List.suffix_cons entry log), herror⟩

/-- The sink has raised by now if it has raised before, or on the newest entry. -/
theorem sinkRaised_cons :
    SinkRaised env (entry :: log) ↔ SinkRaised env log ∨ ∃ record, entry = .emit record ∧
      ∃ error, env.emit (records log) record = .error error := by
  constructor
  · rintro ⟨record, past, hsuffix, herror⟩
    rcases List.suffix_cons_iff.mp hsuffix with heq | hold
    · obtain ⟨rfl, rfl⟩ := List.cons.inj heq
      exact .inr ⟨record, rfl, herror⟩
    · exact .inl ⟨record, past, hold, herror⟩
  · rintro (h | ⟨record, rfl, herror⟩)
    · exact h.cons entry
    · exact ⟨record, log, List.suffix_refl _, herror⟩

theorem sinkRaised_cons_of_not_emit (h : ∀ record, entry ≠ .emit record) :
    SinkRaised env (entry :: log) ↔ SinkRaised env log := by
  rw [sinkRaised_cons]
  constructor
  · rintro (hold | ⟨record, heq, -⟩)
    · exact hold
    · exact absurd heq (h record)
  · exact .inl

/-- The errors of a longer log are those of its newest entry and the older ones. -/
theorem ErrorIn.of_cons {error : PyException} (h : ErrorIn env (entry :: log) error) :
    ErrorIn env log error ∨ (∃ attempt, entry = .sendRoom attempt ∧ attempt.outcome = .error error) ∨
      entry = .abort error ∨ error = .traceSinkFailure ∧ ∃ record, entry = .emit record ∧
        ∃ raised, env.emit (records log) record = .error raised := by
  cases h with
  | send attempt error hmem hraised =>
    rcases List.mem_cons.mp hmem with heq | hold
    · exact .inr (.inl ⟨attempt, heq.symm, hraised⟩)
    · exact .inl (.send attempt error hold hraised)
  | abort error hmem =>
    rcases List.mem_cons.mp hmem with heq | hold
    · exact .inr (.inr (.inl heq.symm))
    · exact .inl (.abort error hold)
  | sink hraised =>
    rcases sinkRaised_cons.mp hraised with hold | hnew
    · exact .inl (.sink hold)
    · exact .inr (.inr (.inr ⟨rfl, hnew⟩))

end Sink

/-! ## §3 The trail -/

/-- A trace that a record can be made of. -/
structure Recordable (pending : PendingTrace) : Prop where
  bounded : (pending.decisionIndex : Int) ≤ pending.request.identity.rqid
  state : isDigest pending.observedStateDigest = true
  safe : isDigest pending.safeSubmissionSetDigest = true
  identity : ∃ identity, PublicRequestIdentity.fromInternal pending.request.identity = .ok identity

/-- The trace of the latest fresh request, which has no record yet. -/
structure Traceable (log : List SessionEntry) (pending : PendingTrace) : Prop
    extends Recordable pending where
  unrecorded : unrecorded log = some pending.request
  index : pending.decisionIndex + 1 = (freshRequests log).length

section Trails

variable [Rfc8785]

/-- What holds of a session at every moment, but for the books. -/
structure Trail (env : Environment) (s : BattleSession) : Prop where
  explicit : s.explicitRequestSubmissions = succeededWith .explicitRequest s.log
  default : s.defaultSubmissions = succeededWith .serverDefault s.log
  silent : ∀ entry past, entry :: past <:+ s.log → SinkRaised env past → entry.isHandover = false
  healthy : s.traceFailed = false → ¬SinkRaised env s.log
  blamed : s.traceFailed = true → SinkRaised env s.log
  stopped : s.traceFailed = true → s.done = true
  constructed : s.recordError = none
  noticed : ∀ error, ErrorIn env s.log error → error ∈ s.errors
  numbered : ∀ last, (freshRequests s.log).head? = some last →
    ((freshRequests s.log).length : Int) ≤ last.identity.rqid + 1
  untraced : env.decisionRecordContext = none → s.pendingTrace = none
  traced : ∀ pending, s.pendingTrace = some pending → Traceable s.log pending

/-- The log of a session that writes records is booked. -/
def KeepsBooks (env : Environment) (s : BattleSession) : Prop :=
  env.decisionRecordContext.isSome → Booked s.log

/-- What holds of a session between two lines. -/
structure Settled (env : Environment) (s : BattleSession) : Prop extends Trail env s where
  booked : KeepsBooks env s
  first : s.primaryError = s.errors.getLast?
  flawless : s.done = false → s.errors = []
  counted : s.done = false → env.decisionRecordContext.isSome →
    s.nextDecisionIndex = (freshRequests s.log).length
  awaiting : s.done = false → env.decisionRecordContext.isSome → ∀ request,
    s.pendingRequest = some request → ∃ pending, s.pendingTrace = some pending ∧
      pending.request = request
  closed : s.done = false → env.decisionRecordContext.isSome → s.pendingRequest = none →
    unrecorded s.log = none

/-- An exception on its way out: it has been taken down, and the first error is the primary one or
will be. -/
structure TrailRaised (env : Environment) (raised : Raised) : Prop extends
    Trail env raised.session where
  booked : KeepsBooks env raised.session
  noticedError : raised.error ∈ raised.session.errors
  first : raised.session.errors.getLast? = some (raised.session.primaryError.getD raised.error)

/-- The outcome that every method keeps to. -/
def KeepsTrail (env : Environment) (result : Except Raised BattleSession) : Prop :=
  Satisfies (Settled env) (TrailRaised env) result

/-- `t` differs from `s` in nothing that the trail is about, but that it may have dropped the
pending trace, taken down more errors or ended. -/
structure Continues (s t : BattleSession) : Prop where
  explicit : t.explicitRequestSubmissions = s.explicitRequestSubmissions
  default : t.defaultSubmissions = s.defaultSubmissions
  log : t.log = s.log
  traceFailed : t.traceFailed = s.traceFailed
  recordError : t.recordError = s.recordError
  done : s.done = true → t.done = true
  errors : s.errors ⊆ t.errors
  pendingTrace : ∀ pending, t.pendingTrace = some pending → s.pendingTrace = some pending

variable {env : Environment} {s t : BattleSession}

theorem Trail.continue (h : Trail env s) (hst : Continues s t) : Trail env t where
  explicit := by rw [hst.explicit, hst.log, h.explicit]
  default := by rw [hst.default, hst.log, h.default]
  silent := by
    rw [hst.log]
    exact h.silent
  healthy := by
    rw [hst.log, hst.traceFailed]
    exact h.healthy
  blamed := by
    rw [hst.log, hst.traceFailed]
    exact h.blamed
  stopped := by
    rw [hst.traceFailed]
    exact fun hfailed => hst.done (h.stopped hfailed)
  constructed := by rw [hst.recordError, h.constructed]
  noticed := by
    rw [hst.log]
    exact fun error herror => hst.errors (h.noticed error herror)
  numbered := by
    rw [hst.log]
    exact h.numbered
  untraced := fun hcontext => by
    cases hpending : t.pendingTrace with
    | none => rfl
    | some pending =>
      have hold := hst.pendingTrace pending hpending
      rw [h.untraced hcontext] at hold
      cases hold
  traced := fun pending hpending => by
    rw [hst.log]
    exact h.traced pending (hst.pendingTrace pending hpending)

omit [Rfc8785] in
theorem continues_occur (s : BattleSession) (error : PyException) :
    Continues s (s.occur error) :=
  ⟨rfl, rfl, rfl, rfl, rfl, id, fun _ hmem => List.mem_cons_of_mem _ hmem, fun _ h => h⟩

omit [Rfc8785] in
theorem continues_notePrimary (s : BattleSession) (error : PyException) :
    Continues s (s.notePrimary error) :=
  ⟨rfl, rfl, rfl, rfl, rfl, id, fun _ hmem => hmem, fun _ h => h⟩

/-- A session that has not ended has not failed to record either. -/
theorem Trail.traceFailed_eq_false (h : Trail env s) (hdone : s.done = false) :
    s.traceFailed = false := by
  cases hfailed : s.traceFailed with
  | false => rfl
  | true =>
    rw [h.stopped hfailed] at hdone
    cases hdone

/-- Entries that are neither commands nor records may follow at any time. -/
theorem Trail.enter (h : Trail env s) {entry : SessionEntry} (hend : entry.isEnd)
    (herror : ∀ error, entry = .abort error → error ∈ s.errors) : Trail env (s.enter entry) := by
  have hnotEmit : ∀ record, entry ≠ .emit record := by
    rintro record rfl
    cases hend
  have hsame : sends (entry :: s.log) = sends s.log ∧
      freshRequests (entry :: s.log) = freshRequests s.log := by
    cases entry <;> first | exact ⟨rfl, rfl⟩ | cases hend
  obtain ⟨hsends, hfresh⟩ := hsame
  have hcount : ∀ provenance, succeededWith provenance (entry :: s.log) =
      succeededWith provenance s.log := fun provenance => by rw [succeededWith, hsends, succeededWith]
  refine ⟨?_, ?_, ?_, ?_, fun hfailed => (h.blamed hfailed).cons entry, h.stopped, h.constructed,
    ?_, ?_, h.untraced, ?_⟩
  · exact h.explicit.trans (hcount _).symm
  · exact h.default.trans (hcount _).symm
  · intro other past hsuffix hraised
    rcases List.suffix_cons_iff.mp hsuffix with heq | hold
    · obtain ⟨rfl, rfl⟩ := List.cons.inj heq
      cases other <;> first | rfl | cases hend
    · exact h.silent other past hold hraised
  · intro hfailed hraised
    exact h.healthy hfailed ((sinkRaised_cons_of_not_emit hnotEmit).mp hraised)
  · intro error hin
    rcases hin.of_cons with hold | ⟨attempt, rfl, -⟩ | habort | ⟨-, record, hemit, -⟩
    · exact h.noticed error hold
    · cases hend
    · exact herror error habort
    · exact absurd hemit (hnotEmit record)
  · simpa only [BattleSession.enter, hfresh] using h.numbered
  · intro pending hpending
    obtain ⟨hrecordable, hunrecorded, hindex⟩ := h.traced pending hpending
    exact ⟨hrecordable, (unrecorded_cons_end hend _).trans hunrecorded, hindex.trans
      (congrArg List.length hfresh.symm)⟩

/-! ## §4 Records -/

/-- What `finalizePending` can come to. -/
inductive Finalized (env : Environment) (s : BattleSession) (status : DecisionRecordStatus)
    (selected : Option BattleSubmission) : BattleSession → Prop where
  | idle (h : s.pendingTrace = none) : Finalized env s status selected s
  | unwritten (h : env.decisionRecordContext = none ∨ s.traceFailed = true) :
      Finalized env s status selected { s with pendingTrace := none }
  | written (pending : PendingTrace) (record : DecisionRecord)
      (hpending : s.pendingTrace = some pending) (hhealthy : s.traceFailed = false)
      (hrecord : RecordOf pending.request record)
      (hindex : record.decisionIndex = pending.decisionIndex)
      (hstatus : record.recordStatus = status) (hselected : record.selectedSubmission = selected) :
      Finalized env s status selected
        (({ s with pendingTrace := none } : BattleSession).emitRecord env record)

/-- A record can always be made of a recordable trace and a disposition. -/
theorem finalizePending_outcome (env : Environment) (s : BattleSession)
    {status : DecisionRecordStatus} {errorCode : Option DecisionRecordErrorCode}
    {selected : Option BattleSubmission}
    (hrecordable : ∀ pending, s.pendingTrace = some pending → Recordable pending)
    (hdisposition : isDisposition status errorCode selected.isSome = true) :
    Finalized env s status selected (s.finalizePending env status errorCode selected) := by
  unfold finalizePending
  cases hpending : s.pendingTrace with
  | none => exact .idle hpending
  | some pending =>
    cases hcontext : env.decisionRecordContext with
    | none => exact .unwritten (.inl hcontext)
    | some context =>
      simp only
      split_ifs with hfailed
      · exact .unwritten (.inr hfailed)
      · rw [Bool.not_eq_true] at hfailed
        obtain ⟨hbounded, hstate, hsafe, identity, hidentity⟩ := hrecordable pending hpending
        have hpublic := PublicRequestIdentity.fromInternal_eq_ok.mp hidentity
        -- there are no more records than request numbers
        have hindex : 0 ≤ (pending.decisionIndex : Int) ∧
            (pending.decisionIndex : Int) ≤ maxSafeInteger := by
          have hrqid := identity.safe.2
          rw [hpublic.1] at hrqid
          exact ⟨Int.natCast_nonneg _, hbounded.trans hrqid⟩
        obtain ⟨record, hcreate, hfields, hrecord⟩ := DecisionRecord.create_ok context hindex
          hidentity hstate hsafe hdisposition
        simp only [hcreate]
        refine .written pending record hpending hfailed ⟨?_, ?_⟩ ?_ ?_ ?_
        · rw [hrecord, hpublic.1]
        · rw [hrecord, hpublic.2]
        · rw [hfields]
          rfl
        · rw [hfields]
          rfl
        · rw [hfields]
          rfl

/-- Handing a record to the sink keeps the trail, whether the sink takes it or raises. -/
theorem Trail.emitRecord (h : Trail env s) (hhealthy : s.traceFailed = false)
    (hpending : s.pendingTrace = none) (record : DecisionRecord) :
    Trail env (s.emitRecord env record) := by
  have hsilent : ∀ entry past, entry :: past <:+ .emit record :: s.log → SinkRaised env past →
      entry.isHandover = false := by
    intro entry past hsuffix hraised
    rcases List.suffix_cons_iff.mp hsuffix with heq | hold
    · obtain ⟨rfl, rfl⟩ := List.cons.inj heq
      exact absurd hraised (h.healthy hhealthy)
    · exact h.silent entry past hold hraised
  have hnoticed : ∀ error, ErrorIn env (.emit record :: s.log) error → error ∈ s.errors ∨
      error = .traceSinkFailure ∧ ∃ raised, env.emit (records s.log) record = .error raised := by
    intro error hin
    rcases hin.of_cons with hold | ⟨attempt, heq, -⟩ | heq | ⟨rfl, other, heq, hraised⟩
    · exact .inl (h.noticed error hold)
    · cases heq
    · cases heq
    · obtain rfl := SessionEntry.emit.inj heq
      exact .inr ⟨rfl, hraised⟩
  have htraced : ∀ pending, s.pendingTrace = some pending →
      Traceable (.emit record :: s.log) pending := by
    intro pending hsome
    rw [hpending] at hsome
    cases hsome
  unfold BattleSession.emitRecord
  cases hemit : env.emit (records s.log) record with
  | error raised =>
    refine ⟨h.explicit, h.default, hsilent, fun hfailed => ?_, fun _ => ?_, fun _ => rfl,
      h.constructed, ?_, h.numbered, h.untraced, htraced⟩
    · cases hfailed
    · exact sinkRaised_cons.mpr (.inr ⟨record, rfl, raised, hemit⟩)
    · intro error hin
      rcases hnoticed error hin with hold | ⟨rfl, -⟩
      · exact List.mem_cons_of_mem _ hold
      · exact List.mem_cons_self
  | ok _ =>
    refine ⟨h.explicit, h.default, hsilent, fun hfailed hraised => ?_,
      fun hfailed => (h.blamed hfailed).cons _, h.stopped, h.constructed, ?_, h.numbered, h.untraced,
      htraced⟩
    · rcases sinkRaised_cons.mp hraised with hold | ⟨other, heq, error, hraised⟩
      · exact h.healthy hfailed hold
      · obtain rfl := SessionEntry.emit.inj heq
        rw [hemit] at hraised
        cases hraised
    · intro error hin
      rcases hnoticed error hin with hold | ⟨rfl, raised, hraised⟩
      · exact hold
      · rw [hemit] at hraised
        cases hraised

theorem Trail.finalized (h : Trail env s) {status : DecisionRecordStatus}
    {selected : Option BattleSubmission} (ht : Finalized env s status selected t) :
    Trail env t := by
  have hdropped : Trail env { s with pendingTrace := none } :=
    h.continue ⟨rfl, rfl, rfl, rfl, rfl, id, fun _ hmem => hmem, fun _ hnone => by cases hnone⟩
  cases ht with
  | idle hpending => exact h
  | unwritten hwhy => exact hdropped
  | written pending record hpending hhealthy hrecord hindex hstatus hselected =>
    exact hdropped.emitRecord hhealthy rfl record

theorem emitRecord_log (env : Environment) (s : BattleSession) (record : DecisionRecord) :
    (s.emitRecord env record).log = .emit record :: s.log := by
  unfold BattleSession.emitRecord
  split <;> rfl

/-- The books after a record, if it is not that of a submission. -/
theorem Trail.finalized_booked (h : Trail env s) (hbooked : KeepsBooks env s)
    {status : DecisionRecordStatus} {selected : Option BattleSubmission}
    (hstatus : status ≠ .submitted) (ht : Finalized env s status selected t) :
    KeepsBooks env t := by
  intro hcontext
  cases ht with
  | idle hpending => exact hbooked hcontext
  | unwritten hwhy => exact hbooked hcontext
  | written pending record hpending hhealthy hrecord hindex hrecordStatus hselected =>
    obtain ⟨-, hunrecorded, htraceIndex⟩ := h.traced pending hpending
    rw [emitRecord_log]
    refine .disposed pending.request record (hbooked hcontext) hunrecorded hrecord ?_ ?_
    · rw [hindex]
      exact_mod_cast htraceIndex
    · rw [hrecordStatus]
      exact hstatus

/-- A session that can record has a record of its latest request afterwards. -/
theorem Finalized.recorded {status : DecisionRecordStatus} {selected : Option BattleSubmission}
    (ht : Finalized env s status selected t) (hcontext : env.decisionRecordContext.isSome)
    (hhealthy : s.traceFailed = false) (hpending : s.pendingTrace.isSome) :
    unrecorded t.log = none := by
  cases ht with
  | idle hnone =>
    rw [hnone] at hpending
    cases hpending
  | unwritten hwhy =>
    rcases hwhy with hnone | hfailed
    · rw [hnone] at hcontext
      cases hcontext
    · rw [hhealthy] at hfailed
      cases hfailed
  | written pending record hsome hhealthy hrecord hindex hrecordStatus hselected =>
    rw [emitRecord_log]
    rfl

theorem Finalized.nextDecisionIndex {status : DecisionRecordStatus}
    {selected : Option BattleSubmission} (ht : Finalized env s status selected t) :
    t.nextDecisionIndex = s.nextDecisionIndex := by
  cases ht with
  | idle hnone => rfl
  | unwritten hwhy => rfl
  | written pending record hsome hhealthy hrecord hindex hrecordStatus hselected =>
    unfold BattleSession.emitRecord
    split <;> rfl

/-- A session that goes on after a record has met no error. -/
theorem Finalized.flawless {status : DecisionRecordStatus} {selected : Option BattleSubmission}
    (ht : Finalized env s status selected t) (h : s.done = false → s.errors = []) :
    t.done = false → t.errors = [] := by
  cases ht with
  | idle hnone => exact h
  | unwritten hwhy => exact h
  | written pending record hsome hhealthy hrecord hindex hrecordStatus hselected =>
    unfold BattleSession.emitRecord
    split
    · exact fun hdone => by cases hdone
    · exact h

theorem Finalized.errors_subset {status : DecisionRecordStatus} {selected : Option BattleSubmission}
    (ht : Finalized env s status selected t) : s.errors ⊆ t.errors := by
  cases ht with
  | idle hnone => exact fun _ hmem => hmem
  | unwritten hwhy => exact fun _ hmem => hmem
  | written pending record hsome hhealthy hrecord hindex hrecordStatus hselected =>
    unfold BattleSession.emitRecord
    split
    · exact fun _ hmem => List.mem_cons_of_mem _ hmem
    · exact fun _ hmem => hmem

/-- Recording keeps the first error the primary one. -/
theorem Finalized.first {status : DecisionRecordStatus} {selected : Option BattleSubmission}
    (ht : Finalized env s status selected t) (hfirst : s.primaryError = s.errors.getLast?) :
    t.primaryError = t.errors.getLast? := by
  cases ht with
  | idle hnone => exact hfirst
  | unwritten hwhy => exact hfirst
  | written pending record hsome hhealthy hrecord hindex hrecordStatus hselected =>
    unfold BattleSession.emitRecord
    split
    · show some (s.primaryError.getD _) = (_ :: s.errors).getLast?
      rw [List.getLast?_cons, hfirst]
    · exact hfirst

end Trails

end BattleBelief
