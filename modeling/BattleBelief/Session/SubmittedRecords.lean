import BattleBelief.Session.Settlement

/-!
# Submitted Records

What the books of a session say about its submissions: the counters are the numbers of commands that
the connection took, and the records with status `submitted` are these commands, in order. The sink
may have lost the last of them, when it raised on it.
-/

namespace BattleBelief

open BattleSession

/-! ## §1 The books as lists -/

/-- The fresh requests that there is a record of. -/
def recordedRequests (log : List SessionEntry) : List DecisionRequest :=
  match unrecorded log with
  | none => freshRequests log
  | some _ => (freshRequests log).tail

/-- The submission that a record tells of. -/
def DecisionRecord.submission (record : DecisionRecord) :
    Int × String × Option BattleSubmission :=
  (record.requestIdentity.rqid, record.requestIdentity.requestDigest, record.selectedSubmission)

/-- The submission that a command carries out. -/
def SendAttempt.submitted (attempt : SendAttempt) : Int × String × Option BattleSubmission :=
  (attempt.request.identity.rqid, attempt.request.identity.requestDigest, some attempt.submission)

def DecisionRecord.isSubmitted (record : DecisionRecord) : Bool := record.recordStatus = .submitted

theorem recordedRequests_of_none {log : List SessionEntry} (h : unrecorded log = none) :
    recordedRequests log = freshRequests log := by
  rw [recordedRequests, h]

theorem freshRequests_of_unrecorded {log : List SessionEntry} {request : DecisionRequest}
    (h : unrecorded log = some request) : freshRequests log = request :: recordedRequests log := by
  have hhead := head_of_unrecorded h
  rw [recordedRequests, h]
  cases hlist : freshRequests log with
  | nil =>
    rw [hlist] at hhead
    cases hhead
  | cons last older =>
    rw [hlist] at hhead
    rw [← Option.some.inj hhead]
    rfl

/-- In booked logs the records with status `submitted` are the commands that the connection took. -/
theorem Booked.submitted {log : List SessionEntry} (h : Booked log) :
    ((records log).filter DecisionRecord.isSubmitted).map DecisionRecord.submission =
      ((sends log).filter SendAttempt.succeeded).map SendAttempt.submitted := by
  induction h with
  | nil => rfl
  | fresh request h hnone ih => exact ih
  | @failed past attempt h hopen error hraised ih =>
    have hsucceeded : attempt.succeeded = false := by
      rw [SendAttempt.succeeded, hraised]
    show _ = ((attempt :: sends past).filter _).map _
    rw [List.filter_cons_of_neg (by simp [hsucceeded])]
    exact ih
  | @answered past attempt record h hopen hsent hrecord hindex hstatus hselected ih =>
    have hsucceeded : attempt.succeeded = true := by
      rw [SendAttempt.succeeded, hsent]
    show ((record :: records past).filter _).map _ = ((attempt :: sends past).filter _).map _
    rw [List.filter_cons_of_pos (by simp [DecisionRecord.isSubmitted, hstatus]),
      List.filter_cons_of_pos hsucceeded, List.map_cons, List.map_cons, ih]
    simp only [DecisionRecord.submission, SendAttempt.submitted, hrecord.rqid, hrecord.requestDigest,
      hselected]
  | @disposed past request record h hopen hrecord hindex hstatus ih =>
    show ((record :: records past).filter _).map _ = _
    rw [List.filter_cons_of_neg (by simp [DecisionRecord.isSubmitted, hstatus])]
    exact ih
  | @ended past entry h hend ih =>
    cases entry <;> first | exact ih | cases hend

/-- In booked logs there is one record for each recorded request, in order. -/
theorem Booked.recorded {log : List SessionEntry} (h : Booked log) :
    (records log).map (fun record =>
        (record.requestIdentity.rqid, record.requestIdentity.requestDigest)) =
      (recordedRequests log).map fun request =>
        (request.identity.rqid, request.identity.requestDigest) := by
  induction h with
  | nil => rfl
  | fresh request h hnone ih =>
    rw [recordedRequests_of_none hnone] at ih
    exact ih
  | failed attempt h hopen error hraised ih => exact ih
  | @answered past attempt record h hopen hsent hrecord hindex hstatus hselected ih =>
    show (record :: records past).map _ = (freshRequests past).map _
    rw [freshRequests_of_unrecorded hopen, List.map_cons, List.map_cons, ih, hrecord.rqid,
      hrecord.requestDigest]
  | @disposed past request record h hopen hrecord hindex hstatus ih =>
    show (record :: records past).map _ = (freshRequests past).map _
    rw [freshRequests_of_unrecorded hopen, List.map_cons, List.map_cons, ih, hrecord.rqid,
      hrecord.requestDigest]
  | @ended past entry h hend ih =>
    cases entry <;> first | exact ih | cases hend

theorem recordedRequests_sublist (log : List SessionEntry) :
    (recordedRequests log).Sublist (freshRequests log) := by
  unfold recordedRequests
  split
  · exact List.Sublist.refl _
  · exact List.tail_sublist _

/-! ## §2 What the sink keeps -/

section Sink

variable [Rfc8785] {env : Environment} {log : List SessionEntry}

/-- The records that the sink took. -/
def takenRecords (env : Environment) : List SessionEntry → List DecisionRecord
  | [] => []
  | .emit record :: past =>
      match env.emit (records past) record with
      | .ok () => record :: takenRecords env past
      | .error _ => takenRecords env past
  | _ :: past => takenRecords env past

/-- The sink raised on this record. -/
def SinkRaisedOn (env : Environment) (log : List SessionEntry) (record : DecisionRecord) : Prop :=
  ∃ past, .emit record :: past <:+ log ∧ ∃ error, env.emit (records past) record = .error error

/-- A session that falls silent once the sink has raised loses the last record at most. -/
theorem takenRecords_eq (hsilent : ∀ entry past, entry :: past <:+ log → SinkRaised env past →
      entry.isHandover = false) :
    takenRecords env log = records log ∨
      ∃ record, records log = record :: takenRecords env log ∧ SinkRaisedOn env log record := by
  induction log with
  | nil => exact .inl rfl
  | cons entry past ih =>
    have hpast := ih fun other older hsuffix => hsilent other older
      (hsuffix.trans (List.suffix_cons entry past))
    have hgrown : ∀ record, SinkRaisedOn env past record → SinkRaisedOn env (entry :: past) record :=
      fun record ⟨older, hsuffix, herror⟩ =>
        ⟨older, hsuffix.trans (List.suffix_cons entry past), herror⟩
    have hother : takenRecords env (entry :: past) = takenRecords env past →
        records (entry :: past) = records past →
        takenRecords env (entry :: past) = records (entry :: past) ∨
          ∃ record, records (entry :: past) = record :: takenRecords env (entry :: past) ∧
            SinkRaisedOn env (entry :: past) record := by
      intro htaken hrecords
      rw [htaken, hrecords]
      exact hpast.imp_right fun ⟨record, heq, hraised⟩ => ⟨record, heq, hgrown record hraised⟩
    cases entry with
    | emit record =>
      -- the sink cannot have raised before, or this record would not be here
      have hkept : takenRecords env past = records past := by
        rcases hpast with hkept | ⟨lost, -, older, hsuffix, herror⟩
        · exact hkept
        · have hquiet := hsilent (.emit record) past (List.suffix_refl _)
            ⟨lost, older, hsuffix, herror⟩
          cases hquiet
      cases hemit : env.emit (records past) record with
      | ok _ =>
        left
        simp only [takenRecords, hemit, hkept]
        rfl
      | error error =>
        right
        refine ⟨record, ?_, past, List.suffix_refl _, error, hemit⟩
        simp only [takenRecords, hemit, hkept]
        rfl
    | freshRequest request => exact hother rfl rfl
    | sendRoom attempt => exact hother rfl rfl
    | battleEnd => exact hother rfl rfl
    | abort error => exact hother rfl rfl

/-- The same for the records with some property. -/
theorem takenRecords_filter (hsilent : ∀ entry past, entry :: past <:+ log → SinkRaised env past →
      entry.isHandover = false) (p : DecisionRecord → Bool) :
    (takenRecords env log).filter p = (records log).filter p ∨
      ∃ record, (records log).filter p = record :: (takenRecords env log).filter p ∧
        SinkRaisedOn env log record := by
  rcases takenRecords_eq hsilent with hkept | ⟨lost, hlost, hraised⟩
  · rw [hkept]
    exact .inl rfl
  · rw [hlost]
    cases hp : p lost with
    | true =>
      rw [List.filter_cons_of_pos hp]
      exact .inr ⟨lost, rfl, hraised⟩
    | false =>
      rw [List.filter_cons_of_neg (by simp [hp])]
      exact .inl rfl

end Sink

/-! ## §3 Runs -/

section Runs

variable [Python.UnicodeDatabase] [JsonDecoder] [Rfc8785]

omit [Python.UnicodeDatabase] [JsonDecoder] [Rfc8785] in
/-- Two commands with one number are the same, and so are two records. -/
theorem eq_of_rqid {α : Type} {l : List α} {f : α → Int}
    (h : l.Pairwise fun later earlier => f earlier < f later) {a b : α} (ha : a ∈ l) (hb : b ∈ l)
    (heq : f a = f b) : a = b := by
  have hnodup : (l.map f).Nodup := List.pairwise_map.mpr (h.imp fun hlt => hlt.ne')
  exact List.inj_on_of_nodup_map hnodup ha hb heq

/-- **Submitted records and counters match the sends.** In every run the counters count the commands
that the connection took by their provenance, and together all of them. Where records are written,
the records with status `submitted` are exactly these commands, in order, and the sink has all of
them but perhaps the last, on which it raised. A request with any other record, and a request whose
command failed, has no command that the connection took. -/
theorem submissions_recorded (env : Environment) (state : ObservedState) (lines : List RoomLine)
    (ending : Option PyException) :
    let s := (BattleSession.initial state).run env lines ending
    let successes := (sends s.log).filter SendAttempt.succeeded
    let handed := (records s.log).filter DecisionRecord.isSubmitted
    let kept := (takenRecords env s.log).filter DecisionRecord.isSubmitted
    (s.explicitRequestSubmissions = successes.countP fun attempt =>
        attempt.submission.provenance = .explicitRequest) ∧
      (s.defaultSubmissions = successes.countP fun attempt =>
        attempt.submission.provenance = .serverDefault) ∧
      s.explicitRequestSubmissions + s.defaultSubmissions = successes.length ∧
      (env.decisionRecordContext.isSome →
        handed.map DecisionRecord.submission = successes.map SendAttempt.submitted ∧
          (kept = handed ∨ ∃ record, handed = record :: kept ∧ SinkRaisedOn env s.log record) ∧
          ∀ record ∈ records s.log, record.recordStatus ≠ .submitted → ∀ attempt ∈ successes,
            attempt.request.identity.rqid ≠ record.requestIdentity.rqid) ∧
      ∀ attempt ∈ sends s.log, attempt.succeeded = false → ∀ other ∈ successes,
        other.request.identity.rqid ≠ attempt.request.identity.rqid := by
  intro s successes handed kept
  have horderly : Orderly env s := run_orderly (orderly_initial env state) lines ending
  have hs : Settled env s :=
    run_settled (settled_initial env state) (orderly_initial env state) lines ending
  have hcount : ∀ provenance, succeededWith provenance s.log = successes.countP fun attempt =>
      attempt.submission.provenance = provenance := by
    intro provenance
    rw [List.countP_filter]
    refine List.countP_congr fun attempt _ => ?_
    rw [Bool.and_comm]
  have hexplicit := hs.explicit.trans (hcount .explicitRequest)
  have hdefault := hs.default.trans (hcount .serverDefault)
  refine ⟨hexplicit, hdefault, ?_, fun hcontext => ⟨?_, ?_, ?_⟩, ?_⟩
  · rw [hexplicit, hdefault, List.length_eq_countP_add_countP
      (fun attempt : SendAttempt => attempt.submission.provenance = .explicitRequest)]
    congr 1
    refine List.countP_congr fun attempt _ => ?_
    cases attempt.submission.provenance <;> simp
  · exact (hs.booked hcontext).submitted
  · exact takenRecords_filter hs.silent DecisionRecord.isSubmitted
  · intro record hrecord hstatus attempt hattempt hrqid
    have hbooked := hs.booked hcontext
    -- the record of the command is another one with the same number
    have hmem : attempt.submitted ∈ handed.map DecisionRecord.submission :=
      hbooked.submitted ▸ List.mem_map_of_mem hattempt
    obtain ⟨other, hother, hsame⟩ := List.mem_map.mp hmem
    obtain ⟨hotherRecord, hsubmitted⟩ := List.mem_filter.mp hother
    have hnumbers : (records s.log).map (fun record => record.requestIdentity.rqid) =
        (recordedRequests s.log).map fun request => request.identity.rqid := by
      have hpairs := congrArg (List.map Prod.fst) hbooked.recorded
      simpa only [List.map_map, Function.comp_def] using hpairs
    have hdescending : (records s.log).Pairwise fun later earlier =>
        earlier.requestIdentity.rqid < later.requestIdentity.rqid := by
      have hfresh : ((recordedRequests s.log).map fun request => request.identity.rqid).Pairwise
          fun later earlier => earlier < later :=
        List.pairwise_map.mpr (horderly.fresh.sublist (recordedRequests_sublist s.log))
      rw [← hnumbers] at hfresh
      exact List.pairwise_map.mp hfresh
    have heq : other = record := eq_of_rqid hdescending hotherRecord hrecord
      ((congrArg Prod.fst hsame).trans hrqid)
    rw [DecisionRecord.isSubmitted, decide_eq_true_eq, heq] at hsubmitted
    exact hstatus hsubmitted
  · intro attempt hattempt hfailed other hother hrqid
    obtain ⟨hsent, hsucceeded⟩ := List.mem_filter.mp hother
    have heq : other = attempt := eq_of_rqid horderly.increasing hsent hattempt hrqid
    rw [heq, hfailed] at hsucceeded
    cases hsucceeded

end Runs

end BattleBelief
