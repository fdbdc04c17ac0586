import BattleBelief.Evaluation.MeasurementRunner
import BattleBelief.Library.HashChain

/-!
# Measurements Are Reported

When a measurement run ends in a result. The validator accepts every combination of session, ledger
and lifecycle that a run can leave behind: what it may refuse, and what the constructor of the result
refuses, are numbers beyond the canonical domain, records of another run context, and records with
one digest.

## Main results

- `summarize_accepted`: the validator has no complaint about the summary of a session
- `measurement_reported_iff`: a run ends in a valid result exactly when its session is `Reportable`
- `unbounded_turn_unreported`: it is not after a turn that no double represents
-/

namespace BattleBelief

open Runs
open HashChain (CollisionFree)

/-! ## §1 Checks -/

theorem complaints_eq_nil {checks : List (Bool × String)} :
    complaints checks = [] ↔ ∀ check ∈ checks, check.1 = false := by
  simp only [complaints, List.map_eq_nil_iff, List.filter_eq_nil_iff, Bool.not_eq_true]

/-- Every allowed code is stable, and short enough to be kept whole. -/
theorem allowedErrorCodes_stable : ∀ code ∈ allowedErrorCodes,
    isStableCode code = true ∧ String.ofList (code.toList.take 64) = code := by
  decide +kernel

example : "runtime_error" ∈ allowedErrorCodes := by decide +kernel

/-- Whatever the error, its stable code is allowed. -/
theorem stableErrorCode_allowed (error : PyException) : stableErrorCode error ∈ allowedErrorCodes := by
  unfold stableErrorCode
  simp only
  split_ifs with hcode hclass
  · exact hcode
  · rw [(allowedErrorCodes_stable _ hclass).2]
    exact hclass
  · decide +kernel

section Summary

variable {session : BattleSessionResult} {failed : Bool}

theorem primaryErrorClassOf_allowed {code : String}
    (h : primaryErrorClassOf session failed = some code) : code ∈ allowedErrorCodes := by
  unfold primaryErrorClassOf at h
  split_ifs at h with honly
  · rw [← Option.some.inj h]
    decide +kernel
  · obtain ⟨error, -, rfl⟩ := Option.map_eq_some_iff.mp h
    exact stableErrorCode_allowed error

/-- What the constructor of a result asks of a summary. -/
theorem summarize_checks_iff {contextDigest stateDigest : String} {records : List DecisionRecord}
    {digests : List String} (hcontext : isDigest contextDigest = true)
    (hstate : isDigest stateDigest = true) (hdigests : ∀ digest ∈ digests, isDigest digest = true) :
    firstFault (summarize session failed contextDigest records digests stateDigest).checks = none ↔
      digests.Nodup ∧
        ∀ count ∈ (summarize session failed contextDigest records digests stateDigest).counts,
          0 ≤ count.2 ∧ count.2 ≤ maxSafeInteger := by
  let fields := summarize session failed contextDigest records digests stateDigest
  show firstFault fields.checks = none ↔
    digests.Nodup ∧ ∀ count ∈ fields.counts, 0 ≤ count.2 ∧ count.2 ≤ maxSafeInteger
  have hcode : (fields.primaryErrorClass.any fun code =>
      !isStableCode code || code ∉ allowedErrorCodes) = false := by
    show (primaryErrorClassOf session failed).any _ = false
    cases heq : primaryErrorClassOf session failed with
    | none => rfl
    | some code =>
      have hallowed := primaryErrorClassOf_allowed heq
      simp [hallowed, (allowedErrorCodes_stable code hallowed).1]
  have hall : digests.all isDigest = true := List.all_eq_true.mpr hdigests
  have hcontext' : isDigest fields.runContextDigest = true := hcontext
  have hstate' : isDigest fields.finalObservedStateDigest = true := hstate
  have hversion : decide (fields.schemaVersion ≠ 1) = false := rfl
  have hlist : fields.decisionRecordDigests = digests := rfl
  rw [firstFault_eq_none, RunResultFields.checks, List.forall_mem_append]
  simp only [List.forall_mem_cons, hversion, hcontext', hstate', hcode, hlist, hall, Bool.not_true,
    true_and, List.forall_mem_map, List.not_mem_nil, false_implies, implies_true, and_true,
    Bool.not_eq_false', decide_eq_true_eq, Bool.and_eq_true]

/-! ## §2 The validator accepts the summary -/

theorem traceStatusOf_nil (h : traceErrorOf session failed = false) :
    traceStatusOf session failed [] = .noRecords ∨ traceStatusOf session failed [] = .notAttempted := by
  rw [traceStatusOf, h]
  cases session.recordError with
  | none => exact .inl rfl
  | some error => exact .inr rfl

theorem traceStatusOf_cons (h : traceErrorOf session failed = false) (record : DecisionRecord)
    (rest : List DecisionRecord) : traceStatusOf session failed (record :: rest) = .emitted := by
  rw [traceStatusOf, h]
  rfl

/-- The validator's matrix of statuses has no complaint about a summary. -/
theorem summarize_matrix {contextDigest stateDigest : String} {records : List DecisionRecord}
    {digests : List String} (hlength : digests.isEmpty = records.isEmpty)
    (hidle : records = [] → session.traceError = none → session.explicitRequestSubmissions = 0 ∧
      session.defaultSubmissions = 0) :
    let fields := summarize session failed contextDigest records digests stateDigest
    ∀ check ∈ traceChecks fields ++ validateStatusMatrix fields, check.1 = false := by
  intro fields
  have hdigests : fields.decisionRecordDigests.isEmpty = records.isEmpty := hlength
  simp only [traceChecks, validateStatusMatrix, hdigests]
  cases htrace : traceErrorOf session failed with
  | true =>
    have hsink : fields.traceStatus = .sinkFailed := by
      show traceStatusOf session failed records = _
      rw [traceStatusOf, htrace]
      rfl
    cases honly : traceOnlyFailure session failed with
    | true =>
      have hstatus : fields.runStatus = .traceFailed := by
        show runStatusOf session failed records = _
        rw [runStatusOf, honly]
        rfl
      have hclass : fields.primaryErrorClass = some "trace_sink_failure" := by
        show primaryErrorClassOf session failed = _
        rw [primaryErrorClassOf, honly]
        rfl
      simp [hsink, hstatus, hclass]
    | false =>
      -- a session without an error of its own would have failed by its trace only
      have hprimary : session.primaryError.isSome := by
        cases hnone : session.primaryError with
        | some error => rfl
        | none => simp [traceOnlyFailure, htrace, hnone] at honly
      obtain ⟨error, herror⟩ := Option.isSome_iff_exists.mp hprimary
      have hstatus : fields.runStatus = .failed := by
        show runStatusOf session failed records = _
        simp [runStatusOf, honly, primaryErrorOf, herror]
      have hclass : fields.primaryErrorClass.isSome := by
        show (primaryErrorClassOf session failed).isSome
        simp [primaryErrorClassOf, honly, primaryErrorOf, herror]
      simp [hsink, hstatus, hclass]
  | false =>
    have honly : traceOnlyFailure session failed = false := by
      rw [traceOnlyFailure, htrace, Bool.false_and]
    obtain ⟨hnone, hfailed⟩ : session.traceError = none ∧ failed = false := by
      simpa [traceErrorOf] using htrace
    have hprimary : primaryErrorOf session failed = session.primaryError := by
      rw [primaryErrorOf, hfailed]
      rfl
    cases herror : session.primaryError with
    | some error =>
      have hstatus : fields.runStatus = .failed := by
        show runStatusOf session failed records = _
        simp [runStatusOf, honly, hprimary, herror]
      have hclass : fields.primaryErrorClass = some (stableErrorCode error) := by
        show primaryErrorClassOf session failed = _
        simp [primaryErrorClassOf, honly, hprimary, herror]
      cases records with
      | nil =>
        have hquiet : fields.traceStatus = .noRecords ∨ fields.traceStatus = .notAttempted :=
          traceStatusOf_nil htrace
        rcases hquiet with hquiet | hquiet
        · simp [hstatus, hclass, hquiet]
        · simp [hstatus, hclass, hquiet]
      | cons record rest =>
        have hemitted : fields.traceStatus = .emitted := traceStatusOf_cons htrace record rest
        simp [hstatus, hclass, hemitted]
    | none =>
      have hclass : fields.primaryErrorClass = none := by
        show primaryErrorClassOf session failed = _
        simp [primaryErrorClassOf, honly, hprimary, herror]
      cases records with
      | nil =>
        have hstatus : fields.runStatus = .noRequest := by
          show runStatusOf session failed [] = _
          simp [runStatusOf, honly, hprimary, herror]
        have hquiet : fields.traceStatus = .noRecords ∨ fields.traceStatus = .notAttempted :=
          traceStatusOf_nil htrace
        obtain ⟨hexplicit, hdefault⟩ := hidle rfl hnone
        have hexplicit' : fields.explicitSubmissionCount = 0 := congrArg Int.ofNat hexplicit
        have hdefault' : fields.defaultSubmissionCount = 0 := congrArg Int.ofNat hdefault
        rcases hquiet with hquiet | hquiet
        · simp [hstatus, hclass, hquiet, hexplicit', hdefault']
        · simp [hstatus, hclass, hquiet, hexplicit', hdefault']
      | cons record rest =>
        have hstatus : fields.runStatus = .completed := by
          show runStatusOf session failed (record :: rest) = _
          simp [runStatusOf, honly, hprimary, herror]
        have hemitted : fields.traceStatus = .emitted := traceStatusOf_cons htrace record rest
        simp [hstatus, hclass, hemitted]

/-- The class of the primary error is the one that the validator expects. -/
theorem summarize_primary {contextDigest stateDigest : String} {records : List DecisionRecord}
    {digests : List String} :
    let fields := summarize session failed contextDigest records digests stateDigest
    fields.primaryErrorClass = expectedPrimary fields session := by
  intro fields
  have hclass : fields.primaryErrorClass = primaryErrorClassOf session failed := rfl
  rw [expectedPrimary, hclass, primaryErrorClassOf]
  cases honly : traceOnlyFailure session failed with
  | true =>
    obtain ⟨htrace, hwhy⟩ := Bool.and_eq_true_iff.mp honly
    have hsink : fields.traceStatus = .sinkFailed := by
      show traceStatusOf session failed records = _
      rw [traceStatusOf, htrace]
      rfl
    cases herror : session.primaryError with
    | none => simp [hsink]
    | some error =>
      have hcode : stableErrorCode error = "trace_sink_failure" := by
        simpa [herror] using hwhy
      simp [hcode]
  | false =>
    have hprimary : primaryErrorOf session failed = session.primaryError := by
      unfold primaryErrorOf
      split_ifs with hstands
      · -- a failed lifecycle without another error is a failure of the trace only
        obtain ⟨hfailed, hnone⟩ := Bool.and_eq_true_iff.mp hstands
        rw [traceOnlyFailure, traceErrorOf, hfailed, hnone, Bool.or_true, Bool.true_or,
          Bool.and_true] at honly
        cases honly
      · rfl
    rw [hprimary]
    cases session.primaryError with
    | none => simp
    | some error => simp

theorem summarize_session {contextDigest stateDigest : String} {records : List DecisionRecord}
    {digests : List String} (hconstructed : session.recordError = none) :
    let fields := summarize session failed contextDigest records digests stateDigest
    ∀ check ∈ sessionChecks fields session, check.1 = false := by
  intro fields
  have hsink : session.traceError.isSome → fields.traceStatus = .sinkFailed := by
    intro herror
    show traceStatusOf session failed records = _
    rw [traceStatusOf, traceErrorOf, herror]
    rfl
  have hprimary : fields.primaryErrorClass = expectedPrimary fields session := summarize_primary
  have hroom : fields.roomControlOrChatCount = session.roomControlOrChatCount := rfl
  have hexplicit : fields.explicitSubmissionCount = session.explicitRequestSubmissions := rfl
  have hdefault : fields.defaultSubmissionCount = session.defaultSubmissions := rfl
  simp only [sessionChecks, List.forall_mem_cons]
  simpa [hroom, hexplicit, hdefault, ← hprimary, hconstructed] using hsink

/-- The outcome is the one that the final state proves, and none is claimed without proof. -/
theorem battleOutcomeOf_iff {outcome : BattleOutcome}
    (h : outcome ∈ [BattleOutcome.ourWin, .opponentWin, .tie]) :
    battleOutcomeOf session = outcome ↔ provenOutcome session.state = some outcome := by
  unfold battleOutcomeOf
  cases hproven : provenOutcome session.state with
  | some proven => simp
  | none =>
    rw [Option.getD_none]
    refine iff_of_false (fun heq => ?_) (by simp)
    rw [← heq] at h
    split_ifs at h <;> simp at h

theorem summarize_state {contextDigest stateDigest : String} {records : List DecisionRecord}
    {digests : List String} :
    let fields := summarize session failed contextDigest records digests stateDigest
    ∀ check ∈ finalStateChecks fields session.state stateDigest, check.1 = false := by
  intro fields
  have hdigest : fields.finalObservedStateDigest = stateDigest := rfl
  have hignored : fields.ignoredDisplayCount = session.state.ignoredDisplayCount := rfl
  have houtcome : fields.battleOutcome = battleOutcomeOf session := rfl
  simp only [finalStateChecks, List.forall_mem_cons, hdigest, hignored, houtcome]
  cases hproven : provenOutcome session.state with
  | some proven => simp [battleOutcomeOf, hproven]
  | none =>
    have hnot : ∀ outcome ∈ [BattleOutcome.ourWin, .opponentWin, .tie],
        battleOutcomeOf session ≠ outcome := by
      intro outcome hmem heq
      rw [battleOutcomeOf_iff hmem, hproven] at heq
      cases heq
    simpa [and_assoc] using hnot

/-- What the ledger of a run has in common with the counters of its session. -/
structure Accounted (session : BattleSessionResult) (records : List DecisionRecord) : Prop where
  ordered : records.Pairwise fun earlier later => earlier.decisionIndex < later.decisionIndex
  explicit_le : submittedCount .explicitRequest records ≤ session.explicitRequestSubmissions
  default_le : submittedCount .serverDefault records ≤ session.defaultSubmissions
  complete : submittedCount .explicitRequest records = session.explicitRequestSubmissions ∧
      submittedCount .serverDefault records = session.defaultSubmissions ∨
    session.traceError.isSome ∧ session.primaryError = some .traceSinkFailure
  constructed : session.recordError = none

/-- The counters agree with the ledger, as far as the validator asks for it. -/
theorem Accounted.counts {records : List DecisionRecord} (h : Accounted session records)
    {contextDigest stateDigest : String} {digests : List String} :
    let fields := summarize session failed contextDigest records digests stateDigest
    ∀ check ∈ countChecks fields records, check.1 = false := by
  intro fields
  have hexplicit : fields.explicitSubmissionCount = session.explicitRequestSubmissions := rfl
  have hdefault : fields.defaultSubmissionCount = session.defaultSubmissions := rfl
  unfold countChecks
  simp only [hexplicit, hdefault]
  split_ifs with hpartial
  · simp [h.explicit_le, h.default_le]
  · rcases h.complete with ⟨heq, heq'⟩ | ⟨htrace, hprimary⟩
    · simp [heq, heq']
    · -- the failure of the sink came first, so that the trace counts as partial
      have herror : traceErrorOf session failed = true := by
        rw [traceErrorOf, htrace, Bool.true_or]
      have hcode : stableErrorCode .traceSinkFailure = "trace_sink_failure" := by decide +kernel
      have honly : traceOnlyFailure session failed = true := by
        simp [traceOnlyFailure, herror, hprimary, hcode]
      have hsink : fields.traceStatus = .sinkFailed := by
        show traceStatusOf session failed records = _
        rw [traceStatusOf, herror]
        rfl
      have hclass : fields.primaryErrorClass = some "trace_sink_failure" := by
        show primaryErrorClassOf session failed = _
        rw [primaryErrorClassOf, honly]
        rfl
      simp [partialTrace, hsink, hclass] at hpartial

theorem Accounted.records_nodup {records : List DecisionRecord} (h : Accounted session records) :
    records.Nodup :=
  h.ordered.imp fun hlt heq => hlt.ne (congrArg (fun record => record.decisionIndex) heq)

/-- Against the ledger, the validator may only complain about records of another context. -/
theorem Accounted.recordChecks_iff {records : List DecisionRecord} (h : Accounted session records)
    {contextDigest stateDigest : String} {digests : List String}
    (hempty : records = [] → digests = []) :
    let fields := summarize session failed contextDigest records digests stateDigest
    (∀ check ∈ recordChecks fields records digests, check.1 = false) ↔
      ∀ record ∈ records, record.runContextDigest = contextDigest := by
  intro fields
  have hdigests : fields.decisionRecordDigests = digests := rfl
  have hcontext : fields.runContextDigest = contextDigest := rfl
  unfold recordChecks
  cases hrecords : records with
  | nil => simp [hdigests, hempty hrecords]
  | cons record rest =>
    rw [← hrecords]
    have hindices : (records.map fun record => record.decisionIndex).Pairwise (· < ·) :=
      List.pairwise_map.mpr h.ordered
    have hsorted : (records.map fun record => record.decisionIndex).insertionSort (· ≤ ·) =
        records.map fun record => record.decisionIndex :=
      List.Pairwise.insertionSort_eq (hindices.imp le_of_lt)
    have hnodup : (records.map fun record => record.decisionIndex).Nodup :=
      hindices.imp fun hlt => hlt.ne
    have hcounts : ∀ check ∈ countChecks fields records, check.1 = false := h.counts
    have hnonempty : records.isEmpty = false := by rw [hrecords]; rfl
    rw [hnonempty, if_neg Bool.false_ne_true, List.forall_mem_append, and_iff_left hcounts]
    simp only [List.forall_mem_cons, hdigests, hcontext, hsorted, hnodup]
    simp

end Summary

/-! ## §3 Runs -/

/-- The digests of a ledger are distinct exactly when no two of its records share one. -/
theorem nodup_digests_iff [Rfc8785] {records : List DecisionRecord} {digests : List String}
    (h : records.mapM DecisionRecord.recordDigest = .ok digests) (hnodup : records.Nodup) :
    digests.Nodup ↔ CollisionFree DecisionRecord.recordDigest (· ∈ records) := by
  have hmap : digests.map Except.ok = records.map DecisionRecord.recordDigest :=
    map_eq_of_mapM h fun _ _ heq => heq.symm
  have hinjective : Function.Injective (Except.ok : String → Except PyException String) :=
    fun _ _ heq => Except.ok.inj heq
  rw [← List.nodup_map_iff hinjective, hmap, List.nodup_map_iff_inj_on hnodup]
  constructor
  · intro hinj record other key hrecord hother heq heq'
    exact hinj record hrecord other hother (heq.trans heq'.symm)
  · intro hfree record hrecord other hother heq
    obtain ⟨key, -, hkey⟩ := exists_of_mapM h hrecord
    exact hfree record other key hrecord hother hkey (heq ▸ hkey)

section Runs

variable [Python.UnicodeDatabase] [JsonDecoder] [Rfc8785]

theorem run_accounted (session : MeasurementSession) :
    Accounted session.run.resultSnapshot session.traceSink.records where
  ordered := accepted_ordered session
  explicit_le := accepted_le session .explicitRequest
  default_le := accepted_le session .serverDefault
  complete := (accepted_counts session).imp_left fun hall =>
    ⟨hall .explicitRequest, hall .serverDefault⟩
  constructed := (run_settled_session session).constructed

/-- What a session must leave behind for a result to be made of it: a final state and counters with
numbers that a result may hold, and, if the sink took any records, records of the runner's context
that their digests tell apart. -/
structure Reportable (runner : MeasurementRunner) : Prop where
  state : (projectObservedState runner.session.run.state).inDomain = true
  ignored : 0 ≤ runner.session.run.state.ignoredDisplayCount
  explicit : (runner.session.run.explicitRequestSubmissions : Int) ≤ maxSafeInteger
  default : (runner.session.run.defaultSubmissions : Int) ≤ maxSafeInteger
  control : (runner.session.run.roomControlOrChatCount : Int) ≤ maxSafeInteger
  context : runner.session.traceSink.records ≠ [] →
    runner.session.decisionRecordContext.runContextDigest = runner.runContext.runContextDigest
  distinct : CollisionFree DecisionRecord.recordDigest (· ∈ runner.session.traceSink.records)

/-- The run ends in this result: the validator has no complaint, the digests are those of the records
that the sink took, and a win, a loss or a tie is reported exactly when the final state proves it. -/
structure Reported (runner : MeasurementRunner) (result : MeasurementRunResult) : Prop where
  run : runner.run = .ok result
  valid : validateMeasurementRunResult result runner.session.traceSink.records
    (some runner.session.run.resultSnapshot) (some runner.session.run.state) = .ok []
  digests : (takenRecords runner.session.environment runner.session.run.log).reverse.mapM
    DecisionRecord.recordDigest = .ok result.decisionRecordDigests
  outcome : ∀ outcome ∈ [BattleOutcome.ourWin, .opponentWin, .tie],
    result.battleOutcome = outcome ↔ provenOutcome runner.session.run.state = some outcome

omit [JsonDecoder] [Rfc8785] in
/-- The numbers of a state are part of its projection. -/
theorem ignored_le_of_inDomain {state : ObservedState}
    (h : (projectObservedState state).inDomain = true) : state.ignoredDisplayCount ≤ maxSafeInteger := by
  simp only [projectObservedState, Python.Json.inDomain, Python.Json.membersInDomain,
    Bool.and_eq_true, decide_eq_true_eq] at h
  exact h.2.2.2.2.2.2.2.2.2.2.2.2.2.2.2.2.2.2.1.2

omit [JsonDecoder] in
/-- What the validator says of the summary of a session. -/
theorem validate_summary {session : BattleSessionResult} {failed : Bool}
    {records : List DecisionRecord} {digests : List String} {contextDigest stateDigest : String}
    (h : Accounted session records)
    (hdigests : records.mapM DecisionRecord.recordDigest = .ok digests)
    (hstate : observedStateDigest session.state = .ok stateDigest) {result : MeasurementRunResult}
    (hresult : result.toRunResultFields =
      summarize session failed contextDigest records digests stateDigest) :
    ∃ complaints, validateMeasurementRunResult result records (some session) (some session.state) =
        .ok complaints ∧
      (complaints = [] ↔ ∀ record ∈ records, record.runContextDigest = contextDigest) := by
  have hstates : (some session.state).toList.mapM observedStateDigest = .ok [stateDigest] :=
    mapM_eq_ok.mpr (.cons hstate .nil)
  refine ⟨_, Runs.bind_of_ok hdigests (Runs.bind_of_ok hstates rfl), ?_⟩
  have hlength : digests.length = records.length := (mapM_eq_ok.mp hdigests).length_eq.symm
  have hempty : digests.isEmpty = records.isEmpty := by
    cases digests <;> cases records <;> first | rfl | simp at hlength
  have hidle : records = [] → session.traceError = none →
      session.explicitRequestSubmissions = 0 ∧ session.defaultSubmissions = 0 := by
    intro hnil hnone
    rcases h.complete with ⟨hexplicit, hdefault⟩ | ⟨htrace, -⟩
    · rw [hnil] at hexplicit hdefault
      exact ⟨hexplicit.symm, hdefault.symm⟩
    · rw [hnone] at htrace
      cases htrace
  have hnil : records = [] → digests = [] := by
    rintro rfl
    exact List.eq_nil_of_length_eq_zero hlength
  have hrecords : (∀ check ∈ recordChecks result.toRunResultFields records digests,
      check.1 = false) ↔ ∀ record ∈ records, record.runContextDigest = contextDigest := by
    rw [hresult]
    exact h.recordChecks_iff hnil
  have hmatrix : ∀ check ∈ traceChecks result.toRunResultFields ++
      validateStatusMatrix result.toRunResultFields, check.1 = false := by
    rw [hresult]
    exact summarize_matrix hempty hidle
  have hsession : ∀ check ∈ sessionChecks result.toRunResultFields session, check.1 = false := by
    rw [hresult]
    exact summarize_session h.constructed
  have hfinal : ∀ check ∈ finalStateChecks result.toRunResultFields session.state stateDigest,
      check.1 = false := by
    rw [hresult]
    exact summarize_state
  rw [complaints_eq_nil]
  simp only [Option.toList_some, List.zip_cons_cons, List.zip_nil_left, List.flatMap_cons,
    List.flatMap_nil, List.append_nil, List.append_assoc, List.forall_mem_append] at hmatrix ⊢
  rw [hrecords]
  exact and_iff_left ⟨hmatrix.1, hmatrix.2, hsession, hfinal⟩

omit [JsonDecoder] [Python.UnicodeDatabase] [Rfc8785] in
theorem RunResultFields.toResult_eq_ok {fields : RunResultFields} {result : MeasurementRunResult} :
    fields.toResult = .ok result ↔ result.toRunResultFields = fields := by
  unfold RunResultFields.toResult
  constructor
  · intro h
    split_ifs at h
    rw [← Except.ok.inj h]
  · rintro rfl
    rw [dif_pos result.valid]

/-- A run returns the summary of its session, if its state has a digest and the validator has no
complaint. -/
theorem MeasurementRunner.run_eq_ok {runner : MeasurementRunner} {digests : List String}
    (hdigests : runner.session.traceSink.records.mapM DecisionRecord.recordDigest = .ok digests)
    {result : MeasurementRunResult} :
    runner.run = .ok result ↔ ∃ stateDigest,
      observedStateDigest runner.session.run.state = .ok stateDigest ∧
        result.toRunResultFields = summarize runner.session.run.resultSnapshot
          (lifecycleFailed runner.session.traceSink) runner.runContext.runContextDigest
          runner.session.traceSink.records digests stateDigest ∧
        validateMeasurementRunResult result runner.session.traceSink.records
          (some runner.session.run.resultSnapshot) (some runner.session.run.state) = .ok [] := by
  have hcount : runner.session.traceSink.acceptedRecordCount = digests.length :=
    (mapM_eq_ok.mp hdigests).length_eq
  constructor
  · intro h
    obtain ⟨accepted, -, h⟩ := bind_eq_ok.mp h
    obtain ⟨_, -, h⟩ := bind_eq_ok.mp h
    obtain ⟨recordDigests, hrecordDigests, h⟩ := bind_eq_ok.mp h
    obtain ⟨_, -, h⟩ := bind_eq_ok.mp h
    obtain ⟨stateDigest, hstate, h⟩ := bind_eq_ok.mp h
    obtain ⟨made, hmade, h⟩ := bind_eq_ok.mp h
    obtain ⟨errors, herrors, h⟩ := bind_eq_ok.mp h
    obtain ⟨_, hnone, h⟩ := bind_eq_ok.mp h
    obtain rfl := Except.ok.inj h
    obtain rfl : digests = recordDigests := Except.ok.inj (hdigests.symm.trans hrecordDigests)
    obtain rfl : errors = [] := not_not.mp (refuseIf_eq_ok.mp hnone)
    exact ⟨stateDigest, hstate, RunResultFields.toResult_eq_ok.mp hmade, herrors⟩
  · rintro ⟨stateDigest, hstate, hresult, hvalid⟩
    apply Runs.bind_of_ok hdigests
    apply Runs.bind_of_ok (a := ()) (refuseIf_eq_ok.mpr (not_not.mpr hcount))
    apply Runs.bind_of_ok hdigests
    apply Runs.bind_of_ok (a := ()) (refuseIf_eq_ok.mpr (not_not.mpr rfl))
    apply Runs.bind_of_ok hstate
    apply Runs.bind_of_ok (RunResultFields.toResult_eq_ok.mpr hresult)
    apply Runs.bind_of_ok hvalid
    apply Runs.bind_of_ok (a := ()) (refuseIf_eq_ok.mpr (not_not.mpr rfl))
    rfl

/-- **Measurements are reported, within the domain of results.** For every session, sink and
lifecycle, a measurement run ends in a valid result with the digests of the accepted records and the
outcome that the final state proves exactly when the session is reportable. -/
theorem measurement_reported_iff (hdumps : DumpsDomain) (runner : MeasurementRunner) :
    (∃ result, Reported runner result) ↔ Reportable runner := by
  have haccounted := run_accounted runner.session
  have hexist : ∀ record ∈ runner.session.traceSink.records,
      ∃ digest, DecisionRecord.recordDigest record = .ok digest :=
    fun record _ => record.exists_recordDigest hdumps
  obtain ⟨digests, hdigests⟩ := exists_mapM hexist
  have hdistinct := nodup_digests_iff hdigests haccounted.records_nodup
  have hdigest : ∀ digest ∈ digests, isDigest digest = true := by
    intro digest hmem
    obtain ⟨record, -, heq⟩ := mem_of_mapM hdigests hmem
    exact DecisionRecord.isDigest_of_recordDigest heq
  have hcontext : (∀ record ∈ runner.session.traceSink.records,
        record.runContextDigest = runner.runContext.runContextDigest) ↔
      (runner.session.traceSink.records ≠ [] →
        runner.session.decisionRecordContext.runContextDigest =
          runner.runContext.runContextDigest) := by
    constructor
    · intro hall hsome
      obtain ⟨record, hrecord⟩ := List.exists_mem_of_ne_nil _ hsome
      rw [← hall record hrecord, accepted_context runner.session hrecord]
    · intro hshared record hrecord
      rw [accepted_context runner.session hrecord]
      exact hshared (List.ne_nil_of_mem hrecord)
  constructor
  · rintro ⟨result, hrun, -, -, -⟩
    obtain ⟨stateDigest, hstate, hresult, hvalid⟩ := (MeasurementRunner.run_eq_ok hdigests).mp hrun
    obtain ⟨complaints, hcomplaints, hshared⟩ :=
      validate_summary haccounted hdigests hstate hresult
    have hnone : complaints = [] := Except.ok.inj (hcomplaints.symm.trans hvalid)
    have hchecks := result.valid
    rw [hresult, summarize_checks_iff runner.runContext.digest (isDigest_of_manifestDigest hstate)
      hdigest] at hchecks
    obtain ⟨hnodup, hcounts⟩ := hchecks
    simp only [RunResultFields.counts, List.forall_mem_cons] at hcounts
    obtain ⟨hexplicit, hdefault, hcontrol, hignored, -⟩ := hcounts
    exact ⟨hdumps.digest_iff.mp ⟨stateDigest, hstate⟩, hignored.1, hexplicit.2, hdefault.2,
      hcontrol.2, hcontext.mp (hshared.mp hnone), hdistinct.mp hnodup⟩
  · intro h
    obtain ⟨stateDigest, hstate⟩ := hdumps.digest_iff.mpr h.state
    have hchecks : firstFault (summarize runner.session.run.resultSnapshot
        (lifecycleFailed runner.session.traceSink) runner.runContext.runContextDigest
        runner.session.traceSink.records digests stateDigest).checks = none := by
      rw [summarize_checks_iff runner.runContext.digest (isDigest_of_manifestDigest hstate) hdigest]
      refine ⟨hdistinct.mpr h.distinct, ?_⟩
      simp only [RunResultFields.counts, List.forall_mem_cons]
      exact ⟨⟨Int.natCast_nonneg _, h.explicit⟩, ⟨Int.natCast_nonneg _, h.default⟩,
        ⟨Int.natCast_nonneg _, h.control⟩, ⟨h.ignored, ignored_le_of_inDomain h.state⟩,
        List.forall_mem_nil _⟩
    let result : MeasurementRunResult := ⟨_, hchecks⟩
    have hsummary : result.toRunResultFields = summarize runner.session.run.resultSnapshot
        (lifecycleFailed runner.session.traceSink) runner.runContext.runContextDigest
        runner.session.traceSink.records digests stateDigest := rfl
    obtain ⟨complaints, hcomplaints, hshared⟩ :=
      validate_summary haccounted hdigests hstate hsummary
    obtain rfl := hshared.mpr (hcontext.mpr h.context)
    refine ⟨result, (MeasurementRunner.run_eq_ok hdigests).mpr
      ⟨stateDigest, hstate, hsummary, hcomplaints⟩, hcomplaints, ?_, fun outcome hmem => ?_⟩
    · rw [← traceSink_records]
      exact hdigests
    · exact battleOutcomeOf_iff hmem

/-- The ledger of a run without records is empty. -/
theorem traceSink_nil {session : MeasurementSession} (h : records session.run.log = []) :
    session.traceSink.records = [] := by
  have hsublist := taken_sublist session
  rw [h] at hsublist
  rw [traceSink_records, List.sublist_nil.mp hsublist]
  rfl

end Runs

/-! ## §4 Measurements -/

def samplePayload : RunContextPayload :=
  letI := compactCanonicalizer
  measurementContext.payload

def sampleScope : RunScopePayload :=
  letI := compactCanonicalizer
  measurementContext.runScope

def sampleResolved : ResolvedDecisionRecordBinding :=
  letI := compactCanonicalizer
  measurementContext.resolvedBinding

def sampleContextDigest : String :=
  letI := compactCanonicalizer
  measurementContext.runContextDigest

/-- What has a canonical form has its compact one. -/
theorem domainCanonicalizer_digest {value : Python.Json} (h : value.inDomain = true) :
    @manifestDigest domainCanonicalizer value = @manifestDigest compactCanonicalizer value := by
  show (if value.inDomain = true then _ else _ : Except PyException (List Nat)).map _ = _
  rw [if_pos h]
  rfl

theorem samplePayload_digest :
    letI := domainCanonicalizer
    manifestDigest samplePayload.toDict = .ok sampleContextDigest :=
  (domainCanonicalizer_digest (by decide +kernel)).trans
    (@MeasurementRunContext.payloadDigest compactCanonicalizer measurementContext)

theorem sampleScope_digest :
    letI := domainCanonicalizer
    deriveRunScopeDigest sampleScope = .ok samplePayload.runScopeDigest :=
  (domainCanonicalizer_digest (by decide +kernel)).trans
    (@MeasurementRunContext.scopeDigest compactCanonicalizer measurementContext)

theorem sampleBattle_digest :
    letI := domainCanonicalizer
    deriveBattleIdDigest samplePayload.runScopeDigest sampleScope.scheduleRowId
      samplePayload.battleOrdinal = .ok samplePayload.battleIdDigest := by
  have hcompact := letI := compactCanonicalizer; measurementContext.battleId
  unfold deriveBattleIdDigest at hcompact ⊢
  rw [domainCanonicalizer_digest (by decide +kernel)]
  exact hcompact

theorem sampleContextDigest_valid : isDigest sampleContextDigest = true := by
  decide +kernel

/-- The first battle of a measurement run, where the canonicalizer refuses what has no form. -/
def domainContext : letI := domainCanonicalizer; MeasurementRunContext :=
  letI := domainCanonicalizer
  { payload := samplePayload
    runContextDigest := sampleContextDigest
    runScope := sampleScope
    resolvedBinding := sampleResolved
    digest := sampleContextDigest_valid
    payloadDigest := samplePayload_digest
    binding := rfl
    scopeDigest := sampleScope_digest
    battleId := sampleBattle_digest
    scope := rfl }

/-- A runner for these lines, with a sink that takes every record but cannot be closed. -/
def sampleRunner (lines : List RoomLine) : letI := domainCanonicalizer; MeasurementRunner :=
  letI := domainCanonicalizer
  { session :=
      { connection :=
          { connect := .ok ()
            lines := lines
            ending := none
            sendGlobal := fun _ _ => .ok ()
            sendRoom := fun _ _ => .ok ()
            close := .ok ()
            expires := fun _ => false }
        roomId := "battle-gen9ou-1"
        policy := heuristicSelect
        initialState := ObservedState.initial "ash"
        decisionRecordContext := domainContext
        delegate := ⟨fun _ _ => .ok (), fun _ => .ok (), fun _ => .error .traceSinkFailure⟩ }
    runContext := domainContext }

/-- A tie is reported, though the sink cannot be closed. -/
theorem tie_reported :
    letI := Python.asciiDatabase
    letI := garchompDecoder
    letI := domainCanonicalizer
    let runner := sampleRunner [⟨some "battle-gen9ou-1", "|tie|"⟩]
    provenOutcome runner.session.run.state = some .tie ∧
      lifecycleFailed runner.session.traceSink = true ∧ ∃ result, Reported runner result := by
  let _ := Python.asciiDatabase
  let _ := garchompDecoder
  let _ := domainCanonicalizer
  intro runner
  have hevaluates : (provenOutcome runner.session.run.state = some .tie ∧
        records runner.session.run.log = []) ∧
      ((projectObservedState runner.session.run.state).inDomain = true ∧
        runner.session.run.state.ignoredDisplayCount = 0) ∧
      runner.session.run.explicitRequestSubmissions = 0 ∧
        runner.session.run.defaultSubmissions = 0 ∧
        runner.session.run.roomControlOrChatCount = 0 := by
    decide +kernel
  obtain ⟨⟨hproven, hrecords⟩, ⟨hdomain, hignored⟩, hexplicit, hdefault, hcontrol⟩ := hevaluates
  have hledger := traceSink_nil hrecords
  refine ⟨hproven, ?_, (measurement_reported_iff domainCanonicalizer_dumpsDomain runner).mpr ?_⟩
  · rw [lifecycleFailed, MeasurementSession.traceSink, runner.session.sinkAfter_eq]
    rfl
  · refine ⟨hdomain, hignored.ge, ?_, ?_, ?_, fun hsome => absurd hledger hsome, ?_⟩
    · rw [hexplicit]
      decide
    · rw [hdefault]
      decide
    · rw [hcontrol]
      decide
    · intro record other key hrecord
      rw [hledger] at hrecord
      cases hrecord

/-- After a turn that no double represents the run raises, and there is no result. -/
theorem unbounded_turn_unreported :
    letI := Python.asciiDatabase
    letI := garchompDecoder
    letI := domainCanonicalizer
    let runner := sampleRunner [⟨some "battle-gen9ou-1", "|turn|9007199254740993"⟩]
    runner.session.run.primaryError = none ∧ runner.session.traceSink.records = [] ∧
      ¬∃ result, Reported runner result := by
  let _ := Python.asciiDatabase
  let _ := garchompDecoder
  let _ := domainCanonicalizer
  intro runner
  have hevaluates : (runner.session.run.primaryError = none ∧ (records runner.session.run.log) = []) ∧
      (projectObservedState runner.session.run.state).inDomain = false := by
    decide +kernel
  obtain ⟨⟨hprimary, hrecords⟩, hdomain⟩ := hevaluates
  have hledger := traceSink_nil hrecords
  refine ⟨hprimary, hledger, ?_⟩
  rintro ⟨result, hrun, -, -, -⟩
  have hnone : runner.session.traceSink.records.mapM DecisionRecord.recordDigest = .ok [] := by
    rw [hledger]
    rfl
  obtain ⟨stateDigest, hstate, -⟩ := (MeasurementRunner.run_eq_ok hnone).mp hrun
  have hinside := domainCanonicalizer_dumpsDomain.digest_iff.mp ⟨stateDigest, hstate⟩
  rw [hdomain] at hinside
  cases hinside

end BattleBelief
