import BattleBelief.Oracle.DeliveryTiming

/-!
# Verdicts

What the session makes of the deliveries. A choice error fails the fixture where the wait sees it
before its barrier is satisfied, and is passed over where the rest of the answer arrives with it.

- `passing_of_runs`: with answers that pass their own barriers, every delivery ends well
- `passes_of_succeeds`: what a successful fixture says about the child
- `delivery_independent_iff`: when the verdict does not depend on the deliveries
-/

namespace BattleBelief.Oracle

open Runs Runner
open Python (Json)

/-! ## §1 Every delivery -/

/-- No answer of the child is a choice error. -/
def ErrorFree (child : Child) : Prop :=
  ∀ message ∈ child.responses.flatten, message.sideError = none

/-- The wait has, with what is still to come, what its barrier asks for. -/
def Passing (s : Runner) : Prop :=
  match s.phase with
  | .waiting start barrier later =>
      barrier.isSatisfiedBy (s.messages.drop start ++ s.written) = true ∧
        Answers later s.responses ∧ s.forcedShutdown = false
  | .closing sideError => sideError = none
  | .returned result => result.terminalSideError = none
  | .raised _ => False

theorem passing_beginStep {s : Runner} {barriers : List ProcessResponseBarrier}
    (hanswers : Answers barriers s.responses) (hexited : s.exited = true → s.responses = [])
    (hforced : s.forcedShutdown = false) : Passing (s.beginStep barriers) := by
  cases barriers with
  | nil => rfl
  | cons barrier later =>
    obtain ⟨hsatisfied, hlater⟩ := hanswers
    have halive : s.exited = false := by
      rw [Bool.eq_false_iff]
      intro h
      rw [hexited h, List.headD_nil, ProcessResponseBarrier.not_isSatisfiedBy_nil] at hsatisfied
      cases hsatisfied
    simp only [Passing, beginStep, halive, Bool.false_eq_true, if_false]
    refine ⟨ProcessResponseBarrier.isSatisfiedBy_mono (fun message hmem => ?_) hsatisfied, hlater,
      hforced⟩
    exact List.mem_append_right _ (List.mem_append_right _ hmem)

/-- The step lemma: with answers that pass their own barriers nothing goes wrong. -/
theorem Passing.step {child : Child} (hquiet : Quiet child) (hfree : ErrorFree child)
    {s t : Runner} {event : Event} (h : Passing s) (haccounts : Accounts child s)
    (hmoves : Moves child s event t) : Passing t := by
  have hdrain : ∀ failureClass, s.stdout ≠ .failed failureClass := by
    intro failureClass hfailed
    have hnone := haccounts.failed failureClass hfailed
    rw [hquiet.drain] at hnone
    cases hnone
  have hexit : s.exited = true → s.forcedShutdown = false →
      exitFailure (child.returncode.getD terminated) = none := by
    intro hexited hforced
    obtain ⟨code, hcode⟩ := Option.isSome_iff_exists.mp (haccounts.natural hexited hforced)
    rw [hcode]
    exact hquiet.exit code hcode
  cases hmoves with
  | deliver hrunning hcount =>
    rename_i count
    cases hphase : s.phase with
    | waiting start barrier later =>
      simp only [Passing, hphase] at h ⊢
      rwa [List.drop_append_of_le_length (haccounts.window _ _ _ hphase), List.append_assoc,
        List.take_append_drop]
    | closing sideError => simpa only [Passing, hphase] using h
    | returned result => simpa only [Passing, hphase] using h
    | raised failureClass => simp only [Passing, hphase] at h
  | endStdout hrunning hwritten hresponses hnone => exact h
  | failStdout hrunning hfailure =>
    rw [hquiet.drain] at hfailure
    cases hfailure
  | exit hexited hresponses hsome => exact h
  | terminate hphase hexited hnone =>
    simp only [Passing, hphase] at h ⊢
    exact h
  | check hphase hchecked =>
    simp only [Passing, hphase] at h
    obtain ⟨hsatisfied, hanswers, hforced⟩ := h
    cases hchecked with
    | drain hfailed => exact absurd hfailed (hdrain _)
    | satisfied hpassed => exact passing_beginStep hanswers haccounts.exited hforced
    | sideError hnot herror =>
      obtain ⟨message, hmem, hmessage⟩ := List.exists_of_findSome?_eq_some herror
      have hall : message ∈ child.responses.flatten := by
        rw [← haccounts.all]
        exact List.mem_append_left _ (List.mem_of_mem_drop hmem)
      rw [hfree message hall] at hmessage
      cases hmessage
    | exited hexited hfailure =>
      rw [hexit hexited hforced] at hfailure
      cases hfailure
    | ended hnot hfinished =>
      obtain ⟨hwritten, -, -⟩ := haccounts.finished hfinished
      rw [hwritten, List.append_nil, hnot] at hsatisfied
      cases hsatisfied
    | again =>
      simp only [Passing, hphase]
      exact ⟨hsatisfied, hanswers, hforced⟩
  | shutdown hphase hshut =>
    simp only [Passing, hphase] at h
    cases hshut with
    | again => simpa only [Passing, hphase] using h
    | drain hfailed => exact absurd hfailed (hdrain _)
    | failed hexited hforced hfailure =>
      rw [hexit hexited hforced] at hfailure
      cases hfailure
    | returned hexited hstdout hcode hmessages hcompleted hterminal => exact hterminal.trans h
  | timeout hphase hwritten hnot hnone =>
    simp only [Passing, hphase] at h
    rw [hwritten, List.append_nil, hnot] at h
    cases h.1

/-- The run lemma. -/
theorem passing_of_runs {child : Child} (hquiet : Quiet child) (hfree : ErrorFree child)
    {barriers : List ProcessResponseBarrier} (hanswers : Answers barriers child.responses)
    {s : Runner} {events : List Event}
    (hrun : RunsTo (step child) (launch child barriers) events s) : Passing s := by
  have hstart : Accounts child (launch child barriers) ∧ Passing (launch child barriers) :=
    ⟨accounts_launch child barriers, passing_beginStep hanswers nofun rfl⟩
  have hkeep : ∀ s event t, Accounts child s ∧ Passing s → step child s event = .ok t →
      Accounts child t ∧ Passing t := by
    rintro s event t ⟨haccounts, hpassing⟩ hstep
    have hmoves := (step_moves hstep).2
    exact ⟨haccounts.step hmoves, hpassing.step hquiet hfree haccounts hmoves⟩
  exact (Runs.invariant hkeep hstart hrun).2

/-! ## §2 What runs end with -/

/-- Some deliveries end so. -/
def Completes (child : Child) (barriers : List ProcessResponseBarrier)
    (outcome : Except OracleFailureClass OracleProcessResult) : Prop :=
  ∃ events s, RunsTo (step child) (launch child barriers) events s ∧ s.outcome = some outcome

theorem outcome_eq_ok {s : Runner} {result : OracleProcessResult} :
    s.outcome = some (.ok result) ↔ s.phase = .returned result := by
  cases hphase : s.phase <;> simp [Runner.outcome, hphase]

theorem beginStep_not_returned (s : Runner) (barriers : List ProcessResponseBarrier)
    (result : OracleProcessResult) : (s.beginStep barriers).phase ≠ .returned result := by
  intro hreturned
  cases barriers with
  | nil => cases hreturned
  | cons barrier later =>
    rw [beginStep] at hreturned
    split_ifs at hreturned

/-- A result tells what the child has written. -/
theorem reported_of_completes {child : Child} {barriers : List ProcessResponseBarrier}
    {result : OracleProcessResult} (h : Completes child barriers (.ok result)) :
    Reported child result := by
  obtain ⟨events, s, hrun, houtcome⟩ := h
  have hstart : Accounts child (launch child barriers) ∧
      ∀ result, (launch child barriers).phase = .returned result → Reported child result := by
    refine ⟨accounts_launch child barriers, fun result hphase => ?_⟩
    exact absurd hphase (beginStep_not_returned _ barriers result)
  have hkeep : ∀ s event t, (Accounts child s ∧
      ∀ result, s.phase = .returned result → Reported child result) →
      step child s event = .ok t → Accounts child t ∧
        ∀ result, t.phase = .returned result → Reported child result := by
    rintro s event t ⟨haccounts, hreported⟩ hstep
    obtain ⟨hlive, hmoves⟩ := step_moves hstep
    refine ⟨haccounts.step hmoves, fun result hphase => ?_⟩
    cases hmoves with
    | deliver hrunning hcount => exact hreported result hphase
    | endStdout hrunning hwritten hresponses hnone => exact hreported result hphase
    | failStdout hrunning hfailure => exact hreported result hphase
    | exit hexited hresponses hsome => exact hreported result hphase
    | terminate hclosing hexited hnone => exact hreported result hphase
    | check hwaiting hchecked =>
      cases hchecked with
      | drain hfailed => cases hphase
      | satisfied hsatisfied => exact absurd hphase (beginStep_not_returned s _ result)
      | sideError hnot herror => cases hphase
      | exited hexited hfailure => cases hphase
      | ended hnot hfinished => cases hphase
      | again => exact hreported result hphase
    | shutdown hclosing hshut => exact reported_of_shutDown haccounts hclosing hshut hphase
    | timeout hwaiting hwritten hnot hnone => cases hphase
  exact (Runs.invariant hkeep hstart hrun).2 result (outcome_eq_ok.mp houtcome)

/-- Without choice error a result comes from a child that serves the barriers, and is all of its
output. -/
theorem quiet_of_completes {child : Child} {barriers : List ProcessResponseBarrier}
    {result : OracleProcessResult} (h : Completes child barriers (.ok result))
    (hnone : result.terminalSideError = none) :
    Quiet child ∧ Serves [] barriers child.responses ∧ result.messages = child.responses.flatten := by
  obtain ⟨hall, hdrain, hexit⟩ := (reported_of_completes h).complete hnone
  obtain ⟨events, s, hrun, houtcome⟩ := h
  have hphase := outcome_eq_ok.mp houtcome
  have hserves : Serves [] barriers child.responses := by
    apply serves_of_runs hrun
    simp only [Remaining, hphase]
    exact hnone
  exact ⟨⟨hdrain, hexit⟩, hserves, hall⟩

/-- A runner that has just launched a child. -/
def launched (child : Child) : Runner where
  messages := []
  written := []
  responses := child.responses
  stdout := .running
  exited := false
  forcedShutdown := false
  phase := .closing none

theorem exists_completes_served {child : Child} (hquiet : Quiet child)
    {barriers : List ProcessResponseBarrier} (hserves : Serves [] barriers child.responses) :
    ∃ result, Completes child barriers (.ok result) ∧ result.terminalSideError = none := by
  obtain ⟨events, t, result, hrun, hphase, hnone⟩ :=
    exists_served_run hquiet (s := launched child) ⟨rfl, rfl⟩ hserves
  exact ⟨result, ⟨events, t, hrun, outcome_eq_ok.mpr hphase⟩, hnone⟩

theorem exists_completes_failed {child : Child} (hquiet : Quiet child)
    {barriers : List ProcessResponseBarrier} (hanswers : ¬Answers barriers child.responses) :
    ∃ outcome, Completes child barriers outcome ∧
      ∀ result, outcome = .ok result → result.terminalSideError.isSome = true := by
  obtain ⟨events, t, hrun, hraised | ⟨result, hphase, hsome⟩⟩ :=
    exists_failed_run hquiet (s := launched child) ⟨rfl, rfl⟩ rfl hanswers
  · have houtcome : t.outcome = some (.error .responseTimeout) := by rw [Runner.outcome, hraised]
    exact ⟨_, ⟨events, t, hrun, houtcome⟩, fun result h => by cases h⟩
  · refine ⟨_, ⟨events, t, hrun, outcome_eq_ok.mpr hphase⟩, fun result' h => ?_⟩
    obtain rfl := Except.ok.inj h
    exact hsome

/-- With answers that pass their own barriers, and no choice error, every delivery ends well. -/
theorem completes_of_answers {child : Child} (hquiet : Quiet child) (hfree : ErrorFree child)
    {barriers : List ProcessResponseBarrier} (hanswers : Answers barriers child.responses)
    {outcome : Except OracleFailureClass OracleProcessResult}
    (h : Completes child barriers outcome) :
    ∃ result, outcome = .ok result ∧ result.terminalSideError = none := by
  obtain ⟨events, s, hrun, houtcome⟩ := h
  have hpassing := passing_of_runs hquiet hfree hanswers hrun
  cases hphase : s.phase with
  | waiting start barrier later => simp [Runner.outcome, hphase] at houtcome
  | closing sideError => simp [Runner.outcome, hphase] at houtcome
  | returned result =>
    simp only [Passing, hphase] at hpassing
    simp only [Runner.outcome, hphase, Option.some.injEq] at houtcome
    exact ⟨result, houtcome.symm, hpassing⟩
  | raised failureClass => simp only [Passing, hphase] at hpassing

/-! ## §3 Verdicts -/

/-- A process result passes all tests of `run_fixture`. -/
theorem failureOf_eq_none {fixture : Fixture} {result : OracleProcessResult} :
    failureOf fixture result = none ↔ result.terminalSideError = none ∧
      result.completedBarriers = true ∧ result.messages.any ProtocolMessage.isEnd = true ∧
      ∀ line ∈ fixture.expectedTeraLine, result.messages.any (isUpdateWith line) = true := by
  rw [failureOf]
  split_ifs with hside hbarriers hend htera
  · exact iff_of_false nofun fun h => Option.isSome_iff_ne_none.mp hside h.1
  · refine iff_of_false nofun fun h => ?_
    rw [h.2.1] at hbarriers
    cases hbarriers
  · refine iff_of_false nofun fun h => ?_
    rw [h.2.2.1] at hend
    cases hend
  · refine iff_of_false nofun fun h => ?_
    obtain ⟨line, hline, hnone⟩ := (Option.any_eq_true _ _).mp htera
    rw [h.2.2.2 line hline] at hnone
    cases hnone
  · refine iff_of_true rfl ⟨by simpa using hside, by simpa using hbarriers, by simpa using hend, ?_⟩
    intro line hline
    by_contra hnot
    exact htera ((Option.any_eq_true _ _).mpr ⟨line, hline, by simp [hnot]⟩)

section Verdicts

variable [Python.UnicodeDatabase] [Python.NormalForms] [JsonModule] [Rfc8785]

/-- The session reports success when the process runner ends so. -/
def Succeeds (config : ShowdownOracleConfig) (document : Json)
    (outcome : Except OracleFailureClass OracleProcessResult) : Prop :=
  ∃ result, runFixture config (.ok ()) true (fun _ => outcome) document = .ok result ∧
    result.status = .success

/-- No entry of the transcript is a choice error. -/
def SideErrorFree (result : OracleResult) : Prop :=
  ∀ entries, decodeJson result.canonicalTranscript = .ok (.arr entries) →
    ∀ entry ∈ entries, isOfKind entry "side_error" = false

omit [Python.UnicodeDatabase] [Python.NormalForms] in
theorem buildResult_eq_ok {prepared : Prepared} {status : OracleStatus}
    {failureClass : Option OracleFailureClass} {transcript : List Json}
    {identities : List OracleRequestIdentity} {result : OracleResult}
    (h : buildResult prepared status failureClass transcript identities = .ok result) :
    result.status = status ∧ Rfc8785.dumps (.arr transcript) = .ok result.canonicalTranscript := by
  obtain ⟨digest, -, h⟩ := bind_eq_ok.mp h
  obtain ⟨raw, hraw, h⟩ := bind_eq_ok.mp h
  have hfields := OracleResult.create_eq_ok.mp h
  refine ⟨congrArg ResultFields.status hfields, ?_⟩
  rw [congrArg ResultFields.canonicalTranscript hfields]
  exact hraw

omit [Python.UnicodeDatabase] [Python.NormalForms] in
/-- What a result says about the messages that it was made of. -/
theorem concludeFixture_eq_ok {prepared : Prepared} {processResult : OracleProcessResult}
    {result : OracleResult} (h : concludeFixture prepared processResult = .ok result) :
    (result.status = .success ↔ failureOf prepared.fixture processResult = none) ∧
      ∃ transcript, transcriptDocument processResult.messages = .ok transcript ∧
        Rfc8785.dumps (.arr transcript) = .ok result.canonicalTranscript := by
  obtain ⟨transcript, htranscript, h⟩ := bind_eq_ok.mp h
  obtain ⟨identities, -, h⟩ := bind_eq_ok.mp h
  split at h
  · rename_i failureClass hfailure
    obtain ⟨hstatus, hraw⟩ := buildResult_eq_ok h
    exact ⟨by simp [hstatus, hfailure], transcript, htranscript, hraw⟩
  · rename_i hfailure
    obtain ⟨hstatus, hraw⟩ := buildResult_eq_ok h
    exact ⟨by simp [hstatus, hfailure], transcript, htranscript, hraw⟩

omit [Rfc8785] [Python.UnicodeDatabase] [Python.NormalForms] in
/-- The entry of a choice error is the only one of its kind. -/
theorem isOfKind_transcriptEntry [Rfc8785] {message : ProtocolMessage} {entry : Json}
    (h : transcriptEntry message = .ok entry) :
    isOfKind entry "side_error" = message.sideError.isSome := by
  cases message with
  | updateMessage lines =>
    obtain rfl := Except.ok.inj h
    simp [isOfKind, isText, Json.get?, Python.Dict.get?, ProtocolMessage.sideError]
  | sideUpdateMessage side lines requestJson =>
    obtain ⟨value, -, hentry⟩ := bind_eq_ok.mp h
    obtain rfl := Except.ok.inj hentry
    simp [isOfKind, isText, Json.get?, Python.Dict.get?, ProtocolMessage.sideError]
  | sideErrorMessage side line =>
    obtain rfl := Except.ok.inj h
    simp [isOfKind, isText, Json.get?, Python.Dict.get?, ProtocolMessage.sideError]
  | endMessage logJson =>
    obtain ⟨value, -, hentry⟩ := bind_eq_ok.mp h
    obtain rfl := Except.ok.inj hentry
    simp [isOfKind, isText, Json.get?, Python.Dict.get?, ProtocolMessage.sideError]

omit [Python.UnicodeDatabase] [Python.NormalForms] in
/-- The transcript shows the choice errors among the messages, and no others. -/
theorem sideErrorFree_iff (hjson : CanonicalJson) {prepared : Prepared}
    {processResult : OracleProcessResult} {result : OracleResult}
    (h : concludeFixture prepared processResult = .ok result) :
    SideErrorFree result ↔ ∀ message ∈ processResult.messages, message.sideError = none := by
  obtain ⟨-, transcript, htranscript, hcanonical⟩ := concludeFixture_eq_ok h
  obtain ⟨arranged, raw, hraw, -, hdecode, -, hkinds⟩ := exists_arranged hjson htranscript
  obtain rfl := Except.ok.inj (hraw.symm.trans hcanonical)
  have hmap : (arranged.map fun entry => isOfKind entry "side_error") =
      processResult.messages.map fun message => message.sideError.isSome := by
    rw [hkinds]
    exact map_eq_of_mapM htranscript fun message entry hentry => isOfKind_transcriptEntry hentry
  have hfree : SideErrorFree result ↔
      ∀ kind ∈ arranged.map fun entry => isOfKind entry "side_error", kind = false := by
    rw [List.forall_mem_map]
    constructor
    · intro h entry hentry
      exact h arranged hdecode entry hentry
    · intro h entries hentries
      obtain rfl := Json.arr.inj (Except.ok.inj (hdecode.symm.trans hentries))
      exact h
  rw [hfree, hmap, List.forall_mem_map]
  simp

/-- All that a success takes: some deliveries let every barrier pass, nothing else of the child is
in the way, and its output is one that a result can record. -/
structure Passes (prepared : Prepared) (child : Child) : Prop where
  quiet : Quiet child
  served : Serves [] fixtureBarriers child.responses
  teraShown : ∀ line ∈ prepared.fixture.expectedTeraLine,
    child.responses.flatten.any (isUpdateWith line) = true
  recordable : Recordable child.responses.flatten

omit [Python.UnicodeDatabase] [Python.NormalForms] in
theorem Passes.ended {prepared : Prepared} {child : Child} (h : Passes prepared child) :
    child.responses.flatten.any ProtocolMessage.isEnd = true := by
  have hend := satisfied_of_serves h.served endBarrier (by simp [fixtureBarriers])
  rw [List.nil_append, ProcessResponseBarrier.isSatisfiedBy_iff] at hend
  exact List.any_eq_true.mpr (hend.2 rfl)

theorem barrier_of_prepare {config : ShowdownOracleConfig} {document : Json} {prepared : Prepared}
    (h : prepare config document = .ok prepared) :
    prepared.steps.map ProcessInteractionStep.barrier = fixtureBarriers := by
  obtain ⟨fixture, -, h⟩ := bind_eq_ok.mp h
  obtain ⟨_, -, h⟩ := bind_eq_ok.mp h
  obtain ⟨steps, hsteps, h⟩ := bind_eq_ok.mp h
  obtain ⟨texts, -, h⟩ := bind_eq_ok.mp h
  obtain ⟨canonicalInput, -, h⟩ := bind_eq_ok.mp h
  obtain ⟨inputDigest, -, h⟩ := bind_eq_ok.mp h
  obtain ⟨seedDigest, -, h⟩ := bind_eq_ok.mp h
  obtain rfl := Except.ok.inj h
  exact barrier_buildSteps hsteps

/-- The session's result where the process runner has returned. -/
theorem runFixture_ok {config : ShowdownOracleConfig} {document : Json} {prepared : Prepared}
    (hprepared : prepare config document = .ok prepared) {processResult : OracleProcessResult}
    {result : OracleResult} :
    runFixture config (.ok ()) true (fun _ => .ok processResult) document = .ok result ↔
      concludeFixture prepared processResult = .ok result := by
  rw [← mapError_eq_ok (f := DecoderError.raised)]
  simp only [runFixture, hprepared, bind, Except.bind, runPrepared, Bool.not_true,
    Bool.false_eq_true, if_false]

/-- A success is one of a process result that passes the tests and can be recorded. -/
theorem succeeds_iff (hjson : CanonicalJson) {config : ShowdownOracleConfig} {document : Json}
    {prepared : Prepared} (hprepared : prepare config document = .ok prepared)
    {outcome : Except OracleFailureClass OracleProcessResult} :
    Succeeds config document outcome ↔ ∃ processResult, outcome = .ok processResult ∧
      failureOf prepared.fixture processResult = none ∧ Recordable processResult.messages := by
  constructor
  · rintro ⟨result, hrun, hsuccess⟩
    cases outcome with
    | error failureClass =>
      simp only [runFixture, hprepared, bind, Except.bind, runPrepared, Bool.not_true,
        Bool.false_eq_true, if_false] at hrun
      have hstatus := (buildResult_eq_ok (mapError_eq_ok.mp hrun)).1
      rw [hsuccess] at hstatus
      cases hstatus
    | ok processResult =>
      have hconclude := (runFixture_ok hprepared).mp hrun
      refine ⟨processResult, rfl, (concludeFixture_eq_ok hconclude).1.mp hsuccess, ?_⟩
      exact (exists_concludeFixture_iff hjson (sound_of_prepare hprepared) _).mp ⟨result, hconclude⟩
  · rintro ⟨processResult, rfl, hnone, hrecordable⟩
    obtain ⟨result, hconclude⟩ :=
      (exists_concludeFixture_iff hjson (sound_of_prepare hprepared) _).mpr hrecordable
    exact ⟨result, (runFixture_ok hprepared).mpr hconclude,
      (concludeFixture_eq_ok hconclude).1.mpr hnone⟩

/-- A success shows that the child can pass, and was told from all of its output. -/
theorem passes_of_succeeds (hjson : CanonicalJson) {config : ShowdownOracleConfig}
    {document : Json} {prepared : Prepared} (hprepared : prepare config document = .ok prepared)
    {child : Child} {outcome : Except OracleFailureClass OracleProcessResult}
    (hcompletes : Completes child fixtureBarriers outcome)
    (hsucceeds : Succeeds config document outcome) :
    Passes prepared child ∧ ∃ processResult, outcome = .ok processResult ∧
      processResult.messages = child.responses.flatten := by
  obtain ⟨processResult, rfl, hnone, hrecordable⟩ := (succeeds_iff hjson hprepared).mp hsucceeds
  obtain ⟨hside, -, -, htera⟩ := failureOf_eq_none.mp hnone
  obtain ⟨hquiet, hserves, hall⟩ := quiet_of_completes hcompletes hside
  rw [hall] at htera hrecordable
  exact ⟨⟨hquiet, hserves, htera, hrecordable⟩, processResult, rfl, hall⟩

/-- Where the child can pass, all that is left to see is a choice error that ends the steps. -/
theorem succeeds_of_passes (hjson : CanonicalJson) {config : ShowdownOracleConfig}
    {document : Json} {prepared : Prepared} (hprepared : prepare config document = .ok prepared)
    {child : Child} (hpasses : Passes prepared child) {processResult : OracleProcessResult}
    (hcompletes : Completes child fixtureBarriers (.ok processResult))
    (hside : processResult.terminalSideError = none) :
    Succeeds config document (.ok processResult) := by
  obtain ⟨-, -, hall⟩ := quiet_of_completes hcompletes hside
  have hcompleted : processResult.completedBarriers = true := by
    rw [(reported_of_completes hcompletes).completed, hside]
    rfl
  have hnone : failureOf prepared.fixture processResult = none := by
    rw [failureOf_eq_none, hall]
    exact ⟨hside, hcompleted, hpasses.ended, hpasses.teraShown⟩
  exact (succeeds_iff hjson hprepared).mpr ⟨_, rfl, hnone, by rw [hall]; exact hpasses.recordable⟩

/-- Every success is free of choice errors, and all deliveries of the child's output come to one
verdict, exactly when no deliveries at all succeed, or each answer passes its own barrier and none
of its messages is a choice error. -/
theorem delivery_independent_iff (hjson : CanonicalJson) (config : ShowdownOracleConfig)
    (document : Json) (prepared : Prepared) (hprepared : prepare config document = .ok prepared)
    (child : Child) :
    ((∀ outcome result,
          Completes child (prepared.steps.map ProcessInteractionStep.barrier) outcome →
          runFixture config (.ok ()) true (fun _ => outcome) document = .ok result →
          result.status = .success → SideErrorFree result) ∧
        ∀ outcome outcome',
          Completes child (prepared.steps.map ProcessInteractionStep.barrier) outcome →
          Completes child (prepared.steps.map ProcessInteractionStep.barrier) outcome' →
          (Succeeds config document outcome ↔ Succeeds config document outcome')) ↔
      (Passes prepared child → Answers fixtureBarriers child.responses ∧ ErrorFree child) := by
  rw [barrier_of_prepare hprepared]
  constructor
  · rintro ⟨hfree, hsame⟩ hpasses
    obtain ⟨processResult, hcompletes, hside⟩ :=
      exists_completes_served hpasses.quiet hpasses.served
    have hsucceeds := succeeds_of_passes hjson hprepared hpasses hcompletes hside
    constructor
    · -- other deliveries would fail
      by_contra hanswers
      obtain ⟨outcome, hother, hfailed⟩ := exists_completes_failed hpasses.quiet hanswers
      obtain ⟨other, hok, hnone, -⟩ := (succeeds_iff hjson hprepared).mp
        ((hsame _ _ hcompletes hother).mp hsucceeds)
      have hsome := hfailed other hok
      rw [(failureOf_eq_none.mp hnone).1] at hsome
      cases hsome
    · obtain ⟨result, hrun, hsuccess⟩ := hsucceeds
      have hnone := hfree _ result hcompletes hrun hsuccess
      rw [sideErrorFree_iff hjson ((runFixture_ok hprepared).mp hrun),
        (quiet_of_completes hcompletes hside).2.2] at hnone
      exact hnone
  · intro h
    constructor
    · intro outcome result hcompletes hrun hsuccess
      obtain ⟨hpasses, processResult, rfl, hall⟩ :=
        passes_of_succeeds hjson hprepared hcompletes ⟨result, hrun, hsuccess⟩
      rw [sideErrorFree_iff hjson ((runFixture_ok hprepared).mp hrun), hall]
      exact (h hpasses).2
    · have hsucceeds : ∀ outcome outcome', Completes child fixtureBarriers outcome →
          Completes child fixtureBarriers outcome' → Succeeds config document outcome →
          Succeeds config document outcome' := by
        intro outcome outcome' hcompletes hcompletes' hsucceeds
        obtain ⟨hpasses, -⟩ := passes_of_succeeds hjson hprepared hcompletes hsucceeds
        obtain ⟨hanswers, hfree⟩ := h hpasses
        obtain ⟨processResult, rfl, hside⟩ :=
          completes_of_answers hpasses.quiet hfree hanswers hcompletes'
        exact succeeds_of_passes hjson hprepared hpasses hcompletes' hside
      intro outcome outcome' hcompletes hcompletes'
      exact ⟨hsucceeds _ _ hcompletes hcompletes', hsucceeds _ _ hcompletes' hcompletes⟩

end Verdicts

/-! ## §4 Choices made again -/

def emptyRequest (side : PlayerSide) : ProtocolMessage :=
  .sideUpdateMessage side ["|request|\x7b\x7d"] (utf8 "\x7b\x7d")

def unavailableChoice (side : PlayerSide) : ProtocolMessage :=
  .sideErrorMessage side "|error|[Unavailable choice] Can't switch: The active Pokémon is trapped"

def closingMessage : ProtocolMessage := .endMessage (utf8 "\x7b\x7d")

/-- A child with this answer to the moves. -/
def childAnswering (answer : List ProtocolMessage) : Child where
  responses :=
    [[emptyRequest .p1, emptyRequest .p2], [emptyRequest .p1, emptyRequest .p2], answer, [closingMessage]]
  drainFailure := none
  returncode := some 0

/-- Both players are told that their choice is not available, and asked again. -/
def retryingChild : Child :=
  childAnswering [unavailableChoice .p1, emptyRequest .p1, unavailableChoice .p2, emptyRequest .p2]

def plainChild : Child := childAnswering [emptyRequest .p1, emptyRequest .p2]

theorem quiet_childAnswering (answer : List ProtocolMessage) : Quiet (childAnswering answer) where
  drain := rfl
  exit code hcode := by
    obtain rfl := Option.some.inj hcode
    rfl

theorem answers_childAnswering {answer : List ProtocolMessage}
    (h : requestBarrier.isSatisfiedBy answer = true) :
    Answers fixtureBarriers (childAnswering answer).responses := by
  have hrequests : requestBarrier.isSatisfiedBy [emptyRequest .p1, emptyRequest .p2] = true := by
    decide
  have hend : endBarrier.isSatisfiedBy [closingMessage] = true := by decide
  exact ⟨hrequests, hrequests, h, hend, trivial⟩

theorem passes_childAnswering {answer : List ProtocolMessage} {prepared : Prepared}
    (hfields : prepared.fixture.toFixtureFields = exampleFields)
    (h : requestBarrier.isSatisfiedBy answer = true)
    (hpayloads :
      letI := compactJson
      letI := textCanonicalizer
      ∀ message ∈ answer, PayloadReads message)
    (hlength : answer.length ≤ 4) :
    letI := compactJson
    letI := textCanonicalizer
    Passes prepared (childAnswering answer) := by
  let _ := compactJson
  let _ := textCanonicalizer
  have hrequest : ∀ side, PayloadReads (emptyRequest side) :=
    fun side => ⟨[], canonicalJsonObject_emptyObject⟩
  refine ⟨quiet_childAnswering answer, serves_of_answers (answers_childAnswering h), ?_, ?_, ?_⟩
  · rw [hfields]
    exact nofun
  · intro message hmem
    simp only [childAnswering, List.flatten_cons, List.flatten_nil, List.mem_append, List.mem_cons,
      List.not_mem_nil, or_false] at hmem
    rcases hmem with (rfl | rfl) | (rfl | rfl) | hmem | rfl
    · exact hrequest .p1
    · exact hrequest .p2
    · exact hrequest .p1
    · exact hrequest .p2
    · exact hpayloads message hmem
    · exact ⟨_, canonicalJsonObject_emptyObject⟩
  · have hle := List.length_filter_le ProtocolMessage.isRequest (childAnswering answer).responses.flatten
    have hall : (childAnswering answer).responses.flatten.length = answer.length + 5 := by
      simp [childAnswering]
    have hsafe : (9 : Int) ≤ maxSafeInteger + 1 := by decide
    omega

theorem payloadReads_retrying :
    letI := compactJson
    letI := textCanonicalizer
    ∀ message ∈ [unavailableChoice .p1, emptyRequest .p1, unavailableChoice .p2, emptyRequest .p2],
      PayloadReads message := by
  let _ := compactJson
  let _ := textCanonicalizer
  have hrequest : ∀ side, PayloadReads (emptyRequest side) :=
    fun side => ⟨[], canonicalJsonObject_emptyObject⟩
  simp only [List.forall_mem_cons]
  exact ⟨trivial, hrequest .p1, trivial, hrequest .p2, fun message hmem => by cases hmem⟩

/-- The chunk that ends behind the first choice error. -/
def shortChunks : List Event :=
  [.deliver 2, .turn, .deliver 2, .turn, .deliver 1, .turn, .exit, .turn]

/-- The same messages of the child end in a success whose transcript has choice errors, or in a
failure. -/
theorem choice_error_passed_over :
    letI := Python.asciiDatabase
    letI := Python.plainForms
    letI := compactJson
    letI := textCanonicalizer
    ∃ prepared, prepare exampleConfig exampleDocument = .ok prepared ∧
      (∃ outcome result,
        Completes retryingChild (prepared.steps.map ProcessInteractionStep.barrier) outcome ∧
        runFixture exampleConfig (.ok ()) true (fun _ => outcome) exampleDocument = .ok result ∧
        result.status = .success ∧ ¬SideErrorFree result) ∧
      ∃ outcome,
        Completes retryingChild (prepared.steps.map ProcessInteractionStep.barrier) outcome ∧
        ¬Succeeds exampleConfig exampleDocument outcome := by
  let _ := Python.asciiDatabase
  let _ := Python.plainForms
  let _ := compactJson
  let _ := textCanonicalizer
  obtain ⟨prepared, hprepared, hfields⟩ := exists_prepared
  refine ⟨prepared, hprepared, ?_, ?_⟩
  · rw [barrier_of_prepare hprepared]
    have hpasses : Passes prepared retryingChild :=
      passes_childAnswering hfields (by decide) payloadReads_retrying (by decide)
    obtain ⟨processResult, hcompletes, hside⟩ :=
      exists_completes_served hpasses.quiet hpasses.served
    obtain ⟨result, hrun, hsuccess⟩ :=
      succeeds_of_passes canonicalJson_compactJson hprepared hpasses hcompletes hside
    refine ⟨_, result, hcompletes, hrun, hsuccess, ?_⟩
    rw [sideErrorFree_iff canonicalJson_compactJson ((runFixture_ok hprepared).mp hrun),
      (quiet_of_completes hcompletes hside).2.2]
    intro hfree
    have hnone := hfree (unavailableChoice .p1) (by simp [retryingChild, childAnswering])
    cases hnone
  · rw [barrier_of_prepare hprepared]
    have hfailed : ∃ s result,
        RunsTo (step retryingChild) (launch retryingChild fixtureBarriers) shortChunks s ∧
          s.outcome = some (.ok result) ∧ result.terminalSideError.isSome = true :=
      ⟨_, _, rfl, rfl, rfl⟩
    obtain ⟨s, processResult, hrun, houtcome, hsome⟩ := hfailed
    refine ⟨_, ⟨shortChunks, s, hrun, houtcome⟩, fun hsucceeds => ?_⟩
    obtain ⟨other, hok, hnone, -⟩ :=
      (succeeds_iff canonicalJson_compactJson hprepared).mp hsucceeds
    obtain rfl := Except.ok.inj hok
    rw [(failureOf_eq_none.mp hnone).1] at hsome
    cases hsome

/-- A child without choice errors, whose answers pass their barriers. -/
theorem plainChild_delivery_independent :
    letI := Python.asciiDatabase
    letI := Python.plainForms
    letI := compactJson
    letI := textCanonicalizer
    ∃ prepared, prepare exampleConfig exampleDocument = .ok prepared ∧
      ∀ outcome outcome',
        Completes plainChild (prepared.steps.map ProcessInteractionStep.barrier) outcome →
        Completes plainChild (prepared.steps.map ProcessInteractionStep.barrier) outcome' →
        (Succeeds exampleConfig exampleDocument outcome ↔
          Succeeds exampleConfig exampleDocument outcome') := by
  let _ := Python.asciiDatabase
  let _ := Python.plainForms
  let _ := compactJson
  let _ := textCanonicalizer
  obtain ⟨prepared, hprepared, -⟩ := exists_prepared
  have hfree : ErrorFree plainChild := by
    simp [ErrorFree, plainChild, childAnswering, emptyRequest, closingMessage, ProtocolMessage.sideError]
  have h := (delivery_independent_iff canonicalJson_compactJson exampleConfig exampleDocument
    prepared hprepared plainChild).mpr fun _ => ⟨answers_childAnswering (by decide), hfree⟩
  exact ⟨prepared, hprepared, h.2⟩

end BattleBelief.Oracle
