import BattleBelief.Oracle.EvidenceTotality
import BattleBelief.Oracle.ProcessRunner

/-!
# Delivery Timing

How a run of the process runner depends on the deliveries. A barrier is tested before the choice
errors are, and its window ends with the messages that have arrived, so that the same output of the
child may pass or fail:

- `serves_of_runs`: where a run ends well, some deliveries let every barrier pass
- `exists_served_run`: where some deliveries do, some run ends well
- `exists_failed_run`: where an answer does not pass its own barrier, some run ends badly
-/

namespace BattleBelief.Oracle

open Runs Runner
open Python (Json)

/-! ## §1 One step -/

/-- The turns of `_wait_for_barrier`, in the order of its tests. -/
inductive Checked (child : Child) (s : Runner) (start : Nat) (barrier : ProcessResponseBarrier)
    (later : List ProcessResponseBarrier) : Runner → Prop where
  | drain {failureClass : OracleFailureClass} : s.stdout = .failed failureClass →
      Checked child s start barrier later { s with phase := .raised failureClass }
  | satisfied : barrier.isSatisfiedBy (s.messages.drop start) = true →
      Checked child s start barrier later (s.beginStep later)
  | sideError {sideError : PlayerSide × String} :
      barrier.isSatisfiedBy (s.messages.drop start) = false →
      (s.messages.drop start).findSome? ProtocolMessage.sideError = some sideError →
      Checked child s start barrier later
        { s with
          written := s.written ++ s.responses.flatten
          responses := []
          phase := .closing (some sideError) }
  | exited {failureClass : OracleFailureClass} :
      s.exited = true → exitFailure (child.returncode.getD terminated) = some failureClass →
      Checked child s start barrier later { s with phase := .raised failureClass }
  | ended : barrier.isSatisfiedBy (s.messages.drop start) = false → s.stdout = .finished →
      Checked child s start barrier later { s with phase := .raised .protocolDesynchronization }
  | again : Checked child s start barrier later s

theorem checkBarrier_checked (child : Child) (s : Runner) (start : Nat)
    (barrier : ProcessResponseBarrier) (later : List ProcessResponseBarrier) :
    Checked child s start barrier later (s.checkBarrier child start barrier later) := by
  unfold checkBarrier
  split
  · rename_i failureClass hfailed
    exact .drain hfailed
  · rename_i stdout hstdout
    by_cases hsatisfied : barrier.isSatisfiedBy (s.messages.drop start) = true
    · rw [if_pos hsatisfied]
      exact .satisfied hsatisfied
    · have hnot := Bool.eq_false_iff.mpr hsatisfied
      rw [if_neg hsatisfied]
      split
      · rename_i sideError herror
        exact .sideError hnot herror
      · split
        · rename_i failureClass hexit
          split_ifs at hexit with hexited
          exact .exited hexited hexit
        · by_cases hfinished : s.stdout = .finished
          · rw [if_pos hfinished]
            exact .ended hnot hfinished
          · rw [if_neg hfinished]
            exact .again

/-- The turns of `run` behind the steps. -/
inductive ShutDown (child : Child) (s : Runner) (sideError : Option (PlayerSide × String)) :
    Runner → Prop where
  | again : ShutDown child s sideError s
  | drain {failureClass : OracleFailureClass} : s.stdout = .failed failureClass →
      ShutDown child s sideError { s with phase := .raised failureClass }
  | failed {failureClass : OracleFailureClass} : s.exited = true → s.forcedShutdown = false →
      exitFailure (child.returncode.getD terminated) = some failureClass →
      ShutDown child s sideError { s with phase := .raised failureClass }
  | returned {result : OracleProcessResult} : s.exited = true →
      (sideError = none → s.stdout = .finished) →
      (s.forcedShutdown = false → exitFailure (child.returncode.getD terminated) = none) →
      result.messages = s.messages → result.completedBarriers = sideError.isNone →
      result.terminalSideError = sideError →
      ShutDown child s sideError { s with phase := .returned result }

theorem conclude_shutDown {child : Child} {s : Runner} {sideError : Option (PlayerSide × String)}
    (hexited : s.exited = true) (hstdout : sideError = none → s.stdout = .finished) :
    ShutDown child s sideError { s with phase := s.conclude child sideError } := by
  unfold conclude
  dsimp only
  split
  · rename_i failureClass hfailure
    split_ifs at hfailure with hforced
    exact .failed hexited (Bool.eq_false_iff.mpr hforced) hfailure
  · rename_i hnone
    refine .returned hexited hstdout (fun hforced => ?_) rfl rfl rfl
    rwa [if_neg (by simp [hforced])] at hnone

theorem checkShutdown_shutDown (child : Child) (s : Runner)
    (sideError : Option (PlayerSide × String)) :
    ShutDown child s sideError (s.checkShutdown child sideError) := by
  unfold checkShutdown
  by_cases hexited : s.exited = true
  · rw [if_neg (by simp [hexited])]
    split
    · exact .again
    · rename_i failureClass hfailed
      exact .drain hfailed
    · rename_i hrunning hfailed
      refine conclude_shutDown hexited ?_
      rintro rfl
      cases hstdout : s.stdout with
      | running => exact absurd hstdout (hrunning rfl)
      | finished => rfl
      | failed failureClass => exact absurd hstdout (hfailed failureClass rfl)
  · rw [if_pos (by simp [hexited])]
    exact .again

/-- What an event does. -/
inductive Moves (child : Child) (s : Runner) : Event → Runner → Prop where
  | deliver {count : Nat} : s.stdout = .running → count ≤ s.written.length →
      Moves child s (.deliver count)
        { s with
          messages := s.messages ++ s.written.take count
          written := s.written.drop count }
  | endStdout : s.stdout = .running → s.written = [] → s.responses = [] →
      child.drainFailure = none → Moves child s .endStdout { s with stdout := .finished }
  | failStdout {failureClass : OracleFailureClass} : s.stdout = .running →
      child.drainFailure = some failureClass →
      Moves child s (.failStdout failureClass) { s with stdout := .failed failureClass }
  | exit : s.exited = false → s.responses = [] → child.returncode.isSome = true →
      Moves child s .exit { s with exited := true }
  | terminate {sideError : Option (PlayerSide × String)} : s.phase = .closing sideError →
      s.exited = false → child.returncode = none →
      Moves child s .terminate { s with exited := true, forcedShutdown := true }
  | check {start : Nat} {barrier : ProcessResponseBarrier} {later : List ProcessResponseBarrier}
      {t : Runner} : s.phase = .waiting start barrier later →
      Checked child s start barrier later t → Moves child s .turn t
  | shutdown {sideError : Option (PlayerSide × String)} {t : Runner} :
      s.phase = .closing sideError → ShutDown child s sideError t → Moves child s .turn t
  | timeout {start : Nat} {barrier : ProcessResponseBarrier}
      {later : List ProcessResponseBarrier} : s.phase = .waiting start barrier later →
      s.written = [] → barrier.isSatisfiedBy (s.messages.drop start) = false →
      (s.messages.drop start).findSome? ProtocolMessage.sideError = none →
      Moves child s .timeout { s with phase := .raised .responseTimeout }

theorem arrive_moves {child : Child} {s t : Runner} {event : Event}
    (h : s.arrive child event = .ok t) : Moves child s event t := by
  cases event with
  | deliver count =>
    simp only [arrive] at h
    split_ifs at h with hif
    cases h
    exact .deliver hif.1 hif.2
  | endStdout =>
    simp only [arrive] at h
    split_ifs at h with hif
    cases h
    exact .endStdout hif.1 hif.2.1 hif.2.2.1 hif.2.2.2
  | failStdout failureClass =>
    simp only [arrive] at h
    split_ifs at h with hif
    cases h
    exact .failStdout hif.1 hif.2
  | exit =>
    simp only [arrive] at h
    split_ifs at h with hif
    cases h
    exact .exit hif.1 hif.2.1 hif.2.2
  | terminate => cases h
  | turn => cases h
  | timeout => cases h

theorem step_moves {child : Child} {s t : Runner} {event : Event}
    (h : step child s event = .ok t) : s.outcome = none ∧ Moves child s event t := by
  cases hphase : s.phase with
  | returned result => simp [step, hphase] at h
  | raised failureClass => simp [step, hphase] at h
  | waiting start barrier later =>
    refine ⟨by simp [outcome, hphase], ?_⟩
    simp only [step, hphase] at h
    split at h
    · cases h
      exact .check hphase (checkBarrier_checked child s start barrier later)
    · split_ifs at h with hif
      cases h
      exact .timeout hphase hif.1 hif.2.1 hif.2.2
    · exact arrive_moves h
  | closing sideError =>
    refine ⟨by simp [outcome, hphase], ?_⟩
    simp only [step, hphase] at h
    split at h
    · cases h
      exact .shutdown hphase (checkShutdown_shutDown child s sideError)
    · split_ifs at h with hif
      cases h
      simpa only [hphase] using Moves.terminate hphase hif.1 hif.2
    · exact arrive_moves h

/-! ## §2 What the runner accounts for -/

/-- The messages of all answers together, delivered or not, and what the flags tell. -/
structure Counts (child : Child) (s : Runner) : Prop where
  all : s.messages ++ (s.written ++ s.responses.flatten) = child.responses.flatten
  finished : s.stdout = .finished →
    s.written = [] ∧ s.responses = [] ∧ child.drainFailure = none
  failed : ∀ failureClass, s.stdout = .failed failureClass → child.drainFailure = some failureClass
  exited : s.exited = true → s.responses = []
  forced : s.forcedShutdown = true → child.returncode = none
  natural : s.exited = true → s.forcedShutdown = false → child.returncode.isSome = true

/-- The invariant of a run: the counts, with what they are in each phase. -/
structure Accounts (child : Child) (s : Runner) : Prop extends Counts child s where
  closing : ∀ sideError, s.phase = .closing sideError → s.responses = []
  window : ∀ start barrier later, s.phase = .waiting start barrier later →
    start ≤ s.messages.length

theorem headD_append_flatten {α : Type} (lists : List (List α)) :
    lists.headD [] ++ lists.tail.flatten = lists.flatten := by
  cases lists <;> rfl

theorem Counts.raised {child : Child} {s : Runner} (h : Counts child s)
    (failureClass : OracleFailureClass) :
    Accounts child { s with phase := .raised failureClass } :=
  { h with
    closing := nofun
    window := nofun }

theorem Counts.beginStep {child : Child} {s : Runner} (h : Counts child s)
    (barriers : List ProcessResponseBarrier) : Accounts child (s.beginStep barriers) := by
  cases barriers with
  | nil =>
    exact
      { h with
        all := by simpa [Runner.beginStep] using h.all
        finished := fun hfinished => by
          obtain ⟨hwritten, hresponses, hdrain⟩ := h.finished hfinished
          simp [Runner.beginStep, hwritten, hresponses, hdrain]
        exited := fun _ => rfl
        closing := fun _ _ => rfl
        window := nofun }
  | cons barrier later =>
    rw [Runner.beginStep]
    split_ifs with hexited
    · exact h.raised _
    · exact
        { h with
          all := by
            rw [← h.all, List.append_assoc s.written, headD_append_flatten]
          finished := fun hfinished => by
            obtain ⟨hwritten, hresponses, hdrain⟩ := h.finished hfinished
            simp [hwritten, hresponses, hdrain]
          exited := fun hexited' => absurd hexited' hexited
          closing := nofun
          window := fun start barrier' later' hphase => by
            obtain ⟨rfl, -, -⟩ := Phase.waiting.inj hphase
            exact le_rfl }

/-- The step lemma. -/
theorem Accounts.step {child : Child} {s t : Runner} {event : Event} (h : Accounts child s)
    (hmoves : Moves child s event t) : Accounts child t := by
  cases hmoves with
  | deliver hrunning hcount =>
    rename_i count
    exact
      { h with
        all := by
          rw [← h.all, List.append_assoc, ← List.append_assoc (s.written.take count),
            List.take_append_drop]
        finished := fun hfinished => absurd (hrunning.symm.trans hfinished) nofun
        window := fun start barrier later hphase => by
          rw [List.length_append]
          exact (h.window start barrier later hphase).trans (Nat.le_add_right _ _) }
  | endStdout hrunning hwritten hresponses hdrain =>
    exact
      { h with
        finished := fun _ => ⟨hwritten, hresponses, hdrain⟩
        failed := nofun }
  | failStdout hrunning hfailure =>
    exact
      { h with
        finished := nofun
        failed := fun failureClass hfailed => by
          obtain rfl := Drain.failed.inj hfailed
          exact hfailure }
  | exit hexited hresponses hsome =>
    exact
      { h with
        exited := fun _ => hresponses
        natural := fun _ _ => hsome }
  | terminate hphase hexited hnone =>
    exact
      { h with
        exited := fun _ => h.closing _ hphase
        forced := fun _ => hnone
        natural := nofun }
  | check hphase hchecked =>
    cases hchecked with
    | drain hfailed => exact h.toCounts.raised _
    | satisfied hsatisfied => exact h.toCounts.beginStep _
    | sideError hnot herror =>
      exact
        { h with
          all := by simpa using h.all
          finished := fun hfinished => by
            obtain ⟨hwritten, hresponses, hdrain⟩ := h.finished hfinished
            simp [hwritten, hresponses, hdrain]
          exited := fun _ => rfl
          closing := fun _ _ => rfl
          window := nofun }
    | exited hexited hfailure => exact h.toCounts.raised _
    | ended hnot hfinished => exact h.toCounts.raised _
    | again => exact h
  | shutdown hphase hshut =>
    cases hshut with
    | again => exact h
    | drain hfailed => exact h.toCounts.raised _
    | failed hexited hforced hfailure => exact h.toCounts.raised _
    | returned hexited hstdout hcode hmessages hcompleted hterminal =>
      exact
        { h with
          closing := nofun
          window := nofun }
  | timeout hphase hwritten hnot hnone => exact h.toCounts.raised _

theorem accounts_launch (child : Child) (barriers : List ProcessResponseBarrier) :
    Accounts child (launch child barriers) := by
  apply Counts.beginStep
  exact
    { all := rfl
      finished := nofun
      failed := nofun
      exited := nofun
      forced := nofun
      natural := nofun }

theorem accounts_of_runs {child : Child} {barriers : List ProcessResponseBarrier} {s : Runner}
    {events : List Event} (hrun : RunsTo (step child) (launch child barriers) events s) :
    Accounts child s :=
  Runs.invariant (fun _ _ _ hs hstep => hs.step (step_moves hstep).2)
    (accounts_launch child barriers) hrun

/-- A result without choice error that ended the steps is one of all the child's output. -/
structure Reported (child : Child) (result : OracleProcessResult) : Prop where
  completed : result.completedBarriers = result.terminalSideError.isNone
  part : ∃ rest, result.messages ++ rest = child.responses.flatten
  complete : result.terminalSideError = none → result.messages = child.responses.flatten ∧
    child.drainFailure = none ∧ ∀ code, child.returncode = some code → exitFailure code = none

theorem reported_of_shutDown {child : Child} {s t : Runner} (h : Accounts child s)
    {sideError : Option (PlayerSide × String)} (hphase : s.phase = .closing sideError)
    (hshut : ShutDown child s sideError t) {result : OracleProcessResult}
    (hresult : t.phase = .returned result) : Reported child result := by
  cases hshut with
  | again => exact absurd (hphase.symm.trans hresult) nofun
  | drain hfailed => cases hresult
  | failed hexited hforced hfailure => cases hresult
  | returned hexited hstdout hcode hmessages hcompleted hterminal =>
    obtain rfl := Phase.returned.inj hresult
    refine ⟨by rw [hcompleted, hterminal], ⟨_, hmessages ▸ h.all⟩, fun hnone => ?_⟩
    obtain ⟨hwritten, hresponses, hdrain⟩ := h.finished (hstdout (hterminal.symm.trans hnone))
    refine ⟨?_, hdrain, fun code hreturncode => ?_⟩
    · rw [hmessages, ← h.all, hwritten, hresponses]
      simp
    · have hforced : s.forcedShutdown = false := by
        rw [Bool.eq_false_iff]
        intro hforced
        rw [h.forced hforced] at hreturncode
        cases hreturncode
      have hfailure := hcode hforced
      rwa [hreturncode] at hfailure

/-! ## §3 Successful runs -/

/-- The messages can be cut where the deliveries may stop, so that every barrier finds what it asks
for in its own part. `left` is what earlier barriers did not need. -/
def Serves : List ProtocolMessage → List ProcessResponseBarrier → List (List ProtocolMessage) →
    Prop
  | _, [], _ => True
  | left, barrier :: later, responses =>
      ∃ used rest, left ++ responses.headD [] = used ++ rest ∧
        barrier.isSatisfiedBy used = true ∧ Serves rest later responses.tail

/-- What is still to be served where a run ends without failure. -/
def Remaining (s : Runner) : Prop :=
  match s.phase with
  | .waiting start barrier later =>
      ∃ more rest, s.written = more ++ rest ∧
        barrier.isSatisfiedBy (s.messages.drop start ++ more) = true ∧
        Serves rest later s.responses
  | .closing sideError => sideError = none
  | .returned result => result.terminalSideError = none
  | .raised _ => False

/-- The batch of the next step serves its barrier if what remains then is served. -/
theorem serves_of_remaining {s : Runner} {barriers : List ProcessResponseBarrier}
    (h : Remaining (s.beginStep barriers)) : Serves s.written barriers s.responses := by
  cases barriers with
  | nil => trivial
  | cons barrier later =>
    rw [beginStep] at h
    split_ifs at h with hexited
    · cases h
    · obtain ⟨more, rest, hwritten, hsatisfied, hserves⟩ := h
      refine ⟨more, rest, hwritten, ?_, hserves⟩
      rwa [List.drop_length, List.nil_append] at hsatisfied

/-- Backwards over a step: what remains to be served afterwards remained before. -/
theorem Remaining.back {child : Child} {s t : Runner} {event : Event} (h : Remaining t)
    (haccounts : Accounts child s) (hmoves : Moves child s event t) : Remaining s := by
  cases hmoves with
  | deliver hrunning hcount =>
    rename_i count
    cases hphase : s.phase with
    | waiting start barrier later =>
      simp only [Remaining, hphase] at h ⊢
      obtain ⟨more, rest, hwritten, hsatisfied, hserves⟩ := h
      refine ⟨s.written.take count ++ more, rest, ?_, ?_, hserves⟩
      · rw [List.append_assoc, ← hwritten, List.take_append_drop]
      · rwa [List.drop_append_of_le_length (haccounts.window _ _ _ hphase), List.append_assoc]
          at hsatisfied
    | closing sideError => simpa only [Remaining, hphase] using h
    | returned result => simpa only [Remaining, hphase] using h
    | raised failureClass => simp only [Remaining, hphase] at h
  | endStdout hrunning hwritten hresponses hdrain => exact h
  | failStdout hrunning hfailure => exact h
  | exit hexited hresponses hsome => exact h
  | terminate hphase hexited hnone => exact h
  | check hphase hchecked =>
    cases hchecked with
    | drain hfailed => cases h
    | satisfied hsatisfied =>
      have hserves := serves_of_remaining h
      simp only [Remaining, hphase]
      exact ⟨[], s.written, rfl, by rwa [List.append_nil], hserves⟩
    | sideError hnot herror => cases h
    | exited hexited hfailure => cases h
    | ended hnot hfinished => cases h
    | again => exact h
  | shutdown hphase hshut =>
    cases hshut with
    | again => exact h
    | drain hfailed => cases h
    | failed hexited hforced hfailure => cases h
    | returned hexited hstdout hcode hmessages hcompleted hterminal =>
      have hnone : _ = none := h
      simp only [Remaining, hphase]
      exact hterminal.symm.trans hnone
  | timeout hphase hwritten hnot hnone => cases h

/-- The run lemma: where a run ends without failure, the child served all barriers. -/
theorem serves_of_runs {child : Child} {barriers : List ProcessResponseBarrier} {s : Runner}
    {events : List Event} (hrun : RunsTo (step child) (launch child barriers) events s)
    (hremaining : Remaining s) : Serves [] barriers child.responses := by
  by_contra hnot
  have hstart : Accounts child (launch child barriers) ∧ ¬Remaining (launch child barriers) :=
    ⟨accounts_launch child barriers, fun h => hnot (serves_of_remaining h)⟩
  have hkeep : ∀ s event t, Accounts child s ∧ ¬Remaining s → step child s event = .ok t →
      Accounts child t ∧ ¬Remaining t := by
    rintro s event t ⟨haccounts, hnone⟩ hstep
    have hmoves := (step_moves hstep).2
    exact ⟨haccounts.step hmoves, fun h => hnone (h.back haccounts hmoves)⟩
  exact (Runs.invariant hkeep hstart hrun).2 hremaining

/-- What a barrier asks for is among the messages altogether. -/
theorem satisfied_of_serves {left : List ProtocolMessage} {barriers : List ProcessResponseBarrier}
    {responses : List (List ProtocolMessage)} (h : Serves left barriers responses) :
    ∀ barrier ∈ barriers, barrier.isSatisfiedBy (left ++ responses.flatten) = true := by
  induction barriers generalizing left responses with
  | nil => exact nofun
  | cons first later ih =>
    obtain ⟨used, rest, hwritten, hsatisfied, hrest⟩ := h
    have hall : left ++ responses.flatten = used ++ (rest ++ responses.tail.flatten) := by
      rw [← headD_append_flatten, ← List.append_assoc, hwritten, List.append_assoc]
    rw [hall, List.forall_mem_cons]
    constructor
    · exact ProcessResponseBarrier.isSatisfiedBy_mono (fun _ => List.mem_append_left _) hsatisfied
    · intro barrier hbarrier
      exact ProcessResponseBarrier.isSatisfiedBy_mono (fun _ => List.mem_append_right _)
        (ih hrest barrier hbarrier)

/-! ## §4 Runs that exist -/

/-- The readers and the exit of the child stand in no way of a result. -/
structure Quiet (child : Child) : Prop where
  drain : child.drainFailure = none
  exit : ∀ code, child.returncode = some code → exitFailure code = none

/-- Nothing has ended yet. -/
structure Fresh (s : Runner) : Prop where
  running : s.stdout = .running
  alive : s.exited = false

/-- How the child comes to its end. -/
def leave (child : Child) : Event := if child.returncode.isSome = true then .exit else .terminate

/-- The last turn of a runner with nothing to complain about. -/
theorem exists_checkShutdown (child : Child) (s : Runner)
    {sideError : Option (PlayerSide × String)} (hexited : s.exited = true)
    (hstdout : sideError = none → s.stdout = .finished)
    (hcode : s.forcedShutdown = false → exitFailure (child.returncode.getD terminated) = none) :
    ∃ result, s.checkShutdown child sideError = { s with phase := .returned result } ∧
      result.terminalSideError = sideError := by
  have hconclude : ∃ result, s.conclude child sideError = .returned result ∧
      result.terminalSideError = sideError := by
    unfold conclude
    cases hforced : s.forcedShutdown with
    | true => exact ⟨_, rfl, rfl⟩
    | false =>
      simp only [hcode hforced, Bool.false_eq_true, if_false]
      exact ⟨_, rfl, rfl⟩
  obtain ⟨result, hresult, hterminal⟩ := hconclude
  refine ⟨result, ?_, hterminal⟩
  cases sideError with
  | none => simp [checkShutdown, hexited, hstdout rfl, hresult]
  | some sideError => simp [checkShutdown, hexited, hresult]

/-- After its input is closed, the child exits and the runner returns. -/
theorem exists_result {child : Child} (hexit : ∀ code, child.returncode = some code →
    exitFailure code = none) {s : Runner} {sideError : Option (PlayerSide × String)}
    (hphase : s.phase = .closing sideError) (hresponses : s.responses = [])
    (halive : s.exited = false) (hstdout : sideError = none → s.stdout = .finished) :
    ∃ t result, RunsTo (step child) s [leave child, .turn] t ∧ t.phase = .returned result ∧
      result.terminalSideError = sideError := by
  have hgone : ∃ gone : Runner, step child s (leave child) = .ok gone ∧
      gone.phase = .closing sideError ∧ gone.exited = true ∧ gone.stdout = s.stdout ∧
      (gone.forcedShutdown = false → exitFailure (child.returncode.getD terminated) = none) := by
    cases hcode : child.returncode with
    | some code =>
      refine ⟨{ s with exited := true }, ?_, hphase, rfl, rfl, fun _ => hexit code hcode⟩
      simp [leave, step, arrive, hphase, hcode, halive, hresponses]
    | none =>
      refine ⟨{ s with exited := true, forcedShutdown := true }, ?_, hphase, rfl, rfl, nofun⟩
      simp [leave, step, hphase, hcode, halive]
  obtain ⟨gone, hleave, hgonePhase, hexited, hsame, hcode⟩ := hgone
  obtain ⟨result, hturn, hterminal⟩ :=
    exists_checkShutdown child gone hexited (fun hnone => hsame.trans (hstdout hnone)) hcode
  have hlast : step child gone .turn = .ok { gone with phase := .returned result } := by
    simp only [step, hgonePhase, hturn]
  exact ⟨_, result, runs_cons.mpr ⟨gone, hleave, runs_cons.mpr ⟨_, hlast, runs_nil.mpr rfl⟩⟩, rfl,
    hterminal⟩

/-- The reader delivers so many messages. -/
theorem step_deliver (child : Child) {s : Runner} (hlive : s.outcome = none)
    (hrunning : s.stdout = .running) {delivered rest : List ProtocolMessage}
    (hwritten : s.written = delivered ++ rest) :
    step child s (.deliver delivered.length) = .ok
      { s with
        messages := s.messages ++ delivered
        written := rest } := by
  cases hphase : s.phase with
  | waiting start barrier later => simp [step, arrive, hphase, hrunning, hwritten]
  | closing sideError => simp [step, arrive, hphase, hrunning, hwritten]
  | returned result => simp [outcome, hphase] at hlive
  | raised failureClass => simp [outcome, hphase] at hlive

/-- The runner in the wait for the first of the barriers, once some of the answer has arrived. -/
theorem exists_window (child : Child) {s : Runner} (hfresh : Fresh s)
    (barrier : ProcessResponseBarrier) (later : List ProcessResponseBarrier)
    {delivered rest : List ProtocolMessage}
    (hwritten : s.written ++ s.responses.headD [] = delivered ++ rest) :
    ∃ t, step child (s.beginStep (barrier :: later)) (.deliver delivered.length) = .ok t ∧
      Fresh t ∧ t.phase = .waiting s.messages.length barrier later ∧
      t.messages.drop s.messages.length = delivered ∧ t.written = rest ∧
      t.responses = s.responses.tail := by
  have hbegun : s.beginStep (barrier :: later) =
      { s with
        written := delivered ++ rest
        responses := s.responses.tail
        phase := .waiting s.messages.length barrier later } := by
    simp only [beginStep, hfresh.alive, Bool.false_eq_true, if_false, hwritten]
  rw [hbegun]
  refine ⟨_, step_deliver child
    (s := { s with
      written := delivered ++ rest
      responses := s.responses.tail
      phase := .waiting s.messages.length barrier later }) rfl hfresh.running rfl, ?_⟩
  exact ⟨⟨hfresh.running, hfresh.alive⟩, rfl, List.drop_left, rfl, rfl⟩

/-- The turn that finds its barrier satisfied. -/
theorem step_satisfied (child : Child) {s : Runner} {start : Nat}
    {barrier : ProcessResponseBarrier} {later : List ProcessResponseBarrier}
    (hphase : s.phase = .waiting start barrier later) (hrunning : s.stdout = .running)
    (hsatisfied : barrier.isSatisfiedBy (s.messages.drop start) = true) :
    step child s .turn = .ok (s.beginStep later) := by
  simp [step, hphase, checkBarrier, hrunning, hsatisfied]

/-- If the child serves the barriers, some deliveries end in a result without choice error. -/
theorem exists_served_run {child : Child} (hquiet : Quiet child)
    {barriers : List ProcessResponseBarrier} {s : Runner} (hfresh : Fresh s)
    (hserves : Serves s.written barriers s.responses) :
    ∃ events t result, RunsTo (step child) (s.beginStep barriers) events t ∧
      t.phase = .returned result ∧ result.terminalSideError = none := by
  induction barriers generalizing s with
  | nil =>
    -- the input is closed: everything is delivered, and the stream and the child end
    let written := s.written ++ s.responses.flatten
    have hdeliver := step_deliver child (s := s.beginStep []) rfl hfresh.running
      (List.append_nil written).symm
    have hend : step child { s.beginStep [] with messages := s.messages ++ written, written := [] }
        .endStdout = .ok
          { s.beginStep [] with
            messages := s.messages ++ written
            written := []
            stdout := .finished } := by
      simp [step, arrive, beginStep, hfresh.running, hquiet.drain]
    obtain ⟨t, result, hrun, hphase, hterminal⟩ := exists_result hquiet.exit
      (s := { s.beginStep [] with
        messages := s.messages ++ written
        written := []
        stdout := .finished }) rfl rfl hfresh.alive (fun _ => rfl)
    exact ⟨_, t, result, runs_cons.mpr ⟨_, hdeliver, runs_cons.mpr ⟨_, hend, hrun⟩⟩, hphase,
      hterminal⟩
  | cons barrier later ih =>
    obtain ⟨used, rest, hwritten, hsatisfied, hrest⟩ := hserves
    -- what the barrier needs is delivered, and no more
    obtain ⟨s', hdeliver, hfresh', hphase', hwindow, hleft, hresponses⟩ :=
      exists_window child hfresh barrier later hwritten
    have hturn := step_satisfied child hphase' hfresh'.running (by rwa [hwindow])
    obtain ⟨events, t, result, hrun, hphase, hterminal⟩ :=
      ih hfresh' (by rwa [hleft, hresponses])
    exact ⟨_, t, result, runs_cons.mpr ⟨_, hdeliver, runs_cons.mpr ⟨_, hturn, hrun⟩⟩, hphase,
      hterminal⟩

/-- Every answer passes its own barrier. -/
def Answers : List ProcessResponseBarrier → List (List ProtocolMessage) → Prop
  | [], _ => True
  | barrier :: later, responses =>
      barrier.isSatisfiedBy (responses.headD []) = true ∧ Answers later responses.tail

/-- Answers that pass their own barriers serve them, with nothing left over. -/
theorem serves_of_answers {barriers : List ProcessResponseBarrier}
    {responses : List (List ProtocolMessage)} (h : Answers barriers responses) :
    Serves [] barriers responses := by
  induction barriers generalizing responses with
  | nil => trivial
  | cons barrier later ih =>
    obtain ⟨hsatisfied, hlater⟩ := h
    exact ⟨responses.headD [], [], by simp, hsatisfied, ih hlater⟩

/-- If an answer does not pass its own barrier, deliveries that leave nothing behind end in a
choice error or in a timeout. -/
theorem exists_failed_run {child : Child} (hquiet : Quiet child)
    {barriers : List ProcessResponseBarrier} {s : Runner} (hfresh : Fresh s)
    (hwritten : s.written = []) (hanswers : ¬Answers barriers s.responses) :
    ∃ events t, RunsTo (step child) (s.beginStep barriers) events t ∧
      (t.phase = .raised .responseTimeout ∨
        ∃ result, t.phase = .returned result ∧ result.terminalSideError.isSome = true) := by
  induction barriers generalizing s with
  | nil => exact absurd trivial hanswers
  | cons barrier later ih =>
    have hall : s.written ++ s.responses.headD [] = s.responses.headD [] ++ [] := by
      rw [hwritten, List.nil_append, List.append_nil]
    obtain ⟨s', hdeliver, hfresh', hphase', hwindow, hleft, hresponses⟩ :=
      exists_window child hfresh barrier later hall
    by_cases hsatisfied : barrier.isSatisfiedBy (s.responses.headD []) = true
    · have hturn := step_satisfied child hphase' hfresh'.running (by rwa [hwindow])
      obtain ⟨events, t, hrun, hend⟩ := ih hfresh' hleft
        (by rw [hresponses]; exact fun h => hanswers ⟨hsatisfied, h⟩)
      exact ⟨_, t, runs_cons.mpr ⟨_, hdeliver, runs_cons.mpr ⟨_, hturn, hrun⟩⟩, hend⟩
    · have hnot : barrier.isSatisfiedBy (s'.messages.drop s.messages.length) = false := by
        rw [hwindow]
        exact Bool.eq_false_iff.mpr hsatisfied
      cases herror : (s'.messages.drop s.messages.length).findSome? ProtocolMessage.sideError with
      | none =>
        have htimeout : step child s' .timeout =
            .ok { s' with phase := .raised .responseTimeout } := by
          simp only [step, hphase']
          rw [if_pos ⟨hleft, hnot, herror⟩]
        exact ⟨_, _, runs_cons.mpr ⟨_, hdeliver, runs_cons.mpr ⟨_, htimeout, runs_nil.mpr rfl⟩⟩,
          .inl rfl⟩
      | some sideError =>
        have hturn : step child s' .turn = .ok
            { s' with
              written := s'.written ++ s'.responses.flatten
              responses := []
              phase := .closing (some sideError) } := by
          simp [step, hphase', checkBarrier, hfresh'.running, hnot, herror]
        obtain ⟨t, result, hrun, hphase, hterminal⟩ := exists_result hquiet.exit
          (s := { s' with
            written := s'.written ++ s'.responses.flatten
            responses := []
            phase := .closing (some sideError) }) rfl rfl hfresh'.alive nofun
        exact ⟨_, t, runs_cons.mpr ⟨_, hdeliver, runs_cons.mpr ⟨_, hturn, hrun⟩⟩,
          .inr ⟨result, hphase, by rw [hterminal]; rfl⟩⟩

end BattleBelief.Oracle
