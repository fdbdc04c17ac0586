import BattleBelief.Oracle.FixtureSession

/-!
# The Process Runner

`ShowdownProcessRunner.run`, as a step function over what can happen in its event loop: the reader
delivers some of the messages that the child has written, a stream ends, the child exits, or the
waiting task takes its turn. A run is any sequence of such events, so that every way in which the
deliveries interleave with the checks of a barrier is a run.

The loop has one thread, and a task that waits is woken after each event. The second look at the
barrier in `_wait_for_barrier` happens in the same turn as the first and sees the same state.
-/

namespace BattleBelief.Oracle

/-! ## §1 Barriers -/

/-- The player whose request a message is. -/
def ProtocolMessage.requestSide : ProtocolMessage → Option PlayerSide
  | .sideUpdateMessage side _ _ => some side
  | _ => none

/-- The line of a choice error, with its player. -/
def ProtocolMessage.sideError : ProtocolMessage → Option (PlayerSide × String)
  | .sideErrorMessage side line => some (side, line)
  | _ => none

namespace ProcessResponseBarrier

variable (barrier : ProcessResponseBarrier)

/-- `is_satisfied_by`. -/
def isSatisfiedBy (messages : List ProtocolMessage) : Bool :=
  let observedSides := (messages.filterMap ProtocolMessage.requestSide).toFinset
  let observedEnd := messages.any ProtocolMessage.isEnd
  decide (barrier.requestSides ⊆ observedSides) && (!barrier.terminal || observedEnd)

variable {barrier}

theorem isSatisfiedBy_iff {messages : List ProtocolMessage} :
    barrier.isSatisfiedBy messages = true ↔
      (∀ side ∈ barrier.requestSides, ∃ message ∈ messages, message.requestSide = some side) ∧
        (barrier.terminal = true → ∃ message ∈ messages, message.isEnd = true) := by
  simp [isSatisfiedBy, Finset.subset_iff, imp_iff_not_or]

/-- More messages do not lock a barrier again. -/
theorem isSatisfiedBy_mono {messages more : List ProtocolMessage}
    (hsub : ∀ message ∈ messages, message ∈ more) (h : barrier.isSatisfiedBy messages = true) :
    barrier.isSatisfiedBy more = true := by
  obtain ⟨hsides, hterminal⟩ := isSatisfiedBy_iff.mp h
  refine isSatisfiedBy_iff.mpr ⟨fun side hside => ?_, fun hend => ?_⟩
  · obtain ⟨message, hmem, hmessage⟩ := hsides side hside
    exact ⟨message, hsub message hmem, hmessage⟩
  · obtain ⟨message, hmem, hmessage⟩ := hterminal hend
    exact ⟨message, hsub message hmem, hmessage⟩

/-- A barrier asks for some message. -/
theorem not_isSatisfiedBy_nil : barrier.isSatisfiedBy [] = false := by
  rw [Bool.eq_false_iff]
  intro h
  obtain ⟨hsides, hterminal⟩ := isSatisfiedBy_iff.mp h
  rcases barrier.required with ⟨side, hside⟩ | hend
  · obtain ⟨message, hmem, -⟩ := hsides side hside
    cases hmem
  · obtain ⟨message, hmem, -⟩ := hterminal hend
    cases hmem

end ProcessResponseBarrier

/-! ## §2 The child and the runner -/

/-- The simulator process. Its output depends on the batches that it is given, and these are fixed. -/
structure Child where
  /-- What it writes in answer to each batch, and behind the last one once its input is closed. -/
  responses : List (List ProtocolMessage)
  /-- The failure of a reader that meets a limit, a frame that the decoder refuses or a stream that
  ends too early. -/
  drainFailure : Option OracleFailureClass
  /-- The exit code; `none` for a child that does not exit before it is terminated. -/
  returncode : Option Int

/-- A task that reads a stream. -/
inductive Drain where
  | running
  | finished
  | failed (failureClass : OracleFailureClass)
  deriving DecidableEq

/-- Where `run` stands. -/
inductive Phase where
  /-- In `_wait_for_barrier`, with the barriers of the steps that are left. -/
  | waiting (messageStartIndex : Nat) (barrier : ProcessResponseBarrier)
      (later : List ProcessResponseBarrier)
  /-- In `_shutdown`, with the input of the child closed. -/
  | closing (terminalSideError : Option (PlayerSide × String))
  | returned (result : OracleProcessResult)
  /-- An `OracleProcessError`. A failure of the shutdown after it may put its own class in place. -/
  | raised (failureClass : OracleFailureClass)

structure Runner where
  /-- `state.messages` -/
  messages : List ProtocolMessage
  /-- what the child has written and the reader has not delivered -/
  written : List ProtocolMessage
  /-- the answers to batches that the child has not been given -/
  responses : List (List ProtocolMessage)
  stdout : Drain
  /-- `return_task.done()` -/
  exited : Bool
  forcedShutdown : Bool
  phase : Phase

namespace Runner

variable (runner : Runner)

/-- Writes the batch of the next step, or closes the input behind the last one. -/
def beginStep : List ProcessResponseBarrier → Runner
  | [] =>
      { runner with
        written := runner.written ++ runner.responses.flatten
        responses := []
        phase := .closing none }
  | barrier :: later =>
      -- the input of a child that has exited is not available any more
      if runner.exited then { runner with phase := .raised .processCrash }
      else
        { runner with
          written := runner.written ++ runner.responses.headD []
          responses := runner.responses.tail
          phase := .waiting runner.messages.length barrier later }

/-- The runner when it has launched the child and written the first batch. -/
def launch (child : Child) (barriers : List ProcessResponseBarrier) : Runner :=
  beginStep
    { messages := []
      written := []
      responses := child.responses
      stdout := .running
      exited := false
      forcedShutdown := false
      phase := .closing none }
    barriers

/-- The failure that `_wait_for_barrier` and `run` see in an exit code. -/
def exitFailure (returncode : Int) : Option OracleFailureClass :=
  if returncode < 0 then some .processCrash
  else if returncode > 0 then some .unexpectedExitCode
  else none

/-- What the child's exit code is when it is terminated. -/
def terminated : Int := -15

/-- A turn of `_wait_for_barrier`. -/
def checkBarrier (child : Child) (messageStartIndex : Nat) (barrier : ProcessResponseBarrier)
    (later : List ProcessResponseBarrier) : Runner :=
  let window := runner.messages.drop messageStartIndex
  match runner.stdout with
  | .failed failureClass => { runner with phase := .raised failureClass }
  | stdout =>
      if barrier.isSatisfiedBy window then runner.beginStep later
      else
        match window.findSome? ProtocolMessage.sideError with
        | some sideError =>
            -- the rest of the output may still arrive, but nothing waits for it
            { runner with
              written := runner.written ++ runner.responses.flatten
              responses := []
              phase := .closing (some sideError) }
        | none =>
            match (if runner.exited then exitFailure (child.returncode.getD terminated) else none) with
            | some failureClass => { runner with phase := .raised failureClass }
            | none =>
                if stdout = .finished then
                  { runner with phase := .raised .protocolDesynchronization }
                else runner

/-- The end of `run`, once the child has exited and the readers are done if they have to be. -/
def conclude (child : Child) (terminalSideError : Option (PlayerSide × String)) : Phase :=
  let returncode := child.returncode.getD terminated
  match (if runner.forcedShutdown then none else exitFailure returncode) with
  | some failureClass => .raised failureClass
  | none =>
      .returned
        { messages := runner.messages
          returncode
          forcedShutdown := runner.forcedShutdown
          completedBarriers := terminalSideError.isNone
          terminalSideError }

/-- A turn of `run` after the steps. A choice error does not wait for the readers. -/
def checkShutdown (child : Child) (terminalSideError : Option (PlayerSide × String)) : Runner :=
  if !runner.exited then runner
  else
    match terminalSideError, runner.stdout with
    | none, .running => runner
    | none, .failed failureClass => { runner with phase := .raised failureClass }
    | _, _ => { runner with phase := runner.conclude child terminalSideError }

inductive Event where
  /-- The reader decodes one chunk, and the chunk holds so many messages. -/
  | deliver (count : Nat)
  /-- The reader reaches the end of the stream. -/
  | endStdout
  /-- The reader refuses what it reads. -/
  | failStdout (failureClass : OracleFailureClass)
  | exit
  /-- `_shutdown` terminates a child that does not exit. -/
  | terminate
  /-- The task of `run` takes its turn. -/
  | turn
  /-- The response timeout, when no more response can come. -/
  | timeout
  deriving DecidableEq

/-- What happens outside the task of `run`, if it can happen. -/
def arrive (child : Child) (runner : Runner) (event : Event) : Except Unit Runner :=
  match event with
  | .deliver count =>
      if runner.stdout = .running ∧ count ≤ runner.written.length then
        .ok
          { runner with
            messages := runner.messages ++ runner.written.take count
            written := runner.written.drop count }
      else .error ()
  | .endStdout =>
      if runner.stdout = .running ∧ runner.written = [] ∧ runner.responses = [] ∧
          child.drainFailure = none then
        .ok { runner with stdout := .finished }
      else .error ()
  | .failStdout failureClass =>
      if runner.stdout = .running ∧ child.drainFailure = some failureClass then
        .ok { runner with stdout := .failed failureClass }
      else .error ()
  | .exit =>
      if runner.exited = false ∧ runner.responses = [] ∧ child.returncode.isSome = true then
        .ok { runner with exited := true }
      else .error ()
  | _ => .error ()

/-- The event, if it can happen. -/
def step (child : Child) (runner : Runner) (event : Event) : Except Unit Runner :=
  match runner.phase with
  | .returned _ => .error ()
  | .raised _ => .error ()
  | .waiting messageStartIndex barrier later =>
      match event with
      | .turn => .ok (runner.checkBarrier child messageStartIndex barrier later)
      | .timeout =>
          let window := runner.messages.drop messageStartIndex
          if runner.written = [] ∧ barrier.isSatisfiedBy window = false ∧
              window.findSome? ProtocolMessage.sideError = none then
            .ok { runner with phase := .raised .responseTimeout }
          else .error ()
      | _ => runner.arrive child event
  | .closing terminalSideError =>
      match event with
      | .turn => .ok (runner.checkShutdown child terminalSideError)
      | .terminate =>
          if runner.exited = false ∧ child.returncode = none then
            .ok { runner with exited := true, forcedShutdown := true }
          else .error ()
      | _ => runner.arrive child event

/-- What `run` returns or raises. -/
def outcome (runner : Runner) : Option (Except OracleFailureClass OracleProcessResult) :=
  match runner.phase with
  | .returned result => some (.ok result)
  | .raised failureClass => some (.error failureClass)
  | _ => none

end Runner

end BattleBelief.Oracle
