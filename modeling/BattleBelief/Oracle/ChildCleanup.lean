import BattleBelief.Oracle.FixtureSession

/-!
# Cleaning up a Child Process

The two runners that launch a child, `ShowdownProcessRunner.run` and `LoopbackServerSmoke.run`, with
what they do to be rid of it: each has its own ladder of a graceful exit, a graceful and a forced
termination and the check for orphans. The environment answers every call that leaves the runner;
where one is made several times, the answer may depend on all that happened before.
-/

namespace BattleBelief.Oracle.ChildCleanup

/-! ## §1 The Environment -/

/-- `OracleProcessError`. -/
structure OracleProcessError where
  failureClass : OracleFailureClass
  detail : String
  deriving DecidableEq, Repr

/-- What a run raises. -/
inductive Raised where
  | oracleProcessError (error : OracleProcessError)
  /-- any other exception -/
  | unexpected
  deriving DecidableEq, Repr

/-- What a terminator comes to. -/
inductive Reply where
  | done
  | raised
  | timedOut
  deriving DecidableEq, Repr

/-- What closing the child's input comes to. -/
inductive Closing where
  | done
  /-- `wait_closed` times out or raises a `BrokenPipeError`, a `ConnectionError` or an `OSError` -/
  | suppressed
  /-- `close` raises, or `wait_closed` raises anything else -/
  | raised
  deriving DecidableEq, Repr

/-- What the orphan verifier answers. A verifier that takes too long raises. -/
inductive Verdict where
  | noneLeft
  | childLeft
  | raised
  deriving DecidableEq, Repr

/-- The streams that a child exposes. -/
structure Streams where
  stdin : Bool
  stdout : Bool
  stderr : Bool
  deriving DecidableEq, Repr

/-- What the launcher comes to. -/
inductive Launch where
  | jobFailed (cleanupFailed : Bool)
  | notFound
  | timedOut
  | raised
  | launched (streams : Streams)
  deriving DecidableEq, Repr

/-- What a run does with its child, as far as the cleanup is concerned. -/
inductive Event where
  | launched
  /-- The exchange with the child is over; `exitSeen` if it found the exit watcher done. -/
  | served (exitSeen : Bool)
  /-- The exit watcher has been awaited. -/
  | waited (exitSeen : Bool)
  | terminated (force : Bool) (reply : Reply)
  | orphanCheck (verdict : Verdict)
  deriving DecidableEq, Repr

/-- Everything that the two cleanups depend on. -/
structure Environment where
  launch : Launch
  /-- whether the exchange finds the exit watcher done -/
  exitSeen : Bool
  closeInput : Closing
  /-- whether the child exits before the deadline of a wait, after these events -/
  exits : List Event → Bool
  terminate : List Event → Bool → Reply
  orphans : List Event → Verdict
  /-- whether the child's job object can be closed, if it has one -/
  closeJob : Option Bool

/-- The child's exit has been observed. -/
def observed (log : List Event) : Bool :=
  log.any fun event => event = .served true ∨ event = .waited true

/-- A forced termination has been attempted. -/
def forced (log : List Event) : Bool :=
  log.any fun event =>
    match event with
    | .terminated force _ => force
    | _ => false

/-- The last answer of the orphan verifier. -/
def lastOrphanCheck (log : List Event) : Option Verdict :=
  (log.filterMap fun event =>
    match event with
    | .orphanCheck verdict => some verdict
    | _ => none).getLast?

variable (env : Environment)

/-- `_wait_for_exit_with_deadline` and `_wait_for_exit`. A watcher that is done stays done. -/
def waitForExit (log : List Event) : Bool × List Event :=
  let exited := observed log || env.exits log
  (exited, log ++ [.waited exited])

/-- `_terminate_with_deadline` and `_terminate`. -/
def terminate (force : Bool) (log : List Event) : Bool × List Event :=
  let reply := env.terminate log force
  (decide (reply = .done), log ++ [.terminated force reply])

/-- The orphan verifier, with its deadline. -/
def verifyOrphans (log : List Event) : Verdict × List Event :=
  (env.orphans log, log ++ [.orphanCheck (env.orphans log)])

def shutdownFailed (detail : String) : OracleProcessError :=
  { failureClass := .shutdownFailed, detail }

/-! ## §2 `ShowdownProcessRunner` -/

namespace ShowdownProcessRunner

/-- `_finish_orphan_check` from the closing of the job on. -/
def settle (cleanupFailed orphaned forced : Bool) : Except Raised Bool :=
  let cleanupFailed := cleanupFailed || env.closeJob = some false
  if cleanupFailed then
    .error (.oracleProcessError (shutdownFailed "process cleanup did not complete reliably"))
  else if orphaned then
    .error (.oracleProcessError
      { failureClass := .orphanedChildProcess, detail := "process left a child process behind" })
  else .ok forced

/-- `_finish_orphan_check`. A verifier that raises stands for a cleanup that failed. -/
def finishOrphanCheck (cleanupFailed forced : Bool) (log : List Event) :
    Except Raised Bool × List Event :=
  let (verdict, log) := verifyOrphans env log
  let cleanupFailed := cleanupFailed || verdict = .raised
  if verdict = .childLeft ∨ verdict = .raised then
    let (containmentSucceeded, log) := terminate env true log
    let (exited, log) := waitForExit env log
    let (verdict, log) := verifyOrphans env log
    let cleanupFailed := cleanupFailed || !containmentSucceeded || !exited || verdict = .raised
    (settle env cleanupFailed (verdict = .childLeft) true, log)
  else (settle env cleanupFailed false forced, log)

/-- `_shutdown` from the forced termination on. -/
def terminateByForce (cleanupFailed : Bool) (log : List Event) : Except Raised Bool × List Event :=
  let (forceSucceeded, log) := terminate env true log
  let (exited, log) := waitForExit env log
  finishOrphanCheck env (cleanupFailed || !forceSucceeded || !exited) true log

/-- `_shutdown`. The exit watcher is there: `run` creates it right after the launch. -/
def shutdown (stdin : Bool) (log : List Event) : Except Raised Bool × List Event :=
  if stdin = true ∧ env.closeInput = .raised then (.error .unexpected, log)
  else
    let (exited, log) := waitForExit env log
    if exited then finishOrphanCheck env false false log
    else
      let (terminated, log) := terminate env false log
      -- a graceful termination that fails is not waited for
      if !terminated then terminateByForce env true log
      else
        let (exited, log) := waitForExit env log
        if exited then finishOrphanCheck env false true log else terminateByForce env false log

end ShowdownProcessRunner

/-- How the exchange with a simulator ends. -/
inductive Exchange where
  | completed
  | sideError (error : PlayerSide × String)
  | failed (error : OracleProcessError)
  | timedOut
  | raised
  deriving DecidableEq

structure ProcessEnvironment extends Environment where
  inputTooLarge : Bool
  exchange : Exchange
  /-- the messages that the reader has delivered -/
  messages : List ProtocolMessage
  /-- whether the readers are done before the deadline -/
  readersClose : Bool
  /-- what the first reader that failed has raised -/
  readerFailure : Option OracleProcessError
  networkDenied : Bool
  returncode : Int

namespace ShowdownProcessRunner

/-- What the launcher's failures are turned into. -/
def launchFailure : Launch → OracleProcessError
  | .jobFailed cleanupFailed =>
      { failureClass := if cleanupFailed then .shutdownFailed else .processCrash
        detail := "Windows Job process containment failed" }
  | .notFound => { failureClass := .nodeNotFound, detail := "node executable not found" }
  | .timedOut => { failureClass := .startTimeout, detail := "process start timed out" }
  | _ =>
      { failureClass := .processCrash, detail := "process lifecycle raised an unexpected error" }

/-- The error and the choice error that the exchange leaves behind. -/
def exchangeOutcome : Exchange → Option OracleProcessError × Option (PlayerSide × String)
  | .completed => (none, none)
  | .sideError error => (none, some error)
  | .failed error => (some error, none)
  | .timedOut => (some { failureClass := .fixtureTimeout, detail := "fixture timed out" }, none)
  | .raised =>
      (some { failureClass := .processCrash
              detail := "process lifecycle raised an unexpected error" }, none)

/-- From the launch to the end of the exchange. -/
def serve (env : ProcessEnvironment) (streams : Streams) :
    Option OracleProcessError × Option (PlayerSide × String) × List Event :=
  if !streams.stdin || !streams.stdout || !streams.stderr then
    (some
        { failureClass := .protocolDesynchronization
          detail := "child process did not expose all stdio streams" },
      none, [.launched])
  else
    let (error, sideError) := exchangeOutcome env.exchange
    (error, sideError, [.launched, .served env.exitSeen])

/-- The pending error after `_shutdown`. -/
def pendingAfter (pending : Option OracleProcessError) :
    Except Raised Bool → Option OracleProcessError
  | .ok _ => pending
  | .error (.oracleProcessError error) =>
      if pending = none ∨ error.failureClass = .shutdownFailed then some error else pending
  | .error .unexpected => some (shutdownFailed "process shutdown raised an unexpected error")

/-- `_prefer_independent_exit_failure`. -/
def preferIndependentExitFailure (pending : OracleProcessError) (exited forcedShutdown : Bool)
    (returncode : Int) : OracleProcessError :=
  if forcedShutdown || !(pending.failureClass = .malformedOutput ∨
      pending.failureClass = .protocolDesynchronization : Bool) || !exited then pending
  else if returncode < 0 then
    { failureClass := .processCrash
      detail := "process terminated by signal before its required response" }
  else if returncode > 0 then
    { failureClass := .unexpectedExitCode
      detail := "process exited non-zero before its required response" }
  else pending

/-- What is left of `run` once the readers are done. -/
def conclude (env : ProcessEnvironment) (pending : Option OracleProcessError)
    (sideError : Option (PlayerSide × String)) (exited forcedShutdown : Bool) :
    Except OracleProcessError OracleProcessResult :=
  if env.networkDenied then
    .error
      { failureClass := .externalNetworkAttempt
        detail := "Node network guard denied a non-loopback operation" }
  else
    match pending with
    | some error =>
        .error (preferIndependentExitFailure error exited forcedShutdown env.returncode)
    | none =>
        if env.returncode < 0 ∧ forcedShutdown = false then
          .error { failureClass := .processCrash, detail := "process terminated by signal" }
        else if env.returncode > 0 ∧ forcedShutdown = false then
          .error { failureClass := .unexpectedExitCode, detail := "process exited non-zero" }
        else
          .ok
            { messages := env.messages
              returncode := env.returncode
              forcedShutdown
              completedBarriers := sideError.isNone
              terminalSideError := sideError }

/-- `run`, with what it has done. -/
def run (env : ProcessEnvironment) : Except OracleProcessError OracleProcessResult × List Event :=
  if env.inputTooLarge then
    (.error
      { failureClass := .inputTooLarge, detail := "process input exceeds the configured byte limit" },
      [])
  else
    match env.launch with
    | .launched streams =>
        let (pending, sideError, log) := serve env streams
        let (shutdownOutcome, log) := shutdown env.toEnvironment streams.stdin log
        let forcedShutdown := shutdownOutcome.toOption.getD false
        let pending := pendingAfter pending shutdownOutcome
        -- only a run without any error waits for its readers and asks what they have raised
        if pending = none ∧ sideError = none then
          if env.readersClose then
            match env.readerFailure with
            | some error => (.error error, log)
            | none => (conclude env none sideError (observed log) forcedShutdown, log)
          else
            (conclude env
              (some (shutdownFailed "process streams did not close after process shutdown"))
              sideError (observed log) forcedShutdown, log)
        else (conclude env pending sideError (observed log) forcedShutdown, log)
    | failure => (.error (launchFailure failure), [])

end ShowdownProcessRunner

/-! ## §3 `LoopbackServerSmoke` -/

/-- How the wait for the server's readiness ends. -/
inductive Readiness where
  | ready
  | failed (error : OracleProcessError)
  | raised
  deriving DecidableEq, Repr

structure ServerEnvironment extends Environment where
  /-- what keeps the server from being launched, and whether its log index is to be removed then,
  and its configuration -/
  prepare : Option (Raised × Bool × Bool)
  readiness : Readiness
  removeConfig : Option OracleProcessError
  removeLogIndex : Option OracleProcessError
  networkDenied : Bool
  bindAddress : String

/-- `LoopbackServerResult`. -/
structure LoopbackServerResult where
  bindAddress : String
  ready : Bool
  forcedShutdown : Bool
  deriving DecidableEq, Repr

namespace LoopbackServerSmoke

/-- `_finish_orphan_check` from the closing of the job on. -/
def settle (forced : Bool) : Except Raised Bool :=
  if env.closeJob = some false then
    .error (.oracleProcessError (shutdownFailed "server Job Object cleanup failed"))
  else .ok forced

/-- `_finish_orphan_check` from the second orphan check on. -/
def finalOrphanCheck (log : List Event) : Except Raised Bool × List Event :=
  let (verdict, log) := verifyOrphans env log
  match verdict with
  | .raised =>
      (.error (.oracleProcessError (shutdownFailed "server final orphan check failed")), log)
  | .childLeft =>
      (.error (.oracleProcessError
        { failureClass := .orphanedChildProcess
          detail := "server left a child process behind" }), log)
  | .noneLeft => (settle env true, log)

/-- `_finish_orphan_check`. -/
def finishOrphanCheck (forced : Bool) (log : List Event) : Except Raised Bool × List Event :=
  let (verdict, log) := verifyOrphans env log
  match verdict with
  | .raised => (.error (.oracleProcessError (shutdownFailed "server orphan check failed")), log)
  | .noneLeft => (settle env forced, log)
  | .childLeft =>
      let cleanupFailed := .oracleProcessError (shutdownFailed "server orphan cleanup failed")
      let (terminated, log) := terminate env true log
      if !terminated then (.error cleanupFailed, log)
      else
        let (exited, log) := waitForExit env log
        if !exited then (.error cleanupFailed, log) else finalOrphanCheck env log

/-- `_shutdown` from the forced termination on. -/
def terminateByForce (log : List Event) : Except Raised Bool × List Event :=
  let (terminated, log) := terminate env true log
  if !terminated then
    (.error (.oracleProcessError (shutdownFailed "server forced termination failed")), log)
  else
    let (exited, log) := waitForExit env log
    if !exited then
      (.error (.oracleProcessError (shutdownFailed "server could not be reaped")), log)
    else finishOrphanCheck env true log

/-- `_shutdown`. -/
def shutdown (watched stdin : Bool) (log : List Event) : Except Raised Bool × List Event :=
  if !watched then
    (.error (.oracleProcessError (shutdownFailed "server exit watcher was not created")), log)
  else if stdin = true ∧ env.closeInput = .raised then (.error .unexpected, log)
  else
    let (exited, log) := waitForExit env log
    if exited then finishOrphanCheck env false log
    else
      let (terminated, log) := terminate env false log
      if !terminated then
        (.error (.oracleProcessError (shutdownFailed "server graceful termination failed")), log)
      else
        let (exited, log) := waitForExit env log
        if exited then finishOrphanCheck env false log else terminateByForce env log

def unexpectedError : OracleProcessError :=
  { failureClass := .processCrash, detail := "server lifecycle raised an unexpected error" }

/-- The pending error that an exception of the lifecycle stands for. -/
def pendingOf : Raised → OracleProcessError
  | .oracleProcessError error => error
  | .unexpected => unexpectedError

/-- What the launcher's failures are turned into. -/
def launchFailure : Launch → OracleProcessError
  | .notFound => { failureClass := .nodeNotFound, detail := "node executable not found" }
  | .timedOut => { failureClass := .startTimeout, detail := "server process start timed out" }
  | _ => unexpectedError

/-- From the launch to the readiness, with whether the exit watcher has been created. -/
def serve (env : ServerEnvironment) (streams : Streams) :
    Option OracleProcessError × Bool × List Event :=
  if !streams.stdout || !streams.stderr then
    (some
        { failureClass := .protocolDesynchronization
          detail := "server process did not expose stdout and stderr" },
      false, [.launched])
  else
    let error :=
      match env.readiness with
      | .ready => none
      | .failed error => some error
      | .raised => some unexpectedError
    (error, true, [.launched, .served env.exitSeen])

/-- The end of `run`, from the removal of what it has written into the checkout on. -/
def conclude (env : ServerEnvironment) (pending : Option OracleProcessError)
    (logIndex config forcedShutdown : Bool) : Except Raised LoopbackServerResult :=
  let pending := pending <|> (if config then env.removeConfig else none)
  let pending := pending <|> (if logIndex then env.removeLogIndex else none)
  if env.networkDenied then
    .error (.oracleProcessError
      { failureClass := .externalNetworkAttempt
        detail := "Node network guard denied a non-loopback operation" })
  else
    match pending with
    | some error => .error (.oracleProcessError error)
    | none =>
        if env.readiness ≠ .ready then
          .error (.oracleProcessError
            { failureClass := .startTimeout, detail := "server never became ready" })
        else .ok { bindAddress := env.bindAddress, ready := true, forcedShutdown }

/-- `run`, with what it has done. -/
def run (env : ServerEnvironment) : Except Raised LoopbackServerResult × List Event :=
  match env.prepare with
  | some (raised, logIndex, config) =>
      (conclude env (some (pendingOf raised)) logIndex config false, [])
  | none =>
      match env.launch with
      | .launched streams =>
          let (pending, watched, log) := serve env streams
          let (shutdownOutcome, log) := shutdown env.toEnvironment watched streams.stdin log
          match shutdownOutcome with
          | .error .unexpected => (.error .unexpected, log)
          | .error (.oracleProcessError error) =>
              (conclude env (pending <|> some error) true true false, log)
          | .ok forcedShutdown => (conclude env pending true true forcedShutdown, log)
      | failure => (conclude env (some (launchFailure failure)) true true false, [])

end LoopbackServerSmoke

end BattleBelief.Oracle.ChildCleanup
