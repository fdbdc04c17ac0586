import BattleBelief.Session.BattleSession
import BattleBelief.Setup.AccountState
import BattleBelief.Setup.RoomCandidate

/-!
# The Battle Coordinator

The coordinator challenges one opponent, finds the room of the battle among the lines that the
connection yields, and runs a session in this room.

`discover` reads lines up to the one that makes a room the battle that was asked for. The rooms
that the account has before its challenge are excluded: they are named by the server's snapshots,
or lines come from them. The answer to the `userdetails` query ends this first part; challenge and
team are only sent then. `run` hands the lines of the room to a session, those that discovery has
read and those that follow.

The connection is the list of the lines that it yields. Whether the time for the setup is over is
asked while the coordinator waits for a line, or for a command to be sent.
-/

namespace BattleBelief

open Python (Dict.get? Dict.assign Dict.keys Dict.sameSet)

variable [Python.UnicodeDatabase] [JsonDecoder] [Rfc8785]

/-! ## §1 Data -/

structure SealedTeam where
  digest : String
  memberCount : Nat

structure PackedTeam where
  sealed : SealedTeam
  packed : String

/-- What ends a wait during the setup. -/
inductive Interruption where
  | timeout
  | raised (error : PyException)

/-- A connection, as the coordinator sees it. -/
structure BattleConnection where
  connect : Except PyException Unit
  /-- What `lines` yields -/
  lines : List RoomLine
  /-- The exception that ends the lines, if one does -/
  ending : Option PyException
  /-- `send_global` during the setup, after the commands of earlier calls -/
  sendGlobal : List String → String → Except Interruption Unit
  /-- `send_room`, after the commands of earlier calls -/
  sendRoom : List SendAttempt → String → Except PyException Unit
  close : Except PyException Unit
  /-- Whether the setup times out while the coordinator waits for the line after this many -/
  expires : Nat → Bool

structure BattleCoordinator where
  ourUserId : String
  opponentDisplay : String
  opponentUserId : String
  team : PackedTeam
  policy : Option (DecisionRequest → Except PyException BattleSubmission)

/-- `BattleCoordinator.__init__`, for a timeout that is a positive number of seconds. -/
def BattleCoordinator.create (ourUserId opponentDisplay : String) (team : PackedTeam)
    (policy : Option (DecisionRequest → Except PyException BattleSubmission)) :
    Except SetupException BattleCoordinator :=
  if toId ourUserId = "" || toId opponentDisplay = "" then
    .error (.raised (.valueError "user IDs must normalize to non-empty ASCII identifiers"))
  else if opponentDisplay.toList.any (fun c => c ∈ [',', '|', '\r', '\n'])
      || !Python.isPrintable opponentDisplay then
    .error (.raised (.valueError "opponent display contains unsafe command characters"))
  else if team.packed = "" || Python.contains team.packed "\r"
      || Python.contains team.packed "\n" then
    .error (.teamValidationError "packed team must be one nonempty physical line")
  else if String.ofList (Sha256.hexdigest (Python.encodeUtf8 team.packed.toList))
      ≠ team.sealed.digest then
    .error (.teamValidationError "packed team digest does not match its sealed team")
  else if (Python.split team.packed "]").length ≠ team.sealed.memberCount then
    .error (.teamValidationError "packed team member count does not match its sealed team")
  else .ok ⟨toId ourUserId, opponentDisplay, toId opponentDisplay, team, policy⟩

/-- The variables of `_discover`. `received` counts the lines read, and `sent` has the commands
handed to the connection, newest first. -/
structure DiscoveryState where
  candidates : List (String × RoomCandidate)
  everPending : Bool
  latestStatus : Option OutgoingChallengeStatus
  bootstrapComplete : Bool
  latestSearchSnapshot : Option SearchSnapshot
  excludedRoomIds : List String
  received : Nat
  sent : List String

def DiscoveryState.initial : DiscoveryState where
  candidates := []
  everPending := false
  latestStatus := none
  bootstrapComplete := false
  latestSearchSnapshot := none
  excludedRoomIds := []
  received := 0
  sent := []

/-- How `_discover` ends. -/
inductive Outcome where
  | returned (candidate : RoomCandidate)
  | raised (error : SetupException)
  deriving DecidableEq

/-- The end of `_discover`, and its variables there. -/
structure Halted where
  outcome : Outcome
  state : DiscoveryState

namespace DiscoveryState

variable (state : DiscoveryState)

def fail {α : Type} (error : PyException) : Except Halted α :=
  .error ⟨.raised (.raised error), state⟩

/-- The result of a call that may raise. -/
def attempt {α : Type} (result : Except PyException α) : Except Halted α :=
  result.mapError fun error => ⟨.raised (.raised error), state⟩

/-- The end of the setup when its time is over. -/
def timedOut : Halted where
  outcome := .raised (.challengeSetupError
    (if state.everPending && state.latestStatus = some .notPending then "challenge_not_pending"
      else "challenge_setup_timeout")
    "direct challenge setup did not produce a matching battle room")
  state := state

/-- Hands a command to the connection. -/
def sendGlobal (connection : BattleConnection) (command : String) :
    Except Halted DiscoveryState :=
  let after := { state with sent := command :: state.sent }
  match connection.sendGlobal state.sent command with
  | .ok () => .ok after
  | .error .timeout => .error after.timedOut
  | .error (.raised error) => after.fail error

/-- Excludes rooms. -/
def exclude (roomIds : List String) : DiscoveryState :=
  { state with excludedRoomIds := roomIds ++ state.excludedRoomIds }

/-- Takes down what is said about our challenge. -/
def note (observation : OutgoingChallengeObservation) : DiscoveryState :=
  { state with
    latestStatus := some observation.status
    everPending := state.everPending || observation.status = .pending }

/-- An `updatesearch` line. -/
def readUpdateSearch (payload : String) : Except Halted DiscoveryState := do
  let snapshot ← state.attempt (readSearchSnapshot payload)
  if !state.bootstrapComplete then
    pure { state.exclude snapshot.roomIds with latestSearchSnapshot := some snapshot }
  else if snapshot.searching ≠ [] then
    state.fail (.unknownProtocolEvent "named account started a search during challenge setup")
  else pure state

end DiscoveryState

namespace BattleCoordinator

variable (coordinator : BattleCoordinator) (connection : BattleConnection)

/-! ## §2 Global lines -/

/-- `_is_explicit_challenge_rejection`. -/
def isExplicitChallengeRejection (message : String) : Bool :=
  if message ∈ explicitRejectionMessages then true
  else
    match quotedUser message "' was not found." with
    | some user => user = coordinator.opponentDisplay
    | none =>
        match quotedUser message "' is not accepting challenges right now." with
        | some user => toId user = coordinator.opponentUserId
        | none =>
            match existingChallenge message with
            | some (formatId, user) =>
                formatId = "gen9ou" && toId user = coordinator.opponentUserId
            | none => false

/-- `_read_popup`. -/
def readPopup (wireMessage : String) : SetupException :=
  let message := Python.replace wireMessage "||" "\n"
  if teamValidationPrefixes.any fun start => Python.startsWith message start then
    .teamValidationError "Showdown rejected the selected team"
  else if coordinator.isExplicitChallengeRejection message then
    .challengeSetupError "challenge_command_rejected_explicit"
      "Showdown explicitly rejected the challenge command"
  else .raised (.unknownProtocolEvent "unrecognized setup popup")

/-- `_read_global_line`. -/
def readGlobalLine (payload : String) : Except SetupException Unit :=
  if Python.startsWith payload "|popup|" then
    .error (coordinator.readPopup (Python.dropChars payload 7))
  else if Python.startsWith payload "|error|" then
    .error (coordinator.readPopup (Python.dropChars payload 7))
  else if Python.startsWith payload "|pm|" then .ok ()
  else if harmlessGlobalTypes.any fun type => globalWireType payload = some type then .ok ()
  else .error (.raised (.unknownProtocolEvent "unrecognized setup payload"))

/-- The first answer to the `userdetails` query: challenge and team are sent. -/
def completeBootstrap (state : DiscoveryState) (payload : String) :
    Except Halted DiscoveryState := do
  let roomIds ← state.attempt (readUserDetailsRoomIds payload coordinator.ourUserId)
  let state := state.exclude roomIds
  match state.latestSearchSnapshot with
  | none => state.fail (.malformedProtocolMessage "named account bootstrap omitted updatesearch")
  | some snapshot =>
      if snapshot.searching ≠ [] then
        state.fail (.unknownProtocolEvent "named account already has an active search")
      else do
        let state := { state with bootstrapComplete := true }
        let state ← state.sendGlobal connection s!"|/utm {coordinator.team.packed}"
        state.sendGlobal connection s!"|/challenge {coordinator.opponentDisplay}, gen9ou"

/-- One round of the loop of `_discover`, on a global line. -/
def readGlobal (reader : ChallengeStateReader) (state : DiscoveryState) (payload : String) :
    Except Halted DiscoveryState :=
  if Python.startsWith payload updateSearchPrefix then state.readUpdateSearch payload
  else if !state.bootstrapComplete && Python.startsWith payload userDetailsPrefix then
    coordinator.completeBootstrap connection state payload
  else do
    let observation ← state.attempt (reader.read payload)
    match observation with
    | some observation =>
        if state.bootstrapComplete then pure (state.note observation) else pure state
    | none =>
        match coordinator.readGlobalLine payload with
        | .ok () => pure state
        | .error error => .error ⟨.raised error, state⟩

/-! ## §3 Room lines -/

/-- `_has_exact_player_pair`. -/
def hasExactPlayerPair (candidate : RoomCandidate) : Bool :=
  Dict.sameSet (Dict.keys candidate.players) ["p1", "p2"] &&
    Dict.sameSet (candidate.players.map Prod.snd)
      [coordinator.ourUserId, coordinator.opponentUserId]

/-- `_raise_for_exact_candidate_failure`. -/
def raiseForExactCandidateFailure (candidate : RoomCandidate) : Except PyException Unit :=
  if !coordinator.hasExactPlayerPair candidate then .ok ()
  else
    match candidate.metadataError with
    | some text => .error (.malformedProtocolMessage text)
    | none =>
        if candidate.gameType.any (· ≠ "singles") then
          .error (.unknownProtocolEvent "matching player pair has an unsupported game type")
        else if candidate.generation.any (· ≠ 9) then
          .error (.unknownProtocolEvent "matching player pair has an unsupported generation")
        else if candidate.tier.any (· ≠ "[Gen 9] OU") then
          .error (.unknownProtocolEvent "matching player pair has an unsupported tier")
        else .ok ()

/-- `_is_matching_candidate`. -/
def isMatchingCandidate (candidate : RoomCandidate) : Bool :=
  candidate.battleInitialized && coordinator.hasExactPlayerPair candidate &&
    candidate.gameType = some "singles" && candidate.generation = some 9 &&
    candidate.tier = some "[Gen 9] OU"

/-- A line of a candidate's room, read and checked; `_validate_handoff_line` does just this. -/
def takeLine (candidate : RoomCandidate) (line : RoomLine) : Except PyException RoomCandidate := do
  let candidate ← candidate.observe line
  coordinator.raiseForExactCandidateFailure candidate
  pure candidate

/-- One round of the loop of `_discover`, on a line of a room. -/
def readRoom (state : DiscoveryState) (roomId : String) (line : RoomLine) :
    Except Halted DiscoveryState :=
  if !state.bootstrapComplete then .ok (state.exclude [roomId])
  else if roomId ∈ state.excludedRoomIds then .ok state
  else do
    let known := (Dict.get? state.candidates roomId).getD (RoomCandidate.new roomId)
    let candidate ← state.attempt (coordinator.takeLine known line)
    let state := { state with candidates := Dict.assign state.candidates roomId candidate }
    if coordinator.isMatchingCandidate candidate then .error ⟨.returned candidate, state⟩
    else pure state

/-! ## §4 Discovery -/

/-- One round of the loop of `_discover`. -/
def readLine (reader : ChallengeStateReader) (state : DiscoveryState) (line : RoomLine) :
    Except Halted DiscoveryState :=
  if connection.expires state.received then .error state.timedOut
  else
    let state := { state with received := state.received + 1 }
    match line.roomId with
    | none => coordinator.readGlobal connection reader state line.payload
    | some roomId => coordinator.readRoom state roomId line

/-- The end of `_discover`, and the lines that it leaves. -/
structure Discovery where
  halted : Halted
  rest : List RoomLine

/-- The loop of `_discover`. -/
def discoverLines (reader : ChallengeStateReader) : DiscoveryState → List RoomLine → Discovery
  | state, [] =>
      match connection.ending with
      | some error =>
          if connection.expires state.received then ⟨state.timedOut, []⟩
          else ⟨⟨.raised (.raised error), state⟩, []⟩
      -- after the last line the coordinator waits for the timeout
      | none => ⟨state.timedOut, []⟩
  | state, line :: rest =>
      match coordinator.readLine connection reader state line with
      | .error halted => ⟨halted, rest⟩
      | .ok state => discoverLines reader state rest

/-- `_discover`. -/
def discover : Discovery :=
  let start := DiscoveryState.initial
  match ChallengeStateReader.create coordinator.ourUserId coordinator.opponentUserId "gen9ou" with
  | .error error => ⟨⟨.raised (.raised error), start⟩, connection.lines⟩
  | .ok reader =>
      match start.sendGlobal connection s!"|/cmd userdetails {coordinator.ourUserId}" with
      | .error halted => ⟨halted, connection.lines⟩
      | .ok state => coordinator.discoverLines connection reader state connection.lines

/-! ## §5 The run -/

/-- `_SessionConnection._line_stream`, after the buffered lines: the lines that it yields, and the
exception that ends them. -/
def handoffLines : RoomCandidate → List RoomLine → List RoomLine × Option PyException
  | _, [] => ([], connection.ending)
  | candidate, line :: rest =>
      if line.roomId = some candidate.roomId then
        match coordinator.takeLine candidate line with
        | .error error => ([], some error)
        | .ok candidate =>
            let (later, ending) := handoffLines candidate rest
            (line :: later, ending)
      else handoffLines candidate rest

/-- What is outside the session of a room. -/
def sessionEnvironment (roomId : String) : Environment where
  roomId := roomId
  policy := coordinator.policy.getD heuristicSelect
  sendRoom := connection.sendRoom
  emit _ _ := .ok ()
  decisionRecordContext := none

/-- The session in the room that was found, after its lines. -/
def runSession (candidate : RoomCandidate) (rest : List RoomLine) : BattleSession :=
  let (later, ending) := coordinator.handoffLines connection candidate rest
  (BattleSession.initial (.initial coordinator.ourUserId)).run
    (coordinator.sessionEnvironment connection candidate.roomId) (candidate.lines ++ later) ending

/-- A session that has ended without an error and without a result is at fault. -/
def requireTerminal (session : BattleSession) : BattleSession :=
  if session.primaryError.isNone && session.state.winner.isNone && !session.state.tied then
    { session with
      primaryError := some (.disconnect "Showdown battle stream ended before a terminal result") }
  else session

/-- The result of `run` once the connection is closed: the first error counts. -/
def closing (result : Except SetupException BattleSession) :
    Except SetupException BattleSession :=
  match connection.close, result with
  | .ok (), result => result
  | .error _, .error error => .error error
  | .error error, .ok session =>
      if session.primaryError.isSome then .ok session else .error (.raised error)

/-- `run`. -/
def run : Except SetupException BattleSession :=
  closing connection <|
    match connection.connect with
    | .error error => .error (.raised error)
    | .ok () =>
        match (coordinator.discover connection) with
        | ⟨⟨.raised error, _⟩, _⟩ => .error error
        | ⟨⟨.returned candidate, _⟩, rest⟩ =>
            .ok (requireTerminal (coordinator.runSession connection candidate rest))

end BattleCoordinator

end BattleBelief
