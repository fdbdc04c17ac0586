import BattleBelief.Actions.RequestReader
import BattleBelief.Protocol.Parser

/-!
# The Challenge State Reader

What a global line says about the challenge that we have sent: whether it is still pending. The
server reports it in `updatechallenges`, as JSON, or in a private message between the two players.
-/

namespace BattleBelief

open Python (Json)
open Python.Dict (sameSet)

section Decoding

variable [JsonDecoder]

/-- Decodes the JSON of a global message, which must be an object. -/
def loadObject (messageType payload : String) : Except PyException Members :=
  match JsonDecoder.loads payload with
  | .error (.decodeError text) => malformed s!"invalid {messageType} json: {text}"
  | .error (.raised err) => .error err
  | .ok (.obj members) => .ok members
  | .ok _ => malformed s!"{messageType} json must be an object"

theorem loadObject_ok {messageType payload : String} {data : Members}
    (h : loadObject messageType payload = .ok data) :
    JsonDecoder.loads payload = .ok (.obj data) := by
  unfold loadObject at h
  split at h
  · cases h
  · cases h
  · rename_i members hloads
    cases h
    exact hloads
  · cases h

end Decoding

variable [Python.UnicodeDatabase] [JsonDecoder]

inductive OutgoingChallengeStatus where
  | pending
  | notPending
  deriving DecidableEq, Repr

structure OutgoingChallengeObservation where
  status : OutgoingChallengeStatus
  targetUserId : String
  formatId : Option String
  sourceKind : String
  deriving DecidableEq, Repr

structure ChallengeStateReader where
  ourUserId : String
  targetUserId : String
  formatId : String

namespace ChallengeStateReader

/-- `ChallengeStateReader.__init__`. -/
def create (ourUserId targetUserId formatId : String) : Except PyException ChallengeStateReader :=
  if formatId ≠ "gen9ou" then .error (.valueError "ChallengeStateReader supports only gen9ou")
  else if toId ourUserId = "" then
    .error (.valueError "our_user_id must normalize to a non-empty Showdown ID")
  else if toId targetUserId = "" then
    .error (.valueError "target_user_id must normalize to a non-empty Showdown ID")
  else .ok ⟨toId ourUserId, toId targetUserId, formatId⟩

variable (reader : ChallengeStateReader)

/-- `_observation`. -/
def observation (status : OutgoingChallengeStatus) (formatId : Option String)
    (sourceKind : String) : OutgoingChallengeObservation :=
  ⟨status, reader.targetUserId, formatId, sourceKind⟩

/-- What a challenge in `updatechallenges` tells, which must be ours. -/
def readChallengeTo (challenge : Members) : Except PyException OutgoingChallengeObservation := do
  let target ← requireString (challenge.get "to") "challengeTo.to"
  let challengeFormat ← requireString (challenge.get "format") "challengeTo.format"
  if toId target ≠ reader.targetUserId then
    .error (.unknownProtocolEvent
      s!"unexpected outgoing challenge target: {Python.repr target}")
  else if challengeFormat ≠ reader.formatId then
    .error (.unknownProtocolEvent
      s!"unexpected outgoing challenge format: {Python.repr challengeFormat}")
  else pure (reader.observation .pending (some reader.formatId) "updatechallenges")

/-- `_read_update_challenges`. -/
def readUpdateChallenges (jsonPayload : String) :
    Except PyException OutgoingChallengeObservation := do
  let data ← loadObject "updatechallenges" jsonPayload
  match data.get "challengeTo" with
  | .null => pure (reader.observation .notPending none "updatechallenges")
  | .obj challenge => reader.readChallengeTo challenge
  | _ => malformed "challengeTo must be an object or null"

/-- What a private message says that begins with `/challenge ` and that we have sent. -/
def readPendingMessage (message : String) : Except PyException OutgoingChallengeObservation :=
  match Python.split message "|" with
  | [command, teamBuilderFormat, _, _, _] =>
      if command ≠ s!"/challenge {reader.formatId}" || teamBuilderFormat ≠ reader.formatId then
        .error (.unknownProtocolEvent "pending challenge pm has an unexpected format")
      else .ok (reader.observation .pending (some reader.formatId) "pm")
  | _ => malformed "pending challenge pm must contain exactly five fields"

/-- `_read_private_message`, once sender and receiver are known. -/
def readMessageBetween (senderId receiverId message : String) :
    Except PyException (Option OutgoingChallengeObservation) :=
  if !sameSet [senderId, receiverId] [reader.ourUserId, reader.targetUserId] then .ok none
  else if message = "/challenge" then .ok (some (reader.observation .notPending none "pm"))
  else if !Python.startsWith message "/challenge " then
    if Python.startsWith message "/challenge" then malformed "invalid challenge state pm command"
    else .ok none
  else if senderId = reader.targetUserId && receiverId = reader.ourUserId then .ok none
  else (reader.readPendingMessage message).map some

/-- `_read_private_message`. -/
def readPrivateMessage (payload : String) :
    Except PyException (Option OutgoingChallengeObservation) :=
  match Python.splitMax "|" 4 payload with
  | [_, wireType, sender, receiver, message] =>
      if wireType ≠ "pm" then .ok none
      else reader.readMessageBetween (toId sender) (toId receiver) message
  | _ => malformed "pm must contain sender, receiver, and message"

/-- `read`. -/
def read (payload : String) : Except PyException (Option OutgoingChallengeObservation) :=
  if Python.startsWith payload "|updatechallenges|" then
    (reader.readUpdateChallenges (Python.dropChars payload 18)).map some
  else if Python.startsWith payload "|pm|" then reader.readPrivateMessage payload
  else .ok none

end ChallengeStateReader

end BattleBelief
