import BattleBelief.Library.Runs
import BattleBelief.Setup.ChallengeState

/-!
# The State of the Account

The global lines that arrive while a challenge is being set up: the searches and the rooms that
the account has, and the messages that refuse the challenge or the team.
-/

namespace BattleBelief

open Python (Json Dict.keys)
open Runs

variable [JsonDecoder]

/-- The exceptions of the setup: those of the protocol, and two of its own. -/
inductive SetupException where
  | raised (error : PyException)
  | teamValidationError (text : String)
  | challengeSetupError (subcode message : String)
  deriving DecidableEq, Repr

/-! ## §1 Searches and rooms -/

structure SearchSnapshot where
  searching : List String
  roomIds : List String
  deriving DecidableEq, Repr

/-- The format of a search. -/
def searchFormat : Json → Except PyException String
  | .str formatId =>
      if formatId = "" then malformed "updatesearch.searching must contain nonempty format IDs"
      else .ok formatId
  | _ => malformed "updatesearch.searching must contain nonempty format IDs"

/-- `updatesearch.searching`. -/
def readSearching (data : Members) : Except PyException (List String) :=
  match Json.get? data "searching" with
  | none => malformed "updatesearch.searching is required"
  | some (.arr formats) => formats.mapM searchFormat
  | some _ => malformed "updatesearch.searching must contain nonempty format IDs"

/-- The room of one entry of `updatesearch.games`. -/
def gameRoom : String × Json → Except PyException String
  | (roomId, .str _) =>
      if roomId = "" then
        malformed "updatesearch.games must map nonempty room IDs to string titles"
      else .ok roomId
  | _ => malformed "updatesearch.games must map nonempty room IDs to string titles"

/-- `updatesearch.games`. -/
def readGames (data : Members) : Except PyException (List String) :=
  match Json.get? data "games" with
  | none => malformed "updatesearch.games is required"
  | some .null => .ok []
  | some (.obj games) => games.mapM gameRoom
  | some _ => malformed "updatesearch.games must be an object or null"

def updateSearchPrefix : String := "|updatesearch|"

/-- `_read_search_snapshot`. -/
def readSearchSnapshot (payload : String) : Except PyException SearchSnapshot := do
  let data ← loadObject "updatesearch" (Python.dropChars payload 14)
  let searching ← readSearching data
  let roomIds ← readGames data
  pure ⟨searching, roomIds⟩

/-- A room without the character before it that tells the rank of the user in it. -/
def withoutRank (roomIdWithAuth : String) : String :=
  match roomIdWithAuth.toList with
  | [] => ""
  | c :: rest =>
      if Python.isAscii c && c.isAlphanum then roomIdWithAuth else String.ofList rest

/-- `[a-z0-9-]+` -/
def isRoomId (roomId : String) : Bool :=
  roomId ≠ "" && roomId.toList.all fun c => c.isLower || c.isDigit || c = '-'

/-- The room of one entry of `userdetails.rooms`. -/
def accountRoom : String × Json → Except PyException String
  | (roomIdWithAuth, .obj _) =>
      if isRoomId (withoutRank roomIdWithAuth) then .ok (withoutRank roomIdWithAuth)
      else malformed "userdetails.rooms contains an invalid room ID"
  | _ => malformed "userdetails.rooms must map room IDs to room metadata objects"

/-- `userdetails.userid`, which must be ours. -/
def checkUserId (data : Members) (expectedUserId : String) : Except PyException Unit :=
  match data.get "userid" with
  | .str userId =>
      if userId = "" then malformed "userdetails.userid must be a nonempty string"
      else if userId ≠ expectedUserId then
        .error (.unknownProtocolEvent "userdetails response was not correlated to our user")
      else .ok ()
  | _ => malformed "userdetails.userid must be a nonempty string"

/-- `userdetails.rooms`. -/
def readRooms (data : Members) : Except PyException (List String) :=
  match Json.get? data "rooms" with
  | none => malformed "userdetails.rooms is required"
  | some (.obj rooms) => rooms.mapM accountRoom
  | some _ => .error (.unknownProtocolEvent "userdetails response did not expose account rooms")

/-- `_USER_DETAILS_PREFIX`. -/
def userDetailsPrefix : String := "|queryresponse|userdetails|"

/-- `_read_user_details_room_ids`. -/
def readUserDetailsRoomIds (payload expectedUserId : String) :
    Except PyException (List String) := do
  let data ← loadObject "userdetails" (Python.dropChars payload 27)
  checkUserId data expectedUserId
  readRooms data

/-! ## §2 What a snapshot tells -/

/-- The keys of `updatesearch.games`. -/
def gamesOf (payload : String) : List String :=
  match JsonDecoder.loads (Python.dropChars payload 14) with
  | .ok (.obj data) =>
      match Json.get? data "games" with
      | some (.obj games) => Dict.keys games
      | _ => []
  | _ => []

/-- The keys of `userdetails.rooms`, without the rank of the user. -/
def roomsOf (payload : String) : List String :=
  match JsonDecoder.loads (Python.dropChars payload 27) with
  | .ok (.obj data) =>
      match Json.get? data "rooms" with
      | some (.obj rooms) => (Dict.keys rooms).map withoutRank
      | _ => []
  | _ => []

/-- A snapshot says that the account has no search going on. -/
def SaysIdle (payload : String) : Prop :=
  ∃ data, JsonDecoder.loads (Python.dropChars payload 14) = .ok (.obj data) ∧
    Json.get? data "searching" = some (.arr [])

/-- A response is about our account. -/
def SaysOurs (ourUserId payload : String) : Prop :=
  ∃ data, JsonDecoder.loads (Python.dropChars payload 27) = .ok (.obj data) ∧
    Json.get? data "userid" = some (.str ourUserId)

omit [JsonDecoder] in
theorem gameRoom_ok {game : String × Json} {roomId : String} (h : gameRoom game = .ok roomId) :
    roomId = game.1 := by
  unfold gameRoom at h
  split at h
  · split_ifs at h
    · cases h
    · cases h
      rfl
  · cases h

omit [JsonDecoder] in
theorem accountRoom_ok {room : String × Json} {roomId : String}
    (h : accountRoom room = .ok roomId) : roomId = withoutRank room.1 := by
  unfold accountRoom at h
  split at h
  · split_ifs at h
    · cases h
      rfl
    · cases h
  · cases h

/-- A snapshot that is read has the rooms of its line, and its search list. -/
theorem readSearchSnapshot_ok {payload : String} {snapshot : SearchSnapshot}
    (h : readSearchSnapshot payload = .ok snapshot) :
    snapshot.roomIds = gamesOf payload ∧ (snapshot.searching = [] → SaysIdle payload) := by
  obtain ⟨data, hdata, h⟩ := bind_eq_ok.mp h
  obtain ⟨searching, hsearching, h⟩ := bind_eq_ok.mp h
  obtain ⟨roomIds, hrooms, h⟩ := bind_eq_ok.mp h
  cases h
  have hloads := loadObject_ok hdata
  constructor
  · simp only [gamesOf, hloads]
    unfold readGames at hrooms
    split at hrooms
    · cases hrooms
    · rename_i hgames
      cases hrooms
      simp [hgames]
    · rename_i games hgames
      simp only [hgames]
      have hkeys : roomIds.map id = games.map Prod.fst :=
        map_eq_of_mapM hrooms fun _ _ => gameRoom_ok
      simpa [Dict.keys] using hkeys
    · cases hrooms
  · intro hidle
    refine ⟨data, hloads, ?_⟩
    unfold readSearching at hsearching
    split at hsearching
    · cases hsearching
    · rename_i formats hformats
      have hall := mapM_eq_ok.mp hsearching
      simp only at hidle
      rw [hidle] at hall
      cases hall
      exact hformats
    · cases hsearching

/-- A response that is read is about our account, and has the rooms of its line. -/
theorem readUserDetailsRoomIds_ok {payload expectedUserId : String} {roomIds : List String}
    (h : readUserDetailsRoomIds payload expectedUserId = .ok roomIds) :
    roomIds = roomsOf payload ∧ SaysOurs expectedUserId payload := by
  obtain ⟨data, hdata, h⟩ := bind_eq_ok.mp h
  obtain ⟨_, huser, hrooms⟩ := bind_eq_ok.mp h
  have hloads := loadObject_ok hdata
  constructor
  · simp only [roomsOf, hloads]
    unfold readRooms at hrooms
    split at hrooms
    · cases hrooms
    · rename_i rooms hget
      simp only [hget]
      have hkeys : roomIds.map id = rooms.map fun room => withoutRank room.1 :=
        map_eq_of_mapM hrooms fun _ _ => accountRoom_ok
      simpa [Dict.keys, Function.comp_def] using hkeys
    · cases hrooms
  · refine ⟨data, hloads, ?_⟩
    unfold checkUserId at huser
    split at huser
    · rename_i userId hget
      split_ifs at huser with hempty hother
      · cases huser
      · have hours : data.get "userid" = .str expectedUserId := hget.trans (by rw [not_not.mp hother])
        unfold Members.get at hours
        cases hfound : Json.get? data "userid" with
        | none =>
          rw [hfound] at hours
          cases hours
        | some value =>
          rw [hfound, Option.getD_some] at hours
          rw [hours]
    · cases huser

/-! ## §3 Refusals -/

/-- `_TEAM_VALIDATION_PREFIXES`. -/
def teamValidationPrefixes : List String :=
  ["Your team was rejected for the following reason:\n\n- ",
    "Your team was rejected for the following reasons:\n\n- "]

/-- `_EXPLICIT_REJECTION_MESSAGES`. -/
def explicitRejectionMessages : List String :=
  ["You can't battle yourself. The best you can do is open PS in Private Browsing "
      ++ "(or another browser) and log into a different username, and battle that username.",
    "You are already challenging someone. Cancel that challenge before challenging someone else.",
    "You challenged less than 10 seconds after your last challenge! It's cancelled in "
      ++ "case it's a misclick.",
    "This user already has 3 pending challenges.\nYou must be autoconfirmed to challenge them.",
    "You are locked and cannot challenge unlocked users. If this user is your friend, "
      ++ "ask them to challenge you instead.",
    "You are banned from battling and cannot challenge users.",
    "You must choose a username before you challenge someone.",
    "The server is restarting. Battles will be available again in a few minutes.",
    "The server is under attack. Battles cannot be started at this time."]

/-- `_HARMLESS_GLOBAL_TYPES`. -/
def harmlessGlobalTypes : List String :=
  ["B", "b", "battle", "customgroups", "formats", "usercount"]

/-- `_global_wire_type`. -/
def globalWireType (payload : String) : Option String :=
  if Python.startsWith payload "|" then (Python.splitMax "|" 2 payload)[1]? else none

/-- The name in quotes of a message about a user. -/
def quotedUser (message ending : String) : Option String :=
  (Python.between message "The user '" ending).filter fun user =>
    user ≠ "" && !user.toList.contains (Char.ofNat 39)

/-- Format and user of a message about a challenge that is already there. -/
def existingChallenge (message : String) : Option (String × String) := do
  let rest ← Python.between message "There's already a challenge (" "!"
  let (formatId, rest) ← Python.splitOnce rest ")"
  let user ← Python.between rest " between you and " ""
  if formatId.toList.contains '(' || user = "" || user.toList.contains '\n' then none
  else some (formatId, user)

end BattleBelief
