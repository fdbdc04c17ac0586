import BattleBelief.Library.Outcomes
import BattleBelief.Setup.Coordinator

/-!
# What Discovery Finds

A room that discovery returns is one that the account has not had before the challenge, and its
lines announce the battle that the challenge asks for.

The argument follows the loop with two invariants, one for the lines before the answer to the
`userdetails` query and one for the lines after it: `Before` says that every room that is told of
is excluded, and `After` that every other room has a candidate with just its lines.

## Main results

- `discovery_sound`: what is returned, and which commands are sent when
-/

namespace BattleBelief

open Python (Json Dict.get? Dict.assign Dict.keys Dict.sameSet)
open Outcomes Runs

/-! ## §1 What the lines tell -/

def isUpdateSearch (line : RoomLine) : Bool :=
  line.roomId.isNone && Python.startsWith line.payload updateSearchPrefix

def isUserDetails (line : RoomLine) : Bool :=
  line.roomId.isNone && Python.startsWith line.payload userDetailsPrefix

theorem isUserDetails_of_isUpdateSearch {line : RoomLine} (h : isUpdateSearch line = true) :
    isUserDetails line = false := by
  simp only [isUpdateSearch, Bool.and_eq_true] at h
  have hother : Python.startsWith line.payload userDetailsPrefix = false :=
    Python.not_startsWith h.2 (by decide) (by decide)
  simp [isUserDetails, hother]

/-- `line.room_id == room_id`. -/
def isOf (roomId : String) (line : RoomLine) : Bool := line.roomId = some roomId

section Lines

variable [JsonDecoder]

/-- The rooms that a line tells of: the one it is for, or those of a snapshot. -/
def mentionedRooms (line : RoomLine) : List String :=
  match line.roomId with
  | some roomId => [roomId]
  | none =>
      if isUpdateSearch line then gamesOf line.payload
      else if isUserDetails line then roomsOf line.payload
      else []

/-- The last snapshot among the lines. -/
def LastSearch (lines : List RoomLine) (search : RoomLine) : Prop :=
  (lines.filter isUpdateSearch).getLast? = some search

/-- The bootstrap barrier after the lines `before`: the first answer to the `userdetails` query,
about our account, when the last snapshot has an empty search list. -/
structure Barrier (ourUserId : String) (before : List RoomLine) (barrier : RoomLine) : Prop where
  response : isUserDetails barrier = true
  first : ∀ line ∈ before, isUserDetails line = false
  ours : SaysOurs ourUserId barrier.payload
  idle : ∃ search, LastSearch before search ∧ SaysIdle search.payload

end Lines

/-! ## §2 One line -/

section Steps

variable {coordinator : BattleCoordinator} {connection : BattleConnection}
  {reader : ChallengeStateReader} {state after : DiscoveryState} {halted : Halted}
  {line : RoomLine}

/-- The commands of the setup, in their order. -/
def BattleCoordinator.setupCommands (coordinator : BattleCoordinator) : List String :=
  [s!"|/cmd userdetails {coordinator.ourUserId}", s!"|/utm {coordinator.team.packed}",
    s!"|/challenge {coordinator.opponentDisplay}, gen9ou"]

/-- The candidate of a room, a new one where no line has come from it. -/
def DiscoveryState.candidateOf (state : DiscoveryState) (roomId : String) : RoomCandidate :=
  (Dict.get? state.candidates roomId).getD (RoomCandidate.new roomId)

/-- Rooms, snapshots and commands stay what they are. -/
structure Keeps (state after : DiscoveryState) : Prop where
  candidates : after.candidates = state.candidates
  bootstrapComplete : after.bootstrapComplete = state.bootstrapComplete
  latestSearchSnapshot : after.latestSearchSnapshot = state.latestSearchSnapshot
  excludedRoomIds : after.excludedRoomIds = state.excludedRoomIds
  sent : after.sent = state.sent

/-- A call that raises leaves the variables as they are. -/
theorem attempt_satisfies {α : Type} (result : Except PyException α) :
    Satisfies (fun value => result = .ok value)
      (fun halted => (∃ error, halted.outcome = .raised error) ∧ halted.state = state)
      (state.attempt result) := by
  cases result with
  | ok value => exact .ok rfl
  | error error => exact .error ⟨⟨_, rfl⟩, rfl⟩

variable [Python.UnicodeDatabase] [JsonDecoder]

/-- The answer to the `userdetails` query, with all that it is checked for. -/
structure Answered (coordinator : BattleCoordinator) (state : DiscoveryState) (line : RoomLine) :
    Prop where
  waiting : state.bootstrapComplete = false
  response : isUserDetails line = true
  ours : SaysOurs coordinator.ourUserId line.payload
  idle : ∃ snapshot, state.latestSearchSnapshot = some snapshot ∧ snapshot.searching = []

/-- What a line does that the loop goes on after. -/
inductive Advances (coordinator : BattleCoordinator) (state : DiscoveryState) (line : RoomLine)
    (after : DiscoveryState) : Prop
  | quiet (hglobal : line.roomId = none)
      (hplain : state.bootstrapComplete = false →
        isUpdateSearch line = false ∧ isUserDetails line = false)
      (hkeeps : Keeps state after)
  | search (snapshot : SearchSnapshot) (hwaiting : state.bootstrapComplete = false)
      (hsearch : isUpdateSearch line = true)
      (hidle : snapshot.searching = [] → SaysIdle line.payload)
      (hafter : Keeps { state.exclude (gamesOf line.payload) with
        latestSearchSnapshot := some snapshot } after)
  | answer (hanswered : Answered coordinator state line)
      (hafter : Keeps { state.exclude (roomsOf line.payload) with
        bootstrapComplete := true, sent := coordinator.setupCommands.tail.reverse ++ state.sent } after)
  | early (roomId : String) (hwaiting : state.bootstrapComplete = false)
      (hroom : line.roomId = some roomId) (hafter : Keeps (state.exclude [roomId]) after)
  | excluded (roomId : String) (hcomplete : state.bootstrapComplete = true)
      (hroom : line.roomId = some roomId) (hmem : roomId ∈ state.excludedRoomIds)
      (hkeeps : Keeps state after)
  | candidate (roomId : String) (candidate : RoomCandidate)
      (hcomplete : state.bootstrapComplete = true) (hroom : line.roomId = some roomId)
      (hnew : roomId ∉ state.excludedRoomIds)
      (htake : coordinator.takeLine (state.candidateOf roomId) line = .ok candidate)
      (hafter : Keeps { state with
        candidates := Dict.assign state.candidates roomId candidate } after)

/-- How a line ends the loop: the commands of the bootstrap may be sent then, in part. -/
inductive Halts (coordinator : BattleCoordinator) (state : DiscoveryState) (line : RoomLine)
    (halted : Halted) : Prop
  | raised (error : SetupException) (houtcome : halted.outcome = .raised error)
      (hsent : halted.state.sent = state.sent)
  | answer (error : SetupException) (houtcome : halted.outcome = .raised error)
      (hanswered : Answered coordinator state line)
      (hsent : ∃ sent, sent <+: coordinator.setupCommands.tail ∧
        halted.state.sent = sent.reverse ++ state.sent)
  | returned (roomId : String) (candidate : RoomCandidate)
      (houtcome : halted.outcome = .returned candidate)
      (hcomplete : state.bootstrapComplete = true) (hroom : line.roomId = some roomId)
      (hnew : roomId ∉ state.excludedRoomIds)
      (htake : coordinator.takeLine (state.candidateOf roomId) line = .ok candidate)
      (hmatch : coordinator.isMatchingCandidate candidate = true)
      (hsent : halted.state.sent = state.sent)

/-- Both ways in which a line is taken. -/
def LineOutcome (coordinator : BattleCoordinator) (state : DiscoveryState) (line : RoomLine)
    (result : Except Halted DiscoveryState) : Prop :=
  Satisfies (Advances coordinator state line) (Halts coordinator state line) result

/-- An exception that leaves the commands as they are. -/
theorem Halts.of_raised {n : Nat}
    (h : (∃ error, halted.outcome = .raised error) ∧ halted.state = { state with received := n }) :
    Halts coordinator state line halted := by
  obtain ⟨⟨error, houtcome⟩, hstate⟩ := h
  exact .raised error houtcome (by rw [hstate])

/-- The line is read once it is counted. -/
theorem readUpdateSearch_outcome (n : Nat) (hsearch : isUpdateSearch line = true) :
    LineOutcome coordinator state line
      (DiscoveryState.readUpdateSearch { state with received := n } line.payload) := by
  have hglobal : line.roomId = none := by
    simp only [isUpdateSearch, Bool.and_eq_true, Option.isNone_iff_eq_none] at hsearch
    exact hsearch.1
  refine (attempt_satisfies _).mono (fun _ h => h) (fun _ h => Halts.of_raised h) |>.bind ?_
  intro snapshot hread
  obtain ⟨hrooms, hidle⟩ := readSearchSnapshot_ok hread
  cases hcomplete : state.bootstrapComplete with
  | false =>
    refine .pure (.search snapshot hcomplete hsearch hidle ?_)
    rw [← hrooms]
    exact ⟨rfl, hcomplete.symm, rfl, rfl, rfl⟩
  | true =>
    simp only [Bool.not_true, Bool.false_eq_true, if_false]
    split_ifs
    · exact .error (.raised _ rfl rfl)
    · refine .pure (.quiet hglobal ?_ ⟨rfl, hcomplete.symm, rfl, rfl, rfl⟩)
      rw [hcomplete]
      nofun

omit [Python.UnicodeDatabase] [JsonDecoder] in
/-- The commands that are handed over are on record, also where one fails. -/
theorem sendGlobal_satisfies (connection : BattleConnection) (state : DiscoveryState)
    (command : String) :
    Satisfies (fun after => after = { state with sent := command :: state.sent })
      (fun halted => (∃ error, halted.outcome = .raised error) ∧
        halted.state = { state with sent := command :: state.sent })
      (state.sendGlobal connection command) := by
  unfold DiscoveryState.sendGlobal
  cases connection.sendGlobal state.sent command with
  | ok _ => exact .ok rfl
  | error interruption =>
    cases interruption with
    | timeout => exact .error ⟨⟨_, rfl⟩, rfl⟩
    | raised error => exact .error ⟨⟨_, rfl⟩, rfl⟩

theorem completeBootstrap_outcome (n : Nat) (hwaiting : state.bootstrapComplete = false)
    (hresponse : isUserDetails line = true) :
    LineOutcome coordinator state line
      (coordinator.completeBootstrap connection { state with received := n } line.payload) := by
  refine (attempt_satisfies _).mono (fun _ h => h) (fun _ h => Halts.of_raised h) |>.bind ?_
  intro roomIds hread
  obtain ⟨hrooms, hours⟩ := readUserDetailsRoomIds_ok hread
  simp only [DiscoveryState.exclude]
  cases hlatest : state.latestSearchSnapshot with
  | none => exact .error (.raised _ rfl rfl)
  | some snapshot =>
    simp only
    split_ifs with hsearching
    · exact .error (.raised _ rfl rfl)
    · have hanswered : Answered coordinator state line :=
        ⟨hwaiting, hresponse, hours, snapshot, hlatest, not_not.mp hsearching⟩
      refine (sendGlobal_satisfies _ _ _).mono (fun _ h => h) ?_ |>.bind ?_
      · rintro halted ⟨⟨error, houtcome⟩, hstate⟩
        refine .answer error houtcome hanswered ⟨[_], ?_, congrArg DiscoveryState.sent hstate⟩
        exact ⟨[_], rfl⟩
      · rintro _ rfl
        refine (sendGlobal_satisfies _ _ _).mono ?_ ?_
        · rintro _ rfl
          refine .answer hanswered ?_
          rw [← hrooms]
          exact ⟨rfl, rfl, hlatest.symm, rfl, rfl⟩
        · rintro halted ⟨⟨error, houtcome⟩, hstate⟩
          refine .answer error houtcome hanswered ⟨coordinator.setupCommands.tail, ?_, ?_⟩
          · exact List.prefix_refl _
          · exact congrArg DiscoveryState.sent hstate

theorem readGlobal_outcome (n : Nat) (hglobal : line.roomId = none) :
    LineOutcome coordinator state line
      (coordinator.readGlobal connection reader { state with received := n } line.payload) := by
  unfold BattleCoordinator.readGlobal
  by_cases hsearch : Python.startsWith line.payload updateSearchPrefix = true
  · rw [if_pos hsearch]
    exact readUpdateSearch_outcome n (by simp [isUpdateSearch, hglobal, hsearch])
  rw [if_neg hsearch]
  by_cases hresponse : (!state.bootstrapComplete &&
      Python.startsWith line.payload userDetailsPrefix) = true
  · rw [if_pos hresponse]
    rw [Bool.and_eq_true] at hresponse
    refine completeBootstrap_outcome n (by simpa using hresponse.1) ?_
    simp [isUserDetails, hglobal, hresponse.2]
  · rw [if_neg hresponse]
    -- what is left changes no room, and says nothing about the account
    have hquiet : ∀ after, Keeps state after → Advances coordinator state line after := by
      refine fun after hkeeps => .quiet hglobal (fun hwaiting => ?_) hkeeps
      simpa [isUpdateSearch, isUserDetails, hglobal, hsearch, hwaiting] using hresponse
    refine (attempt_satisfies _).mono (fun _ h => h) (fun _ h => Halts.of_raised h) |>.bind ?_
    intro observation _
    cases observation with
    | some observation =>
      simp only
      split_ifs
      · exact .pure (hquiet _ ⟨rfl, rfl, rfl, rfl, rfl⟩)
      · exact .pure (hquiet _ ⟨rfl, rfl, rfl, rfl, rfl⟩)
    | none =>
      simp only
      split
      · exact .pure (hquiet _ ⟨rfl, rfl, rfl, rfl, rfl⟩)
      · exact .error (.raised _ rfl rfl)

theorem readRoom_outcome (n : Nat) {roomId : String} (hroom : line.roomId = some roomId) :
    LineOutcome coordinator state line
      (coordinator.readRoom { state with received := n } roomId line) := by
  unfold BattleCoordinator.readRoom
  split_ifs with hwaiting hexcluded
  · exact .ok (.early roomId (by simpa using hwaiting) hroom ⟨rfl, rfl, rfl, rfl, rfl⟩)
  · exact .ok (.excluded roomId (by simpa using hwaiting) hroom hexcluded ⟨rfl, rfl, rfl, rfl, rfl⟩)
  · have hcomplete : state.bootstrapComplete = true := by simpa using hwaiting
    refine (attempt_satisfies _).mono (fun _ h => h) (fun _ h => Halts.of_raised h) |>.bind ?_
    intro candidate htake
    simp only
    split_ifs with hmatch
    · exact .error (.returned roomId candidate rfl hcomplete hroom hexcluded htake hmatch rfl)
    · exact .pure (.candidate roomId candidate hcomplete hroom hexcluded htake
        ⟨rfl, rfl, rfl, rfl, rfl⟩)

/-- What one round of the loop may do. -/
theorem readLine_outcome (reader : ChallengeStateReader) :
    LineOutcome coordinator state line
      (coordinator.readLine connection reader state line) := by
  unfold BattleCoordinator.readLine
  split_ifs
  · exact .error (.raised _ rfl rfl)
  · simp only
    split
    · rename_i hglobal
      exact readGlobal_outcome _ hglobal
    · rename_i roomId hroom
      exact readRoom_outcome _ hroom

end Steps

/-! ## §3 The room of the challenge -/

section Rooms

variable {coordinator : BattleCoordinator} {candidate after : RoomCandidate} {line : RoomLine}
  {p1 p2 : String}

/-- The two players of the challenge, on one side each. -/
def BattleCoordinator.Opponents (coordinator : BattleCoordinator) (p1 p2 : String) : Prop :=
  (p1 = coordinator.ourUserId ∧ p2 = coordinator.opponentUserId) ∨
    (p1 = coordinator.opponentUserId ∧ p2 = coordinator.ourUserId)

/-- What the room of a challenge declares. -/
def announcement (p1 p2 : String) : List Declaration :=
  [.player "p1" p1, .player "p2" p2, .gameType "singles", .generation 9, .tier "[Gen 9] OU"]

/-- The candidate has the announcement of a challenge on record, and no more. -/
structure Announced (p1 p2 : String) (candidate : RoomCandidate) : Prop where
  initialized : candidate.battleInitialized = true
  players : ∀ sideId, Dict.get? candidate.players sideId =
    if sideId = "p1" then some p1 else if sideId = "p2" then some p2 else none
  gameType : candidate.gameType = some "singles"
  generation : candidate.generation = some 9
  tier : candidate.tier = some "[Gen 9] OU"

theorem Announced.hasOnRecord (h : Announced p1 p2 candidate) (declaration : Declaration) :
    candidate.HasOnRecord declaration ↔ declaration ∈ announcement p1 p2 := by
  cases declaration with
  | player sideId userId =>
    simp only [RoomCandidate.HasOnRecord, h.players sideId, announcement]
    split_ifs with hp1 hp2
    · simp [hp1, eq_comm]
    · simp [hp2, eq_comm]
    · simp [hp1, hp2]
  | gameType name => simp [RoomCandidate.HasOnRecord, h.gameType, announcement, eq_comm]
  | generation number => simp [RoomCandidate.HasOnRecord, h.generation, announcement, eq_comm]
  | tier name => simp [RoomCandidate.HasOnRecord, h.tier, announcement, eq_comm]

/-- The players of an exact pair. -/
theorem exists_opponents (hnodup : (Dict.keys candidate.players).Nodup)
    (hpair : coordinator.hasExactPlayerPair candidate = true) :
    ∃ p1 p2, coordinator.Opponents p1 p2 ∧ ∀ sideId, Dict.get? candidate.players sideId =
      if sideId = "p1" then some p1 else if sideId = "p2" then some p2 else none := by
  simp only [BattleCoordinator.hasExactPlayerPair, Bool.and_eq_true,
    Python.Dict.sameSet_iff] at hpair
  obtain ⟨hkeys, hvalues⟩ := hpair
  obtain ⟨p1, hp1⟩ := Python.Dict.mem_keys_iff.mp ((hkeys "p1").mpr (by decide))
  obtain ⟨p2, hp2⟩ := Python.Dict.mem_keys_iff.mp ((hkeys "p2").mpr (by decide))
  have hget : ∀ sideId, Dict.get? candidate.players sideId =
      if sideId = "p1" then some p1 else if sideId = "p2" then some p2 else none := by
    intro sideId
    split_ifs with h1 h2
    · rw [h1, hp1]
    · rw [h2, hp2]
    · refine Python.Dict.get?_of_notMem fun hmem => ?_
      have hside := (hkeys sideId).mp hmem
      simp [h1, h2] at hside
  have hmem : ∀ userId, userId ∈ [coordinator.ourUserId, coordinator.opponentUserId] ↔
      userId = p1 ∨ userId = p2 := by
    intro userId
    rw [← hvalues userId, List.mem_map]
    constructor
    · rintro ⟨item, hitem, rfl⟩
      have hfound := Python.Dict.get?_of_mem hnodup hitem
      rw [hget] at hfound
      split_ifs at hfound
      · exact .inl (Option.some.inj hfound).symm
      · exact .inr (Option.some.inj hfound).symm
    · have hvalue : ∀ sideId, Dict.get? candidate.players sideId = some userId →
          ∃ item ∈ candidate.players, item.2 = userId := by
        intro sideId hfound
        obtain ⟨item, hfind, hitem⟩ := Option.map_eq_some_iff.mp hfound
        exact ⟨item, List.mem_of_find?_eq_some hfind, hitem⟩
      rintro (rfl | rfl)
      · exact hvalue "p1" hp1
      · exact hvalue "p2" hp2
  refine ⟨p1, p2, ?_, hget⟩
  have hours := (hmem coordinator.ourUserId).mp (by simp)
  have htheirs := (hmem coordinator.opponentUserId).mp (by simp)
  have hfirst := (hmem p1).mpr (.inl rfl)
  have hsecond := (hmem p2).mpr (.inr rfl)
  simp only [List.mem_cons, List.not_mem_nil, or_false] at hfirst hsecond
  unfold BattleCoordinator.Opponents
  grind

variable [Python.UnicodeDatabase]

/-- A line that is taken is read, and a candidate of the two players passes its check. -/
theorem takeLine_ok (h : coordinator.takeLine candidate line = .ok after) :
    candidate.observe line = .ok after ∧
      (coordinator.hasExactPlayerPair after = true → after.metadataError = none ∧
        ¬after.gameType.any (· ≠ "singles") ∧ ¬after.generation.any (· ≠ 9) ∧
        ¬after.tier.any (· ≠ "[Gen 9] OU")) := by
  obtain ⟨observed, hobserve, h⟩ := bind_eq_ok.mp h
  obtain ⟨_, hcheck, h⟩ := bind_eq_ok.mp h
  cases h
  refine ⟨hobserve, fun hpair => ?_⟩
  unfold BattleCoordinator.raiseForExactCandidateFailure at hcheck
  rw [hpair] at hcheck
  simp only [Bool.not_true, Bool.false_eq_true, if_false] at hcheck
  cases herror : after.metadataError with
  | some text =>
    rw [herror] at hcheck
    cases hcheck
  | none =>
    rw [herror] at hcheck
    simp only at hcheck
    split_ifs at hcheck with hgame hgeneration htier
    exact ⟨rfl, hgame, hgeneration, htier⟩

/-- A candidate that follows its lines: what it has on record is what they declare, unless one of
them is at fault. -/
structure Follows (roomId : String) (lines : List RoomLine) (candidate : RoomCandidate) :
    Prop where
  roomId : candidate.roomId = roomId
  lines : candidate.lines = lines
  tracks : candidate.metadataError = none → candidate.Tracks

theorem follows_new (roomId : String) : Follows roomId [] (RoomCandidate.new roomId) :=
  ⟨rfl, rfl, fun _ => RoomCandidate.tracks_new roomId⟩

theorem Follows.observe {roomId : String} {lines : List RoomLine}
    (h : Follows roomId lines candidate) (hobserve : candidate.observe line = .ok after) :
    Follows roomId (lines ++ [line]) after := by
  obtain ⟨hroom, hlines⟩ := RoomCandidate.observe_sameLines hobserve
  refine ⟨hroom.trans h.roomId, by rw [hlines, h.lines], fun hclean => ?_⟩
  have hbefore : candidate.metadataError = none := by
    cases RoomCandidate.observe_observed hobserve hclean with
    | init _ hbefore _ => exact hbefore
    | plain _ hbefore _ => exact hbefore
    | declared _ _ _ _ hrecorded => exact hrecorded.clean
  exact (h.tracks hbefore).observe hobserve hclean

/-- A candidate that matches has announced the battle of the challenge. -/
theorem announced_of_matching {roomId : String} {lines : List RoomLine}
    (h : Follows roomId lines candidate)
    (htake : coordinator.takeLine candidate line = .ok after)
    (hmatch : coordinator.isMatchingCandidate after = true) :
    after.metadataError = none ∧ coordinator.hasExactPlayerPair after = true ∧
      ∃ p1 p2, coordinator.Opponents p1 p2 ∧ Announced p1 p2 after := by
  obtain ⟨hobserve, hchecked⟩ := takeLine_ok htake
  simp only [BattleCoordinator.isMatchingCandidate, Bool.and_eq_true, decide_eq_true_eq] at hmatch
  obtain ⟨⟨⟨⟨hinit, hpair⟩, hgame⟩, hgeneration⟩, htier⟩ := hmatch
  have hclean := (hchecked hpair).1
  have htracks := (h.observe hobserve).tracks hclean
  obtain ⟨p1, p2, hopponents, hplayers⟩ := exists_opponents htracks.nodup hpair
  exact ⟨hclean, hpair, p1, p2, hopponents, hinit, hplayers, hgame, hgeneration, htier⟩

/-- The lines of a candidate that has announced the battle announce it. -/
theorem Follows.announces {roomId : String} {lines : List RoomLine}
    (h : Follows roomId lines candidate) (hclean : candidate.metadataError = none)
    (hannounced : Announced p1 p2 candidate) :
    Announces roomId (announcement p1 p2) lines := by
  rw [← h.roomId, ← h.lines]
  exact (h.tracks hclean).announces hannounced.initialized hannounced.hasOnRecord

end Rooms

/-! ## §4 The loop -/

section Loop

variable [Python.UnicodeDatabase] [JsonDecoder]
variable {coordinator : BattleCoordinator} {connection : BattleConnection}
  {reader : ChallengeStateReader} {past : List RoomLine} {state after : DiscoveryState}
  {halted : Halted} {line : RoomLine}

/-- Every room that the lines tell of is excluded. -/
def Excludes (past : List RoomLine) (state : DiscoveryState) : Prop :=
  ∀ roomId ∈ past.flatMap mentionedRooms, roomId ∈ state.excludedRoomIds

/-- The state before the answer to the `userdetails` query. -/
structure Before (coordinator : BattleCoordinator) (past : List RoomLine)
    (state : DiscoveryState) : Prop where
  noResponse : ∀ line ∈ past, isUserDetails line = false
  excludes : Excludes past state
  latest : ∀ snapshot, state.latestSearchSnapshot = some snapshot → snapshot.searching = [] →
    ∃ search, LastSearch past search ∧ SaysIdle search.payload
  noCandidates : state.candidates = []
  sent : state.sent = coordinator.setupCommands.take 1

/-- The state after the answer: every room that was not told of before has a candidate with its
lines since then. -/
structure After (coordinator : BattleCoordinator) (past : List RoomLine)
    (state : DiscoveryState) : Prop where
  intro ::
  split : ∃ before barrier since, past = before ++ barrier :: since ∧
    Barrier coordinator.ourUserId before barrier ∧ Excludes (before ++ [barrier]) state ∧
    ∀ roomId ∉ state.excludedRoomIds,
      Follows roomId (since.filter (isOf roomId)) (state.candidateOf roomId)
  sent : state.sent = coordinator.setupCommands.reverse

/-- The invariant of the loop. -/
structure Discovers (coordinator : BattleCoordinator) (past : List RoomLine)
    (state : DiscoveryState) : Prop where
  before : state.bootstrapComplete = false → Before coordinator past state
  after : state.bootstrapComplete = true → After coordinator past state

omit [Python.UnicodeDatabase] in
theorem Excludes.concat (h : Excludes past state)
    (hkeep : ∀ roomId ∈ state.excludedRoomIds, roomId ∈ after.excludedRoomIds)
    (hline : ∀ roomId ∈ mentionedRooms line, roomId ∈ after.excludedRoomIds) :
    Excludes (past ++ [line]) after := by
  intro roomId hmem
  rw [List.flatMap_append, List.mem_append] at hmem
  rcases hmem with hpast | hlast
  · exact hkeep roomId (h roomId hpast)
  · exact hline roomId (by simpa using hlast)

omit [Python.UnicodeDatabase] [JsonDecoder] in
theorem LastSearch.concat {search : RoomLine} (h : LastSearch past search)
    (hline : isUpdateSearch line = false) : LastSearch (past ++ [line]) search := by
  have hnone : [line].filter isUpdateSearch = [] := by simp [hline]
  rw [LastSearch, List.filter_append, hnone, List.append_nil]
  exact h

omit [Python.UnicodeDatabase] [JsonDecoder] in
theorem lastSearch_concat (h : isUpdateSearch line = true) : LastSearch (past ++ [line]) line := by
  rw [LastSearch, List.filter_append, List.filter_cons_of_pos h]
  simp

omit [Python.UnicodeDatabase] [JsonDecoder] in
theorem noResponse_concat (h : ∀ line ∈ past, isUserDetails line = false)
    (hline : isUserDetails line = false) : ∀ other ∈ past ++ [line], isUserDetails other = false := by
  intro other hother
  rcases List.mem_append.mp hother with hother | hother
  · exact h other hother
  · rw [List.mem_singleton.mp hother]
    exact hline

omit [Python.UnicodeDatabase] in
theorem mentionedRooms_of_isUserDetails (h : isUserDetails line = true) :
    mentionedRooms line = roomsOf line.payload := by
  have hglobal : line.roomId = none := by
    simp only [isUserDetails, Bool.and_eq_true, Option.isNone_iff_eq_none] at h
    exact h.1
  have hsearch : isUpdateSearch line = false := by
    by_contra hsearch
    rw [isUserDetails_of_isUpdateSearch (by simpa using hsearch)] at h
    cases h
  rw [mentionedRooms, hglobal]
  simp only [hsearch, h, Bool.false_eq_true, if_false, if_true]

omit [Python.UnicodeDatabase] [JsonDecoder] in
theorem candidateOf_congr (h : after.candidates = state.candidates) (roomId : String) :
    after.candidateOf roomId = state.candidateOf roomId := by
  rw [DiscoveryState.candidateOf, h]
  rfl

omit [Python.UnicodeDatabase] in
/-- A line before the answer that leaves the latest snapshot in place. -/
theorem Before.concat (h : Before coordinator past state)
    (hsearch : isUpdateSearch line = false) (hresponse : isUserDetails line = false)
    (hrooms : ∀ roomId ∈ mentionedRooms line, roomId ∈ after.excludedRoomIds)
    (hexcluded : ∀ roomId ∈ state.excludedRoomIds, roomId ∈ after.excludedRoomIds)
    (hlatest : after.latestSearchSnapshot = state.latestSearchSnapshot)
    (hcandidates : after.candidates = state.candidates) (hsent : after.sent = state.sent) :
    Before coordinator (past ++ [line]) after where
  noResponse := noResponse_concat h.noResponse hresponse
  excludes := h.excludes.concat hexcluded hrooms
  latest snapshot hsnapshot hidle := by
    obtain ⟨search, hlast, hsays⟩ := h.latest snapshot (hlatest ▸ hsnapshot) hidle
    exact ⟨search, hlast.concat hsearch, hsays⟩
  noCandidates := hcandidates.trans h.noCandidates
  sent := hsent.trans h.sent

/-- A line after the answer, by what it makes of the candidate of each room. -/
theorem After.concat (h : After coordinator past state)
    (hexcluded : after.excludedRoomIds = state.excludedRoomIds) (hsent : after.sent = state.sent)
    (hcandidates : ∀ roomId lines, roomId ∉ state.excludedRoomIds →
      Follows roomId lines (state.candidateOf roomId) →
      Follows roomId (lines ++ [line].filter (isOf roomId)) (after.candidateOf roomId)) :
    After coordinator (past ++ [line]) after := by
  obtain ⟨⟨before, barrier, since, hpast, hbarrier, hbefore, hsince⟩, hcommands⟩ := h
  refine ⟨⟨before, barrier, since ++ [line], by simp [hpast], hbarrier, ?_, ?_⟩, hsent.trans hcommands⟩
  · intro roomId hmem
    rw [hexcluded]
    exact hbefore roomId hmem
  · intro roomId hnew
    rw [hexcluded] at hnew
    rw [List.filter_append]
    exact hcandidates roomId _ hnew (hsince roomId hnew)

/-- Every line that the loop goes on after keeps the invariant. -/
theorem Discovers.advance (h : Discovers coordinator past state)
    (hadvance : Advances coordinator state line after) :
    Discovers coordinator (past ++ [line]) after := by
  cases hadvance with
  | quiet hglobal hplain hkeeps =>
    constructor
    · intro hwaiting
      rw [hkeeps.bootstrapComplete] at hwaiting
      obtain ⟨hsearch, hresponse⟩ := hplain hwaiting
      refine (h.before hwaiting).concat hsearch hresponse ?_ ?_ hkeeps.latestSearchSnapshot
        hkeeps.candidates hkeeps.sent
      · simp [mentionedRooms, hglobal, hsearch, hresponse]
      · rw [hkeeps.excludedRoomIds]
        exact fun _ => id
    · intro hcomplete
      rw [hkeeps.bootstrapComplete] at hcomplete
      refine (h.after hcomplete).concat hkeeps.excludedRoomIds hkeeps.sent ?_
      intro roomId lines _ hfollows
      have hother : isOf roomId line = false := by simp [isOf, hglobal]
      rw [candidateOf_congr hkeeps.candidates]
      simpa [hother] using hfollows
  | search snapshot hwaiting hsearch hidle hafter =>
    obtain ⟨hcandidates, hbootstrap, hlatest, hexcluded, hsent⟩ := hafter
    have hbefore := h.before hwaiting
    refine ⟨fun _ => ⟨?_, ?_, ?_, hcandidates.trans hbefore.noCandidates,
      hsent.trans hbefore.sent⟩, fun hcomplete => ?_⟩
    · exact noResponse_concat hbefore.noResponse (isUserDetails_of_isUpdateSearch hsearch)
    · refine hbefore.excludes.concat ?_ ?_
      · intro roomId hmem
        rw [hexcluded]
        exact List.mem_append_right _ hmem
      · intro roomId hmem
        have hglobal : line.roomId = none := by
          simp only [isUpdateSearch, Bool.and_eq_true, Option.isNone_iff_eq_none] at hsearch
          exact hsearch.1
        rw [mentionedRooms, hglobal] at hmem
        simp only [hsearch, if_true] at hmem
        rw [hexcluded]
        exact List.mem_append_left _ hmem
    · intro other hother hnone
      rw [hlatest] at hother
      cases hother
      exact ⟨line, lastSearch_concat hsearch, hidle hnone⟩
    · rw [hbootstrap] at hcomplete
      exact absurd (hwaiting.symm.trans hcomplete) Bool.false_ne_true
  | answer hanswered hafter =>
    obtain ⟨hcandidates, hbootstrap, _, hexcluded, hsent⟩ := hafter
    obtain ⟨hwaiting, hresponse, hours, snapshot, hlatest, hidle⟩ := hanswered
    have hbefore := h.before hwaiting
    refine ⟨fun hwaiting => ?_, fun _ => ⟨⟨past, line, [], rfl, ?_, ?_, ?_⟩, ?_⟩⟩
    · rw [hbootstrap] at hwaiting
      cases hwaiting
    · exact ⟨hresponse, hbefore.noResponse, hours, hbefore.latest snapshot hlatest hidle⟩
    · refine hbefore.excludes.concat ?_ ?_
      · intro roomId hmem
        rw [hexcluded]
        exact List.mem_append_right _ hmem
      · intro roomId hmem
        rw [hexcluded]
        exact List.mem_append_left _ (mentionedRooms_of_isUserDetails hresponse ▸ hmem)
    · intro roomId _
      have hnone : after.candidates = [] := hcandidates.trans hbefore.noCandidates
      rw [DiscoveryState.candidateOf, hnone]
      exact follows_new roomId
    · rw [hsent, hbefore.sent]
      rfl
  | early roomId hwaiting hroom hafter =>
    obtain ⟨hcandidates, hbootstrap, hlatest, hexcluded, hsent⟩ := hafter
    refine ⟨fun _ => ?_, fun hcomplete => ?_⟩
    · refine (h.before hwaiting).concat (by simp [isUpdateSearch, hroom])
        (by simp [isUserDetails, hroom]) ?_ ?_ hlatest hcandidates hsent
      · rw [hexcluded, mentionedRooms, hroom]
        exact fun _ => List.mem_append_left _
      · rw [hexcluded]
        exact fun _ => List.mem_append_right _
    · rw [hbootstrap] at hcomplete
      exact absurd (hwaiting.symm.trans hcomplete) Bool.false_ne_true
  | excluded roomId hcomplete hroom hmem hkeeps =>
    refine ⟨fun hwaiting => ?_, fun _ => ?_⟩
    · rw [hkeeps.bootstrapComplete] at hwaiting
      exact absurd (hwaiting.symm.trans hcomplete) Bool.false_ne_true
    · refine (h.after hcomplete).concat hkeeps.excludedRoomIds hkeeps.sent ?_
      intro other lines hnew hfollows
      have hother : isOf other line = false := by
        have hne : roomId ≠ other := fun heq => hnew (heq ▸ hmem)
        simp [isOf, hroom, hne]
      rw [candidateOf_congr hkeeps.candidates]
      simpa [hother] using hfollows
  | candidate roomId candidate hcomplete hroom hnew htake hafter =>
    obtain ⟨hcandidates, hbootstrap, _, hexcluded, hsent⟩ := hafter
    refine ⟨fun hwaiting => ?_, fun _ => ?_⟩
    · rw [hbootstrap] at hwaiting
      exact absurd (hwaiting.symm.trans hcomplete) Bool.false_ne_true
    · refine (h.after hcomplete).concat hexcluded hsent ?_
      intro other lines _ hfollows
      rw [DiscoveryState.candidateOf, hcandidates, Python.Dict.get?_assign]
      by_cases hother : other = roomId
      · subst hother
        have hours : isOf other line = true := by simp [isOf, hroom]
        rw [if_pos rfl, List.filter_cons_of_pos hours]
        exact hfollows.observe (takeLine_ok htake).1
      · have hno : [line].filter (isOf other) = [] := by simp [isOf, hroom, Ne.symm hother]
        rw [if_neg hother, hno, List.append_nil]
        exact hfollows

/-- The loop reads lines that it goes on after, up to a line that ends it or to the last one. -/
theorem discoverLines_run (coordinator : BattleCoordinator) (connection : BattleConnection)
    (reader : ChallengeStateReader) (state : DiscoveryState) (lines : List RoomLine) :
    (∃ final, RunsTo (coordinator.readLine connection reader) state lines final ∧
      (∃ error, coordinator.discoverLines connection reader state lines =
        ⟨⟨.raised error, final⟩, []⟩)) ∨
    ∃ read line final halted, lines = read ++ line ::
        (coordinator.discoverLines connection reader state lines).rest ∧
      RunsTo (coordinator.readLine connection reader) state read final ∧
      coordinator.readLine connection reader final line = .error halted ∧
      (coordinator.discoverLines connection reader state lines).halted = halted := by
  induction lines generalizing state with
  | nil =>
    refine .inl ⟨state, runs_nil.mpr rfl, ?_⟩
    unfold BattleCoordinator.discoverLines
    split
    · split_ifs
      · exact ⟨_, rfl⟩
      · exact ⟨_, rfl⟩
    · exact ⟨_, rfl⟩
  | cons line rest ih =>
    unfold BattleCoordinator.discoverLines
    cases hline : coordinator.readLine connection reader state line with
    | error halted => exact .inr ⟨[], line, state, halted, rfl, runs_nil.mpr rfl, hline, rfl⟩
    | ok next =>
      rcases ih next with ⟨final, hrun, hend⟩ | ⟨read, last, final, halted, hrest, hrun, hlast⟩
      · exact .inl ⟨final, runs_cons.mpr ⟨next, hline, hrun⟩, hend⟩
      · refine .inr ⟨line :: read, last, final, halted, ?_, runs_cons.mpr ⟨next, hline, hrun⟩, hlast⟩
        exact congrArg (line :: ·) hrest

/-- The loop keeps its invariant over every run. -/
theorem discovers_of_runs (hstart : Discovers coordinator [] state)
    (hrun : RunsTo (coordinator.readLine connection reader) state past after) :
    Discovers coordinator past after := by
  refine invariant_history (I := Discovers coordinator) hstart ?_ hrun
  intro past state line after hinv hline
  exact hinv.advance ((readLine_outcome reader).of_ok hline)

/-- The commands that are sent while lines are read: in the order of the setup, and from the
second one on only after the bootstrap barrier. -/
structure CommandsInOrder (coordinator : BattleCoordinator) (lines : List RoomLine)
    (sent : List String) : Prop where
  order : sent.reverse <+: coordinator.setupCommands
  barred : 1 < sent.length → ∃ before barrier since, lines = before ++ barrier :: since ∧
    Barrier coordinator.ourUserId before barrier

theorem Discovers.commands (h : Discovers coordinator past state) :
    CommandsInOrder coordinator past state.sent := by
  cases hcomplete : state.bootstrapComplete with
  | false =>
    have hsent := (h.before hcomplete).sent
    refine ⟨?_, fun hlong => ?_⟩
    · rw [hsent]
      exact List.take_prefix 1 coordinator.setupCommands
    · rw [hsent] at hlong
      exact absurd hlong (Nat.lt_irrefl 1)
  | true =>
    obtain ⟨⟨before, barrier, since, hpast, hbarrier, _⟩, hsent⟩ := h.after hcomplete
    have hall : state.sent.reverse = coordinator.setupCommands := by
      rw [hsent, List.reverse_reverse]
    exact ⟨hall ▸ List.prefix_rfl, fun _ => ⟨before, barrier, since, hpast, hbarrier⟩⟩

omit [Python.UnicodeDatabase] in
theorem CommandsInOrder.append {lines : List RoomLine} {sent : List String}
    (h : CommandsInOrder coordinator lines sent) (later : List RoomLine) :
    CommandsInOrder coordinator (lines ++ later) sent := by
  refine ⟨h.order, fun hlong => ?_⟩
  obtain ⟨before, barrier, since, hlines, hbarrier⟩ := h.barred hlong
  exact ⟨before, barrier, since ++ later, by simp [hlines], hbarrier⟩

/-- The line that ends the loop may be the barrier, and the commands may fail. -/
theorem Discovers.commands_of_halts (h : Discovers coordinator past state)
    (hhalts : Halts coordinator state line halted) :
    CommandsInOrder coordinator (past ++ [line]) halted.state.sent := by
  cases hhalts with
  | raised error _ hsent =>
    rw [hsent]
    exact h.commands.append [line]
  | returned _ _ _ _ _ _ _ _ hsent =>
    rw [hsent]
    exact h.commands.append [line]
  | answer error _ hanswered hsent =>
    obtain ⟨sent, hprefix, hsent⟩ := hsent
    obtain ⟨hwaiting, hresponse, hours, snapshot, hlatest, hidle⟩ := hanswered
    have hbefore := h.before hwaiting
    refine ⟨?_, fun _ => ⟨past, line, [], rfl, ?_⟩⟩
    · rw [hsent, hbefore.sent, List.reverse_append, List.reverse_reverse]
      exact List.cons_prefix_cons.mpr ⟨rfl, hprefix⟩
    · exact ⟨hresponse, hbefore.noResponse, hours, hbefore.latest snapshot hlatest hidle⟩

/-- A candidate that is the room of the challenge, found among the lines. -/
structure Found (coordinator : BattleCoordinator) (lines : List RoomLine)
    (candidate : RoomCandidate) (before : List RoomLine) (barrier : RoomLine)
    (since : List RoomLine) (p1 p2 : String) : Prop where
  split : lines = before ++ barrier :: since
  isBarrier : Barrier coordinator.ourUserId before barrier
  isNew : candidate.roomId ∉ (before ++ [barrier]).flatMap mentionedRooms
  follows : Follows candidate.roomId (since.filter (isOf candidate.roomId)) candidate
  clean : candidate.metadataError = none
  pair : coordinator.hasExactPlayerPair candidate = true
  opponents : coordinator.Opponents p1 p2
  announced : Announced p1 p2 candidate

/-- What the line that ends the loop returns is the room of the challenge. -/
theorem Discovers.found (h : Discovers coordinator past state)
    (hhalts : Halts coordinator state line halted) {candidate : RoomCandidate}
    (houtcome : halted.outcome = .returned candidate) :
    ∃ before barrier since p1 p2,
      Found coordinator (past ++ [line]) candidate before barrier since p1 p2 := by
  cases hhalts with
  | raised error herror _ => cases herror.symm.trans houtcome
  | answer error herror _ _ => cases herror.symm.trans houtcome
  | returned roomId found hfound hcomplete hroom hnew htake hmatch _ =>
    cases hfound.symm.trans houtcome
    obtain ⟨⟨before, barrier, since, hpast, hbarrier, hexcludes, hsince⟩, _⟩ := h.after hcomplete
    have hours : isOf roomId line = true := by simp [isOf, hroom]
    have hfollows := (hsince roomId hnew).observe (takeLine_ok htake).1
    obtain ⟨hclean, hpair, p1, p2, hopponents, hannounced⟩ :=
      announced_of_matching (hsince roomId hnew) htake hmatch
    have hfilter : (since ++ [line]).filter (isOf roomId) = since.filter (isOf roomId) ++ [line] := by
      rw [List.filter_append, List.filter_cons_of_pos hours, List.filter_nil]
    refine ⟨before, barrier, since ++ [line], p1, p2, by simp [hpast], hbarrier, ?_, ?_, hclean,
      hpair, hopponents, hannounced⟩
    · rw [hfollows.roomId]
      exact fun hmem => hnew (hexcludes roomId hmem)
    · rw [hfollows.roomId, hfilter]
      exact hfollows

/-- What discovery has read: the commands are in order, and a room that is returned is found
among the lines. -/
structure Discovered (coordinator : BattleCoordinator) (read : List RoomLine)
    (halted : Halted) : Prop where
  commands : CommandsInOrder coordinator read halted.state.sent
  found : ∀ candidate, halted.outcome = .returned candidate →
    ∃ before barrier since p1 p2, Found coordinator read candidate before barrier since p1 p2

theorem discover_discovered (coordinator : BattleCoordinator) (connection : BattleConnection) :
    ∃ read, connection.lines = read ++ (coordinator.discover connection).rest ∧
      Discovered coordinator read (coordinator.discover connection).halted := by
  unfold BattleCoordinator.discover
  cases ChallengeStateReader.create coordinator.ourUserId coordinator.opponentUserId "gen9ou" with
  | error error => exact ⟨[], rfl, ⟨List.nil_prefix, nofun⟩, nofun⟩
  | ok reader =>
    have hstart := sendGlobal_satisfies connection DiscoveryState.initial
      s!"|/cmd userdetails {coordinator.ourUserId}"
    simp only
    split
    · rename_i halted hsend
      obtain ⟨⟨error, houtcome⟩, hstate⟩ := hstart.of_error hsend
      refine ⟨[], rfl, ⟨?_, ?_⟩, fun candidate hcandidate => ?_⟩
      · rw [hstate]
        exact List.take_prefix 1 coordinator.setupCommands
      · rw [hstate]
        exact fun hlong => absurd hlong (Nat.lt_irrefl 1)
      · cases houtcome.symm.trans hcandidate
    · rename_i state hsend
      have hstate := hstart.of_ok hsend
      have hinitial : Discovers coordinator [] state := by
        rw [hstate]
        refine ⟨fun _ => ⟨nofun, ?_, nofun, rfl, rfl⟩, nofun⟩
        intro roomId hmem
        cases hmem
      rcases discoverLines_run coordinator connection reader state connection.lines with
        ⟨final, hrun, error, hend⟩ | ⟨past, line, final, halted, hlines, hrun, hlast, hend⟩
      · rw [hend]
        exact ⟨connection.lines, (List.append_nil _).symm,
          (discovers_of_runs hinitial hrun).commands, nofun⟩
      · have hpast := discovers_of_runs hinitial hrun
        have hhalts := (readLine_outcome reader).of_error hlast
        refine ⟨past ++ [line], by simpa using hlines, ?_, fun candidate hcandidate => ?_⟩
        · rw [hend]
          exact hpast.commands_of_halts hhalts
        · rw [hend] at hcandidate
          exact hpast.found hhalts hcandidate

end Loop

/-! ## §5 Soundness -/

section Soundness

variable [Python.UnicodeDatabase] [JsonDecoder]

/-- The room of a candidate is one that nothing tells of up to the bootstrap barrier, the candidate
has the lines of the room since then, and they announce the battle of the challenge. -/
structure FoundAfter (coordinator : BattleCoordinator) (lines : List RoomLine)
    (candidate : RoomCandidate) (before : List RoomLine) (barrier : RoomLine)
    (since : List RoomLine) : Prop where
  split : lines = before ++ barrier :: since
  isBarrier : Barrier coordinator.ourUserId before barrier
  isNew : candidate.roomId ∉ (before ++ [barrier]).flatMap mentionedRooms
  lines_eq : candidate.lines = since.filter (isOf candidate.roomId)
  announces : ∃ p1 p2, coordinator.Opponents p1 p2 ∧
    Announces candidate.roomId (announcement p1 p2) candidate.lines

theorem Found.foundAfter {coordinator : BattleCoordinator} {lines before since : List RoomLine}
    {candidate : RoomCandidate} {barrier : RoomLine} {p1 p2 : String}
    (h : Found coordinator lines candidate before barrier since p1 p2) :
    FoundAfter coordinator lines candidate before barrier since where
  split := h.split
  isBarrier := h.isBarrier
  isNew := h.isNew
  lines_eq := h.follows.lines
  announces := by
    refine ⟨p1, p2, h.opponents, ?_⟩
    rw [h.follows.lines]
    exact h.follows.announces h.clean h.announced

/-- For every stream of lines: the room that discovery returns is mentioned nowhere up to the
bootstrap barrier, its candidate has exactly its lines since then, and they announce the battle of
the challenge. Team and challenge are sent in this order, at most once each, and only after a
barrier with an empty search list. -/
theorem discovery_sound (coordinator : BattleCoordinator) (connection : BattleConnection) :
    ∃ read, connection.lines = read ++ (coordinator.discover connection).rest ∧
      CommandsInOrder coordinator read (coordinator.discover connection).halted.state.sent ∧
      ∀ candidate, (coordinator.discover connection).halted.outcome = .returned candidate →
        ∃ before barrier since, FoundAfter coordinator read candidate before barrier since := by
  obtain ⟨read, hread, hcommands, hfound⟩ := discover_discovered coordinator connection
  refine ⟨read, hread, hcommands, fun candidate hcandidate => ?_⟩
  obtain ⟨before, barrier, since, p1, p2, h⟩ := hfound candidate hcandidate
  exact ⟨before, barrier, since, h.foundAfter⟩

end Soundness

/-! ## §6 A challenge -/

/-- A snapshot of an account that has no search and watches one battle. -/
def idleText : String :=
  "\x7b\"searching\":[],\"games\":\x7b\"battle-gen9ou-7\":\"Old battle\"\x7d\x7d"

/-- The answer to the `userdetails` query, in a room with a rank. -/
def detailsText : String :=
  "\x7b\"userid\":\"ash\",\"rooms\":\x7b\"@lobby\":\x7b\x7d\x7d\x7d"

/-- A decoder that knows these two texts. -/
@[reducible] def accountDecoder : JsonDecoder where
  loads text :=
    if text = idleText then
      .ok (.obj [("searching", .arr []), ("games", .obj [("battle-gen9ou-7", .str "Old battle")])])
    else if text = detailsText then
      .ok (.obj [("userid", .str "ash"), ("rooms", .obj [("@lobby", .obj [])])])
    else .error (.decodeError "Expecting value: line 1 column 1 (char 0)")

def ashCoordinator : BattleCoordinator where
  ourUserId := "ash"
  opponentDisplay := "Misty"
  opponentUserId := "misty"
  team := ⟨⟨"", 1⟩, "Garchomp|||roughskin|earthquake|||||||"⟩
  policy := none

def oldRoomLine (payload : String) : RoomLine := ⟨some "battle-gen9ou-7", payload⟩

def newRoomLine (payload : String) : RoomLine := ⟨some "battle-gen9ou-8", payload⟩

def globalLine (payload : String) : RoomLine := ⟨none, payload⟩

/-- The lines that announce the battle. -/
def announcementLines : List RoomLine :=
  ["|init|battle", "|player|p1|Misty|1|", "|player|p2|Ash|1|", "|gametype|singles", "|gen|9",
    "|tier|[Gen 9] OU"].map newRoomLine

/-- Lines of the account, of a battle that it watches, and of the battle of its challenge. -/
def challengeLines : List RoomLine :=
  [globalLine ("|updatesearch|" ++ idleText), oldRoomLine "|init|battle",
      globalLine ("|queryresponse|userdetails|" ++ detailsText)]
    ++ announcementLines.take 3
    ++ [oldRoomLine "|gen|9", globalLine "|usercount|2"]
    ++ announcementLines.drop 3
    ++ [newRoomLine "|start"]

/-- A connection that yields some lines and takes every command. -/
def yielding (lines : List RoomLine) : BattleConnection where
  connect := .ok ()
  lines := lines
  ending := none
  sendGlobal _ _ := .ok ()
  sendRoom _ _ := .ok ()
  close := .ok ()
  expires _ := false

/-- The room of the challenge, at the line that completes its announcement. -/
def challengeRoom : RoomCandidate where
  roomId := "battle-gen9ou-8"
  lines := announcementLines
  battleInitialized := true
  players := [("p1", "misty"), ("p2", "ash")]
  gameType := some "singles"
  generation := some 9
  tier := some "[Gen 9] OU"
  metadataError := none

theorem challengeRoom_found :
    letI := Python.asciiDatabase
    letI := accountDecoder
    ∃ read before barrier since, FoundAfter ashCoordinator read challengeRoom before barrier since := by
  let _ := Python.asciiDatabase
  let _ := accountDecoder
  have hreturned : (ashCoordinator.discover (yielding challengeLines)).halted.outcome =
      .returned challengeRoom := by decide +kernel
  obtain ⟨read, _, _, hfound⟩ := discovery_sound ashCoordinator (yielding challengeLines)
  exact ⟨read, hfound challengeRoom hreturned⟩

end BattleBelief
