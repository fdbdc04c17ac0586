import BattleBelief.Client.Connection
import BattleBelief.Session.RequestBeforeSwitch
import BattleBelief.Setup.Discovery

/-!
# The Handoff to the Session

The lines of the room pass from the socket through the queue of authentication, the stream of
lines, the candidate of discovery and the connection of the session. Nothing is lost on the way,
nothing comes twice, and a line that discovery has not seen is checked before the session reads it.

## Main results

- `handoff_complete`: the session reads the lines of its room after the bootstrap barrier
-/

namespace BattleBelief

open Python (Dict.get? Dict.keys)
open Runs

/-! ## §1 Lines about the login -/

theorem not_isUpdateSearch_of_isLoginLine {line : RoomLine} (h : isLoginLine line = true) :
    isUpdateSearch line = false ∧ isUserDetails line = false := by
  have hpayload : (loginControlKind line.payload).isSome = true := by
    simp only [isLoginLine, Bool.and_eq_true] at h
    exact h.2
  have hstart : ∀ start, Python.startsWith line.payload start = true →
      start.toList.length ≤ updateSearchPrefix.toList.length →
      start.toList.isPrefixOf updateSearchPrefix.toList = false →
      start.toList.isPrefixOf userDetailsPrefix.toList = false →
      isUpdateSearch line = false ∧ isUserDetails line = false := by
    intro start hstarts hlength hsearch hdetails
    have hshort : updateSearchPrefix.toList.length ≤ userDetailsPrefix.toList.length := by decide
    have hnoSearch := Python.not_startsWith hstarts hlength hsearch
    have hnoDetails := Python.not_startsWith hstarts (hlength.trans hshort) hdetails
    simp [isUpdateSearch, isUserDetails, hnoSearch, hnoDetails]
  unfold loginControlKind at hpayload
  split_ifs at hpayload with hchallstr hupdateuser hnametaken
  · exact hstart _ hchallstr (by decide) (by decide) (by decide)
  · exact hstart _ hupdateuser (by decide) (by decide) (by decide)
  · rw [Bool.or_eq_true] at hnametaken
    rcases hnametaken with hstarts | heq
    · exact hstart _ hstarts (by decide) (by decide) (by decide)
    · have hpayload : line.payload = "|nametaken" := by simpa using heq
      refine hstart "|nametaken" ?_ (by decide) (by decide) (by decide)
      rw [hpayload]
      decide
  · cases hpayload

/-- A line that the barrier looks at. -/
def isAccountLine (line : RoomLine) : Bool := isUpdateSearch line || isUserDetails line

theorem filter_nonLoginLines {p : RoomLine → Bool}
    (hp : ∀ line, isLoginLine line = true → p line = false) (lines : List RoomLine) :
    (nonLoginLines lines).filter p = lines.filter p := by
  rw [nonLoginLines, List.filter_filter]
  refine List.filter_congr fun line _ => ?_
  cases hlogin : isLoginLine line with
  | true => simp [hp line hlogin]
  | false => simp

theorem filter_isOf_nonLoginLines (roomId : String) (lines : List RoomLine) :
    (nonLoginLines lines).filter (isOf roomId) = lines.filter (isOf roomId) := by
  refine filter_nonLoginLines (fun line hlogin => ?_) lines
  simp only [isLoginLine, Bool.and_eq_true, Option.isNone_iff_eq_none] at hlogin
  simp [isOf, hlogin.1]

theorem filter_account_nonLoginLines (lines : List RoomLine) :
    (nonLoginLines lines).filter isAccountLine = lines.filter isAccountLine := by
  refine filter_nonLoginLines (fun line hlogin => ?_) lines
  obtain ⟨hsearch, hdetails⟩ := not_isUpdateSearch_of_isLoginLine hlogin
  simp [isAccountLine, hsearch, hdetails]

section Barriers

variable [JsonDecoder] {ourUserId : String}

/-- Whether a line is the barrier depends on the lines about the account before it. -/
theorem barrier_congr {before other : List RoomLine} {barrier : RoomLine}
    (h : before.filter isAccountLine = other.filter isAccountLine)
    (hbarrier : Barrier ourUserId before barrier) : Barrier ourUserId other barrier where
  response := hbarrier.response
  first line hline := by
    by_contra hdetails
    rw [Bool.not_eq_false] at hdetails
    have hmem : line ∈ other.filter isAccountLine :=
      List.mem_filter.mpr ⟨hline, by simp [isAccountLine, hdetails]⟩
    rw [← h] at hmem
    rw [hbarrier.first line (List.mem_filter.mp hmem).1] at hdetails
    cases hdetails
  ours := hbarrier.ours
  idle := by
    have hsearches (lines : List RoomLine) : lines.filter isUpdateSearch =
        (lines.filter isAccountLine).filter isUpdateSearch := by
      rw [List.filter_filter]
      refine List.filter_congr fun line _ => ?_
      cases hsearch : isUpdateSearch line <;> simp [isAccountLine, hsearch]
    obtain ⟨search, hlast, hidle⟩ := hbarrier.idle
    refine ⟨search, ?_, hidle⟩
    rw [LastSearch, hsearches, ← h, ← hsearches]
    exact hlast

/-- The barrier and what follows it in a stream that leaves out lines about the login. -/
theorem exists_barrier {early late before since : List RoomLine} {barrier : RoomLine}
    (hlines : nonLoginLines early ++ late = before ++ barrier :: since)
    (hbarrier : Barrier ourUserId before barrier) (roomId : String) :
    ∃ before' since', early ++ late = before' ++ barrier :: since' ∧
      Barrier ourUserId before' barrier ∧ since'.filter (isOf roomId) = since.filter (isOf roomId) := by
  have hlate (between : List RoomLine) (hbefore : before = nonLoginLines early ++ between)
      (hrest : late = between ++ barrier :: since) :
      ∃ before' since', early ++ late = before' ++ barrier :: since' ∧
        Barrier ourUserId before' barrier ∧
        since'.filter (isOf roomId) = since.filter (isOf roomId) := by
    refine ⟨early ++ between, since, by rw [hrest, List.append_assoc], ?_, rfl⟩
    refine barrier_congr ?_ hbarrier
    rw [hbefore, List.filter_append, List.filter_append, filter_account_nonLoginLines]
  rcases List.append_eq_append_iff.mp hlines with ⟨between, hbefore, hrest⟩ | ⟨between, hearly, hrest⟩
  · exact hlate between hbefore hrest
  · cases between with
    | nil => exact hlate [] (by simpa using hearly.symm) (by simpa using hrest.symm)
    | cons first between =>
      -- the barrier is among the lines that authentication has read
      obtain ⟨rfl, hsince⟩ := List.cons.inj hrest
      have happ : since = between ++ late := hsince
      obtain ⟨start, rest, rfl, hstart, hrest⟩ := List.filter_eq_append_iff.mp hearly
      obtain ⟨skipped, last, rfl, hskipped, _, hlast⟩ := List.filter_eq_cons_iff.mp hrest
      refine ⟨start ++ skipped, last ++ late, by simp, barrier_congr ?_ hbarrier, ?_⟩
      · have hnone : nonLoginLines skipped = [] := List.filter_eq_nil_iff.mpr hskipped
        have hsame : nonLoginLines (start ++ skipped) = before := by
          rw [nonLoginLines_append, hnone, List.append_nil]
          exact hstart
        rw [← hsame, filter_account_nonLoginLines]
      · rw [happ, List.filter_append, List.filter_append, ← filter_isOf_nonLoginLines roomId last]
        exact congrArg (fun lines => lines.filter (isOf roomId) ++ late.filter (isOf roomId)) hlast

end Barriers

/-! ## §2 The lines that are handed over -/

section Handing

variable [Python.UnicodeDatabase]
variable {coordinator : BattleCoordinator} {connection : BattleConnection}
  {candidate after : RoomCandidate} {line : RoomLine} {p1 p2 : String}

theorem takeLine_roomId (h : coordinator.takeLine candidate line = .ok after) :
    after.roomId = candidate.roomId :=
  (RoomCandidate.observe_sameLines (takeLine_ok h).1).1

/-- The lines of the room are handed over, each once it is taken, up to one that is refused. -/
theorem handoffLines_run (coordinator : BattleCoordinator) (connection : BattleConnection)
    (candidate : RoomCandidate) (rest : List RoomLine) :
    ∃ known unseen, rest.filter (isOf candidate.roomId) =
        (coordinator.handoffLines connection candidate rest).1 ++ unseen ∧
      RunsTo coordinator.takeLine candidate
        (coordinator.handoffLines connection candidate rest).1 known ∧
      (unseen = [] ∨ ∃ line later error, unseen = line :: later ∧
        coordinator.takeLine known line = .error error) := by
  induction rest generalizing candidate with
  | nil => exact ⟨candidate, [], rfl, runs_nil.mpr rfl, .inl rfl⟩
  | cons line rest ih =>
    unfold BattleCoordinator.handoffLines
    by_cases hroom : line.roomId = some candidate.roomId
    · have hours : isOf candidate.roomId line = true := by simp [isOf, hroom]
      rw [if_pos hroom, List.filter_cons_of_pos hours]
      cases htake : coordinator.takeLine candidate line with
      | error error =>
        exact ⟨candidate, _, rfl, runs_nil.mpr rfl, .inr ⟨line, _, error, rfl, htake⟩⟩
      | ok next =>
        obtain ⟨known, unseen, hfilter, hrun, hunseen⟩ := ih next
        refine ⟨known, unseen, ?_, runs_cons.mpr ⟨next, htake, hrun⟩, hunseen⟩
        rw [← takeLine_roomId htake, hfilter]
        rfl
    · have hother : isOf candidate.roomId line = false := by simp [isOf, hroom]
      rw [if_neg hroom, List.filter_cons_of_neg (by simp [hother])]
      exact ih candidate

/-- A candidate that has announced the battle of the challenge, by lines that agree on it. -/
structure Ready (coordinator : BattleCoordinator) (roomId p1 p2 : String) (lines : List RoomLine)
    (candidate : RoomCandidate) : Prop where
  follows : Follows roomId lines candidate
  clean : candidate.metadataError = none
  pair : coordinator.hasExactPlayerPair candidate = true
  announced : Announced p1 p2 candidate

/-- Every line that is taken keeps the announcement as it is. -/
theorem Ready.take {roomId : String} {lines : List RoomLine}
    (h : Ready coordinator roomId p1 p2 lines candidate)
    (htake : coordinator.takeLine candidate line = .ok after) :
    Ready coordinator roomId p1 p2 (lines ++ [line]) after := by
  obtain ⟨hobserve, hchecked⟩ := takeLine_ok htake
  have hannounced := h.announced
  have hplayers : after.players = candidate.players := by
    refine RoomCandidate.observe_players (fun sideId hside => ?_) hobserve
    rw [hannounced.players sideId]
    simp only [List.mem_cons, List.not_mem_nil, or_false] at hside
    rcases hside with rfl | rfl
    · simp
    · simp
  have hpair : coordinator.hasExactPlayerPair after = true := by
    rw [BattleCoordinator.hasExactPlayerPair, hplayers]
    exact h.pair
  obtain ⟨hclean, hgame, hgeneration, htier⟩ := hchecked hpair
  refine ⟨h.follows.observe hobserve, hclean, hpair, ?_⟩
  have hsides (sideId : String) : Dict.get? after.players sideId =
      if sideId = "p1" then some p1 else if sideId = "p2" then some p2 else none := by
    rw [hplayers]
    exact hannounced.players sideId
  cases RoomCandidate.observe_observed hobserve hclean with
  | init _ _ hafter =>
    subst hafter
    exact ⟨rfl, hsides, hannounced.gameType, hannounced.generation, hannounced.tier⟩
  | plain _ _ hafter =>
    subst hafter
    exact ⟨hannounced.initialized, hsides, hannounced.gameType, hannounced.generation,
      hannounced.tier⟩
  | declared declaration _ _ _ hrecorded =>
    -- what was on record still is
    have hkept (other : Declaration) (hother : candidate.HasOnRecord other) :
        after.HasOnRecord other := (hrecorded.onRecord other).mpr (.inl hother)
    exact ⟨hrecorded.initialized.trans hannounced.initialized, hsides,
      hkept (.gameType "singles") hannounced.gameType, hkept (.generation 9) hannounced.generation,
      hkept (.tier "[Gen 9] OU") hannounced.tier⟩

/-- After every part of the lines that are taken, the lines so far announce the battle. -/
theorem Ready.announces_prefix {roomId : String} {lines taken : List RoomLine}
    {known : RoomCandidate} (h : Ready coordinator roomId p1 p2 lines candidate)
    (hrun : RunsTo coordinator.takeLine candidate taken known) {first : List RoomLine}
    (hfirst : first <+: taken) : Announces roomId (announcement p1 p2) (lines ++ first) := by
  obtain ⟨rest, rfl⟩ := hfirst
  obtain ⟨middle, hmiddle, _⟩ := runs_append.mp hrun
  have hready : Ready coordinator roomId p1 p2 (lines ++ first) middle := by
    refine invariant_history
      (I := fun past state => Ready coordinator roomId p1 p2 (lines ++ past) state) ?_ ?_ hmiddle
    · rw [List.append_nil]
      exact h
    · intro past state line next hstate htake
      rw [← List.append_assoc]
      exact hstate.take htake
  exact hready.follows.announces hready.clean hready.announced

end Handing

/-! ## §3 The lines that the session reads -/

section Session

variable [Python.UnicodeDatabase] [JsonDecoder] [Rfc8785]

/-- The lines that a session reads of those that are yielded: it stops once it is done. -/
def BattleSession.received (env : Environment) (session : BattleSession) :
    List RoomLine → List RoomLine
  | [] => []
  | line :: rest =>
      if session.done then [] else line :: received env (session.feed env line) rest

/-- What is not read comes after the end of the session, and changes nothing. -/
theorem received_spec (env : Environment) (session : BattleSession) (lines : List RoomLine) :
    ∃ unread, lines = session.received env lines ++ unread ∧
      (unread = [] ∨ (session.feedAll env (session.received env lines)).done = true) ∧
      session.feedAll env lines = session.feedAll env (session.received env lines) := by
  induction lines generalizing session with
  | nil => exact ⟨[], rfl, .inl rfl, rfl⟩
  | cons line rest ih =>
    rw [BattleSession.received]
    split_ifs with hdone
    · exact ⟨line :: rest, rfl, .inr hdone, feedAll_of_done env hdone (line :: rest)⟩
    · obtain ⟨unread, hrest, hend, hfeed⟩ := ih (session.feed env line)
      exact ⟨unread, congrArg (line :: ·) hrest, hend, hfeed⟩

/-- A run reads what it receives. -/
theorem run_received (env : Environment) (session : BattleSession) (lines : List RoomLine)
    (ending : Option PyException) :
    session.run env lines ending = session.run env (session.received env lines) ending := by
  obtain ⟨_, _, _, hfeed⟩ := received_spec env session lines
  simp only [BattleSession.run, hfeed]

/-- The connection over a socket that delivers `frames` and then raises `ending`. -/
def BattleConnection.overSocket (surroundings : BattleConnection) (client : Client)
    (frames : List Frame) (ending : PyException) : BattleConnection :=
  match surroundings.connect, authenticate client ending .initial frames with
  | .error error, _ | .ok (), .error error =>
      { surroundings with
        connect := .error error
        lines := []
        ending := some (.disconnect "Showdown connection is not authenticated") }
  | .ok (), .ok connected =>
      { surroundings with
        connect := .ok ()
        lines := (connected.lines ending).1
        ending := some (connected.lines ending).2 }

omit [Python.UnicodeDatabase] [JsonDecoder] [Rfc8785] in
theorem overSocket_connected {surroundings : BattleConnection} {client : Client}
    {frames : List Frame} {ending : PyException}
    (h : (surroundings.overSocket client frames ending).connect = .ok ()) :
    ∃ connected, authenticate client ending .initial frames = .ok connected ∧
      (surroundings.overSocket client frames ending).lines = (connected.lines ending).1 := by
  unfold BattleConnection.overSocket at h ⊢
  split at h
  · cases h
  · cases h
  · rename_i connected hopen hconnected
    exact ⟨connected, hconnected, rfl⟩

namespace BattleCoordinator

variable (coordinator : BattleCoordinator) (connection : BattleConnection)

/-- The session that a run starts. -/
def startSession : BattleSession := .initial (.initial coordinator.ourUserId)

/-- The lines that the session of a run reads. -/
def sessionLines (candidate : RoomCandidate) (rest : List RoomLine) : List RoomLine :=
  coordinator.startSession.received
    (coordinator.sessionEnvironment connection candidate.roomId)
    (candidate.lines ++ (coordinator.handoffLines connection candidate rest).1)

end BattleCoordinator

/-- The line after those that a session has read is refused by its check. -/
def RefusedNext (coordinator : BattleCoordinator) (candidate : RoomCandidate)
    (received unread : List RoomLine) : Prop :=
  ∃ handed known line later error, received = candidate.lines ++ handed ∧
    RunsTo coordinator.takeLine candidate handed known ∧ unread = line :: later ∧
    coordinator.takeLine known line = .error error

/-- Between the socket and the session nothing is lost and nothing comes twice: `decoded` has the
lines of all frames, and what the session reads is what the room has after the bootstrap barrier,
up to where the session stops. -/
structure CompleteHandoff (coordinator : BattleCoordinator) (connection : BattleConnection)
    (decoded : List RoomLine) (candidate : RoomCandidate) (received : List RoomLine) : Prop where
  complete : ∃ before barrier since unread, decoded = before ++ barrier :: since ∧
    Barrier coordinator.ourUserId before barrier ∧
    since.filter (isOf candidate.roomId) = received ++ unread ∧
    -- the session stops by itself, or by the refusal of the next line
    (unread = [] ∨
      (coordinator.startSession.feedAll
        (coordinator.sessionEnvironment connection candidate.roomId) received).done = true ∨
      RefusedNext coordinator candidate received unread)
  /-- A line that discovery has not seen comes with lines that announce the battle, itself one of
  them. -/
  validated : ∃ p1 p2, coordinator.Opponents p1 p2 ∧ ∀ first line,
    first ++ [line] <+: received → candidate.lines <+: first →
      Announces candidate.roomId (announcement p1 p2) (first ++ [line])

section Handoff

variable {coordinator : BattleCoordinator} {connection : BattleConnection}
  {candidate : RoomCandidate} {rest : List RoomLine}

/-- The room that was found, with the lines that are left: the session reads what is handed over. -/
theorem handoff_of_found (connection : BattleConnection) (rest : List RoomLine)
    {read before since : List RoomLine} {barrier : RoomLine} {p1 p2 : String}
    (h : Found coordinator read candidate before barrier since p1 p2) :
    ∃ unread, (since ++ rest).filter (isOf candidate.roomId) =
        coordinator.sessionLines connection candidate rest ++ unread ∧
      (unread = [] ∨
        (coordinator.startSession.feedAll
          (coordinator.sessionEnvironment connection candidate.roomId)
          (coordinator.sessionLines connection candidate rest)).done = true ∨
        RefusedNext coordinator candidate
          (coordinator.sessionLines connection candidate rest) unread) ∧
      ∀ first line, first ++ [line] <+: coordinator.sessionLines connection candidate rest →
        candidate.lines <+: first →
        Announces candidate.roomId (announcement p1 p2) (first ++ [line]) := by
  obtain ⟨known, unseen, hfilter, hrun, hunseen⟩ :=
    handoffLines_run coordinator connection candidate rest
  obtain ⟨unread, hyielded, hend, _⟩ := received_spec
    (coordinator.sessionEnvironment connection candidate.roomId) coordinator.startSession
    (candidate.lines ++ (coordinator.handoffLines connection candidate rest).1)
  have hsince : since.filter (isOf candidate.roomId) = candidate.lines := h.follows.lines.symm
  have hall : (since ++ rest).filter (isOf candidate.roomId) =
      coordinator.sessionLines connection candidate rest ++ (unread ++ unseen) := by
    rw [List.filter_append, hsince, hfilter, ← List.append_assoc, hyielded, List.append_assoc]
    rfl
  refine ⟨unread ++ unseen, hall, ?_, ?_⟩
  · rcases hend with rfl | hdone
    · rcases hunseen with rfl | ⟨line, later, error, rfl, htake⟩
      · exact .inl rfl
      · rw [List.append_nil] at hyielded
        exact .inr (.inr ⟨_, known, line, later, error, hyielded.symm, hrun, rfl, htake⟩)
    · exact .inr (.inl hdone)
  · intro first line hprefix hseen
    have hready : Ready coordinator candidate.roomId p1 p2 candidate.lines candidate :=
      ⟨hsince ▸ h.follows, h.clean, h.pair, h.announced⟩
    obtain ⟨new, rfl⟩ := hseen
    have hyields : candidate.lines ++ new ++ [line] <+:
        candidate.lines ++ (coordinator.handoffLines connection candidate rest).1 := by
      rw [hyielded]
      exact hprefix.trans (List.prefix_append _ _)
    rw [List.append_assoc] at hyields ⊢
    exact hready.announces_prefix hrun ((List.prefix_append_right_inj _).mp hyields)

theorem handoff_of_lines {decoded early late : List RoomLine} (hdecoded : decoded = early ++ late)
    (hlines : connection.lines = nonLoginLines early ++ late)
    (hfound : (coordinator.discover connection).halted.outcome = .returned candidate) :
    CompleteHandoff coordinator connection decoded candidate
      (coordinator.sessionLines connection candidate (coordinator.discover connection).rest) := by
  obtain ⟨read, hread, hdiscovered⟩ := discover_discovered coordinator connection
  generalize coordinator.discover connection = discovery at hread hdiscovered hfound
  obtain ⟨before, barrier, since, p1, p2, h⟩ := hdiscovered.found candidate hfound
  obtain ⟨unread, hcomplete, hstops, hvalidated⟩ :=
    handoff_of_found connection discovery.rest h
  have hsplit : nonLoginLines early ++ late = before ++ barrier :: (since ++ discovery.rest) := by
    rw [← hlines, hread, h.split, List.append_assoc, List.cons_append]
  obtain ⟨before', since', hall, hbarrier, hsame⟩ :=
    exists_barrier hsplit h.isBarrier candidate.roomId
  exact ⟨⟨before', barrier, since', unread, hdecoded.trans hall, hbarrier, hsame.trans hcomplete,
    hstops⟩, p1, p2, h.opponents, hvalidated⟩

/-- A run hands the lines to its session, and to nothing else. -/
theorem run_of_found (hconnect : connection.connect = .ok ())
    (hfound : (coordinator.discover connection).halted.outcome = .returned candidate) :
    ∃ stop, coordinator.run connection = BattleCoordinator.closing connection
      (.ok (BattleCoordinator.requireTerminal (coordinator.startSession.run
        (coordinator.sessionEnvironment connection candidate.roomId)
        (coordinator.sessionLines connection candidate (coordinator.discover connection).rest)
        stop))) := by
  refine ⟨(coordinator.handoffLines connection candidate (coordinator.discover connection).rest).2, ?_⟩
  unfold BattleCoordinator.run
  rw [hconnect]
  generalize coordinator.discover connection = discovery at hfound ⊢
  obtain ⟨⟨outcome, state⟩, rest⟩ := discovery
  cases hfound
  have hsession := run_received (coordinator.sessionEnvironment connection candidate.roomId)
    coordinator.startSession
    (candidate.lines ++ (coordinator.handoffLines connection candidate rest).1)
    (coordinator.handoffLines connection candidate rest).2
  have hrun : coordinator.runSession connection candidate rest = _ := hsession
  simp only [hrun]
  rfl

end Handoff

/-- For every sequence of frames: the session of a run reads exactly the lines of its room that
follow the bootstrap barrier, and each that discovery has not seen only once it is checked. -/
theorem handoff_complete (coordinator : BattleCoordinator) (surroundings : BattleConnection)
    (client : Client) (frames : List Frame) (ending : PyException) {candidate : RoomCandidate}
    (hconnect : (surroundings.overSocket client frames ending).connect = .ok ())
    (hfound : (coordinator.discover (surroundings.overSocket client frames ending)).halted.outcome =
      .returned candidate) :
    let connection := surroundings.overSocket client frames ending
    let received := coordinator.sessionLines connection candidate (coordinator.discover connection).rest
    CompleteHandoff coordinator connection (frameLines ending frames).1 candidate received ∧
      ∃ stop, coordinator.run connection = BattleCoordinator.closing connection
        (.ok (BattleCoordinator.requireTerminal (coordinator.startSession.run
          (coordinator.sessionEnvironment connection candidate.roomId) received stop))) := by
  obtain ⟨connected, hconnected, hlines⟩ := overSocket_connected hconnect
  obtain ⟨early, late, hdecoded, hstream⟩ := lines_keep hconnected
  have hyielded : (surroundings.overSocket client frames ending).lines =
      nonLoginLines early ++ late := by rw [hlines, hstream]
  exact ⟨handoff_of_lines hdecoded hyielded hfound, run_of_found hconnect hfound⟩

end Session

/-! ## §4 A handoff -/

def ashClient : Client where
  username := "Ash"
  assertion _ := .ok "assertion"
  send _ _ := .ok ()

/-- The login, the account, the battle that it watches, and the battle of its challenge. The frame
that completes the announcement has the start of the battle as well. -/
def challengeFrames : List Frame :=
  [.text "|challstr|4|314159",
    .text ("|updateuser|ash|1|1\n|updatesearch|" ++ idleText),
    .text ">battle-gen9ou-7\n|init|battle",
    .text ("|queryresponse|userdetails|" ++ detailsText),
    .text (">battle-gen9ou-8\n|init|battle\n|player|p1|Misty|1|\n|player|p2|Ash|1|\n"
      ++ "|gametype|singles\n|gen|9\n|tier|[Gen 9] OU\n|start"),
    .text ">battle-gen9ou-7\n|turn|5\n>battle-gen9ou-8\n|gen|9\n|tie"]

/-- What the socket raises after these frames. -/
def socketClosed : PyException := .disconnect "Showdown socket closed unexpectedly"

theorem challengeRoom_handed_over :
    letI := Python.asciiDatabase
    letI := accountDecoder
    letI := compactCanonicalizer
    let connection := (yielding []).overSocket ashClient challengeFrames socketClosed
    CompleteHandoff ashCoordinator connection (frameLines socketClosed challengeFrames).1 challengeRoom
      (ashCoordinator.sessionLines connection challengeRoom (ashCoordinator.discover connection).rest) := by
  let _ := Python.asciiDatabase
  let _ := accountDecoder
  let _ := compactCanonicalizer
  have hconnect :
      ((yielding []).overSocket ashClient challengeFrames socketClosed).connect = .ok () := by
    decide +kernel
  have hfound : (ashCoordinator.discover
      ((yielding []).overSocket ashClient challengeFrames socketClosed)).halted.outcome =
        .returned challengeRoom := by decide +kernel
  exact (handoff_complete ashCoordinator (yielding []) ashClient challengeFrames socketClosed hconnect
    hfound).1

end BattleBelief
