import BattleBelief.Library.PythonDict
import BattleBelief.Library.Runs
import BattleBelief.Protocol.FrameDecoder
import BattleBelief.Protocol.Parser

/-!
# Room Candidates

A room that may be the one of our challenge, with what its lines have declared so far. Only the
first declaration of a value counts; a later one that differs is an error, and the first error is
kept.
-/

namespace BattleBelief

open Python Runs

structure RoomCandidate where
  roomId : String
  lines : List RoomLine
  battleInitialized : Bool
  players : List (String × String)
  gameType : Option String
  generation : Option Int
  tier : Option String
  /-- The text of a `MalformedProtocolMessage` -/
  metadataError : Option String
  deriving DecidableEq, Repr

namespace RoomCandidate

/-- A room that no line has come from. -/
def new (roomId : String) : RoomCandidate where
  roomId := roomId
  lines := []
  battleInitialized := false
  players := []
  gameType := none
  generation := none
  tier := none
  metadataError := none

variable (candidate : RoomCandidate)

/-- Keeps the first metadata error. -/
def noteError (text : String) : RoomCandidate :=
  { candidate with metadataError := some (candidate.metadataError.getD text) }

/-- Takes down a value that is declared, where `known` is its value so far and `recorded` the
candidate with the new one. -/
def declareValue {α : Type} [DecidableEq α] (known : Option α) (value : α)
    (recorded : RoomCandidate) (conflict : String) : RoomCandidate :=
  match known with
  | none => recorded
  | some known => if known = value then candidate else candidate.noteError conflict

/-- Takes down what an event declares. -/
def declare (event : BattleEvent) : RoomCandidate :=
  match event with
  | .playerDeclared event =>
      let playerId := toId event.displayName
      if event.sideId ∉ ["p1", "p2"] || playerId = "" then
        candidate.noteError "battle player metadata is malformed"
      else
        candidate.declareValue (Dict.get? candidate.players event.sideId) playerId
          { candidate with players := Dict.assign candidate.players event.sideId playerId }
          "battle player metadata conflicts for one side"
  | .gameTypeDeclared event =>
      candidate.declareValue candidate.gameType event.gameType
        { candidate with gameType := some event.gameType }
        "battle game type metadata conflicts"
  | .generationDeclared event =>
      candidate.declareValue candidate.generation event.generation
        { candidate with generation := some event.generation }
        "battle generation metadata conflicts"
  | .tierDeclared event =>
      candidate.declareValue candidate.tier event.tier
        { candidate with tier := some event.tier }
        "battle tier metadata conflicts"
  | _ => candidate

/-- The payloads that declare something about a battle. -/
def isMetadata (payload : String) : Bool :=
  ["|player|", "|gametype|", "|gen|", "|tier|"].any fun start => Python.startsWith payload start

variable [Python.UnicodeDatabase]

/-- The event of a payload, at the place of the last line. -/
def parseLast (payload : String) : Except PyException BattleEvent :=
  parseBattleLine payload (candidate.lines.length - 1) (some candidate.roomId)

/-- `_read_candidate_metadata`. -/
def readMetadata (payload : String) : Except PyException RoomCandidate :=
  if payload = "|init|battle" then
    (candidate.parseLast payload).map fun _ => { candidate with battleInitialized := true }
  else if !isMetadata payload then .ok candidate
  else if !candidate.battleInitialized then
    .ok (candidate.noteError "battle metadata arrived before battle initialization")
  else
    match candidate.parseLast payload with
    | .error (.malformedProtocolMessage text) => .ok (candidate.noteError text)
    | .error err => .error err
    | .ok event => .ok (candidate.declare event)

/-- A line of the room is taken down and read. -/
def observe (line : RoomLine) : Except PyException RoomCandidate :=
  { candidate with lines := candidate.lines ++ [line] }.readMetadata line.payload

end RoomCandidate

/-! ## §2 Declarations -/

/-- What one line declares about its battle. -/
inductive Declaration where
  | player (sideId userId : String)
  | gameType (name : String)
  | generation (number : Int)
  | tier (name : String)
  deriving DecidableEq, Repr

def declarationOf : BattleEvent → Option Declaration
  | .playerDeclared event => some (.player event.sideId (toId event.displayName))
  | .gameTypeDeclared event => some (.gameType event.gameType)
  | .generationDeclared event => some (.generation event.generation)
  | .tierDeclared event => some (.tier event.tier)
  | _ => none

open RoomCandidate (isMetadata)

/-- The line at `index` is there to declare something. -/
def MetadataAt (lines : List RoomLine) (index : Nat) : Prop :=
  ∃ line, lines[index]? = some line ∧ isMetadata line.payload = true

/-- The line at `init` initializes the battle, before anything is declared. -/
def Initializes (lines : List RoomLine) (init : Nat) : Prop :=
  (∃ line, lines[init]? = some line ∧ line.payload = "|init|battle") ∧
    ∀ index, MetadataAt lines index → init < index

theorem metadataAt_concat {lines : List RoomLine} {line : RoomLine} {index : Nat} :
    MetadataAt (lines ++ [line]) index ↔
      MetadataAt lines index ∨ index = lines.length ∧ isMetadata line.payload = true := by
  rcases Nat.lt_trichotomy index lines.length with hlt | rfl | hgt
  · simp [MetadataAt, List.getElem?_append_left hlt, hlt.ne]
  · simp [MetadataAt]
  · have hlong : (lines ++ [line])[index]? = none := by simpa using Nat.succ_le_of_lt hgt
    have hshort : lines[index]? = none := by simpa using hgt.le
    simp [MetadataAt, hlong, hshort, hgt.ne']

theorem Initializes.concat {lines : List RoomLine} {line : RoomLine} {init : Nat}
    (h : Initializes lines init) : Initializes (lines ++ [line]) init := by
  obtain ⟨⟨first, hfirst, hpayload⟩, hafter⟩ := h
  have hlt : init < lines.length := (List.getElem?_eq_some_iff.mp hfirst).1
  refine ⟨⟨first, by rw [List.getElem?_append_left hlt, hfirst], hpayload⟩, fun index hindex => ?_⟩
  rcases metadataAt_concat.mp hindex with hbefore | ⟨rfl, _⟩
  · exact hafter index hbefore
  · exact hlt

/-- The type of a payload that declares something. -/
theorem wireType_of_isMetadata {payload : String} (h : isMetadata payload = true) :
    (splitPayload payload).1 ∈ ["player", "gametype", "gen", "tier"] := by
  simp only [isMetadata, List.any_cons, List.any_nil, Bool.or_false, Bool.or_eq_true] at h
  rcases h with h | h | h | h
  · have hwire : (splitPayload payload).1 = "player" := wireType_of_startsWith (by decide) h
    simp [hwire]
  · have hwire : (splitPayload payload).1 = "gametype" := wireType_of_startsWith (by decide) h
    simp [hwire]
  · have hwire : (splitPayload payload).1 = "gen" := wireType_of_startsWith (by decide) h
    simp [hwire]
  · have hwire : (splitPayload payload).1 = "tier" := wireType_of_startsWith (by decide) h
    simp [hwire]

section Declarations

variable [Python.UnicodeDatabase]

/-- The line at `index` of the lines of a room makes the declaration. -/
def Declares (roomId : String) (lines : List RoomLine) (index : Nat)
    (declaration : Declaration) : Prop :=
  ∃ line event, lines[index]? = some line ∧ isMetadata line.payload = true ∧
    parseBattleLine line.payload index (some roomId) = .ok event ∧
    declarationOf event = some declaration

theorem Declares.append {roomId : String} {lines : List RoomLine} {index : Nat}
    {declaration : Declaration} (h : Declares roomId lines index declaration)
    (later : List RoomLine) : Declares roomId (lines ++ later) index declaration := by
  obtain ⟨line, event, hline, hrest⟩ := h
  have hlt : index < lines.length := (List.getElem?_eq_some_iff.mp hline).1
  exact ⟨line, event, by rw [List.getElem?_append_left hlt, hline], hrest⟩

/-- A payload that declares something is read as what it declares, if it can be read. -/
theorem declarationOf_parse {payload : String} {ei : Int} {roomId : Option String}
    {event : BattleEvent} (hmetadata : isMetadata payload = true)
    (h : parseBattleLine payload ei roomId = .ok event) :
    ∃ declaration, declarationOf event = some declaration := by
  have hwire := wireType_of_isMetadata hmetadata
  have hfields : parseMetadata (splitPayload payload).1 (splitPayload payload).2 ei =
      .ok event := by
    have hdispatch : parseBattleFields payload (splitPayload payload).1 (splitPayload payload).2 ei
        roomId = parseMetadata (splitPayload payload).1 (splitPayload payload).2 ei := by
      generalize (splitPayload payload).1 = wireType at hwire
      simp only [List.mem_cons, List.not_mem_nil, or_false] at hwire
      rcases hwire with rfl | rfl | rfl | rfl <;> rfl
    unfold parseBattleLine at h
    rw [hdispatch] at h
    split at h
    · cases h
    · exact h
  generalize (splitPayload payload).2 = args at hfields
  generalize (splitPayload payload).1 = wireType at hwire hfields
  simp only [List.mem_cons, List.not_mem_nil, or_false] at hwire
  rcases hwire with rfl | rfl | rfl | rfl
  · obtain ⟨_, _, hevent⟩ := bind_eq_ok.mp hfields
    cases hevent
    exact ⟨_, rfl⟩
  · obtain ⟨_, _, hevent⟩ := bind_eq_ok.mp hfields
    cases hevent
    exact ⟨_, rfl⟩
  · obtain ⟨_, _, hfields⟩ := bind_eq_ok.mp hfields
    obtain ⟨_, _, hevent⟩ := bind_eq_ok.mp hfields
    cases hevent
    exact ⟨_, rfl⟩
  · obtain ⟨_, _, hevent⟩ := bind_eq_ok.mp hfields
    cases hevent
    exact ⟨_, rfl⟩

end Declarations

namespace RoomCandidate

/-- What a candidate has on record. -/
def HasOnRecord (candidate : RoomCandidate) : Declaration → Prop
  | .player sideId userId => Dict.get? candidate.players sideId = some userId
  | .gameType name => candidate.gameType = some name
  | .generation number => candidate.generation = some number
  | .tier name => candidate.tier = some name

variable {candidate after : RoomCandidate}

@[simp] theorem noteError_metadataError (text : String) :
    (candidate.noteError text).metadataError ≠ none := by simp [noteError]

/-- What one line adds to a candidate, when it declares something and no line is at fault. -/
structure Recorded (candidate : RoomCandidate) (declaration : Declaration)
    (after : RoomCandidate) : Prop where
  clean : candidate.metadataError = none
  initialized : after.battleInitialized = candidate.battleInitialized
  onRecord : ∀ other, after.HasOnRecord other ↔ candidate.HasOnRecord other ∨ other = declaration
  nodup : (Dict.keys candidate.players).Nodup → (Dict.keys after.players).Nodup

/-- Declaring a value that is on record changes nothing. -/
theorem Recorded.same {declaration : Declaration} (hclean : candidate.metadataError = none)
    (h : candidate.HasOnRecord declaration) : Recorded candidate declaration candidate where
  clean := hclean
  initialized := rfl
  onRecord other := by
    constructor
    · exact Or.inl
    · rintro (hother | rfl)
      · exact hother
      · exact h
  nodup := id

/-- A declared value is taken down where none was known, or is the known one. -/
theorem Recorded.declareValue {α : Type} [DecidableEq α] {known : Option α} {value : α}
    {recorded : RoomCandidate} {conflict : String} {declaration : Declaration}
    (hclean : (candidate.declareValue known value recorded conflict).metadataError = none)
    (hnew : known = none → recorded.metadataError = none →
      Recorded candidate declaration recorded)
    (hsame : known = some value → candidate.HasOnRecord declaration) :
    Recorded candidate declaration (candidate.declareValue known value recorded conflict) := by
  cases known with
  | none => exact hnew rfl hclean
  | some known =>
    simp only [RoomCandidate.declareValue] at hclean ⊢
    split_ifs at hclean ⊢ with heq
    · exact .same hclean (hsame (congrArg some heq))
    · exact absurd hclean (noteError_metadataError _)

/-- An event that is not at fault puts what it declares on record, and nothing else. -/
theorem declare_recorded {event : BattleEvent} {declaration : Declaration}
    (hdeclaration : declarationOf event = some declaration)
    (hclean : (candidate.declare event).metadataError = none) :
    Recorded candidate declaration (candidate.declare event) := by
  cases event with
  | playerDeclared event =>
    cases hdeclaration
    simp only [declare] at hclean ⊢
    split_ifs at hclean ⊢ with hmalformed
    · exact absurd hclean (noteError_metadataError _)
    · refine .declareValue hclean (fun hknown hclean => ?_) id
      refine ⟨hclean, rfl, fun other => ?_, fun h => Dict.nodup_keys_assign h _ _⟩
      cases other with
      | player sideId userId =>
        simp only [HasOnRecord, Declaration.player.injEq]
        rw [Dict.get?_assign]
        split_ifs with hside
        · simp [hside, hknown, eq_comm]
        · simp [hside]
      | _ => simp [HasOnRecord]
  | gameTypeDeclared event =>
    cases hdeclaration
    refine .declareValue hclean (fun hknown hclean => ⟨hclean, rfl, fun other => ?_, id⟩) id
    cases other <;> simp [HasOnRecord, hknown, eq_comm]
  | generationDeclared event =>
    cases hdeclaration
    refine .declareValue hclean (fun hknown hclean => ⟨hclean, rfl, fun other => ?_, id⟩) id
    cases other <;> simp [HasOnRecord, hknown, eq_comm]
  | tierDeclared event =>
    cases hdeclaration
    refine .declareValue hclean (fun hknown hclean => ⟨hclean, rfl, fun other => ?_, id⟩) id
    cases other <;> simp [HasOnRecord, hknown, eq_comm]
  | _ => cases hdeclaration

/-! ## §3 Following the lines -/

/-- Room and lines stay what they are. -/
def SameLines (candidate after : RoomCandidate) : Prop :=
  after.roomId = candidate.roomId ∧ after.lines = candidate.lines

theorem declareValue_sameLines {α : Type} [DecidableEq α] {known : Option α} {value : α}
    {recorded : RoomCandidate} {conflict : String} (h : SameLines candidate recorded) :
    SameLines candidate (candidate.declareValue known value recorded conflict) := by
  unfold declareValue
  split
  · exact h
  · split
    · exact ⟨rfl, rfl⟩
    · exact ⟨rfl, rfl⟩

theorem declare_sameLines (event : BattleEvent) : SameLines candidate (candidate.declare event) := by
  cases event with
  | playerDeclared event =>
    simp only [declare]
    split_ifs
    · exact ⟨rfl, rfl⟩
    · exact declareValue_sameLines ⟨rfl, rfl⟩
  | gameTypeDeclared event => exact declareValue_sameLines ⟨rfl, rfl⟩
  | generationDeclared event => exact declareValue_sameLines ⟨rfl, rfl⟩
  | tierDeclared event => exact declareValue_sameLines ⟨rfl, rfl⟩
  | _ => exact ⟨rfl, rfl⟩

/-- Once both sides are known, no event changes the players. -/
theorem declare_players (hknown : ∀ sideId ∈ ["p1", "p2"], Dict.get? candidate.players sideId ≠ none)
    (event : BattleEvent) : (candidate.declare event).players = candidate.players := by
  have hvalue {α : Type} [DecidableEq α] (known : Option α) (value : α) (recorded : RoomCandidate)
      (conflict : String) (h : known = none → recorded.players = candidate.players) :
      (candidate.declareValue known value recorded conflict).players = candidate.players := by
    unfold declareValue
    split
    · exact h rfl
    · split
      · rfl
      · rfl
  cases event with
  | playerDeclared event =>
    simp only [declare]
    split_ifs with hmalformed
    · rfl
    · rw [Bool.or_eq_true, not_or] at hmalformed
      have hside : event.sideId ∈ ["p1", "p2"] := of_not_not fun hother => hmalformed.1 (by simpa using hother)
      exact hvalue _ _ _ _ fun hnone => absurd hnone (hknown _ hside)
  | gameTypeDeclared event => exact hvalue _ _ _ _ fun _ => rfl
  | generationDeclared event => exact hvalue _ _ _ _ fun _ => rfl
  | tierDeclared event => exact hvalue _ _ _ _ fun _ => rfl
  | _ => rfl

section Reading

variable [Python.UnicodeDatabase] {line : RoomLine}

theorem observe_players
    (hknown : ∀ sideId ∈ ["p1", "p2"], Dict.get? candidate.players sideId ≠ none)
    (h : candidate.observe line = .ok after) : after.players = candidate.players := by
  unfold observe readMetadata at h
  split_ifs at h
  · obtain ⟨_, _, rfl⟩ := map_eq_ok.mp h
    rfl
  · cases h
    rfl
  · cases h
    rfl
  · split at h
    · cases h
      rfl
    · cases h
    · cases h
      refine declare_players ?_ _
      exact hknown

theorem readMetadata_sameLines {payload : String}
    (h : candidate.readMetadata payload = .ok after) : SameLines candidate after := by
  unfold readMetadata at h
  split_ifs at h
  · obtain ⟨_, _, rfl⟩ := map_eq_ok.mp h
    exact ⟨rfl, rfl⟩
  · cases h
    exact ⟨rfl, rfl⟩
  · cases h
    exact ⟨rfl, rfl⟩
  · split at h
    · cases h
      exact ⟨rfl, rfl⟩
    · cases h
    · cases h
      exact declare_sameLines _

/-- A line that is read is the last one that the candidate has. -/
theorem observe_sameLines (h : candidate.observe line = .ok after) :
    after.roomId = candidate.roomId ∧ after.lines = candidate.lines ++ [line] :=
  readMetadata_sameLines h

/-- What a line makes of a candidate when no line is at fault. -/
inductive Observed (candidate : RoomCandidate) (line : RoomLine) (after : RoomCandidate) : Prop
  | init (hinit : line.payload = "|init|battle") (hclean : candidate.metadataError = none)
      (hafter : after =
        { candidate with lines := candidate.lines ++ [line], battleInitialized := true })
  | plain (hplain : isMetadata line.payload = false) (hclean : candidate.metadataError = none)
      (hafter : after = { candidate with lines := candidate.lines ++ [line] })
  | declared (declaration : Declaration) (hinit : candidate.battleInitialized = true)
      (hmetadata : isMetadata line.payload = true)
      (hdeclares : Declares candidate.roomId (candidate.lines ++ [line]) candidate.lines.length
        declaration)
      (hrecorded : Recorded candidate declaration after)

theorem observe_observed (h : candidate.observe line = .ok after)
    (hclean : after.metadataError = none) : Observed candidate line after := by
  unfold observe readMetadata at h
  split_ifs at h with hinit hplain hbare
  · obtain ⟨_, _, rfl⟩ := map_eq_ok.mp h
    exact .init hinit hclean rfl
  · cases h
    exact .plain (by simpa using hplain) hclean rfl
  · cases h
    exact absurd hclean (noteError_metadataError _)
  · have hmetadata : isMetadata line.payload = true := by simpa using hplain
    split at h
    · cases h
      exact absurd hclean (noteError_metadataError _)
    · cases h
    · rename_i event hparse
      cases h
      obtain ⟨declaration, hdeclaration⟩ := declarationOf_parse hmetadata hparse
      have hrecorded := declare_recorded hdeclaration hclean
      have hindex : ((candidate.lines ++ [line]).length : Int) - 1 = candidate.lines.length := by
        simp
      simp only [parseLast, hindex] at hparse
      refine .declared declaration (by simpa using hbare) hmetadata
        ⟨line, event, List.getElem?_concat_length, hmetadata, hparse, hdeclaration⟩
        ⟨hrecorded.clean, hrecorded.initialized, fun other => ?_, hrecorded.nodup⟩
      have hother := hrecorded.onRecord other
      cases other <;> exact hother

/-- What the candidate has on record is what its lines declare, all of it after the line that
initializes the battle. -/
structure Tracks (candidate : RoomCandidate) : Prop where
  nodup : (Dict.keys candidate.players).Nodup
  bare : candidate.battleInitialized = false → ∀ index, ¬MetadataAt candidate.lines index
  initialized : candidate.battleInitialized = true → ∃ init, Initializes candidate.lines init
  recorded : ∀ index, MetadataAt candidate.lines index → ∃ declaration,
    Declares candidate.roomId candidate.lines index declaration ∧
      candidate.HasOnRecord declaration
  declared : ∀ declaration, candidate.HasOnRecord declaration →
    ∃ index, Declares candidate.roomId candidate.lines index declaration

theorem tracks_new (roomId : String) : (new roomId).Tracks where
  nodup := List.nodup_nil
  bare _ index h := by
    obtain ⟨line, hline, _⟩ := h
    cases hline
  initialized h := by cases h
  recorded index h := by
    obtain ⟨line, hline, _⟩ := h
    cases hline
  declared declaration h := by cases declaration <;> cases h

/-- A line that declares nothing leaves the record and what it stands for. -/
theorem Tracks.plain (h : candidate.Tracks) (hplain : isMetadata line.payload = false) :
    Tracks { candidate with lines := candidate.lines ++ [line] } where
  nodup := h.nodup
  bare hinit index hmetadata := by
    rcases metadataAt_concat.mp hmetadata with hbefore | ⟨_, hlast⟩
    · exact h.bare hinit index hbefore
    · rw [hplain] at hlast
      cases hlast
  initialized hinit := by
    obtain ⟨init, hinit⟩ := h.initialized hinit
    exact ⟨init, hinit.concat⟩
  recorded index hmetadata := by
    rcases metadataAt_concat.mp hmetadata with hbefore | ⟨_, hlast⟩
    · obtain ⟨declaration, hdeclares, hrecord⟩ := h.recorded index hbefore
      refine ⟨declaration, hdeclares.append _, ?_⟩
      cases declaration <;> exact hrecord
    · rw [hplain] at hlast
      cases hlast
  declared declaration hrecord := by
    have hrecord' : candidate.HasOnRecord declaration := by
      cases declaration <;> exact hrecord
    obtain ⟨index, hdeclares⟩ := h.declared declaration hrecord'
    exact ⟨index, hdeclares.append _⟩

/-- Every line that is not at fault keeps the record in step with the lines. -/
theorem Tracks.observe (h : candidate.Tracks) (hobserve : candidate.observe line = .ok after)
    (hclean : after.metadataError = none) : after.Tracks := by
  obtain ⟨hroom, hlines⟩ := observe_sameLines hobserve
  cases observe_observed hobserve hclean with
  | init hinit _ hafter =>
    have hplain : isMetadata line.payload = false := by
      rw [hinit]
      decide
    have htracks := h.plain hplain
    subst hafter
    refine ⟨h.nodup, nofun, fun _ => ?_, fun index hindex => ?_, fun declaration hrecord => ?_⟩
    · cases hinitialized : candidate.battleInitialized with
      | true => exact htracks.initialized hinitialized
      | false =>
        refine ⟨candidate.lines.length, ⟨line, List.getElem?_concat_length, hinit⟩, ?_⟩
        intro index hindex
        exact absurd hindex (htracks.bare hinitialized index)
    · obtain ⟨declaration, hdeclares, hrecord⟩ := htracks.recorded index hindex
      refine ⟨declaration, hdeclares, ?_⟩
      cases declaration <;> exact hrecord
    · refine htracks.declared declaration ?_
      cases declaration <;> exact hrecord
  | plain hplain _ hafter =>
    subst hafter
    exact h.plain hplain
  | declared declaration hinit hmetadata hdeclares hrecorded =>
    have hinitialized := hrecorded.initialized.trans hinit
    refine ⟨hrecorded.nodup h.nodup, fun hbare => ?_, fun _ => ?_, fun index hindex => ?_,
      fun other hrecord => ?_⟩
    · rw [hinitialized] at hbare
      cases hbare
    · obtain ⟨init, hinit⟩ := h.initialized hinit
      rw [hlines]
      exact ⟨init, hinit.concat⟩
    · rw [hroom, hlines]
      rw [hlines] at hindex
      rcases metadataAt_concat.mp hindex with hbefore | ⟨rfl, _⟩
      · obtain ⟨earlier, hearlier, hrecord⟩ := h.recorded index hbefore
        exact ⟨earlier, hearlier.append _, (hrecorded.onRecord earlier).mpr (.inl hrecord)⟩
      · exact ⟨declaration, hdeclares, (hrecorded.onRecord declaration).mpr (.inr rfl)⟩
    · rw [hroom, hlines]
      rcases (hrecorded.onRecord other).mp hrecord with hbefore | rfl
      · obtain ⟨index, hother⟩ := h.declared other hbefore
        exact ⟨index, hother.append _⟩
      · exact ⟨_, hdeclares⟩

end Reading

end RoomCandidate

section Announcement

variable [Python.UnicodeDatabase]

/-- The lines of a room initialize a battle, and then declare these things: each of them, and
nothing else. -/
structure Announces (roomId : String) (announcement : List Declaration)
    (lines : List RoomLine) : Prop where
  initialized : ∃ init, Initializes lines init
  agreed : ∀ index, MetadataAt lines index →
    ∃ declaration ∈ announcement, Declares roomId lines index declaration
  complete : ∀ declaration ∈ announcement, ∃ index, Declares roomId lines index declaration

/-- A candidate in step with its lines has an announcement on record exactly when the lines make
it. -/
theorem RoomCandidate.Tracks.announces {candidate : RoomCandidate} {announcement : List Declaration}
    (h : candidate.Tracks) (hinit : candidate.battleInitialized = true)
    (hrecord : ∀ declaration, candidate.HasOnRecord declaration ↔ declaration ∈ announcement) :
    Announces candidate.roomId announcement candidate.lines where
  initialized := h.initialized hinit
  agreed index hindex := by
    obtain ⟨declaration, hdeclares, hon⟩ := h.recorded index hindex
    exact ⟨declaration, (hrecord declaration).mp hon, hdeclares⟩
  complete declaration hmem := h.declared declaration ((hrecord declaration).mpr hmem)

end Announcement

end BattleBelief
