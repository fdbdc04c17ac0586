import BattleBelief.Canonicalization
import BattleBelief.Library.Runs

/-!
# Schedules

`build_schedule` lists the battles of an evaluation: every matchup so many times, on alternating
sides, with seeds derived from one master seed. The constructors of a row and of a schedule check
what they are given.

A set is iterated in an order that Python does not promise. The order is a parameter here.
-/

namespace BattleBelief

open Runs

/-- `^[0-9a-f]{64}$` -/
def isHex64 (text : String) : Bool :=
  text.toList.length = 64 && text.toList.all fun c => c ∈ Sha256.hexAlphabet

/-! ## §1 Matchups -/

/-- `BaseMatchupKey`, as its constructor admits it. -/
structure BaseMatchupKey where
  heroTeam : String
  opponentTeam : String
  opponentArchetype : String
  opponentPolicyCheckpoint : String
  scheduleBlock : String
  nonempty : heroTeam ≠ "" ∧ opponentTeam ≠ "" ∧ opponentArchetype ≠ "" ∧
    opponentPolicyCheckpoint ≠ "" ∧ scheduleBlock ≠ ""
  deriving DecidableEq

def BaseMatchupKey.toJson (key : BaseMatchupKey) : Python.Json :=
  .obj [("hero_team", .str key.heroTeam), ("opponent_team", .str key.opponentTeam),
    ("opponent_archetype", .str key.opponentArchetype),
    ("opponent_policy_checkpoint", .str key.opponentPolicyCheckpoint),
    ("schedule_block", .str key.scheduleBlock)]

inductive SideAssignment where
  | p1
  | p2
  deriving DecidableEq, Repr

def SideAssignment.value : SideAssignment → String
  | .p1 => "p1"
  | .p2 => "p2"

/-! ## §2 Seeds -/

inductive SeedNamespace where
  | search
  | world
  | policy
  | simulator
  | schedule
  | sideAssignment
  deriving DecidableEq, Repr

def SeedNamespace.value : SeedNamespace → String
  | .search => "search"
  | .world => "world"
  | .policy => "policy"
  | .simulator => "simulator"
  | .schedule => "schedule"
  | .sideAssignment => "side_assignment"

/-- `SEED_DERIVATION_ID` -/
def seedDerivationId : String := "sha256-canonical-fields-v1"

/-- `_validate_inputs`. -/
def validateSeedInputs (masterSeed baseMatchupId : String) (sideAssignment : String)
    (repetitionIndex : Int) : Except PyException Unit := do
  refuseIf (!isHex64 masterSeed)
    (.valueError "master_seed must be a 64-character lowercase hex string")
  refuseIf (!isDigest baseMatchupId) (.valueError "base_matchup_id must be a sha256 digest")
  refuseIf (sideAssignment ≠ "p1" ∧ sideAssignment ≠ "p2")
    (.valueError "side_assignment must be p1 or p2")
  refuseIf (repetitionIndex < 0 ∨ maxSafeInteger < repetitionIndex)
    (.valueError "repetition_index must be a non-negative integer")

/-- The document that a seed is the digest of. -/
def seedDocument (masterSeed : String) (seedNamespace : SeedNamespace)
    (baseMatchupId sideAssignment : String) (repetitionIndex : Int) : Python.Json :=
  .obj [("derivation_id", .str seedDerivationId), ("master_seed", .str masterSeed),
    ("namespace", .str seedNamespace.value), ("base_matchup_id", .str baseMatchupId),
    ("side_assignment", .str sideAssignment), ("repetition_index", .int repetitionIndex)]

structure SeedFamily where
  derivationId : String
  searchSeed : String
  worldSeed : String
  policySeed : String
  simulatorSeed : String
  scheduleSeed : String
  sideAssignmentSeed : String
  deriving DecidableEq

def SeedFamily.toJson (family : SeedFamily) : Python.Json :=
  .obj [("derivation_id", .str family.derivationId), ("search_seed", .str family.searchSeed),
    ("world_seed", .str family.worldSeed), ("policy_seed", .str family.policySeed),
    ("simulator_seed", .str family.simulatorSeed), ("schedule_seed", .str family.scheduleSeed),
    ("side_assignment_seed", .str family.sideAssignmentSeed)]

/-- The check of one seed in `SeedFamily.__post_init__`. -/
def checkSeed (name seed : String) : Except PyException Unit :=
  refuseIf (!isHex64 seed) (.valueError (name ++ " must be a 64-character lowercase hex string"))

/-- `SeedFamily.__post_init__`. -/
def SeedFamily.postInit (family : SeedFamily) : Except PyException SeedFamily := do
  refuseIf (family.derivationId ≠ seedDerivationId) (.valueError "unsupported seed derivation ID")
  checkSeed "search_seed" family.searchSeed
  checkSeed "world_seed" family.worldSeed
  checkSeed "policy_seed" family.policySeed
  checkSeed "simulator_seed" family.simulatorSeed
  checkSeed "schedule_seed" family.scheduleSeed
  checkSeed "side_assignment_seed" family.sideAssignmentSeed
  pure family

section Database

variable [Rfc8785]

def BaseMatchupKey.baseMatchupId (key : BaseMatchupKey) : Except PyException String :=
  manifestDigest key.toJson

/-- `derive_seed`. -/
def deriveSeed (masterSeed : String) (seedNamespace : SeedNamespace)
    (baseMatchupId sideAssignment : String) (repetitionIndex : Int) : Except PyException String := do
  validateSeedInputs masterSeed baseMatchupId sideAssignment repetitionIndex
  let bytes ← Rfc8785.dumps
    (seedDocument masterSeed seedNamespace baseMatchupId sideAssignment repetitionIndex)
  pure (String.ofList (Sha256.hexdigest bytes))

/-- `derive_seed_family`. -/
def deriveSeedFamily (masterSeed baseMatchupId sideAssignment : String) (repetitionIndex : Int) :
    Except PyException SeedFamily := do
  let seed seedNamespace :=
    deriveSeed masterSeed seedNamespace baseMatchupId sideAssignment repetitionIndex
  let search ← seed .search
  let world ← seed .world
  let policy ← seed .policy
  let simulator ← seed .simulator
  let schedule ← seed .schedule
  let side ← seed .sideAssignment
  SeedFamily.postInit
    { derivationId := seedDerivationId, searchSeed := search, worldSeed := world, policySeed := policy
      simulatorSeed := simulator, scheduleSeed := schedule, sideAssignmentSeed := side }

/-! ## §3 Rows -/

structure ScheduleRow where
  rowId : String
  baseMatchupId : String
  sideAssignment : SideAssignment
  scheduleBlock : String
  seedFamily : SeedFamily
  repetitionIndex : Int
  deriving DecidableEq

/-- The document that a row id is the digest of. -/
def rowDocument (baseMatchupId : String) (sideAssignment : SideAssignment) (scheduleBlock : String)
    (seedFamily : SeedFamily) (repetitionIndex : Int) : Python.Json :=
  .obj [("base_matchup_id", .str baseMatchupId), ("side_assignment", .str sideAssignment.value),
    ("schedule_block", .str scheduleBlock), ("seed_family", seedFamily.toJson),
    ("repetition_index", .int repetitionIndex)]

/-- `derive_schedule_row_id`. -/
def deriveScheduleRowId (baseMatchupId : String) (sideAssignment : SideAssignment)
    (scheduleBlock : String) (seedFamily : SeedFamily) (repetitionIndex : Int) :
    Except PyException String :=
  manifestDigest (rowDocument baseMatchupId sideAssignment scheduleBlock seedFamily repetitionIndex)

def ScheduleRow.toJson (row : ScheduleRow) : Python.Json :=
  .obj [("row_id", .str row.rowId), ("base_matchup_id", .str row.baseMatchupId),
    ("side_assignment", .str row.sideAssignment.value), ("schedule_block", .str row.scheduleBlock),
    ("seed_family", row.seedFamily.toJson), ("repetition_index", .int row.repetitionIndex)]

/-- `ScheduleRow.__post_init__`. -/
def ScheduleRow.postInit (row : ScheduleRow) : Except PyException ScheduleRow := do
  refuseIf (!isDigest row.rowId) (.valueError "row_id must be a sha256 digest")
  refuseIf (!isDigest row.baseMatchupId) (.valueError "base_matchup_id must be a sha256 digest")
  refuseIf (row.scheduleBlock = "") (.valueError "schedule_block must be a non-empty string")
  refuseIf (row.repetitionIndex < 0 ∨ maxSafeInteger < row.repetitionIndex)
    (.valueError "repetition_index must be a JCS-safe non-negative integer")
  let rowId ← deriveScheduleRowId row.baseMatchupId row.sideAssignment row.scheduleBlock
    row.seedFamily row.repetitionIndex
  refuseIf (row.rowId ≠ rowId) (.valueError "row_id does not match schedule-row contents")
  pure row

/-! ## §4 Schedules -/

structure Schedule where
  rows : List ScheduleRow
  digest : String
  deriving DecidableEq

/-- The order of `(row.base_matchup_id, row.repetition_index)`. -/
def ScheduleRow.Precedes (row other : ScheduleRow) : Prop :=
  row.baseMatchupId < other.baseMatchupId ∨
    row.baseMatchupId = other.baseMatchupId ∧ row.repetitionIndex ≤ other.repetitionIndex

instance : DecidableRel ScheduleRow.Precedes := fun _ _ =>
  inferInstanceAs (Decidable (_ ∨ _))

/-- The rows of each matchup, in the order in which the matchups come up first. -/
def groupRows (rows : List ScheduleRow) : List (String × List ScheduleRow) :=
  (rows.map ScheduleRow.baseMatchupId).eraseDups.map fun baseMatchupId =>
    (baseMatchupId, rows.filter fun row => row.baseMatchupId = baseMatchupId)

/-- The rows of one matchup number its repetitions and are balanced. -/
def checkGroup (group : String × List ScheduleRow) : Except PyException Unit := do
  let repetitions := (group.2.map ScheduleRow.repetitionIndex).insertionSort (· ≤ ·)
  refuseIf (repetitions ≠ (List.range group.2.length).map Int.ofNat)
    (.valueError s!"repetition indices for {group.1} must be contiguous from zero")
  let p1Count := group.2.countP fun row => row.sideAssignment = .p1
  let p2Count := group.2.countP fun row => row.sideAssignment = .p2
  refuseIf (((p1Count : Int) - p2Count).natAbs > 1)
    (.valueError s!"schedule rows for {group.1} must be balanced")

/-- `Schedule.__post_init__`. -/
def Schedule.postInit (schedule : Schedule) : Except PyException Schedule := do
  refuseIf (schedule.rows.isEmpty) (.valueError "schedule requires at least one schedule row")
  refuseIf (¬(schedule.rows.map ScheduleRow.rowId).Nodup)
    (.valueError "schedule row IDs must be unique")
  refuseIf (schedule.rows ≠ schedule.rows.insertionSort ScheduleRow.Precedes)
    (.valueError "schedule rows must use canonical order")
  refuseIf (!isDigest schedule.digest) (.valueError "schedule digest must be a sha256 digest")
  let expected ← manifestDigest (.arr (schedule.rows.map ScheduleRow.toJson))
  refuseIf (schedule.digest ≠ expected) (.valueError "schedule digest does not match rows")
  (groupRows schedule.rows).forM checkGroup
  pure schedule

/-! ## §5 Building a schedule -/

/-- `_initial_side`: the last bit of the first byte of a digest. -/
def initialSide (registrationDigest baseMatchupId : String) : Except PyException Nat := do
  let bytes ← Rfc8785.dumps (.obj [("registration_digest", .str registrationDigest),
    ("base_matchup_id", .str baseMatchupId)])
  pure (((Sha256.hash bytes).a >>> 24) % 2)

/-- The side of a repetition. -/
def sideOf (initial repetitionIndex : Nat) : SideAssignment :=
  if (initial + repetitionIndex) % 2 = 0 then .p1 else .p2

/-- The body of the inner loop of `build_schedule`. -/
def buildRow (masterSeed : String) (key : BaseMatchupKey) (baseMatchupId : String)
    (initial repetitionIndex : Nat) : Except PyException ScheduleRow := do
  let side := sideOf initial repetitionIndex
  let family ← deriveSeedFamily masterSeed baseMatchupId side.value repetitionIndex
  let rowId ← deriveScheduleRowId baseMatchupId side key.scheduleBlock family repetitionIndex
  ScheduleRow.postInit
    { rowId := rowId, baseMatchupId := baseMatchupId, sideAssignment := side
      scheduleBlock := key.scheduleBlock, seedFamily := family, repetitionIndex := repetitionIndex }

/-- The body of the outer loop. -/
def buildRows (registrationDigest masterSeed : String) (repetitions : Int) (key : BaseMatchupKey) :
    Except PyException (List ScheduleRow) := do
  let baseMatchupId ← key.baseMatchupId
  let initial ← initialSide registrationDigest baseMatchupId
  (List.range repetitions.toNat).mapM (buildRow masterSeed key baseMatchupId initial)

/-- `sorted(keys, key=lambda key: key.base_matchup_id)` -/
def sortByMatchupId (keys : List BaseMatchupKey) : Except PyException (List BaseMatchupKey) := do
  let keyed ← keys.mapM fun key => key.baseMatchupId.map fun id => (id, key)
  pure ((keyed.insertionSort fun first second => first.1 ≤ second.1).map Prod.snd)

/-- `build_schedule`, where `iteration` is the order in which the set of some keys is iterated. -/
def buildSchedule (iteration : List BaseMatchupKey → List BaseMatchupKey)
    (registrationDigest masterSeed : String) (matchupKeys : List BaseMatchupKey) (repetitions : Int)
    (requireExactBalance : Bool) : Except PyException Schedule := do
  refuseIf (¬(1 ≤ repetitions ∧ repetitions ≤ maxSafeInteger))
    (.valueError "repetitions must be a positive integer")
  refuseIf (requireExactBalance ∧ repetitions % 2 ≠ 0)
    (.valueError "exact side balance requires an even repetition count")
  refuseIf (!isDigest registrationDigest)
    (.valueError "registration_digest must be a sha256 digest")
  let ordered ← sortByMatchupId (iteration matchupKeys)
  refuseIf (ordered.isEmpty) (.valueError "at least one matchup key is required")
  let rows ← ordered.mapM (buildRows registrationDigest masterSeed repetitions)
  let digest ← manifestDigest (.arr (rows.flatten.map ScheduleRow.toJson))
  Schedule.postInit ⟨rows.flatten, digest⟩

/-- An order in which the set of some keys is iterated: each of them once. -/
def IsSetIteration (iteration : List BaseMatchupKey → List BaseMatchupKey) : Prop :=
  ∀ keys, (iteration keys).Nodup ∧ ∀ key, key ∈ iteration keys ↔ key ∈ keys

end Database

end BattleBelief
