import BattleBelief.Domain.Events

/-!
# Observed State

What one battle's public event stream has shown so far: the state record, its two sides and the
pokemon seen on each.
-/

namespace BattleBelief

/-! ## §1 Pokemon -/

/-- Canonical boost-stat order. -/
def boostStats : List String := ["atk", "def", "spa", "spd", "spe", "acc", "eva"]

def zeroBoosts : List Int := [0, 0, 0, 0, 0, 0, 0]

/-- Strips a tera-type suffix before a details string serves as a switch-identity key. -/
def normalizeIdentityDetails (details : String) : String :=
  let parts := Python.split details ", "
  let kept := parts.filter fun part => !Python.startsWith part "tera:"
  Python.join ", " kept

structure PokemonView where
  sideId : String
  nickname : String
  identityIntervals : List EvidenceInterval
  previewDetails : Option String
  /-- The stable key that a later switch-in is recognized by -/
  switchIdentity : String
  currentDetails : Option String
  active : Bool
  hp : Option HpObservation
  status : Option String
  fainted : Bool
  revealedMoves : List String
  itemIntervals : List EvidenceInterval
  abilityIntervals : List EvidenceInterval
  teraType : Option String
  /-- One value per entry of `boostStats` -/
  boosts : List Int
  volatiles : List String
  recharging : Bool
  transformTarget : Option String
  deriving DecidableEq

/-- A pokemon never seen before. -/
def PokemonView.new (sideId nickname : String) (details : Option String) : PokemonView where
  sideId := sideId
  nickname := nickname
  identityIntervals := []
  previewDetails := none
  switchIdentity :=
    match details with
    | none => ""
    | some details => if details = "" then "" else normalizeIdentityDetails details
  currentDetails := details
  active := false
  hp := none
  status := none
  fainted := false
  revealedMoves := []
  itemIntervals := []
  abilityIntervals := []
  teraType := none
  boosts := zeroBoosts
  volatiles := []
  recharging := false
  transformTarget := none

/-! ## §2 Sides -/

structure SideView where
  sideId : String
  userId : Option String
  displayName : Option String
  teamSize : Option Int
  previewRoster : List PreviewPokemon
  activeSlot : Option Int
  pokemon : List PokemonView
  /-- Condition and layer count, sorted -/
  sideConditions : List (String × Int)
  deriving DecidableEq

def emptySide (sideId : String) : SideView where
  sideId := sideId
  userId := none
  displayName := none
  teamSize := none
  previewRoster := []
  activeSlot := none
  pokemon := []
  sideConditions := []

/-! ## §3 The state -/

structure ObservedState where
  ourUserId : String
  eventIndex : Int
  roomInitialized : Bool
  generation : Option Int
  gameType : Option String
  tier : Option String
  rated : Option Bool
  rules : List String
  turn : Int
  battleStarted : Bool
  teamPreviewStarted : Bool
  winner : Option String
  tied : Bool
  ourSide : Option String
  p1 : SideView
  p2 : SideView
  weather : Option String
  fieldConditions : List String
  visibleEvidence : List VisibleEvidence
  ignoredDisplayCount : Int
  deriving DecidableEq

/-- The state before the first event. -/
def ObservedState.initial (ourUserId : String) : ObservedState where
  ourUserId := ourUserId
  eventIndex := -1
  roomInitialized := false
  generation := none
  gameType := none
  tier := none
  rated := none
  rules := []
  turn := 0
  battleStarted := false
  teamPreviewStarted := false
  winner := none
  tied := false
  ourSide := none
  p1 := emptySide "p1"
  p2 := emptySide "p2"
  weather := none
  fieldConditions := []
  visibleEvidence := []
  ignoredDisplayCount := 0

/-- The side that `sideId` names. -/
def ObservedState.side (state : ObservedState) (sideId : String) : Except PyException SideView :=
  if sideId = "p1" then .ok state.p1
  else if sideId = "p2" then .ok state.p2
  else .error (.reducerInvariantError (.invalidSide sideId))

end BattleBelief
