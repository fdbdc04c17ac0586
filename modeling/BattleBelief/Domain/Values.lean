import BattleBelief.Errors

/-!
# State Values

The immutable values that observed state is made of. An `HpObservation` carries the bounds that
its constructor checks, so no state holds an observation outside them.
-/

namespace BattleBelief

/-- How exactly an HP value is known. -/
inductive HpPrecision where
  | exact
  | percent
  | pixel
  deriving DecidableEq, Repr

/-- One observation of a pokemon's HP. -/
structure HpObservation where
  current : Int
  maximum : Int
  precision : HpPrecision
  fainted : Bool
  /-- `0 <= current <= maximum`, with a positive maximum -/
  bounds : 0 < maximum ∧ 0 ≤ current ∧ current ≤ maximum
  /-- A fainted pokemon has no HP left -/
  faintedZero : fainted = true → current = 0
  deriving DecidableEq

/-- The constructor of `HpObservation` with the checks of its `__post_init__`. -/
def HpObservation.create (current maximum : Int) (precision : HpPrecision)
    (fainted : Bool) : Except PyException HpObservation :=
  if hbounds : 0 < maximum ∧ 0 ≤ current ∧ current ≤ maximum then
    if hzero : fainted = true → current = 0 then
      .ok ⟨current, maximum, precision, fainted, hbounds, hzero⟩
    else
      .error (.valueError "fainted HP observation must be zero")
  else
    .error (.valueError "invalid HP observation")

/-- Raw HP value parsed from a wire frame; precision is not yet known. -/
structure HpToken where
  current : Int
  maximum : Int
  status : Option String
  fainted : Bool
  deriving DecidableEq, Repr

/-- A hypothesis about hidden information and the event indices between which it was held. -/
structure EvidenceInterval where
  value : Option String
  sourceEventIndex : Int
  validFrom : Int
  validUntil : Option Int
  deriving DecidableEq, Repr

/-- A pokemon shown at team preview. -/
structure PreviewPokemon where
  details : String
  hasItem : Bool
  deriving DecidableEq, Repr

end BattleBelief
