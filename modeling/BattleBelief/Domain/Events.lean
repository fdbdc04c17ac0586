import BattleBelief.Domain.Values

/-!
# Canonical Battle Events

The event classes that the reducer consumes. Every event carries its index in the battle's
event sequence.

`BattleEvent` is an open marker base in the source. Here it is the sum of the concrete classes
and of `other`, which stands for any subclass that the reducer does not know.
-/

namespace BattleBelief

/-! ## §1 Metadata -/

structure BattleInit where
  eventIndex : Int
  roomId : String
  deriving DecidableEq, Repr

structure PlayerDeclared where
  eventIndex : Int
  sideId : String
  userId : String
  displayName : String
  deriving DecidableEq, Repr

structure TeamSizeDeclared where
  eventIndex : Int
  sideId : String
  size : Int
  deriving DecidableEq, Repr

structure GameTypeDeclared where
  eventIndex : Int
  gameType : String
  deriving DecidableEq, Repr

structure GenerationDeclared where
  eventIndex : Int
  generation : Int
  deriving DecidableEq, Repr

structure TierDeclared where
  eventIndex : Int
  tier : String
  deriving DecidableEq, Repr

structure BattleRated where
  eventIndex : Int
  rated : Bool
  deriving DecidableEq, Repr

structure RuleDeclared where
  eventIndex : Int
  rule : String
  deriving DecidableEq, Repr

structure PreviewPokemonDeclared where
  eventIndex : Int
  sideId : String
  details : String
  hasItem : Bool
  deriving DecidableEq, Repr

structure PreviewCleared where
  eventIndex : Int
  deriving DecidableEq, Repr

structure TeamPreviewStarted where
  eventIndex : Int
  deriving DecidableEq, Repr

/-! ## §2 Progress -/

structure BattleStarted where
  eventIndex : Int
  deriving DecidableEq, Repr

structure TurnStarted where
  eventIndex : Int
  turn : Int
  deriving DecidableEq, Repr

structure BattleWon where
  eventIndex : Int
  winner : String
  deriving DecidableEq, Repr

structure BattleTied where
  eventIndex : Int
  deriving DecidableEq, Repr

/-! ## §3 Pokemon -/

inductive BoostChangeMode where
  | delta
  | set
  deriving DecidableEq, Repr

/-- A permanent change carries full details and updates the switch-identity key; a temporary
one carries the species only. -/
inductive FormChangeKind where
  | persistentDetails
  | temporarySpecies
  deriving DecidableEq, Repr

structure PokemonSwitched where
  eventIndex : Int
  sideId : String
  slot : Int
  nickname : String
  details : String
  hp : HpToken
  deriving DecidableEq, Repr

structure PokemonDragged where
  eventIndex : Int
  sideId : String
  slot : Int
  nickname : String
  details : String
  hp : HpToken
  deriving DecidableEq, Repr

structure PokemonFainted where
  eventIndex : Int
  sideId : String
  slot : Int
  nickname : String
  deriving DecidableEq, Repr

structure MoveUsed where
  eventIndex : Int
  sideId : String
  slot : Int
  nickname : String
  moveId : String
  targetSideId : Option String
  targetSlot : Option Int
  targetNickname : Option String
  annotations : List String
  deriving DecidableEq, Repr

structure MovePrevented where
  eventIndex : Int
  sideId : String
  slot : Int
  nickname : String
  reason : String
  moveId : Option String
  deriving DecidableEq, Repr

/-- `slot` is `none` when the wire identifier carries no position letter. -/
structure HealthChanged where
  eventIndex : Int
  sideId : String
  slot : Option Int
  nickname : String
  hp : HpToken
  annotations : List String
  deriving DecidableEq, Repr

structure StatusChanged where
  eventIndex : Int
  sideId : String
  slot : Int
  nickname : String
  status : Option String
  annotations : List String
  deriving DecidableEq, Repr

structure TeamStatusCured where
  eventIndex : Int
  sideId : String
  deriving DecidableEq, Repr

structure BoostChanged where
  eventIndex : Int
  sideId : String
  slot : Int
  nickname : String
  stat : String
  mode : BoostChangeMode
  amount : Int
  deriving DecidableEq, Repr

structure BoostsSwapped where
  eventIndex : Int
  sideId : String
  slot : Int
  nickname : String
  targetSideId : String
  targetSlot : Int
  targetNickname : String
  stats : List String
  deriving DecidableEq, Repr

structure BoostsCopied where
  eventIndex : Int
  sideId : String
  slot : Int
  nickname : String
  sourceSideId : String
  sourceSlot : Int
  sourceNickname : String
  stats : List String
  deriving DecidableEq, Repr

/-- The target fields are all `none` for `-clearallboost`, which clears both sides' active
pokemon; the two checks of `__post_init__` are fields. -/
structure BoostsCleared where
  eventIndex : Int
  sideId : Option String
  slot : Option Int
  nickname : Option String
  scope : String
  targetWhole : (sideId.isNone ∧ slot.isNone ∧ nickname.isNone) ∨
    (sideId.isSome ∧ slot.isSome ∧ nickname.isSome)
  globalScope : sideId = none → scope = "all"
  deriving DecidableEq

structure BoostsInverted where
  eventIndex : Int
  sideId : String
  slot : Int
  nickname : String
  deriving DecidableEq, Repr

structure ItemChanged where
  eventIndex : Int
  sideId : String
  slot : Int
  nickname : String
  item : Option String
  action : String
  annotations : List String
  deriving DecidableEq, Repr

structure AbilityChanged where
  eventIndex : Int
  sideId : String
  slot : Int
  nickname : String
  ability : Option String
  action : String
  annotations : List String
  deriving DecidableEq, Repr

structure IdentityChanged where
  eventIndex : Int
  sideId : String
  slot : Int
  nickname : String
  details : String
  hp : HpToken
  deriving DecidableEq, Repr

/-- `value` is full details for a persistent change, a bare species for a temporary one. -/
structure FormChanged where
  eventIndex : Int
  sideId : String
  slot : Int
  nickname : String
  kind : FormChangeKind
  value : String
  hp : HpToken
  deriving DecidableEq, Repr

structure PokemonTransformed where
  eventIndex : Int
  sideId : String
  slot : Int
  nickname : String
  targetSideId : String
  targetSlot : Int
  targetNickname : String
  deriving DecidableEq, Repr

structure Terastallized where
  eventIndex : Int
  sideId : String
  slot : Int
  nickname : String
  teraType : String
  deriving DecidableEq, Repr

/-- `volatileName` is the source's `volatile`. -/
structure VolatileChanged where
  eventIndex : Int
  sideId : String
  slot : Int
  nickname : String
  volatileName : String
  action : String
  annotations : List String
  deriving DecidableEq, Repr

structure RechargeChanged where
  eventIndex : Int
  sideId : String
  slot : Int
  nickname : String
  recharging : Bool
  deriving DecidableEq, Repr

/-! ## §4 Field, evidence and ignored display lines -/

structure WeatherChanged where
  eventIndex : Int
  weather : Option String
  action : String
  deriving DecidableEq, Repr

structure FieldConditionChanged where
  eventIndex : Int
  condition : String
  action : String
  annotations : List String
  deriving DecidableEq, Repr

structure SideConditionChanged where
  eventIndex : Int
  sideId : String
  condition : String
  action : String
  deriving DecidableEq, Repr

structure SideConditionsSwapped where
  eventIndex : Int
  deriving DecidableEq, Repr

structure VisibleEvidence where
  eventIndex : Int
  kind : String
  sideId : Option String
  slot : Option Int
  nickname : Option String
  effect : Option String
  annotations : List String
  deriving DecidableEq, Repr

structure IgnoredDisplayEvent where
  eventIndex : Int
  kind : String
  deriving DecidableEq, Repr

/-! ## §5 The event sum -/

inductive BattleEvent where
  | battleInit (event : BattleInit)
  | playerDeclared (event : PlayerDeclared)
  | teamSizeDeclared (event : TeamSizeDeclared)
  | gameTypeDeclared (event : GameTypeDeclared)
  | generationDeclared (event : GenerationDeclared)
  | tierDeclared (event : TierDeclared)
  | battleRated (event : BattleRated)
  | ruleDeclared (event : RuleDeclared)
  | previewPokemonDeclared (event : PreviewPokemonDeclared)
  | previewCleared (event : PreviewCleared)
  | teamPreviewStarted (event : TeamPreviewStarted)
  | battleStarted (event : BattleStarted)
  | turnStarted (event : TurnStarted)
  | battleWon (event : BattleWon)
  | battleTied (event : BattleTied)
  | pokemonSwitched (event : PokemonSwitched)
  | pokemonDragged (event : PokemonDragged)
  | pokemonFainted (event : PokemonFainted)
  | moveUsed (event : MoveUsed)
  | movePrevented (event : MovePrevented)
  | healthChanged (event : HealthChanged)
  | statusChanged (event : StatusChanged)
  | teamStatusCured (event : TeamStatusCured)
  | boostChanged (event : BoostChanged)
  | boostsSwapped (event : BoostsSwapped)
  | boostsCopied (event : BoostsCopied)
  | boostsCleared (event : BoostsCleared)
  | boostsInverted (event : BoostsInverted)
  | itemChanged (event : ItemChanged)
  | abilityChanged (event : AbilityChanged)
  | identityChanged (event : IdentityChanged)
  | formChanged (event : FormChanged)
  | pokemonTransformed (event : PokemonTransformed)
  | terastallized (event : Terastallized)
  | volatileChanged (event : VolatileChanged)
  | rechargeChanged (event : RechargeChanged)
  | weatherChanged (event : WeatherChanged)
  | fieldConditionChanged (event : FieldConditionChanged)
  | sideConditionChanged (event : SideConditionChanged)
  | sideConditionsSwapped (event : SideConditionsSwapped)
  | visibleEvidence (event : VisibleEvidence)
  | ignoredDisplayEvent (event : IgnoredDisplayEvent)
  | other (eventIndex : Int) (className : String)
  deriving DecidableEq

/-- `event.event_index`. -/
@[simp] def BattleEvent.eventIndex : BattleEvent → Int
  | .battleInit event => event.eventIndex
  | .playerDeclared event => event.eventIndex
  | .teamSizeDeclared event => event.eventIndex
  | .gameTypeDeclared event => event.eventIndex
  | .generationDeclared event => event.eventIndex
  | .tierDeclared event => event.eventIndex
  | .battleRated event => event.eventIndex
  | .ruleDeclared event => event.eventIndex
  | .previewPokemonDeclared event => event.eventIndex
  | .previewCleared event => event.eventIndex
  | .teamPreviewStarted event => event.eventIndex
  | .battleStarted event => event.eventIndex
  | .turnStarted event => event.eventIndex
  | .battleWon event => event.eventIndex
  | .battleTied event => event.eventIndex
  | .pokemonSwitched event => event.eventIndex
  | .pokemonDragged event => event.eventIndex
  | .pokemonFainted event => event.eventIndex
  | .moveUsed event => event.eventIndex
  | .movePrevented event => event.eventIndex
  | .healthChanged event => event.eventIndex
  | .statusChanged event => event.eventIndex
  | .teamStatusCured event => event.eventIndex
  | .boostChanged event => event.eventIndex
  | .boostsSwapped event => event.eventIndex
  | .boostsCopied event => event.eventIndex
  | .boostsCleared event => event.eventIndex
  | .boostsInverted event => event.eventIndex
  | .itemChanged event => event.eventIndex
  | .abilityChanged event => event.eventIndex
  | .identityChanged event => event.eventIndex
  | .formChanged event => event.eventIndex
  | .pokemonTransformed event => event.eventIndex
  | .terastallized event => event.eventIndex
  | .volatileChanged event => event.eventIndex
  | .rechargeChanged event => event.eventIndex
  | .weatherChanged event => event.eventIndex
  | .fieldConditionChanged event => event.eventIndex
  | .sideConditionChanged event => event.eventIndex
  | .sideConditionsSwapped event => event.eventIndex
  | .visibleEvidence event => event.eventIndex
  | .ignoredDisplayEvent event => event.eventIndex
  | .other eventIndex _ => eventIndex

end BattleBelief
