import BattleBelief.Engine.SearchValues
import BattleBelief.Library.PythonDecimal
import BattleBelief.Records.PublicProjection

/-!
# The State Mapper

An observed state is only validated for the engine. A complete world, which search makes up, is
built as an engine state; and an engine state, built or reached, is frozen into its serialized form
with one view for each player, as a digest.
-/

namespace BattleBelief

open Python (Json)

/-! ## §1 Observed roots -/

/-- How exactly the HP of a side's active pokemon is public, and out of how much. -/
abbrev PublicHp := HpPrecision × Int

def percentHp : PublicHp := (.percent, 100)

/-- `_observed_hp_precision`, of the player's side. -/
def observedHpPrecision (side : SideView) : PublicHp :=
  match side.activeSlot with
  | none => percentHp
  | some slot =>
      if 1 ≤ slot ∧ slot ≤ side.pokemon.length then
        match (side.pokemon[(slot - 1).toNat]?).bind fun pokemon => pokemon.hp with
        | none => percentHp
        | some observation => (observation.precision, observation.maximum)
      else percentHp

/-- `_ObservedRoot`. -/
structure ObservedRoot where
  rootPlayer : Player
  digest : Digest
  publicHp : PublicHp × PublicHp

/-- The player whose side is ours. -/
def Player.ofSide : Option String → Option Player
  | some "p1" => some .p1
  | some "p2" => some .p2
  | _ => none

section Observed

variable [Python.UnicodeDatabase] [Rfc8785]

/-- `map_observed_root`. -/
def mapObservedRoot (state : ObservedState) : Except EngineError ObservedRoot :=
  if state.generation ≠ some 9 || state.gameType ≠ some "singles" || state.tier ≠ some "gen9ou" ||
      !state.roomInitialized || !state.battleStarted then
    .error (.stateMappingError MappingFailureClass.unsupportedMapping.value)
  else
    match Player.ofSide state.ourSide with
    | none => .error (.stateMappingError MappingFailureClass.unsupportedMapping.value)
    | some rootPlayer => do
        let publicHp := match rootPlayer with
          | .p1 => (percentHp, observedHpPrecision state.p2)
          | .p2 => (observedHpPrecision state.p1, percentHp)
        let digest ← Digest.manifest (projectObservedState state)
        pure ⟨rootPlayer, digest, publicHp⟩

end Observed

inductive TerminalOutcome where
  | won (player : Player)
  | tie
  deriving DecidableEq, Repr

/-- `_MappedNativeState`. -/
structure MappedNativeState where
  nativeState : String
  viewDigests : Digest × Digest
  activeIndexes : Int × Int
  activeTypes : List String × List String
  terastallized : Bool × Bool
  terminalOutcome : Option TerminalOutcome
  publicHp : PublicHp × PublicHp

section Mapper

variable {Obj : Type} {m : Type → Type} [Monad m] [MonadExceptOf EngineError m] [NativeModule Obj m]

/-- `_fail`. -/
def failState {α : Type} (failureClass : MappingFailureClass) : m α :=
  throw (EngineError.stateMappingError failureClass.value)

/-! ## §2 Documents -/

/-- `_exact_keys`. -/
def exactKeys (value : Json) (required optional : List String) : m (List (String × Json)) :=
  match value with
  | .obj members =>
      if !required.all fun key => Json.hasKey members key then failState .missingField
      else if !members.all fun (key, _) => key ∈ required ++ optional then
        failState .unsupportedMapping
      else pure members
  | _ => failState .missingField

/-- `document[key]`, for a key that is there. -/
def field (document : List (String × Json)) (key : String) : Json :=
  (Json.get? document key).getD .null

/-- `_integer`. -/
def integer (value : Json) (minimum : Int) : m Int :=
  match value with
  | .int value => if value < minimum then failState .unsupportedMapping else pure value
  | _ => failState .unsupportedMapping

/-- `_boolean`. -/
def boolean (value : Json) : m Bool :=
  match value with
  | .bool value => pure value
  | _ => failState .unsupportedMapping

/-- `_token`. -/
def token (value : Json) : m String :=
  match value with
  | .str value =>
      if value = "" || !value.toList.all Python.isAscii then failState .unsupportedMapping
      else pure value
  | _ => failState .unsupportedMapping

/-- The items of a sequence whose length lies within bounds. -/
def sequence (value : Json) (least most : Nat) : m (List Json) :=
  match value with
  | .arr items =>
      if least ≤ items.length ∧ items.length ≤ most then pure items
      else failState .unsupportedMapping
  | _ => failState .unsupportedMapping

/-- `_pair`. -/
def pair (value : Json) : m (PyValue Obj) := do
  let items ← sequence value 2 2
  let tokens ← items.mapM token
  pure (.tuple (tokens.map .str))

/-- `_evs`. -/
def evs (value : Json) : m (PyValue Obj) := do
  let items ← sequence value 6 6
  let values ← items.mapM fun item => integer item 0
  if values.any fun value => 252 < value then failState .unsupportedMapping
  pure (.tuple (values.map .int))

/-- `value == number`, for a small number. -/
def isNumber (value : Json) (number : Int) : Bool :=
  match value with
  | .int value => value = number
  | .bool value => (if value then 1 else 0) = number
  | .float text => text = toString number ++ ".0"
  | _ => false

/-! ## §3 Complete worlds -/

def worldKeys : List String :=
  ["schema_version", "fixture_id", "generation", "format", "field", "sides"]

def fieldKeys : List String :=
  ["weather", "weather_turns_remaining", "terrain", "terrain_turns_remaining", "trick_room",
    "trick_room_turns_remaining"]

def sideKeys : List String :=
  ["pokemon", "active_index", "force_switch", "force_trapped", "side_conditions"]

def pokemonKeys : List String :=
  ["id", "level", "types", "base_types", "hp", "maxhp", "ability", "base_ability", "item", "nature",
    "evs", "attack", "defense", "special_attack", "special_defense", "speed", "status", "tera_type",
    "terastallized", "moves"]

def moveKeys : List String := ["id", "pp", "disabled"]

def sideConditionKeys : List String :=
  ["spikes", "toxic_spikes", "stealth_rock", "sticky_web", "tailwind", "reflect", "light_screen",
    "aurora_veil", "safeguard", "mist", "toxic_count"]

def mapMove (value : Json) : m (PyValue Obj) := do
  let move ← exactKeys value moveKeys []
  let id ← token (field move "id")
  let pp ← integer (field move "pp") 0
  let disabled ← boolean (field move "disabled")
  NativeModule.call .completeWorld "Move"
    [("id", .str id), ("pp", .int pp), ("disabled", .bool disabled)]

/-- `_pokemon`. A field that does not fit counts as a native exception from here on: the handler
around the constructor catches everything. -/
def mapPokemon (value : Json) : m (PyValue Obj) := do
  let document ← exactKeys value pokemonKeys []
  let rawMoves ← sequence (field document "moves") 1 4
  let moves ← rawMoves.mapM mapMove
  let ids ← moves.mapM fun move => NativeModule.getattr .completeWorld move "id"
  let count ← distinctCount .completeWorld ids
  if count ≠ moves.length then failState .unsupportedMapping
  let hp ← integer (field document "hp") 0
  let maxhp ← integer (field document "maxhp") 1
  if maxhp < hp then failState .unsupportedMapping
  tryCatch (do
    let id ← token (field document "id")
    let level ← integer (field document "level") 1
    let types ← pair (field document "types")
    let baseTypes ← pair (field document "base_types")
    let ability ← token (field document "ability")
    let baseAbility ← token (field document "base_ability")
    let item ← token (field document "item")
    let nature ← token (field document "nature")
    let evs ← evs (field document "evs")
    let attack ← integer (field document "attack") 1
    let defense ← integer (field document "defense") 1
    let specialAttack ← integer (field document "special_attack") 1
    let specialDefense ← integer (field document "special_defense") 1
    let speed ← integer (field document "speed") 1
    let status ← token (field document "status")
    let teraType ← token (field document "tera_type")
    let terastallized ← boolean (field document "terastallized")
    NativeModule.call .guarded "Pokemon"
      [("id", .str id), ("level", .int level), ("types", types), ("base_types", baseTypes),
        ("hp", .int hp), ("maxhp", .int maxhp), ("ability", .str ability),
        ("base_ability", .str baseAbility), ("item", .str item), ("nature", .str nature),
        ("evs", evs), ("attack", .int attack), ("defense", .int defense),
        ("special_attack", .int specialAttack), ("special_defense", .int specialDefense),
        ("speed", .int speed), ("status", .str status), ("tera_type", .str teraType),
        ("terastallized", .bool terastallized), ("moves", .list moves)])
    fun _ => failState .nativeException

/-- `_side`. -/
def mapSide (value : Json) : m (PyValue Obj) := do
  let document ← exactKeys value sideKeys []
  let rawPokemon ← sequence (field document "pokemon") 1 6
  let pokemon ← rawPokemon.mapM mapPokemon
  let activeIndex ← integer (field document "active_index") 0
  if (pokemon.length : Int) ≤ activeIndex then failState .unsupportedMapping
  let conditions ← exactKeys (field document "side_conditions") [] sideConditionKeys
  let counts ← conditions.mapM fun (name, count) => do
    let count ← integer count 0
    pure (name, PyValue.int count)
  tryCatch (do
    let indexes ← NativeModule.member .guarded "PokemonIndex"
    let index ← NativeModule.getattr .guarded indexes s!"P{activeIndex}"
    let forceSwitch ← boolean (field document "force_switch")
    let forceTrapped ← boolean (field document "force_trapped")
    let sideConditions ← NativeModule.call .guarded "SideConditions" counts
    NativeModule.call .guarded "Side"
      [("pokemon", .list pokemon), ("active_index", index), ("force_switch", .bool forceSwitch),
        ("force_trapped", .bool forceTrapped), ("side_conditions", sideConditions)])
    fun _ => failState .nativeException

/-- `getattr(native.group, _token(value).upper())`, as a field that the engine has to know. -/
def namedMember (group : String) (value : Json) : m (PyValue Obj) := do
  let members ← NativeModule.member .preparedRoot group
  let name ← token value
  NativeModule.getattr .preparedRoot members (String.ofList (name.toList.map Char.toUpper))

/-- The engine state that a complete world stands for. -/
def buildCompleteWorld (document : Json) : m (PyValue Obj) := do
  let world ← exactKeys document worldKeys []
  if !isNumber (field world "schema_version") 1 || !isNumber (field world "generation") 9 ||
      !(match field world "format" with | .str format => format = "gen9ou" | _ => false) then
    failState .unsupportedMapping
  let _ ← token (field world "fixture_id")
  let fieldDocument ← exactKeys (field world "field") fieldKeys []
  let sides ← exactKeys (field world "sides") ["p1", "p2"] []
  let (weather, terrain) ← tryCatch (do
      let weather ← namedMember "Weather" (field fieldDocument "weather")
      let terrain ← namedMember "Terrain" (field fieldDocument "terrain")
      pure (weather, terrain))
    fun
      | .attributeError => failState .unsupportedMapping
      | .typeError => failState .unsupportedMapping
      | error => throw error
  tryCatch (do
    let sideOne ← mapSide (field sides "p1")
    let sideTwo ← mapSide (field sides "p2")
    let weatherTurns ← integer (field fieldDocument "weather_turns_remaining") 0
    let terrainTurns ← integer (field fieldDocument "terrain_turns_remaining") 0
    let trickRoom ← boolean (field fieldDocument "trick_room")
    let trickRoomTurns ← integer (field fieldDocument "trick_room_turns_remaining") 0
    NativeModule.call .completeWorld "State"
      [("side_one", sideOne), ("side_two", sideTwo), ("weather", weather),
        ("weather_turns_remaining", .int weatherTurns), ("terrain", terrain),
        ("terrain_turns_remaining", .int terrainTurns), ("trick_room", .bool trickRoom),
        ("trick_room_turns_remaining", .int trickRoomTurns)])
    fun
      | .stateMappingError failureClass => throw (EngineError.stateMappingError failureClass)
      | _ => failState .nativeException

/-! ## §4 What a player sees -/

def read (receiver : PyValue Obj) (name : String) : m (PyValue Obj) :=
  NativeModule.getattr .nativeState receiver name

def readInt (receiver : PyValue Obj) (name : String) : m Int := do
  toInt .nativeState (← read receiver name)

def readBool (receiver : PyValue Obj) (name : String) : m Bool := do
  toBool .nativeState (← read receiver name)

def readItems (receiver : PyValue Obj) (name : String) : m (List (PyValue Obj)) := do
  toItems .nativeState (← read receiver name)

/-- `side.pokemon[index]` -/
def readPokemon (side : PyValue Obj) (index : Int) : m (PyValue Obj) := do
  NativeModule.item .nativeState (← read side "pokemon") index

/-- `_effective_types`. -/
def effectiveTypes (active : PyValue Obj) : m (List String) := do
  if ← readBool active "terastallized" then
    let teraType ← toStr .nativeState (← read active "tera_type")
    pure [Python.lower teraType, "typeless"]
  else
    let types ← readItems active "types"
    types.mapM fun value => do
      let text ← toStr .nativeState value
      pure (Python.lower text)

/-- `all(int(pokemon.hp) <= 0 for pokemon in ...)` -/
def allDefeated : List (PyValue Obj) → m Bool
  | [] => pure true
  | pokemon :: rest => do
      let hp ← readInt pokemon "hp"
      if hp ≤ 0 then allDefeated rest else pure false

def privateMove (move : PyValue Obj) : m (PyValue Obj) := do
  let id ← read move "id"
  let pp ← readInt move "pp"
  let disabled ← readBool move "disabled"
  pure (.dict [("id", id), ("pp", .int pp), ("disabled", .bool disabled)])

def privatePokemon (pokemon : PyValue Obj) : m (PyValue Obj) := do
  let id ← read pokemon "id"
  let hp ← readInt pokemon "hp"
  let maxhp ← readInt pokemon "maxhp"
  let ability ← read pokemon "ability"
  let item ← read pokemon "item"
  let moves ← (← readItems pokemon "moves").mapM privateMove
  let teraType ← read pokemon "tera_type"
  let terastallized ← readBool pokemon "terastallized"
  let attack ← readInt pokemon "attack"
  let defense ← readInt pokemon "defense"
  let specialAttack ← readInt pokemon "special_attack"
  let specialDefense ← readInt pokemon "special_defense"
  let speed ← readInt pokemon "speed"
  pure (.dict [("id", id), ("hp", .int hp), ("maxhp", .int maxhp), ("ability", ability),
    ("item", item), ("moves", .list moves), ("tera_type", teraType),
    ("terastallized", .bool terastallized),
    ("stats", .list ([attack, defense, specialAttack, specialDefense, speed].map .int))])

/-- The sides of a state. -/
def readSides (state : PyValue Obj) : m (PyValue Obj × PyValue Obj) := do
  let sideOne ← read state "side_one"
  let sideTwo ← read state "side_two"
  pure (sideOne, sideTwo)

/-- What a player knows of the own side. -/
def ownPrivate (state : PyValue Obj) (player : Player) : m (PyValue Obj) := do
  let sides ← readSides state
  let own := player.pick sides
  let activeIndex ← readInt own "active_index"
  let pokemon ← (← readItems own "pokemon").mapM privatePokemon
  pure (.dict [("active_index", .int activeIndex), ("pokemon", .list pokemon)])

/-- The HP of an active pokemon, as a player sees it. -/
inductive PublicHpValue where
  | exact (hp maxhp : Int)
  | share (value : Int)
  deriving DecidableEq

def PublicHpValue.toPyValue : PublicHpValue → PyValue Obj
  | .exact hp maxhp => .list [.int hp, .int maxhp]
  | .share value => .int value

structure PublicActive (Obj : Type) where
  activeIndex : Int
  id : PyValue Obj
  hp : PublicHpValue
  status : PyValue Obj
  types : List String
  terastallized : Bool
  teraType : PyValue Obj

/-- The HP of an active pokemon, exactly or as a rounded share. -/
def publicHpValue (own : Bool) (publicHp : PublicHp) (hp maxhp : Int) : m PublicHpValue :=
  if own || publicHp.1 = .exact then pure (.exact hp maxhp)
  else
    let denominator := if publicHp.1 = .pixel then publicHp.2 else 100
    match Python.Float.scaledQuotient hp maxhp denominator with
    | some share => pure (.share share)
    | none => throw EngineError.arithmeticError

/-- `active.tera_type if bool(active.terastallized) else None` -/
def readTeraType (active : PyValue Obj) : m (PyValue Obj) := do
  if ← readBool active "terastallized" then read active "tera_type" else pure .none

/-- `_public_active`. -/
def publicActive (side : PyValue Obj) (own : Bool) (publicHp : PublicHp) : m (PublicActive Obj) := do
  let index ← readInt side "active_index"
  let active ← readPokemon side index
  let hp ← readInt active "hp"
  let maxhp ← readInt active "maxhp"
  let hpValue ← publicHpValue own publicHp hp maxhp
  let id ← read active "id"
  let status ← read active "status"
  let types ← effectiveTypes active
  let terastallized ← readBool active "terastallized"
  let teraType ← readTeraType active
  pure ⟨index, id, hpValue, status, types, terastallized, teraType⟩

/-- The entry of a key whose value has changed. -/
def changedEntry (changed : Bool) (key : String) (value : PyValue Obj) :
    List (String × PyValue Obj) :=
  if changed then [(key, value)] else []

/-- `{key: value for key, value in after.items() if before.get(key) != value}` -/
def changedActive (before after : PublicActive Obj) (precision : HpPrecision) :
    m (List (String × PyValue Obj)) := do
  let id ← isDifferent .nativeState before.id after.id
  let status ← isDifferent .nativeState before.status after.status
  let teraType ← isDifferent .nativeState before.teraType after.teraType
  pure (changedEntry (before.activeIndex ≠ after.activeIndex) "active_index"
      (.int after.activeIndex) ++
    changedEntry id "id" after.id ++
    changedEntry (before.hp ≠ after.hp) "hp"
      (.dict [("current", after.hp.toPyValue), ("precision", .str precision.value)]) ++
    changedEntry status "status" after.status ++
    changedEntry (before.types ≠ after.types) "types" (.list (after.types.map .str)) ++
    changedEntry (before.terastallized ≠ after.terastallized) "terastallized"
      (.bool after.terastallized) ++
    changedEntry teraType "tera_type" after.teraType)

/-- What changes of one side, as a player sees it. -/
def sideDelta (sideId player : Player) (source target : PyValue Obj) (publicHp : PublicHp) :
    m (List (String × PyValue Obj)) := do
  let before ← publicActive source (sideId = player) publicHp
  let after ← publicActive target (sideId = player) publicHp
  let changed ← changedActive before after publicHp.1
  pure (changedEntry (!changed.isEmpty) sideId.value (.dict changed))

/-- What changes of a part of the field. -/
def fieldDelta (source target : PyValue Obj) (name : String) : m (List (String × PyValue Obj)) := do
  let before ← read source name
  let after ← read target name
  let changed ← isDifferent .nativeState before after
  pure (changedEntry changed name after)

/-- `_public_transition_delta`. -/
def publicTransitionDelta (source target : PyValue Obj) (player : Player)
    (publicHp : PublicHp × PublicHp) : m (PyValue Obj) := do
  let sourceOne ← read source "side_one"
  let targetOne ← read target "side_one"
  let sourceTwo ← read source "side_two"
  let targetTwo ← read target "side_two"
  let deltaOne ← sideDelta .p1 player sourceOne targetOne publicHp.1
  let deltaTwo ← sideDelta .p2 player sourceTwo targetTwo publicHp.2
  let sideDeltas := deltaOne ++ deltaTwo
  let weather ← fieldDelta source target "weather"
  let terrain ← fieldDelta source target "terrain"
  let trickRoom ← fieldDelta source target "trick_room"
  pure (.dict (changedEntry (!sideDeltas.isEmpty) "sides" (.dict sideDeltas) ++ weather ++ terrain ++
    trickRoom))

variable [Rfc8785]

/-- The document of a player's view: of a root it names the observed state, later on the view
before and what has changed since. -/
def viewDocument (state : PyValue Obj) (observedDigest : Digest) (player : Player)
    (priorViewDigest : Option Digest) (source : PyValue Obj) (publicHp : PublicHp × PublicHp) :
    m (PyValue Obj) := do
  let own ← ownPrivate state player
  match priorViewDigest with
  | none =>
      pure (.dict [("observed_state_digest", .str observedDigest.text),
        ("player", .str player.value), ("own_private", own)])
  | some prior => do
      let delta ← publicTransitionDelta source state player publicHp
      pure (.dict [("prior_view_digest", .str prior.text), ("player", .str player.value),
        ("own_private", own), ("public_transition_delta", delta)])

/-- `_view_digest`. -/
def viewDigest (state : PyValue Obj) (observedDigest : Digest) (player : Player)
    (priorViewDigest : Option Digest) (source : PyValue Obj) (publicHp : PublicHp × PublicHp) :
    m Digest := do
  let document ← viewDocument state observedDigest player priorViewDigest source publicHp
  MonadExcept.ofExcept (document.toJson >>= Digest.manifest)

/-! ## §5 Freezing a state -/

/-- Who has won, from whose pokemon are all defeated. -/
def terminalOutcome (defeated : Bool × Bool) : Option TerminalOutcome :=
  match defeated with
  | (true, true) => some .tie
  | (false, true) => some (.won .p1)
  | (true, false) => some (.won .p2)
  | (false, false) => none

/-- `state.to_string()`, which has to be a text. -/
def serialize (state : PyValue Obj) : m String := do
  match ← NativeModule.invoke .nativeState state "to_string" [] with
  | .str text => if text = "" then failState .malformedNativeResult else pure text
  | _ => failState .malformedNativeResult

/-- The body of `map_native_state`. -/
def freezeNativeState (state : PyValue Obj) (observedDigest : Digest)
    (priorViewDigests : Option (Digest × Digest)) (sourceState : Option (PyValue Obj))
    (publicHp : PublicHp × PublicHp) : m MappedNativeState := do
  let serialized ← serialize state
  let sides ← readSides state
  let indexOne ← readInt sides.1 "active_index"
  let indexTwo ← readInt sides.2 "active_index"
  let terastallizedOne ← readBool (← readPokemon sides.1 indexOne) "terastallized"
  let terastallizedTwo ← readBool (← readPokemon sides.2 indexTwo) "terastallized"
  let typesOne ← effectiveTypes (← readPokemon sides.1 indexOne)
  let typesTwo ← effectiveTypes (← readPokemon sides.2 indexTwo)
  let defeatedOne ← allDefeated (← readItems sides.1 "pokemon")
  let defeatedTwo ← allDefeated (← readItems sides.2 "pokemon")
  if priorViewDigests.isNone ≠ sourceState.isNone then failState .inconsistentPlayerView
  else do
    let source := sourceState.getD .none
    let viewOne ← viewDigest state observedDigest .p1 (priorViewDigests.map Prod.fst) source publicHp
    let viewTwo ← viewDigest state observedDigest .p2 (priorViewDigests.map Prod.snd) source publicHp
    pure
      { nativeState := serialized
        viewDigests := (viewOne, viewTwo)
        activeIndexes := (indexOne, indexTwo)
        activeTypes := (typesOne, typesTwo)
        terastallized := (terastallizedOne, terastallizedTwo)
        terminalOutcome := terminalOutcome (defeatedOne, defeatedTwo)
        publicHp := publicHp }

/-- `map_native_state`. -/
def mapNativeState (state : PyValue Obj) (observedDigest : Digest)
    (priorViewDigests : Option (Digest × Digest)) (sourceState : Option (PyValue Obj))
    (publicHp : PublicHp × PublicHp) : m MappedNativeState :=
  tryCatch (freezeNativeState state observedDigest priorViewDigests sourceState publicHp) fun
    | .stateMappingError failureClass => throw (EngineError.stateMappingError failureClass)
    | _ => failState .malformedNativeResult

/-- `map_complete_world`. -/
def mapCompleteWorld (document : Json) (observedDigest : Digest)
    (publicHp : PublicHp × PublicHp) : m MappedNativeState := do
  let state ← buildCompleteWorld document
  mapNativeState state observedDigest none none publicHp

end Mapper

end BattleBelief
