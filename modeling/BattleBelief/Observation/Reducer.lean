import BattleBelief.Domain.ObservedState
import BattleBelief.Library.PythonDict

/-!
# The Observation Reducer

`reduce` applies one canonical event to an observed state, or raises. It is the only way that
observed state changes.

The source replaces a pokemon in its roster by object identity, since teammates may share a
nickname and all their data. A roster position plays that part here: `RosterEntry` is a pokemon
together with the position it was read from.
-/

namespace BattleBelief

/-! ## §1 HP observations -/

/-- The observation that `token` makes of a pokemon of `sideId`: exact on our own side. -/
def tokenToObservation (token : HpToken) (sideId : String) (ourSide : Option String) :
    Except PyException HpObservation :=
  let precision :=
    if ourSide = some sideId then HpPrecision.exact
    else if token.maximum = 100 then HpPrecision.percent
    else HpPrecision.pixel
  if token.fainted then
    HpObservation.create 0 (max token.maximum 1) precision true
  else
    HpObservation.create token.current token.maximum precision false

/-- The observation that a faint line makes: no HP left of the maximum known before. -/
def faintedHp (previous : Option HpObservation) : HpObservation :=
  match previous with
  | some hp =>
      { current := 0, maximum := hp.maximum, precision := hp.precision, fainted := true
        bounds := ⟨hp.bounds.1, le_refl 0, hp.bounds.1.le⟩
        faintedZero := fun _ => rfl }
  | none =>
      { current := 0, maximum := 100, precision := .percent, fainted := true
        bounds := by decide
        faintedZero := fun _ => rfl }

/-! ## §2 Finding pokemon -/

/-- A pokemon and its roster position. -/
structure RosterEntry where
  position : Nat
  view : PokemonView

/-- The roster as entries. -/
def entries (pokemon : List PokemonView) : List RosterEntry :=
  pokemon.zipIdx.map fun (view, position) => ⟨position, view⟩

/-- `_find_active`: the first active pokemon. -/
def findActive (side : SideView) : Option RosterEntry :=
  (entries side.pokemon).find? fun entry => entry.view.active

/-- `_require_active`: the active pokemon, if it has the event's nickname. -/
def requireActive (side : SideView) (nickname context : String) :
    Except PyException RosterEntry :=
  match findActive side with
  | none => .error (.reducerInvariantError (.noActive context side.sideId))
  | some entry =>
      if entry.view.nickname = nickname then .ok entry
      else
        .error (.reducerInvariantError
          (.nicknameMismatch context nickname entry.view.nickname side.sideId))

/-- `_require_health_target`: an identifier without position names the one fainted bench
member with its nickname. -/
def requireHealthTarget (side : SideView) (nickname : String) (slot : Option Int) :
    Except PyException RosterEntry :=
  match slot with
  | some _ => requireActive side nickname "health"
  | none =>
      let candidates := (entries side.pokemon).filter fun entry =>
        !entry.view.active && entry.view.fainted && entry.view.nickname = nickname
      match candidates with
      | [entry] => .ok entry
      | _ =>
          .error (.reducerInvariantError
            (.unresolvedTarget nickname side.sideId candidates.length))

/-- `_find_for_switch_in`: the first pokemon with this nickname and switch identity. -/
def findForSwitchIn (pokemon : List PokemonView) (nickname details : String) :
    Option RosterEntry :=
  let targetIdentity := normalizeIdentityDetails details
  (entries pokemon).find? fun entry =>
    entry.view.nickname = nickname && entry.view.switchIdentity = targetIdentity

/-! ## §3 Replacing parts of the state -/

/-- `_replace_pokemon`. -/
def replacePokemon (side : SideView) (original : RosterEntry) (updated : PokemonView) :
    SideView :=
  { side with pokemon := side.pokemon.set original.position updated }

/-- `_update_side`: the new side goes where its own id says. -/
def updateSide (state : ObservedState) (newSide : SideView) :
    Except PyException ObservedState :=
  if newSide.sideId = "p1" then .ok { state with p1 := newSide }
  else if newSide.sideId = "p2" then .ok { state with p2 := newSide }
  else .error (.reducerInvariantError (.invalidSide newSide.sideId))

/-- The shape that most pokemon events share: find the side, find its active pokemon, compute
the updated pokemon and put it in place. -/
def updateActive (state : ObservedState) (sideId nickname context : String)
    (update : PokemonView → Except PyException PokemonView) :
    Except PyException ObservedState := do
  let side ← state.side sideId
  let entry ← requireActive side nickname context
  let updated ← update entry.view
  updateSide state (replacePokemon side entry updated)

/-- Appends to the visible evidence. -/
def recordEvidence (state : ObservedState) (evidence : VisibleEvidence) : ObservedState :=
  { state with visibleEvidence := state.visibleEvidence ++ [evidence] }

/-! ## §4 Boosts -/

/-- `BOOST_STATS.index(stat)`. -/
def statIndex (stat : String) : Except PyException Nat :=
  match boostStats.idxOf? stat with
  | some idx => .ok idx
  | none => .error (.valueError "tuple.index(x): x not in tuple")

/-- `boosts[idx]`; a boost tuple has an entry for every stat. -/
def boostAt (boosts : List Int) (idx : Nat) : Int := boosts.getD idx 0

def clampBoost (value : Int) : Int := max (-6) (min 6 value)

/-- The boosts with `value` at `idx`. -/
def putBoost (boosts : List Int) (idx : Nat) (value : Int) : List Int :=
  boosts.take idx ++ value :: boosts.drop (idx + 1)

/-- `_apply_boost_delta`. -/
def applyBoostDelta (boosts : List Int) (stat : String) (delta : Int) :
    Except PyException (List Int) := do
  let idx ← statIndex stat
  pure (putBoost boosts idx (clampBoost (boostAt boosts idx + delta)))

/-- `_set_boost`. -/
def setBoost (boosts : List Int) (stat : String) (value : Int) :
    Except PyException (List Int) := do
  let idx ← statIndex stat
  pure (putBoost boosts idx (clampBoost value))

/-- The boosts after a `BoostChanged` event. -/
def changeBoost (boosts : List Int) (event : BoostChanged) : Except PyException (List Int) :=
  match event.mode with
  | .set => setBoost boosts event.stat event.amount
  | .delta => applyBoostDelta boosts event.stat event.amount

/-- `_clear_boosts`. -/
def clearBoosts (boosts : List Int) (scope : String) : Except PyException (List Int) :=
  if scope = "all" then .ok zeroBoosts
  else if scope = "positive" then .ok (boosts.map fun b => min b 0)
  else if scope = "negative" then .ok (boosts.map fun b => max b 0)
  else
    match boostStats.idxOf? scope with
    | some idx => .ok (putBoost boosts idx 0)
    | none => .error (.reducerInvariantError (.unknownScope scope))

/-- Exchanges the listed stats of two boost lists, one stat after the other. -/
def swapStats : List String → List Int → List Int → Except PyException (List Int × List Int)
  | [], src, tgt => .ok (src, tgt)
  | stat :: stats, src, tgt => do
      let idx ← statIndex stat
      swapStats stats (src.set idx (boostAt tgt idx)) (tgt.set idx (boostAt src idx))

/-- Copies the listed stats of `src` over `tgt`. -/
def copyStats (src : List Int) : List String → List Int → Except PyException (List Int)
  | [], tgt => .ok tgt
  | stat :: stats, tgt => do
      let idx ← statIndex stat
      copyStats src stats (tgt.set idx (boostAt src idx))

/-- Both active pokemon of one side exchange boosts, that is, one pokemon does with itself.

The second replacement in the source looks for an object that the first one has already taken
out of the roster, and so leaves the first one's result. -/
def swapOnOneSide (state : ObservedState) (side : SideView) (src : RosterEntry)
    (srcBoosts : List Int) : Except PyException ObservedState :=
  updateSide state (replacePokemon side src { src.view with boosts := srcBoosts })

/-- The `BoostsSwapped` branch. -/
def reduceBoostsSwapped (state : ObservedState) (event : BoostsSwapped) :
    Except PyException ObservedState := do
  let srcSide ← state.side event.sideId
  let tgtSide ← state.side event.targetSideId
  let src ← requireActive srcSide event.nickname "swap_boost_src"
  let tgt ← requireActive tgtSide event.targetNickname "swap_boost_tgt"
  let (srcBoosts, tgtBoosts) ← swapStats event.stats src.view.boosts tgt.view.boosts
  if event.sideId = event.targetSideId then
    swapOnOneSide state srcSide src srcBoosts
  else
    let state ← updateSide state
      (replacePokemon srcSide src { src.view with boosts := srcBoosts })
    let tgtSide ← state.side event.targetSideId
    updateSide state (replacePokemon tgtSide tgt { tgt.view with boosts := tgtBoosts })

/-- The `BoostsCopied` branch. -/
def reduceBoostsCopied (state : ObservedState) (event : BoostsCopied) :
    Except PyException ObservedState := do
  let srcSide ← state.side event.sourceSideId
  let tgtSide ← state.side event.sideId
  let src ← requireActive srcSide event.sourceNickname "copy_boost_src"
  let tgt ← requireActive tgtSide event.nickname "copy_boost_tgt"
  let tgtBoosts ← copyStats src.view.boosts event.stats tgt.view.boosts
  updateSide state (replacePokemon tgtSide tgt { tgt.view with boosts := tgtBoosts })

/-- Clears the boosts of a side's active pokemon, if it has one. -/
def clearActiveBoosts (side : SideView) (scope : String) : Except PyException SideView :=
  match findActive side with
  | none => .ok side
  | some entry => do
      let cleared ← clearBoosts entry.view.boosts scope
      pure (replacePokemon side entry { entry.view with boosts := cleared })

/-- `assert event.nickname is not None`; the event's own constructor guarantees it. -/
def assertNickname : Option String → Except PyException String
  | some nickname => .ok nickname
  | none => .error .assertionError

/-- The `BoostsCleared` branch. -/
def reduceBoostsCleared (state : ObservedState) (event : BoostsCleared) :
    Except PyException ObservedState :=
  match event.sideId with
  | none => do
      let newP1 ← clearActiveBoosts state.p1 event.scope
      let newP2 ← clearActiveBoosts state.p2 event.scope
      pure { state with p1 := newP1, p2 := newP2 }
  | some sideId => do
      let side ← state.side sideId
      let nickname ← assertNickname event.nickname
      let entry ← requireActive side nickname "clear_boost"
      let newBoosts ← clearBoosts entry.view.boosts event.scope
      updateSide state (replacePokemon side entry { entry.view with boosts := newBoosts })

/-! ## §5 Evidence intervals -/

/-- `_close_open_interval`. -/
def closeOpenInterval (intervals : List EvidenceInterval) (eventIndex : Int) :
    List EvidenceInterval :=
  intervals.map fun iv =>
    if iv.validUntil = none then { iv with validUntil := some eventIndex } else iv

/-- `_open_interval`. -/
def openInterval (intervals : List EvidenceInterval) (value : Option String)
    (eventIndex : Int) : List EvidenceInterval :=
  closeOpenInterval intervals eventIndex ++
    [{ value := value, sourceEventIndex := eventIndex, validFrom := eventIndex
       validUntil := none }]

/-- `_end_ability_suppression_on_switch_out`: a suppressed ability is an open interval without
a value, and ends when the pokemon leaves the field. -/
def endAbilitySuppressionOnSwitchOut (intervals : List EvidenceInterval) (eventIndex : Int) :
    List EvidenceInterval :=
  match intervals.getLast? with
  | some last =>
      if last.validUntil = none ∧ last.value = none then
        closeOpenInterval intervals eventIndex
      else
        intervals
  | none => intervals

/-! ## §6 Switching -/

/-- What a pokemon is after it has left the field. -/
def deactivate (pv : PokemonView) (eventIndex : Int) : PokemonView :=
  if pv.active then
    { pv with
      active := false
      boosts := zeroBoosts
      volatiles := []
      recharging := false
      transformTarget := none
      abilityIntervals := endAbilitySuppressionOnSwitchOut pv.abilityIntervals eventIndex }
  else
    pv

/-- `_activate_pokemon`: deactivate the current active pokemon, activate or add the named one. -/
def activatePokemon (side : SideView) (nickname details : String) (hp : HpObservation)
    (status : Option String) (eventIndex : Int) : SideView :=
  let deactivated := side.pokemon.map fun pv => deactivate pv eventIndex
  match findForSwitchIn deactivated nickname details with
  | none =>
      let newPv :=
        { PokemonView.new side.sideId nickname (some details) with
          active := true
          hp := some hp
          status := status
          currentDetails := some details }
      { side with pokemon := deactivated ++ [newPv], activeSlot := some 1 }
  | some existing =>
      let updated :=
        { existing.view with
          active := true
          hp := some hp
          status := status
          fainted := false
          currentDetails := some details
          boosts := zeroBoosts
          volatiles := []
          recharging := false
          transformTarget := none }
      { side with pokemon := deactivated.set existing.position updated, activeSlot := some 1 }

/-- The branch that switch and drag share. -/
def reduceSwitch (state : ObservedState) (sideId nickname details : String) (hp : HpToken)
    (eventIndex : Int) : Except PyException ObservedState := do
  let hpObs ← tokenToObservation hp sideId state.ourSide
  let side ← state.side sideId
  updateSide state (activatePokemon side nickname details hpObs hp.status eventIndex)

/-! ## §7 Side conditions -/

/-- Layer caps by side condition. -/
def layerCaps : List (String × Int) := [("spikes", 3), ("toxicspikes", 2)]

def defaultLayerCap : Int := 1

/-- `_update_side_condition`. -/
def updateSideCondition (conditions : List (String × Int)) (condition action : String) :
    List (String × Int) :=
  let condDict := Python.Dict.ofPairs conditions
  let condDict :=
    if action = "start" ∨ action = "upkeep" then
      let cap := (Python.Dict.get? layerCaps condition).getD defaultLayerCap
      Python.Dict.assign condDict condition
        (min ((Python.Dict.get? condDict condition).getD 0 + 1) cap)
    else if action = "end" then Python.Dict.pop condDict condition
    else condDict
  Python.Dict.sortedItems condDict

/-! ## §8 The reducer -/

/-- The `HealthChanged` branch. -/
def reduceHealthChanged (state : ObservedState) (event : HealthChanged) :
    Except PyException ObservedState := do
  let side ← state.side event.sideId
  let entry ← requireHealthTarget side event.nickname event.slot
  let hpObs ← tokenToObservation event.hp event.sideId state.ourSide
  updateSide state (replacePokemon side entry
    { entry.view with hp := some hpObs, status := event.hp.status, fainted := event.hp.fainted })

/-- The `IdentityChanged` branch: the active pokemon turns out to be another one. -/
def reduceIdentityChanged (state : ObservedState) (event : IdentityChanged) :
    Except PyException ObservedState := do
  let side ← state.side event.sideId
  match findActive side with
  | none => throw (.reducerInvariantError (.identityNoActive event.sideId))
  | some entry =>
      let newIntervals :=
        openInterval entry.view.identityIntervals (some event.details) event.eventIndex
      let hpObs ← tokenToObservation event.hp event.sideId state.ourSide
      updateSide state (replacePokemon side entry
        { entry.view with
          nickname := event.nickname
          switchIdentity := normalizeIdentityDetails event.details
          currentDetails := some event.details
          identityIntervals := newIntervals
          hp := some hpObs
          status := event.hp.status
          fainted := event.hp.fainted })

/-- The pokemon after a form change; only a persistent one rewrites the switch identity. -/
def changeForm (pv : PokemonView) (event : FormChanged) (hpObs : HpObservation) : PokemonView :=
  match event.kind with
  | .persistentDetails =>
      { pv with
        switchIdentity := normalizeIdentityDetails event.value
        currentDetails := some event.value
        hp := some hpObs
        status := event.hp.status
        fainted := event.hp.fainted }
  | .temporarySpecies =>
      { pv with
        currentDetails := some event.value
        hp := some hpObs
        status := event.hp.status
        fainted := event.hp.fainted }

/-- Adds a move to those that the pokemon is known to have. -/
def revealMove (state : ObservedState) (side : SideView) (entry : RosterEntry)
    (moveId : String) : Except PyException ObservedState :=
  if moveId ∈ entry.view.revealedMoves then .ok state
  else
    updateSide state (replacePokemon side entry
      { entry.view with revealedMoves := entry.view.revealedMoves ++ [moveId] })

/-- The `MoveUsed` branch. -/
def reduceMoveUsed (state : ObservedState) (event : MoveUsed) :
    Except PyException ObservedState := do
  let side ← state.side event.sideId
  let entry ← requireActive side event.nickname "move"
  let state ← revealMove state side entry event.moveId
  pure (recordEvidence state
    { eventIndex := event.eventIndex, kind := "move", sideId := some event.sideId
      slot := some event.slot, nickname := some event.nickname, effect := some event.moveId
      annotations := event.annotations })

/-- The `VolatileChanged` branch. -/
def reduceVolatileChanged (state : ObservedState) (event : VolatileChanged) :
    Except PyException ObservedState := do
  let side ← state.side event.sideId
  let entry ← requireActive side event.nickname "volatile"
  if event.action = "start" then
    if event.volatileName ∈ entry.view.volatiles then pure state
    else
      updateSide state (replacePokemon side entry
        { entry.view with
          volatiles := Python.sorted (entry.view.volatiles ++ [event.volatileName]) })
  else if event.action = "end" then
    updateSide state (replacePokemon side entry
      { entry.view with
        volatiles := entry.view.volatiles.filter fun v => v != event.volatileName })
  else
    pure state

/-- The `FieldConditionChanged` branch. -/
def reduceFieldConditionChanged (state : ObservedState) (event : FieldConditionChanged) :
    ObservedState :=
  if event.action = "start" then
    if event.condition ∈ state.fieldConditions then state
    else { state with fieldConditions := state.fieldConditions ++ [event.condition] }
  else if event.action = "end" then
    { state with fieldConditions := state.fieldConditions.filter fun c => c != event.condition }
  else
    state

/-- Appends the evidence line that a form, transform or tera event leaves. -/
def recordEffect (state : ObservedState) (eventIndex : Int) (kind sideId : String) (slot : Int)
    (nickname effect : String) : ObservedState :=
  recordEvidence state
    { eventIndex := eventIndex, kind := kind, sideId := some sideId, slot := some slot
      nickname := some nickname, effect := some effect, annotations := [] }

/-- The reducer once the event index has been checked and stored. -/
def reduceEvent (state : ObservedState) : BattleEvent → Except PyException ObservedState
  -- metadata
  | .battleInit _ => .ok { state with roomInitialized := true }
  | .playerDeclared event => do
      let newOurSide :=
        if event.userId = state.ourUserId ∧ state.ourSide = none then some event.sideId
        else state.ourSide
      let side ← state.side event.sideId
      let newSide :=
        { side with userId := some event.userId, displayName := some event.displayName }
      updateSide { state with ourSide := newOurSide } newSide
  | .teamSizeDeclared event => do
      let side ← state.side event.sideId
      updateSide state { side with teamSize := some event.size }
  | .generationDeclared event => .ok { state with generation := some event.generation }
  | .gameTypeDeclared event => .ok { state with gameType := some event.gameType }
  | .tierDeclared event => .ok { state with tier := some event.tier }
  | .battleRated event => .ok { state with rated := some event.rated }
  | .ruleDeclared event => .ok { state with rules := state.rules ++ [event.rule] }
  | .previewPokemonDeclared event => do
      let side ← state.side event.sideId
      let entry := { details := event.details, hasItem := event.hasItem }
      updateSide state { side with previewRoster := side.previewRoster ++ [entry] }
  | .previewCleared _ =>
      .ok { state with
        p1 := { state.p1 with previewRoster := [] }
        p2 := { state.p2 with previewRoster := [] } }
  | .teamPreviewStarted _ => .ok { state with teamPreviewStarted := true }
  -- progress
  | .battleStarted _ => .ok { state with battleStarted := true }
  | .turnStarted event => .ok { state with turn := event.turn }
  | .battleWon event => .ok { state with winner := some event.winner }
  | .battleTied _ => .ok { state with tied := true }
  -- pokemon events
  | .pokemonSwitched event =>
      reduceSwitch state event.sideId event.nickname event.details event.hp event.eventIndex
  | .pokemonDragged event =>
      reduceSwitch state event.sideId event.nickname event.details event.hp event.eventIndex
  | .pokemonFainted event =>
      updateActive state event.sideId event.nickname "faint" fun pv =>
        .ok { pv with
          fainted := true
          hp := some (faintedHp pv.hp)
          boosts := zeroBoosts
          volatiles := []
          recharging := false
          transformTarget := none }
  | .moveUsed event => reduceMoveUsed state event
  | .movePrevented event =>
      .ok (recordEvidence state
        { eventIndex := event.eventIndex, kind := "move_prevented", sideId := some event.sideId
          slot := some event.slot, nickname := some event.nickname, effect := some event.reason
          annotations := event.moveId.toList })
  | .healthChanged event => reduceHealthChanged state event
  | .statusChanged event =>
      updateActive state event.sideId event.nickname "status" fun pv =>
        .ok { pv with status := event.status }
  | .teamStatusCured event => do
      let side ← state.side event.sideId
      updateSide state
        { side with pokemon := side.pokemon.map fun pv => { pv with status := none } }
  | .boostChanged event =>
      updateActive state event.sideId event.nickname "boost" fun pv => do
        let newBoosts ← changeBoost pv.boosts event
        pure { pv with boosts := newBoosts }
  | .boostsSwapped event => reduceBoostsSwapped state event
  | .boostsCopied event => reduceBoostsCopied state event
  | .boostsCleared event => reduceBoostsCleared state event
  | .boostsInverted event =>
      updateActive state event.sideId event.nickname "invert_boost" fun pv =>
        .ok { pv with boosts := pv.boosts.map fun b => -b }
  | .itemChanged event =>
      updateActive state event.sideId event.nickname "item" fun pv =>
        let value := if event.action = "set" then event.item else none
        .ok { pv with itemIntervals := openInterval pv.itemIntervals value event.eventIndex }
  | .abilityChanged event =>
      updateActive state event.sideId event.nickname "ability" fun pv =>
        let value := if event.action = "set" then event.ability else none
        .ok { pv with
          abilityIntervals := openInterval pv.abilityIntervals value event.eventIndex }
  | .identityChanged event => reduceIdentityChanged state event
  | .formChanged event => do
      let state' ← updateActive state event.sideId event.nickname "form" fun pv => do
        let hpObs ← tokenToObservation event.hp event.sideId state.ourSide
        pure (changeForm pv event hpObs)
      pure (recordEffect state' event.eventIndex "form" event.sideId event.slot event.nickname
        event.value)
  | .pokemonTransformed event => do
      let state' ← updateActive state event.sideId event.nickname "transform" fun pv =>
        .ok { pv with transformTarget := some event.targetNickname }
      pure (recordEffect state' event.eventIndex "transform" event.sideId event.slot
        event.nickname event.targetNickname)
  | .terastallized event => do
      let state' ← updateActive state event.sideId event.nickname "tera" fun pv =>
        .ok { pv with teraType := some event.teraType }
      pure (recordEffect state' event.eventIndex "tera" event.sideId event.slot event.nickname
        event.teraType)
  | .volatileChanged event => reduceVolatileChanged state event
  | .rechargeChanged event =>
      updateActive state event.sideId event.nickname "recharge" fun pv =>
        .ok { pv with recharging := event.recharging }
  -- field events
  | .weatherChanged event =>
      if event.action = "end" then .ok { state with weather := none }
      else .ok { state with weather := event.weather }
  | .fieldConditionChanged event => .ok (reduceFieldConditionChanged state event)
  | .sideConditionChanged event => do
      let side ← state.side event.sideId
      updateSide state
        { side with
          sideConditions := updateSideCondition side.sideConditions event.condition event.action }
  | .sideConditionsSwapped _ =>
      .ok { state with
        p1 := { state.p1 with sideConditions := state.p2.sideConditions }
        p2 := { state.p2 with sideConditions := state.p1.sideConditions } }
  -- evidence and ignored
  | .visibleEvidence event => .ok (recordEvidence state event)
  | .ignoredDisplayEvent _ =>
      .ok { state with ignoredDisplayCount := state.ignoredDisplayCount + 1 }
  | .other _ className => .error (.reducerInvariantError (.unhandledEvent className))

/-- `ObservationReducer.reduce`. -/
def reduce (state : ObservedState) (event : BattleEvent) : Except PyException ObservedState :=
  if event.eventIndex ≤ state.eventIndex then
    .error (.reducerInvariantError (.eventIndex event.eventIndex state.eventIndex))
  else
    reduceEvent { state with eventIndex := event.eventIndex } event

end BattleBelief
