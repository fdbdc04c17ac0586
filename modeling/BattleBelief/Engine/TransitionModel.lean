import BattleBelief.Engine.ActionMapper
import BattleBelief.Engine.StateMapper
import BattleBelief.Library.Shares

/-!
# The Transition Model

`PokeEngineTransitionModel` prepares a root for search from an observed state, the safe submissions
of a request and a complete world, and then lists the actions of both players and makes joint
transitions. Engine states cross the port in serialized form only.

The failures that a method raises name the digests that it knew by then and the work it had done.
-/

namespace BattleBelief

open Python (Json Decimal)

/-! ## §1 The model -/

/-- The capabilities of the canonical catalog. -/
def engineCapabilities : List String :=
  ["gen9.legality.move.selection", "gen9.legality.switch.forced",
    "gen9.legality.switch.voluntary", "gen9.legality.terastallization.activation",
    "gen9.transition.chance.damage-roll", "gen9.transition.move.direct-damage",
    "gen9.transition.order.priority", "gen9.transition.order.speed",
    "gen9.transition.switch.active-slot", "gen9.transition.terastallization.damage",
    "gen9.transition.terastallization.type-change", "gen9.transition.terminal.detection",
    "gen9.transition.terminal.value"]

/-- `PokeEngineTransitionModel`, once its constructor has verified catalog and artifact. -/
structure PokeEngineTransitionModel where
  catalog : CapabilityCatalog
  backendIdentityDigest : Digest
  /-- `_EXPECTED_CATALOG_DIGEST` -/
  canonical : catalog.definitions = engineCapabilities

/-- `_PokeEngineWorld`. -/
structure PokeEngineWorld where
  nativeState : String
  observedStateDigest : Digest
  rootPlayer : Player
  viewDigests : Digest × Digest
  activeIndexes : Int × Int
  activeTypes : List String × List String
  terastallized : Bool × Bool
  terminalOutcome : Option TerminalOutcome
  publicHp : PublicHp × PublicHp
  rootBindings : List ActionBinding
  requiredCapabilities : List CapabilityId
  report : MappingReport
  ply : Nat

/-- The player acts by the root bindings. -/
def PokeEngineWorld.isRootOf (world : PokeEngineWorld) (player : Player) : Bool :=
  world.ply = 0 && player = world.rootPlayer

/-- The digests that a report names. -/
structure KnownDigests where
  observed : Option Digest
  request : Option Digest
  safe : Option Digest

def KnownDigests.nothing : KnownDigests := ⟨none, none, none⟩

namespace PokeEngineTransitionModel

variable (model : PokeEngineTransitionModel)

/-- `_report`. -/
def report (classification : MappingClassification) (known : KnownDigests)
    (capabilities : List CapabilityId) (workUnits : Nat) : MappingReport where
  classification := classification
  backendIdentityDigest := model.backendIdentityDigest
  observedStateDigest := known.observed
  requestIdentityDigest := known.request
  safeSubmissionSetDigest := known.safe
  capabilityIds := Python.sorted (capabilities.map CapabilityId.value).dedup
  workUnits := workUnits
  failureClass := none

/-- The failure that `_raise_failure` raises. -/
def failure (failureClass : MappingFailureClass) (known : KnownDigests) (workUnits : Nat) :
    PokeEngineMappingFailure where
  failureClass := failureClass
  report := { model.report .failed known [] workUnits with failureClass := some failureClass }
  workUnits := workUnits
  accounting := ⟨rfl, rfl⟩

section Methods

variable {Obj : Type} {m : Type → Type} [Monad m] [MonadExceptOf EngineError m] [NativeModule Obj m]

/-- `_raise_failure` with one of the failure classes. -/
def raise {α : Type} (failureClass : MappingFailureClass) (known : KnownDigests)
    (workUnits : Nat) : m α :=
  throw (EngineError.mappingFailure (model.failure failureClass known workUnits))

/-- `_raise_failure` with the failure class of another exception, which has to be one. -/
def raiseFailure {α : Type} (failureClass : String) (known : KnownDigests) (workUnits : Nat) : m α :=
  match MappingFailureClass.ofValue failureClass with
  | some failureClass => model.raise failureClass known workUnits
  | none => throw EngineError.valueError

/-- Marks the backend and raises. -/
def raiseUnhealthy {α : Type} (failureClass : MappingFailureClass) (known : KnownDigests)
    (workUnits : Nat) : m α := do
  NativeModule.markUnhealthy
  model.raise failureClass known workUnits

/-! ## §2 Choices -/

/-- `_state_from_string`. -/
def stateFromString (value : String) : m (PyValue Obj) :=
  tryCatch (NativeModule.call .guarded "State.from_string" [("value", .str value)]) fun _ =>
    model.raiseUnhealthy .malformedNativeResult .nothing 0

/-- Two lists of texts. -/
def choiceLists : PyValue Obj → Option (List String × List String)
  | .tuple [.list first, .list second] => do
      let first ← first.mapM PyValue.str?
      let second ← second.mapM PyValue.str?
      some (first, second)
  | _ => none

/-- `_legal_choice_values`. -/
def legalChoiceValues (state : PyValue Obj) : m (List String × List String) := do
  let result ← tryCatch (NativeModule.call .guarded "legal_choices" [("state", state)]) fun _ =>
    model.raiseUnhealthy .nativeException .nothing 0
  match choiceLists result with
  | some choices => pure choices
  | none => model.raise .malformedNativeResult .nothing 0

/-- `state.side_one if index == 0 else state.side_two` -/
def sideName : Player → String
  | .p1 => "side_one"
  | .p2 => "side_two"

variable [Rfc8785]

/-- `_deep_bindings`, for a state with its choices. The side is read outside the handler, and the
handler around its `force_switch` only catches `_ActionMappingError`. -/
def deepBindings (player : Player) (state : PyValue Obj) (choices : List String × List String) :
    m (List ActionBinding) := do
  let side ← NativeModule.getattr .deepSide state (sideName player)
  tryCatch (do
    let forceSwitch ← toBool .forceSwitch (← NativeModule.getattr .forceSwitch side "force_switch")
    MonadExcept.ofExcept (mapNativeActions (player.pick choices) forceSwitch model.catalog))
    fun
      | .actionMappingError failureClass => model.raiseFailure failureClass .nothing 0
      | error => throw error

/-- `_bindings`. -/
def bindings (world : PreparedWorld PokeEngineWorld) (player : Player) (state : PyValue Obj)
    (choices : List String × List String) : m (List ActionBinding) :=
  if world.payload.isRootOf player then pure world.payload.rootBindings
  else model.deepBindings player state choices

/-- `legal_actions`. -/
def legalActions (world : PreparedWorld PokeEngineWorld) (player : Player) :
    m (List SearchAction) :=
  if world.payload.isRootOf player then pure world.rootActions
  else do
    let state ← model.stateFromString world.payload.nativeState
    let choices ← model.legalChoiceValues state
    let bindings ← model.deepBindings player state choices
    pure (bindings.map ActionBinding.action)

/-! ## §3 Roots -/

/-- `_preflight_capabilities`: all of the catalog. -/
def preflightCapabilities : Except EngineError (List CapabilityId) := do
  let capabilities ← model.catalog.definitions.mapM model.catalog.idFor
  canonicalCapabilities capabilities

/-- The checks that a given root identity goes through, in this order. -/
def rootIdentityFault (given expected : PreparedRootIdentity) : Option MappingFailureClass :=
  if given.requestIdentityDigest ≠ expected.requestIdentityDigest then
    some .requestIdentityMismatch
  else if given.safeSubmissionSetDigest ≠ expected.safeSubmissionSetDigest then
    some .safeSubmissionMismatch
  else if given.observedStateDigest ≠ expected.observedStateDigest ||
      given.rootPlayer ≠ expected.rootPlayer || given.rulesetDigest ≠ expected.rulesetDigest then
    some .safeSubmissionMismatch
  else if given.backendIdentityDigest ≠ expected.backendIdentityDigest then
    some .adapterIdentityMismatch
  else if given.capabilityCatalogDigest ≠ expected.capabilityCatalogDigest then
    some .capabilityAmbiguity
  else none

/-- `prepare_root`. -/
def prepareRoot (world : PokeEngineWorld) (rootIdentity : PreparedRootIdentity)
    (rootActions : List SearchAction) : m (PreparedWorld PokeEngineWorld) := do
  if rootIdentity.backendIdentityDigest ≠ model.backendIdentityDigest ||
      rootIdentity.capabilityCatalogDigest ≠ model.catalog.catalogDigest then
    model.raise .adapterIdentityMismatch .nothing 0
  if world.rootBindings.map ActionBinding.action ≠ rootActions then
    model.raise .safeSubmissionMismatch .nothing 0
  match PreparedWorld.create world rootIdentity rootActions world.requiredCapabilities with
  | .ok prepared => pure prepared
  | .error _ => model.raise .unsupportedMapping .nothing 0

/-- The handlers around the body of `_prepare_battle_root_impl`, by what is known where the exception
is raised. -/
def guardRoot {α : Type} (known : KnownDigests) (body : m α) : m α :=
  tryCatch body fun
    | .mappingFailure failure => throw (EngineError.mappingFailure failure)
    | .stateMappingError failureClass => model.raiseFailure failureClass known 0
    | .actionMappingError failureClass => model.raiseFailure failureClass known 0
    | .typeError => model.raise .unsupportedMapping known 0
    | .valueError => model.raise .unsupportedMapping known 0
    | _ => model.raiseUnhealthy .nativeException known 0

/-- The texts of the `id` attributes of some values, in lower case. -/
def lowerIds (values : List (PyValue Obj)) : m (List String) :=
  values.mapM fun value => do
    let id ← toStr .preparedRoot (← NativeModule.getattr .preparedRoot value "id")
    pure (Python.lower id)

/-- The bindings of the safe submissions in the state of the root, if they are exactly the choices
that the engine lists. -/
def bindRoot (safeSubmissions : SafeSubmissionSet) (selectedRoot : PreparedRootIdentity)
    (known : KnownDigests) (rootPlayer : Player) (nativeState : String) :
    m (List ActionBinding) := do
  let state ← model.stateFromString nativeState
  let choices ← model.legalChoiceValues state
  let side ← NativeModule.getattr .preparedRoot state (sideName rootPlayer)
  let teamIds ← lowerIds
    (← toItems .preparedRoot (← NativeModule.getattr .preparedRoot side "pokemon"))
  let team ← NativeModule.getattr .preparedRoot side "pokemon"
  let activeIndex ← toInt .preparedRoot (← NativeModule.getattr .preparedRoot side "active_index")
  let active ← NativeModule.item .preparedRoot team activeIndex
  let activeMoveIds ← lowerIds
    (← toItems .preparedRoot (← NativeModule.getattr .preparedRoot active "moves"))
  let forceSwitch ← toBool .preparedRoot (← NativeModule.getattr .preparedRoot side "force_switch")
  let rootBindings ← MonadExcept.ofExcept (mapRootActions safeSubmissions selectedRoot
    (rootPlayer.pick choices) teamIds activeMoveIds forceSwitch model.catalog)
  -- both sides as sets
  if !((rootBindings.map ActionBinding.nativeChoice).all (· ∈ rootPlayer.pick choices) &&
      (rootPlayer.pick choices).all (· ∈ rootBindings.map ActionBinding.nativeChoice)) then
    model.raise .safeSubmissionMismatch known 0
  pure rootBindings

variable [Python.UnicodeDatabase]

/-- `prepare_battle_root`. -/
def prepareBattleRoot (observedState : ObservedState) (safeSubmissions : SafeSubmissionSet)
    (completeWorld : Json) (rulesetDigest : String) (rootIdentity : Option PreparedRootIdentity) :
    m (PreparedWorld PokeEngineWorld) := do
  let observed ← model.guardRoot .nothing (MonadExcept.ofExcept (mapObservedRoot observedState))
  let requestDigest ← model.guardRoot ⟨some observed.digest, none, none⟩
    (MonadExcept.ofExcept (Digest.requestIdentity safeSubmissions.requestIdentity))
  let safeDigest ← model.guardRoot ⟨some observed.digest, some requestDigest, none⟩
    (MonadExcept.ofExcept (Digest.safeSubmissionSet safeSubmissions))
  let known : KnownDigests := ⟨some observed.digest, some requestDigest, some safeDigest⟩
  model.guardRoot known do
    let mapped ← mapCompleteWorld completeWorld observed.digest observed.publicHp
    let expectedRoot ← MonadExcept.ofExcept (PreparedRootIdentity.create requestDigest safeDigest
      observed.digest observed.rootPlayer rulesetDigest model.backendIdentityDigest
      model.catalog.catalogDigest)
    match rootIdentity.bind fun given => rootIdentityFault given expectedRoot with
    | some fault => model.raise fault known 0
    | none => pure ()
    let selectedRoot := rootIdentity.getD expectedRoot
    let rootBindings ← model.bindRoot safeSubmissions selectedRoot known observed.rootPlayer
      mapped.nativeState
    let requirements ← MonadExcept.ofExcept model.preflightCapabilities
    let world : PokeEngineWorld :=
      { nativeState := mapped.nativeState
        observedStateDigest := observed.digest
        rootPlayer := observed.rootPlayer
        viewDigests := mapped.viewDigests
        activeIndexes := mapped.activeIndexes
        activeTypes := mapped.activeTypes
        terastallized := mapped.terastallized
        terminalOutcome := mapped.terminalOutcome
        publicHp := mapped.publicHp
        rootBindings := rootBindings
        requiredCapabilities := requirements
        report := model.report .mapped known requirements 0
        ply := 0 }
    model.prepareRoot world selectedRoot (rootBindings.map ActionBinding.action)

/-! ## §4 Joint transitions -/

omit [Python.UnicodeDatabase] in
/-- The bindings of a joint action: an action that is not bound makes it an invalid one. -/
def jointBindings (world : PreparedWorld PokeEngineWorld) (p1Action p2Action : SearchAction) :
    m (PyValue Obj × ActionBinding × ActionBinding) :=
  tryCatch (do
    let state ← model.stateFromString world.payload.nativeState
    let choices ← model.legalChoiceValues state
    let p1Binding ← MonadExcept.ofExcept
      (bindingForAction (← model.bindings world .p1 state choices) p1Action)
    let p2Binding ← MonadExcept.ofExcept
      (bindingForAction (← model.bindings world .p2 state choices) p2Action)
    pure (state, p1Binding, p2Binding))
    fun
      | .actionMappingError _ => model.raise .invalidJointAction .nothing 0
      | error => throw error

omit [Rfc8785] [Python.UnicodeDatabase] in
/-- `_generate_instructions`, with the handlers around its call. -/
def generateInstructions (state : PyValue Obj) (p1Choice p2Choice : String) : m (PyValue Obj) :=
  tryCatch (NativeModule.call .generateInstructions "generate_instructions"
      [("state", state), ("p1_choice", .str p1Choice), ("p2_choice", .str p2Choice)])
    fun
      | .mappingFailure failure => throw (EngineError.mappingFailure failure)
      | _ => model.raiseUnhealthy .nativeException .nothing 1

/-- `_PERCENT_MASS_TOLERANCE`. -/
def percentMassTolerance : ℚ := 1 / 10000

/-- The integers that `float` cannot take: they are rounded beyond the largest double. -/
def overflowsFloat (value : Int) : Bool := 2 ^ 1024 - 2 ^ 970 ≤ value.natAbs

omit [Rfc8785] [Python.UnicodeDatabase] in
/-- `getattr(instruction, "percentage", None)` -/
def getPercentage (instruction : PyValue Obj) : m (PyValue Obj) :=
  tryCatch (NativeModule.getattr .percentage instruction "percentage") fun
    | .attributeError => pure .none
    | error => throw error

omit [Rfc8785] [Python.UnicodeDatabase] in
/-- The percentage of an instruction: a finite positive number. -/
def readPercentage (instruction : PyValue Obj) : m Decimal := do
  match ← getPercentage instruction with
  | .int value =>
      if overflowsFloat value then throw EngineError.arithmeticError
      else if value ≤ 0 then model.raise .chanceNormalizationFailure .nothing 1
      else pure (Decimal.ofInt value)
  | .float text =>
      -- the other floats are infinities and NaN
      match Decimal.ofText text with
      | some value =>
          if value.coefficient ≤ 0 then model.raise .chanceNormalizationFailure .nothing 1
          else pure value
      | none => model.raise .chanceNormalizationFailure .nothing 1
  | _ => model.raise .chanceNormalizationFailure .nothing 1

omit [Rfc8785] [Python.UnicodeDatabase] in
/-- `state.apply_instructions(instruction)`, with the handler around it. -/
def applyInstructions (state instruction : PyValue Obj) : m (PyValue Obj) :=
  tryCatch (NativeModule.invoke .guarded state "apply_instructions" [instruction]) fun _ =>
    model.raiseUnhealthy .nativeException .nothing 1

/-- The percentages add up to 100, within the tolerance. -/
def isFullMass (percentages : List Decimal) : Bool :=
  |((Decimal.sum percentages).add (Decimal.ofInt 100).neg).toRat| ≤ percentMassTolerance

/-- The successor states by their serialized form, with the weight that leads to each. -/
abbrev ByState := List (String × MappedNativeState × ℚ)

/-- Adds the weight of an instruction to the state that it leads to. -/
def ByState.add (byState : ByState) (mapped : MappedNativeState) (weight : ℚ) : ByState :=
  match Python.Dict.get? byState mapped.nativeState with
  | none => Python.Dict.assign byState mapped.nativeState (mapped, weight)
  | some previous => Python.Dict.assign byState mapped.nativeState (mapped, previous.2 + weight)

/-- One round of the second loop of `_mapped_successors`. -/
def addSuccessor (state : PyValue Obj) (observedDigest : Digest) (priorViewDigests : Digest × Digest)
    (publicHp : PublicHp × PublicHp) (byState : ByState) (instruction : PyValue Obj) : m ByState := do
  let percentage ← model.readPercentage instruction
  let successorState ← model.applyInstructions state instruction
  let mapped ← mapNativeState successorState observedDigest (some priorViewDigests) (some state)
    publicHp
  pure (byState.add mapped percentage.toRat)

/-- The weights of all successor states together. -/
def ByState.total (byState : ByState) : ℚ := (byState.map fun entry => entry.2.2).sum

/-- The weights as shares of their sum, ordered by the serialized state. -/
def ByState.normalize (byState : ByState) : List (MappedNativeState × ℚ) :=
  (byState.map fun entry => (entry.2.1, entry.2.2 / byState.total)).insertionSort
    fun first second => first.1.nativeState ≤ second.1.nativeState

/-- `_mapped_successors`. -/
def mappedSuccessors (state instructions : PyValue Obj) (observedDigest : Digest)
    (priorViewDigests : Digest × Digest) (publicHp : PublicHp × PublicHp) :
    m (List (MappedNativeState × ℚ)) :=
  match instructions with
  | .list (first :: rest) => do
      let percentages ← (first :: rest).mapM model.readPercentage
      if !isFullMass percentages then model.raise .chanceNormalizationFailure .nothing 1
      else do
        let byState ← (first :: rest).foldlM
          (model.addSuccessor state observedDigest priorViewDigests publicHp) []
        if byState.total ≤ 0 then model.raise .chanceNormalizationFailure .nothing 1
        else pure byState.normalize
  | _ => model.raise .malformedNativeResult .nothing 1

/-- `_transition_capabilities`. -/
def transitionCapabilities (p1Action p2Action : SearchAction) :
    Except EngineError (List CapabilityId) := do
  let kinds := [p1Action.kind, p2Action.kind]
  let values :=
    ["gen9.transition.terminal.detection", "gen9.transition.terminal.value"] ++
    (if .move ∈ kinds then
      ["gen9.transition.chance.damage-roll", "gen9.transition.move.direct-damage",
        "gen9.transition.order.priority", "gen9.transition.order.speed"] else []) ++
    (if .switch ∈ kinds then
      ["gen9.transition.switch.active-slot", "gen9.transition.order.speed"] else []) ++
    (if [p1Action, p2Action].any fun action =>
        action.requiredCapabilities.any fun capability => capability.value = teraActivation then
      ["gen9.transition.terastallization.damage",
        "gen9.transition.terastallization.type-change"] else [])
  let capabilities ← values.mapM model.catalog.idFor
  canonicalCapabilities capabilities

/-- The id of the outcome that leads to a state. -/
def outcomeId (nativeState : String) (ply : Nat) : Except EngineError Digest :=
  Digest.manifest (.obj [
    ("native_state_digest", .str (sha256Digest (Python.encodeUtf8 nativeState.toList))),
    ("ply", .int ply)])

/-- The payload of a successor. -/
def successorPayload (source : PreparedWorld PokeEngineWorld) (capabilities required : List CapabilityId)
    (mapped : MappedNativeState) : PokeEngineWorld where
  nativeState := mapped.nativeState
  observedStateDigest := source.payload.observedStateDigest
  rootPlayer := source.payload.rootPlayer
  viewDigests := mapped.viewDigests
  activeIndexes := mapped.activeIndexes
  activeTypes := mapped.activeTypes
  terastallized := mapped.terastallized
  terminalOutcome := mapped.terminalOutcome
  publicHp := mapped.publicHp
  rootBindings := source.payload.rootBindings
  requiredCapabilities := required
  report := model.report .transitioned ⟨some source.payload.observedStateDigest,
    source.payload.report.requestIdentityDigest, source.payload.report.safeSubmissionSetDigest⟩
    capabilities 1
  ply := source.payload.ply + 1

/-- One round of the loop of `_successors`. -/
def successorOf (source : PreparedWorld PokeEngineWorld) (capabilities : List CapabilityId)
    (denominator : Nat) (entry : MappedNativeState × ℚ) :
    Except EngineError (TransitionSuccessor PokeEngineWorld) := do
  let (mapped, weight) := entry
  let required ← canonicalCapabilities (source.requiredCapabilities ++ capabilities)
  let payload := model.successorPayload source capabilities required mapped
  let prepared ← PreparedWorld.create payload source.rootIdentity source.rootActions required
  let outcomeId ← outcomeId mapped.nativeState payload.ply
  TransitionSuccessor.create outcomeId prepared (Shares.numerator weight denominator)

/-- `_successors`. -/
def successors (source : PreparedWorld PokeEngineWorld)
    (mappedWeights : List (MappedNativeState × ℚ)) (capabilities : List CapabilityId) :
    Except EngineError (List (TransitionSuccessor PokeEngineWorld)) := do
  let denominator := Shares.commonDenominator (mappedWeights.map Prod.snd)
  let result ← mappedWeights.mapM (model.successorOf source capabilities denominator)
  pure (result.insertionSort fun first second => first.outcomeId.text ≤ second.outcomeId.text)

/-- The outcome of a transition, from its successors. -/
def outcomeOf (source : PreparedWorld PokeEngineWorld)
    (successors : List (TransitionSuccessor PokeEngineWorld)) (capabilities : List CapabilityId) :
    Except EngineError (TransitionOutcome PokeEngineWorld) := do
  let denominator := (successors.map fun successor => successor.probabilityNumerator).sum
  let outcome ← TransitionOutcome.create successors denominator 1 Nat.one_pos capabilities
  outcome.validateAgainstSource source
  pure outcome

/-- The handlers around what follows `generate_instructions`. -/
def guardTransition {α : Type} (body : m α) : m α :=
  tryCatch body fun
    | .mappingFailure failure => throw (EngineError.mappingFailure failure)
    | .stateMappingError failureClass => model.raiseFailure failureClass .nothing 1
    | .actionMappingError failureClass => model.raiseFailure failureClass .nothing 1
    | .arithmeticError => model.raise .chanceNormalizationFailure .nothing 1
    | .typeError => model.raise .chanceNormalizationFailure .nothing 1
    | .valueError => model.raise .chanceNormalizationFailure .nothing 1
    | _ => model.raiseUnhealthy .malformedNativeResult .nothing 1

/-- `transition`. -/
def transition (world : PreparedWorld PokeEngineWorld) (p1Action p2Action : SearchAction) :
    m (TransitionOutcome PokeEngineWorld) := do
  let (state, p1Binding, p2Binding) ← model.jointBindings world p1Action p2Action
  let instructions ← model.generateInstructions state p1Binding.nativeChoice p2Binding.nativeChoice
  model.guardTransition do
    let mappedWeights ← model.mappedSuccessors state instructions world.payload.observedStateDigest
      world.payload.viewDigests world.payload.publicHp
    let capabilities ← MonadExcept.ofExcept (model.transitionCapabilities p1Action p2Action)
    let successors ← MonadExcept.ofExcept (model.successors world mappedWeights capabilities)
    match outcomeOf world successors capabilities with
    | .ok outcome => pure outcome
    | .error _ => model.raise .workAccountingInconsistency .nothing 1

/-! ## §5 Answers about a world -/

/-- `player_view`. -/
def playerView (world : PreparedWorld PokeEngineWorld) (player : Player) : PlayerView :=
  ⟨player, player.pick world.payload.viewDigests⟩

/-- `information_state_key`. -/
def informationStateKey (view : PlayerView) : Except EngineError InformationStateKey := do
  let digest ← Digest.manifest (.obj [("player", .str view.player.value),
    ("view_digest", .str view.viewDigest.text)])
  pure ⟨view.player, digest⟩

/-- `root_submission`. -/
def rootSubmission (world : PreparedWorld PokeEngineWorld) (action : SearchAction) :
    Except EngineError BattleSubmission :=
  match bindingForAction world.payload.rootBindings action with
  | .error _ => .error (.mappingFailure (model.failure .safeSubmissionMismatch .nothing 0))
  | .ok binding =>
      match binding.submission with
      | none => .error (.mappingFailure (model.failure .safeSubmissionMismatch .nothing 0))
      | some submission => .ok submission

end Methods

end PokeEngineTransitionModel

end BattleBelief
