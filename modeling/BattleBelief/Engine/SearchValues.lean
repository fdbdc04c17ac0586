import BattleBelief.Engine.Native
import BattleBelief.Library.Runs
import Mathlib.Algebra.Ring.Int.Defs

/-!
# Search Values

The immutable values that search and transition models exchange. Their constructors check them, and
each type carries what its constructor checked.
-/

namespace BattleBelief

open Python (Json)

/-! ## §1 Players and capabilities -/

inductive Player where
  | p1
  | p2
  deriving DecidableEq, Repr

def Player.value : Player → String
  | .p1 => "p1"
  | .p2 => "p2"

/-- The component of a pair that belongs to a player. -/
def Player.pick {α : Type} (player : Player) (pair : α × α) : α :=
  match player with
  | .p1 => pair.1
  | .p2 => pair.2

/-- A capability, as a catalog issues it. -/
structure CapabilityId where
  value : String
  catalogDigest : Digest
  deriving DecidableEq

/-- The part of `CapabilityCatalog` that issues capabilities. -/
structure CapabilityCatalog where
  /-- The values of the definitions -/
  definitions : List String
  catalogDigest : Digest
  /-- The definitions are uniquely sorted -/
  sorted : definitions.Pairwise (· < ·)

/-- `CapabilityCatalog.id_for`. -/
def CapabilityCatalog.idFor (catalog : CapabilityCatalog) (value : String) :
    Except EngineError CapabilityId :=
  if value ∈ catalog.definitions then .ok ⟨value, catalog.catalogDigest⟩ else .error .valueError

/-- `_capabilities` finds nothing to complain about: the values are uniquely sorted and belong to one
catalog, which is the given one. -/
def CapabilitiesAgree (values : List CapabilityId) (catalogDigest : Option Digest) : Prop :=
  (values.map CapabilityId.value).Pairwise (· < ·) ∧
    (∀ first ∈ values, ∀ second ∈ values, first.catalogDigest = second.catalogDigest) ∧
    ∀ digest ∈ catalogDigest, ∀ value ∈ values, value.catalogDigest = digest

instance (values : List CapabilityId) (catalogDigest : Option Digest) :
    Decidable (CapabilitiesAgree values catalogDigest) :=
  inferInstanceAs (Decidable (_ ∧ _ ∧ _))

/-- `RequiredCapabilities.canonical`: of several capabilities with one value the last one is kept. -/
def canonicalCapabilities (values : List CapabilityId) : Except EngineError (List CapabilityId) :=
  let byValue := Python.Dict.ofPairs (values.map fun value => (value.value, value))
  let canonical := (Python.sorted (Python.Dict.keys byValue)).filterMap
    fun value => Python.Dict.get? byValue value
  if CapabilitiesAgree canonical none then .ok canonical else .error .valueError

/-! ## §2 Prepared roots -/

structure PreparedRootIdentity where
  requestIdentityDigest : Digest
  safeSubmissionSetDigest : Digest
  observedStateDigest : Digest
  preparedRootDigest : Digest
  rulesetDigest : Digest
  backendIdentityDigest : Digest
  capabilityCatalogDigest : Digest
  rootPlayer : Player
  deriving DecidableEq

/-- `PreparedRootIdentity.create`. Only the digest of the rules comes in unchecked. -/
def PreparedRootIdentity.create [Rfc8785]
    (requestIdentityDigest safeSubmissionSetDigest observedStateDigest : Digest)
    (rootPlayer : Player) (rulesetDigest : String)
    (backendIdentityDigest capabilityCatalogDigest : Digest) :
    Except EngineError PreparedRootIdentity :=
  if hruleset : isDigest rulesetDigest = true then do
    let preparedRootDigest ← Digest.manifest (.obj [
      ("request_identity_digest", .str requestIdentityDigest.text),
      ("safe_submission_set_digest", .str safeSubmissionSetDigest.text),
      ("observed_state_digest", .str observedStateDigest.text),
      ("root_player", .str rootPlayer.value),
      ("ruleset_digest", .str rulesetDigest),
      ("backend_identity_digest", .str backendIdentityDigest.text),
      ("capability_catalog_digest", .str capabilityCatalogDigest.text)])
    pure
      { requestIdentityDigest := requestIdentityDigest
        safeSubmissionSetDigest := safeSubmissionSetDigest
        observedStateDigest := observedStateDigest
        preparedRootDigest := preparedRootDigest
        rulesetDigest := ⟨rulesetDigest, hruleset⟩
        backendIdentityDigest := backendIdentityDigest
        capabilityCatalogDigest := capabilityCatalogDigest
        rootPlayer := rootPlayer }
  else .error .valueError

theorem PreparedRootIdentity.create_eq_ok [Rfc8785]
    {requestIdentityDigest safeSubmissionSetDigest observedStateDigest : Digest}
    {rootPlayer : Player} {rulesetDigest : String}
    {backendIdentityDigest capabilityCatalogDigest : Digest} {identity : PreparedRootIdentity}
    (h : PreparedRootIdentity.create requestIdentityDigest safeSubmissionSetDigest
      observedStateDigest rootPlayer rulesetDigest backendIdentityDigest capabilityCatalogDigest =
        .ok identity) :
    identity.backendIdentityDigest = backendIdentityDigest ∧
      identity.capabilityCatalogDigest = capabilityCatalogDigest := by
  unfold PreparedRootIdentity.create at h
  split_ifs at h with hruleset
  obtain ⟨digest, -, hidentity⟩ := Runs.bind_eq_ok.mp h
  obtain rfl := Except.ok.inj hidentity
  exact ⟨rfl, rfl⟩

inductive SearchActionKind where
  | move
  | switch
  | pass
  deriving DecidableEq, Repr

def SearchActionKind.value : SearchActionKind → String
  | .move => "move"
  | .switch => "switch"
  | .pass => "pass"

structure SearchAction where
  actionId : String
  kind : SearchActionKind
  requiredCapabilities : List CapabilityId
  rootSubmissionIndex : Option Nat
  rootIdentity : Option PreparedRootIdentity
  /-- An action is bound to a root together with its index there -/
  bound : rootSubmissionIndex.isSome = rootIdentity.isSome
  capabilities : CapabilitiesAgree requiredCapabilities
    (rootIdentity.map fun root => root.capabilityCatalogDigest)
  deriving DecidableEq

/-- The constructor of `SearchAction`. The ids that the adapter gives are digests, which are private
identifiers. -/
def SearchAction.create (actionId : Digest) (kind : SearchActionKind)
    (requiredCapabilities : List CapabilityId) (root : Option (Nat × PreparedRootIdentity)) :
    Except EngineError SearchAction :=
  if hcapabilities : CapabilitiesAgree requiredCapabilities
      ((root.map Prod.snd).map fun root => root.capabilityCatalogDigest) then
    .ok
      { actionId := actionId.text
        kind := kind
        requiredCapabilities := requiredCapabilities
        rootSubmissionIndex := root.map Prod.fst
        rootIdentity := root.map Prod.snd
        bound := by cases root <;> rfl
        capabilities := hcapabilities }
  else .error .valueError

/-- What a created action is made of. -/
theorem SearchAction.create_eq_ok {actionId : Digest} {kind : SearchActionKind}
    {requiredCapabilities : List CapabilityId} {root : Option (Nat × PreparedRootIdentity)}
    {action : SearchAction}
    (h : SearchAction.create actionId kind requiredCapabilities root = .ok action) :
    action.actionId = actionId.text ∧ action.kind = kind ∧
      action.requiredCapabilities = requiredCapabilities ∧
      action.rootSubmissionIndex = root.map Prod.fst ∧ action.rootIdentity = root.map Prod.snd := by
  unfold SearchAction.create at h
  split_ifs at h with hcapabilities
  obtain rfl := Except.ok.inj h
  exact ⟨rfl, rfl, rfl, rfl, rfl⟩

/-- The root actions belong to the root, each under its own index. -/
def RootActionsCanonical (rootIdentity : PreparedRootIdentity) (rootActions : List SearchAction) :
    Prop :=
  ∀ entry ∈ rootActions.zipIdx,
    entry.1.rootIdentity = some rootIdentity ∧ entry.1.rootSubmissionIndex = some entry.2

instance (rootIdentity : PreparedRootIdentity) (rootActions : List SearchAction) :
    Decidable (RootActionsCanonical rootIdentity rootActions) :=
  inferInstanceAs (Decidable (∀ entry ∈ _, _))

structure PreparedWorld (World : Type) where
  payload : World
  rootIdentity : PreparedRootIdentity
  rootActions : List SearchAction
  requiredCapabilities : List CapabilityId
  canonical : RootActionsCanonical rootIdentity rootActions
  capabilities : CapabilitiesAgree requiredCapabilities (some rootIdentity.capabilityCatalogDigest)

/-- The constructor of `PreparedWorld`. -/
def PreparedWorld.create {World : Type} (payload : World) (rootIdentity : PreparedRootIdentity)
    (rootActions : List SearchAction) (requiredCapabilities : List CapabilityId) :
    Except EngineError (PreparedWorld World) :=
  if hcanonical : RootActionsCanonical rootIdentity rootActions then
    if hcapabilities : CapabilitiesAgree requiredCapabilities
        (some rootIdentity.capabilityCatalogDigest) then
      .ok ⟨payload, rootIdentity, rootActions, requiredCapabilities, hcanonical, hcapabilities⟩
    else .error .valueError
  else .error .valueError

theorem PreparedWorld.create_eq_ok {World : Type} {payload : World}
    {rootIdentity : PreparedRootIdentity} {rootActions : List SearchAction}
    {requiredCapabilities : List CapabilityId} {world : PreparedWorld World}
    (h : PreparedWorld.create payload rootIdentity rootActions requiredCapabilities = .ok world) :
    world.payload = payload ∧ world.rootIdentity = rootIdentity ∧
      world.rootActions = rootActions ∧ world.requiredCapabilities = requiredCapabilities := by
  unfold PreparedWorld.create at h
  split_ifs at h with hcanonical hcapabilities
  obtain rfl := Except.ok.inj h
  exact ⟨rfl, rfl, rfl, rfl⟩

theorem PreparedWorld.create_ok {World : Type} (payload : World)
    {rootIdentity : PreparedRootIdentity} {rootActions : List SearchAction}
    {requiredCapabilities : List CapabilityId}
    (hcanonical : RootActionsCanonical rootIdentity rootActions)
    (hagree : CapabilitiesAgree requiredCapabilities (some rootIdentity.capabilityCatalogDigest)) :
    PreparedWorld.create payload rootIdentity rootActions requiredCapabilities =
      .ok ⟨payload, rootIdentity, rootActions, requiredCapabilities, hcanonical, hagree⟩ := by
  unfold PreparedWorld.create
  rw [dif_pos hcanonical, dif_pos hagree]

/-! ## §3 Views -/

structure PlayerView where
  player : Player
  viewDigest : Digest
  deriving DecidableEq

structure InformationStateKey where
  player : Player
  informationStateDigest : Digest
  deriving DecidableEq

/-! ## §4 Transitions -/

structure TransitionSuccessor (World : Type) where
  outcomeId : Digest
  world : PreparedWorld World
  probabilityNumerator : Int
  positive : 0 < probabilityNumerator

/-- The constructor of `TransitionSuccessor`. -/
def TransitionSuccessor.create {World : Type} (outcomeId : Digest) (world : PreparedWorld World)
    (probabilityNumerator : Int) : Except EngineError (TransitionSuccessor World) :=
  if hpositive : 0 < probabilityNumerator then
    .ok ⟨outcomeId, world, probabilityNumerator, hpositive⟩
  else .error .valueError

theorem TransitionSuccessor.create_ok {World : Type} (outcomeId : Digest) (world : PreparedWorld World)
    {probabilityNumerator : Int} (hpositive : 0 < probabilityNumerator) :
    TransitionSuccessor.create outcomeId world probabilityNumerator =
      .ok ⟨outcomeId, world, probabilityNumerator, hpositive⟩ :=
  dif_pos hpositive

/-- What the constructor of `TransitionOutcome` asks of its fields. -/
structure OutcomeAgrees {World : Type} (successors : List (TransitionSuccessor World))
    (probabilityDenominator : Int) (requiredCapabilities : List CapabilityId) : Prop where
  positive : 0 < probabilityDenominator
  increasing : (successors.map fun successor => successor.outcomeId.text).Pairwise (· < ·)
  sums : (successors.map fun successor => successor.probabilityNumerator).sum =
    probabilityDenominator
  oneRoot : ∀ first ∈ successors.head?, (∀ successor ∈ successors,
    successor.world.rootIdentity = first.world.rootIdentity) ∧
    CapabilitiesAgree requiredCapabilities (some first.world.rootIdentity.capabilityCatalogDigest)

instance {World : Type} (successors : List (TransitionSuccessor World))
    (probabilityDenominator : Int) (requiredCapabilities : List CapabilityId) :
    Decidable (OutcomeAgrees successors probabilityDenominator requiredCapabilities) :=
  decidable_of_iff
    (0 < probabilityDenominator ∧
      (successors.map fun successor => successor.outcomeId.text).Pairwise (· < ·) ∧
      (successors.map fun successor => successor.probabilityNumerator).sum =
        probabilityDenominator ∧
      ∀ first ∈ successors.head?, (∀ successor ∈ successors,
        successor.world.rootIdentity = first.world.rootIdentity) ∧
        CapabilitiesAgree requiredCapabilities
          (some first.world.rootIdentity.capabilityCatalogDigest))
    ⟨fun ⟨hpositive, hincreasing, hsums, hroot⟩ => ⟨hpositive, hincreasing, hsums, hroot⟩,
      fun ⟨hpositive, hincreasing, hsums, hroot⟩ => ⟨hpositive, hincreasing, hsums, hroot⟩⟩

structure TransitionOutcome (World : Type) where
  successors : List (TransitionSuccessor World)
  probabilityDenominator : Int
  workUnits : Nat
  requiredCapabilities : List CapabilityId
  nonempty : successors ≠ []
  agrees : OutcomeAgrees successors probabilityDenominator requiredCapabilities
  working : 0 < workUnits

/-- The constructor of `TransitionOutcome`, for positive work. -/
def TransitionOutcome.create {World : Type} (successors : List (TransitionSuccessor World))
    (probabilityDenominator : Int) (workUnits : Nat) (working : 0 < workUnits)
    (requiredCapabilities : List CapabilityId) : Except EngineError (TransitionOutcome World) :=
  if hnonempty : successors ≠ [] then
    if hagrees : OutcomeAgrees successors probabilityDenominator requiredCapabilities then
      .ok ⟨successors, probabilityDenominator, workUnits, requiredCapabilities, hnonempty, hagrees,
        working⟩
    else .error .valueError
  else .error .valueError

theorem TransitionOutcome.create_ok {World : Type} {successors : List (TransitionSuccessor World)}
    {probabilityDenominator : Int} {workUnits : Nat} (working : 0 < workUnits)
    {requiredCapabilities : List CapabilityId} (hnonempty : successors ≠ [])
    (hagrees : OutcomeAgrees successors probabilityDenominator requiredCapabilities) :
    TransitionOutcome.create successors probabilityDenominator workUnits working
      requiredCapabilities = .ok ⟨successors, probabilityDenominator, workUnits,
        requiredCapabilities, hnonempty, hagrees, working⟩ := by
  unfold TransitionOutcome.create
  rw [dif_pos hnonempty, dif_pos hagrees]

/-- `TransitionOutcome.validate_against_source`. -/
def TransitionOutcome.validateAgainstSource {World : Type} (outcome : TransitionOutcome World)
    (source : PreparedWorld World) : Except EngineError Unit :=
  if ∀ successor ∈ outcome.successors, successor.world.rootIdentity = source.rootIdentity ∧
      successor.world.rootActions = source.rootActions then .ok ()
  else .error .valueError

end BattleBelief
