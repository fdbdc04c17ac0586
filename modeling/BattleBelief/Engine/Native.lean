import BattleBelief.Canonicalization

/-!
# The Native Engine

The engine is a native module that the adapter calls: a package of its own, whose objects the
adapter only ever sees through attribute reads, conversions and calls. `NativeModule` lists these
interactions, for any monad that the adapter's code may run in.

- `Engine`: an engine whose answers depend on the question alone
- `NativeEnvironment`: anything at all, with a state of its own that every interaction may change
-/

namespace BattleBelief

open Python (Json)

/-! ## §1 Digests -/

/-- A digest of the repository's versioned form. -/
structure Digest where
  text : String
  valid : isDigest text = true
  deriving DecidableEq

theorem Digest.text_injective : Function.Injective Digest.text := by
  rintro ⟨first, hfirst⟩ ⟨second, hsecond⟩ h
  obtain rfl : first = second := h
  rfl

/-! ## §2 Mapping failures -/

/-- `_MappingFailureClass`. -/
inductive MappingFailureClass where
  | missingField
  | unsupportedMapping
  | unknownNativeChoice
  | capabilityAmbiguity
  | requestIdentityMismatch
  | safeSubmissionMismatch
  | artifactIdentityMismatch
  | adapterIdentityMismatch
  | backendUnavailable
  | nativeException
  | malformedNativeResult
  | inconsistentPlayerView
  | invalidJointAction
  | chanceNormalizationFailure
  | workAccountingInconsistency
  deriving DecidableEq, Repr

def MappingFailureClass.value : MappingFailureClass → String
  | .missingField => "missing_field"
  | .unsupportedMapping => "unsupported_mapping"
  | .unknownNativeChoice => "unknown_native_choice"
  | .capabilityAmbiguity => "capability_ambiguity"
  | .requestIdentityMismatch => "request_identity_mismatch"
  | .safeSubmissionMismatch => "safe_submission_mismatch"
  | .artifactIdentityMismatch => "artifact_identity_mismatch"
  | .adapterIdentityMismatch => "adapter_identity_mismatch"
  | .backendUnavailable => "backend_unavailable"
  | .nativeException => "native_exception"
  | .malformedNativeResult => "malformed_native_result"
  | .inconsistentPlayerView => "inconsistent_player_view"
  | .invalidJointAction => "invalid_joint_action"
  | .chanceNormalizationFailure => "chance_normalization_failure"
  | .workAccountingInconsistency => "work_accounting_inconsistency"

def MappingFailureClass.all : List MappingFailureClass :=
  [.missingField, .unsupportedMapping, .unknownNativeChoice, .capabilityAmbiguity,
    .requestIdentityMismatch, .safeSubmissionMismatch, .artifactIdentityMismatch,
    .adapterIdentityMismatch, .backendUnavailable, .nativeException, .malformedNativeResult,
    .inconsistentPlayerView, .invalidJointAction, .chanceNormalizationFailure,
    .workAccountingInconsistency]

/-- The failure class with a given value, if there is one. -/
def MappingFailureClass.ofValue (value : String) : Option MappingFailureClass :=
  MappingFailureClass.all.find? fun failureClass => failureClass.value = value

@[simp] theorem MappingFailureClass.ofValue_value (failureClass : MappingFailureClass) :
    MappingFailureClass.ofValue failureClass.value = some failureClass := by
  cases failureClass <;> decide

inductive MappingClassification where
  | mapped
  | transitioned
  | failed
  deriving DecidableEq, Repr

/-- `MappingReport`. The adapter's identity and version are the same in all of them. -/
structure MappingReport where
  classification : MappingClassification
  backendIdentityDigest : Digest
  observedStateDigest : Option Digest
  requestIdentityDigest : Option Digest
  safeSubmissionSetDigest : Option Digest
  capabilityIds : List String
  workUnits : Nat
  failureClass : Option MappingFailureClass
  deriving DecidableEq

/-- `PokeEngineMappingFailure`. -/
structure PokeEngineMappingFailure where
  failureClass : MappingFailureClass
  report : MappingReport
  workUnits : Nat
  /-- The report agrees with the failure -/
  accounting : report.failureClass = some failureClass ∧ report.workUnits = workUnits
  deriving DecidableEq

/-- What the adapter's handlers tell apart of a raised exception. `_StateMappingError` and
`_ActionMappingError` carry a text as their failure class, which need not be one. -/
inductive EngineError where
  | mappingFailure (failure : PokeEngineMappingFailure)
  | stateMappingError (failureClass : String)
  | actionMappingError (failureClass : String)
  | attributeError
  | typeError
  | valueError
  | arithmeticError
  | other (className : String)
  deriving DecidableEq

/-! ## §3 Python values -/

/-- A value that the adapter gets from the engine or builds for it. A float is given by its
`repr`; `object` is everything that only the engine knows. -/
inductive PyValue (Obj : Type) where
  | none
  | bool (value : Bool)
  | int (value : Int)
  | float (text : String)
  | str (value : String)
  | list (items : List (PyValue Obj))
  | tuple (items : List (PyValue Obj))
  | dict (members : List (String × PyValue Obj))
  | object (handle : Obj)

namespace PyValue

variable {Obj : Type}

mutual

/-- The JSON value that `rfc8785.dumps` takes a value for. It raises a `ValueError` for others. -/
def toJson : PyValue Obj → Except EngineError Json
  | none => .ok .null
  | bool value => .ok (.bool value)
  | int value => .ok (.int value)
  | float text => .ok (.float text)
  | str value => .ok (.str value)
  | list items => (itemsToJson items).map .arr
  | tuple items => (itemsToJson items).map .arr
  | dict members => (membersToJson members).map .obj
  | object _ => .error .valueError

def itemsToJson : List (PyValue Obj) → Except EngineError (List Json)
  | [] => .ok []
  | item :: rest => do
      let first ← toJson item
      let others ← itemsToJson rest
      pure (first :: others)

def membersToJson : List (String × PyValue Obj) → Except EngineError (List (String × Json))
  | [] => .ok []
  | (key, value) :: rest => do
      let first ← toJson value
      let others ← membersToJson rest
      pure ((key, first) :: others)

end

/-- The text of a string. -/
def str? : PyValue Obj → Option String
  | str value => some value
  | _ => Option.none

end PyValue

/-- `manifest_digest`. Whatever `rfc8785.dumps` raises is a `ValueError`. -/
def Digest.manifest [Rfc8785] (value : Json) : Except EngineError Digest :=
  match h : manifestDigest value with
  | .ok text => .ok ⟨text, isDigest_of_manifestDigest h⟩
  | .error _ => .error .valueError

/-! ## §4 Interactions -/

/-- The places of the adapter's code from which it interacts with the engine. They play no part in
what the adapter does: an environment may note them. -/
inductive Site where
  /-- `_state_from_string` and `_legal_choice_values`, and `apply_instructions` -/
  | guarded
  /-- `map_native_state` -/
  | nativeState
  /-- the engine state that `map_complete_world` builds -/
  | completeWorld
  /-- what else `prepare_battle_root` reads -/
  | preparedRoot
  /-- the side that `_deep_bindings` picks -/
  | deepSide
  /-- its `force_switch` -/
  | forceSwitch
  /-- `generate_instructions` -/
  | generateInstructions
  /-- the percentage of an instruction -/
  | percentage
  deriving DecidableEq, Repr

/-- The interactions with a native module that code in `m` may have. -/
class NativeModule (Obj : outParam Type) (m : Type → Type) where
  /-- `native.name` -/
  member : Site → String → m (PyValue Obj)
  /-- `native.name(*arguments)` or `native.name(**arguments)` -/
  call : Site → String → List (String × PyValue Obj) → m (PyValue Obj)
  /-- `receiver.name(*arguments)` -/
  invoke : Site → PyValue Obj → String → List (PyValue Obj) → m (PyValue Obj)
  /-- `receiver.name` -/
  getattr : Site → PyValue Obj → String → m (PyValue Obj)
  /-- `int(value)` -/
  int : Site → PyValue Obj → m Int
  /-- `bool(value)` -/
  bool : Site → PyValue Obj → m Bool
  /-- `str(value)` -/
  str : Site → PyValue Obj → m String
  /-- `value[index]` -/
  item : Site → PyValue Obj → Int → m (PyValue Obj)
  /-- the iteration over a value -/
  items : Site → PyValue Obj → m (List (PyValue Obj))
  /-- `first != second` -/
  differ : Site → PyValue Obj → PyValue Obj → m Bool
  /-- the length of the set of some values -/
  distinct : Site → List (PyValue Obj) → m Nat
  /-- `self._backend_health = EngineBackendHealth.UNHEALTHY` -/
  markUnhealthy : m Unit

section Conversions

variable {Obj : Type} {m : Type → Type} [Monad m] [NativeModule Obj m]

/-- `int(value)`: of the engine's own objects, floats and texts the engine decides. -/
def toInt (site : Site) (value : PyValue Obj) : m Int :=
  match value with
  | .int value => pure value
  | .bool value => pure (if value then 1 else 0)
  | value => NativeModule.int site value

/-- `bool(value)` -/
def toBool (site : Site) (value : PyValue Obj) : m Bool :=
  match value with
  | .bool value => pure value
  | .int value => pure (value ≠ 0)
  | .none => pure false
  | .str value => pure (value ≠ "")
  | .list items => pure (!items.isEmpty)
  | .tuple items => pure (!items.isEmpty)
  | value => NativeModule.bool site value

/-- `str(value)` -/
def toStr (site : Site) (value : PyValue Obj) : m String :=
  match value with
  | .str value => pure value
  | .int value => pure (toString value)
  | value => NativeModule.str site value

/-- The iteration over a value. -/
def toItems (site : Site) (value : PyValue Obj) : m (List (PyValue Obj)) :=
  match value with
  | .list items => pure items
  | .tuple items => pure items
  | value => NativeModule.items site value

/-- `first != second`: two texts differ as texts, two numbers as numbers, and no text is `None`. -/
def isDifferent (site : Site) (first second : PyValue Obj) : m Bool :=
  match first, second with
  | .str first, .str second => pure (first ≠ second)
  | .bool first, .bool second => pure (first ≠ second)
  | .int first, .int second => pure (first ≠ second)
  | .none, .none => pure false
  | .str _, .none => pure true
  | .none, .str _ => pure true
  | first, second => NativeModule.differ site first second

/-- `len({...})` -/
def distinctCount (site : Site) (values : List (PyValue Obj)) : m Nat :=
  match values.mapM PyValue.str? with
  | some texts => pure texts.dedup.length
  | none => NativeModule.distinct site values

end Conversions

/-! ## §5 Engines -/

/-- An engine whose answers depend on the question alone. -/
class Engine (Obj : outParam Type) where
  member : String → Except EngineError (PyValue Obj)
  call : String → List (String × PyValue Obj) → Except EngineError (PyValue Obj)
  invoke : PyValue Obj → String → List (PyValue Obj) → Except EngineError (PyValue Obj)
  getattr : PyValue Obj → String → Except EngineError (PyValue Obj)
  int : PyValue Obj → Except EngineError Int
  bool : PyValue Obj → Except EngineError Bool
  str : PyValue Obj → Except EngineError String
  item : PyValue Obj → Int → Except EngineError (PyValue Obj)
  items : PyValue Obj → Except EngineError (List (PyValue Obj))
  differ : PyValue Obj → PyValue Obj → Except EngineError Bool
  distinct : List (PyValue Obj) → Except EngineError Nat

/-- With such an engine the adapter's code is a function: health is left out. -/
instance {Obj : Type} [Engine Obj] : NativeModule Obj (Except EngineError) where
  member _ := Engine.member
  call _ := Engine.call
  invoke _ := Engine.invoke
  getattr _ := Engine.getattr
  int _ := Engine.int
  bool _ := Engine.bool
  str _ := Engine.str
  item _ := Engine.item
  items _ := Engine.items
  differ _ := Engine.differ
  distinct _ := Engine.distinct
  markUnhealthy := pure ()

/-! ## §6 Environments -/

/-- `EngineBackendHealth`. -/
inductive EngineBackendHealth where
  | healthy
  | unhealthy
  deriving DecidableEq, Repr

/-- An exception that an interaction raised, with the place of the code that it was raised to. -/
structure Incident where
  site : Site
  error : EngineError
  deriving DecidableEq

/-- What surrounds the adapter's code while it runs: the state of its environment, and a record of
what has happened between them. -/
structure Surroundings (World : Type) where
  world : World
  /-- The exceptions that interactions have raised, the latest first -/
  raised : List Incident
  /-- `generate_instructions` has been called -/
  generated : Bool
  health : EngineBackendHealth

/-- Nothing has happened yet. -/
def Surroundings.fresh {World : Type} (world : World) (health : EngineBackendHealth) :
    Surroundings World :=
  ⟨world, [], false, health⟩

/-- An environment: each interaction may give any answer, and leave any state behind. It does not
raise `KeyboardInterrupt` or `SystemExit`, which all handlers let through. -/
class NativeEnvironment (Obj : outParam Type) (World : Type) where
  member : String → World → Except EngineError (PyValue Obj) × World
  call : String → List (String × PyValue Obj) → World → Except EngineError (PyValue Obj) × World
  invoke : PyValue Obj → String → List (PyValue Obj) → World →
    Except EngineError (PyValue Obj) × World
  getattr : PyValue Obj → String → World → Except EngineError (PyValue Obj) × World
  int : PyValue Obj → World → Except EngineError Int × World
  bool : PyValue Obj → World → Except EngineError Bool × World
  str : PyValue Obj → World → Except EngineError String × World
  item : PyValue Obj → Int → World → Except EngineError (PyValue Obj) × World
  items : PyValue Obj → World → Except EngineError (List (PyValue Obj)) × World
  differ : PyValue Obj → PyValue Obj → World → Except EngineError Bool × World
  distinct : List (PyValue Obj) → World → Except EngineError Nat × World

/-- Code that runs in an environment. What it has done stays done where it raises. -/
abbrev Interacting (World : Type) := ExceptT EngineError (StateM (Surroundings World))

section Environments

variable {Obj World : Type}

/-- The exception of an answer, if it is one. -/
def incidents {α : Type} (site : Site) : Except EngineError α → List Incident
  | .ok _ => []
  | .error error => [⟨site, error⟩]

/-- One interaction, noted where it raises and where it calls `generate_instructions`. -/
def interact {α : Type} (site : Site) (question : World → Except EngineError α × World) :
    Interacting World α :=
  ExceptT.mk fun before =>
    let (answer, world) := question before.world
    (answer, { before with
      world := world
      raised := incidents site answer ++ before.raised
      generated := before.generated || site = .generateInstructions })

instance [NativeEnvironment Obj World] : NativeModule Obj (Interacting World) where
  member site name := interact site (NativeEnvironment.member name)
  call site name arguments := interact site (NativeEnvironment.call name arguments)
  invoke site receiver name arguments :=
    interact site (NativeEnvironment.invoke receiver name arguments)
  getattr site receiver name := interact site (NativeEnvironment.getattr receiver name)
  int site value := interact site (NativeEnvironment.int value)
  bool site value := interact site (NativeEnvironment.bool value)
  str site value := interact site (NativeEnvironment.str value)
  item site value index := interact site (NativeEnvironment.item value index)
  items site value := interact site (NativeEnvironment.items value)
  differ site first second := interact site (NativeEnvironment.differ first second)
  distinct site values := interact site (NativeEnvironment.distinct values)
  markUnhealthy := ExceptT.mk fun before => (.ok (), { before with health := .unhealthy })

end Environments

end BattleBelief
