import BattleBelief.Engine.SearchValues
import BattleBelief.Records.PublicProjection

/-!
# The Action Mapper

Search actions stand for choices of the engine. At a root they are the safe submissions of a
request, in their order; deeper in the tree they are whatever the engine lists.
-/

namespace BattleBelief

/-! ## §1 Bindings -/

/-- `_ActionBinding`. -/
structure ActionBinding where
  action : SearchAction
  nativeChoice : String
  submission : Option BattleSubmission
  deriving DecidableEq

/-- `_fail`. -/
def failAction {α : Type} (failureClass : MappingFailureClass) : Except EngineError α :=
  .error (.actionMappingError failureClass.value)

/-- `_capabilities`. -/
def catalogCapabilities (catalog : CapabilityCatalog) (values : List String) :
    Except EngineError (List CapabilityId) :=
  match (Python.sorted values.dedup).mapM catalog.idFor with
  | .ok capabilities => .ok capabilities
  | .error _ => failAction .capabilityAmbiguity

def moveSelection : String := "gen9.legality.move.selection"
def teraActivation : String := "gen9.legality.terastallization.activation"

/-- The capability that a switch needs. -/
def switchCapability (forceSwitch : Bool) : String :=
  if forceSwitch then "gen9.legality.switch.forced" else "gen9.legality.switch.voluntary"

/-! ## §2 Root actions -/

/-- `ids[slot - 1]`, for a slot that is no larger than the number of ids. -/
def slotId (ids : List String) (slot : Int) : Option String :=
  if slot > ids.length then none else ids[(slot - 1).toNat]?

/-- `_submission_choice`. -/
def submissionChoice (submission : BattleSubmission) (teamIds activeMoveIds : List String) :
    Except EngineError String :=
  match submission.kind with
  | .move =>
      match submission.moveId, submission.slot with
      | some moveId, some slot =>
          if slotId activeMoveIds slot = some moveId then
            .ok (moveId ++ if submission.terastallize then "-tera" else "")
          else failAction .safeSubmissionMismatch
      | _, _ => failAction .safeSubmissionMismatch
  | .switch =>
      match submission.slot.bind (slotId teamIds) with
      | some teamId => .ok ("switch " ++ teamId)
      | none => failAction .safeSubmissionMismatch
  | _ => failAction .unsupportedMapping

/-- What kind of search action a submission becomes. -/
def rootActionKind (submission : BattleSubmission) : SearchActionKind :=
  if submission.kind = .move then .move else .switch

/-- The capabilities that a root action needs. -/
def rootActionCapabilities (submission : BattleSubmission) (forceSwitch : Bool) : List String :=
  if submission.kind = .move then
    moveSelection :: if submission.terastallize then [teraActivation] else []
  else [switchCapability forceSwitch]

section Mapper

variable [Rfc8785]

/-- `battle_submission_digest`. -/
def battleSubmissionDigest (submission : BattleSubmission) : Except EngineError Digest :=
  Digest.manifest (projectBattleSubmission submission)

/-- `request_identity_digest`. -/
def Digest.requestIdentity (identity : RequestIdentity) : Except EngineError Digest :=
  match projectRequestIdentity identity with
  | .ok projection => Digest.manifest projection
  | .error _ => .error .valueError

/-- `safe_submission_set_digest`. -/
def Digest.safeSubmissionSet (safe : SafeSubmissionSet) : Except EngineError Digest :=
  match projectSafeSubmissionSet safe with
  | .ok projection => Digest.manifest projection
  | .error _ => .error .valueError

/-- The id of a root action. -/
def rootActionId (index : Nat) (submission : BattleSubmission) : Except EngineError Digest := do
  let submissionDigest ← battleSubmissionDigest submission
  Digest.manifest (.obj [("safe_submission_index", .int index),
    ("submission_digest", .str submissionDigest.text)])

/-- One round of the loop of `map_root_actions`. -/
def rootBinding (rootIdentity : PreparedRootIdentity) (nativeChoices teamIds activeMoveIds : List String)
    (forceSwitch : Bool) (catalog : CapabilityCatalog) (entry : BattleSubmission × Nat) :
    Except EngineError ActionBinding := do
  let (submission, index) := entry
  let native ← submissionChoice submission teamIds activeMoveIds
  if native ∉ nativeChoices then failAction .safeSubmissionMismatch
  let actionId ← rootActionId index submission
  let capabilities ← catalogCapabilities catalog (rootActionCapabilities submission forceSwitch)
  let action ← SearchAction.create actionId (rootActionKind submission) capabilities
    (some (index, rootIdentity))
  pure ⟨action, native, some submission⟩

/-- `map_root_actions`. -/
def mapRootActions (safeSet : SafeSubmissionSet) (rootIdentity : PreparedRootIdentity)
    (nativeChoices teamIds activeMoveIds : List String) (forceSwitch : Bool)
    (catalog : CapabilityCatalog) : Except EngineError (List ActionBinding) := do
  if safeSet.submissions = [] then failAction .safeSubmissionMismatch
  if !safeSet.submissions.Nodup then failAction .safeSubmissionMismatch
  let bindings ← safeSet.submissions.zipIdx.mapM
    (rootBinding rootIdentity nativeChoices teamIds activeMoveIds forceSwitch catalog)
  if !(bindings.map ActionBinding.nativeChoice).Nodup then failAction .safeSubmissionMismatch
  pure bindings

/-! ## §3 Deep actions -/

def isChoiceChar (c : Char) : Bool := ('a' ≤ c && c ≤ 'z') || ('0' ≤ c && c ≤ '9')

/-- `[a-z0-9]+` -/
def isChoiceId (chars : List Char) : Bool := !chars.isEmpty && chars.all isChoiceChar

def teraSuffix : String := "-tera"

/-- `_MOVE_CHOICE`. -/
def isMoveChoice (native : String) : Bool :=
  isChoiceId native.toList || (Python.endsWith native teraSuffix &&
    isChoiceId (native.toList.take (native.toList.length - teraSuffix.toList.length)))

/-- `_SWITCH_CHOICE`. -/
def isSwitchChoice (native : String) : Bool :=
  Python.startsWith native "switch " && isChoiceId (native.toList.drop "switch ".toList.length)

/-- The kind of action that a choice of the engine is, with the capabilities that it needs. -/
def nativeActionShape (native : String) (forceSwitch : Bool) :
    Option (SearchActionKind × List String) :=
  if native = "No Move" then some (.pass, [])
  else if isSwitchChoice native then some (.switch, [switchCapability forceSwitch])
  else if isMoveChoice native then
    some (.move, moveSelection :: if Python.endsWith native teraSuffix then [teraActivation] else [])
  else none

/-- The document that gives a deep action its id. -/
def nativeActionDocument (kind : SearchActionKind) (native : String) : Python.Json :=
  .obj [("kind", .str kind.value), ("native_choice", .str native)]

/-- One round of the loop of `map_native_actions`. -/
def nativeBinding (forceSwitch : Bool) (catalog : CapabilityCatalog) (native : String) :
    Except EngineError ActionBinding := do
  if native = "" || !native.toList.all Python.isAscii then failAction .unknownNativeChoice
  match nativeActionShape native forceSwitch with
  | none => failAction .unknownNativeChoice
  | some (kind, values) => do
      let capabilities ← catalogCapabilities catalog values
      let actionId ← Digest.manifest (nativeActionDocument kind native)
      let action ← SearchAction.create actionId kind capabilities none
      pure ⟨action, native, none⟩

/-- `map_native_actions`. -/
def mapNativeActions (nativeChoices : List String) (forceSwitch : Bool)
    (catalog : CapabilityCatalog) : Except EngineError (List ActionBinding) := do
  if nativeChoices.isEmpty || !nativeChoices.Nodup then failAction .malformedNativeResult
  nativeChoices.mapM (nativeBinding forceSwitch catalog)

end Mapper

/-- `binding_for_action`. -/
def bindingForAction (bindings : List ActionBinding) (action : SearchAction) :
    Except EngineError ActionBinding :=
  match bindings.filter fun binding => binding.action = action with
  | [binding] => .ok binding
  | _ => failAction .invalidJointAction

end BattleBelief
