import BattleBelief.Engine.TransitionModel
import BattleBelief.Library.Effects

/-!
# Reading Native States

To freeze a state the mapper reads its attributes and converts them. A compositional property that
these interactions have, and the exceptions that the mapper raises itself, is one of the freezing;
and likewise for the successors that the transition model weighs.
-/

namespace BattleBelief

open Effects Outcomes

/-! ## §1 Reads -/

/-- Code that reads at `site` and raises exceptions with `Own` has the property `S`. -/
structure Reads {Obj : Type} {m : Type → Type} [Monad m] [MonadExceptOf EngineError m]
    [NativeModule Obj m] (S : ∀ α, m α → Prop) (site : Site) (Own : EngineError → Prop) : Prop
    extends Compositional S where
  throw : ∀ {α} {error}, Own error → S α (throw error)
  invoke : ∀ receiver name arguments, S _ (NativeModule.invoke site receiver name arguments)
  getattr : ∀ receiver name, S _ (NativeModule.getattr site receiver name)
  int : ∀ value, S _ (NativeModule.int site value)
  bool : ∀ value, S _ (NativeModule.bool site value)
  str : ∀ value, S _ (NativeModule.str site value)
  item : ∀ value index, S _ (NativeModule.item site value index)
  items : ∀ value, S _ (NativeModule.items site value)
  differ : ∀ first second, S _ (NativeModule.differ site first second)

section Conversions

variable {Obj : Type} {m : Type → Type} [Monad m] [MonadExceptOf EngineError m] [NativeModule Obj m]
  {S : ∀ α, m α → Prop} {site : Site} {Own : EngineError → Prop}

theorem Reads.toInt (h : Reads S site Own) (value : PyValue Obj) :
    S Int (BattleBelief.toInt site value) := by
  cases value <;> first | exact h.pure _ | exact h.int _

theorem Reads.toBool (h : Reads S site Own) (value : PyValue Obj) :
    S Bool (BattleBelief.toBool site value) := by
  cases value <;> first | exact h.pure _ | exact h.bool _

theorem Reads.toStr (h : Reads S site Own) (value : PyValue Obj) :
    S String (BattleBelief.toStr site value) := by
  cases value <;> first | exact h.pure _ | exact h.str _

theorem Reads.toItems (h : Reads S site Own) (value : PyValue Obj) :
    S (List (PyValue Obj)) (BattleBelief.toItems site value) := by
  cases value <;> first | exact h.pure _ | exact h.items _

theorem Reads.isDifferent (h : Reads S site Own) (first second : PyValue Obj) :
    S Bool (BattleBelief.isDifferent site first second) := by
  cases first <;> cases second <;> first | exact h.pure _ | exact h.differ _ _

/-- A result of plain code that only raises what may be raised. -/
theorem Reads.ofExcept (h : Reads S site Own) {α : Type} {x : Except EngineError α}
    (hx : RaisesOnly Own x) : S α (MonadExcept.ofExcept x) := by
  cases x with
  | ok a => exact h.pure a
  | error error => exact h.throw (hx.of_error rfl)

end Conversions

/-! ## §2 Freezing -/

/-- What the mapper raises itself while it freezes a state. -/
inductive FreezeFault : EngineError → Prop where
  | malformed : FreezeFault (.stateMappingError MappingFailureClass.malformedNativeResult.value)
  | inconsistent :
      FreezeFault (.stateMappingError MappingFailureClass.inconsistentPlayerView.value)
  | value : FreezeFault .valueError
  | arithmetic : FreezeFault .arithmeticError

section Json

variable {Obj : Type}

mutual

/-- A value has a JSON form or raises a `ValueError`. -/
theorem PyValue.toJson_raisesOnly : ∀ value : PyValue Obj,
    RaisesOnly (fun error => error = .valueError) value.toJson
  | .none | .bool _ | .int _ | .float _ | .str _ => .ok
  | .list items | .tuple items => (itemsToJson_raisesOnly items).bind fun _ _ => .ok trivial
  | .dict members => (membersToJson_raisesOnly members).bind fun _ _ => .ok trivial
  | .object _ => .error rfl

theorem PyValue.itemsToJson_raisesOnly : ∀ items : List (PyValue Obj),
    RaisesOnly (fun error => error = .valueError) (PyValue.itemsToJson items)
  | [] => .ok
  | item :: rest => (toJson_raisesOnly item).bind fun _ _ =>
      (itemsToJson_raisesOnly rest).bind fun _ _ => .ok trivial

theorem PyValue.membersToJson_raisesOnly : ∀ members : List (String × PyValue Obj),
    RaisesOnly (fun error => error = .valueError) (PyValue.membersToJson members)
  | [] => .ok
  | (_, value) :: rest => (toJson_raisesOnly value).bind fun _ _ =>
      (membersToJson_raisesOnly rest).bind fun _ _ => .ok trivial

end

end Json

/-- So does a digest. -/
theorem Digest.manifest_raisesOnly [Rfc8785] (document : Python.Json) :
    RaisesOnly (fun error => error = .valueError) (Digest.manifest document) := by
  unfold Digest.manifest
  split
  · exact .ok
  · exact .error rfl

section Freezing

variable {Obj : Type} {m : Type → Type} [Monad m] [LawfulMonad m] [MonadExceptOf EngineError m]
  [NativeModule Obj m] {S : ∀ α, m α → Prop} (h : Reads S .nativeState FreezeFault)

include h

omit [LawfulMonad m] in
theorem Reads.readInt (receiver : PyValue Obj) (name : String) :
    S Int (BattleBelief.readInt receiver name) :=
  h.bind (h.getattr receiver name) h.toInt

omit [LawfulMonad m] in
theorem Reads.readBool (receiver : PyValue Obj) (name : String) :
    S Bool (BattleBelief.readBool receiver name) :=
  h.bind (h.getattr receiver name) h.toBool

omit [LawfulMonad m] in
theorem Reads.readItems (receiver : PyValue Obj) (name : String) :
    S (List (PyValue Obj)) (BattleBelief.readItems receiver name) :=
  h.bind (h.getattr receiver name) h.toItems

omit [LawfulMonad m] in
theorem Reads.readPokemon (side : PyValue Obj) (index : Int) :
    S (PyValue Obj) (BattleBelief.readPokemon side index) :=
  h.bind (h.getattr side "pokemon") fun team => h.item team index

theorem Reads.effectiveTypes (active : PyValue Obj) :
    S (List String) (BattleBelief.effectiveTypes active) := by
  unfold BattleBelief.effectiveTypes
  refine h.bind (h.readBool active "terastallized") fun terastallized => ?_
  split
  · refine h.bind (h.getattr active "tera_type") fun value => ?_
    exact h.bind (h.toStr value) fun teraType => h.pure _
  · refine h.bind (h.readItems active "types") fun types => h.mapM fun value _ => ?_
    exact h.bind (h.toStr value) fun text => h.pure _

omit [LawfulMonad m] in
theorem Reads.allDefeated (team : List (PyValue Obj)) :
    S Bool (BattleBelief.allDefeated team) := by
  induction team with
  | nil => exact h.pure true
  | cons pokemon rest ih =>
    unfold BattleBelief.allDefeated
    refine h.bind (h.readInt pokemon "hp") fun hp => ?_
    split
    · exact ih
    · exact h.pure false

omit [LawfulMonad m] in
theorem Reads.privateMove (move : PyValue Obj) :
    S (PyValue Obj) (BattleBelief.privateMove move) := by
  unfold BattleBelief.privateMove
  refine h.bind (h.getattr move "id") fun id => ?_
  refine h.bind (h.readInt move "pp") fun pp => ?_
  exact h.bind (h.readBool move "disabled") fun disabled => h.pure _

theorem Reads.privatePokemon (pokemon : PyValue Obj) :
    S (PyValue Obj) (BattleBelief.privatePokemon pokemon) := by
  unfold BattleBelief.privatePokemon
  refine h.bind (h.getattr pokemon "id") fun id => ?_
  refine h.bind (h.readInt pokemon "hp") fun hp => ?_
  refine h.bind (h.readInt pokemon "maxhp") fun maxhp => ?_
  refine h.bind (h.getattr pokemon "ability") fun ability => ?_
  refine h.bind (h.getattr pokemon "item") fun item => ?_
  refine h.bind (h.readItems pokemon "moves") fun items => ?_
  refine h.bind (h.mapM fun move _ => h.privateMove move) fun moves => ?_
  refine h.bind (h.getattr pokemon "tera_type") fun teraType => ?_
  refine h.bind (h.readBool pokemon "terastallized") fun terastallized => ?_
  refine h.bind (h.readInt pokemon "attack") fun attack => ?_
  refine h.bind (h.readInt pokemon "defense") fun defense => ?_
  refine h.bind (h.readInt pokemon "special_attack") fun specialAttack => ?_
  refine h.bind (h.readInt pokemon "special_defense") fun specialDefense => ?_
  exact h.bind (h.readInt pokemon "speed") fun speed => h.pure _

omit [LawfulMonad m] in
theorem Reads.readSides (state : PyValue Obj) :
    S (PyValue Obj × PyValue Obj) (BattleBelief.readSides state) :=
  h.bind (h.getattr state "side_one") fun _ =>
    h.bind (h.getattr state "side_two") fun _ => h.pure _

theorem Reads.ownPrivate (state : PyValue Obj) (player : Player) :
    S (PyValue Obj) (BattleBelief.ownPrivate state player) := by
  unfold BattleBelief.ownPrivate
  refine h.bind (h.readSides state) fun sides => ?_
  refine h.bind (h.readInt _ "active_index") fun activeIndex => ?_
  refine h.bind (h.readItems _ "pokemon") fun items => ?_
  exact h.bind (h.mapM fun pokemon _ => h.privatePokemon pokemon) fun pokemon => h.pure _

omit [LawfulMonad m] in
theorem Reads.publicHpValue (own : Bool) (publicHp : PublicHp) (hp maxhp : Int) :
    S PublicHpValue (BattleBelief.publicHpValue own publicHp hp maxhp) := by
  unfold BattleBelief.publicHpValue
  split
  · exact h.pure _
  · dsimp only
    split
    · exact h.pure _
    · exact h.throw .arithmetic

omit [LawfulMonad m] in
theorem Reads.readTeraType (active : PyValue Obj) :
    S (PyValue Obj) (BattleBelief.readTeraType active) := by
  refine h.bind (h.readBool active "terastallized") fun terastallized => ?_
  split
  · exact h.getattr active "tera_type"
  · exact h.pure PyValue.none

theorem Reads.publicActive (side : PyValue Obj) (own : Bool) (publicHp : PublicHp) :
    S (PublicActive Obj) (BattleBelief.publicActive side own publicHp) := by
  unfold BattleBelief.publicActive
  refine h.bind (h.readInt side "active_index") fun index => ?_
  refine h.bind (h.readPokemon side index) fun active => ?_
  refine h.bind (h.readInt active "hp") fun hp => ?_
  refine h.bind (h.readInt active "maxhp") fun maxhp => ?_
  refine h.bind (h.publicHpValue own publicHp hp maxhp) fun hpValue => ?_
  refine h.bind (h.getattr active "id") fun id => ?_
  refine h.bind (h.getattr active "status") fun status => ?_
  refine h.bind (h.effectiveTypes active) fun types => ?_
  refine h.bind (h.readBool active "terastallized") fun terastallized => ?_
  exact h.bind (h.readTeraType active) fun teraType => h.pure _

omit [LawfulMonad m] in
theorem Reads.changedActive (before after : PublicActive Obj) (precision : HpPrecision) :
    S (List (String × PyValue Obj)) (BattleBelief.changedActive before after precision) :=
  h.bind (h.isDifferent before.id after.id) fun _ =>
    h.bind (h.isDifferent before.status after.status) fun _ =>
      h.bind (h.isDifferent before.teraType after.teraType) fun _ => h.pure _

theorem Reads.sideDelta (sideId player : Player) (source target : PyValue Obj)
    (publicHp : PublicHp) :
    S (List (String × PyValue Obj)) (BattleBelief.sideDelta sideId player source target publicHp) :=
  h.bind (h.publicActive source _ publicHp) fun before =>
    h.bind (h.publicActive target _ publicHp) fun after =>
      h.bind (h.changedActive before after publicHp.1) fun _ => h.pure _

omit [LawfulMonad m] in
theorem Reads.fieldDelta (source target : PyValue Obj) (name : String) :
    S (List (String × PyValue Obj)) (BattleBelief.fieldDelta source target name) :=
  h.bind (h.getattr source name) fun before =>
    h.bind (h.getattr target name) fun after =>
      h.bind (h.isDifferent before after) fun _ => h.pure _

theorem Reads.publicTransitionDelta (source target : PyValue Obj) (player : Player)
    (publicHp : PublicHp × PublicHp) :
    S (PyValue Obj) (BattleBelief.publicTransitionDelta source target player publicHp) := by
  unfold BattleBelief.publicTransitionDelta
  refine h.bind (h.getattr source "side_one") fun sourceOne => ?_
  refine h.bind (h.getattr target "side_one") fun targetOne => ?_
  refine h.bind (h.getattr source "side_two") fun sourceTwo => ?_
  refine h.bind (h.getattr target "side_two") fun targetTwo => ?_
  refine h.bind (h.sideDelta .p1 player sourceOne targetOne publicHp.1) fun deltaOne => ?_
  refine h.bind (h.sideDelta .p2 player sourceTwo targetTwo publicHp.2) fun deltaTwo => ?_
  refine h.bind (h.fieldDelta source target "weather") fun weather => ?_
  refine h.bind (h.fieldDelta source target "terrain") fun terrain => ?_
  exact h.bind (h.fieldDelta source target "trick_room") fun trickRoom => h.pure _

theorem Reads.viewDocument (state : PyValue Obj) (observedDigest : Digest) (player : Player)
    (priorViewDigest : Option Digest) (source : PyValue Obj) (publicHp : PublicHp × PublicHp) :
    S (PyValue Obj) (BattleBelief.viewDocument state observedDigest player priorViewDigest source
      publicHp) := by
  refine h.bind (h.ownPrivate state player) fun own => ?_
  cases priorViewDigest with
  | none => exact h.pure _
  | some prior =>
    exact h.bind (h.publicTransitionDelta source state player publicHp) fun delta => h.pure _

omit [LawfulMonad m] in
theorem Reads.serialize (state : PyValue Obj) : S String (BattleBelief.serialize state) := by
  refine h.bind (h.invoke state "to_string" []) fun value => ?_
  split
  · split
    · exact h.throw .malformed
    · exact h.pure _
  · exact h.throw .malformed

variable [Rfc8785]

theorem Reads.viewDigest (state : PyValue Obj) (observedDigest : Digest) (player : Player)
    (priorViewDigest : Option Digest) (source : PyValue Obj) (publicHp : PublicHp × PublicHp) :
    S Digest (BattleBelief.viewDigest state observedDigest player priorViewDigest source
      publicHp) := by
  refine h.bind (h.viewDocument state observedDigest player priorViewDigest source publicHp)
    fun document => h.ofExcept ?_
  have hdigest : RaisesOnly (fun error => error = .valueError)
      (document.toJson >>= Digest.manifest) :=
    (PyValue.toJson_raisesOnly document).bind fun json _ => Digest.manifest_raisesOnly json
  exact hdigest.mono fun error herror => herror ▸ .value

/-- Freezing a state reads it, and raises the faults of the mapper. -/
theorem Reads.freezeNativeState (state : PyValue Obj) (observedDigest : Digest)
    (priorViewDigests : Option (Digest × Digest)) (sourceState : Option (PyValue Obj))
    (publicHp : PublicHp × PublicHp) :
    S MappedNativeState (BattleBelief.freezeNativeState state observedDigest priorViewDigests
      sourceState publicHp) := by
  unfold BattleBelief.freezeNativeState
  refine h.bind (h.serialize state) fun serialized => ?_
  refine h.bind (h.readSides state) fun sides => ?_
  refine h.bind (h.readInt sides.1 "active_index") fun indexOne => ?_
  refine h.bind (h.readInt sides.2 "active_index") fun indexTwo => ?_
  refine h.bind (h.readPokemon sides.1 indexOne) fun activeOne => ?_
  refine h.bind (h.readBool activeOne "terastallized") fun terastallizedOne => ?_
  refine h.bind (h.readPokemon sides.2 indexTwo) fun activeTwo => ?_
  refine h.bind (h.readBool activeTwo "terastallized") fun terastallizedTwo => ?_
  refine h.bind (h.readPokemon sides.1 indexOne) fun activeOne => ?_
  refine h.bind (h.effectiveTypes activeOne) fun typesOne => ?_
  refine h.bind (h.readPokemon sides.2 indexTwo) fun activeTwo => ?_
  refine h.bind (h.effectiveTypes activeTwo) fun typesTwo => ?_
  refine h.bind (h.readItems sides.1 "pokemon") fun teamOne => ?_
  refine h.bind (h.allDefeated teamOne) fun defeatedOne => ?_
  refine h.bind (h.readItems sides.2 "pokemon") fun teamTwo => ?_
  refine h.bind (h.allDefeated teamTwo) fun defeatedTwo => ?_
  split
  · exact h.throw .inconsistent
  · refine h.bind (h.viewDigest state observedDigest .p1 _ _ publicHp) fun viewOne => ?_
    exact h.bind (h.viewDigest state observedDigest .p2 _ _ publicHp) fun viewTwo => h.pure _

end Freezing

/-! ## §3 Weighing successors -/

/-- What the transition model raises itself while it weighs the successors of a state. -/
inductive WeighFault (model : PokeEngineTransitionModel) : EngineError → Prop where
  | chance : WeighFault model (.mappingFailure (model.failure .chanceNormalizationFailure .nothing 1))
  | malformed : WeighFault model (.mappingFailure (model.failure .malformedNativeResult .nothing 1))
  | arithmetic : WeighFault model .arithmeticError

/-- Code that weighs successors has the property `S`. -/
structure Weighs {Obj : Type} {m : Type → Type} [Monad m] [MonadExceptOf EngineError m]
    [NativeModule Obj m] [Rfc8785] (model : PokeEngineTransitionModel) (S : ∀ α, m α → Prop) : Prop
    extends Compositional S where
  throw : ∀ {α} {error}, WeighFault model error → S α (throw error)
  getPercentage : ∀ instruction, S _ (PokeEngineTransitionModel.getPercentage instruction)
  applyInstructions : ∀ state instruction, S _ (model.applyInstructions state instruction)
  mapNativeState : ∀ state observedDigest priorViewDigests sourceState publicHp,
    S _ (mapNativeState state observedDigest priorViewDigests sourceState publicHp)

section Weighing

variable {Obj : Type} {m : Type → Type} [Monad m] [LawfulMonad m] [MonadExceptOf EngineError m]
  [NativeModule Obj m] [Rfc8785] {model : PokeEngineTransitionModel} {S : ∀ α, m α → Prop}
  (h : Weighs model S)

include h

omit [LawfulMonad m] in
theorem Weighs.readPercentage (instruction : PyValue Obj) :
    S Python.Decimal (model.readPercentage instruction) := by
  refine h.bind (h.getPercentage instruction) fun percentage => ?_
  cases percentage with
  | int value =>
    dsimp only
    split_ifs
    · exact h.throw .arithmetic
    · exact h.throw .chance
    · exact h.pure _
  | float text =>
    dsimp only
    split
    · split_ifs
      · exact h.throw .chance
      · exact h.pure _
    · exact h.throw .chance
  | _ => exact h.throw .chance

/-- Weighing successors reads their percentages, applies the instructions and freezes the states. -/
theorem Weighs.mappedSuccessors (state instructions : PyValue Obj) (observedDigest : Digest)
    (priorViewDigests : Digest × Digest) (publicHp : PublicHp × PublicHp) :
    S (List (MappedNativeState × ℚ)) (model.mappedSuccessors state instructions observedDigest
      priorViewDigests publicHp) := by
  have hadd : ∀ byState instruction, S PokeEngineTransitionModel.ByState (model.addSuccessor state
      observedDigest priorViewDigests publicHp byState instruction) := by
    intro byState instruction
    refine h.bind (h.readPercentage instruction) fun percentage => ?_
    refine h.bind (h.applyInstructions state instruction) fun successorState => ?_
    exact h.bind (h.mapNativeState _ _ _ _ _) fun mapped => h.pure _
  unfold PokeEngineTransitionModel.mappedSuccessors
  split
  · refine h.bind (h.mapM fun instruction _ => h.readPercentage instruction) fun percentages => ?_
    split
    · exact h.throw .chance
    · refine h.bind (h.foldlM fun byState instruction _ => hadd byState instruction) fun byState => ?_
      split
      · exact h.throw .chance
      · exact h.pure _
  · exact h.throw .malformed

end Weighing

end BattleBelief
