import BattleBelief.Engine.Capabilities
import BattleBelief.Engine.NativeReads
import BattleBelief.Engine.Roots
import Mathlib.Data.List.Dedup

/-!
# Faults of a Transition

An engine whose exceptions are its own can make a transition fail with some failure classes only.

- `transition_avoids`: a transition does not fail with a class that its joint action, its native
  calls and its outcome do not raise
-/

namespace BattleBelief

open Effects Outcomes PokeEngineTransitionModel

/-! ## §1 Exceptions of the engine -/

/-- An exception of none of the adapter's own classes. -/
def EngineError.IsForeign : EngineError → Prop
  | .mappingFailure _ | .stateMappingError _ | .actionMappingError _ => False
  | _ => True

/-- The engine raises no exception of the adapter's own classes: it does not know them. -/
structure RaisesForeign (Obj : Type) [Engine Obj] : Prop where
  call : ∀ name arguments, RaisesOnly EngineError.IsForeign (Engine.call name arguments)
  invoke : ∀ receiver name arguments,
    RaisesOnly EngineError.IsForeign (Engine.invoke receiver name arguments)
  getattr : ∀ receiver name, RaisesOnly EngineError.IsForeign (Engine.getattr receiver name)
  int : ∀ value, RaisesOnly EngineError.IsForeign (Engine.int value)
  bool : ∀ value, RaisesOnly EngineError.IsForeign (Engine.bool value)
  str : ∀ value, RaisesOnly EngineError.IsForeign (Engine.str value)
  item : ∀ value index, RaisesOnly EngineError.IsForeign (Engine.item value index)
  items : ∀ value, RaisesOnly EngineError.IsForeign (Engine.items value)
  differ : ∀ first second, RaisesOnly EngineError.IsForeign (Engine.differ first second)

/-! ## §2 Failure classes -/

/-- An exception from which no failure of the class comes. -/
def EngineError.Avoids (failureClass : MappingFailureClass) : EngineError → Prop
  | .mappingFailure raised => raised.failureClass ≠ failureClass
  | .stateMappingError text | .actionMappingError text => text ≠ failureClass.value
  | _ => True

theorem EngineError.IsForeign.avoids {error : EngineError} (h : error.IsForeign)
    (failureClass : MappingFailureClass) : error.Avoids failureClass := by
  cases error with
  | mappingFailure | stateMappingError | actionMappingError => exact h.elim
  | _ => exact trivial

theorem MappingFailureClass.ofValue_eq_some {text : String} {failureClass : MappingFailureClass}
    (h : MappingFailureClass.ofValue text = some failureClass) : text = failureClass.value := by
  unfold MappingFailureClass.ofValue at h
  have hvalue := List.find?_some h
  exact (of_decide_eq_true hvalue).symm

theorem MappingFailureClass.value_injective : Function.Injective MappingFailureClass.value := by
  intro first second h
  have hvalue := congrArg MappingFailureClass.ofValue h
  rw [ofValue_value, ofValue_value] at hvalue
  exact Option.some.inj hvalue

variable {Obj : Type} [Engine Obj] {model : PokeEngineTransitionModel}
  {failureClass other : MappingFailureClass} {α : Type}

theorem raise_avoids (h : other ≠ failureClass) (known : KnownDigests) (workUnits : Nat) :
    RaisesOnly (EngineError.Avoids failureClass)
      (model.raise other known workUnits : Except EngineError α) :=
  .error h

theorem raiseUnhealthy_avoids (h : other ≠ failureClass) (known : KnownDigests) (workUnits : Nat) :
    RaisesOnly (EngineError.Avoids failureClass)
      (model.raiseUnhealthy other known workUnits : Except EngineError α) :=
  .error h

theorem raiseFailure_avoids {text : String} (h : text ≠ failureClass.value) (known : KnownDigests)
    (workUnits : Nat) :
    RaisesOnly (EngineError.Avoids failureClass)
      (model.raiseFailure text known workUnits : Except EngineError α) := by
  unfold raiseFailure
  split
  · next found hfound =>
    refine raise_avoids (fun heq => h ?_) known workUnits
    rw [MappingFailureClass.ofValue_eq_some hfound, heq]
  · exact .error trivial

/-! ## §3 Deep actions -/

section Actions

variable [Rfc8785] {catalog : CapabilityCatalog} {choices : List String} {forceSwitch : Bool}

/-- What the mapper of deep actions raises: a class of its own, or the error of a choice whose
document has no digest. -/
inductive ActionFault (choices : List String) : EngineError → Prop where
  | known {failureClass : MappingFailureClass}
      (own : failureClass ∈ [.unknownNativeChoice, .capabilityAmbiguity, .malformedNativeResult]) :
      ActionFault choices (.actionMappingError failureClass.value)
  | value {native : String} {kind : SearchActionKind} (listed : native ∈ choices)
      (ascii : native.toList.all Python.isAscii = true)
      (undigested : Digest.manifest (nativeActionDocument kind native) = .error .valueError) :
      ActionFault choices .valueError

omit [Rfc8785] in
/-- Capabilities of the catalog agree, or are ambiguous. -/
theorem catalogCapabilities_satisfies (values : List String) :
    Satisfies (fun capabilities => CapabilitiesAgree capabilities none)
      (fun error => error = .actionMappingError MappingFailureClass.capabilityAmbiguity.value)
      (catalogCapabilities catalog values) := by
  unfold catalogCapabilities
  split
  · next capabilities hcapabilities =>
    have hknown : ∀ value ∈ Python.sorted values.dedup, value ∈ catalog.definitions := by
      intro value hvalue
      obtain ⟨capability, -, hfor⟩ := Runs.exists_of_mapM hcapabilities hvalue
      exact (CapabilityCatalog.idFor_eq_ok.mp hfor).1
    rw [CapabilityCatalog.mapM_idFor hknown] at hcapabilities
    obtain rfl := Except.ok.inj hcapabilities
    exact .ok (CapabilitiesAgree.of_sorted (Python.sorted_strict (List.nodup_dedup _))).weaken
  · exact .error rfl

theorem nativeBinding_raisesOnly {native : String} (hlisted : native ∈ choices) :
    RaisesOnly (ActionFault choices) (nativeBinding forceSwitch catalog native) := by
  unfold nativeBinding
  by_cases hword : (native = "" || !native.toList.all Python.isAscii) = true
  · rw [if_pos hword]
    exact .error (.known (by decide))
  rw [if_neg hword]
  have hascii : native.toList.all Python.isAscii = true := by
    simp only [Bool.or_eq_true, not_or] at hword
    simpa using hword.2
  split
  · exact .error (.known (by decide))
  · next kind values hshape =>
    refine Satisfies.bind ((catalogCapabilities_satisfies values).mono (fun _ h => h) ?_)
      fun capabilities hagree => ?_
    · rintro _ rfl
      exact .known (by decide)
    refine RaisesOnly.bind ⟨fun _ => trivial, fun herror => ?_⟩ fun digest _ => ?_
    · obtain rfl := (Digest.manifest_raisesOnly _).of_error herror
      exact .value hlisted hascii herror
    · -- the capabilities agree, so the action is made
      have haction : SearchAction.create digest kind capabilities none = .ok _ := dif_pos hagree
      rw [haction]
      exact RaisesOnly.bind .ok fun _ _ => .ok trivial

theorem mapNativeActions_raisesOnly :
    RaisesOnly (ActionFault choices) (mapNativeActions choices forceSwitch catalog) := by
  unfold mapNativeActions
  by_cases hlist : (choices.isEmpty || !choices.Nodup) = true
  · rw [if_pos hlist]
    exact .error (.known (by decide))
  · rw [if_neg hlist]
    exact (raisesOnly_compositional _).mapM fun native hnative => nativeBinding_raisesOnly hnative

end Actions

/-! ## §4 Transitions -/

/-- The classes that every transition may fail with. -/
def transitionClasses : List MappingFailureClass :=
  [.nativeException, .malformedNativeResult, .inconsistentPlayerView, .chanceNormalizationFailure]

/-- The classes that a joint action may fail with besides. -/
def actionClasses : List MappingFailureClass :=
  [.unknownNativeChoice, .capabilityAmbiguity, .invalidJointAction]

section Transitions

variable (hforeign : RaisesForeign Obj) (hclass : failureClass ∉ transitionClasses)

include hclass

omit [Engine Obj] in
theorem ne_of_mem_transitionClasses (h : other ∈ transitionClasses) : other ≠ failureClass :=
  fun heq => hclass (heq ▸ h)

omit [Engine Obj] in
theorem value_ne_of_mem_transitionClasses (h : other ∈ transitionClasses) :
    other.value ≠ failureClass.value :=
  fun heq => hclass (MappingFailureClass.value_injective heq ▸ h)

include hforeign

theorem RaisesForeign.reads :
    Reads (fun α (x : Except EngineError α) => RaisesOnly (EngineError.Avoids failureClass) x)
      .nativeState FreezeFault where
  toCompositional := raisesOnly_compositional _
  throw hfault := by
    refine .error ?_
    cases hfault with
    | malformed => exact value_ne_of_mem_transitionClasses hclass (by decide)
    | inconsistent => exact value_ne_of_mem_transitionClasses hclass (by decide)
    | value | arithmetic => exact trivial
  invoke receiver name arguments := (hforeign.invoke receiver name arguments).mono fun _ h => h.avoids _
  getattr receiver name := (hforeign.getattr receiver name).mono fun _ h => h.avoids _
  int value := (hforeign.int value).mono fun _ h => h.avoids _
  bool value := (hforeign.bool value).mono fun _ h => h.avoids _
  str value := (hforeign.str value).mono fun _ h => h.avoids _
  item value index := (hforeign.item value index).mono fun _ h => h.avoids _
  items value := (hforeign.items value).mono fun _ h => h.avoids _
  differ first second := (hforeign.differ first second).mono fun _ h => h.avoids _

theorem mapNativeState_avoids [Rfc8785] (state : PyValue Obj) (observedDigest : Digest)
    (priorViewDigests : Option (Digest × Digest)) (sourceState : Option (PyValue Obj))
    (publicHp : PublicHp × PublicHp) :
    RaisesOnly (EngineError.Avoids failureClass) (mapNativeState state observedDigest
      priorViewDigests sourceState publicHp : Except EngineError MappedNativeState) := by
  have hfreeze := (hforeign.reads hclass).freezeNativeState state observedDigest priorViewDigests
    sourceState publicHp
  refine RaisesOnly.tryCatch hfreeze fun error herror => ?_
  have hmalformed : MappingFailureClass.malformedNativeResult.value ≠ failureClass.value :=
    value_ne_of_mem_transitionClasses hclass (by decide)
  cases error with
  | stateMappingError text => exact .error herror
  | _ => exact .error hmalformed

theorem RaisesForeign.weighs [Rfc8785] :
    Weighs model
      (fun α (x : Except EngineError α) => RaisesOnly (EngineError.Avoids failureClass) x) where
  toCompositional := raisesOnly_compositional _
  throw hfault := by
    have hchance : MappingFailureClass.chanceNormalizationFailure ≠ failureClass :=
      ne_of_mem_transitionClasses hclass (by decide)
    have hmalformed : MappingFailureClass.malformedNativeResult ≠ failureClass :=
      ne_of_mem_transitionClasses hclass (by decide)
    refine .error ?_
    cases hfault with
    | chance => exact hchance
    | malformed => exact hmalformed
    | arithmetic => exact trivial
  getPercentage instruction := by
    refine RaisesOnly.tryCatch (hforeign.getattr instruction "percentage") fun error herror => ?_
    cases error with
    | attributeError => exact .ok
    | _ => exact .error (herror.avoids _)
  applyInstructions state instruction := by
    refine RaisesOnly.tryCatch (hforeign.invoke state "apply_instructions" [instruction]) fun _ _ => ?_
    exact raiseUnhealthy_avoids (ne_of_mem_transitionClasses hclass (by decide)) _ _
  mapNativeState := mapNativeState_avoids hforeign hclass

theorem generateInstructions_avoids (state : PyValue Obj) (p1Choice p2Choice : String) :
    RaisesOnly (EngineError.Avoids failureClass)
      (model.generateInstructions state p1Choice p2Choice : Except EngineError (PyValue Obj)) := by
  refine RaisesOnly.tryCatch (hforeign.call _ _) fun error herror => ?_
  cases error with
  | mappingFailure failure => exact herror.elim
  | _ => exact raiseUnhealthy_avoids (ne_of_mem_transitionClasses hclass (by decide)) _ _

omit hforeign in
theorem guardTransition_avoids {body : Except EngineError α}
    (hbody : RaisesOnly (EngineError.Avoids failureClass) body) :
    RaisesOnly (EngineError.Avoids failureClass) (model.guardTransition body) := by
  have hchance : MappingFailureClass.chanceNormalizationFailure ≠ failureClass :=
    ne_of_mem_transitionClasses hclass (by decide)
  refine RaisesOnly.tryCatch hbody fun error herror => ?_
  cases error with
  | mappingFailure failure => exact .error herror
  | stateMappingError text => exact raiseFailure_avoids herror _ _
  | actionMappingError text => exact raiseFailure_avoids herror _ _
  | arithmeticError | typeError | valueError => exact raise_avoids hchance _ _
  | _ => exact raiseUnhealthy_avoids (ne_of_mem_transitionClasses hclass (by decide)) _ _

section Joint

variable (haction : failureClass ∉ actionClasses) [Rfc8785]

include haction

theorem deepBindings_avoids (player : Player) (state : PyValue Obj)
    (choices : List String × List String) :
    RaisesOnly (EngineError.Avoids failureClass)
      (model.deepBindings player state choices : Except EngineError (List ActionBinding)) := by
  have hreads := hforeign.reads hclass
  have hgetattr : ∀ (receiver : PyValue Obj) name, RaisesOnly (EngineError.Avoids failureClass)
      (Engine.getattr receiver name) := hreads.getattr
  refine (hgetattr state _).bind fun side _ => ?_
  refine RaisesOnly.tryCatch (P := EngineError.Avoids failureClass) ?_ fun error herror => ?_
  · refine (hgetattr side _).bind fun value _ => ?_
    refine (hreads.toBool value).bind fun forceSwitch _ => ?_
    rw [ofExcept_eq]
    refine mapNativeActions_raisesOnly.mono fun error herror => ?_
    cases herror with
    | value => exact trivial
    | known own =>
      intro htext
      obtain rfl := MappingFailureClass.value_injective htext
      rcases List.mem_cons.mp own with rfl | own
      · exact haction (by decide)
      · rcases List.mem_cons.mp own with rfl | own
        · exact haction (by decide)
        · exact hclass (List.mem_singleton.mp own ▸ by decide)
  · cases error with
    | actionMappingError text => exact raiseFailure_avoids herror _ _
    | _ => exact .error herror

/-- A joint action fails with the classes of deep actions, or as an invalid one. -/
theorem jointBindings_avoids (world : PreparedWorld PokeEngineWorld)
    (p1Action p2Action : SearchAction) :
    RaisesOnly (EngineError.Avoids failureClass) (model.jointBindings world p1Action p2Action :
      Except EngineError (PyValue Obj × ActionBinding × ActionBinding)) := by
  have hinvalid : MappingFailureClass.invalidJointAction ≠ failureClass :=
    fun heq => haction (heq ▸ by decide)
  have hmalformed : MappingFailureClass.malformedNativeResult ≠ failureClass :=
    ne_of_mem_transitionClasses hclass (by decide)
  have hnative : MappingFailureClass.nativeException ≠ failureClass :=
    ne_of_mem_transitionClasses hclass (by decide)
  have hbindings : ∀ player state choices, RaisesOnly (EngineError.Avoids failureClass)
      (model.bindings world player state choices : Except EngineError (List ActionBinding)) := by
    intro player state choices
    exact .ite (fun _ => .ok trivial) fun _ =>
      deepBindings_avoids hforeign hclass haction player state choices
  have hbinding : ∀ bindings action, RaisesOnly (EngineError.Avoids failureClass)
      (MonadExcept.ofExcept (bindingForAction bindings action) : Except EngineError ActionBinding) := by
    intro bindings action
    rw [ofExcept_eq]
    unfold bindingForAction
    split
    · exact .ok
    · exact .error fun htext => hinvalid (MappingFailureClass.value_injective htext)
  refine RaisesOnly.tryCatch (P := EngineError.Avoids failureClass) ?_ fun error herror => ?_
  · refine RaisesOnly.bind ?_ fun state _ => ?_
    · exact RaisesOnly.tryCatch (hforeign.call _ _) fun _ _ => raiseUnhealthy_avoids hmalformed _ _
    refine RaisesOnly.bind ?_ fun choices _ => ?_
    · refine RaisesOnly.bind ?_ fun result _ => ?_
      · exact RaisesOnly.tryCatch (hforeign.call _ _) fun _ _ => raiseUnhealthy_avoids hnative _ _
      split
      · exact .ok trivial
      · exact raise_avoids hmalformed _ _
    refine (hbindings .p1 state choices).bind fun p1Bindings _ => ?_
    refine (hbinding p1Bindings p1Action).bind fun p1Binding _ => ?_
    refine (hbindings .p2 state choices).bind fun p2Bindings _ => ?_
    exact (hbinding p2Bindings p2Action).bind fun p2Binding _ => .ok trivial
  · cases error with
    | actionMappingError text => exact raise_avoids hinvalid _ _
    | _ => exact .error herror

end Joint

end Transitions

section Successors

variable [Rfc8785] {source world : PreparedWorld PokeEngineWorld} {p1Action p2Action : SearchAction}

omit [Engine Obj] in
/-- Successors are made without failures of the adapter. -/
theorem successors_raisesOnly (weights : List (MappedNativeState × ℚ))
    (capabilities : List CapabilityId) :
    RaisesOnly (fun error => error = .valueError) (model.successors source weights capabilities) := by
  have hcanonical : ∀ values, RaisesOnly (fun error => error = .valueError)
      (canonicalCapabilities values) :=
    fun values => .ite (fun _ => .ok trivial) fun _ => .error rfl
  have hone : ∀ denominator entry, RaisesOnly (fun error => error = .valueError)
      (model.successorOf source capabilities denominator entry) := by
    intro denominator entry
    refine (hcanonical _).bind fun required _ => ?_
    refine RaisesOnly.bind ?_ fun prepared _ => ?_
    · unfold PreparedWorld.create
      split_ifs
      · exact .ok
      · exact .error rfl
      · exact .error rfl
    refine (Digest.manifest_raisesOnly _).bind fun id _ => ?_
    unfold TransitionSuccessor.create
    split_ifs
    · exact .ok trivial
    · exact .error rfl
  refine RaisesOnly.bind ?_ fun result _ => .ok trivial
  exact (raisesOnly_compositional _).mapM fun entry _ => hone _ entry

/-- A transition does not fail with a class that is none of its own, that its joint action does not
fail with, and that is not the one for outcomes unless they are all accepted. -/
theorem transition_avoids (hforeign : RaisesForeign Obj) (hclass : failureClass ∉ transitionClasses)
    (hjoint : RaisesOnly (EngineError.Avoids failureClass)
      (model.jointBindings world p1Action p2Action :
        Except EngineError (PyValue Obj × ActionBinding × ActionBinding)))
    (hwork : failureClass = .workAccountingInconsistency → ∀ state p1Binding p2Binding instructions
      weights capabilities successors,
      (model.jointBindings world p1Action p2Action :
        Except EngineError (PyValue Obj × ActionBinding × ActionBinding)) =
          .ok (state, p1Binding, p2Binding) →
      (model.generateInstructions state p1Binding.nativeChoice p2Binding.nativeChoice :
        Except EngineError (PyValue Obj)) = .ok instructions →
      (model.mappedSuccessors state instructions world.payload.observedStateDigest
        world.payload.viewDigests world.payload.publicHp :
          Except EngineError (List (MappedNativeState × ℚ))) = .ok weights →
      model.transitionCapabilities p1Action p2Action = .ok capabilities →
      model.successors world weights capabilities = .ok successors →
      ∃ outcome, outcomeOf world successors capabilities = .ok outcome) :
    RaisesOnly (EngineError.Avoids failureClass) (model.transition world p1Action p2Action :
      Except EngineError (TransitionOutcome PokeEngineWorld)) := by
  refine hjoint.bind fun joint hjointOk => ?_
  obtain ⟨state, p1Binding, p2Binding⟩ := joint
  refine (generateInstructions_avoids hforeign hclass _ _ _).bind fun instructions hinstructions => ?_
  refine guardTransition_avoids hclass ?_
  refine ((hforeign.weighs hclass).mappedSuccessors state instructions _ _ _).bind
    fun weights hweights => ?_
  obtain ⟨capabilities, hcapabilities, -⟩ := transitionCapabilities_ok model p1Action p2Action
  rw [hcapabilities, ofExcept_eq]
  refine RaisesOnly.bind .ok fun _ hsame => ?_
  obtain rfl := Except.ok.inj hsame
  rw [ofExcept_eq]
  refine RaisesOnly.bind ((successors_raisesOnly weights capabilities).mono ?_)
    fun successors hsuccessors => ?_
  · rintro _ rfl
    exact trivial
  split
  · exact .ok trivial
  · next error houtcome =>
    refine raise_avoids ?_ _ _
    rintro rfl
    obtain ⟨outcome, hok⟩ := hwork rfl state p1Binding p2Binding instructions weights capabilities
      successors hjointOk hinstructions hweights hcapabilities hsuccessors
    rw [houtcome] at hok
    cases hok

end Successors

end BattleBelief
