import BattleBelief.Engine.TransitionModel
import BattleBelief.Library.Runs

/-!
# Prepared Roots and Reachable Worlds

With an engine whose answers depend on the question alone, the methods of the transition model are
functions. This module says what they return where they return: one lemma for each method, and the
worlds that transitions reach from a prepared root.
-/

namespace BattleBelief

open PokeEngineTransitionModel Runs

/-! ## §1 Handlers -/

/-- A handler that always raises returns nothing. -/
theorem tryCatch_eq_ok {α : Type} {x : Except EngineError α} {a : α}
    {handler : EngineError → Except EngineError α} (h : ∀ error, handler error ≠ .ok a) :
    tryCatch x handler = .ok a ↔ x = .ok a := by
  cases x with
  | ok b => rfl
  | error error =>
    refine iff_of_false (h error) ?_
    rintro ⟨⟩

@[simp] theorem ofExcept_eq {α : Type} (x : Except EngineError α) :
    (MonadExcept.ofExcept x : Except EngineError α) = x := by
  cases x <;> rfl

/-! ## §2 Keeping the root -/

/-- A successor keeps the root of its source. -/
structure KeepsRoot (source target : PreparedWorld PokeEngineWorld) : Prop where
  identity : target.rootIdentity = source.rootIdentity
  actions : target.rootActions = source.rootActions
  bindings : target.payload.rootBindings = source.payload.rootBindings
  player : target.payload.rootPlayer = source.payload.rootPlayer
  observed : target.payload.observedStateDigest = source.payload.observedStateDigest

theorem KeepsRoot.refl (world : PreparedWorld PokeEngineWorld) : KeepsRoot world world :=
  ⟨rfl, rfl, rfl, rfl, rfl⟩

theorem KeepsRoot.trans {first second third : PreparedWorld PokeEngineWorld}
    (h : KeepsRoot first second) (h' : KeepsRoot second third) : KeepsRoot first third where
  identity := h'.identity.trans h.identity
  actions := h'.actions.trans h.actions
  bindings := h'.bindings.trans h.bindings
  player := h'.player.trans h.player
  observed := h'.observed.trans h.observed

section Methods

variable {Obj : Type} [Engine Obj] {model : PokeEngineTransitionModel}

@[simp] theorem raise_ne_ok {α : Type} {failureClass : MappingFailureClass} {known : KnownDigests}
    {workUnits : Nat} {a : α} :
    (model.raise failureClass known workUnits : Except EngineError α) ≠ .ok a := by
  rintro ⟨⟩

@[simp] theorem raiseUnhealthy_ne_ok {α : Type} {failureClass : MappingFailureClass}
    {known : KnownDigests} {workUnits : Nat} {a : α} :
    (model.raiseUnhealthy failureClass known workUnits : Except EngineError α) ≠ .ok a := by
  rintro ⟨⟩

@[simp] theorem raiseFailure_ne_ok {α : Type} {failureClass : String} {known : KnownDigests}
    {workUnits : Nat} {a : α} :
    (model.raiseFailure failureClass known workUnits : Except EngineError α) ≠ .ok a := by
  unfold raiseFailure
  split <;> rintro ⟨⟩

theorem guardRoot_eq_ok {α : Type} {known : KnownDigests} {body : Except EngineError α} {a : α} :
    model.guardRoot known body = .ok a ↔ body = .ok a := by
  refine tryCatch_eq_ok fun error => ?_
  cases error <;> first | exact raiseFailure_ne_ok | exact raise_ne_ok | exact raiseUnhealthy_ne_ok |
    rintro ⟨⟩

theorem guardTransition_eq_ok {α : Type} {body : Except EngineError α} {a : α} :
    model.guardTransition body = .ok a ↔ body = .ok a := by
  refine tryCatch_eq_ok fun error => ?_
  cases error <;> first | exact raiseFailure_ne_ok | exact raise_ne_ok | exact raiseUnhealthy_ne_ok |
    rintro ⟨⟩

/-- A check that raises has been passed. -/
theorem check_eq_ok {c : Prop} [Decidable c] {α : Type} {failureClass : MappingFailureClass}
    {known : KnownDigests} {workUnits : Nat} {rest : Except EngineError α} {a : α} :
    (if c then (model.raise failureClass known workUnits : Except EngineError Unit) >>= fun _ => rest
      else rest) = .ok a ↔ ¬c ∧ rest = .ok a := by
  split_ifs with hc
  · refine iff_of_false ?_ fun h => h.1 hc
    rintro ⟨⟩
  · exact (and_iff_right hc).symm

/-! ## §3 Choices -/

theorem stateFromString_eq_ok {value : String} {state : PyValue Obj} :
    (model.stateFromString value : Except EngineError (PyValue Obj)) = .ok state ↔
      Engine.call "State.from_string" [("value", .str value)] = .ok state :=
  tryCatch_eq_ok fun _ => raiseUnhealthy_ne_ok

theorem legalChoiceValues_eq_ok {state : PyValue Obj} {choices : List String × List String} :
    (model.legalChoiceValues state : Except EngineError (List String × List String)) = .ok choices ↔
      ∃ result, Engine.call "legal_choices" [("state", state)] = .ok result ∧
        choiceLists result = some choices := by
  unfold legalChoiceValues
  rw [bind_eq_ok]
  refine exists_congr fun result => and_congr ?_ ?_
  · exact tryCatch_eq_ok fun _ => raiseUnhealthy_ne_ok
  · cases hlists : choiceLists result with
    | none => simp
    | some lists => simp [pure, Except.pure]

variable [Rfc8785]

theorem deepBindings_eq_ok {player : Player} {state : PyValue Obj}
    {choices : List String × List String} {bindings : List ActionBinding} :
    (model.deepBindings player state choices : Except EngineError (List ActionBinding)) =
      .ok bindings ↔
      ∃ side value forceSwitch, Engine.getattr state (sideName player) = .ok side ∧
        Engine.getattr side "force_switch" = .ok value ∧
        (toBool .forceSwitch value : Except EngineError Bool) = .ok forceSwitch ∧
        mapNativeActions (player.pick choices) forceSwitch model.catalog = .ok bindings := by
  unfold deepBindings
  rw [bind_eq_ok]
  constructor
  · rintro ⟨side, hside, hbindings⟩
    rw [tryCatch_eq_ok] at hbindings
    · simp only [bind_eq_ok, ofExcept_eq] at hbindings
      obtain ⟨value, hvalue, forceSwitch, hforce, hbindings⟩ := hbindings
      exact ⟨side, value, forceSwitch, hside, hvalue, hforce, hbindings⟩
    · intro error
      cases error <;> first | exact raiseFailure_ne_ok | rintro ⟨⟩
  · rintro ⟨side, value, forceSwitch, hside, hvalue, hforce, hbindings⟩
    refine ⟨side, hside, ?_⟩
    rw [tryCatch_eq_ok]
    · simp only [bind_eq_ok, ofExcept_eq]
      exact ⟨value, hvalue, forceSwitch, hforce, hbindings⟩
    · intro error
      cases error <;> first | exact raiseFailure_ne_ok | rintro ⟨⟩

/-! ## §4 Root bindings -/

theorem bindRoot_eq_ok {safe : SafeSubmissionSet} {selectedRoot : PreparedRootIdentity}
    {known : KnownDigests} {rootPlayer : Player} {nativeState : String}
    {bindings : List ActionBinding}
    (h : (model.bindRoot safe selectedRoot known rootPlayer nativeState :
      Except EngineError (List ActionBinding)) = .ok bindings) :
    ∃ state choices teamIds activeMoveIds forceSwitch,
      (model.stateFromString nativeState : Except EngineError (PyValue Obj)) = .ok state ∧
      (model.legalChoiceValues state : Except EngineError (List String × List String)) =
        .ok choices ∧
      mapRootActions safe selectedRoot (rootPlayer.pick choices) teamIds activeMoveIds forceSwitch
        model.catalog = .ok bindings ∧
      ∀ choice, choice ∈ bindings.map ActionBinding.nativeChoice ↔
        choice ∈ rootPlayer.pick choices := by
  unfold bindRoot at h
  simp only [bind_eq_ok, check_eq_ok, ofExcept_eq] at h
  obtain ⟨state, hstate, choices, hchoices, side, hside, teamValue, hteamValue, teamItems,
    hteamItems, teamIds, hteamIds, team, hteam, indexValue, hindexValue, index, hindex, active,
    hactive, movesValue, hmovesValue, moves, hmoves, moveIds, hmoveIds, forceValue, hforceValue,
    forceSwitch, hforceSwitch, rootBindings, hbindings, hcheck, hresult⟩ := h
  obtain rfl : rootBindings = bindings := Except.ok.inj hresult
  refine ⟨state, choices, teamIds, moveIds, forceSwitch, hstate, hchoices, hbindings,
    fun choice => ?_⟩
  simp only [Bool.not_eq_true, Bool.not_eq_false', Bool.and_eq_true, List.all_eq_true,
    decide_eq_true_eq] at hcheck
  exact ⟨hcheck.1 choice, hcheck.2 choice⟩

omit [Rfc8785] in
theorem prepareRoot_eq_ok {world : PokeEngineWorld} {rootIdentity : PreparedRootIdentity}
    {rootActions : List SearchAction} {root : PreparedWorld PokeEngineWorld}
    (h : (model.prepareRoot world rootIdentity rootActions :
      Except EngineError (PreparedWorld PokeEngineWorld)) = .ok root) :
    root.payload = world ∧ root.rootIdentity = rootIdentity ∧ root.rootActions = rootActions ∧
      root.requiredCapabilities = world.requiredCapabilities ∧
      rootIdentity.capabilityCatalogDigest = model.catalog.catalogDigest := by
  unfold prepareRoot at h
  simp only [check_eq_ok] at h
  obtain ⟨hidentity, hactions, hroot⟩ := h
  have hcatalog : rootIdentity.capabilityCatalogDigest = model.catalog.catalogDigest := by
    by_contra hne
    exact hidentity (by simp [hne])
  cases hcreate : PreparedWorld.create world rootIdentity rootActions world.requiredCapabilities with
  | error error =>
    rw [hcreate] at hroot
    exact absurd hroot raise_ne_ok
  | ok prepared =>
    rw [hcreate] at hroot
    obtain rfl : prepared = root := Except.ok.inj hroot
    obtain ⟨hpayload, hroot, hrootActions, hcapabilities⟩ := PreparedWorld.create_eq_ok hcreate
    exact ⟨hpayload, hroot, hrootActions, hcapabilities, hcatalog⟩

omit [Rfc8785] in
/-- A world is prepared with its own actions when they and its capabilities belong to the root. -/
theorem prepareRoot_ok (world : PokeEngineWorld) {rootIdentity : PreparedRootIdentity}
    (hbackend : rootIdentity.backendIdentityDigest = model.backendIdentityDigest)
    (hcatalog : rootIdentity.capabilityCatalogDigest = model.catalog.catalogDigest)
    (hcanonical : RootActionsCanonical rootIdentity (world.rootBindings.map ActionBinding.action))
    (hagree : CapabilitiesAgree world.requiredCapabilities
      (some rootIdentity.capabilityCatalogDigest)) :
    (model.prepareRoot world rootIdentity (world.rootBindings.map ActionBinding.action) :
      Except EngineError (PreparedWorld PokeEngineWorld)) =
        .ok ⟨world, rootIdentity, _, _, hcanonical, hagree⟩ := by
  have hcreate := PreparedWorld.create_ok world hcanonical hagree
  unfold prepareRoot
  rw [if_neg (by simp [hbackend, hcatalog]), if_neg (not_not.mpr rfl)]
  simp only [hcreate]
  rfl

variable [Python.UnicodeDatabase]

/-- What a prepared root is made of: the observed root, the engine state of the complete world and
its frozen form. -/
structure PreparedFrom (model : PokeEngineTransitionModel) (safe : SafeSubmissionSet)
    (observed : ObservedRoot) (state : PyValue Obj) (mapped : MappedNativeState)
    (root : PreparedWorld PokeEngineWorld) : Prop where
  frozen : (mapNativeState state observed.digest none none observed.publicHp :
    Except EngineError MappedNativeState) = .ok mapped
  nativeState : root.payload.nativeState = mapped.nativeState
  observedDigest : root.payload.observedStateDigest = observed.digest
  viewDigests : root.payload.viewDigests = mapped.viewDigests
  publicHp : root.payload.publicHp = mapped.publicHp
  rootPlayer : root.payload.rootPlayer = observed.rootPlayer
  ply : root.payload.ply = 0
  bound : ∃ known, (model.bindRoot safe root.rootIdentity known observed.rootPlayer
    mapped.nativeState : Except EngineError (List ActionBinding)) = .ok root.payload.rootBindings
  rootActions : root.rootActions = root.payload.rootBindings.map ActionBinding.action
  catalog : root.rootIdentity.capabilityCatalogDigest = model.catalog.catalogDigest

theorem prepareBattleRoot_eq_ok {observedState : ObservedState} {safe : SafeSubmissionSet}
    {completeWorld : Python.Json} {rulesetDigest : String}
    {rootIdentity : Option PreparedRootIdentity} {root : PreparedWorld PokeEngineWorld}
    (h : (model.prepareBattleRoot observedState safe completeWorld rulesetDigest rootIdentity :
      Except EngineError (PreparedWorld PokeEngineWorld)) = .ok root) :
    ∃ observed state mapped, mapObservedRoot observedState = .ok observed ∧
      (buildCompleteWorld completeWorld : Except EngineError (PyValue Obj)) = .ok state ∧
      PreparedFrom model safe observed state mapped root := by
  unfold prepareBattleRoot at h
  simp only [bind_eq_ok, guardRoot_eq_ok, mapCompleteWorld, ofExcept_eq] at h
  obtain ⟨observed, hobserved, requestDigest, hrequest, safeDigest, hsafe, mapped,
    ⟨state, hstate, hmapped⟩, expected, hexpected, hrest⟩ := h
  split at hrest
  · cases hrest
  simp only [bind_eq_ok] at hrest
  obtain ⟨bindings, hbindings, requirements, hrequirements, hroot⟩ := hrest
  obtain ⟨hpayload, hidentity, hactions, hcapabilities, hcatalog⟩ := prepareRoot_eq_ok hroot
  refine ⟨observed, state, mapped, hobserved, hstate, ?_⟩
  rw [← hidentity] at hcatalog hbindings
  exact
    { frozen := hmapped
      nativeState := by rw [hpayload]
      observedDigest := by rw [hpayload]
      viewDigests := by rw [hpayload]
      publicHp := by rw [hpayload]
      rootPlayer := by rw [hpayload]
      ply := by rw [hpayload]
      bound := ⟨_, by rw [hpayload]; exact hbindings⟩
      rootActions := by rw [hactions, hpayload]
      catalog := hcatalog }

/-! ## §5 Joint transitions -/

omit [Python.UnicodeDatabase] in
/-- Root bindings for the root player at the root, and those of the engine's choices otherwise. -/
theorem bindings_eq_ok {world : PreparedWorld PokeEngineWorld} {player : Player}
    {state : PyValue Obj} {choices : List String × List String} {bindings : List ActionBinding} :
    (model.bindings world player state choices : Except EngineError (List ActionBinding)) =
      .ok bindings ↔
      if world.payload.isRootOf player then bindings = world.payload.rootBindings
      else (model.deepBindings player state choices : Except EngineError (List ActionBinding)) =
        .ok bindings := by
  unfold PokeEngineTransitionModel.bindings
  split_ifs
  · exact ⟨fun h => (Except.ok.inj h).symm, fun h => congrArg Except.ok h.symm⟩
  · rfl

omit [Python.UnicodeDatabase] in
theorem jointBindings_eq_ok {world : PreparedWorld PokeEngineWorld}
    {p1Action p2Action : SearchAction} {state : PyValue Obj} {p1Binding p2Binding : ActionBinding} :
    (model.jointBindings world p1Action p2Action :
      Except EngineError (PyValue Obj × ActionBinding × ActionBinding)) =
        .ok (state, p1Binding, p2Binding) ↔
      (model.stateFromString world.payload.nativeState : Except EngineError (PyValue Obj)) =
        .ok state ∧
      ∃ choices, (model.legalChoiceValues state :
        Except EngineError (List String × List String)) = .ok choices ∧
        (∃ bindings, (model.bindings world .p1 state choices :
            Except EngineError (List ActionBinding)) = .ok bindings ∧
          bindingForAction bindings p1Action = .ok p1Binding) ∧
        ∃ bindings, (model.bindings world .p2 state choices :
            Except EngineError (List ActionBinding)) = .ok bindings ∧
          bindingForAction bindings p2Action = .ok p2Binding := by
  unfold jointBindings
  rw [tryCatch_eq_ok]
  · simp only [bind_eq_ok, ofExcept_eq]
    constructor
    · rintro ⟨other, hstate, choices, hchoices, bindings, hbindings, binding, hbinding, others,
        hothers, second, hsecond, hresult⟩
      cases hresult
      exact ⟨hstate, choices, hchoices, ⟨bindings, hbindings, hbinding⟩, others, hothers, hsecond⟩
    · rintro ⟨hstate, choices, hchoices, ⟨bindings, hbindings, hbinding⟩, others, hothers, hsecond⟩
      exact ⟨state, hstate, choices, hchoices, bindings, hbindings, p1Binding, hbinding, others,
        hothers, p2Binding, hsecond, rfl⟩
  · intro error
    cases error <;> first | exact raise_ne_ok | rintro ⟨⟩

omit [Rfc8785] [Python.UnicodeDatabase] in
theorem generateInstructions_eq_ok {state instructions : PyValue Obj} {p1Choice p2Choice : String} :
    (model.generateInstructions state p1Choice p2Choice : Except EngineError (PyValue Obj)) =
      .ok instructions ↔
      Engine.call "generate_instructions" [("state", state), ("p1_choice", .str p1Choice),
        ("p2_choice", .str p2Choice)] = .ok instructions := by
  refine tryCatch_eq_ok fun error => ?_
  cases error <;> first | exact raiseUnhealthy_ne_ok | rintro ⟨⟩

omit [Python.UnicodeDatabase] in
/-- A transition returns when all of its steps do. -/
theorem transition_eq_ok {world : PreparedWorld PokeEngineWorld} {p1Action p2Action : SearchAction}
    {outcome : TransitionOutcome PokeEngineWorld} :
    (model.transition world p1Action p2Action :
      Except EngineError (TransitionOutcome PokeEngineWorld)) = .ok outcome ↔
      ∃ state p1Binding p2Binding, (model.jointBindings world p1Action p2Action :
          Except EngineError (PyValue Obj × ActionBinding × ActionBinding)) =
            .ok (state, p1Binding, p2Binding) ∧
      ∃ instructions, (model.generateInstructions state p1Binding.nativeChoice
          p2Binding.nativeChoice : Except EngineError (PyValue Obj)) = .ok instructions ∧
      ∃ mappedWeights, (model.mappedSuccessors state instructions world.payload.observedStateDigest
          world.payload.viewDigests world.payload.publicHp :
            Except EngineError (List (MappedNativeState × ℚ))) = .ok mappedWeights ∧
      ∃ capabilities, model.transitionCapabilities p1Action p2Action = .ok capabilities ∧
      ∃ successors, model.successors world mappedWeights capabilities = .ok successors ∧
        outcomeOf world successors capabilities = .ok outcome := by
  unfold transition
  simp only [bind_eq_ok, guardTransition_eq_ok, ofExcept_eq]
  constructor
  · rintro ⟨⟨state, p1Binding, p2Binding⟩, hjoint, instructions, hinstructions, weights, hweights,
      capabilities, hcapabilities, successors, hsuccessors, hresult⟩
    refine ⟨state, p1Binding, p2Binding, hjoint, instructions, hinstructions, weights, hweights,
      capabilities, hcapabilities, successors, hsuccessors, ?_⟩
    split at hresult
    · next other hother =>
      rw [hother]
      exact hresult
    · exact absurd hresult raise_ne_ok
  · rintro ⟨state, p1Binding, p2Binding, hjoint, instructions, hinstructions, weights, hweights,
      capabilities, hcapabilities, successors, hsuccessors, hresult⟩
    refine ⟨(state, p1Binding, p2Binding), hjoint, instructions, hinstructions, weights, hweights,
      capabilities, hcapabilities, successors, hsuccessors, ?_⟩
    rw [hresult]
    rfl

/-! ## §6 Successors -/

omit [Python.UnicodeDatabase] in
/-- What a successor is made of. -/
theorem successorOf_eq_ok {source : PreparedWorld PokeEngineWorld} {capabilities : List CapabilityId}
    {denominator : Nat} {entry : MappedNativeState × ℚ}
    {successor : TransitionSuccessor PokeEngineWorld}
    (h : model.successorOf source capabilities denominator entry = .ok successor) :
    ∃ required, canonicalCapabilities (source.requiredCapabilities ++ capabilities) = .ok required ∧
      successor.world.payload = model.successorPayload source capabilities required entry.1 ∧
      successor.world.rootIdentity = source.rootIdentity ∧
      successor.world.rootActions = source.rootActions ∧
      outcomeId entry.1.nativeState (source.payload.ply + 1) = .ok successor.outcomeId ∧
      successor.probabilityNumerator = Shares.numerator entry.2 denominator := by
  unfold successorOf at h
  simp only [bind_eq_ok] at h
  obtain ⟨required, hrequired, prepared, hprepared, id, hid, hsuccessor⟩ := h
  obtain ⟨hpayload, hidentity, hactions, -⟩ := PreparedWorld.create_eq_ok hprepared
  unfold TransitionSuccessor.create at hsuccessor
  split_ifs at hsuccessor with hpositive
  obtain rfl := Except.ok.inj hsuccessor
  exact ⟨required, hrequired, hpayload, hidentity, hactions, hid, rfl⟩

omit [Python.UnicodeDatabase] in
/-- Every successor comes from one of the mapped states. -/
theorem mem_successors {source : PreparedWorld PokeEngineWorld} {capabilities : List CapabilityId}
    {mappedWeights : List (MappedNativeState × ℚ)}
    {successors : List (TransitionSuccessor PokeEngineWorld)}
    (h : model.successors source mappedWeights capabilities = .ok successors)
    {successor : TransitionSuccessor PokeEngineWorld} (hmem : successor ∈ successors) :
    ∃ entry ∈ mappedWeights, model.successorOf source capabilities
      (Shares.commonDenominator (mappedWeights.map Prod.snd)) entry = .ok successor := by
  obtain ⟨result, hresult, hsorted⟩ := bind_eq_ok.mp h
  obtain rfl := Except.ok.inj hsorted
  rw [List.mem_insertionSort] at hmem
  exact mem_of_mapM hresult hmem

omit [Rfc8785] [Python.UnicodeDatabase] in
theorem outcomeOf_eq_ok {source : PreparedWorld PokeEngineWorld}
    {successors : List (TransitionSuccessor PokeEngineWorld)} {capabilities : List CapabilityId}
    {outcome : TransitionOutcome PokeEngineWorld}
    (h : outcomeOf source successors capabilities = .ok outcome) :
    outcome.successors = successors ∧ outcome.workUnits = 1 ∧
      outcome.probabilityDenominator =
        (successors.map fun successor => successor.probabilityNumerator).sum := by
  obtain ⟨other, hother, hrest⟩ := bind_eq_ok.mp h
  obtain ⟨u, -, hresult⟩ := bind_eq_ok.mp hrest
  obtain rfl := Except.ok.inj hresult
  unfold TransitionOutcome.create at hother
  split at hother
  · split at hother
    · obtain rfl := Except.ok.inj hother
      exact ⟨rfl, rfl, rfl⟩
    · cases hother
  · cases hother

/-! ## §7 Reachable worlds -/

/-- `prepare_battle_root` returns the world for some arguments. -/
def IsPrepared (model : PokeEngineTransitionModel) (root : PreparedWorld PokeEngineWorld) : Prop :=
  ∃ observedState safe completeWorld rulesetDigest rootIdentity,
    (model.prepareBattleRoot observedState safe completeWorld rulesetDigest rootIdentity :
      Except EngineError (PreparedWorld PokeEngineWorld)) = .ok root

/-- Transitions lead from one world to another. -/
inductive Reaches (model : PokeEngineTransitionModel) (root : PreparedWorld PokeEngineWorld) :
    PreparedWorld PokeEngineWorld → Prop where
  | root : Reaches model root root
  | step {world : PreparedWorld PokeEngineWorld} (p1Action p2Action : SearchAction)
      (outcome : TransitionOutcome PokeEngineWorld)
      (successor : TransitionSuccessor PokeEngineWorld) (reached : Reaches model root world)
      (returned : (model.transition world p1Action p2Action :
        Except EngineError (TransitionOutcome PokeEngineWorld)) = .ok outcome)
      (mem : successor ∈ outcome.successors) : Reaches model root successor.world

omit [Python.UnicodeDatabase] in
/-- What a successor of a transition is made of. -/
theorem transition_successor {world : PreparedWorld PokeEngineWorld}
    {p1Action p2Action : SearchAction} {outcome : TransitionOutcome PokeEngineWorld}
    (h : (model.transition world p1Action p2Action :
      Except EngineError (TransitionOutcome PokeEngineWorld)) = .ok outcome)
    {successor : TransitionSuccessor PokeEngineWorld} (hmem : successor ∈ outcome.successors) :
    ∃ capabilities required entry,
      successor.world.payload = model.successorPayload world capabilities required entry ∧
      KeepsRoot world successor.world := by
  obtain ⟨state, p1Binding, p2Binding, -, instructions, -, weights, -, capabilities, -, successors,
    hsuccessors, houtcome⟩ := transition_eq_ok.mp h
  rw [(outcomeOf_eq_ok houtcome).1] at hmem
  obtain ⟨entry, -, hentry⟩ := mem_successors hsuccessors hmem
  obtain ⟨required, -, hpayload, hidentity, hactions, -⟩ := successorOf_eq_ok hentry
  refine ⟨capabilities, required, entry.1, hpayload, hidentity, hactions, ?_, ?_, ?_⟩
  · rw [hpayload]
    rfl
  · rw [hpayload]
    rfl
  · rw [hpayload]
    rfl

omit [Python.UnicodeDatabase] in
/-- So does every world that is reached. -/
theorem Reaches.keepsRoot {root world : PreparedWorld PokeEngineWorld}
    (h : Reaches model root world) : KeepsRoot root world := by
  induction h with
  | root => exact .refl root
  | step p1Action p2Action outcome successor reached returned mem ih =>
    obtain ⟨capabilities, required, entry, -, hkeeps⟩ := transition_successor returned mem
    exact ih.trans hkeeps

end Methods

end BattleBelief
