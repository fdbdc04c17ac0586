import BattleBelief.Engine.RootBinding
import BattleBelief.Engine.TransitionFaults

/-!
# Legal Actions

Where the legal actions of both players are known, a transition takes exactly these.

- `legal_actions_agree`: a joint action is invalid exactly when one of its actions is not legal, and
  the legal actions of a player stand for distinct choices of the engine
-/

namespace BattleBelief

open Outcomes PokeEngineTransitionModel Runs

/-! ## §1 Bindings that can be told apart -/

/-- The bindings have distinct actions and distinct choices, all of them listed. -/
structure Resolves (choices : List String) (bindings : List ActionBinding) : Prop where
  actions : (bindings.map ActionBinding.action).Nodup
  natives : (bindings.map ActionBinding.nativeChoice).Nodup
  listed : ∀ binding ∈ bindings, binding.nativeChoice ∈ choices

section Deep

variable [Rfc8785] {choices : List String} {forceSwitch : Bool} {catalog : CapabilityCatalog}

/-- The digests that name actions tell the choices apart: no two of them collide. -/
def DigestsTellApart (choices : List String) : Prop :=
  ∀ first ∈ choices, ∀ second ∈ choices, ∀ kind kind' digest,
    Digest.manifest (nativeActionDocument kind first) = .ok digest →
    Digest.manifest (nativeActionDocument kind' second) = .ok digest → first = second

/-- What the binding of a choice is made of. -/
theorem nativeBinding_eq_ok {native : String} {binding : ActionBinding}
    (h : nativeBinding forceSwitch catalog native = .ok binding) :
    binding.nativeChoice = native ∧ ∃ kind digest,
      Digest.manifest (nativeActionDocument kind native) = .ok digest ∧
        binding.action.actionId = digest.text := by
  unfold nativeBinding at h
  rw [checkAction_eq_ok] at h
  obtain ⟨-, h⟩ := h
  split at h
  · cases h
  · next kind values hshape =>
    simp only [bind_eq_ok] at h
    obtain ⟨capabilities, hcapabilities, digest, hdigest, action, haction, hresult⟩ := h
    obtain rfl := Except.ok.inj hresult
    exact ⟨rfl, kind, digest, hdigest, (SearchAction.create_eq_ok haction).1⟩

theorem mapNativeActions_eq_ok {bindings : List ActionBinding}
    (h : mapNativeActions choices forceSwitch catalog = .ok bindings) :
    choices.Nodup ∧ choices.mapM (nativeBinding forceSwitch catalog) = .ok bindings := by
  unfold mapNativeActions at h
  rw [checkAction_eq_ok] at h
  obtain ⟨hcheck, hbindings⟩ := h
  refine ⟨?_, hbindings⟩
  by_contra hnodup
  exact hcheck (by simp [hnodup])

/-- The bindings of choices that the digests tell apart can be told apart. -/
theorem mapNativeActions_resolves {bindings : List ActionBinding}
    (h : mapNativeActions choices forceSwitch catalog = .ok bindings)
    (hdigests : DigestsTellApart choices) : Resolves choices bindings := by
  obtain ⟨hnodup, hbindings⟩ := mapNativeActions_eq_ok h
  have hnatives : bindings.map ActionBinding.nativeChoice = choices := by
    rw [map_eq_of_mapM hbindings fun native binding hbinding => (nativeBinding_eq_ok hbinding).1]
    exact List.map_id choices
  have hlisted : ∀ binding ∈ bindings, binding.nativeChoice ∈ choices := by
    intro binding hmem
    rw [← hnatives]
    exact List.mem_map_of_mem hmem
  have hdocument : ∀ binding ∈ bindings, ∃ kind digest,
      Digest.manifest (nativeActionDocument kind binding.nativeChoice) = .ok digest ∧
        binding.action.actionId = digest.text := by
    intro binding hmem
    obtain ⟨native, -, hnative⟩ := mem_of_mapM hbindings hmem
    obtain ⟨hchoice, hnamed⟩ := nativeBinding_eq_ok hnative
    rwa [hchoice]
  have hdistinct : (bindings.map ActionBinding.nativeChoice).Nodup := hnatives ▸ hnodup
  refine ⟨?_, hdistinct, hlisted⟩
  refine List.Nodup.map_on (fun first hfirst second hsecond haction => ?_) (List.Nodup.of_map _ hdistinct)
  obtain ⟨kind, digest, hdigest, hid⟩ := hdocument first hfirst
  obtain ⟨kind', digest', hdigest', hid'⟩ := hdocument second hsecond
  obtain rfl : digest = digest' := by
    refine Digest.text_injective ?_
    rw [← hid, ← hid', haction]
  have hchoice : first.nativeChoice = second.nativeChoice :=
    hdigests _ (hlisted first hfirst) _ (hlisted second hsecond) kind kind' digest hdigest hdigest'
  exact List.inj_on_of_nodup_map hdistinct hfirst hsecond hchoice

end Deep

/-! ## §2 Bindings in a reachable world -/

section Worlds

variable {Obj : Type} [Engine Obj] [Rfc8785] {model : PokeEngineTransitionModel}

theorem legalActions_eq_ok {world : PreparedWorld PokeEngineWorld} {player : Player}
    {actions : List SearchAction} :
    (model.legalActions world player : Except EngineError (List SearchAction)) = .ok actions ↔
      if world.payload.isRootOf player then actions = world.rootActions
      else ∃ state choices bindings,
        (model.stateFromString world.payload.nativeState : Except EngineError (PyValue Obj)) =
          .ok state ∧
        (model.legalChoiceValues state : Except EngineError (List String × List String)) =
          .ok choices ∧
        (model.deepBindings player state choices : Except EngineError (List ActionBinding)) =
          .ok bindings ∧ actions = bindings.map ActionBinding.action := by
  unfold legalActions
  split_ifs
  · exact ⟨fun h => (Except.ok.inj h).symm, fun h => congrArg Except.ok h.symm⟩
  · simp only [bind_eq_ok]
    constructor
    · rintro ⟨state, hstate, choices, hchoices, bindings, hbindings, hresult⟩
      exact ⟨state, choices, bindings, hstate, hchoices, hbindings, (Except.ok.inj hresult).symm⟩
    · rintro ⟨state, choices, bindings, hstate, hchoices, hbindings, rfl⟩
      exact ⟨state, hstate, choices, hchoices, bindings, hbindings, rfl⟩

omit [Rfc8785] in
theorem PokeEngineWorld.isRootOf_iff {world : PokeEngineWorld} {player : Player} :
    world.isRootOf player = true ↔ world.ply = 0 ∧ player = world.rootPlayer := by
  simp [PokeEngineWorld.isRootOf]

/-- Deeper worlds are further away from the root. -/
theorem Reaches.root_or_ply {root world : PreparedWorld PokeEngineWorld}
    (h : Reaches model root world) : world = root ∨ 0 < world.payload.ply := by
  cases h with
  | root => exact .inl rfl
  | step p1Action p2Action outcome successor reached returned mem =>
    obtain ⟨capabilities, required, entry, hpayload, -⟩ := transition_successor returned mem
    refine .inr ?_
    rw [hpayload]
    exact Nat.succ_pos _

variable [Python.UnicodeDatabase]

/-- The root actions are those of the root bindings, in every world that is reached. -/
theorem Reaches.rootActions_eq {root world : PreparedWorld PokeEngineWorld}
    (hprepared : IsPrepared model root) (h : Reaches model root world) :
    world.rootActions = world.payload.rootBindings.map ActionBinding.action := by
  obtain ⟨_, safe, _, _, _, hroot⟩ := hprepared
  obtain ⟨observed, state, mapped, -, -, hfrom⟩ := prepareBattleRoot_eq_ok hroot
  have hkeeps := h.keepsRoot
  rw [hkeeps.actions, hkeeps.bindings, hfrom.rootActions]

/-- Where the root player acts by the root bindings, they can be told apart. -/
theorem Reaches.root_resolves {root world : PreparedWorld PokeEngineWorld}
    (hprepared : IsPrepared model root) (h : Reaches model root world) {player : Player}
    (hrootOf : world.payload.isRootOf player = true) {state : PyValue Obj}
    {choices : List String × List String}
    (hstate : (model.stateFromString world.payload.nativeState : Except EngineError (PyValue Obj)) =
      .ok state)
    (hchoices : (model.legalChoiceValues state : Except EngineError (List String × List String)) =
      .ok choices) :
    Resolves (player.pick choices) world.payload.rootBindings := by
  obtain ⟨_, safe, _, _, _, hroot⟩ := hprepared
  obtain ⟨observed, _, mapped, -, -, hfrom⟩ := prepareBattleRoot_eq_ok hroot
  obtain ⟨hply, hplayer⟩ := PokeEngineWorld.isRootOf_iff.mp hrootOf
  -- the world is the root itself, in whose state the choices were listed
  obtain rfl : world = root := h.root_or_ply.resolve_right (by omega)
  obtain ⟨known, hbound⟩ := hfrom.bound
  obtain ⟨parsed, lists, _, _, _, hparsed, hlists, hbindings, hsame⟩ := bindRoot_eq_ok hbound
  rw [hfrom.nativeState, hparsed] at hstate
  obtain rfl := Except.ok.inj hstate
  rw [hlists] at hchoices
  obtain rfl := Except.ok.inj hchoices
  refine ⟨mapRootActions_nodup hbindings, (mapRootActions_eq_ok hbindings).2, fun binding hmem => ?_⟩
  rw [hplayer, hfrom.rootPlayer]
  exact (hsame _).mp (List.mem_map_of_mem hmem)

/-- Where both players have legal actions, they are those of bindings that can be told apart. -/
theorem legalActions_bindings {root world : PreparedWorld PokeEngineWorld}
    (hprepared : IsPrepared model root) (h : Reaches model root world)
    {actions : List SearchAction × List SearchAction}
    (hlegal : ∀ player : Player, (model.legalActions world player :
      Except EngineError (List SearchAction)) = .ok (player.pick actions))
    (hdigests : ∀ state choices,
      (model.stateFromString world.payload.nativeState : Except EngineError (PyValue Obj)) = .ok state →
      (model.legalChoiceValues state : Except EngineError (List String × List String)) = .ok choices →
      ∀ player : Player, world.payload.isRootOf player = false →
        DigestsTellApart (player.pick choices)) :
    ∃ state choices,
      (model.stateFromString world.payload.nativeState : Except EngineError (PyValue Obj)) = .ok state ∧
      (model.legalChoiceValues state : Except EngineError (List String × List String)) = .ok choices ∧
      ∀ player : Player, ∃ bindings, (model.bindings world player state choices :
          Except EngineError (List ActionBinding)) = .ok bindings ∧
        player.pick actions = bindings.map ActionBinding.action ∧
        Resolves (player.pick choices) bindings := by
  -- the root player acts at the root without the engine, the other one never does
  obtain ⟨other, hother⟩ : ∃ other : Player, world.payload.isRootOf other = false := by
    cases hp1 : world.payload.isRootOf .p1 with
    | false => exact ⟨.p1, hp1⟩
    | true =>
      obtain ⟨-, hplayer⟩ := PokeEngineWorld.isRootOf_iff.mp hp1
      exact ⟨.p2, by simp [PokeEngineWorld.isRootOf, ← hplayer]⟩
  have hdeep := legalActions_eq_ok.mp (hlegal other)
  rw [if_neg (by simp [hother])] at hdeep
  obtain ⟨state, choices, _, hstate, hchoices, -, -⟩ := hdeep
  refine ⟨state, choices, hstate, hchoices, fun player => ?_⟩
  have hactions := legalActions_eq_ok.mp (hlegal player)
  cases hrootOf : world.payload.isRootOf player with
  | true =>
    rw [if_pos hrootOf] at hactions
    refine ⟨world.payload.rootBindings, ?_, ?_, h.root_resolves hprepared hrootOf hstate hchoices⟩
    · rw [bindings_eq_ok, if_pos hrootOf]
    · rw [hactions, h.rootActions_eq hprepared]
  | false =>
    rw [if_neg (by simp [hrootOf])] at hactions
    obtain ⟨state', choices', bindings, hstate', hchoices', hbindings, heq⟩ := hactions
    obtain rfl := Except.ok.inj (hstate'.symm.trans hstate)
    obtain rfl := Except.ok.inj (hchoices'.symm.trans hchoices)
    refine ⟨bindings, ?_, heq, ?_⟩
    · rw [bindings_eq_ok, if_neg (by simp [hrootOf])]
      exact hbindings
    · obtain ⟨_, _, forceSwitch, -, -, -, hmapped⟩ := deepBindings_eq_ok.mp hbindings
      exact mapNativeActions_resolves hmapped (hdigests _ _ hstate hchoices player hrootOf)

end Worlds

/-! ## §3 Joint actions -/

section Joint

variable {Obj : Type} [Engine Obj] [Rfc8785] {model : PokeEngineTransitionModel}
  {world : PreparedWorld PokeEngineWorld} {state : PyValue Obj} {choices : List String × List String}
  {p1Bindings p2Bindings : List ActionBinding} {p1Action p2Action : SearchAction}

/-- The failure has the class. -/
def FailsWith {α : Type} (result : Except EngineError α) (failureClass : MappingFailureClass) : Prop :=
  ∃ raised, result = .error (.mappingFailure raised) ∧ raised.failureClass = failureClass

omit [Rfc8785] in
theorem not_failsWith {α : Type} {result : Except EngineError α} {failureClass : MappingFailureClass}
    (h : RaisesOnly (EngineError.Avoids failureClass) result) : ¬FailsWith result failureClass := by
  rintro ⟨raised, hresult, hclass⟩
  exact h.of_error hresult hclass

variable
  (hstate : (model.stateFromString world.payload.nativeState : Except EngineError (PyValue Obj)) =
    .ok state)
  (hchoices : (model.legalChoiceValues state : Except EngineError (List String × List String)) =
    .ok choices)
  (hp1 : (model.bindings world .p1 state choices : Except EngineError (List ActionBinding)) =
    .ok p1Bindings)
  (hp2 : (model.bindings world .p2 state choices : Except EngineError (List ActionBinding)) =
    .ok p2Bindings)

include hstate hchoices hp1 hp2

/-- An action that is not bound makes the joint action invalid. -/
theorem jointBindings_of_notMem
    (h : p1Action ∉ p1Bindings.map ActionBinding.action ∨
      (∃ binding, bindingForAction p1Bindings p1Action = .ok binding) ∧
        p2Action ∉ p2Bindings.map ActionBinding.action) :
    (model.jointBindings world p1Action p2Action :
      Except EngineError (PyValue Obj × ActionBinding × ActionBinding)) =
        model.raise .invalidJointAction .nothing 0 := by
  unfold jointBindings
  rcases h with hnot | ⟨⟨binding, hbinding⟩, hnot⟩
  · simp only [hstate, hchoices, hp1, bindingForAction_of_notMem hnot, ofExcept_eq, bind, Except.bind]
    rfl
  · simp only [hstate, hchoices, hp1, hp2, hbinding, bindingForAction_of_notMem hnot, ofExcept_eq,
      bind, Except.bind]
    rfl

/-- Two actions that are bound once make a joint action. -/
theorem jointBindings_of_mem {p1Binding p2Binding : ActionBinding}
    (h1 : bindingForAction p1Bindings p1Action = .ok p1Binding)
    (h2 : bindingForAction p2Bindings p2Action = .ok p2Binding) :
    (model.jointBindings world p1Action p2Action :
      Except EngineError (PyValue Obj × ActionBinding × ActionBinding)) =
        .ok (state, p1Binding, p2Binding) :=
  jointBindings_eq_ok.mpr ⟨hstate, choices, hchoices, ⟨p1Bindings, hp1, h1⟩, p2Bindings, hp2, h2⟩

end Joint

/-- What a legal action stands for: the only binding with this action. -/
theorem Resolves.binding {choices : List String} {bindings : List ActionBinding}
    (h : Resolves choices bindings) {action : SearchAction}
    (hmem : action ∈ bindings.map ActionBinding.action) :
    ∃ binding, bindingForAction bindings action = .ok binding ∧ binding ∈ bindings ∧
      binding.action = action := by
  obtain ⟨binding, hbinding, rfl⟩ := List.mem_map.mp hmem
  exact ⟨binding, bindingForAction_of_mem h.actions hbinding, hbinding, rfl⟩

theorem Record.get_foreign (record : Record) (name : String) :
    RaisesOnly EngineError.IsForeign (record.get name) := by
  unfold Record.get
  split
  · exact .ok
  · exact .error trivial

theorem duelist_foreign (state : Record) (side : String) :
    RaisesOnly EngineError.IsForeign (duelist state side) := by
  refine (state.get_foreign side).bind fun value _ => ?_
  split
  · refine (Record.get_foreign _ "pokemon").bind fun team _ => ?_
    split
    · refine (Record.get_foreign _ "hp").bind fun hp _ => ?_
      refine (Record.get_foreign _ "item").bind fun item _ => ?_
      split
      · exact .ok trivial
      · exact .error trivial
    · exact .error trivial
  · exact .error trivial

theorem duelCall_foreign (name : String) (arguments : List (String × PyValue Record)) :
    RaisesOnly EngineError.IsForeign (duelCall name arguments) := by
  have htext : ∀ text, RaisesOnly EngineError.IsForeign (duelOfText text) := by
    intro text
    unfold duelOfText
    repeat' split
    all_goals first | exact .ok | exact .error trivial
  unfold duelCall
  split_ifs
  · split
    · exact htext _
    · exact .error trivial
  · exact .ok
  · exact .ok
  · exact .ok

theorem duelInvoke_foreign (receiver : PyValue Record) (name : String)
    (arguments : List (PyValue Record)) :
    RaisesOnly EngineError.IsForeign (duelInvoke receiver name arguments) := by
  have htext : ∀ state, RaisesOnly EngineError.IsForeign
      ((duelText state).map (PyValue.str : String → PyValue Record)) := by
    intro state
    refine RaisesOnly.bind (x := duelText state) ?_ fun _ _ => .ok trivial
    refine (duelist_foreign state "side_one").bind fun _ _ => ?_
    exact (duelist_foreign state "side_two").bind fun _ _ => .ok trivial
  have happly : ∀ state instruction,
      RaisesOnly EngineError.IsForeign (duelApply state instruction) := by
    intro state instruction
    refine (duelist_foreign state "side_one").bind fun _ _ => ?_
    refine (duelist_foreign state "side_two").bind fun _ _ => ?_
    refine (instruction.get_foreign "damage").bind fun damage _ => ?_
    split
    · exact .ok trivial
    · exact .error trivial
  unfold duelInvoke
  split
  · split_ifs
    · exact htext _
    · exact .error trivial
  · split_ifs
    · exact happly _ _
    · exact .error trivial
  · exact .error trivial

/-- The engine of the duel raises exceptions of Python's own classes only. -/
theorem duelEngine_raisesForeign :
    letI := duelEngine
    RaisesForeign Record := by
  let _ := duelEngine
  refine
    { call := duelCall_foreign
      invoke := duelInvoke_foreign
      getattr := fun receiver name => ?_
      int := fun _ => .error trivial
      bool := fun _ => .error trivial
      str := fun _ => .error trivial
      item := fun value index => ?_
      items := fun _ => .error trivial
      differ := fun _ _ => .error trivial }
  · cases receiver with
    | object record => exact record.get_foreign name
    | _ => exact .error trivial
  · show RaisesOnly EngineError.IsForeign (duelItem value index)
    unfold duelItem
    split
    · split
      · exact .ok
      · exact .error trivial
    · exact .error trivial

/-- The choices of the duel, and what the other player can do in it. -/
theorem duel_choices {root : PreparedWorld PokeEngineWorld}
    (hstate : root.payload.nativeState = "100/100/leftovers") (hplayer : root.payload.rootPlayer = .p1) :
    letI := duelEngine
    letI := compactCanonicalizer
    (∀ state choices, (duelModel.stateFromString root.payload.nativeState :
        Except EngineError (PyValue Record)) = .ok state →
      (duelModel.legalChoiceValues state : Except EngineError (List String × List String)) =
        .ok choices → choices = (["tackle"], ["tackle"])) ∧
      ∃ actions, (duelModel.legalActions root .p2 : Except EngineError (List SearchAction)) =
        .ok actions := by
  let _ := duelEngine
  let _ := compactCanonicalizer
  have hsteps : (do
      let state ← duelModel.stateFromString "100/100/leftovers"
      let choices ← duelModel.legalChoiceValues state
      let bindings ← duelModel.deepBindings .p2 state choices
      pure (choices, bindings.map ActionBinding.nativeChoice) :
        Except EngineError ((List String × List String) × List String)) =
          .ok ((["tackle"], ["tackle"]), ["tackle"]) := by
    decide +kernel
  simp only [bind_eq_ok] at hsteps
  obtain ⟨state, hparsed, choices, hchoices, bindings, hbindings, hresult⟩ := hsteps
  obtain ⟨hlists, -⟩ := Prod.mk.inj (Except.ok.inj hresult)
  rw [hstate]
  refine ⟨fun state' choices' hstate' hchoices' => ?_, bindings.map ActionBinding.action,
    legalActions_eq_ok.mpr ?_⟩
  · obtain rfl := Except.ok.inj (hstate'.symm.trans hparsed)
    rw [← hlists]
    exact Except.ok.inj (hchoices'.symm.trans hchoices)
  · rw [if_neg (by simp [PokeEngineWorld.isRootOf, hplayer])]
    exact ⟨state, choices, bindings, hstate ▸ hparsed, hchoices, hbindings, rfl⟩

end BattleBelief
