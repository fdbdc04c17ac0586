import BattleBelief.Engine.ChanceAccounting
import BattleBelief.Library.HashChain

/-!
# Information States

The view of a player is a hash chain: it names the view before and adds what the player knows of the
own side and what has changed in public.

- `Sees`: what a player has seen of a world that transitions lead to
- `information_states_are_histories`: information-state keys are equal exactly when the players have
  seen the same, and so they tell nothing of the other player's half of a complete world
-/

namespace BattleBelief

open HashChain Outcomes PokeEngineTransitionModel Runs
open Python (Json)

/-! ## §1 Documents of views -/

/-- What a player sees: first the observed state and the own side, and then at every ply the own side
and the public changes. -/
abbrev Seen := History (Digest × Json) (Json × Json)

/-- The documents of a player's views. -/
def viewFormat (player : Player) : Format (Digest × Json) (Json × Json) Json Digest where
  first start := .obj [("observed_state_digest", .str start.1.text), ("player", .str player.value),
    ("own_private", start.2)]
  next prior entry := .obj [("prior_view_digest", .str prior.text), ("player", .str player.value),
    ("own_private", entry.1), ("public_transition_delta", entry.2)]
  first_injective := by
    rintro ⟨digest, own⟩ ⟨digest', own'⟩ h
    simp only [Json.obj.injEq, List.cons.injEq, Prod.mk.injEq, Json.str.injEq, true_and, and_true] at h
    obtain ⟨hdigest, rfl⟩ := h
    rw [Digest.text_injective hdigest]
  next_injective := by
    rintro prior prior' ⟨own, delta⟩ ⟨own', delta'⟩ h
    simp only [Json.obj.injEq, List.cons.injEq, Prod.mk.injEq, Json.str.injEq, true_and, and_true] at h
    obtain ⟨hprior, rfl, rfl⟩ := h
    exact ⟨Digest.text_injective hprior, rfl⟩
  first_ne_next := by
    intro start prior entry h
    simp at h

section Documents

variable {Obj : Type} [Engine Obj]

/-- The private document of a player's own side. -/
def ownDocument (state : PyValue Obj) (player : Player) : Except EngineError Json := do
  let own ← ownPrivate state player
  own.toJson

/-- The document of the public changes that a player sees. -/
def deltaDocument (source target : PyValue Obj) (player : Player) (publicHp : PublicHp × PublicHp) :
    Except EngineError Json := do
  let delta ← publicTransitionDelta source target player publicHp
  delta.toJson

omit [Engine Obj] in
/-- The JSON form of the document of a root view. -/
theorem toJson_root {observed name : String} {own : PyValue Obj} {json : Json}
    (h : (PyValue.dict [("observed_state_digest", .str observed), ("player", .str name),
      ("own_private", own)]).toJson = .ok json) :
    ∃ document, own.toJson = .ok document ∧ json = .obj [("observed_state_digest", .str observed),
      ("player", .str name), ("own_private", document)] := by
  simp only [PyValue.toJson, PyValue.membersToJson] at h
  cases hown : own.toJson with
  | error error => simp [hown, bind, Except.bind, Except.map] at h
  | ok document =>
    simp only [hown, bind, Except.bind, Except.map, pure, Except.pure, Except.ok.injEq] at h
    exact ⟨document, rfl, h.symm⟩

omit [Engine Obj] in
/-- The JSON form of the document of a later view. -/
theorem toJson_ply {prior name : String} {own delta : PyValue Obj} {json : Json}
    (h : (PyValue.dict [("prior_view_digest", .str prior), ("player", .str name), ("own_private", own),
      ("public_transition_delta", delta)]).toJson = .ok json) :
    ∃ document change, own.toJson = .ok document ∧ delta.toJson = .ok change ∧
      json = .obj [("prior_view_digest", .str prior), ("player", .str name),
        ("own_private", document), ("public_transition_delta", change)] := by
  simp only [PyValue.toJson, PyValue.membersToJson] at h
  cases hown : own.toJson with
  | error error => simp [hown, bind, Except.bind, Except.map] at h
  | ok document =>
    cases hdelta : delta.toJson with
    | error error => simp [hown, hdelta, bind, Except.bind, Except.map] at h
    | ok change =>
      simp only [hown, hdelta, bind, Except.bind, Except.map, pure, Except.pure, Except.ok.injEq] at h
      exact ⟨document, change, rfl, rfl, h.symm⟩

variable [Rfc8785] {state source : PyValue Obj} {observedDigest prior digest : Digest}
  {player : Player} {publicHp : PublicHp × PublicHp}

/-- The view of a root tells the observed state and the own side. -/
theorem viewDigest_root (h : (viewDigest state observedDigest player none source publicHp :
      Except EngineError Digest) = .ok digest) :
    ∃ own, ownDocument state player = .ok own ∧
      Digest.manifest ((viewFormat player).first (observedDigest, own)) = .ok digest := by
  unfold viewDigest viewDocument at h
  simp only [bind_eq_ok, ofExcept_eq] at h
  obtain ⟨document, ⟨own, hown, hdocument⟩, json, hjson, hdigest⟩ := h
  obtain rfl := Except.ok.inj hdocument
  obtain ⟨ownJson, hownJson, rfl⟩ := toJson_root hjson
  exact ⟨ownJson, bind_eq_ok.mpr ⟨own, hown, hownJson⟩, hdigest⟩

/-- A later view tells the view before, the own side and the public changes. -/
theorem viewDigest_ply (h : (viewDigest state observedDigest player (some prior) source publicHp :
      Except EngineError Digest) = .ok digest) :
    ∃ own delta, ownDocument state player = .ok own ∧
      deltaDocument source state player publicHp = .ok delta ∧
      Digest.manifest ((viewFormat player).next prior (own, delta)) = .ok digest := by
  unfold viewDigest viewDocument at h
  simp only [bind_eq_ok, ofExcept_eq] at h
  obtain ⟨document, ⟨own, hown, delta, hdelta, hdocument⟩, json, hjson, hdigest⟩ := h
  obtain rfl := Except.ok.inj hdocument
  obtain ⟨ownJson, deltaJson, hownJson, hdeltaJson, rfl⟩ := toJson_ply hjson
  exact ⟨ownJson, deltaJson, bind_eq_ok.mpr ⟨own, hown, hownJson⟩,
    bind_eq_ok.mpr ⟨delta, hdelta, hdeltaJson⟩, hdigest⟩

/-- The views of a frozen state. -/
theorem mapNativeState_views {priorViewDigests : Option (Digest × Digest)}
    {sourceState : Option (PyValue Obj)} {mapped : MappedNativeState}
    (h : (mapNativeState state observedDigest priorViewDigests sourceState publicHp :
      Except EngineError MappedNativeState) = .ok mapped) (player : Player) :
    (viewDigest state observedDigest player (priorViewDigests.map player.pick)
      (sourceState.getD .none) publicHp : Except EngineError Digest) =
        .ok (player.pick mapped.viewDigests) := by
  have hfreeze : (freezeNativeState state observedDigest priorViewDigests sourceState publicHp :
      Except EngineError MappedNativeState) = .ok mapped := by
    refine (tryCatch_eq_ok fun error => ?_).mp h
    cases error <;> rintro ⟨⟩
  unfold freezeNativeState at hfreeze
  simp only [bind_eq_ok] at hfreeze
  obtain ⟨_, -, _, -, _, -, _, -, _, -, _, -, _, -, _, -, _, -, _, -, _, -, _, -, _, -, _, -, _, -, _, -,
    hviews⟩ := hfreeze
  split at hviews
  · cases hviews
  · simp only [bind_eq_ok] at hviews
    obtain ⟨viewOne, hone, viewTwo, htwo, hresult⟩ := hviews
    obtain rfl := Except.ok.inj hresult
    cases player with
    | p1 => exact hone
    | p2 => exact htwo

end Documents

/-! ## §2 What a player sees -/

section Seeing

variable {Obj : Type} [Engine Obj] [Rfc8785] {model : PokeEngineTransitionModel}

/-- An instruction of the joint action led from the state of the world to the one of the successor. -/
structure LedTo (model : PokeEngineTransitionModel) (world : PreparedWorld PokeEngineWorld)
    (p1Action p2Action : SearchAction) (successor : PreparedWorld PokeEngineWorld)
    (state successorState : PyValue Obj) : Prop where
  joint : ∃ p1Binding p2Binding instructions instruction,
    (model.jointBindings world p1Action p2Action :
      Except EngineError (PyValue Obj × ActionBinding × ActionBinding)) =
        .ok (state, p1Binding, p2Binding) ∧
    (model.generateInstructions state p1Binding.nativeChoice p2Binding.nativeChoice :
      Except EngineError (PyValue Obj)) = .ok (.list instructions) ∧
    instruction ∈ instructions ∧
    (model.applyInstructions state instruction : Except EngineError (PyValue Obj)) = .ok successorState
  frozen : ∃ mapped, (mapNativeState successorState world.payload.observedStateDigest
      (some world.payload.viewDigests) (some state) world.payload.publicHp :
        Except EngineError MappedNativeState) = .ok mapped ∧
    ∃ capabilities required, successor.payload =
      model.successorPayload world capabilities required mapped

/-- Every successor of a transition comes from an instruction. -/
theorem transition_ledTo {world : PreparedWorld PokeEngineWorld} {p1Action p2Action : SearchAction}
    {outcome : TransitionOutcome PokeEngineWorld}
    (h : (model.transition world p1Action p2Action :
      Except EngineError (TransitionOutcome PokeEngineWorld)) = .ok outcome)
    {successor : TransitionSuccessor PokeEngineWorld} (hmem : successor ∈ outcome.successors) :
    ∃ state successorState : PyValue Obj,
      LedTo model world p1Action p2Action successor.world state successorState := by
  obtain ⟨state, p1Binding, p2Binding, hjoint, instructions, hgenerate, weights, hweights,
    capabilities, -, successors, hsuccessors, houtcome⟩ := transition_eq_ok.mp h
  rw [(outcomeOf_eq_ok houtcome).1] at hmem
  obtain ⟨list, results, rfl, -, hall, -, -, rfl⟩ := mappedSuccessors_eq_ok.mp hweights
  obtain ⟨entry, hentry, hof⟩ := mem_successors hsuccessors hmem
  obtain ⟨required, -, hpayload, -⟩ := successorOf_eq_ok hof
  obtain ⟨result, hresult, horigin⟩ := List.mem_map.mp (mem_normalize hentry)
  obtain ⟨instruction, hinstruction, hleads⟩ := exists_of_forall₂ hall hresult
  obtain ⟨successorState, happlied, hfrozen⟩ := hleads.mapped
  rw [horigin] at hfrozen
  exact ⟨state, successorState,
    ⟨p1Binding, p2Binding, list, instruction, hjoint, hgenerate, hinstruction, happlied⟩,
    entry.1, hfrozen, capabilities, required, hpayload⟩

variable [Python.UnicodeDatabase]

/-- What a player has seen of a world: at the root the observed state and the own side of the complete
world, and with every transition the own side of the new state and the changes. -/
inductive Sees (model : PokeEngineTransitionModel) (player : Player) :
    PreparedWorld PokeEngineWorld → Seen → Prop
  | root {observedState : ObservedState} {safe : SafeSubmissionSet} {completeWorld : Json}
      {rulesetDigest : String} {rootIdentity : Option PreparedRootIdentity}
      {root : PreparedWorld PokeEngineWorld} {observed : ObservedRoot} {state : PyValue Obj} {own : Json}
      (prepared : (model.prepareBattleRoot observedState safe completeWorld rulesetDigest rootIdentity :
        Except EngineError (PreparedWorld PokeEngineWorld)) = .ok root)
      (observing : mapObservedRoot observedState = .ok observed)
      (built : (buildCompleteWorld completeWorld : Except EngineError (PyValue Obj)) = .ok state)
      (own_private : ownDocument state player = .ok own) :
      Sees model player root ⟨(observed.digest, own), []⟩
  | ply {world : PreparedWorld PokeEngineWorld} {seen : Seen} {p1Action p2Action : SearchAction}
      {outcome : TransitionOutcome PokeEngineWorld} {successor : TransitionSuccessor PokeEngineWorld}
      {state successorState : PyValue Obj} {own delta : Json} (before : Sees model player world seen)
      (returned : (model.transition world p1Action p2Action :
        Except EngineError (TransitionOutcome PokeEngineWorld)) = .ok outcome)
      (mem : successor ∈ outcome.successors)
      (led : LedTo model world p1Action p2Action successor.world state successorState)
      (own_private : ownDocument successorState player = .ok own)
      (public_delta : deltaDocument state successorState player world.payload.publicHp = .ok delta) :
      Sees model player successor.world ⟨seen.start, (own, delta) :: seen.entries⟩

/-- A player sees something of every world that transitions reach. -/
theorem Reaches.sees {root world : PreparedWorld PokeEngineWorld} (hprepared : IsPrepared model root)
    (h : Reaches model root world) (player : Player) : ∃ seen, Sees model player world seen := by
  induction h with
  | root =>
    obtain ⟨_, _, _, _, _, hroot⟩ := hprepared
    obtain ⟨observed, state, mapped, hobserved, hstate, hfrom⟩ := prepareBattleRoot_eq_ok hroot
    obtain ⟨own, hown, -⟩ := viewDigest_root (mapNativeState_views hfrom.frozen player)
    exact ⟨_, .root hroot hobserved hstate hown⟩
  | step p1Action p2Action outcome successor reached returned mem ih =>
    obtain ⟨seen, hseen⟩ := ih
    obtain ⟨state, successorState, hled⟩ := transition_ledTo returned mem
    obtain ⟨mapped, hfrozen, -⟩ := hled.frozen
    obtain ⟨own, delta, hown, hdelta, -⟩ := viewDigest_ply (mapNativeState_views hfrozen player)
    exact ⟨_, .ply hseen returned mem hled hown hdelta⟩

/-- The view of a world is the digest of what the player has seen of it. -/
theorem Sees.chain {player : Player} {world : PreparedWorld PokeEngineWorld} {seen : Seen}
    (h : Sees model player world seen) :
    HashChain.chain (viewFormat player) Digest.manifest seen.start seen.entries =
      .ok (player.pick world.payload.viewDigests) := by
  induction h with
  | root prepared observing built own_private =>
    obtain ⟨observed, state, mapped, hobserved, hstate, hfrom⟩ := prepareBattleRoot_eq_ok prepared
    obtain rfl := Except.ok.inj (hobserved.symm.trans observing)
    obtain rfl := Except.ok.inj (hstate.symm.trans built)
    obtain ⟨own, hown, hdigest⟩ := viewDigest_root (mapNativeState_views hfrom.frozen player)
    obtain rfl := Except.ok.inj (hown.symm.trans own_private)
    rw [hfrom.viewDigests]
    exact hdigest
  | ply before returned mem led own_private public_delta ih =>
    obtain ⟨mapped, hfrozen, capabilities, required, hpayload⟩ := led.frozen
    obtain ⟨own, delta, hown, hdelta, hdigest⟩ := viewDigest_ply (mapNativeState_views hfrozen player)
    obtain rfl := Except.ok.inj (hown.symm.trans own_private)
    obtain rfl := Except.ok.inj (hdelta.symm.trans public_delta)
    rw [hpayload]
    exact bind_eq_ok.mpr ⟨_, ih, hdigest⟩

end Seeing

/-! ## §3 Keys -/

section Keys

variable [Rfc8785]

/-- The document of an information-state key. -/
def keyDocument (view : PlayerView) : Json :=
  .obj [("player", .str view.player.value), ("view_digest", .str view.viewDigest.text)]

theorem informationStateKey_eq_ok {view : PlayerView} {key : InformationStateKey} :
    informationStateKey view = .ok key ↔
      key.player = view.player ∧
        Digest.manifest (keyDocument view) = .ok key.informationStateDigest := by
  unfold informationStateKey
  rw [bind_eq_ok]
  constructor
  · rintro ⟨digest, hdigest, hkey⟩
    obtain rfl := Except.ok.inj hkey
    exact ⟨rfl, hdigest⟩
  · rintro ⟨hplayer, hdigest⟩
    refine ⟨_, hdigest, ?_⟩
    rw [← hplayer]
    rfl

/-- The digests of what a player has seen of two worlds tell the two apart: no two documents that go
into the keys collide. -/
structure ToldApart (player : Player) (world world' : PreparedWorld PokeEngineWorld) (seen seen' : Seen) :
    Prop where
  views : CollisionFree Digest.manifest fun document =>
    IsDocument (viewFormat player) Digest.manifest seen.start seen.entries document ∨
      IsDocument (viewFormat player) Digest.manifest seen'.start seen'.entries document
  keys : CollisionFree Digest.manifest fun document =>
    document = keyDocument (playerView world player) ∨
      document = keyDocument (playerView world' player)

/-- Keys are equal exactly when the views are. -/
theorem informationStateKey_eq_iff {player : Player} {world world' : PreparedWorld PokeEngineWorld}
    (hfree : CollisionFree Digest.manifest fun document =>
      document = keyDocument (playerView world player) ∨
        document = keyDocument (playerView world' player))
    {key key' : InformationStateKey}
    (hkey : informationStateKey (playerView world player) = .ok key)
    (hkey' : informationStateKey (playerView world' player) = .ok key') :
    key = key' ↔ player.pick world.payload.viewDigests = player.pick world'.payload.viewDigests := by
  constructor
  · rintro rfl
    obtain ⟨-, hdigest⟩ := informationStateKey_eq_ok.mp hkey
    obtain ⟨-, hdigest'⟩ := informationStateKey_eq_ok.mp hkey'
    have hsame := hfree _ _ _ (.inl rfl) (.inr rfl) hdigest hdigest'
    simp only [keyDocument, playerView, Json.obj.injEq, List.cons.injEq, Prod.mk.injEq, Json.str.injEq,
      true_and, and_true] at hsame
    exact Digest.text_injective hsame
  · intro hviews
    have hview : playerView world player = playerView world' player := by
      unfold playerView
      rw [hviews]
    rw [hview] at hkey
    exact Except.ok.inj (hkey.symm.trans hkey')

end Keys

/-! ## §4 Halves of a complete world -/

/-- The half of a complete world that belongs to a player. -/
def halfOf (completeWorld : Json) (player : Player) : Json :=
  match completeWorld with
  | .obj members =>
      match field members "sides" with
      | .obj sides => field sides player.value
      | _ => .null
  | _ => .null

section Halves

variable {Obj : Type} [Engine Obj]

/-- A side of a new state is the one that its constructor is given. -/
def KeepsSides (Obj : Type) [Engine Obj] : Prop :=
  ∀ (player : Player) arguments arguments' (state state' : PyValue Obj),
    Engine.call "State" arguments = .ok state → Engine.call "State" arguments' = .ok state' →
    Python.Dict.get? arguments (sideName player) = Python.Dict.get? arguments' (sideName player) →
    Engine.getattr state (sideName player) = Engine.getattr state' (sideName player)

theorem failState_ne_ok {α : Type} {failureClass : MappingFailureClass} {a : α} :
    (failState failureClass : Except EngineError α) ≠ .ok a := by
  rintro ⟨⟩

/-- A check of the mapper has been passed. -/
theorem checkState_eq_ok {c : Prop} [Decidable c] {α : Type} {failureClass : MappingFailureClass}
    {rest : Except EngineError α} {a : α} :
    (if c then (failState failureClass : Except EngineError Unit) >>= fun _ => rest else rest) =
      .ok a ↔ ¬c ∧ rest = .ok a := by
  split_ifs with hc
  · refine iff_of_false ?_ fun h => h.1 hc
    rintro ⟨⟩
  · exact (and_iff_right hc).symm

theorem exactKeys_eq_ok {value : Json} {required optional : List String}
    {members : List (String × Json)}
    (h : (exactKeys value required optional : Except EngineError (List (String × Json))) =
      .ok members) : value = .obj members := by
  unfold exactKeys at h
  split at h
  · split_ifs at h
    · exact absurd h failState_ne_ok
    · exact absurd h failState_ne_ok
    · rw [Except.ok.inj h]
  · exact absurd h failState_ne_ok

/-- The state of a complete world is constructed with the sides that its halves stand for. -/
theorem buildCompleteWorld_side {completeWorld : Json} {state : PyValue Obj}
    (h : (buildCompleteWorld completeWorld : Except EngineError (PyValue Obj)) = .ok state)
    (player : Player) :
    ∃ side arguments, (mapSide (halfOf completeWorld player) : Except EngineError (PyValue Obj)) =
        .ok side ∧
      Engine.call "State" arguments = .ok state ∧
      Python.Dict.get? arguments (sideName player) = some side := by
  unfold buildCompleteWorld at h
  obtain ⟨world, hworld, h⟩ := bind_eq_ok.mp h
  dsimp only at h
  obtain ⟨-, h⟩ := checkState_eq_ok.mp h
  obtain ⟨_, -, h⟩ := bind_eq_ok.mp h
  obtain ⟨fieldDocument, -, h⟩ := bind_eq_ok.mp h
  obtain ⟨sides, hsides, h⟩ := bind_eq_ok.mp h
  obtain ⟨⟨weather, terrain⟩, -, h⟩ := bind_eq_ok.mp h
  dsimp only at h
  rw [tryCatch_eq_ok fun error => by cases error <;> rintro ⟨⟩] at h
  simp only [bind_eq_ok] at h
  obtain ⟨sideOne, hone, sideTwo, htwo, weatherTurns, -, terrainTurns, -, trickRoom, -, trickRoomTurns,
    -, hstate⟩ := h
  have hhalf : halfOf completeWorld player = field sides player.value := by
    rw [exactKeys_eq_ok hworld, halfOf, exactKeys_eq_ok hsides]
  rw [hhalf]
  cases player with
  | p1 => exact ⟨sideOne, _, hone, hstate, rfl⟩
  | p2 => exact ⟨sideTwo, _, htwo, hstate, rfl⟩

/-- What a player knows of the own side is read from that side alone. -/
theorem ownDocument_congr {player : Player} {state state' : PyValue Obj} {own own' : Json}
    (hside : Engine.getattr state (sideName player) = Engine.getattr state' (sideName player))
    (h : ownDocument state player = .ok own) (h' : ownDocument state' player = .ok own') :
    own = own' := by
  have hread : ∀ {state : PyValue Obj} {own : Json}, ownDocument state player = .ok own →
      ∃ side, Engine.getattr state (sideName player) = .ok side ∧ (do
        let activeIndex ← readInt side "active_index"
        let pokemon ← (← readItems side "pokemon").mapM privatePokemon
        (PyValue.dict [("active_index", .int activeIndex), ("pokemon", .list pokemon)]).toJson :
          Except EngineError Json) = .ok own := by
    intro state own h
    unfold ownDocument ownPrivate at h
    simp only [bind_eq_ok] at h
    obtain ⟨document, ⟨sides, hsides, index, hindex, items, hitems, pokemon, hpokemon, hdocument⟩,
      hown⟩ := h
    obtain rfl := Except.ok.inj hdocument
    unfold readSides at hsides
    simp only [bind_eq_ok] at hsides
    obtain ⟨sideOne, hone, sideTwo, htwo, hpair⟩ := hsides
    obtain rfl := Except.ok.inj hpair
    refine ⟨player.pick (sideOne, sideTwo), ?_, ?_⟩
    · cases player with
      | p1 => exact hone
      | p2 => exact htwo
    · simp only [bind_eq_ok]
      exact ⟨index, hindex, items, hitems, pokemon, hpokemon, hown⟩
  obtain ⟨side, hgetattr, hown⟩ := hread h
  obtain ⟨side', hgetattr', hown'⟩ := hread h'
  rw [hgetattr, hgetattr', Except.ok.injEq] at hside
  subst hside
  exact Except.ok.inj (hown.symm.trans hown')

variable [Rfc8785] [Python.UnicodeDatabase] {model : PokeEngineTransitionModel}

/-- Roots of one observed state, with one half for a player, look the same to the player. -/
theorem sees_of_halfOf_eq (hsides : KeepsSides Obj) {player : Player} {observedState : ObservedState}
    {safe safe' : SafeSubmissionSet} {completeWorld completeWorld' : Json} {rulesetDigest : String}
    {rootIdentity rootIdentity' : Option PreparedRootIdentity}
    {root root' : PreparedWorld PokeEngineWorld}
    (h : (model.prepareBattleRoot observedState safe completeWorld rulesetDigest rootIdentity :
      Except EngineError (PreparedWorld PokeEngineWorld)) = .ok root)
    (h' : (model.prepareBattleRoot observedState safe' completeWorld' rulesetDigest rootIdentity' :
      Except EngineError (PreparedWorld PokeEngineWorld)) = .ok root')
    (hhalf : halfOf completeWorld player = halfOf completeWorld' player) :
    ∃ start, Sees model player root ⟨start, []⟩ ∧ Sees model player root' ⟨start, []⟩ := by
  obtain ⟨observed, state, mapped, hobserved, hstate, hfrom⟩ := prepareBattleRoot_eq_ok h
  obtain ⟨observed', state', mapped', hobserved', hstate', hfrom'⟩ := prepareBattleRoot_eq_ok h'
  obtain rfl := Except.ok.inj (hobserved.symm.trans hobserved')
  obtain ⟨side, arguments, hside, hcall, hgiven⟩ := buildCompleteWorld_side hstate player
  obtain ⟨side', arguments', hside', hcall', hgiven'⟩ := buildCompleteWorld_side hstate' player
  -- the halves stand for one side, which both states have
  rw [hhalf] at hside
  obtain rfl := Except.ok.inj (hside.symm.trans hside')
  have hsame := hsides player arguments arguments' state state' hcall hcall' (hgiven.trans hgiven'.symm)
  obtain ⟨own, hown, -⟩ := viewDigest_root (mapNativeState_views hfrom.frozen player)
  obtain ⟨own', hown', -⟩ := viewDigest_root (mapNativeState_views hfrom'.frozen player)
  obtain rfl := ownDocument_congr hsame hown hown'
  exact ⟨(observed.digest, own), .root h hobserved hstate hown, .root h' hobserved' hstate' hown'⟩

/-- **Information states are histories.** A player sees something of every world that transitions
reach from a prepared root. The keys of two worlds are equal exactly when the player has seen the same
of both: the observed state of the root, and at every ply the private document of the own side and the
public changes. Of two roots of one observed state, in whose complete worlds the player has the same
half, the keys are the same. -/
theorem information_states_are_histories (model : PokeEngineTransitionModel) (player : Player)
    (hsides : KeepsSides Obj) :
    (∀ root world, IsPrepared model root → Reaches model root world →
      ∃ seen, Sees model player world seen) ∧
    (∀ world world' seen seen' key key', Sees model player world seen →
      Sees model player world' seen' → ToldApart player world world' seen seen' →
      informationStateKey (playerView world player) = .ok key →
      informationStateKey (playerView world' player) = .ok key' → (key = key' ↔ seen = seen')) ∧
    ∀ observedState safe safe' completeWorld completeWorld' rulesetDigest rootIdentity rootIdentity'
      root root',
      (model.prepareBattleRoot observedState safe completeWorld rulesetDigest rootIdentity :
        Except EngineError (PreparedWorld PokeEngineWorld)) = .ok root →
      (model.prepareBattleRoot observedState safe' completeWorld' rulesetDigest rootIdentity' :
        Except EngineError (PreparedWorld PokeEngineWorld)) = .ok root' →
      halfOf completeWorld player = halfOf completeWorld' player →
      informationStateKey (playerView root player) = informationStateKey (playerView root' player) := by
  refine ⟨fun root world hprepared hreaches => hreaches.sees hprepared player, ?_, ?_⟩
  · intro world world' seen seen' key key' hsees hsees' hapart hkey hkey'
    rw [informationStateKey_eq_iff hapart.keys hkey hkey', chain_eq_iff hapart.views hsees.chain
      hsees'.chain]
    constructor
    · rintro ⟨hstart, hentries⟩
      cases seen
      cases seen'
      exact congrArg₂ History.mk hstart hentries
    · rintro rfl
      exact ⟨rfl, rfl⟩
  · intro observedState safe safe' completeWorld completeWorld' rulesetDigest rootIdentity rootIdentity'
      root root' h h' hhalf
    obtain ⟨start, hsees, hsees'⟩ := sees_of_halfOf_eq hsides h h' hhalf
    have hviews := Except.ok.inj (hsees.chain.symm.trans hsees'.chain)
    have hview : playerView root player = playerView root' player := by
      unfold playerView
      rw [hviews]
    rw [hview]

end Halves

/-- The states of the duel keep the sides that they are made with. -/
theorem duelEngine_keepsSides :
    letI := duelEngine
    KeepsSides Record := by
  intro player arguments arguments' state state' h h' hsame
  have hcall : ∀ arguments, duelCall "State" arguments = .ok (.object ⟨arguments⟩) := fun _ => rfl
  obtain rfl := Except.ok.inj ((hcall arguments).symm.trans h)
  obtain rfl := Except.ok.inj ((hcall arguments').symm.trans h')
  show Record.get _ _ = Record.get _ _
  have hgiven : Python.Dict.get? (Record.mk arguments).fields (sideName player) =
      Python.Dict.get? (Record.mk arguments').fields (sideName player) := hsame
  unfold Record.get
  rw [hgiven]

/-- We cannot tell what our opponent holds in the duel. -/
theorem duel_indistinguishable :
    letI := duelEngine
    letI := Python.asciiDatabase
    letI := compactCanonicalizer
    ∃ root root' seen key,
      (duelModel.prepareBattleRoot duelObserved duelSafe (duelWorld "leftovers") zeros.text none :
        Except EngineError (PreparedWorld PokeEngineWorld)) = .ok root ∧
      (duelModel.prepareBattleRoot duelObserved duelSafe (duelWorld "lifeorb") zeros.text none :
        Except EngineError (PreparedWorld PokeEngineWorld)) = .ok root' ∧
      root.payload.nativeState ≠ root'.payload.nativeState ∧
      Sees duelModel .p1 root seen ∧ Sees duelModel .p1 root' seen ∧
      ToldApart .p1 root root' seen seen ∧
      informationStateKey (playerView root .p1) = .ok key ∧
      informationStateKey (playerView root' .p1) = .ok key := by
  let _ := duelEngine
  let _ := Python.asciiDatabase
  let _ := compactCanonicalizer
  obtain ⟨root, hroot, hnative, -⟩ := duel_prepared (.inl rfl)
  obtain ⟨root', hroot', hnative', -⟩ := duel_prepared (.inr rfl)
  obtain ⟨-, hhistories, hhalves⟩ :=
    information_states_are_histories duelModel .p1 duelEngine_keepsSides
  have hkeys := hhalves duelObserved duelSafe duelSafe (duelWorld "leftovers") (duelWorld "lifeorb")
    zeros.text none none root root' hroot hroot' rfl
  have hhalf : halfOf (duelWorld "leftovers") .p1 = halfOf (duelWorld "lifeorb") .p1 := rfl
  obtain ⟨start, hsees, hsees'⟩ :=
    sees_of_halfOf_eq duelEngine_keepsSides hroot hroot' hhalf
  have hview : playerView root .p1 = playerView root' .p1 :=
    congrArg (PlayerView.mk .p1) (Except.ok.inj (hsees.chain.symm.trans hsees'.chain))
  -- there is one document of either kind
  have hone : ∀ document, IsDocument (viewFormat .p1) Digest.manifest start [] document →
      document = (viewFormat .p1).first start := by
    intro document hdocument
    cases hdocument with
    | first => rfl
    | next suffix digest => exact absurd (List.eq_nil_of_suffix_nil suffix) (List.cons_ne_nil _ _)
  have hapart : ToldApart .p1 root root' ⟨start, []⟩ ⟨start, []⟩ := by
    refine ⟨fun document other key hdocument hother _ _ => ?_,
      fun document other key hdocument hother _ _ => ?_⟩
    · rw [hone document (hdocument.elim id id), hone other (hother.elim id id)]
    · rw [← hview, or_self] at hdocument hother
      rw [hdocument, hother]
  obtain ⟨key, hkey⟩ : ∃ key, informationStateKey (playerView root .p1) = .ok key := ⟨_, rfl⟩
  obtain ⟨key', hkey'⟩ : ∃ key', informationStateKey (playerView root' .p1) = .ok key' := ⟨_, rfl⟩
  obtain rfl := (hhistories root root' _ _ key key' hsees hsees' hapart hkey hkey').mpr rfl
  refine ⟨root, root', ⟨start, []⟩, key, hroot, hroot', ?_, hsees, hsees', hapart, hkey,
    hkeys ▸ hkey⟩
  rw [hnative, hnative']
  decide

end BattleBelief
