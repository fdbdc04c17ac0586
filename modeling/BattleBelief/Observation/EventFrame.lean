import BattleBelief.Observation.Roster

/-!
# What an Event Leaves Alone

The reducer rebuilds its state from the inside out: a pokemon, the tuple it stands in, the side, the
state. This module says what all this copying brings along unchanged.

- `reduceEvent_beside`: what an event does to the state beside its two sides
- `event_frame`: which entries it may touch, and that everything around them stays
-/

namespace BattleBelief

open Runs

/-! ## §1 The state beside its sides -/

/-- `s` with the sides of `t`. -/
def ObservedState.withSides (s t : ObservedState) : ObservedState :=
  { s with p1 := t.p1, p2 := t.p2 }

/-- What an event does to the state beside its two sides. -/
def effectBeside (s : ObservedState) : BattleEvent → ObservedState
  | .battleInit _ => { s with roomInitialized := true }
  | .playerDeclared event =>
      { s with
        ourSide :=
          if event.userId = s.ourUserId ∧ s.ourSide = none then some event.sideId
          else s.ourSide }
  | .generationDeclared event => { s with generation := some event.generation }
  | .gameTypeDeclared event => { s with gameType := some event.gameType }
  | .tierDeclared event => { s with tier := some event.tier }
  | .battleRated event => { s with rated := some event.rated }
  | .ruleDeclared event => { s with rules := s.rules ++ [event.rule] }
  | .teamPreviewStarted _ => { s with teamPreviewStarted := true }
  | .battleStarted _ => { s with battleStarted := true }
  | .turnStarted event => { s with turn := event.turn }
  | .battleWon event => { s with winner := some event.winner }
  | .battleTied _ => { s with tied := true }
  | .moveUsed event =>
      recordEvidence s
        { eventIndex := event.eventIndex, kind := "move", sideId := some event.sideId
          slot := some event.slot, nickname := some event.nickname, effect := some event.moveId
          annotations := event.annotations }
  | .movePrevented event =>
      recordEvidence s
        { eventIndex := event.eventIndex, kind := "move_prevented", sideId := some event.sideId
          slot := some event.slot, nickname := some event.nickname, effect := some event.reason
          annotations := event.moveId.toList }
  | .formChanged event =>
      recordEffect s event.eventIndex "form" event.sideId event.slot event.nickname event.value
  | .pokemonTransformed event =>
      recordEffect s event.eventIndex "transform" event.sideId event.slot event.nickname
        event.targetNickname
  | .terastallized event =>
      recordEffect s event.eventIndex "tera" event.sideId event.slot event.nickname event.teraType
  | .weatherChanged event =>
      { s with weather := if event.action = "end" then none else event.weather }
  | .fieldConditionChanged event => reduceFieldConditionChanged s event
  | .visibleEvidence event => recordEvidence s event
  | .ignoredDisplayEvent _ => { s with ignoredDisplayCount := s.ignoredDisplayCount + 1 }
  | _ => s

/-- Whatever `x` returns is `t`, up to the sides. -/
def Beside (t : ObservedState) (x : Except PyException ObservedState) : Prop :=
  ∀ s', x = .ok s' → s' = t.withSides s'

section Beside

variable {s t : ObservedState}

theorem Beside.bind {α : Type} {x : Except PyException α}
    {f : α → Except PyException ObservedState} (h : ∀ a, x = .ok a → Beside t (f a)) :
    Beside t (x >>= f) := by
  intro s' hs'
  obtain ⟨a, ha, hf⟩ := bind_eq_ok.mp hs'
  exact h a ha s' hf

theorem Beside.error {e : PyException} : Beside t (.error e) := by
  intro s' hs'
  cases hs'

theorem Beside.ok (h : s = t.withSides s) : Beside t (.ok s) := by
  intro s' hs'
  cases hs'
  exact h

theorem Beside.update {side : SideView} (h : s = t.withSides s) :
    Beside t (updateSide s side) := by
  unfold updateSide
  split_ifs
  · intro s' hs'
    cases hs'
    rw [h]
    rfl
  · intro s' hs'
    cases hs'
    rw [h]
    rfl
  · exact .error

theorem Beside.updateActive {sideId nickname context : String}
    {update : PokemonView → Except PyException PokemonView} :
    Beside s (updateActive s sideId nickname context update) :=
  .bind fun _ _ => .bind fun _ _ => .bind fun _ _ => .update rfl

/-- Recording evidence of a state that is `s` up to the sides. -/
theorem Beside.record {x : Except PyException ObservedState} {evidence : VisibleEvidence}
    (hx : Beside s x) :
    Beside (recordEvidence s evidence) (x >>= fun t => pure (recordEvidence t evidence)) := by
  refine .bind fun t ht => .ok ?_
  rw [hx t ht]
  rfl

theorem reduceHealthChanged_beside (event : HealthChanged) :
    Beside s (reduceHealthChanged s event) :=
  .bind fun _ _ => .bind fun _ _ => .bind fun _ _ => .update rfl

theorem revealMove_beside (side : SideView) (entry : RosterEntry) (moveId : String) :
    Beside s (revealMove s side entry moveId) := by
  unfold revealMove
  split_ifs
  · exact .ok rfl
  · exact .update rfl

theorem reduceMoveUsed_beside (event : MoveUsed) :
    Beside (effectBeside s (.moveUsed event)) (reduceMoveUsed s event) :=
  .bind fun _ _ => .bind fun _ _ => .record (revealMove_beside _ _ _)

theorem reduceBoostsCleared_beside (event : BoostsCleared) :
    Beside s (reduceBoostsCleared s event) := by
  unfold reduceBoostsCleared
  split
  · exact .bind fun _ _ => .bind fun _ _ => .ok rfl
  · exact .bind fun _ _ => .bind fun _ _ => .bind fun _ _ => .bind fun _ _ => .update rfl

theorem reduceBoostsSwapped_beside (event : BoostsSwapped) :
    Beside s (reduceBoostsSwapped s event) := by
  refine .bind fun _ _ => .bind fun _ _ => .bind fun _ _ => .bind fun _ _ => .bind fun _ _ => ?_
  dsimp only
  split_ifs
  · exact .update rfl
  · refine .bind fun t ht => .bind fun _ _ => .update ?_
    exact Beside.update (s := s) rfl t ht

theorem reduceVolatileChanged_beside (event : VolatileChanged) :
    Beside s (reduceVolatileChanged s event) := by
  refine .bind fun _ _ => .bind fun _ _ => ?_
  split_ifs
  · exact .ok rfl
  · exact .update rfl
  · exact .update rfl
  · exact .ok rfl

theorem reduceIdentityChanged_beside (event : IdentityChanged) :
    Beside s (reduceIdentityChanged s event) := by
  refine .bind fun _ _ => ?_
  split
  · exact .error
  · exact .bind fun _ _ => .update rfl

/-- Up to the sides, an accepted event leads to `effectBeside`. -/
theorem reduceEvent_beside (event : BattleEvent) :
    Beside (effectBeside s event) (reduceEvent s event) := by
  cases event with
  | playerDeclared event => exact .bind fun _ _ => .update rfl
  | teamSizeDeclared event => exact .bind fun _ _ => .update rfl
  | previewPokemonDeclared event => exact .bind fun _ _ => .update rfl
  | pokemonSwitched event => exact .bind fun _ _ => .bind fun _ _ => .update rfl
  | pokemonDragged event => exact .bind fun _ _ => .bind fun _ _ => .update rfl
  | moveUsed event => exact reduceMoveUsed_beside event
  | healthChanged event => exact reduceHealthChanged_beside event
  | teamStatusCured event => exact .bind fun _ _ => .update rfl
  | boostsSwapped event => exact reduceBoostsSwapped_beside event
  | boostsCopied event =>
    exact .bind fun _ _ => .bind fun _ _ => .bind fun _ _ => .bind fun _ _ => .bind fun _ _ =>
      .update rfl
  | boostsCleared event => exact reduceBoostsCleared_beside event
  | identityChanged event => exact reduceIdentityChanged_beside event
  | formChanged event => exact .record .updateActive
  | pokemonTransformed event => exact .record .updateActive
  | terastallized event => exact .record .updateActive
  | volatileChanged event => exact reduceVolatileChanged_beside event
  | weatherChanged event =>
    simp only [reduceEvent, effectBeside]
    split_ifs <;> exact .ok rfl
  | fieldConditionChanged event => exact .ok rfl
  | sideConditionChanged event => exact .bind fun _ _ => .update rfl
  | other eventIndex className => exact .error
  | pokemonFainted event =>
    simp only [reduceEvent, effectBeside]
    exact .updateActive
  | statusChanged event =>
    simp only [reduceEvent, effectBeside]
    exact .updateActive
  | boostChanged event =>
    simp only [reduceEvent, effectBeside]
    exact .updateActive
  | boostsInverted event =>
    simp only [reduceEvent, effectBeside]
    exact .updateActive
  | itemChanged event =>
    simp only [reduceEvent, effectBeside]
    exact .updateActive
  | abilityChanged event =>
    simp only [reduceEvent, effectBeside]
    exact .updateActive
  | rechargeChanged event =>
    simp only [reduceEvent, effectBeside]
    exact .updateActive
  | _ => exact .ok rfl

end Beside

/-- What an accepted event makes of the state beside its sides. -/
theorem reduce_beside {s s' : ObservedState} {event : BattleEvent} (h : reduce s event = .ok s') :
    s' = (effectBeside { s with eventIndex := event.eventIndex } event).withSides s' :=
  reduceEvent_beside event s' (reduce_eq_ok.mp h).2

/-! ## §2 Frames -/

/-- The events that are about one pokemon: its side, and the nickname that they name it by. An
identity change names the pokemon that the active one turns out to be. -/
def BattleEvent.subject : BattleEvent → Option (String × Option String)
  | .pokemonFainted event => some (event.sideId, some event.nickname)
  | .moveUsed event => some (event.sideId, some event.nickname)
  | .healthChanged event => some (event.sideId, some event.nickname)
  | .statusChanged event => some (event.sideId, some event.nickname)
  | .boostChanged event => some (event.sideId, some event.nickname)
  | .boostsCopied event => some (event.sideId, some event.nickname)
  | .boostsCleared event => event.sideId.map fun sideId => (sideId, event.nickname)
  | .boostsInverted event => some (event.sideId, some event.nickname)
  | .itemChanged event => some (event.sideId, some event.nickname)
  | .abilityChanged event => some (event.sideId, some event.nickname)
  | .identityChanged event => some (event.sideId, none)
  | .formChanged event => some (event.sideId, some event.nickname)
  | .pokemonTransformed event => some (event.sideId, some event.nickname)
  | .terastallized event => some (event.sideId, some event.nickname)
  | .volatileChanged event => some (event.sideId, some event.nickname)
  | .rechargeChanged event => some (event.sideId, some event.nickname)
  | _ => none

/-- A switch or drag: the side, and the nickname and details of who enters. -/
def BattleEvent.entrance : BattleEvent → Option (String × String × String)
  | .pokemonSwitched event => some (event.sideId, event.nickname, event.details)
  | .pokemonDragged event => some (event.sideId, event.nickname, event.details)
  | _ => none

/-- The events about side conditions and about the team preview. -/
def BattleEvent.AboutSides : BattleEvent → Prop
  | .sideConditionChanged _ => True
  | .sideConditionsSwapped _ => True
  | .previewPokemonDeclared _ => True
  | .previewCleared _ => True
  | .teamPreviewStarted _ => True
  | _ => False

/-- The conditions, the previewed roster and the player data of a side are as they were. -/
structure SideKept (side side' : SideView) : Prop where
  sideId : side'.sideId = side.sideId
  userId : side'.userId = side.userId
  displayName : side'.displayName = side.displayName
  teamSize : side'.teamSize = side.teamSize
  previewRoster : side'.previewRoster = side.previewRoster
  sideConditions : side'.sideConditions = side.sideConditions

/-- Nothing changes but the entries of the side at `i` whose positions are `touched`. -/
structure FrameAround (s s' : ObservedState) (i : SideRef) (touched : Nat → Prop) : Prop where
  entries : ∀ j n, ¬(j = i ∧ touched n) →
    (s'.sideAt j).pokemon[n]? = (s.sideAt j).pokemon[n]?
  sides : ∀ j, SideKept (s.sideAt j) (s'.sideAt j)
  weather : s'.weather = s.weather
  fieldConditions : s'.fieldConditions = s.fieldConditions

/-- The pokemon at position `n` of the side at `i` is the one that an event about `nickname` means:
the active one, or, for an identifier without a position, one that lies fainted on the bench. -/
structure IsSubject (s : ObservedState) (event : BattleEvent) (nickname : Option String)
    (i : SideRef) (n : Nat) : Prop where
  here : ∃ pv, (s.sideAt i).pokemon[n]? = some pv ∧
    (∀ name, nickname = some name → pv.nickname = name) ∧
    (pv.active = true ∨ ∃ health, event = .healthChanged health ∧ health.slot = none ∧
      pv.active = false ∧ pv.fainted = true)

/-- The event rewrites its subject, and nothing else on either side. -/
def RewritesSubject (s s' : ObservedState) (event : BattleEvent) (sideId : String)
    (nickname : Option String) : Prop :=
  ∃ i entry updated, sideId = SideRef.id i ∧ IsSubject s event nickname i entry.position ∧
    ∀ j, s'.sideAt j = (s.putSide (replacePokemon (s.sideAt i) entry updated) i).sideAt j

section Subjects

variable {s s' t : ObservedState} {event : BattleEvent}

theorem rewritesSubject_active {i : SideRef} {entry : RosterEntry} {nickname : Option String}
    (updated : PokemonView) (hfind : findActive (s.sideAt i) = some entry)
    (hname : ∀ name, nickname = some name → entry.view.nickname = name)
    (hsides : ∀ j, s'.sideAt j =
      (s.putSide (replacePokemon (s.sideAt i) entry updated) i).sideAt j) :
    RewritesSubject s s' event i.id nickname := by
  obtain ⟨hget, hactive⟩ := findActive_eq_some hfind
  exact ⟨i, entry, updated, rfl, ⟨entry.view, hget, hname, .inl hactive⟩, hsides⟩

theorem rewritesSubject_updateActive {sideId nickname context : String}
    {update : PokemonView → Except PyException PokemonView} (hsided : s.WellSided)
    (h : updateActive s sideId nickname context update = .ok t)
    (hsides : ∀ j, s'.sideAt j = t.sideAt j) :
    RewritesSubject s s' event sideId (some nickname) := by
  obtain ⟨i, entry, updated, rfl, hfind, hnick, -, rfl⟩ := updateActive_eq_ok hsided h
  exact rewritesSubject_active updated hfind (fun _ hn => hnick.trans (Option.some.inj hn)) hsides

/-- Every event with a subject rewrites that alone. -/
theorem reduceEvent_rewritesSubject {sideId : String} {nickname : Option String}
    (hsided : s.WellSided) (h : reduceEvent s event = .ok s')
    (hsubject : event.subject = some (sideId, nickname)) :
    RewritesSubject s s' event sideId nickname := by
  cases event with
  | healthChanged event =>
    cases hsubject
    obtain ⟨i, entry, hp, hi, hentry, -, rfl⟩ := reduceHealthChanged_eq_ok hsided h
    obtain ⟨htarget, hnick⟩ := requireHealthTarget_eq_ok hentry
    rcases htarget with hfind | ⟨hget, hinactive, hslot, hfainted⟩
    · rw [hi]
      exact rewritesSubject_active _ hfind (fun _ hn => hnick.trans (Option.some.inj hn))
        fun _ => rfl
    · refine ⟨i, entry, _, hi, ⟨entry.view, hget, fun _ hn => ?_, .inr ?_⟩, fun _ => rfl⟩
      · exact hnick.trans (Option.some.inj hn)
      · exact ⟨event, rfl, hslot, hinactive, hfainted⟩
  | moveUsed event =>
    cases hsubject
    obtain ⟨i, entry, evidence, hi, hfind, hnick, rfl⟩ := reduceMoveUsed_eq_ok hsided h
    rw [hi]
    exact rewritesSubject_active _ hfind (fun _ hn => hnick.trans (Option.some.inj hn))
      fun _ => sideAt_recordEvidence ..
  | identityChanged event =>
    cases hsubject
    obtain ⟨i, entry, hp, hi, hfind, -, rfl⟩ := reduceIdentityChanged_eq_ok hsided h
    rw [hi]
    exact rewritesSubject_active _ hfind nofun fun _ => rfl
  | volatileChanged event =>
    cases hsubject
    obtain ⟨i, entry, hi, hfind, hnick, rfl⟩ := reduceVolatileChanged_eq_ok hsided h
    rw [hi]
    exact rewritesSubject_active _ hfind (fun _ hn => hnick.trans (Option.some.inj hn))
      fun _ => rfl
  | boostsCopied event =>
    cases hsubject
    obtain ⟨-, -, i, entry, values, -, hi, hfind, hnick, -, rfl⟩ :=
      reduceBoostsCopied_eq_ok hsided h
    rw [hi]
    exact rewritesSubject_active _ hfind (fun _ hn => hnick.trans (Option.some.inj hn))
      fun _ => rfl
  | boostsCleared event =>
    obtain ⟨target, htarget, heq⟩ := Option.map_eq_some_iff.mp hsubject
    cases heq
    obtain ⟨i, entry, values, hi, hfind, hnick, -, rfl⟩ :=
      reduceBoostsCleared_eq_ok hsided htarget h
    rw [hi]
    exact rewritesSubject_active _ hfind
      (fun _ hn => Option.some.inj (hnick.symm.trans hn)) fun _ => rfl
  | formChanged event =>
    cases hsubject
    obtain ⟨t, ht, hs'⟩ := bind_eq_ok.mp h
    cases hs'
    exact rewritesSubject_updateActive hsided ht fun _ => sideAt_recordEffect ..
  | pokemonTransformed event =>
    cases hsubject
    obtain ⟨t, ht, hs'⟩ := bind_eq_ok.mp h
    cases hs'
    exact rewritesSubject_updateActive hsided ht fun _ => sideAt_recordEffect ..
  | terastallized event =>
    cases hsubject
    obtain ⟨t, ht, hs'⟩ := bind_eq_ok.mp h
    cases hs'
    exact rewritesSubject_updateActive hsided ht fun _ => sideAt_recordEffect ..
  | pokemonFainted event =>
    cases hsubject
    simp only [reduceEvent] at h
    exact rewritesSubject_updateActive hsided h fun _ => rfl
  | statusChanged event =>
    cases hsubject
    simp only [reduceEvent] at h
    exact rewritesSubject_updateActive hsided h fun _ => rfl
  | boostChanged event =>
    cases hsubject
    simp only [reduceEvent] at h
    exact rewritesSubject_updateActive hsided h fun _ => rfl
  | boostsInverted event =>
    cases hsubject
    simp only [reduceEvent] at h
    exact rewritesSubject_updateActive hsided h fun _ => rfl
  | itemChanged event =>
    cases hsubject
    simp only [reduceEvent] at h
    exact rewritesSubject_updateActive hsided h fun _ => rfl
  | abilityChanged event =>
    cases hsubject
    simp only [reduceEvent] at h
    exact rewritesSubject_updateActive hsided h fun _ => rfl
  | rechargeChanged event =>
    cases hsubject
    simp only [reduceEvent] at h
    exact rewritesSubject_updateActive hsided h fun _ => rfl
  | _ => cases hsubject

end Subjects

/-! ## §3 Switches -/

/-- The positions that a switch may touch: that of the active pokemon, and that of who enters. -/
def SwitchPositions (side : SideView) (entered n : Nat) : Prop :=
  n = entered ∨ ∃ entry, findActive side = some entry ∧ n = entry.position

/-- Who stands at position `n` of the side after the switch is the pokemon that the line names. -/
def EnteredAt (side : SideView) (nickname details : String) (n : Nat) : Prop :=
  ∃ pv, side.pokemon[n]? = some pv ∧ pv.active = true ∧ pv.nickname = nickname ∧
    pv.switchIdentity = normalizeIdentityDetails details

theorem deactivate_of_inactive {pv : PokemonView} (h : pv.active = false) (ei : Int) :
    deactivate pv ei = pv := by
  rw [deactivate, h]
  exact if_neg Bool.false_ne_true

/-- Nobody but the active pokemon is changed by taking the field away from a side. -/
theorem getElem?_map_deactivate {side : SideView}
    (hflags : FieldFlags (activeFlags side.pokemon) side.activeSlot) (ei : Int) {n : Nat}
    (hn : ∀ entry, findActive side = some entry → n ≠ entry.position) :
    (side.pokemon.map (deactivate · ei))[n]? = side.pokemon[n]? := by
  rw [List.getElem?_map]
  cases hget : side.pokemon[n]? with
  | none => rfl
  | some pv =>
    rw [Option.map_some, deactivate_of_inactive]
    by_contra hactive
    rw [Bool.not_eq_false] at hactive
    cases hfind : findActive side with
    | none =>
      rw [findActive_eq_none.mp hfind pv (List.mem_of_getElem? hget)] at hactive
      cases hactive
    | some entry =>
      obtain ⟨hentry, hentryActive⟩ := findActive_eq_some hfind
      exact hn entry hfind (hflags.same_position hget hentry hactive hentryActive)

/-- A switch enters one pokemon, and touches besides only the one that was active. -/
theorem activatePokemon_entries {side : SideView}
    (hflags : FieldFlags (activeFlags side.pokemon) side.activeSlot)
    (nickname details : String) (hp : HpObservation) (status : Option String) (ei : Int) :
    ∃ entered,
      EnteredAt (activatePokemon side nickname details hp status ei) nickname details entered ∧
      ∀ n, ¬SwitchPositions side entered n →
        (activatePokemon side nickname details hp status ei).pokemon[n]? = side.pokemon[n]? := by
  unfold EnteredAt
  rw [activatePokemon_pokemon]
  have hrest : ∀ entered n, ¬SwitchPositions side entered n →
      (side.pokemon.map (deactivate · ei))[n]? = side.pokemon[n]? := fun entered n hn =>
    getElem?_map_deactivate hflags ei fun entry hfind heq => hn (.inr ⟨entry, hfind, heq⟩)
  cases hfind : findForSwitchIn (side.pokemon.map (deactivate · ei)) nickname details with
  | none =>
    dsimp only
    have hlength : (side.pokemon.map (deactivate · ei)).length = side.pokemon.length :=
      List.length_map ..
    refine ⟨side.pokemon.length,
      ⟨newcomer side.sideId nickname details hp status, ?_, rfl, ?_⟩, fun n hn => ?_⟩
    · rw [← hlength]
      exact List.getElem?_concat_length
    · exact Prod.mk.inj (identityKey_newcomer side.sideId nickname details hp status)
    · have hne : n ≠ side.pokemon.length := fun heq => hn (.inl heq)
      rw [← hrest _ n hn]
      rcases Nat.lt_or_gt_of_ne hne with hlt | hgt
      · exact List.getElem?_append_left (by rwa [hlength])
      · rw [List.getElem?_eq_none, List.getElem?_eq_none]
        · rw [hlength]
          omega
        · rw [List.length_append, hlength]
          exact hgt
  | some existing =>
    dsimp only
    obtain ⟨hget, hnick, hidentity⟩ := findForSwitchIn_eq_some hfind
    obtain ⟨hlt, -⟩ := List.getElem?_eq_some_iff.mp hget
    have hentered : ((side.pokemon.map (deactivate · ei)).set existing.position
        (reenter existing.view details hp status))[existing.position]? =
          some (reenter existing.view details hp status) := List.getElem?_set_self hlt
    refine ⟨existing.position, ⟨_, hentered, rfl, hnick, hidentity⟩, fun n hn => ?_⟩
    have hne : existing.position ≠ n := fun heq => hn (.inl heq.symm)
    rw [List.getElem?_set_ne hne, hrest _ n hn]

/-! ## §4 The frame of an event -/

/-- Putting another index into a state does not touch its sides. -/
theorem sideAt_stamp (s : ObservedState) (ei : Int) (i : SideRef) :
    ObservedState.sideAt { s with eventIndex := ei } i = s.sideAt i := by
  cases i <;> rfl

theorem wellSided_stamp {s : ObservedState} (h : s.WellSided) (ei : Int) :
    ObservedState.WellSided { s with eventIndex := ei } := by
  intro i
  rw [sideAt_stamp]
  exact h i

theorem SideKept.refl (side : SideView) : SideKept side side := ⟨rfl, rfl, rfl, rfl, rfl, rfl⟩

/-- Of what lies beside the sides, only a weather line changes the weather, and only a field line
the field conditions. -/
theorem field_effectBeside (s : ObservedState) {event : BattleEvent}
    (hweather : ∀ change, event ≠ .weatherChanged change)
    (hfield : ∀ change, event ≠ .fieldConditionChanged change) :
    (effectBeside s event).weather = s.weather ∧
      (effectBeside s event).fieldConditions = s.fieldConditions := by
  cases event with
  | weatherChanged change => exact absurd rfl (hweather change)
  | fieldConditionChanged change => exact absurd rfl (hfield change)
  | _ => exact ⟨rfl, rfl⟩

theorem field_kept {s s' : ObservedState} {event : BattleEvent} (h : reduce s event = .ok s')
    (hweather : ∀ change, event ≠ .weatherChanged change)
    (hfield : ∀ change, event ≠ .fieldConditionChanged change) :
    s'.weather = s.weather ∧ s'.fieldConditions = s.fieldConditions := by
  obtain ⟨hw, hf⟩ := field_effectBeside { s with eventIndex := event.eventIndex } hweather hfield
  rw [reduce_beside h]
  exact ⟨hw, hf⟩

/-- An event with a subject keeps everything around it. -/
theorem subject_frame {s s' : ObservedState} {event : BattleEvent} {sideId : String}
    {nickname : Option String} (hsided : s.WellSided) (h : reduce s event = .ok s')
    (hsubject : event.subject = some (sideId, nickname)) :
    ∃ i n, sideId = SideRef.id i ∧ IsSubject s event nickname i n ∧
      (∀ j, (s'.sideAt j).pokemon.length = (s.sideAt j).pokemon.length) ∧
      (∀ j, (s'.sideAt j).activeSlot = (s.sideAt j).activeSlot) ∧
      FrameAround s s' i (· = n) := by
  obtain ⟨i, entry, updated, hi, hsubjectHere, hsides⟩ := reduceEvent_rewritesSubject
    (wellSided_stamp hsided event.eventIndex) (reduce_eq_ok.mp h).2 hsubject
  have hside : ∀ j, s'.sideAt j =
      (s.putSide (replacePokemon (s.sideAt i) entry updated) i).sideAt j := by
    intro j
    rw [hsides j, sideAt_stamp]
    cases i <;> cases j <;> rfl
  obtain ⟨hweather, hfield⟩ := field_kept h (fun change heq => by rw [heq] at hsubject; cases hsubject)
    (fun change heq => by rw [heq] at hsubject; cases hsubject)
  refine ⟨i, entry.position, hi, ?_, fun j => ?_, fun j => ?_, ?_, fun j => ?_, hweather, hfield⟩
  · obtain ⟨hhere⟩ := hsubjectHere
    rw [sideAt_stamp] at hhere
    exact ⟨hhere⟩
  · rw [hside j]
    by_cases hij : j = i
    · rw [hij, ObservedState.sideAt_putSide_self]
      exact List.length_set ..
    · rw [ObservedState.sideAt_putSide_of_ne _ _ hij]
  · rw [hside j]
    by_cases hij : j = i
    · rw [hij, ObservedState.sideAt_putSide_self]
      rfl
    · rw [ObservedState.sideAt_putSide_of_ne _ _ hij]
  · intro j n hn
    rw [hside j]
    by_cases hij : j = i
    · have hne : entry.position ≠ n := fun heq => hn ⟨hij, heq.symm⟩
      rw [hij, ObservedState.sideAt_putSide_self]
      exact List.getElem?_set_ne hne
    · rw [ObservedState.sideAt_putSide_of_ne _ _ hij]
  · rw [hside j]
    by_cases hij : j = i
    · rw [hij, ObservedState.sideAt_putSide_self]
      exact ⟨rfl, rfl, rfl, rfl, rfl, rfl⟩
    · rw [ObservedState.sideAt_putSide_of_ne _ _ hij]
      exact .refl _

theorem sideKept_activatePokemon (side : SideView) (nickname details : String)
    (hp : HpObservation) (status : Option String) (ei : Int) :
    SideKept side (activatePokemon side nickname details hp status ei) := by
  unfold activatePokemon
  dsimp only
  split <;> exact ⟨rfl, rfl, rfl, rfl, rfl, rfl⟩

/-- What a switch or drag does to the sides. -/
theorem reduce_entrance {s s' : ObservedState} {event : BattleEvent}
    {sideId nickname details : String} (hsided : s.WellSided) (h : reduce s event = .ok s')
    (hentrance : event.entrance = some (sideId, nickname, details)) :
    ∃ i hp status, sideId = SideRef.id i ∧
      s'.sideAt i = activatePokemon (s.sideAt i) nickname details hp status event.eventIndex ∧
      ∀ j, j ≠ i → s'.sideAt j = s.sideAt j := by
  have hswitch : ∃ token, reduceSwitch { s with eventIndex := event.eventIndex } sideId nickname
      details token event.eventIndex = .ok s' := by
    have hevent := (reduce_eq_ok.mp h).2
    cases event with
    | pokemonSwitched event =>
      cases hentrance
      simp only [reduceEvent] at hevent
      exact ⟨event.hp, hevent⟩
    | pokemonDragged event =>
      cases hentrance
      simp only [reduceEvent] at hevent
      exact ⟨event.hp, hevent⟩
    | _ => cases hentrance
  obtain ⟨token, hswitch⟩ := hswitch
  obtain ⟨i, hp, hi, -, rfl⟩ := reduceSwitch_eq_ok (wellSided_stamp hsided _) hswitch
  refine ⟨i, hp, token.status, hi, ?_, fun j hij => ?_⟩
  · rw [ObservedState.sideAt_putSide_self, sideAt_stamp]
  · rw [ObservedState.sideAt_putSide_of_ne _ _ hij, sideAt_stamp]

/-- A switch or drag keeps everything but the two entries that it is about. -/
theorem entrance_frame {s s' : ObservedState} {event : BattleEvent}
    {sideId nickname details : String} (hsided : s.WellSided) (hflags : FieldInvariant s)
    (h : reduce s event = .ok s') (hentrance : event.entrance = some (sideId, nickname, details)) :
    ∃ i entered, sideId = SideRef.id i ∧ EnteredAt (s'.sideAt i) nickname details entered ∧
      FrameAround s s' i (SwitchPositions (s.sideAt i) entered) := by
  obtain ⟨hweather, hfield⟩ := field_kept h
    (fun change heq => by rw [heq] at hentrance; cases hentrance)
    (fun change heq => by rw [heq] at hentrance; cases hentrance)
  obtain ⟨i, hp, status, hi, hthis, hother⟩ := reduce_entrance hsided h hentrance
  obtain ⟨entered, hentered, hrest⟩ :=
    activatePokemon_entries (hflags i) nickname details hp status event.eventIndex
  refine ⟨i, entered, hi, hthis ▸ hentered, fun j n hn => ?_, fun j => ?_, hweather, hfield⟩
  · by_cases hij : j = i
    · subst hij
      rw [hthis]
      exact hrest n fun htouched => hn ⟨rfl, htouched⟩
    · rw [hother j hij]
  · by_cases hij : j = i
    · subst hij
      rw [hthis]
      exact sideKept_activatePokemon ..
    · rw [hother j hij]
      exact .refl _

/-- Storing a side with the roster it had leaves both rosters alone. -/
theorem pokemon_of_updateSide {s s' : ObservedState} {side : SideView} {j : SideRef}
    (h : updateSide s side = .ok s') (hid : side.sideId = j.id)
    (hpokemon : side.pokemon = (s.sideAt j).pokemon) (i : SideRef) :
    (s'.sideAt i).pokemon = (s.sideAt i).pokemon := by
  rw [updateSide_of_id hid] at h
  cases h
  by_cases hij : i = j
  · rw [hij, ObservedState.sideAt_putSide_self, hpokemon]
  · rw [ObservedState.sideAt_putSide_of_ne _ _ hij]

/-- Events about the sides themselves touch no pokemon. -/
theorem aboutSides_frame {s s' : ObservedState} {event : BattleEvent} (hsided : s.WellSided)
    (h : reduce s event = .ok s') (habout : event.AboutSides) (i : SideRef) :
    (s'.sideAt i).pokemon = (s.sideAt i).pokemon := by
  have hevent := (reduce_eq_ok.mp h).2
  rw [← sideAt_stamp s event.eventIndex i]
  cases event with
  | sideConditionChanged event =>
    obtain ⟨side, hside, hput⟩ := bind_eq_ok.mp hevent
    obtain ⟨j, -, rfl⟩ := side_eq_ok hside
    exact pokemon_of_updateSide hput (wellSided_stamp hsided _ j) rfl i
  | sideConditionsSwapped event =>
    cases hevent
    cases i <;> rfl
  | previewPokemonDeclared event =>
    obtain ⟨side, hside, hput⟩ := bind_eq_ok.mp hevent
    obtain ⟨j, -, rfl⟩ := side_eq_ok hside
    exact pokemon_of_updateSide hput (wellSided_stamp hsided _ j) rfl i
  | previewCleared event =>
    cases hevent
    cases i <;> rfl
  | teamPreviewStarted event =>
    cases hevent
    cases i <;> rfl
  | _ => cases habout

/-- **Event frame.** In every reachable state: an accepted event about one pokemon touches no entry
but that of the pokemon it means; a switch or drag touches only who enters and who was active; an
event about side conditions or the preview touches no entry. The first two kinds leave the
conditions, the previewed roster and the player data of both sides, the weather and the field
conditions as they are, and the first the number of entries too. -/
theorem event_frame {ourUserId : String} {events : List BattleEvent} {s s' : ObservedState}
    {event : BattleEvent} (hrun : RunsTo reduce (ObservedState.initial ourUserId) events s)
    (h : reduce s event = .ok s') :
    (∀ sideId nickname, event.subject = some (sideId, nickname) →
      ∃ i n, sideId = SideRef.id i ∧ IsSubject s event nickname i n ∧
        (∀ j, (s'.sideAt j).pokemon.length = (s.sideAt j).pokemon.length) ∧
        (∀ j, (s'.sideAt j).activeSlot = (s.sideAt j).activeSlot) ∧
        FrameAround s s' i (· = n)) ∧
    (∀ sideId nickname details, event.entrance = some (sideId, nickname, details) →
      ∃ i entered, sideId = SideRef.id i ∧ EnteredAt (s'.sideAt i) nickname details entered ∧
        FrameAround s s' i (SwitchPositions (s.sideAt i) entered)) ∧
    (event.AboutSides → ∀ i, (s'.sideAt i).pokemon = (s.sideAt i).pokemon) := by
  have hsided := (soundState_run hrun).sided
  refine ⟨fun sideId nickname hsubject => ?_, fun sideId nickname details hentrance => ?_, ?_⟩
  · exact subject_frame hsided h hsubject
  · exact entrance_frame hsided (fieldInvariant_run hrun) h hentrance
  · exact aboutSides_frame hsided h

/-- The one that came in for Scizor is hit, and Scizor's entry is left alone. -/
theorem event_frame_hit :
    ∃ s s', RunsTo reduce (ObservedState.initial "ash") boostedOut s ∧
      reduce s (.healthChanged ⟨4, "p1", some 1, "Rotom", ⟨60, 100, none, false⟩, []⟩) = .ok s' ∧
      FrameAround s s' .p1 (· = 1) := by
  obtain ⟨s, s', hrun, hstep, hnames⟩ : ∃ s s',
      RunsTo reduce (ObservedState.initial "ash") boostedOut s ∧
      reduce s (.healthChanged ⟨4, "p1", some 1, "Rotom", ⟨60, 100, none, false⟩, []⟩) = .ok s' ∧
      s.p1.pokemon.map (fun pv => pv.nickname) = ["Scizor", "Rotom"] := ⟨_, _, rfl, rfl, rfl⟩
  obtain ⟨i, n, hi, ⟨pv, hget, hname, -⟩, -, -, hframe⟩ :=
    (event_frame hrun hstep).1 "p1" (some "Rotom") rfl
  obtain rfl : SideRef.p1 = i := SideRef.id_injective hi
  have hn : (["Scizor", "Rotom"] : List String)[n]? = some "Rotom" := by
    rw [← hnames, List.getElem?_map]
    exact hname "Rotom" rfl ▸ congrArg (Option.map fun pv => pv.nickname) hget
  obtain rfl : n = 1 := by
    match n, hn with
    | 1, _ => rfl
  exact ⟨s, s', hrun, hstep, hframe⟩

end BattleBelief
