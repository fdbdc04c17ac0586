import BattleBelief.Observation.Branches

/-!
# The Reducer Takes Side Steps

Every branch of the reducer is one of the steps that `SideStep` lists, on each side of the
battle. `reduce_step` collects what holds of every accepted event: the event index grows, the
sides stay in place, and each side takes such a step.
-/

namespace BattleBelief

open Runs

/-! ## §1 The reducer takes side steps -/

@[simp] theorem sideAt_recordEvidence (s : ObservedState) (evidence : VisibleEvidence)
    (i : SideRef) : (recordEvidence s evidence).sideAt i = s.sideAt i := by
  cases i <;> rfl

@[simp] theorem sideAt_recordEffect (s : ObservedState) (ei : Int) (kind sideId : String)
    (slot : Int) (nickname effect : String) (i : SideRef) :
    (recordEffect s ei kind sideId slot nickname effect).sideAt i = s.sideAt i :=
  sideAt_recordEvidence s _ i

theorem Edits.rosterSide {ourSide : Option String} {event : BattleEvent} {sideId : String}
    {edit : EntryEdit} (h : Edits ourSide event sideId edit) :
    event.rosterSide = some sideId := by
  cases h <;> simp_all [BattleEvent.rosterSide]

section SideSteps

variable {s s' : ObservedState} {event : BattleEvent}

/-- An event that leaves both rosters alone. -/
theorem keepSides (hevent : event.rosterSide = none)
    (hkeep : ∀ i, (s'.sideAt i).pokemon = (s.sideAt i).pokemon ∧
      (s'.sideAt i).activeSlot = (s.sideAt i).activeSlot) (i : SideRef) :
    SideStep s event i s' :=
  .keep (by simp [hevent]) (hkeep i).1 (hkeep i).2

/-- The same, where the sides are not touched at all. -/
theorem keepStates (hevent : event.rosterSide = none) (hp1 : s'.p1 = s.p1) (hp2 : s'.p2 = s.p2)
    (i : SideRef) : SideStep s event i s' := by
  refine keepSides hevent (fun k => ?_) i
  cases k
  · rw [ObservedState.sideAt_p1, ObservedState.sideAt_p1, hp1]
    exact ⟨rfl, rfl⟩
  · rw [ObservedState.sideAt_p2, ObservedState.sideAt_p2, hp2]
    exact ⟨rfl, rfl⟩

/-- An event that rewrites the side at `j` leaves the other one alone. -/
theorem keepOther {i j : SideRef} (hevent : event.rosterSide = some j.id) (hij : i ≠ j)
    (hsame : s'.sideAt i = s.sideAt i) : SideStep s event i s' := by
  refine .keep ?_ (by rw [hsame]) (by rw [hsame])
  rw [hevent]
  exact fun heq => hij (SideRef.id_injective (Option.some.inj heq)).symm

/-- An event that edits the active pokemon of the side at `j`. -/
theorem editSides {j : SideRef} {entry : RosterEntry} (edit : EntryEdit)
    (hfind : findActive (s.sideAt j) = some entry) (hedit : Edits s.ourSide event j.id edit)
    (hnickname : ∀ nickname, event.editedNickname = some nickname →
      entry.view.nickname = nickname)
    (hresult : ∀ i, s'.sideAt i =
      (s.putSide (replacePokemon (s.sideAt j) entry
        (edit.apply event.eventIndex entry.view)) j).sideAt i) (i : SideRef) :
    SideStep s event i s' := by
  by_cases hij : i = j
  · subst hij
    refine .active entry edit hfind hedit hnickname ?_ ?_
    · rw [hresult, ObservedState.sideAt_putSide_self]
      rfl
    · rw [hresult, ObservedState.sideAt_putSide_self]
      rfl
  · refine keepOther hedit.rosterSide hij ?_
    rw [hresult, ObservedState.sideAt_putSide_of_ne _ _ hij]

/-- The shape of the branches that go through `updateActive` and then record evidence. -/
theorem updateActive_sideSteps {t : ObservedState} {sideId nickname context : String}
    {update : PokemonView → Except PyException PokemonView} (hsided : s.WellSided)
    (h : updateActive s sideId nickname context update = .ok t)
    (hnickname : event.editedNickname = some nickname)
    (hupdate : ∀ pv updated, update pv = .ok updated →
      ∃ edit : EntryEdit, Edits s.ourSide event sideId edit ∧
        updated = edit.apply event.eventIndex pv)
    (hresult : ∀ i, s'.sideAt i = t.sideAt i) (i : SideRef) : SideStep s event i s' := by
  obtain ⟨j, entry, updated, rfl, hfind, hnick, hupd, rfl⟩ := updateActive_eq_ok hsided h
  obtain ⟨edit, hedit, rfl⟩ := hupdate entry.view updated hupd
  refine editSides edit hfind hedit (fun n hn => ?_) hresult i
  rw [hnickname] at hn
  exact hnick.trans (Option.some.inj hn)

/-- An event that only replaces boosts: on each side none, or those of the active pokemon. -/
theorem boostSides (hevent : event.rosterSide = none)
    (hsides : ∀ i, s'.sideAt i = s.sideAt i ∨
      ∃ entry values, findActive (s.sideAt i) = some entry ∧
        ((∀ j, ∀ pv ∈ (s.sideAt j).pokemon, BoostsInRange pv.boosts) → BoostsInRange values) ∧
        s'.sideAt i =
          replacePokemon (s.sideAt i) entry { entry.view with boosts := values }) (i : SideRef) :
    SideStep s event i s' := by
  rcases hsides i with hsame | ⟨entry, values, hfind, hvalues, hside⟩
  · exact .keep (by simp [hevent]) (by rw [hsame]) (by rw [hsame])
  · exact .boosts entry values hevent hfind hvalues (by rw [hside]; rfl) (by rw [hside]; rfl)

end SideSteps

/-! ## §2 Completeness of the list of steps -/

section Branches

variable {s s' : ObservedState}

theorem switch_sideSteps (event : BattleEvent) {sideId nickname details : String}
    {token : HpToken} (hsided : s.WellSided)
    (hevent : (∃ slot, event =
        .pokemonSwitched ⟨event.eventIndex, sideId, slot, nickname, details, token⟩) ∨
      ∃ slot, event =
        .pokemonDragged ⟨event.eventIndex, sideId, slot, nickname, details, token⟩)
    (h : reduceSwitch s sideId nickname details token event.eventIndex = .ok s')
    (i : SideRef) : SideStep s event i s' := by
  obtain ⟨j, hp, rfl, hhp, rfl⟩ := reduceSwitch_eq_ok hsided h
  have hroster : event.rosterSide = some j.id := by
    rcases hevent with ⟨slot, hevent⟩ | ⟨slot, hevent⟩ <;> rw [hevent] <;> rfl
  by_cases hij : i = j
  · subst hij
    refine .activate nickname details token hp hevent hhp ?_ ?_
    · rw [ObservedState.sideAt_putSide_self]
    · rw [ObservedState.sideAt_putSide_self, activatePokemon_activeSlot]
  · exact keepOther hroster hij (ObservedState.sideAt_putSide_of_ne _ _ hij)

theorem healthChanged_sideSteps {event : HealthChanged} (hsided : s.WellSided)
    (h : reduceHealthChanged s event = .ok s') (i : SideRef) :
    SideStep s (.healthChanged event) i s' := by
  obtain ⟨j, entry, hp, hj, hentry, hhp, rfl⟩ := reduceHealthChanged_eq_ok hsided h
  obtain ⟨htarget, hnick⟩ := requireHealthTarget_eq_ok hentry
  rcases htarget with hfind | ⟨hposition, hinactive, -, -⟩
  · have hedit : Edits s.ourSide (.healthChanged event) j.id
        (.vitals hp event.hp.status event.hp.fainted) := hj ▸ .healthChanged event hp hhp
    refine editSides _ hfind hedit (fun n hn => ?_) (fun _ => rfl) i
    exact hnick.trans (Option.some.inj hn)
  · by_cases hij : i = j
    · subst hij
      refine .bench event entry hp rfl hj hposition hinactive hhp ?_ ?_
      · rw [ObservedState.sideAt_putSide_self]
        rfl
      · rw [ObservedState.sideAt_putSide_self]
        rfl
    · refine keepOther (j := j) ?_ hij (ObservedState.sideAt_putSide_of_ne _ _ hij)
      exact congrArg some hj

theorem identityChanged_sideSteps {event : IdentityChanged} (hsided : s.WellSided)
    (h : reduceIdentityChanged s event = .ok s') (i : SideRef) :
    SideStep s (.identityChanged event) i s' := by
  obtain ⟨j, entry, hp, hj, hfind, hhp, rfl⟩ := reduceIdentityChanged_eq_ok hsided h
  have hedit : Edits s.ourSide (.identityChanged event) j.id
      (.identity event.nickname event.details hp event.hp.status event.hp.fainted) :=
    hj ▸ .identityChanged event hp hhp
  exact editSides _ hfind hedit (fun _ hn => by cases hn) (fun _ => rfl) i

theorem moveUsed_sideSteps {event : MoveUsed} (hsided : s.WellSided)
    (h : reduceMoveUsed s event = .ok s') (i : SideRef) :
    SideStep s (.moveUsed event) i s' := by
  obtain ⟨j, entry, evidence, hj, hfind, hnick, rfl⟩ := reduceMoveUsed_eq_ok hsided h
  have hedit : Edits s.ourSide (.moveUsed event) j.id (.reveal event.moveId) :=
    hj ▸ .moveUsed event
  refine editSides _ hfind hedit (fun n hn => hnick.trans (Option.some.inj hn)) (fun k => ?_) i
  exact sideAt_recordEvidence ..

theorem volatileChanged_sideSteps {event : VolatileChanged} (hsided : s.WellSided)
    (h : reduceVolatileChanged s event = .ok s') (i : SideRef) :
    SideStep s (.volatileChanged event) i s' := by
  obtain ⟨j, entry, hj, hfind, hnick, rfl⟩ := reduceVolatileChanged_eq_ok hsided h
  have hname : ∀ n, (BattleEvent.volatileChanged event).editedNickname = some n →
      entry.view.nickname = n := fun n hn => hnick.trans (Option.some.inj hn)
  unfold changeVolatile
  split_ifs with hstart hend
  · exact editSides (.volatileStart event.volatileName) hfind
      (hj ▸ .volatileStarted event hstart) hname (fun _ => rfl) i
  · exact editSides (.volatileEnd event.volatileName) hfind
      (hj ▸ .volatileEnded event hend) hname (fun _ => rfl) i
  · rw [putSide_replace_self hfind]
    refine keepSides ?_ (fun _ => ⟨rfl, rfl⟩) i
    simp [BattleEvent.rosterSide, hstart, hend]

theorem boostChanged_sideSteps {event : BoostChanged} (hsided : s.WellSided)
    (h : reduceEvent s (.boostChanged event) = .ok s') (i : SideRef) :
    SideStep s (.boostChanged event) i s' := by
  simp only [reduceEvent] at h
  obtain ⟨j, entry, updated, hj, hfind, hnick, hupd, rfl⟩ := updateActive_eq_ok hsided h
  simp only [bind_eq_ok, pure, Except.pure, Except.ok.injEq] at hupd
  obtain ⟨values, hvalues, rfl⟩ := hupd
  refine boostSides rfl (fun k => ?_) i
  by_cases hk : k = j
  · subst hk
    refine .inr ⟨entry, values, hfind, fun hall => ?_, ObservedState.sideAt_putSide_self _ _ _⟩
    have hold := hall k entry.view (List.mem_of_getElem? (findActive_eq_some hfind).1)
    unfold changeBoost at hvalues
    split at hvalues
    · exact hold.setStat hvalues
    · exact hold.applyDelta hvalues
  · exact .inl (ObservedState.sideAt_putSide_of_ne _ _ hk)

theorem boostsInverted_sideSteps {event : BoostsInverted} (hsided : s.WellSided)
    (h : reduceEvent s (.boostsInverted event) = .ok s') (i : SideRef) :
    SideStep s (.boostsInverted event) i s' := by
  simp only [reduceEvent] at h
  obtain ⟨j, entry, updated, hj, hfind, hnick, hupd, rfl⟩ := updateActive_eq_ok hsided h
  cases hupd
  refine boostSides rfl (fun k => ?_) i
  by_cases hk : k = j
  · subst hk
    refine .inr ⟨entry, _, hfind, fun hall => ?_, ObservedState.sideAt_putSide_self _ _ _⟩
    have hold := hall k entry.view (List.mem_of_getElem? (findActive_eq_some hfind).1)
    exact hold.map fun b hb => by omega
  · exact .inl (ObservedState.sideAt_putSide_of_ne _ _ hk)

theorem boostsSwapped_sideSteps {event : BoostsSwapped} (hsided : s.WellSided)
    (h : reduceBoostsSwapped s event = .ok s') (i : SideRef) :
    SideStep s (.boostsSwapped event) i s' := by
  simp only [reduceBoostsSwapped, bind_eq_ok] at h
  obtain ⟨srcSide, hsrcSide, tgtSide, htgtSide, src, hsrc, tgt, htgt, ⟨srcBoosts, tgtBoosts⟩,
    hswap, hbody⟩ := h
  obtain ⟨j, hj, rfl⟩ := side_eq_ok hsrcSide
  obtain ⟨k, hk, rfl⟩ := side_eq_ok htgtSide
  obtain ⟨hfindSrc, -⟩ := requireActive_eq_ok hsrc
  obtain ⟨hfindTgt, -⟩ := requireActive_eq_ok htgt
  have hrange : (∀ j, ∀ pv ∈ (s.sideAt j).pokemon, BoostsInRange pv.boosts) →
      BoostsInRange srcBoosts ∧ BoostsInRange tgtBoosts := fun hall =>
    swapStats_inRange
      (hall j src.view (List.mem_of_getElem? (findActive_eq_some hfindSrc).1))
      (hall k tgt.view (List.mem_of_getElem? (findActive_eq_some hfindTgt).1)) hswap
  refine boostSides rfl (fun l => ?_) i
  split_ifs at hbody with hsame
  · -- one pokemon with itself
    rw [swapOnOneSide, updateSide_of_id (i := j) (by exact hsided j)] at hbody
    cases hbody
    by_cases hl : l = j
    · subst hl
      exact .inr ⟨src, srcBoosts, hfindSrc, fun hall => (hrange hall).1,
        ObservedState.sideAt_putSide_self _ _ _⟩
    · exact .inl (ObservedState.sideAt_putSide_of_ne _ _ hl)
  · have hjk : k ≠ j := fun heq => hsame (by rw [hj, hk, heq])
    simp only [bind_eq_ok] at hbody
    obtain ⟨t, ht, tgtSide, htgtSide, hput⟩ := hbody
    rw [updateSide_of_id (i := j) (by exact hsided j)] at ht
    cases ht
    rw [hk, side_id, ObservedState.sideAt_putSide_of_ne _ _ hjk] at htgtSide
    cases htgtSide
    rw [updateSide_of_id (i := k) (by exact hsided k)] at hput
    cases hput
    by_cases hl : l = k
    · subst hl
      exact .inr ⟨tgt, tgtBoosts, hfindTgt, fun hall => (hrange hall).2,
        ObservedState.sideAt_putSide_self _ _ _⟩
    · rw [ObservedState.sideAt_putSide_of_ne _ _ hl]
      by_cases hlj : l = j
      · subst hlj
        exact .inr ⟨src, srcBoosts, hfindSrc, fun hall => (hrange hall).1,
          ObservedState.sideAt_putSide_self _ _ _⟩
      · exact .inl (ObservedState.sideAt_putSide_of_ne _ _ hlj)

theorem boostsCopied_sideSteps {event : BoostsCopied} (hsided : s.WellSided)
    (h : reduceBoostsCopied s event = .ok s') (i : SideRef) :
    SideStep s (.boostsCopied event) i s' := by
  obtain ⟨j, src, k, tgt, values, hfindSrc, -, hfindTgt, -, hcopy, rfl⟩ :=
    reduceBoostsCopied_eq_ok hsided h
  refine boostSides rfl (fun l => ?_) i
  by_cases hl : l = k
  · subst hl
    refine .inr ⟨tgt, values, hfindTgt, fun hall => ?_,
      ObservedState.sideAt_putSide_self _ _ _⟩
    exact copyStats_inRange
      (hall j src.view (List.mem_of_getElem? (findActive_eq_some hfindSrc).1))
      (hall l tgt.view (List.mem_of_getElem? (findActive_eq_some hfindTgt).1)) hcopy
  · exact .inl (ObservedState.sideAt_putSide_of_ne _ _ hl)

/-- Clearing a side's active boosts leaves the side or replaces those boosts. -/
theorem clearActiveBoosts_eq_ok {side new : SideView} {scope : String}
    (h : clearActiveBoosts side scope = .ok new) :
    new = side ∨ ∃ entry values, findActive side = some entry ∧
      clearBoosts entry.view.boosts scope = .ok values ∧
      new = replacePokemon side entry { entry.view with boosts := values } := by
  unfold clearActiveBoosts at h
  split at h
  · exact .inl (Except.ok.inj h).symm
  · next entry hfind =>
    simp only [bind_eq_ok, pure, Except.pure, Except.ok.injEq] at h
    obtain ⟨values, hvalues, rfl⟩ := h
    exact .inr ⟨entry, values, hfind, hvalues, rfl⟩

theorem boostsCleared_sideSteps {event : BoostsCleared} (hsided : s.WellSided)
    (h : reduceBoostsCleared s event = .ok s') (i : SideRef) :
    SideStep s (.boostsCleared event) i s' := by
  refine boostSides rfl (fun k => ?_) i
  cases hside : event.sideId with
  | none =>
    -- both sides' active pokemon
    simp only [reduceBoostsCleared, hside, bind_eq_ok, pure, Except.pure, Except.ok.injEq] at h
    obtain ⟨newP1, h1, newP2, h2, rfl⟩ := h
    have hclear : ∃ new, clearActiveBoosts (s.sideAt k) event.scope = .ok new ∧
        ObservedState.sideAt { s with p1 := newP1, p2 := newP2 } k = new := by
      cases k
      · exact ⟨newP1, h1, rfl⟩
      · exact ⟨newP2, h2, rfl⟩
    obtain ⟨new, hnew, hstored⟩ := hclear
    rcases clearActiveBoosts_eq_ok hnew with hsame | ⟨entry, values, hfind, hvalues, hrep⟩
    · exact .inl (hstored.trans hsame)
    · refine .inr ⟨entry, values, hfind, fun hall => ?_, hstored.trans hrep⟩
      exact (hall k entry.view (List.mem_of_getElem? (findActive_eq_some hfind).1)).clear hvalues
  | some sideId =>
    obtain ⟨j, entry, values, -, hfind, -, hvalues, rfl⟩ :=
      reduceBoostsCleared_eq_ok hsided hside h
    by_cases hk : k = j
    · subst hk
      refine .inr ⟨entry, values, hfind, fun hall => ?_,
        ObservedState.sideAt_putSide_self _ _ _⟩
      exact (hall k entry.view (List.mem_of_getElem? (findActive_eq_some hfind).1)).clear hvalues
    · exact .inl (ObservedState.sideAt_putSide_of_ne _ _ hk)

/-- A side is stored whose roster and active slot are as they were. -/
theorem updateSide_sideSteps {event : BattleEvent} {t : ObservedState} {side : SideView}
    {j : SideRef} (h : updateSide t side = .ok s') (hevent : event.rosterSide = none)
    (hid : side.sideId = j.id) (hpokemon : side.pokemon = (s.sideAt j).pokemon)
    (hslot : side.activeSlot = (s.sideAt j).activeSlot)
    (ht : ∀ k, t.sideAt k = s.sideAt k) (i : SideRef) : SideStep s event i s' := by
  rw [updateSide_of_id hid] at h
  cases h
  refine keepSides hevent (fun k => ?_) i
  by_cases hk : k = j
  · subst hk
    rw [ObservedState.sideAt_putSide_self]
    exact ⟨hpokemon, hslot⟩
  · rw [ObservedState.sideAt_putSide_of_ne _ _ hk, ht]
    exact ⟨rfl, rfl⟩

end Branches

/-- Every branch of the reducer takes one step on each side. -/
theorem reduceEvent_sideStep {s s' : ObservedState} {event : BattleEvent}
    (hsided : s.WellSided) (h : reduceEvent s event = .ok s') (i : SideRef) :
    SideStep s event i s' := by
  cases event with
  | battleInit event => cases h; refine keepStates ?_ ?_ ?_ i <;> rfl
  | playerDeclared event =>
    simp only [reduceEvent, bind_eq_ok] at h
    obtain ⟨side, hside, hput⟩ := h
    obtain ⟨j, -, rfl⟩ := side_eq_ok hside
    exact updateSide_sideSteps hput rfl (hsided j) rfl rfl (fun k => by cases k <;> rfl) i
  | teamSizeDeclared event =>
    simp only [reduceEvent, bind_eq_ok] at h
    obtain ⟨side, hside, hput⟩ := h
    obtain ⟨j, -, rfl⟩ := side_eq_ok hside
    exact updateSide_sideSteps hput rfl (hsided j) rfl rfl (fun _ => rfl) i
  | gameTypeDeclared event => cases h; refine keepStates ?_ ?_ ?_ i <;> rfl
  | generationDeclared event => cases h; refine keepStates ?_ ?_ ?_ i <;> rfl
  | tierDeclared event => cases h; refine keepStates ?_ ?_ ?_ i <;> rfl
  | battleRated event => cases h; refine keepStates ?_ ?_ ?_ i <;> rfl
  | ruleDeclared event => cases h; refine keepStates ?_ ?_ ?_ i <;> rfl
  | previewPokemonDeclared event =>
    simp only [reduceEvent, bind_eq_ok] at h
    obtain ⟨side, hside, hput⟩ := h
    obtain ⟨j, -, rfl⟩ := side_eq_ok hside
    exact updateSide_sideSteps hput rfl (hsided j) rfl rfl (fun _ => rfl) i
  | previewCleared event =>
    cases h
    exact keepSides rfl (fun k => by cases k <;> exact ⟨rfl, rfl⟩) i
  | teamPreviewStarted event => cases h; refine keepStates ?_ ?_ ?_ i <;> rfl
  | battleStarted event => cases h; refine keepStates ?_ ?_ ?_ i <;> rfl
  | turnStarted event => cases h; refine keepStates ?_ ?_ ?_ i <;> rfl
  | battleWon event => cases h; refine keepStates ?_ ?_ ?_ i <;> rfl
  | battleTied event => cases h; refine keepStates ?_ ?_ ?_ i <;> rfl
  | pokemonSwitched event =>
    simp only [reduceEvent] at h
    exact switch_sideSteps (.pokemonSwitched event) hsided (.inl ⟨event.slot, rfl⟩) h i
  | pokemonDragged event =>
    simp only [reduceEvent] at h
    exact switch_sideSteps (.pokemonDragged event) hsided (.inr ⟨event.slot, rfl⟩) h i
  | pokemonFainted event =>
    simp only [reduceEvent] at h
    refine updateActive_sideSteps hsided h rfl (fun pv updated hupd => ?_) (fun _ => rfl) i
    cases hupd
    exact ⟨.faint, .pokemonFainted event, rfl⟩
  | moveUsed event => exact moveUsed_sideSteps hsided h i
  | movePrevented event => cases h; refine keepStates ?_ ?_ ?_ i <;> rfl
  | healthChanged event => exact healthChanged_sideSteps hsided h i
  | statusChanged event =>
    simp only [reduceEvent] at h
    refine updateActive_sideSteps hsided h rfl (fun pv updated hupd => ?_) (fun _ => rfl) i
    cases hupd
    exact ⟨.setStatus event.status, .statusChanged event, rfl⟩
  | teamStatusCured event =>
    simp only [reduceEvent, bind_eq_ok] at h
    obtain ⟨side, hside, hput⟩ := h
    obtain ⟨j, hj, rfl⟩ := side_eq_ok hside
    rw [updateSide_of_id (i := j) (by exact hsided j)] at hput
    cases hput
    by_cases hij : i = j
    · subst hij
      exact .cure event rfl hj (by rw [ObservedState.sideAt_putSide_self])
        (by rw [ObservedState.sideAt_putSide_self])
    · exact keepOther (congrArg some hj) hij (ObservedState.sideAt_putSide_of_ne _ _ hij)
  | boostChanged event => exact boostChanged_sideSteps hsided h i
  | boostsSwapped event => exact boostsSwapped_sideSteps hsided h i
  | boostsCopied event => exact boostsCopied_sideSteps hsided h i
  | boostsCleared event => exact boostsCleared_sideSteps hsided h i
  | boostsInverted event => exact boostsInverted_sideSteps hsided h i
  | itemChanged event =>
    simp only [reduceEvent] at h
    refine updateActive_sideSteps hsided h rfl (fun pv updated hupd => ?_) (fun _ => rfl) i
    cases hupd
    exact ⟨_, .itemChanged event, rfl⟩
  | abilityChanged event =>
    simp only [reduceEvent] at h
    refine updateActive_sideSteps hsided h rfl (fun pv updated hupd => ?_) (fun _ => rfl) i
    cases hupd
    exact ⟨_, .abilityChanged event, rfl⟩
  | identityChanged event => exact identityChanged_sideSteps hsided h i
  | formChanged event =>
    obtain ⟨t, ht, hs'⟩ := bind_eq_ok.mp h
    cases hs'
    refine updateActive_sideSteps hsided ht rfl (fun pv updated hupd => ?_) (fun k => ?_) i
    · obtain ⟨hp, hhp, hupd⟩ := bind_eq_ok.mp hupd
      cases hupd
      exact ⟨.form event hp, .formChanged event hp hhp, rfl⟩
    · exact sideAt_recordEffect ..
  | pokemonTransformed event =>
    obtain ⟨t, ht, hs'⟩ := bind_eq_ok.mp h
    cases hs'
    refine updateActive_sideSteps hsided ht rfl (fun pv updated hupd => ?_) (fun k => ?_) i
    · cases hupd
      exact ⟨.transform event.targetNickname, .pokemonTransformed event, rfl⟩
    · exact sideAt_recordEffect ..
  | terastallized event =>
    obtain ⟨t, ht, hs'⟩ := bind_eq_ok.mp h
    cases hs'
    refine updateActive_sideSteps hsided ht rfl (fun pv updated hupd => ?_) (fun k => ?_) i
    · cases hupd
      exact ⟨.tera event.teraType, .terastallized event, rfl⟩
    · exact sideAt_recordEffect ..
  | volatileChanged event => exact volatileChanged_sideSteps hsided h i
  | rechargeChanged event =>
    simp only [reduceEvent] at h
    refine updateActive_sideSteps hsided h rfl (fun pv updated hupd => ?_) (fun _ => rfl) i
    cases hupd
    exact ⟨.recharge event.recharging, .rechargeChanged event, rfl⟩
  | weatherChanged event =>
    simp only [reduceEvent] at h
    split_ifs at h <;> cases h <;> refine keepStates ?_ ?_ ?_ i <;> rfl
  | fieldConditionChanged event =>
    cases h
    unfold reduceFieldConditionChanged
    split_ifs <;> refine keepStates ?_ ?_ ?_ i <;> rfl
  | sideConditionChanged event =>
    simp only [reduceEvent, bind_eq_ok] at h
    obtain ⟨side, hside, hput⟩ := h
    obtain ⟨j, -, rfl⟩ := side_eq_ok hside
    exact updateSide_sideSteps hput rfl (hsided j) rfl rfl (fun _ => rfl) i
  | sideConditionsSwapped event =>
    cases h
    exact keepSides rfl (fun k => by cases k <;> exact ⟨rfl, rfl⟩) i
  | visibleEvidence event => cases h; refine keepStates ?_ ?_ ?_ i <;> rfl
  | ignoredDisplayEvent event => cases h; refine keepStates ?_ ?_ ?_ i <;> rfl
  | other eventIndex className => cases h

/-! ## §3 Event index and side names -/

/-- Whatever `x` returns has the event index of `s`, and its sides in place if `s` has. -/
def KeepsFrame (s : ObservedState) (x : Except PyException ObservedState) : Prop :=
  ∀ s', x = .ok s' → s'.eventIndex = s.eventIndex ∧ (s.WellSided → s'.WellSided)

section Frame

variable {s t : ObservedState}

theorem KeepsFrame.bind {α : Type} {x : Except PyException α}
    {f : α → Except PyException ObservedState} (h : ∀ a, x = .ok a → KeepsFrame s (f a)) :
    KeepsFrame s (x >>= f) := by
  intro s' hs'
  obtain ⟨a, ha, hf⟩ := bind_eq_ok.mp hs'
  exact h a ha s' hf

theorem KeepsFrame.error {e : PyException} : KeepsFrame s (.error e) := by
  intro s' hs'
  cases hs'

/-- A state with the index of `s` whose sides have the names of those of `s`. -/
theorem KeepsFrame.ok (hindex : t.eventIndex = s.eventIndex)
    (hp1 : t.p1.sideId = s.p1.sideId) (hp2 : t.p2.sideId = s.p2.sideId) :
    KeepsFrame s (.ok t) := by
  intro s' hs'
  cases hs'
  refine ⟨hindex, fun hsided i => ?_⟩
  cases i
  · exact hp1.trans (hsided .p1)
  · exact hp2.trans (hsided .p2)

theorem KeepsFrame.update {side : SideView} (hindex : t.eventIndex = s.eventIndex)
    (hp1 : t.p1.sideId = s.p1.sideId) (hp2 : t.p2.sideId = s.p2.sideId) :
    KeepsFrame s (updateSide t side) := by
  unfold updateSide
  split_ifs with h1 h2
  · intro s' hs'
    cases hs'
    refine ⟨hindex, fun hsided i => ?_⟩
    cases i
    · exact h1
    · exact hp2.trans (hsided .p2)
  · intro s' hs'
    cases hs'
    refine ⟨hindex, fun hsided i => ?_⟩
    cases i
    · exact hp1.trans (hsided .p1)
    · exact h2
  · exact .error

theorem KeepsFrame.updateActive {sideId nickname context : String}
    {update : PokemonView → Except PyException PokemonView} :
    KeepsFrame s (updateActive s sideId nickname context update) :=
  .bind fun _ _ => .bind fun _ _ => .bind fun _ _ => .update rfl rfl rfl

/-- Recording evidence afterwards keeps the frame too. -/
theorem KeepsFrame.record {x : Except PyException ObservedState}
    {f : ObservedState → ObservedState} (hx : KeepsFrame s x)
    (hf : ∀ t, (f t).eventIndex = t.eventIndex ∧ (f t).p1 = t.p1 ∧ (f t).p2 = t.p2) :
    KeepsFrame s (x >>= fun t => pure (f t)) := by
  intro s' hs'
  obtain ⟨t, ht, hft⟩ := bind_eq_ok.mp hs'
  cases hft
  obtain ⟨hindex, hp1, hp2⟩ := hf t
  obtain ⟨hti, htw⟩ := hx t ht
  refine ⟨hindex.trans hti, fun hsided i => ?_⟩
  have hside : (f t).sideAt i = t.sideAt i := by
    cases i
    · exact hp1
    · exact hp2
  rw [hside]
  exact htw hsided i

theorem clearActiveBoosts_sideId {side new : SideView} {scope : String}
    (h : clearActiveBoosts side scope = .ok new) : new.sideId = side.sideId := by
  rcases clearActiveBoosts_eq_ok h with rfl | ⟨_, _, _, _, rfl⟩ <;> rfl

theorem reduceBoostsCleared_keepsFrame (event : BoostsCleared) :
    KeepsFrame s (reduceBoostsCleared s event) := by
  unfold reduceBoostsCleared
  split
  · exact .bind fun newP1 h1 => .bind fun newP2 h2 =>
      .ok rfl (clearActiveBoosts_sideId h1) (clearActiveBoosts_sideId h2)
  · exact .bind fun _ _ => .bind fun _ _ => .bind fun _ _ => .bind fun _ _ => .update rfl rfl rfl

theorem reduceBoostsSwapped_keepsFrame (event : BoostsSwapped) :
    KeepsFrame s (reduceBoostsSwapped s event) := by
  refine .bind fun srcSide _ => .bind fun _ _ => .bind fun _ _ => .bind fun _ _ =>
    .bind fun ⟨_, _⟩ _ => ?_
  dsimp only
  split_ifs
  · exact .update rfl rfl rfl
  · -- two replacements, one after the other
    intro s' hs'
    simp only [bind_eq_ok] at hs'
    obtain ⟨t, ht, _, _, hput⟩ := hs'
    have hfirst := KeepsFrame.update rfl rfl rfl t ht
    have hsecond := KeepsFrame.update (s := t) rfl rfl rfl s' hput
    exact ⟨hsecond.1.trans hfirst.1, fun hsided => hsecond.2 (hfirst.2 hsided)⟩

theorem reduceMoveUsed_keepsFrame (event : MoveUsed) : KeepsFrame s (reduceMoveUsed s event) := by
  refine .bind fun side _ => .bind fun entry _ => .record ?_ fun _ => ⟨rfl, rfl, rfl⟩
  unfold revealMove
  split_ifs
  · exact .ok rfl rfl rfl
  · exact .update rfl rfl rfl

theorem reduceVolatileChanged_keepsFrame (event : VolatileChanged) :
    KeepsFrame s (reduceVolatileChanged s event) := by
  refine .bind fun side _ => .bind fun entry _ => ?_
  split_ifs
  · exact .ok rfl rfl rfl
  · exact .update rfl rfl rfl
  · exact .update rfl rfl rfl
  · exact .ok rfl rfl rfl

theorem reduceIdentityChanged_keepsFrame (event : IdentityChanged) :
    KeepsFrame s (reduceIdentityChanged s event) := by
  refine .bind fun side _ => ?_
  split
  · exact .error
  · exact .bind fun _ _ => .update rfl rfl rfl

theorem reduceSwitch_keepsFrame (sideId nickname details : String) (hp : HpToken) (ei : Int) :
    KeepsFrame s (reduceSwitch s sideId nickname details hp ei) :=
  .bind fun _ _ => .bind fun _ _ => .update rfl rfl rfl

theorem reduceEvent_keepsFrame (event : BattleEvent) : KeepsFrame s (reduceEvent s event) := by
  cases event with
  | playerDeclared event => exact .bind fun _ _ => .update rfl rfl rfl
  | teamSizeDeclared event => exact .bind fun _ _ => .update rfl rfl rfl
  | previewPokemonDeclared event => exact .bind fun _ _ => .update rfl rfl rfl
  | pokemonSwitched event => exact reduceSwitch_keepsFrame _ _ _ _ _
  | pokemonDragged event => exact reduceSwitch_keepsFrame _ _ _ _ _
  | moveUsed event => exact reduceMoveUsed_keepsFrame event
  | healthChanged event =>
    exact .bind fun _ _ => .bind fun _ _ => .bind fun _ _ => .update rfl rfl rfl
  | teamStatusCured event => exact .bind fun _ _ => .update rfl rfl rfl
  | boostsSwapped event => exact reduceBoostsSwapped_keepsFrame event
  | boostsCopied event =>
    exact .bind fun _ _ => .bind fun _ _ => .bind fun _ _ => .bind fun _ _ => .bind fun _ _ =>
      .update rfl rfl rfl
  | boostsCleared event => exact reduceBoostsCleared_keepsFrame event
  | identityChanged event => exact reduceIdentityChanged_keepsFrame event
  | formChanged event => exact .record .updateActive fun _ => ⟨rfl, rfl, rfl⟩
  | pokemonTransformed event => exact .record .updateActive fun _ => ⟨rfl, rfl, rfl⟩
  | terastallized event => exact .record .updateActive fun _ => ⟨rfl, rfl, rfl⟩
  | volatileChanged event => exact reduceVolatileChanged_keepsFrame event
  | weatherChanged event =>
    simp only [reduceEvent]
    split_ifs <;> exact .ok rfl rfl rfl
  | fieldConditionChanged event =>
    simp only [reduceEvent, reduceFieldConditionChanged]
    split_ifs <;> exact .ok rfl rfl rfl
  | sideConditionChanged event => exact .bind fun _ _ => .update rfl rfl rfl
  | other eventIndex className => exact .error
  | pokemonFainted event =>
    simp only [reduceEvent]
    exact .updateActive
  | statusChanged event =>
    simp only [reduceEvent]
    exact .updateActive
  | boostChanged event =>
    simp only [reduceEvent]
    exact .updateActive
  | boostsInverted event =>
    simp only [reduceEvent]
    exact .updateActive
  | itemChanged event =>
    simp only [reduceEvent]
    exact .updateActive
  | abilityChanged event =>
    simp only [reduceEvent]
    exact .updateActive
  | rechargeChanged event =>
    simp only [reduceEvent]
    exact .updateActive
  | _ => exact .ok rfl rfl rfl

end Frame

/-! ## §4 The step lemma -/

/-- The reducer accepts only a later event, and applies it to the state with its index. -/
theorem reduce_eq_ok {s s' : ObservedState} {event : BattleEvent} :
    reduce s event = .ok s' ↔ s.eventIndex < event.eventIndex ∧
      reduceEvent { s with eventIndex := event.eventIndex } event = .ok s' := by
  unfold reduce
  split_ifs with h
  · exact iff_of_false (by simp) (fun hlt => absurd hlt.1 (not_lt.mpr h))
  · exact ⟨fun hs' => ⟨not_le.mp h, hs'⟩, fun hs' => hs'.2⟩

/-- What holds of every accepted step: the index grows to that of the event, the sides stay in
place, and each side takes one of the listed steps. -/
theorem reduce_step {s s' : ObservedState} {event : BattleEvent} (hsided : s.WellSided)
    (h : reduce s event = .ok s') :
    s.eventIndex < event.eventIndex ∧ s'.eventIndex = event.eventIndex ∧ s'.WellSided ∧
      ∀ i, SideStep s event i s' := by
  obtain ⟨hlt, hevent⟩ := reduce_eq_ok.mp h
  have hsided' : ObservedState.WellSided { s with eventIndex := event.eventIndex } := by
    intro i
    cases i
    · exact hsided .p1
    · exact hsided .p2
  obtain ⟨hindex, hsides⟩ := reduceEvent_keepsFrame event s' hevent
  refine ⟨hlt, hindex, hsides hsided', fun i => ?_⟩
  have hside : ∀ j, ObservedState.sideAt { s with eventIndex := event.eventIndex } j =
      s.sideAt j := by
    intro j
    cases j <;> rfl
  cases reduceEvent_sideStep hsided' hevent i with
  | keep hev hpokemon hslot => exact .keep hev (hside i ▸ hpokemon) (hside i ▸ hslot)
  | active entry edit hfind hedit hnick hpokemon hslot =>
    exact .active entry edit (hside i ▸ hfind) hedit hnick (hside i ▸ hpokemon) (hside i ▸ hslot)
  | bench health entry hp hev hsideId hentry hinactive hhp hpokemon hslot =>
    exact .bench health entry hp hev hsideId (hside i ▸ hentry) hinactive hhp
      (hside i ▸ hpokemon) (hside i ▸ hslot)
  | boosts entry values hev hfind hvalues hpokemon hslot =>
    refine .boosts entry values hev (hside i ▸ hfind) (fun hall => hvalues fun j => ?_)
      (hside i ▸ hpokemon) (hside i ▸ hslot)
    rw [hside j]
    exact hall j
  | cure cured hev hsideId hpokemon hslot =>
    exact .cure cured hev hsideId (hside i ▸ hpokemon) (hside i ▸ hslot)
  | activate nickname details token hp hev hhp hpokemon hslot =>
    exact .activate nickname details token hp hev hhp (hside i ▸ hpokemon) hslot

/-! ## §5 Invariants of single pokemon

A property of one pokemon holds of every roster entry once it survives the ways in which an
entry can be rewritten. -/

/-- The pokemon that comes back onto the field. -/
def reenter (pv : PokemonView) (details : String) (hp : HpObservation)
    (status : Option String) : PokemonView :=
  { pv with
    active := true
    hp := some hp
    status := status
    fainted := false
    currentDetails := some details
    boosts := zeroBoosts
    volatiles := []
    recharging := false
    transformTarget := none }

/-- The pokemon that enters the field for the first time. -/
def newcomer (sideId nickname details : String) (hp : HpObservation)
    (status : Option String) : PokemonView :=
  { PokemonView.new sideId nickname (some details) with
    active := true
    hp := some hp
    status := status
    currentDetails := some details }

/-- Who is on the roster after a switch: the deactivated team, with the one that enters either
rewritten in place or appended. -/
theorem activatePokemon_pokemon (side : SideView) (nickname details : String)
    (hp : HpObservation) (status : Option String) (ei : Int) :
    (activatePokemon side nickname details hp status ei).pokemon =
      match findForSwitchIn (side.pokemon.map (deactivate · ei)) nickname details with
      | none =>
          side.pokemon.map (deactivate · ei) ++
            [newcomer side.sideId nickname details hp status]
      | some existing =>
          (side.pokemon.map (deactivate · ei)).set existing.position
            (reenter existing.view details hp status) := by
  cases hfind : findForSwitchIn (side.pokemon.map (deactivate · ei)) nickname details with
  | none => simp only [activatePokemon, hfind, newcomer]
  | some existing => simp only [activatePokemon, hfind, reenter]

theorem findForSwitchIn_eq_some {pokemon : List PokemonView} {nickname details : String}
    {entry : RosterEntry} (h : findForSwitchIn pokemon nickname details = some entry) :
    pokemon[entry.position]? = some entry.view ∧ entry.view.nickname = nickname ∧
      entry.view.switchIdentity = normalizeIdentityDetails details := by
  have hfound : (entries pokemon).find? (fun entry => entry.view.nickname = nickname &&
      entry.view.switchIdentity = normalizeIdentityDetails details) = some entry := h
  have hprops := List.find?_some hfound
  simp only [Bool.and_eq_true, decide_eq_true_eq] at hprops
  exact ⟨mem_entries.mp (List.mem_of_find?_eq_some hfound), hprops⟩

theorem findForSwitchIn_eq_none {pokemon : List PokemonView} {nickname details : String} :
    findForSwitchIn pokemon nickname details = none ↔ ∀ pv ∈ pokemon,
      ¬(pv.nickname = nickname ∧ pv.switchIdentity = normalizeIdentityDetails details) := by
  rw [findForSwitchIn, List.find?_eq_none]
  constructor
  · intro h pv hpv hkey
    obtain ⟨position, hposition⟩ := List.mem_iff_getElem?.mp hpv
    exact h ⟨position, pv⟩ (mem_entries.mpr hposition) (by simpa using hkey)
  · intro h entry hentry hkey
    exact h entry.view (List.mem_of_getElem? (mem_entries.mp hentry)) (by simpa using hkey)

/-- Everyone on the roster after a switch is a deactivated member, one that came back, or new. -/
theorem mem_activatePokemon {side : SideView} {nickname details : String} {hp : HpObservation}
    {status : Option String} {ei : Int} {pv : PokemonView}
    (h : pv ∈ (activatePokemon side nickname details hp status ei).pokemon) :
    (∃ old ∈ side.pokemon, pv = deactivate old ei) ∨
      (∃ old ∈ side.pokemon, pv = reenter (deactivate old ei) details hp status) ∨
      pv = newcomer side.sideId nickname details hp status := by
  rw [activatePokemon_pokemon] at h
  have hmap : ∀ q ∈ side.pokemon.map (deactivate · ei), ∃ old ∈ side.pokemon,
      q = deactivate old ei := by
    intro q hq
    obtain ⟨old, hold, rfl⟩ := List.mem_map.mp hq
    exact ⟨old, hold, rfl⟩
  split at h
  · rcases List.mem_append.mp h with hold | hnew
    · exact .inl (hmap pv hold)
    · exact .inr (.inr (List.mem_singleton.mp hnew))
  · next existing hfind =>
    rcases List.mem_or_eq_of_mem_set h with hold | rfl
    · exact .inl (hmap pv hold)
    · obtain ⟨old, hold, heq⟩ := hmap existing.view
        (List.mem_of_getElem? (findForSwitchIn_eq_some hfind).1)
      exact .inr (.inl ⟨old, hold, by rw [heq]⟩)

/-- A property of a pokemon, at an event index, that every rewriting of an entry keeps. -/
structure PokemonInvariant (P : Int → PokemonView → Prop) : Prop where
  later : ∀ {now ei pv}, P now pv → now < ei → P ei pv
  edit : ∀ {now ei pv} (edit : EntryEdit), P now pv → now < ei →
    (pv.active = true ∨ ∃ hp status fainted, edit = .vitals hp status fainted) →
    P ei (edit.apply ei pv)
  boosts : ∀ {now ei pv values}, P now pv → now < ei → BoostsInRange values →
    pv.active = true → P ei { pv with boosts := values }
  cure : ∀ {now ei pv}, P now pv → now < ei → P ei { pv with status := none }
  deactivate : ∀ {now ei pv}, P now pv → now < ei → P ei (deactivate pv ei)
  reenter : ∀ {ei pv} details hp status, P ei pv → P ei (reenter pv details hp status)
  newcomer : ∀ ei sideId nickname details hp status,
    P ei (newcomer sideId nickname details hp status)

/-- Everyone's boosts are in range. -/
def AllBoostsInRange (s : ObservedState) : Prop :=
  ∀ i, ∀ pv ∈ (s.sideAt i).pokemon, BoostsInRange pv.boosts

/-- Every entry of every roster has `P`. -/
def AllPokemon (P : Int → PokemonView → Prop) (s : ObservedState) : Prop :=
  ∀ i, ∀ pv ∈ (s.sideAt i).pokemon, P s.eventIndex pv

theorem allPokemon_initial (P : Int → PokemonView → Prop) (ourUserId : String) :
    AllPokemon P (ObservedState.initial ourUserId) := by
  intro i pv hpv
  cases i <;> cases hpv

/-- One accepted event keeps an invariant of single pokemon. -/
theorem PokemonInvariant.step {P : Int → PokemonView → Prop} (hP : PokemonInvariant P)
    {s s' : ObservedState} {event : BattleEvent} (hsided : s.WellSided)
    (hboosts : AllBoostsInRange s) (hs : AllPokemon P s) (h : reduce s event = .ok s') :
    AllPokemon P s' := by
  obtain ⟨hlt, hindex, -, hsteps⟩ := reduce_step hsided h
  rw [← hindex] at hlt
  intro i pv hpv
  cases hsteps i with
  | keep hevent hpokemon hslot =>
    rw [hpokemon] at hpv
    exact hP.later (hs i pv hpv) hlt
  | active entry edit hfind hedit hnick hpokemon hslot =>
    obtain ⟨hget, hactive⟩ := findActive_eq_some hfind
    rw [hpokemon, ← hindex] at hpv
    rcases List.mem_or_eq_of_mem_set hpv with hold | rfl
    · exact hP.later (hs i pv hold) hlt
    · exact hP.edit edit (hs i _ (List.mem_of_getElem? hget)) hlt (.inl hactive)
  | bench health entry hp hevent hside hget hinactive hhp hpokemon hslot =>
    rw [hpokemon, ← hindex] at hpv
    rcases List.mem_or_eq_of_mem_set hpv with hold | rfl
    · exact hP.later (hs i pv hold) hlt
    · exact hP.edit _ (hs i _ (List.mem_of_getElem? hget)) hlt (.inr ⟨_, _, _, rfl⟩)
  | boosts entry values hevent hfind hvalues hpokemon hslot =>
    obtain ⟨hget, hactive⟩ := findActive_eq_some hfind
    rw [hpokemon] at hpv
    rcases List.mem_or_eq_of_mem_set hpv with hold | rfl
    · exact hP.later (hs i pv hold) hlt
    · exact hP.boosts (hs i _ (List.mem_of_getElem? hget)) hlt (hvalues hboosts) hactive
  | cure cured hevent hside hpokemon hslot =>
    rw [hpokemon] at hpv
    obtain ⟨old, hold, rfl⟩ := List.mem_map.mp hpv
    exact hP.cure (hs i old hold) hlt
  | activate nickname details token hp hevent hhp hpokemon hslot =>
    rw [hpokemon, ← hindex] at hpv
    rcases mem_activatePokemon hpv with ⟨old, hold, rfl⟩ | ⟨old, hold, rfl⟩ | rfl
    · exact hP.deactivate (hs i old hold) hlt
    · exact hP.reenter _ _ _ (hP.deactivate (hs i old hold) hlt)
    · exact hP.newcomer _ _ _ _ _ _

/-- Boosts in range are an invariant of single pokemon. -/
theorem boostsInRange_invariant : PokemonInvariant fun _ pv => BoostsInRange pv.boosts where
  later h _ := h
  edit edit h _ _ := by
    cases edit <;> simp only [EntryEdit.apply]
    case faint => exact boostsInRange_zero
    case reveal => split_ifs <;> exact h
    case form event hp => unfold changeForm; split <;> exact h
    case volatileStart => split_ifs <;> exact h
    all_goals exact h
  boosts _ _ hvalues _ := hvalues
  cure h _ := h
  deactivate h _ := by
    unfold BattleBelief.deactivate
    split_ifs
    · exact boostsInRange_zero
    · exact h
  reenter _ _ _ _ := boostsInRange_zero
  newcomer _ _ _ _ _ _ := boostsInRange_zero

/-- What every reachable state satisfies, and what the rule for single pokemon relies on. -/
structure SoundState (s : ObservedState) : Prop where
  sided : s.WellSided
  boosts : AllBoostsInRange s

theorem soundState_initial (ourUserId : String) :
    SoundState (ObservedState.initial ourUserId) where
  sided := ObservedState.wellSided_initial ourUserId
  boosts := by
    intro i pv hpv
    cases i <;> cases hpv

theorem SoundState.step {s s' : ObservedState} {event : BattleEvent} (hs : SoundState s)
    (h : reduce s event = .ok s') : SoundState s' where
  sided := (reduce_step hs.sided h).2.2.1
  boosts := boostsInRange_invariant.step hs.sided hs.boosts hs.boosts h

/-- An invariant of single pokemon holds in every state that a run reaches. -/
theorem PokemonInvariant.run {P : Int → PokemonView → Prop} (hP : PokemonInvariant P)
    {ourUserId : String} {s : ObservedState} {events : List BattleEvent}
    (hrun : RunsTo reduce (ObservedState.initial ourUserId) events s) :
    SoundState s ∧ AllPokemon P s := by
  refine invariant (I := fun s => SoundState s ∧ AllPokemon P s) ?_
    ⟨soundState_initial ourUserId, allPokemon_initial P ourUserId⟩ hrun
  rintro s event s' ⟨hsound, hall⟩ h
  exact ⟨hsound.step h, hP.step hsound.sided hsound.boosts hall h⟩

/-- Every reachable state is sound. -/
theorem soundState_run {ourUserId : String} {s : ObservedState} {events : List BattleEvent}
    (hrun : RunsTo reduce (ObservedState.initial ourUserId) events s) : SoundState s :=
  (boostsInRange_invariant.run hrun).1

end BattleBelief
