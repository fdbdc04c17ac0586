import BattleBelief.Observation.RosterStep

/-!
# What the Branches of the Reducer Return

Most branches look up a side, find a pokemon on it, and store the side again with that pokemon
rewritten. There is one lemma for each such branch, which says what state it returns. Which step a
branch takes and what it leaves alone are both read off these lemmas.
-/

namespace BattleBelief

open Runs

/-! ## §1 Storing a side -/

/-- Putting a side back where it came from changes nothing. -/
@[simp] theorem ObservedState.putSide_sideAt (s : ObservedState) (i : SideRef) :
    s.putSide (s.sideAt i) i = s := by
  cases i <;> rfl

/-- Writing the active pokemon back as it is changes nothing. -/
theorem putSide_replace_self {s : ObservedState} {i : SideRef} {entry : RosterEntry}
    (h : findActive (s.sideAt i) = some entry) :
    s.putSide (replacePokemon (s.sideAt i) entry entry.view) i = s := by
  rw [replacePokemon_self h, ObservedState.putSide_sideAt]

section Branches

variable {s s' : ObservedState}

theorem updateSide_replacePokemon (hsided : s.WellSided) (i : SideRef) (entry : RosterEntry)
    (updated : PokemonView) :
    updateSide s (replacePokemon (s.sideAt i) entry updated) =
      .ok (s.putSide (replacePokemon (s.sideAt i) entry updated) i) :=
  updateSide_of_id (hsided i)

/-! ## §2 One pokemon -/

/-- `updateActive` replaces the active pokemon of the side it is given, and nothing else. -/
theorem updateActive_eq_ok {sideId nickname context : String}
    {update : PokemonView → Except PyException PokemonView} (hsided : s.WellSided)
    (h : updateActive s sideId nickname context update = .ok s') :
    ∃ i entry updated, sideId = SideRef.id i ∧ findActive (s.sideAt i) = some entry ∧
      entry.view.nickname = nickname ∧ update entry.view = .ok updated ∧
      s' = s.putSide (replacePokemon (s.sideAt i) entry updated) i := by
  simp only [updateActive, bind_eq_ok] at h
  obtain ⟨side, hside, entry, hentry, updated, hupdated, hput⟩ := h
  obtain ⟨i, rfl, rfl⟩ := side_eq_ok hside
  obtain ⟨hfind, hnick⟩ := requireActive_eq_ok hentry
  rw [updateSide_replacePokemon hsided] at hput
  exact ⟨i, entry, updated, rfl, hfind, hnick, hupdated, (Except.ok.inj hput).symm⟩

theorem reduceHealthChanged_eq_ok {event : HealthChanged} (hsided : s.WellSided)
    (h : reduceHealthChanged s event = .ok s') :
    ∃ i entry hp, event.sideId = SideRef.id i ∧
      requireHealthTarget (s.sideAt i) event.nickname event.slot = .ok entry ∧
      tokenToObservation event.hp event.sideId s.ourSide = .ok hp ∧
      s' = s.putSide (replacePokemon (s.sideAt i) entry
        { entry.view with
          hp := some hp, status := event.hp.status, fainted := event.hp.fainted }) i := by
  simp only [reduceHealthChanged, bind_eq_ok] at h
  obtain ⟨side, hside, entry, hentry, hp, hhp, hput⟩ := h
  obtain ⟨i, hi, rfl⟩ := side_eq_ok hside
  rw [updateSide_replacePokemon hsided] at hput
  exact ⟨i, entry, hp, hi, hentry, hhp, (Except.ok.inj hput).symm⟩

theorem reduceIdentityChanged_eq_ok {event : IdentityChanged} (hsided : s.WellSided)
    (h : reduceIdentityChanged s event = .ok s') :
    ∃ i entry hp, event.sideId = SideRef.id i ∧ findActive (s.sideAt i) = some entry ∧
      tokenToObservation event.hp event.sideId s.ourSide = .ok hp ∧
      s' = s.putSide (replacePokemon (s.sideAt i) entry
        ((EntryEdit.identity event.nickname event.details hp event.hp.status
          event.hp.fainted).apply event.eventIndex entry.view)) i := by
  simp only [reduceIdentityChanged, bind_eq_ok] at h
  obtain ⟨side, hside, hbody⟩ := h
  obtain ⟨i, hi, rfl⟩ := side_eq_ok hside
  split at hbody
  · cases hbody
  · next entry hfind =>
    obtain ⟨hp, hhp, hput⟩ := bind_eq_ok.mp hbody
    rw [updateSide_replacePokemon hsided] at hput
    exact ⟨i, entry, hp, hi, hfind, hhp, (Except.ok.inj hput).symm⟩

/-- A move that is known already is written back as it is. -/
theorem reduceMoveUsed_eq_ok {event : MoveUsed} (hsided : s.WellSided)
    (h : reduceMoveUsed s event = .ok s') :
    ∃ i entry evidence, event.sideId = SideRef.id i ∧ findActive (s.sideAt i) = some entry ∧
      entry.view.nickname = event.nickname ∧
      s' = recordEvidence (s.putSide (replacePokemon (s.sideAt i) entry
        ((EntryEdit.reveal event.moveId).apply event.eventIndex entry.view)) i) evidence := by
  simp only [reduceMoveUsed, bind_eq_ok] at h
  obtain ⟨side, hside, entry, hentry, t, ht, hs'⟩ := h
  obtain ⟨i, hi, rfl⟩ := side_eq_ok hside
  obtain ⟨hfind, hnick⟩ := requireActive_eq_ok hentry
  have hreveal : t = s.putSide (replacePokemon (s.sideAt i) entry
      ((EntryEdit.reveal event.moveId).apply event.eventIndex entry.view)) i := by
    simp only [EntryEdit.apply]
    unfold revealMove at ht
    split_ifs at ht ⊢ with hknown
    · rw [putSide_replace_self hfind]
      exact (Except.ok.inj ht).symm
    · rw [updateSide_replacePokemon hsided] at ht
      exact (Except.ok.inj ht).symm
  subst hreveal
  exact ⟨i, entry, _, hi, hfind, hnick, (Except.ok.inj hs').symm⟩

/-- The pokemon after a volatile event; an action other than start and end changes nothing. -/
def changeVolatile (event : VolatileChanged) (pv : PokemonView) : PokemonView :=
  if event.action = "start" then
    (EntryEdit.volatileStart event.volatileName).apply event.eventIndex pv
  else if event.action = "end" then
    (EntryEdit.volatileEnd event.volatileName).apply event.eventIndex pv
  else pv

theorem reduceVolatileChanged_eq_ok {event : VolatileChanged} (hsided : s.WellSided)
    (h : reduceVolatileChanged s event = .ok s') :
    ∃ i entry, event.sideId = SideRef.id i ∧ findActive (s.sideAt i) = some entry ∧
      entry.view.nickname = event.nickname ∧
      s' = s.putSide (replacePokemon (s.sideAt i) entry (changeVolatile event entry.view)) i := by
  simp only [reduceVolatileChanged, bind_eq_ok] at h
  obtain ⟨side, hside, entry, hentry, hbody⟩ := h
  obtain ⟨i, hi, rfl⟩ := side_eq_ok hside
  obtain ⟨hfind, hnick⟩ := requireActive_eq_ok hentry
  refine ⟨i, entry, hi, hfind, hnick, ?_⟩
  simp only [changeVolatile, EntryEdit.apply]
  split_ifs at hbody ⊢ with hstart hknown hend
  · cases hbody
    rw [putSide_replace_self hfind]
  · rw [updateSide_replacePokemon hsided] at hbody
    exact (Except.ok.inj hbody).symm
  · rw [updateSide_replacePokemon hsided] at hbody
    exact (Except.ok.inj hbody).symm
  · cases hbody
    rw [putSide_replace_self hfind]

/-! ## §3 Boosts -/

theorem reduceBoostsCopied_eq_ok {event : BoostsCopied} (hsided : s.WellSided)
    (h : reduceBoostsCopied s event = .ok s') :
    ∃ j src i tgt values, findActive (s.sideAt j) = some src ∧ event.sideId = SideRef.id i ∧
      findActive (s.sideAt i) = some tgt ∧ tgt.view.nickname = event.nickname ∧
      copyStats src.view.boosts event.stats tgt.view.boosts = .ok values ∧
      s' = s.putSide (replacePokemon (s.sideAt i) tgt { tgt.view with boosts := values }) i := by
  simp only [reduceBoostsCopied, bind_eq_ok] at h
  obtain ⟨srcSide, hsrcSide, tgtSide, htgtSide, src, hsrc, tgt, htgt, values, hcopy, hput⟩ := h
  obtain ⟨j, -, rfl⟩ := side_eq_ok hsrcSide
  obtain ⟨i, hi, rfl⟩ := side_eq_ok htgtSide
  obtain ⟨hfindSrc, -⟩ := requireActive_eq_ok hsrc
  obtain ⟨hfindTgt, hnick⟩ := requireActive_eq_ok htgt
  rw [updateSide_replacePokemon hsided] at hput
  exact ⟨j, src, i, tgt, values, hfindSrc, hi, hfindTgt, hnick, hcopy,
    (Except.ok.inj hput).symm⟩

/-- Clearing the boosts of a named pokemon. -/
theorem reduceBoostsCleared_eq_ok {event : BoostsCleared} {sideId : String}
    (hsided : s.WellSided) (hside : event.sideId = some sideId)
    (h : reduceBoostsCleared s event = .ok s') :
    ∃ i entry values, sideId = SideRef.id i ∧ findActive (s.sideAt i) = some entry ∧
      event.nickname = some entry.view.nickname ∧
      clearBoosts entry.view.boosts event.scope = .ok values ∧
      s' = s.putSide (replacePokemon (s.sideAt i) entry
        { entry.view with boosts := values }) i := by
  simp only [reduceBoostsCleared, hside, bind_eq_ok] at h
  obtain ⟨side, hlookup, nickname, hnickname, entry, hentry, values, hvalues, hput⟩ := h
  obtain ⟨i, hi, rfl⟩ := side_eq_ok hlookup
  obtain ⟨hfind, hnick⟩ := requireActive_eq_ok hentry
  rw [updateSide_replacePokemon hsided] at hput
  refine ⟨i, entry, values, hi, hfind, ?_, hvalues, (Except.ok.inj hput).symm⟩
  unfold assertNickname at hnickname
  split at hnickname
  · next name hname =>
    rw [hname, hnick, Except.ok.inj hnickname]
  · cases hnickname

/-! ## §4 Switches -/

@[simp] theorem activatePokemon_sideId (side : SideView) (nickname details : String)
    (hp : HpObservation) (status : Option String) (ei : Int) :
    (activatePokemon side nickname details hp status ei).sideId = side.sideId := by
  unfold activatePokemon
  dsimp only
  split <;> rfl

@[simp] theorem activatePokemon_activeSlot (side : SideView) (nickname details : String)
    (hp : HpObservation) (status : Option String) (ei : Int) :
    (activatePokemon side nickname details hp status ei).activeSlot = some 1 := by
  unfold activatePokemon
  dsimp only
  split <;> rfl

theorem reduceSwitch_eq_ok {sideId nickname details : String} {token : HpToken} {ei : Int}
    (hsided : s.WellSided) (h : reduceSwitch s sideId nickname details token ei = .ok s') :
    ∃ i hp, sideId = SideRef.id i ∧ tokenToObservation token sideId s.ourSide = .ok hp ∧
      s' = s.putSide (activatePokemon (s.sideAt i) nickname details hp token.status ei) i := by
  simp only [reduceSwitch, bind_eq_ok] at h
  obtain ⟨hp, hhp, side, hside, hput⟩ := h
  obtain ⟨i, rfl, rfl⟩ := side_eq_ok hside
  rw [updateSide_of_id ((activatePokemon_sideId ..).trans (hsided i))] at hput
  exact ⟨i, hp, rfl, hhp, (Except.ok.inj hput).symm⟩

end Branches

end BattleBelief
