import BattleBelief.Observation.Reducer
import BattleBelief.Library.Runs

/-!
# What One Accepted Event Does to a Roster

The reducer has some forty branches, but only a handful of things happen to the pokemon of a
side: nothing, one edit of the active pokemon, new vitals for a fainted bench member, a cured
team, new boosts, or a switch. `SideStep` lists them, with the event that causes each, and
`reduce_step` says that the list is complete.

Every roster invariant is proved over `SideStep` and never looks at the reducer again.
-/

namespace BattleBelief

open Runs

/-! ## §1 The two sides -/

/-- A side of the battle, as a position in the state. -/
inductive SideRef where
  | p1
  | p2
  deriving DecidableEq, Repr

/-- The wire name of a side. -/
def SideRef.id : SideRef → String
  | .p1 => "p1"
  | .p2 => "p2"

theorem SideRef.id_injective {i j : SideRef} (h : i.id = j.id) : i = j := by
  cases i <;> cases j <;> first | rfl | exact absurd h (by decide)

namespace ObservedState

/-- The side at `i`. -/
def sideAt (s : ObservedState) : SideRef → SideView
  | .p1 => s.p1
  | .p2 => s.p2

/-- The state with another side at `i`. -/
def putSide (s : ObservedState) (side : SideView) : SideRef → ObservedState
  | .p1 => { s with p1 := side }
  | .p2 => { s with p2 := side }

/-- Each side carries the name of its place. -/
def WellSided (s : ObservedState) : Prop := ∀ i, (s.sideAt i).sideId = i.id

@[simp] theorem sideAt_p1 (s : ObservedState) : s.sideAt .p1 = s.p1 := rfl

@[simp] theorem sideAt_p2 (s : ObservedState) : s.sideAt .p2 = s.p2 := rfl

@[simp] theorem sideAt_putSide_self (s : ObservedState) (side : SideView) (i : SideRef) :
    (s.putSide side i).sideAt i = side := by
  cases i <;> rfl

theorem sideAt_putSide_of_ne (s : ObservedState) (side : SideView) {i j : SideRef} (h : j ≠ i) :
    (s.putSide side i).sideAt j = s.sideAt j := by
  cases i <;> cases j <;> first | rfl | exact absurd rfl h

@[simp] theorem eventIndex_putSide (s : ObservedState) (side : SideView) (i : SideRef) :
    (s.putSide side i).eventIndex = s.eventIndex := by
  cases i <;> rfl

@[simp] theorem ourSide_putSide (s : ObservedState) (side : SideView) (i : SideRef) :
    (s.putSide side i).ourSide = s.ourSide := by
  cases i <;> rfl

theorem wellSided_initial (ourUserId : String) : (initial ourUserId).WellSided := by
  intro i
  cases i <;> rfl

theorem WellSided.putSide {s : ObservedState} (h : s.WellSided) {side : SideView} {i : SideRef}
    (hside : side.sideId = i.id) : (s.putSide side i).WellSided := by
  intro j
  by_cases hj : j = i
  · subst hj
    rwa [sideAt_putSide_self]
  · rw [sideAt_putSide_of_ne s side hj]
    exact h j

end ObservedState

/-- Looking up a side finds the side at one of the two places. -/
theorem side_eq_ok {s : ObservedState} {sideId : String} {side : SideView}
    (h : s.side sideId = .ok side) : ∃ i : SideRef, sideId = i.id ∧ side = s.sideAt i := by
  unfold ObservedState.side at h
  split_ifs at h with h1 h2
  · exact ⟨.p1, h1, (Except.ok.inj h).symm⟩
  · exact ⟨.p2, h2, (Except.ok.inj h).symm⟩

theorem side_id (s : ObservedState) (i : SideRef) : s.side i.id = .ok (s.sideAt i) := by
  cases i <;> rfl

/-- Storing a side puts it at the place it names. -/
theorem updateSide_of_id {s : ObservedState} {side : SideView} {i : SideRef}
    (h : side.sideId = i.id) : updateSide s side = .ok (s.putSide side i) := by
  cases i <;> simp [updateSide, h, SideRef.id, ObservedState.putSide]

/-! ## §2 Roster entries -/

/-- Rewriting an entry without changing its value under `f` leaves all values as they are. -/
theorem map_set_eq_map {α β : Type} {f : α → β} {l : List α} {n : Nat} {old new : α}
    (hget : l[n]? = some old) (hvalue : f new = f old) : (l.set n new).map f = l.map f := by
  obtain ⟨hn, rfl⟩ := List.getElem?_eq_some_iff.mp hget
  have hlength : n < (l.map f).length := by rwa [List.length_map]
  have hmap : (l.map f)[n] = f new := by rw [List.getElem_map, hvalue]
  rw [List.map_set, ← hmap, List.set_getElem_self]

theorem mem_entries {pokemon : List PokemonView} {entry : RosterEntry} :
    entry ∈ entries pokemon ↔ pokemon[entry.position]? = some entry.view := by
  simp only [entries, List.mem_map, Prod.exists, List.mem_zipIdx_iff_getElem?]
  constructor
  · rintro ⟨view, position, h, rfl⟩
    exact h
  · intro h
    exact ⟨entry.view, entry.position, h, rfl⟩

/-- The active pokemon that is found stands in the roster, and is active. -/
theorem findActive_eq_some {side : SideView} {entry : RosterEntry}
    (h : findActive side = some entry) :
    side.pokemon[entry.position]? = some entry.view ∧ entry.view.active = true := by
  have hfound : (entries side.pokemon).find? (fun entry => entry.view.active) = some entry := h
  have hactive := List.find?_some hfound
  exact ⟨mem_entries.mp (List.mem_of_find?_eq_some hfound), hactive⟩

/-- No active pokemon is found exactly when none is active. -/
theorem findActive_eq_none {side : SideView} :
    findActive side = none ↔ ∀ pv ∈ side.pokemon, pv.active = false := by
  rw [findActive, List.find?_eq_none]
  constructor
  · intro h pv hpv
    obtain ⟨position, hposition⟩ := List.mem_iff_getElem?.mp hpv
    simpa using h ⟨position, pv⟩ (mem_entries.mpr hposition)
  · intro h entry hentry
    simp [h entry.view (List.mem_of_getElem? (mem_entries.mp hentry))]

/-- Writing a pokemon back to its own position changes nothing. -/
theorem replacePokemon_self {side : SideView} {entry : RosterEntry}
    (h : findActive side = some entry) : replacePokemon side entry entry.view = side := by
  have hset : side.pokemon.set entry.position entry.view = side.pokemon := by
    refine List.ext_getElem? fun n => ?_
    rw [List.getElem?_set]
    split_ifs with hn hlt
    · rw [← hn, (findActive_eq_some h).1]
    · rw [← hn, List.getElem?_eq_none (Nat.le_of_not_lt hlt)]
    · rfl
  rw [replacePokemon, hset]

theorem requireActive_eq_ok {side : SideView} {nickname context : String} {entry : RosterEntry}
    (h : requireActive side nickname context = .ok entry) :
    findActive side = some entry ∧ entry.view.nickname = nickname := by
  unfold requireActive at h
  split at h
  · cases h
  · next found hfound =>
    split_ifs at h with hnick
    cases h
    exact ⟨hfound, hnick⟩

/-- A health target is the active pokemon or a fainted bench member. -/
theorem requireHealthTarget_eq_ok {side : SideView} {nickname : String} {slot : Option Int}
    {entry : RosterEntry} (h : requireHealthTarget side nickname slot = .ok entry) :
    (findActive side = some entry ∨
      (side.pokemon[entry.position]? = some entry.view ∧ entry.view.active = false ∧
        slot = none ∧ entry.view.fainted = true)) ∧
      entry.view.nickname = nickname := by
  cases slot with
  | some slot =>
    obtain ⟨hfind, hnick⟩ := requireActive_eq_ok h
    exact ⟨.inl hfind, hnick⟩
  | none =>
    simp only [requireHealthTarget] at h
    split at h
    · next candidate hcandidates =>
      cases h
      have hmem : entry ∈ (entries side.pokemon).filter _ :=
        hcandidates ▸ List.mem_singleton_self entry
      obtain ⟨hentry, hprops⟩ := List.mem_filter.mp hmem
      simp only [Bool.and_eq_true, Bool.not_eq_true', decide_eq_true_eq] at hprops
      exact ⟨.inr ⟨mem_entries.mp hentry, hprops.1.1, rfl, hprops.1.2⟩, hprops.2⟩
    · cases h

/-! ## §3 Edits of one pokemon -/

/-- The ways in which an event rewrites one pokemon, boosts and switches apart. -/
inductive EntryEdit where
  | faint
  | reveal (moveId : String)
  | vitals (hp : HpObservation) (status : Option String) (fainted : Bool)
  | setStatus (status : Option String)
  | item (value : Option String)
  | ability (value : Option String)
  | identity (nickname details : String) (hp : HpObservation) (status : Option String)
      (fainted : Bool)
  | form (event : FormChanged) (hp : HpObservation)
  | transform (target : String)
  | tera (teraType : String)
  | volatileStart (name : String)
  | volatileEnd (name : String)
  | recharge (recharging : Bool)

/-- The pokemon after an edit by the event with index `ei`. -/
def EntryEdit.apply (ei : Int) (pv : PokemonView) : EntryEdit → PokemonView
  | .faint =>
      { pv with
        fainted := true, hp := some (faintedHp pv.hp), boosts := zeroBoosts, volatiles := []
        recharging := false, transformTarget := none }
  | .reveal moveId =>
      if moveId ∈ pv.revealedMoves then pv
      else { pv with revealedMoves := pv.revealedMoves ++ [moveId] }
  | .vitals hp status fainted => { pv with hp := some hp, status := status, fainted := fainted }
  | .setStatus status => { pv with status := status }
  | .item value => { pv with itemIntervals := openInterval pv.itemIntervals value ei }
  | .ability value => { pv with abilityIntervals := openInterval pv.abilityIntervals value ei }
  | .identity nickname details hp status fainted =>
      { pv with
        nickname := nickname
        switchIdentity := normalizeIdentityDetails details
        currentDetails := some details
        identityIntervals := openInterval pv.identityIntervals (some details) ei
        hp := some hp, status := status, fainted := fainted }
  | .form event hp => changeForm pv event hp
  | .transform target => { pv with transformTarget := some target }
  | .tera teraType => { pv with teraType := some teraType }
  | .volatileStart name =>
      if name ∈ pv.volatiles then pv
      else { pv with volatiles := Python.sorted (pv.volatiles ++ [name]) }
  | .volatileEnd name => { pv with volatiles := pv.volatiles.filter fun v => v != name }
  | .recharge recharging => { pv with recharging := recharging }

/-- The edit that `event` makes of the active pokemon of the side `sideId`. -/
inductive Edits (ourSide : Option String) : BattleEvent → String → EntryEdit → Prop where
  | pokemonFainted (event : PokemonFainted) :
      Edits ourSide (.pokemonFainted event) event.sideId .faint
  | moveUsed (event : MoveUsed) :
      Edits ourSide (.moveUsed event) event.sideId (.reveal event.moveId)
  | healthChanged (event : HealthChanged) (hp : HpObservation)
      (hhp : tokenToObservation event.hp event.sideId ourSide = .ok hp) :
      Edits ourSide (.healthChanged event) event.sideId
        (.vitals hp event.hp.status event.hp.fainted)
  | statusChanged (event : StatusChanged) :
      Edits ourSide (.statusChanged event) event.sideId (.setStatus event.status)
  | itemChanged (event : ItemChanged) :
      Edits ourSide (.itemChanged event) event.sideId
        (.item (if event.action = "set" then event.item else none))
  | abilityChanged (event : AbilityChanged) :
      Edits ourSide (.abilityChanged event) event.sideId
        (.ability (if event.action = "set" then event.ability else none))
  | identityChanged (event : IdentityChanged) (hp : HpObservation)
      (hhp : tokenToObservation event.hp event.sideId ourSide = .ok hp) :
      Edits ourSide (.identityChanged event) event.sideId
        (.identity event.nickname event.details hp event.hp.status event.hp.fainted)
  | formChanged (event : FormChanged) (hp : HpObservation)
      (hhp : tokenToObservation event.hp event.sideId ourSide = .ok hp) :
      Edits ourSide (.formChanged event) event.sideId (.form event hp)
  | pokemonTransformed (event : PokemonTransformed) :
      Edits ourSide (.pokemonTransformed event) event.sideId (.transform event.targetNickname)
  | terastallized (event : Terastallized) :
      Edits ourSide (.terastallized event) event.sideId (.tera event.teraType)
  | volatileStarted (event : VolatileChanged) (haction : event.action = "start") :
      Edits ourSide (.volatileChanged event) event.sideId (.volatileStart event.volatileName)
  | volatileEnded (event : VolatileChanged) (haction : event.action = "end") :
      Edits ourSide (.volatileChanged event) event.sideId (.volatileEnd event.volatileName)
  | rechargeChanged (event : RechargeChanged) :
      Edits ourSide (.rechargeChanged event) event.sideId (.recharge event.recharging)

/-- The nickname by which an event names the active pokemon that it edits. An identity change
names the pokemon that the active one turns out to be. -/
def BattleEvent.editedNickname : BattleEvent → Option String
  | .pokemonFainted event => some event.nickname
  | .moveUsed event => some event.nickname
  | .healthChanged event => some event.nickname
  | .statusChanged event => some event.nickname
  | .itemChanged event => some event.nickname
  | .abilityChanged event => some event.nickname
  | .formChanged event => some event.nickname
  | .pokemonTransformed event => some event.nickname
  | .terastallized event => some event.nickname
  | .volatileChanged event => some event.nickname
  | .rechargeChanged event => some event.nickname
  | _ => none

/-- The side whose pokemon an event rewrites in anything but their boosts. -/
def BattleEvent.rosterSide : BattleEvent → Option String
  | .pokemonSwitched event => some event.sideId
  | .pokemonDragged event => some event.sideId
  | .pokemonFainted event => some event.sideId
  | .moveUsed event => some event.sideId
  | .healthChanged event => some event.sideId
  | .statusChanged event => some event.sideId
  | .teamStatusCured event => some event.sideId
  | .itemChanged event => some event.sideId
  | .abilityChanged event => some event.sideId
  | .identityChanged event => some event.sideId
  | .formChanged event => some event.sideId
  | .pokemonTransformed event => some event.sideId
  | .terastallized event => some event.sideId
  | .volatileChanged event =>
      if event.action = "start" ∨ event.action = "end" then some event.sideId else none
  | .rechargeChanged event => some event.sideId
  | _ => none

/-! ## §4 Boosts in range -/

/-- Seven boosts, all within reach. -/
def BoostsInRange (boosts : List Int) : Prop :=
  boosts.length = 7 ∧ ∀ b ∈ boosts, -6 ≤ b ∧ b ≤ 6

theorem boostsInRange_zero : BoostsInRange zeroBoosts := by
  refine ⟨rfl, fun b hb => ?_⟩
  simp [zeroBoosts] at hb
  omega

theorem statIndex_lt {stat : String} {idx : Nat} (h : statIndex stat = .ok idx) : idx < 7 := by
  unfold statIndex at h
  split at h
  · next found hfound =>
    cases h
    exact (List.idxOf?_eq_some_iff.mp hfound).choose
  · cases h

theorem boostAt_mem_range {boosts : List Int} (h : BoostsInRange boosts) (idx : Nat) :
    -6 ≤ boostAt boosts idx ∧ boostAt boosts idx ≤ 6 := by
  rw [boostAt, List.getD_eq_getElem?_getD]
  cases hget : boosts[idx]? with
  | none => decide
  | some b => exact h.2 b (List.mem_of_getElem? hget)

theorem clampBoost_range (value : Int) : -6 ≤ clampBoost value ∧ clampBoost value ≤ 6 := by
  unfold clampBoost
  omega

theorem BoostsInRange.put {boosts : List Int} (h : BoostsInRange boosts) {idx : Nat}
    (hidx : idx < 7) {value : Int} (hvalue : -6 ≤ value ∧ value ≤ 6) :
    BoostsInRange (putBoost boosts idx value) := by
  obtain ⟨hlength, hrange⟩ := h
  refine ⟨?_, fun b hb => ?_⟩
  · simp only [putBoost, List.length_append, List.length_cons, List.length_take,
      List.length_drop]
    omega
  · rcases List.mem_append.mp hb with htake | hrest
    · exact hrange b (List.mem_of_mem_take htake)
    · rcases List.mem_cons.mp hrest with rfl | hdrop
      · exact hvalue
      · exact hrange b (List.mem_of_mem_drop hdrop)

theorem BoostsInRange.set {boosts : List Int} (h : BoostsInRange boosts) (idx : Nat)
    {value : Int} (hvalue : -6 ≤ value ∧ value ≤ 6) : BoostsInRange (boosts.set idx value) := by
  refine ⟨by rw [List.length_set]; exact h.1, fun b hb => ?_⟩
  rcases List.mem_or_eq_of_mem_set hb with hmem | rfl
  · exact h.2 b hmem
  · exact hvalue

theorem BoostsInRange.map {boosts : List Int} (h : BoostsInRange boosts) {f : Int → Int}
    (hf : ∀ b, -6 ≤ b ∧ b ≤ 6 → -6 ≤ f b ∧ f b ≤ 6) : BoostsInRange (boosts.map f) := by
  refine ⟨by rw [List.length_map]; exact h.1, fun b hb => ?_⟩
  obtain ⟨a, ha, rfl⟩ := List.mem_map.mp hb
  exact hf a (h.2 a ha)

theorem BoostsInRange.applyDelta {boosts new : List Int} {stat : String} {delta : Int}
    (h : BoostsInRange boosts) (hnew : applyBoostDelta boosts stat delta = .ok new) :
    BoostsInRange new := by
  simp only [applyBoostDelta, bind_eq_ok, pure, Except.pure, Except.ok.injEq] at hnew
  obtain ⟨idx, hidx, rfl⟩ := hnew
  exact h.put (statIndex_lt hidx) (clampBoost_range _)

theorem BoostsInRange.setStat {boosts new : List Int} {stat : String} {value : Int}
    (h : BoostsInRange boosts) (hnew : setBoost boosts stat value = .ok new) :
    BoostsInRange new := by
  simp only [setBoost, bind_eq_ok, pure, Except.pure, Except.ok.injEq] at hnew
  obtain ⟨idx, hidx, rfl⟩ := hnew
  exact h.put (statIndex_lt hidx) (clampBoost_range _)

theorem BoostsInRange.clear {boosts new : List Int} {scope : String}
    (h : BoostsInRange boosts) (hnew : clearBoosts boosts scope = .ok new) :
    BoostsInRange new := by
  unfold clearBoosts at hnew
  split_ifs at hnew
  · exact Except.ok.inj hnew ▸ boostsInRange_zero
  · exact Except.ok.inj hnew ▸ h.map (fun b hb => by omega)
  · exact Except.ok.inj hnew ▸ h.map (fun b hb => by omega)
  · split at hnew
    · next idx hidx =>
      cases hnew
      exact h.put ((List.idxOf?_eq_some_iff.mp hidx).choose) (by omega)
    · cases hnew

theorem swapStats_inRange {stats : List String} {src tgt src' tgt' : List Int}
    (hsrc : BoostsInRange src) (htgt : BoostsInRange tgt)
    (h : swapStats stats src tgt = .ok (src', tgt')) :
    BoostsInRange src' ∧ BoostsInRange tgt' := by
  induction stats generalizing src tgt with
  | nil =>
    cases h
    exact ⟨hsrc, htgt⟩
  | cons stat stats ih =>
    simp only [swapStats, bind_eq_ok] at h
    obtain ⟨idx, _, hrest⟩ := h
    exact ih (hsrc.set idx (boostAt_mem_range htgt idx))
      (htgt.set idx (boostAt_mem_range hsrc idx)) hrest

theorem copyStats_inRange {src tgt tgt' : List Int} {stats : List String}
    (hsrc : BoostsInRange src) (htgt : BoostsInRange tgt)
    (h : copyStats src stats tgt = .ok tgt') : BoostsInRange tgt' := by
  induction stats generalizing tgt with
  | nil => exact Except.ok.inj h ▸ htgt
  | cons stat stats ih =>
    simp only [copyStats, bind_eq_ok] at h
    obtain ⟨idx, _, hrest⟩ := h
    exact ih (htgt.set idx (boostAt_mem_range hsrc idx)) hrest

/-! ## §5 Steps of a side -/

/-- What an accepted event does to the pokemon of the side at `i`. -/
inductive SideStep (s : ObservedState) (event : BattleEvent) (i : SideRef)
    (s' : ObservedState) : Prop where
  /-- The roster stays as it is. -/
  | keep (hevent : event.rosterSide ≠ some i.id)
      (hpokemon : (s'.sideAt i).pokemon = (s.sideAt i).pokemon)
      (hslot : (s'.sideAt i).activeSlot = (s.sideAt i).activeSlot)
  /-- The active pokemon is edited. -/
  | active (entry : RosterEntry) (edit : EntryEdit)
      (hfind : findActive (s.sideAt i) = some entry)
      (hedit : Edits s.ourSide event i.id edit)
      (hnickname : ∀ nickname, event.editedNickname = some nickname →
        entry.view.nickname = nickname)
      (hpokemon : (s'.sideAt i).pokemon =
        (s.sideAt i).pokemon.set entry.position (edit.apply event.eventIndex entry.view))
      (hslot : (s'.sideAt i).activeSlot = (s.sideAt i).activeSlot)
  /-- A bench member gets new vitals. -/
  | bench (health : HealthChanged) (entry : RosterEntry) (hp : HpObservation)
      (hevent : event = .healthChanged health) (hside : health.sideId = i.id)
      (hentry : (s.sideAt i).pokemon[entry.position]? = some entry.view)
      (hinactive : entry.view.active = false)
      (hhp : tokenToObservation health.hp health.sideId s.ourSide = .ok hp)
      (hpokemon : (s'.sideAt i).pokemon =
        (s.sideAt i).pokemon.set entry.position
          ((EntryEdit.vitals hp health.hp.status health.hp.fainted).apply event.eventIndex
            entry.view))
      (hslot : (s'.sideAt i).activeSlot = (s.sideAt i).activeSlot)
  /-- The active pokemon's boosts are replaced. -/
  | boosts (entry : RosterEntry) (values : List Int)
      (hevent : event.rosterSide = none)
      (hfind : findActive (s.sideAt i) = some entry)
      (hvalues : (∀ j, ∀ pv ∈ (s.sideAt j).pokemon, BoostsInRange pv.boosts) →
        BoostsInRange values)
      (hpokemon : (s'.sideAt i).pokemon =
        (s.sideAt i).pokemon.set entry.position { entry.view with boosts := values })
      (hslot : (s'.sideAt i).activeSlot = (s.sideAt i).activeSlot)
  /-- The whole team loses its status. -/
  | cure (cured : TeamStatusCured) (hevent : event = .teamStatusCured cured)
      (hside : cured.sideId = i.id)
      (hpokemon : (s'.sideAt i).pokemon =
        (s.sideAt i).pokemon.map fun pv => { pv with status := none })
      (hslot : (s'.sideAt i).activeSlot = (s.sideAt i).activeSlot)
  /-- Another pokemon enters the field. -/
  | activate (nickname details : String) (token : HpToken) (hp : HpObservation)
      (hevent : (∃ slot, event =
          .pokemonSwitched ⟨event.eventIndex, i.id, slot, nickname, details, token⟩) ∨
        ∃ slot, event =
          .pokemonDragged ⟨event.eventIndex, i.id, slot, nickname, details, token⟩)
      (hhp : tokenToObservation token i.id s.ourSide = .ok hp)
      (hpokemon : (s'.sideAt i).pokemon =
        (activatePokemon (s.sideAt i) nickname details hp token.status
          event.eventIndex).pokemon)
      (hslot : (s'.sideAt i).activeSlot = some 1)

end BattleBelief
