import BattleBelief.Observation.Timeline

/-!
# One Active Pokemon and a Clean Bench

Along every run a side has at most one active pokemon, its active slot is set exactly when it
has one, and whatever belongs to the field (boosts, volatiles, recharging, a transform target,
a suppressed ability) is gone from the pokemon on the bench.

Which pokemon are active is an invariant of the whole roster (`FieldFlags`); the rest are
invariants of single pokemon (`Fit`).
-/

namespace BattleBelief

open Runs

/-! ## §1 Who is active -/

/-- At most one flag is set, and the slot is filled exactly when one is. -/
structure FieldFlags (flags : List Bool) (slot : Option Int) : Prop where
  atMostOne : ∀ n m : Nat, flags[n]? = some true → flags[m]? = some true → n = m
  slot : slot.isSome ↔ true ∈ flags

/-- The active flags of a roster. -/
def activeFlags (pokemon : List PokemonView) : List Bool := pokemon.map fun pv => pv.active

/-- Two active pokemon of a roster stand at the same position. -/
theorem FieldFlags.same_position {pokemon : List PokemonView} {slot : Option Int}
    (h : FieldFlags (activeFlags pokemon) slot) {n m : Nat} {a b : PokemonView}
    (ha : pokemon[n]? = some a) (hb : pokemon[m]? = some b) (hactive : a.active = true)
    (hactive' : b.active = true) : n = m := by
  refine h.atMostOne n m ?_ ?_
  · rw [activeFlags, List.getElem?_map, ha, Option.map_some, hactive]
  · rw [activeFlags, List.getElem?_map, hb, Option.map_some, hactive']

@[simp] theorem EntryEdit.active_apply (edit : EntryEdit) (ei : Int) (pv : PokemonView) :
    (edit.apply ei pv).active = pv.active := by
  cases edit <;> simp only [EntryEdit.apply, changeForm]
  case reveal => split_ifs <;> rfl
  case volatileStart => split_ifs <;> rfl
  case form => split <;> rfl

theorem deactivate_active (pv : PokemonView) (ei : Int) : (deactivate pv ei).active = false := by
  unfold deactivate
  split_ifs with h
  · rfl
  · exact Bool.eq_false_iff.mpr h

/-- After a switch the flags are those of an empty field, and one more. -/
theorem activeFlags_activatePokemon (side : SideView) (nickname details : String)
    (hp : HpObservation) (status : Option String) (ei : Int) :
    ∃ flags : List Bool, (∀ flag ∈ flags, flag = false) ∧
      (activeFlags (activatePokemon side nickname details hp status ei).pokemon =
          flags ++ [true] ∨
        ∃ n < flags.length,
          activeFlags (activatePokemon side nickname details hp status ei).pokemon =
            flags.set n true) := by
  refine ⟨activeFlags (side.pokemon.map (deactivate · ei)), fun flag hflag => ?_, ?_⟩
  · obtain ⟨pv, hpv, rfl⟩ := List.mem_map.mp hflag
    obtain ⟨old, -, rfl⟩ := List.mem_map.mp hpv
    exact deactivate_active old ei
  · rw [activatePokemon_pokemon]
    split
    · left
      rw [activeFlags, List.map_append]
      rfl
    · next existing hfind =>
      right
      have hget := (findForSwitchIn_eq_some hfind).1
      obtain ⟨hlt, -⟩ := List.getElem?_eq_some_iff.mp hget
      refine ⟨existing.position, by rwa [activeFlags, List.length_map], ?_⟩
      rw [activeFlags, List.map_set]
      rfl

/-- One flag set among cleared ones. -/
theorem FieldFlags.of_single {flags : List Bool} (hfalse : ∀ flag ∈ flags, flag = false)
    {new : List Bool}
    (hnew : new = flags ++ [true] ∨ ∃ n < flags.length, new = flags.set n true)
    {slot : Option Int} (hslot : slot.isSome) : FieldFlags new slot := by
  have hold : ∀ n : Nat, flags[n]? ≠ some true := by
    intro n hn
    exact absurd (hfalse true (List.mem_of_getElem? hn)) (by decide)
  rcases hnew with rfl | ⟨k, hk, rfl⟩
  · have hplace : ∀ n : Nat, (flags ++ [true])[n]? = some true → n = flags.length := by
      intro n hn
      rw [List.getElem?_append] at hn
      split_ifs at hn with hlt
      · exact absurd hn (hold n)
      · obtain ⟨hone, -⟩ := List.getElem?_eq_some_iff.mp hn
        simp only [List.length_singleton] at hone
        omega
    exact ⟨fun n m hn hm => (hplace n hn).trans (hplace m hm).symm,
      iff_of_true hslot (List.mem_append_right _ (List.mem_singleton_self _))⟩
  · have hplace : ∀ n : Nat, (flags.set k true)[n]? = some true → n = k := by
      intro n hn
      by_contra hne
      rw [List.getElem?_set_ne (Ne.symm hne)] at hn
      exact hold n hn
    exact ⟨fun n m hn hm => (hplace n hn).trans (hplace m hm).symm,
      iff_of_true hslot (List.mem_of_getElem? (List.getElem?_set_self hk))⟩

/-- On either side, at most one pokemon is active and the slot says whether one is. -/
def FieldInvariant (s : ObservedState) : Prop :=
  ∀ i, FieldFlags (activeFlags (s.sideAt i).pokemon) (s.sideAt i).activeSlot

theorem fieldInvariant_initial (ourUserId : String) :
    FieldInvariant (ObservedState.initial ourUserId) := by
  have hempty : FieldFlags [] none := ⟨fun _ _ h => (nomatch h), by decide⟩
  intro i
  cases i
  · exact hempty
  · exact hempty

/-- Only a switch changes who is active. -/
theorem FieldInvariant.step {s s' : ObservedState} {event : BattleEvent} (hsided : s.WellSided)
    (hs : FieldInvariant s) (h : reduce s event = .ok s') : FieldInvariant s' := by
  obtain ⟨-, -, -, hsteps⟩ := reduce_step hsided h
  intro i
  cases hsteps i with
  | keep hevent hpokemon hslot =>
    rw [hpokemon, hslot]
    exact hs i
  | active entry edit hfind hedit hnick hpokemon hslot =>
    rw [hpokemon, hslot, activeFlags,
      map_set_eq_map (findActive_eq_some hfind).1 (edit.active_apply _ _)]
    exact hs i
  | bench health entry hp hevent hside hget hinactive hhp hpokemon hslot =>
    rw [hpokemon, hslot, activeFlags, map_set_eq_map hget (EntryEdit.active_apply _ _ _)]
    exact hs i
  | boosts entry values hevent hfind hvalues hpokemon hslot =>
    have hflags : activeFlags (s'.sideAt i).pokemon = activeFlags (s.sideAt i).pokemon :=
      hpokemon ▸ map_set_eq_map (findActive_eq_some hfind).1 rfl
    rw [hflags, hslot]
    exact hs i
  | cure cured hevent hside hpokemon hslot =>
    rw [hpokemon, hslot, activeFlags, List.map_map]
    exact hs i
  | activate nickname details token hp hevent hhp hpokemon hslot =>
    obtain ⟨flags, hfalse, hflags⟩ := activeFlags_activatePokemon (s.sideAt i) nickname details
      hp token.status event.eventIndex
    rw [hpokemon, hslot]
    exact FieldFlags.of_single hfalse hflags rfl

/-! ## §2 What a pokemon on the bench has lost -/

/-- Nothing that belongs to the field is left. -/
structure OnBench (pv : PokemonView) : Prop where
  boosts : pv.boosts = zeroBoosts
  volatiles : pv.volatiles = []
  recharging : pv.recharging = false
  transformTarget : pv.transformTarget = none
  ability : ∀ iv ∈ pv.abilityIntervals, ¬(iv.validUntil = none ∧ iv.value = none)

/-- A pokemon whose collections are in order, and which is clean if it is on the bench. -/
structure Fit (pv : PokemonView) : Prop where
  boosts : BoostsInRange pv.boosts
  volatiles : pv.volatiles.Pairwise (· < ·)
  revealedMoves : pv.revealedMoves.Nodup
  bench : pv.active = false → OnBench pv

/-- Switching out ends the suppression of the ability: no other interval can be open. -/
theorem not_open_none_of_switchOut {now ei : Int} {intervals : List EvidenceInterval}
    (h : Ordered now intervals) {iv : EvidenceInterval}
    (hiv : iv ∈ endAbilitySuppressionOnSwitchOut intervals ei) :
    ¬(iv.validUntil = none ∧ iv.value = none) := by
  rintro ⟨hopen, hnone⟩
  unfold endAbilitySuppressionOnSwitchOut at hiv
  have hlast : iv ∈ intervals → intervals.getLast? = some iv := by
    intro hmem
    obtain ⟨n, hn⟩ := List.mem_iff_getElem?.mp hmem
    have hlength := h.evidenceTimeline.openLast n iv hn hopen
    rw [List.getLast?_eq_getElem?, ← hlength]
    exact hn
  split at hiv
  · next last hgetLast =>
    split_ifs at hiv with hsuppressed
    · rw [closeOpenInterval_eq_map] at hiv
      obtain ⟨old, -, rfl⟩ := List.mem_map.mp hiv
      rw [EvidenceInterval.validUntil_closedAt] at hopen
      cases hopen
    · obtain rfl : last = iv := Option.some.inj (hgetLast.symm.trans (hlast hiv))
      exact hsuppressed ⟨hopen, hnone⟩
  · next hgetLast =>
    rw [hlast hiv] at hgetLast
    cases hgetLast

theorem OnBench.deactivate {now ei : Int} {pv : PokemonView} (htimes : Timelines now pv)
    (hfit : Fit pv) : OnBench (deactivate pv ei) := by
  unfold BattleBelief.deactivate
  split_ifs with hactive
  · exact ⟨rfl, rfl, rfl, rfl, fun iv hiv => not_open_none_of_switchOut htimes.ability hiv⟩
  · exact hfit.bench (Bool.eq_false_iff.mpr hactive)

/-- An edit of the active pokemon keeps its collections in order. -/
theorem Fit.edit {ei : Int} {pv : PokemonView} (h : Fit pv) (hactive : pv.active = true)
    (edit : EntryEdit) : Fit (edit.apply ei pv) := by
  have hbench : (edit.apply ei pv).active = false → OnBench (edit.apply ei pv) := by
    intro hinactive
    rw [EntryEdit.active_apply, hactive] at hinactive
    cases hinactive
  cases edit with
  | faint => exact ⟨boostsInRange_zero, .nil, h.revealedMoves, hbench⟩
  | reveal moveId =>
    refine ⟨?_, ?_, ?_, hbench⟩ <;> simp only [EntryEdit.apply] <;> split_ifs with hknown
    · exact h.boosts
    · exact h.boosts
    · exact h.volatiles
    · exact h.volatiles
    · exact h.revealedMoves
    · exact List.Nodup.append h.revealedMoves (List.nodup_singleton _) (by simpa using hknown)
  | form event hp =>
    refine ⟨?_, ?_, ?_, hbench⟩ <;> simp only [EntryEdit.apply, changeForm] <;> split
    · exact h.boosts
    · exact h.boosts
    · exact h.volatiles
    · exact h.volatiles
    · exact h.revealedMoves
    · exact h.revealedMoves
  | volatileStart name =>
    refine ⟨?_, ?_, ?_, hbench⟩ <;> simp only [EntryEdit.apply] <;> split_ifs with hknown
    · exact h.boosts
    · exact h.boosts
    · exact h.volatiles
    · have hnodup : pv.volatiles.Nodup := h.volatiles.imp fun hlt => hlt.ne
      exact Python.sorted_strict
        (List.Nodup.append hnodup (List.nodup_singleton _) (by simpa using hknown))
    · exact h.revealedMoves
    · exact h.revealedMoves
  | volatileEnd name => exact ⟨h.boosts, h.volatiles.filter _, h.revealedMoves, hbench⟩
  | _ => exact ⟨h.boosts, h.volatiles, h.revealedMoves, hbench⟩

/-- Fitness depends on the fields it names. -/
theorem Fit.congr {pv pv' : PokemonView} (h : Fit pv) (hactive : pv'.active = pv.active)
    (hboosts : pv'.boosts = pv.boosts) (hvolatiles : pv'.volatiles = pv.volatiles)
    (hmoves : pv'.revealedMoves = pv.revealedMoves)
    (hrecharging : pv'.recharging = pv.recharging)
    (htransform : pv'.transformTarget = pv.transformTarget)
    (hability : pv'.abilityIntervals = pv.abilityIntervals) : Fit pv' where
  boosts := hboosts ▸ h.boosts
  volatiles := hvolatiles ▸ h.volatiles
  revealedMoves := hmoves ▸ h.revealedMoves
  bench hinactive := by
    obtain ⟨b, v, r, t, a⟩ := h.bench (hactive ▸ hinactive)
    exact ⟨hboosts ▸ b, hvolatiles ▸ v, hrecharging ▸ r, htransform ▸ t, hability ▸ a⟩

/-- Fitness is an invariant of single pokemon, given that their intervals are in order. -/
theorem fit_invariant : PokemonInvariant fun now pv => Timelines now pv ∧ Fit pv where
  later h hlt := ⟨timelines_invariant.later h.1 hlt, h.2⟩
  edit {now ei pv} edit h hlt hentry := by
    refine ⟨timelines_invariant.edit edit h.1 hlt hentry, ?_⟩
    rcases hentry with hactive | ⟨hp, status, fainted, rfl⟩
    · exact h.2.edit hactive edit
    · exact h.2.congr rfl rfl rfl rfl rfl rfl rfl
  boosts {now ei pv values} h hlt hvalues hactive := by
    refine ⟨timelines_invariant.boosts h.1 hlt hvalues hactive, hvalues, h.2.volatiles,
      h.2.revealedMoves, fun hinactive => ?_⟩
    rw [hactive] at hinactive
    cases hinactive
  cure h hlt := ⟨timelines_invariant.cure h.1 hlt, h.2.congr rfl rfl rfl rfl rfl rfl rfl⟩
  deactivate {now ei pv} h hlt := by
    refine ⟨timelines_invariant.deactivate h.1 hlt, ?_, ?_, ?_, fun _ => .deactivate h.1 h.2⟩
    · exact boostsInRange_invariant.deactivate h.2.boosts hlt
    · unfold BattleBelief.deactivate
      split_ifs
      · exact .nil
      · exact h.2.volatiles
    · unfold BattleBelief.deactivate
      split_ifs <;> exact h.2.revealedMoves
  reenter details hp status h :=
    ⟨timelines_invariant.reenter details hp status h.1, boostsInRange_zero, .nil,
      h.2.revealedMoves, fun hinactive => by cases hinactive⟩
  newcomer ei sideId nickname details hp status :=
    ⟨timelines_invariant.newcomer ei sideId nickname details hp status, boostsInRange_zero, .nil,
      .nil, fun hinactive => by cases hinactive⟩

/-! ## §3 The roster along a run -/

/-- A side with at most one active pokemon and a clean bench. -/
structure CleanRoster (side : SideView) : Prop where
  atMostOneActive : ∀ (n m : Nat) (a b : PokemonView), side.pokemon[n]? = some a → side.pokemon[m]? = some b →
    a.active = true → b.active = true → n = m
  activeSlot : side.activeSlot.isSome ↔ ∃ pv ∈ side.pokemon, pv.active = true
  fit : ∀ pv ∈ side.pokemon, Fit pv

theorem CleanRoster.of_flags {side : SideView}
    (hflags : FieldFlags (activeFlags side.pokemon) side.activeSlot)
    (hfit : ∀ pv ∈ side.pokemon, Fit pv) : CleanRoster side where
  atMostOneActive n m a b := hflags.same_position
  activeSlot := by
    rw [hflags.slot, activeFlags, List.mem_map]
  fit := hfit

theorem fieldInvariant_run {ourUserId : String} {events : List BattleEvent} {s : ObservedState}
    (hrun : RunsTo reduce (ObservedState.initial ourUserId) events s) : FieldInvariant s := by
  have hboth : SoundState s ∧ FieldInvariant s := by
    refine invariant (I := fun s => SoundState s ∧ FieldInvariant s) ?_
      ⟨soundState_initial ourUserId, fieldInvariant_initial ourUserId⟩ hrun
    rintro s event s' ⟨hsound, hfield⟩ h
    exact ⟨hsound.step h, hfield.step hsound.sided h⟩
  exact hboth.2

/-- **Single active pokemon and bench purity.** In every state that a run of accepted events
reaches, both rosters are clean. -/
theorem clean_rosters {ourUserId : String} {events : List BattleEvent} {s : ObservedState}
    (hrun : RunsTo reduce (ObservedState.initial ourUserId) events s) (i : SideRef) :
    CleanRoster (s.sideAt i) :=
  .of_flags (fieldInvariant_run hrun i) fun pv hpv => ((fit_invariant.run hrun).2 i pv hpv).2

/-- A boosted pokemon leaves the field. -/
def boostedOut : List BattleEvent :=
  [.pokemonSwitched ⟨0, "p1", 1, "Scizor", "Scizor, F", ⟨100, 100, none, false⟩⟩,
    .boostChanged ⟨1, "p1", 1, "Scizor", "atk", .delta, 2⟩,
    .volatileChanged ⟨2, "p1", 1, "Scizor", "Substitute", "start", []⟩,
    .pokemonSwitched ⟨3, "p1", 1, "Rotom", "Rotom-Wash", ⟨100, 100, none, false⟩⟩]

theorem clean_rosters_boosted_out :
    ∃ s, RunsTo reduce (ObservedState.initial "ash") boostedOut s ∧
      s.p1.pokemon.map (fun pv => (pv.nickname, pv.active)) =
        [("Scizor", false), ("Rotom", true)] ∧
      CleanRoster s.p1 :=
  ⟨_, rfl, rfl, @clean_rosters "ash" boostedOut _ rfl .p1⟩

end BattleBelief
