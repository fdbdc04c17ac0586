import BattleBelief.Engine.StateMapper
import BattleBelief.Observation.Bench

/-!
# The HP Precision of a Root

`map_observed_root` tells the engine how exactly the opponent's HP is public. It looks the pokemon up
by the active slot, as a place in the roster. The reducer sets that slot to one, the only slot of a
singles battle, and keeps the roster in the order in which the pokemon were first seen.

`root_precision_iff`: the opponent's entry is the one of its active pokemon exactly where the pokemon
that was seen first has the same precision and maximum.
-/

namespace BattleBelief

open Runs

/-! ## §1 What the entry should be -/

/-- How exactly the HP of a pokemon is public. -/
def PokemonView.publicHp (pv : PokemonView) : PublicHp :=
  match pv.hp with
  | none => percentHp
  | some observation => (observation.precision, observation.maximum)

/-- The entry of the active pokemon, by its flag. -/
def activePublicHp (side : SideView) : PublicHp :=
  match findActive side with
  | none => percentHp
  | some entry => entry.view.publicHp

/-- The player on the other side. -/
def Player.opponent : Player → Player
  | .p1 => .p2
  | .p2 => .p1

/-- The side that a player is on. -/
def Player.sideRef : Player → SideRef
  | .p1 => .p1
  | .p2 => .p2

/-- Where the pokemon seen first is not the active one, its HP is public as exactly. -/
def LeadSharesScale (side : SideView) : Prop :=
  ∀ lead, side.pokemon.head? = some lead → lead.active = false →
    ∀ entry, findActive side = some entry → lead.publicHp = entry.view.publicHp

/-! ## §2 The active slot -/

/-- The slot is the only one of a singles battle. -/
def SinglesSlot (s : ObservedState) : Prop :=
  ∀ i, (s.sideAt i).activeSlot = none ∨ (s.sideAt i).activeSlot = some 1

theorem singlesSlot_initial (ourUserId : String) :
    SinglesSlot (ObservedState.initial ourUserId) := by
  intro i
  cases i <;> exact .inl rfl

theorem SinglesSlot.step {s s' : ObservedState} {event : BattleEvent} (hsided : s.WellSided)
    (hs : SinglesSlot s) (h : reduce s event = .ok s') : SinglesSlot s' := by
  obtain ⟨-, -, -, hsteps⟩ := reduce_step hsided h
  intro i
  cases hsteps i with
  | activate nickname details token hp hevent hhp hpokemon hslot => exact .inr hslot
  | keep hevent hpokemon hslot => exact hslot ▸ hs i
  | active entry edit hfind hedit hnick hpokemon hslot => exact hslot ▸ hs i
  | bench health entry hp hevent hside hget hinactive hhp hpokemon hslot => exact hslot ▸ hs i
  | boosts entry values hevent hfind hvalues hpokemon hslot => exact hslot ▸ hs i
  | cure cured hevent hside hpokemon hslot => exact hslot ▸ hs i

theorem singlesSlot_run {ourUserId : String} {events : List BattleEvent} {s : ObservedState}
    (hrun : RunsTo reduce (ObservedState.initial ourUserId) events s) : SinglesSlot s := by
  have hboth : SoundState s ∧ SinglesSlot s := by
    refine invariant (I := fun s => SoundState s ∧ SinglesSlot s) ?_
      ⟨soundState_initial ourUserId, singlesSlot_initial ourUserId⟩ hrun
    rintro s event s' ⟨hsound, hslot⟩ h
    exact ⟨hsound.step h, hslot.step hsound.sided h⟩
  exact hboth.2

/-! ## §3 The entry that is given -/

/-- With the slot of a singles battle, the place looked up is the first of the roster. -/
theorem observedHpPrecision_of_slot {side : SideView} {lead : PokemonView}
    {rest : List PokemonView} (hslot : side.activeSlot = some 1)
    (hpokemon : side.pokemon = lead :: rest) : observedHpPrecision side = lead.publicHp := by
  have hrange : (1 : Int) ≤ 1 ∧ (1 : Int) ≤ ((lead :: rest).length : Int) := by simp
  simp only [observedHpPrecision, hslot, hpokemon]
  rw [if_pos hrange]
  cases hhp : lead.hp with
  | none => simp [PokemonView.publicHp, hhp]
  | some observation => simp [PokemonView.publicHp, hhp]

/-- On a side as the reducer leaves it, the entry is right exactly if the lead shares the scale. -/
theorem observedHpPrecision_eq_iff {side : SideView}
    (hflags : FieldFlags (activeFlags side.pokemon) side.activeSlot)
    (hslot : side.activeSlot = none ∨ side.activeSlot = some 1) :
    observedHpPrecision side = activePublicHp side ↔ LeadSharesScale side := by
  cases hactive : findActive side with
  | none =>
    have hnone : side.activeSlot = none := by
      refine hslot.resolve_right fun hone => ?_
      have hmem : true ∈ activeFlags side.pokemon := hflags.slot.mp (by rw [hone]; rfl)
      obtain ⟨pv, hpv, hflag⟩ := List.mem_map.mp hmem
      rw [findActive_eq_none.mp hactive pv hpv] at hflag
      cases hflag
    refine iff_of_true ?_ fun lead hlead hinactive entry hentry => ?_
    · simp only [observedHpPrecision, hnone, activePublicHp, hactive]
    · rw [hactive] at hentry
      cases hentry
  | some entry =>
    obtain ⟨hget, hflag⟩ := findActive_eq_some hactive
    have hone : side.activeSlot = some 1 := by
      refine hslot.resolve_left fun hnone => ?_
      have hsome : side.activeSlot.isSome :=
        hflags.slot.mpr (List.mem_map.mpr ⟨_, List.mem_of_getElem? hget, hflag⟩)
      rw [hnone] at hsome
      cases hsome
    cases hpokemon : side.pokemon with
    | nil =>
      rw [hpokemon] at hget
      cases hget
    | cons lead rest =>
      rw [observedHpPrecision_of_slot hone hpokemon, activePublicHp, hactive]
      constructor
      · intro h lead' hlead _ entry' hentry
        rw [hpokemon, List.head?_cons] at hlead
        rw [hactive] at hentry
        cases hlead
        cases hentry
        exact h
      · intro h
        cases hleadFlag : lead.active with
        | false => exact h lead (by rw [hpokemon]; rfl) hleadFlag entry hactive
        | true =>
          -- the active pokemon is the lead itself
          have hplace : entry.position = 0 :=
            hflags.same_position hget (by rw [hpokemon]; rfl) hflag hleadFlag
          rw [hplace, hpokemon, List.getElem?_cons_zero] at hget
          rw [Option.some.inj hget]

section Roots

variable [Python.UnicodeDatabase] [Rfc8785]

/-- What an accepted root says of the opponent. -/
theorem publicHp_of_mapObservedRoot {s : ObservedState} {root : ObservedRoot}
    (h : mapObservedRoot s = .ok root) :
    root.rootPlayer.opponent.pick root.publicHp =
      observedHpPrecision (s.sideAt root.rootPlayer.opponent.sideRef) := by
  unfold mapObservedRoot at h
  split_ifs at h
  cases hplayer : Player.ofSide s.ourSide with
  | none =>
    rw [hplayer] at h
    cases h
  | some player =>
    rw [hplayer] at h
    obtain ⟨digest, hdigest, hroot⟩ := bind_eq_ok.mp h
    obtain rfl := Except.ok.inj hroot
    cases player <;> rfl

end Roots

/-- **The opponent's HP precision.** In every state that the reducer reaches and the mapper accepts,
the opponent's entry is the one of its active pokemon exactly if no other pokemon was seen first, or
that one's HP is public as exactly. -/
theorem root_precision_iff [Python.UnicodeDatabase] [Rfc8785] (ourUserId : String)
    (events : List BattleEvent) (s : ObservedState) (root : ObservedRoot)
    (hrun : RunsTo reduce (ObservedState.initial ourUserId) events s)
    (hroot : mapObservedRoot s = .ok root) :
    root.rootPlayer.opponent.pick root.publicHp =
        activePublicHp (s.sideAt root.rootPlayer.opponent.sideRef) ↔
      LeadSharesScale (s.sideAt root.rootPlayer.opponent.sideRef) := by
  rw [publicHp_of_mapObservedRoot hroot]
  exact observedHpPrecision_eq_iff (fieldInvariant_run hrun _) (singlesSlot_run hrun _)

/-! ## §4 A lead on the bench -/

/-- A battle in which the opponent leads with Pikachu, whose HP is seen in percent, and brings in
Garchomp. -/
def benchedLead (maximum : Int) : List BattleEvent :=
  [.battleInit ⟨0, "battle"⟩,
    .playerDeclared ⟨1, "p1", "ash", "Ash"⟩,
    .generationDeclared ⟨2, 9⟩,
    .gameTypeDeclared ⟨3, "singles"⟩,
    .tierDeclared ⟨4, "gen9ou"⟩,
    .battleStarted ⟨5⟩,
    .pokemonSwitched ⟨6, "p2", 1, "Pikachu", "Pikachu, M", ⟨100, 100, none, false⟩⟩,
    .pokemonSwitched ⟨7, "p2", 1, "Garchomp", "Garchomp, F", ⟨maximum, maximum, none, false⟩⟩]

/-- The battle is accepted as a root, and the opponent's entry is Pikachu's. -/
theorem benchedLead_root {maximum : Int} (hmaximum : maximum = 48 ∨ maximum = 100) :
    letI := Python.asciiDatabase
    letI := compactCanonicalizer
    ∃ s root, RunsTo reduce (ObservedState.initial "ash") (benchedLead maximum) s ∧
      mapObservedRoot s = .ok root ∧ root.rootPlayer = .p1 ∧ root.publicHp.2 = percentHp ∧
      activePublicHp s.p2 = (if maximum = 100 then .percent else .pixel, maximum) := by
  let _ := Python.asciiDatabase
  let _ := compactCanonicalizer
  have hreached : ∃ s, RunsTo reduce (ObservedState.initial "ash") (benchedLead maximum) s ∧
      (do
        let root ← mapObservedRoot s
        pure (root.rootPlayer, root.publicHp.2) : Except EngineError (Player × PublicHp)) =
          .ok (.p1, percentHp) ∧
      activePublicHp s.p2 = (if maximum = 100 then .percent else .pixel, maximum) := by
    rcases hmaximum with rfl | rfl
    · exact ⟨_, rfl, by decide +kernel, by decide +kernel⟩
    · exact ⟨_, rfl, by decide +kernel, by decide +kernel⟩
  obtain ⟨s, hrun, hsteps, hactive⟩ := hreached
  obtain ⟨root, hroot, hfacts⟩ := bind_eq_ok.mp hsteps
  obtain ⟨hplayer, hpublic⟩ := Prod.mk.inj (Except.ok.inj hfacts)
  exact ⟨s, root, hrun, hroot, hplayer, hpublic, hactive⟩

/-- Garchomp is seen in percent like Pikachu, and the entry is right. -/
theorem root_precision_percent :
    letI := Python.asciiDatabase
    letI := compactCanonicalizer
    ∃ s root, RunsTo reduce (ObservedState.initial "ash") (benchedLead 100) s ∧
      mapObservedRoot s = .ok root ∧
      root.publicHp.2 = activePublicHp s.p2 ∧ LeadSharesScale s.p2 := by
  let _ := Python.asciiDatabase
  let _ := compactCanonicalizer
  obtain ⟨s, root, hrun, hroot, hplayer, hpublic, hactive⟩ := benchedLead_root (.inr rfl)
  have hiff := root_precision_iff "ash" (benchedLead 100) s root hrun hroot
  rw [hplayer] at hiff
  have hright : root.publicHp.2 = activePublicHp s.p2 := by
    rw [hpublic, hactive]
    rfl
  exact ⟨s, root, hrun, hroot, hright, hiff.mp hright⟩

/-- Garchomp is seen in pixels, and the engine is told that its HP is public in percent. -/
theorem root_precision_of_lead :
    ¬∀ [Python.UnicodeDatabase] [Rfc8785] (ourUserId : String) (events : List BattleEvent)
      (s : ObservedState) (root : ObservedRoot),
      RunsTo reduce (ObservedState.initial ourUserId) events s → mapObservedRoot s = .ok root →
        root.rootPlayer.opponent.pick root.publicHp =
          activePublicHp (s.sideAt root.rootPlayer.opponent.sideRef) := by
  intro hclaim
  let _ := Python.asciiDatabase
  let _ := compactCanonicalizer
  obtain ⟨s, root, hrun, hroot, hplayer, hpublic, hactive⟩ := benchedLead_root (.inl rfl)
  have hright := hclaim "ash" (benchedLead 48) s root hrun hroot
  rw [hplayer] at hright
  have hsame : percentHp = activePublicHp s.p2 := hpublic.symm.trans hright
  rw [hactive] at hsame
  revert hsame
  decide

end BattleBelief
