import BattleBelief.Observation.Bench

/-!
# Roster Identities

A switch line names a pokemon by nickname and details, and the roster is searched for an entry
with that nickname and switch identity. The search is written for rosters in which no two
entries agree on both.

Switches keep identities apart: they add an entry only when the search fails. What can bring two
together is a rewriting of the active entry, by an identity change or a persistent form change.
`identities_apart_iff` says that nothing else can.
-/

namespace BattleBelief

open Runs

/-! ## §1 Identities -/

/-- What a switch line recognizes a pokemon by. -/
def identityKey (pv : PokemonView) : String × String := (pv.nickname, pv.switchIdentity)

def identityKeys (side : SideView) : List (String × String) := side.pokemon.map identityKey

/-- No two entries of either roster have the same nickname and switch identity. -/
def IdentitiesApart (s : ObservedState) : Prop := ∀ i, (identityKeys (s.sideAt i)).Nodup

/-- With identities apart, a switch line can mean one entry only. -/
theorem IdentitiesApart.resolves {s : ObservedState} (h : IdentitiesApart s) {i : SideRef}
    {n m : Nat} {a b : PokemonView} (ha : (s.sideAt i).pokemon[n]? = some a)
    (hb : (s.sideAt i).pokemon[m]? = some b) (hkey : identityKey a = identityKey b) : n = m := by
  have hkeys : (identityKeys (s.sideAt i))[n]? = (identityKeys (s.sideAt i))[m]? := by
    rw [identityKeys, List.getElem?_map, List.getElem?_map, ha, hb, Option.map_some,
      Option.map_some, hkey]
  obtain ⟨hlt, -⟩ := List.getElem?_eq_some_iff.mp ha
  exact (List.getElem?_inj (by rwa [identityKeys, List.length_map]) (h i)).mp hkeys

/-- The identity that an event gives to the active pokemon of a side: side, nickname and
details. -/
def BattleEvent.newIdentity : BattleEvent → Option (String × String × String)
  | .identityChanged event => some (event.sideId, event.nickname, event.details)
  | .formChanged event =>
      match event.kind with
      | .persistentDetails => some (event.sideId, event.nickname, event.value)
      | .temporarySpecies => none
  | _ => none

/-- A pokemon on the bench already has the identity. -/
def IdentityTaken (side : SideView) (nickname details : String) : Prop :=
  ∃ pv ∈ side.pokemon, pv.active = false ∧
    identityKey pv = (nickname, normalizeIdentityDetails details)

/-- If the event gives the active pokemon of the side at `i` an identity, nobody on the bench
has it. -/
def GivesFreeIdentityAt (s : ObservedState) (event : BattleEvent) (i : SideRef) : Prop :=
  ∀ nickname details, event.newIdentity = some (i.id, nickname, details) →
    ¬IdentityTaken (s.sideAt i) nickname details

/-- The same, on whichever side the event is about. -/
def GivesFreeIdentity (s : ObservedState) (event : BattleEvent) : Prop :=
  ∀ i, GivesFreeIdentityAt s event i

/-- An event that gives a new identity rewrites that side's roster. -/
theorem rosterSide_of_newIdentity {event : BattleEvent} {sideId nickname details : String}
    (h : event.newIdentity = some (sideId, nickname, details)) :
    event.rosterSide = some sideId := by
  cases event with
  | identityChanged event =>
    cases h
    rfl
  | formChanged event =>
    simp only [BattleEvent.newIdentity] at h
    split at h
    · cases h
      rfl
    · cases h
  | _ => cases h

/-! ## §2 Rewriting one key -/

/-- Writing `k` at a place keeps a list free of duplicates exactly when no other place has it. -/
theorem nodup_set_iff {α : Type} {l : List α} (h : l.Nodup) {n : Nat} (hn : n < l.length) (k : α) :
    (l.set n k).Nodup ↔ ∀ m, m ≠ n → l[m]? ≠ some k := by
  constructor
  · intro hset m hmn hm
    obtain ⟨hlt, -⟩ := List.getElem?_eq_some_iff.mp hm
    refine hmn ((List.getElem?_inj (by rwa [List.length_set]) hset).mp ?_)
    rw [List.getElem?_set_ne (Ne.symm hmn), List.getElem?_set_self hn, hm]
  · intro hfree
    rw [List.nodup_iff_getElem?_ne_getElem?]
    intro i j hij hj heq
    rw [List.length_set] at hj
    have hi : i < l.length := hij.trans hj
    rw [List.getElem?_set, List.getElem?_set] at heq
    split_ifs at heq with hni hnj hnj
    · omega
    · exact hfree j (by omega) heq.symm
    · exact hfree i (by omega) heq
    · exact absurd ((List.getElem?_inj hi h).mp heq) (by omega)

/-- The other entries of a side with an active pokemon are its bench. -/
theorem identityTaken_iff {side : SideView}
    (hflags : FieldFlags (activeFlags side.pokemon) side.activeSlot) {entry : RosterEntry}
    (hfind : findActive side = some entry) (nickname details : String) :
    IdentityTaken side nickname details ↔ ∃ m, m ≠ entry.position ∧
      (identityKeys side)[m]? = some (nickname, normalizeIdentityDetails details) := by
  obtain ⟨hget, hactive⟩ := findActive_eq_some hfind
  constructor
  · rintro ⟨pv, hpv, hinactive, hkey⟩
    obtain ⟨m, hm⟩ := List.mem_iff_getElem?.mp hpv
    refine ⟨m, ?_, by rw [identityKeys, List.getElem?_map, hm, Option.map_some, hkey]⟩
    rintro rfl
    rw [hget] at hm
    rw [Option.some.inj hm, hinactive] at hactive
    cases hactive
  · rintro ⟨m, hne, hkey⟩
    rw [identityKeys, List.getElem?_map] at hkey
    obtain ⟨pv, hpv, hpvKey⟩ := Option.map_eq_some_iff.mp hkey
    refine ⟨pv, List.mem_of_getElem? hpv, ?_, hpvKey⟩
    by_contra hactivePv
    exact hne (hflags.same_position hpv hget (Bool.not_eq_false _ ▸ hactivePv) hactive)

/-! ## §3 One step -/

theorem identityKeys_set {side side' : SideView} {n : Nat} {old new : PokemonView}
    (hpokemon : side'.pokemon = side.pokemon.set n new) (hget : side.pokemon[n]? = some old)
    (hkey : identityKey new = identityKey old) : identityKeys side' = identityKeys side := by
  rw [identityKeys, hpokemon, map_set_eq_map hget hkey, identityKeys]

/-- Edits other than a change of identity or a persistent form change keep the key. -/
theorem identityKey_apply {ourSide : Option String} {event : BattleEvent} {sideId : String}
    {edit : EntryEdit} (hedit : Edits ourSide event sideId edit)
    (hkeep : event.newIdentity = none) (ei : Int) (pv : PokemonView) :
    identityKey (edit.apply ei pv) = identityKey pv := by
  cases hedit with
  | identityChanged event hp hhp => cases hkeep
  | formChanged event hp hhp =>
    simp only [BattleEvent.newIdentity] at hkeep
    split at hkeep
    · cases hkeep
    · next hkind => simp only [EntryEdit.apply, changeForm, hkind, identityKey]
  | moveUsed event =>
    simp only [EntryEdit.apply]
    split_ifs <;> rfl
  | volatileStarted event haction =>
    simp only [EntryEdit.apply]
    split_ifs <;> rfl
  | _ => rfl

/-- Where an edit changes the identity, it writes the new one. -/
theorem identityKey_apply_new {ourSide : Option String} {event : BattleEvent}
    {sideId sideId' nickname details : String} {edit : EntryEdit}
    (hedit : Edits ourSide event sideId edit)
    (hnew : event.newIdentity = some (sideId', nickname, details)) (ei : Int) {pv : PokemonView}
    (hnickname : ∀ name, event.editedNickname = some name → pv.nickname = name) :
    sideId' = sideId ∧
      identityKey (edit.apply ei pv) = (nickname, normalizeIdentityDetails details) := by
  cases hedit with
  | identityChanged event hp hhp =>
    cases hnew
    exact ⟨rfl, rfl⟩
  | formChanged event hp hhp =>
    simp only [BattleEvent.newIdentity] at hnew
    split at hnew
    · next hkind =>
      cases hnew
      refine ⟨rfl, ?_⟩
      simp only [EntryEdit.apply, changeForm, hkind, identityKey]
      rw [hnickname event.nickname rfl]
    · cases hnew
  | _ => cases hnew

theorem identityKey_deactivate (pv : PokemonView) (ei : Int) :
    identityKey (deactivate pv ei) = identityKey pv := by
  unfold deactivate
  split_ifs <;> rfl

theorem identityKey_newcomer (sideId nickname details : String) (hp : HpObservation)
    (status : Option String) : identityKey (newcomer sideId nickname details hp status) =
      (nickname, normalizeIdentityDetails details) := by
  simp only [newcomer, PokemonView.new, identityKey, Prod.mk.injEq, true_and]
  split_ifs with h
  · subst h
    decide
  · rfl

/-- A switch keeps identities apart: it adds only one that the roster does not have. -/
theorem nodup_identityKeys_activatePokemon {side : SideView} (h : (identityKeys side).Nodup)
    (nickname details : String) (hp : HpObservation) (status : Option String) (ei : Int) :
    (identityKeys (activatePokemon side nickname details hp status ei)).Nodup := by
  have hkeys : (side.pokemon.map (deactivate · ei)).map identityKey = identityKeys side := by
    rw [List.map_map]
    exact List.map_congr_left fun pv _ => identityKey_deactivate pv ei
  rw [identityKeys, activatePokemon_pokemon]
  split
  · next hfind =>
    rw [List.map_append, hkeys]
    refine List.Nodup.append h (List.nodup_singleton _) ?_
    rw [List.map_singleton, identityKey_newcomer, List.disjoint_singleton]
    intro hmem
    obtain ⟨pv, hpv, hkey⟩ := List.mem_map.mp (hkeys ▸ hmem)
    exact findForSwitchIn_eq_none.mp hfind pv hpv (Prod.mk.inj hkey)
  · next existing hfind =>
    have hsame : identityKey (reenter existing.view details hp status) =
        identityKey existing.view := rfl
    rw [map_set_eq_map (findForSwitchIn_eq_some hfind).1 hsame, hkeys]
    exact h

/-- What an accepted event does to the identities of one side: they stay apart unless it gives
the active pokemon one that its bench has. -/
theorem identities_side_step {s s' : ObservedState} {event : BattleEvent} {i : SideRef}
    (hfield : FieldInvariant s) (h : (identityKeys (s.sideAt i)).Nodup)
    (hstep : SideStep s event i s') :
    (identityKeys (s'.sideAt i)).Nodup ↔ GivesFreeIdentityAt s event i := by
  -- where the keys stay as they are, the event must give no identity on this side
  have hsame : identityKeys (s'.sideAt i) = identityKeys (s.sideAt i) →
      (∀ nickname details, event.newIdentity ≠ some (i.id, nickname, details)) →
      ((identityKeys (s'.sideAt i)).Nodup ↔ GivesFreeIdentityAt s event i) := fun hk hn =>
    iff_of_true (hk ▸ h) fun nickname details hnew => absurd hnew (hn nickname details)
  cases hstep with
  | keep hevent hpokemon hslot =>
    exact hsame (congrArg (List.map identityKey) hpokemon) fun nickname details hnew =>
      hevent (rosterSide_of_newIdentity hnew)
  | active entry edit hfind hedit hnick hpokemon hslot =>
    obtain ⟨hget, -⟩ := findActive_eq_some hfind
    cases hnew : event.newIdentity with
    | none =>
      exact hsame (identityKeys_set hpokemon hget (identityKey_apply hedit hnew _ _))
        fun nickname details => by rw [hnew]; exact nofun
    | some identity =>
      obtain ⟨sideId, nickname, details⟩ := identity
      obtain ⟨rfl, hkey⟩ := identityKey_apply_new hedit hnew event.eventIndex hnick
      obtain ⟨hlt, -⟩ := List.getElem?_eq_some_iff.mp hget
      have hkeys : identityKeys (s'.sideAt i) = (identityKeys (s.sideAt i)).set entry.position
          (nickname, normalizeIdentityDetails details) := by
        rw [identityKeys, hpokemon, List.map_set, hkey, identityKeys]
      rw [hkeys, nodup_set_iff h (by rwa [identityKeys, List.length_map])]
      constructor
      · rintro hfree nickname' details' hnew' htaken
        obtain ⟨rfl, rfl⟩ : nickname = nickname' ∧ details = details' := by
          simpa using hnew.symm.trans hnew'
        obtain ⟨m, hne, hm⟩ := (identityTaken_iff (hfield i) hfind nickname details).mp htaken
        exact hfree m hne hm
      · intro hfree m hne hm
        exact hfree nickname details hnew
          ((identityTaken_iff (hfield i) hfind nickname details).mpr ⟨m, hne, hm⟩)
  | bench health entry hp hevent hside hget hinactive hhp hpokemon hslot =>
    exact hsame (identityKeys_set hpokemon hget rfl)
      fun nickname details => by rw [hevent]; exact nofun
  | boosts entry values hevent hfind hvalues hpokemon hslot =>
    refine hsame (identityKeys_set hpokemon (findActive_eq_some hfind).1 rfl)
      fun nickname details hnew => ?_
    rw [rosterSide_of_newIdentity hnew] at hevent
    cases hevent
  | cure cured hevent hside hpokemon hslot =>
    refine hsame ?_ fun nickname details => by rw [hevent]; exact nofun
    rw [identityKeys, hpokemon, List.map_map]
    rfl
  | activate nickname details token hp hevent hhp hpokemon hslot =>
    refine iff_of_true ?_ fun nickname' details' hnew => ?_
    · have hkeys := nodup_identityKeys_activatePokemon h nickname details hp token.status
        event.eventIndex
      rwa [identityKeys, ← hpokemon] at hkeys
    · rcases hevent with ⟨slot, heq⟩ | ⟨slot, heq⟩
      · rw [heq] at hnew
        cases hnew
      · rw [heq] at hnew
        cases hnew

/-- An accepted event keeps identities apart exactly when it gives away only a free one. -/
theorem identities_step {s s' : ObservedState} {event : BattleEvent} (hsound : SoundState s)
    (hfield : FieldInvariant s) (h : IdentitiesApart s) (hstep : reduce s event = .ok s') :
    IdentitiesApart s' ↔ GivesFreeIdentity s event := by
  obtain ⟨-, -, -, hsteps⟩ := reduce_step hsound.sided hstep
  exact forall_congr' fun i => identities_side_step hfield (h i) (hsteps i)

/-! ## §4 Along a run -/

theorem identitiesApart_initial (ourUserId : String) :
    IdentitiesApart (ObservedState.initial ourUserId) := by
  intro i
  cases i <;> exact .nil

/-- **Roster identities.** The rosters of all states that a run of accepted events passes through
have identities apart exactly when every step of the run gives away only free ones. -/
theorem identities_apart_iff (ourUserId : String) (events : List BattleEvent) :
    HoldsAlong reduce IdentitiesApart (ObservedState.initial ourUserId) events ↔
      StepsMeet reduce GivesFreeIdentity (ObservedState.initial ourUserId) events := by
  refine holdsAlong_iff_stepsMeet (I := fun s => SoundState s ∧ FieldInvariant s) ?_ ?_
    ⟨soundState_initial ourUserId, fieldInvariant_initial ourUserId⟩
    (identitiesApart_initial ourUserId) events
  · rintro s event s' ⟨hsound, hfield⟩ h
    exact ⟨hsound.step h, hfield.step hsound.sided h⟩
  · rintro s event s' ⟨hsound, hfield⟩ hapart h
    exact identities_step hsound hfield hapart h

/-- A Zoroark is seen, and later seen again under the illusion of a teammate that was seen too.
When the illusion breaks, the teammate's entry gets the identity that Zoroark's entry has. -/
def brokenIllusion : List BattleEvent :=
  [.pokemonSwitched ⟨0, "p2", 1, "Zoroark", "Zoroark, M", ⟨100, 100, none, false⟩⟩,
    .pokemonSwitched ⟨1, "p2", 1, "Garchomp", "Garchomp, M", ⟨100, 100, none, false⟩⟩,
    .pokemonSwitched ⟨2, "p2", 1, "Corviknight", "Corviknight, F", ⟨100, 100, none, false⟩⟩,
    .pokemonSwitched ⟨3, "p2", 1, "Garchomp", "Garchomp, M", ⟨100, 100, none, false⟩⟩,
    .identityChanged ⟨4, "p2", 1, "Zoroark", "Zoroark, M", ⟨90, 100, none, false⟩⟩]

/-- Two entries for one pokemon, although every line was accepted. -/
theorem identities_not_apart_after_illusion :
    (∃ s, RunsTo reduce (ObservedState.initial "ash") brokenIllusion s ∧
      identityKeys s.p2 = [("Zoroark", "Zoroark, M"), ("Zoroark", "Zoroark, M"),
        ("Corviknight", "Corviknight, F")]) ∧
      ¬HoldsAlong reduce IdentitiesApart (ObservedState.initial "ash") brokenIllusion := by
  have hrun : ∃ s, RunsTo reduce (ObservedState.initial "ash") brokenIllusion s ∧
      identityKeys s.p2 = [("Zoroark", "Zoroark, M"), ("Zoroark", "Zoroark, M"),
        ("Corviknight", "Corviknight, F")] := ⟨_, rfl, by decide⟩
  refine ⟨hrun, fun h => ?_⟩
  obtain ⟨s, hs, hkeys⟩ := hrun
  have hnodup := holdsAlong_iff_forall_prefix.mp h brokenIllusion [] s
    (List.append_nil _).symm hs .p2
  rw [ObservedState.sideAt_p2, hkeys] at hnodup
  exact absurd hnodup (by decide)

end BattleBelief
