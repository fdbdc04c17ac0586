import BattleBelief.Observation.AppendOnly
import Mathlib.Data.List.Dedup

/-!
# Switches Find the Same Entry Again

As long as no event rewrites the identity of the active pokemon, nickname and switch identity
together name one roster entry: the roster has an entry for each pair that a switch or drag has
named, and whoever comes back comes back to the entry it left.

- `rosterKeys_run`: the identities on a roster are those that have entered
- `memory_benched`: what is known of a pokemon does not change on the bench
- `switch_tracking`: the count, and what a re-entry finds
-/

namespace BattleBelief

open Runs

/-! ## §1 Who has entered -/

/-- The identity that a switch or drag brings in on the side at `i`. -/
def enteredKey (i : SideRef) (event : BattleEvent) : Option (String × String) :=
  match event.entrance with
  | some (sideId, nickname, details) =>
      if sideId = i.id then some (nickname, normalizeIdentityDetails details) else none
  | none => none

/-- All identities that events bring in on the side at `i`, one for each switch or drag. -/
def enteredKeys (i : SideRef) (events : List BattleEvent) : List (String × String) :=
  events.filterMap (enteredKey i)

theorem enteredKey_eq_some {i : SideRef} {event : BattleEvent} {nickname details : String}
    (h : event.entrance = some (i.id, nickname, details)) :
    enteredKey i event = some (nickname, normalizeIdentityDetails details) := by
  rw [enteredKey, h]
  exact if_pos rfl

theorem enteredKeys_concat (i : SideRef) (past : List BattleEvent) (event : BattleEvent) :
    enteredKeys i (past ++ [event]) = enteredKeys i past ++ (enteredKey i event).toList := by
  rw [enteredKeys, List.filterMap_append, enteredKeys]
  cases hkey : enteredKey i event with
  | none => rw [List.filterMap_cons_none hkey, List.filterMap_nil, Option.toList_none]
  | some key => rw [List.filterMap_cons_some hkey, List.filterMap_nil, Option.toList_some]

/-- Events that rewrite an entry of another kind bring nobody in. -/
theorem enteredKey_eq_none {i : SideRef} {event : BattleEvent}
    (h : ∀ nickname details, event.entrance ≠ some (i.id, nickname, details)) :
    enteredKey i event = none := by
  unfold enteredKey
  split
  · next sideId nickname details hentrance =>
    refine if_neg fun hside => h nickname details ?_
    rw [hentrance, hside]
  · rfl

theorem rosterSide_of_entrance {event : BattleEvent} {sideId nickname details : String}
    (h : event.entrance = some (sideId, nickname, details)) :
    event.rosterSide = some sideId := by
  cases event with
  | pokemonSwitched event =>
    cases h
    rfl
  | pokemonDragged event =>
    cases h
    rfl
  | _ => cases h

theorem Edits.entrance {ourSide : Option String} {event : BattleEvent} {sideId : String}
    {edit : EntryEdit} (h : Edits ourSide event sideId edit) : event.entrance = none := by
  cases h <;> rfl

/-- Whose identity a switch brings to the roster. -/
theorem mem_identityKeys_activatePokemon {side : SideView} {nickname details : String}
    {hp : HpObservation} {status : Option String} {ei : Int} {key : String × String} :
    key ∈ identityKeys (activatePokemon side nickname details hp status ei) ↔
      key ∈ identityKeys side ∨ key = (nickname, normalizeIdentityDetails details) := by
  have hkeys : (side.pokemon.map (deactivate · ei)).map identityKey = identityKeys side := by
    rw [List.map_map]
    exact List.map_congr_left fun pv _ => identityKey_deactivate pv ei
  rw [identityKeys, activatePokemon_pokemon]
  split
  · rw [List.map_append, hkeys, List.mem_append, List.map_singleton, identityKey_newcomer,
      List.mem_singleton]
  · next existing hfind =>
    obtain ⟨hget, hnick, hidentity⟩ := findForSwitchIn_eq_some hfind
    have hsame : identityKey (reenter existing.view details hp status) =
        identityKey existing.view := rfl
    rw [map_set_eq_map hget hsame, hkeys]
    constructor
    · exact .inl
    · rintro (hmem | rfl)
      · exact hmem
      · -- the entry found has this identity already
        rw [← hkeys]
        have hkey : identityKey existing.view = (nickname, normalizeIdentityDetails details) :=
          Prod.ext hnick hidentity
        exact hkey ▸ List.mem_map_of_mem (List.mem_of_getElem? hget)

/-- One step adds to the identities of a roster the one that enters. -/
theorem mem_identityKeys_step {s s' : ObservedState} {event : BattleEvent} {i : SideRef}
    (hstep : SideStep s event i s') (hno : event.newIdentity = none) {key : String × String} :
    key ∈ identityKeys (s'.sideAt i) ↔
      key ∈ identityKeys (s.sideAt i) ∨ key ∈ enteredKey i event := by
  have hsame : identityKeys (s'.sideAt i) = identityKeys (s.sideAt i) →
      (∀ nickname details, event.entrance ≠ some (i.id, nickname, details)) →
      (key ∈ identityKeys (s'.sideAt i) ↔
        key ∈ identityKeys (s.sideAt i) ∨ key ∈ enteredKey i event) := by
    intro hkeys hentrance
    rw [hkeys, enteredKey_eq_none hentrance]
    simp
  cases hstep with
  | keep hevent hpokemon hslot =>
    exact hsame (congrArg (List.map identityKey) hpokemon) fun nickname details hentrance =>
      hevent (rosterSide_of_entrance hentrance)
  | active entry edit hfind hedit hnick hpokemon hslot =>
    refine hsame (identityKeys_set hpokemon (findActive_eq_some hfind).1
      (identityKey_apply hedit hno _ _)) fun nickname details hentrance => ?_
    rw [hedit.entrance] at hentrance
    cases hentrance
  | bench health entry hp hevent hside hget hinactive hhp hpokemon hslot =>
    refine hsame (identityKeys_set hpokemon hget rfl) fun nickname details hentrance => ?_
    rw [hevent] at hentrance
    cases hentrance
  | boosts entry values hevent hfind hvalues hpokemon hslot =>
    refine hsame (identityKeys_set hpokemon (findActive_eq_some hfind).1 rfl)
      fun nickname details hentrance => ?_
    rw [rosterSide_of_entrance hentrance] at hevent
    cases hevent
  | cure cured hevent hside hpokemon hslot =>
    refine hsame ?_ fun nickname details hentrance => ?_
    · rw [identityKeys, hpokemon, List.map_map]
      rfl
    · rw [hevent] at hentrance
      cases hentrance
  | activate nickname details token hp hevent hhp hpokemon hslot =>
    have hentered : enteredKey i event = some (nickname, normalizeIdentityDetails details) := by
      refine enteredKey_eq_some ?_
      rcases hevent with ⟨slot, hevent⟩ | ⟨slot, hevent⟩ <;> rw [hevent] <;> rfl
    rw [identityKeys, hpokemon, hentered, Option.mem_some]
    refine Iff.trans mem_identityKeys_activatePokemon ?_
    rw [eq_comm (a := key)]

/-! ## §2 The roster is the set of those who entered -/

/-- The run has no event that rewrites the identity of the active pokemon. -/
def KeepsIdentities (events : List BattleEvent) : Prop :=
  ∀ event ∈ events, event.newIdentity = none

/-- The identities of each roster are apart, and are those that have entered. -/
theorem rosterKeys_run {ourUserId : String} {past : List BattleEvent} {s : ObservedState}
    (hrun : RunsTo reduce (ObservedState.initial ourUserId) past s)
    (hkeep : KeepsIdentities past) :
    IdentitiesApart s ∧ ∀ i key, key ∈ identityKeys (s.sideAt i) ↔ key ∈ enteredKeys i past := by
  have hinv : KeepsIdentities past → SoundState s ∧ FieldInvariant s ∧ IdentitiesApart s ∧
      ∀ i key, key ∈ identityKeys (s.sideAt i) ↔ key ∈ enteredKeys i past := by
    refine invariant_history (I := fun past s => KeepsIdentities past → SoundState s ∧
      FieldInvariant s ∧ IdentitiesApart s ∧
        ∀ i key, key ∈ identityKeys (s.sideAt i) ↔ key ∈ enteredKeys i past) ?_ ?_ hrun
    · intro _
      refine ⟨soundState_initial ourUserId, fieldInvariant_initial ourUserId,
        identitiesApart_initial ourUserId, fun i key => ?_⟩
      cases i <;> exact iff_of_false List.not_mem_nil List.not_mem_nil
    · intro past s event t ih hstep hkeep
      obtain ⟨hsound, hfield, hapart, hkeys⟩ :=
        ih fun event' hmem => hkeep event' (List.mem_append_left _ hmem)
      have hno : event.newIdentity = none :=
        hkeep event (List.mem_append_right _ (List.mem_singleton_self _))
      obtain ⟨-, -, -, hsteps⟩ := reduce_step hsound.sided hstep
      refine ⟨hsound.step hstep, hfield.step hsound.sided hstep, ?_, fun i key => ?_⟩
      · refine (identities_step hsound hfield hapart hstep).mpr fun i nickname details hnew => ?_
        rw [hno] at hnew
        cases hnew
      · rw [mem_identityKeys_step (hsteps i) hno, hkeys i key, enteredKeys_concat,
          List.mem_append, Option.mem_toList]
        exact Iff.rfl
  exact (hinv hkeep).2.2

/-- A roster has as many entries as identities have entered. -/
theorem rosterCount_run {ourUserId : String} {past : List BattleEvent} {s : ObservedState}
    (hrun : RunsTo reduce (ObservedState.initial ourUserId) past s)
    (hkeep : KeepsIdentities past) (i : SideRef) :
    (s.sideAt i).pokemon.length = (enteredKeys i past).dedup.length := by
  obtain ⟨hapart, hkeys⟩ := rosterKeys_run hrun hkeep
  have hperm : (identityKeys (s.sideAt i)).Perm (enteredKeys i past).dedup := by
    rw [List.perm_ext_iff_of_nodup (hapart i) (List.nodup_dedup _)]
    intro key
    rw [List.mem_dedup]
    exact hkeys i key
  rw [← hperm.length_eq, identityKeys, List.length_map]

/-! ## §3 Coming back -/

/-- What a pokemon is known by beside its identity: moves, items, abilities and tera type. -/
def memory (pv : PokemonView) :
    List String × List EvidenceInterval × List EvidenceInterval × Option String :=
  (pv.revealedMoves, pv.itemIntervals, pv.abilityIntervals, pv.teraType)

/-- The entry at position `n` of the side at `i` is on the bench. -/
def Benched (i : SideRef) (n : Nat) (s : ObservedState) : Prop :=
  ∃ pv, (s.sideAt i).pokemon[n]? = some pv ∧ pv.active = false

/-- No event changes what is known of a pokemon on the bench, not even the one that brings it in. -/
theorem memory_step {s s' : ObservedState} {event : BattleEvent} {i : SideRef}
    (hstep : SideStep s event i s') {n : Nat} {pv : PokemonView}
    (hget : (s.sideAt i).pokemon[n]? = some pv) (hinactive : pv.active = false) :
    ∃ pv', (s'.sideAt i).pokemon[n]? = some pv' ∧ memory pv' = memory pv := by
  have hactive_ne : ∀ entry, findActive (s.sideAt i) = some entry → entry.position ≠ n := by
    intro entry hfind heq
    obtain ⟨hentry, hactive⟩ := findActive_eq_some hfind
    rw [heq, hget] at hentry
    rw [← Option.some.inj hentry, hinactive] at hactive
    cases hactive
  cases hstep with
  | keep hevent hpokemon hslot => exact ⟨pv, by rw [hpokemon, hget], rfl⟩
  | active entry edit hfind hedit hnick hpokemon hslot =>
    exact ⟨pv, by rw [hpokemon, List.getElem?_set_ne (hactive_ne entry hfind), hget], rfl⟩
  | bench health entry hp hevent hside hentry hbenched hhp hpokemon hslot =>
    rw [hpokemon]
    by_cases hn : entry.position = n
    · subst hn
      obtain rfl : pv = entry.view := Option.some.inj (hget.symm.trans hentry)
      obtain ⟨hlt, -⟩ := List.getElem?_eq_some_iff.mp hget
      exact ⟨_, List.getElem?_set_self hlt, rfl⟩
    · exact ⟨pv, (List.getElem?_set_ne hn).trans hget, rfl⟩
  | boosts entry values hevent hfind hvalues hpokemon hslot =>
    exact ⟨pv, by rw [hpokemon, List.getElem?_set_ne (hactive_ne entry hfind), hget], rfl⟩
  | cure cured hevent hside hpokemon hslot =>
    exact ⟨{ pv with status := none }, by rw [hpokemon, List.getElem?_map, hget]; rfl, rfl⟩
  | activate nickname details token hp hevent hhp hpokemon hslot =>
    have hleft : ((s.sideAt i).pokemon.map (deactivate · event.eventIndex))[n]? = some pv := by
      rw [List.getElem?_map, hget, Option.map_some, deactivate_of_inactive hinactive]
    obtain ⟨hlt, -⟩ := List.getElem?_eq_some_iff.mp hleft
    rw [hpokemon, activatePokemon_pokemon]
    split
    · exact ⟨pv, (List.getElem?_append_left hlt).trans hleft, rfl⟩
    · next existing hfind =>
      by_cases hn : existing.position = n
      · subst hn
        obtain ⟨hexisting, -⟩ := findForSwitchIn_eq_some hfind
        obtain rfl : pv = existing.view := Option.some.inj (hleft.symm.trans hexisting)
        exact ⟨_, List.getElem?_set_self hlt, rfl⟩
      · exact ⟨pv, (List.getElem?_set_ne hn).trans hleft, rfl⟩

/-- As long as a pokemon stays on the bench, what is known of it stays as it is. -/
theorem memory_benched {s t : ObservedState} {events : List BattleEvent} {i : SideRef} {n : Nat}
    (hsound : SoundState s) (hbenched : HoldsAlong reduce (Benched i n) s events)
    (hrun : RunsTo reduce s events t) {old new : PokemonView}
    (hold : (s.sideAt i).pokemon[n]? = some old) (hnew : (t.sideAt i).pokemon[n]? = some new) :
    new.active = false ∧ memory new = memory old := by
  induction events generalizing s old with
  | nil =>
    obtain rfl := runs_nil.mp hrun
    obtain ⟨pv, hpv, hinactive⟩ := hbenched.head
    rw [hold] at hpv hnew
    rw [← Option.some.inj hnew, Option.some.inj hpv]
    exact ⟨hinactive, rfl⟩
  | cons event rest ih =>
    obtain ⟨m, hm, hrest⟩ := runs_cons.mp hrun
    obtain ⟨pv, hpv, hinactive⟩ := hbenched.head
    obtain rfl : old = pv := Option.some.inj (hold.symm.trans hpv)
    obtain ⟨-, -, -, hsteps⟩ := reduce_step hsound.sided hm
    obtain ⟨mid, hmid, hmemory⟩ := memory_step (hsteps i) hold hinactive
    obtain ⟨hnewInactive, hnewMemory⟩ := ih (hsound.step hm) (hbenched.2 m hm) hrest hmid
    exact ⟨hnewInactive, hnewMemory.trans hmemory⟩

/-- An identity that is on the roster is that of one entry. -/
theorem exists_of_mem_identityKeys {side : SideView} {key : String × String}
    (h : key ∈ identityKeys side) :
    ∃ (n : Nat) (pv : PokemonView), side.pokemon[n]? = some pv ∧ identityKey pv = key := by
  obtain ⟨pv, hpv, hkey⟩ := List.mem_map.mp h
  obtain ⟨n, hn⟩ := List.mem_iff_getElem?.mp hpv
  exact ⟨n, pv, hn, hkey⟩

/-- Who is on the roster already comes back to the entry that has its identity. -/
theorem activatePokemon_reenters {side : SideView} (hapart : (identityKeys side).Nodup)
    {n : Nat} {pv : PokemonView} (hget : side.pokemon[n]? = some pv) {nickname details : String}
    (hkey : identityKey pv = (nickname, normalizeIdentityDetails details)) (hp : HpObservation)
    (status : Option String) (ei : Int) :
    (activatePokemon side nickname details hp status ei).pokemon =
      (side.pokemon.map (deactivate · ei)).set n (reenter (deactivate pv ei) details hp status) := by
  have hleft : (side.pokemon.map (deactivate · ei))[n]? = some (deactivate pv ei) := by
    rw [List.getElem?_map, hget, Option.map_some]
  have hleftKey : identityKey (deactivate pv ei) = (nickname, normalizeIdentityDetails details) :=
    (identityKey_deactivate pv ei).trans hkey
  rw [activatePokemon_pokemon]
  split
  · next hfind =>
    exact absurd (Prod.mk.inj hleftKey)
      (findForSwitchIn_eq_none.mp hfind _ (List.mem_of_getElem? hleft))
  · next existing hfind =>
    obtain ⟨hexisting, hnick, hidentity⟩ := findForSwitchIn_eq_some hfind
    -- the entry found has the same key, and so stands at the same position
    have hkeys : ((side.pokemon.map (deactivate · ei)).map identityKey).Nodup := by
      rw [List.map_map]
      exact (List.map_congr_left fun pv _ => identityKey_deactivate pv ei) ▸ hapart
    have hsame : existing.position = n := by
      obtain ⟨hlt, -⟩ := List.getElem?_eq_some_iff.mp hexisting
      refine (List.getElem?_inj (by rwa [List.length_map]) hkeys).mp ?_
      rw [List.getElem?_map, hexisting, List.getElem?_map, hleft, Option.map_some,
        Option.map_some, hleftKey]
      exact congrArg some (Prod.ext hnick hidentity)
    rw [hsame] at hexisting
    rw [hsame, Option.some.inj (hexisting.symm.trans hleft)]

/-- A tera suffix does not count for an identity. -/
theorem normalizeIdentityDetails_tera (details : String) {teraType : String}
    (hone : ¬", ".toList <:+: teraType.toList) :
    normalizeIdentityDetails (details ++ ", tera:" ++ teraType) =
      normalizeIdentityDetails details := by
  have hsuffix : ¬[',', ' '] <:+: 't' :: 'e' :: 'r' :: 'a' :: ':' :: teraType.toList := by
    simpa [List.infix_cons_iff] using hone
  have htext : (details ++ ", tera:" ++ teraType).toList =
      details.toList ++ ',' :: ' ' :: 't' :: 'e' :: 'r' :: 'a' :: ':' :: teraType.toList := by
    simp
  have hfield : String.ofList ('t' :: 'e' :: 'r' :: 'a' :: ':' :: teraType.toList) =
      "tera:" ++ teraType := by
    apply String.ext
    simp
  have hparts : Python.split (details ++ ", tera:" ++ teraType) ", " =
      Python.split details ", " ++ ["tera:" ++ teraType] := by
    simp only [Python.split, htext]
    rw [show ", ".toList = [',', ' '] from rfl,
      Python.splitChars_append (by decide) (Nat.zero_le _),
      Python.splitChars_of_not_infix hsuffix, List.map_append, List.map_singleton,
      List.reverse_nil, List.nil_append, hfield]
  have hstarts : Python.startsWith ("tera:" ++ teraType) "tera:" = true := by
    simp [Python.startsWith]
  simp only [normalizeIdentityDetails]
  rw [hparts, List.filter_append, List.filter_cons_of_neg (by rw [hstarts]; decide),
    List.filter_nil, List.append_nil]

/-! ## §4 What a re-entry finds -/

/-- **Switch identity tracking.** Let a run have no identity change and no persistent form change.
Then a side has as many entries as different pairs of nickname and normalized details have been
switched or dragged in there. And when one of these pairs enters again, then in the entry that has
had this identity ever since it first entered: what was known of the pokemon is all still there, and
is exactly what it was when the pokemon left, if it was on the bench since. A tera suffix of the
details does not count. -/
theorem switch_tracking {ourUserId : String} {past : List BattleEvent} {s : ObservedState}
    (hrun : RunsTo reduce (ObservedState.initial ourUserId) past s)
    (hkeep : KeepsIdentities past) (i : SideRef) :
    (s.sideAt i).pokemon.length = (enteredKeys i past).dedup.length ∧
      (∀ details teraType, ¬", ".toList <:+: teraType.toList →
        normalizeIdentityDetails (details ++ ", tera:" ++ teraType) =
          normalizeIdentityDetails details) ∧
      ∀ event s' nickname details, reduce s event = .ok s' →
        event.entrance = some (i.id, nickname, details) →
        (nickname, normalizeIdentityDetails details) ∈ enteredKeys i past →
        ∃ (n : Nat) (pv pv' : PokemonView), (s.sideAt i).pokemon[n]? = some pv ∧
          (s'.sideAt i).pokemon[n]? = some pv' ∧ pv'.active = true ∧
          identityKey pv' = (nickname, normalizeIdentityDetails details) ∧
          memory pv' = memory (deactivate pv event.eventIndex) ∧
          (s'.sideAt i).pokemon.length = (s.sideAt i).pokemon.length ∧
          ∀ first rest u, past = first ++ rest →
            RunsTo reduce (ObservedState.initial ourUserId) first u →
            (nickname, normalizeIdentityDetails details) ∈ enteredKeys i first →
            ∃ old, (u.sideAt i).pokemon[n]? = some old ∧
              identityKey old = (nickname, normalizeIdentityDetails details) ∧
              Remembers old pv' ∧
              (HoldsAlong reduce (Benched i n) u rest → memory pv' = memory old) := by
  refine ⟨rosterCount_run hrun hkeep i, fun _ _ => normalizeIdentityDetails_tera _,
    fun event s' nickname details h hentrance hmem => ?_⟩
  have hsound := soundState_run hrun
  obtain ⟨hapart, hkeys⟩ := rosterKeys_run hrun hkeep
  obtain ⟨n, pv, hget, hkey⟩ := exists_of_mem_identityKeys ((hkeys i _).mpr hmem)
  obtain ⟨j, hp, status, hj, hside, -⟩ := reduce_entrance hsound.sided h hentrance
  obtain rfl := SideRef.id_injective hj
  have hpokemon : (s'.sideAt i).pokemon =
      ((s.sideAt i).pokemon.map (deactivate · event.eventIndex)).set n
        (reenter (deactivate pv event.eventIndex) details hp status) := by
    rw [hside, activatePokemon_reenters (hapart i) hget hkey]
  obtain ⟨hlt, -⟩ := List.getElem?_eq_some_iff.mp hget
  have hget' : (s'.sideAt i).pokemon[n]? =
      some (reenter (deactivate pv event.eventIndex) details hp status) := by
    rw [hpokemon]
    exact List.getElem?_set_self (by rwa [List.length_map])
  refine ⟨n, pv, _, hget, hget', rfl, ?_, rfl, ?_, fun first rest u hpast hfirst hmemFirst => ?_⟩
  · exact (identityKey_deactivate pv event.eventIndex).trans hkey
  · rw [hpokemon, List.length_set, List.length_map]
  · subst hpast
    have hkeepFirst : KeepsIdentities first := fun e he => hkeep e (List.mem_append_left _ he)
    have hkeepRest : KeepsIdentities rest := fun e he => hkeep e (List.mem_append_right _ he)
    have hrest : RunsTo reduce u rest s := by
      obtain ⟨m, hm, hmrest⟩ := runs_append.mp hrun
      exact runs_unique hm hfirst ▸ hmrest
    obtain ⟨-, hkeysFirst⟩ := rosterKeys_run hfirst hkeepFirst
    obtain ⟨m, old, hold, holdKey⟩ := exists_of_mem_identityKeys ((hkeysFirst i _).mpr hmemFirst)
    -- the entry has kept its identity, and so is the one found now
    obtain ⟨-, -, hrosters⟩ := append_only hfirst hrest
    obtain ⟨hremembers, hidentified⟩ := hrosters i
    obtain ⟨now, hnow, hsame⟩ := hidentified m old hold
    have hnowKey : identityKey now = identityKey pv := by
      rcases hsame with hsame | ⟨e, he, _, _, hgiven, -⟩
      · rw [hsame, holdKey, hkey]
      · rw [hkeepRest e he] at hgiven
        cases hgiven
    obtain rfl : m = n := hapart.resolves hnow hget hnowKey
    obtain ⟨now', hnow', hold_now⟩ := hremembers m old hold
    obtain rfl : pv = now' := Option.some.inj (hget.symm.trans hnow')
    refine ⟨old, hold, holdKey, ?_, fun hbenched => ?_⟩
    · exact .trans _ _ _ hold_now (.trans _ _ _ (remembers_deactivate _ _)
        (remembers_reenter _ _ _ _))
    · obtain ⟨hinactive, hmemory⟩ :=
        memory_benched (soundState_run hfirst) hbenched hrest hold hget
      rw [← hmemory]
      show memory (deactivate pv event.eventIndex) = memory pv
      rw [deactivate_of_inactive hinactive]

/-- Two teammates with one nickname take turns, and the first has terastallized in between. -/
def namesakes : List BattleEvent :=
  [.pokemonSwitched ⟨0, "p1", 1, "Sol", "Scizor, F", ⟨100, 100, none, false⟩⟩,
    .moveUsed ⟨1, "p1", 1, "Sol", "bulletpunch", none, none, none, []⟩,
    .pokemonSwitched ⟨2, "p1", 1, "Sol", "Rotom-Wash", ⟨100, 100, none, false⟩⟩,
    .pokemonSwitched ⟨3, "p1", 1, "Sol", "Scizor, F", ⟨100, 100, none, false⟩⟩,
    .terastallized ⟨4, "p1", 1, "Sol", "Water"⟩,
    .pokemonSwitched ⟨5, "p1", 1, "Sol", "Rotom-Wash", ⟨100, 100, none, false⟩⟩]

theorem switch_tracking_namesakes :
    ∃ s s', RunsTo reduce (ObservedState.initial "ash") namesakes s ∧
      reduce s (.pokemonDragged
        ⟨6, "p1", 1, "Sol", "Scizor, F, tera:Water", ⟨80, 100, none, false⟩⟩) = .ok s' ∧
      s.p1.pokemon.length = 2 ∧ s'.p1.pokemon.length = 2 ∧
      ∃ pv ∈ s'.p1.pokemon, pv.active = true ∧ identityKey pv = ("Sol", "Scizor, F") := by
  obtain ⟨s, s', hrun, hstep⟩ : ∃ s s', RunsTo reduce (ObservedState.initial "ash") namesakes s ∧
      reduce s (.pokemonDragged
        ⟨6, "p1", 1, "Sol", "Scizor, F, tera:Water", ⟨80, 100, none, false⟩⟩) = .ok s' :=
    ⟨_, _, rfl, rfl⟩
  have hkeep : KeepsIdentities namesakes := by
    unfold KeepsIdentities
    decide
  obtain ⟨hcount, -, hreenters⟩ := switch_tracking hrun hkeep .p1
  have htwo : (enteredKeys .p1 namesakes).dedup.length = 2 := by decide +kernel
  obtain ⟨n, pv, pv', -, hget', hactive, hkey, -, hlength, -⟩ :=
    hreenters _ s' "Sol" "Scizor, F, tera:Water" hstep rfl (by decide +kernel)
  have hnormal : normalizeIdentityDetails "Scizor, F, tera:Water" = "Scizor, F" := by
    decide +kernel
  rw [hnormal] at hkey
  exact ⟨s, s', hrun, hstep, hcount.trans htwo, hlength.trans (hcount.trans htwo), pv',
    List.mem_of_getElem? hget', hactive, hkey⟩

end BattleBelief
