import BattleBelief.Observation.EventFrame

/-!
# Evidence Is Append-Only

What has been seen is never forgotten: the reducer appends to the visible evidence, rewrites roster
entries in place, and writes to an interval only to close it. `append_only` compares any two states
of a run.

The comparison is a preorder on states, so one lemma about a step is enough.
-/

namespace BattleBelief

open Runs

/-! ## §1 Intervals -/

/-- The interval is the same one, or was open and has been closed since. -/
structure EvidenceInterval.Endures (old new : EvidenceInterval) : Prop where
  value : new.value = old.value
  source : new.sourceEventIndex = old.sourceEventIndex
  opened : new.validFrom = old.validFrom
  closed : new.validUntil = old.validUntil ∨ (old.validUntil = none ∧ new.validUntil.isSome)

theorem EvidenceInterval.Endures.refl (iv : EvidenceInterval) : iv.Endures iv :=
  ⟨rfl, rfl, rfl, .inl rfl⟩

theorem EvidenceInterval.Endures.trans {a b c : EvidenceInterval} (hab : a.Endures b)
    (hbc : b.Endures c) : a.Endures c := by
  refine ⟨hbc.value.trans hab.value, hbc.source.trans hab.source, hbc.opened.trans hab.opened, ?_⟩
  rcases hab.closed with hsame | ⟨hopen, hclosed⟩
  · rw [← hsame]
    exact hbc.closed
  · refine .inr ⟨hopen, ?_⟩
    rcases hbc.closed with hsame | ⟨-, hclosed'⟩
    · rwa [hsame]
    · exact hclosed'

theorem EvidenceInterval.endures_closedAt (iv : EvidenceInterval) (ei : Int) :
    iv.Endures (iv.closedAt ei) := by
  unfold EvidenceInterval.closedAt
  split_ifs with hopen
  · exact ⟨rfl, rfl, rfl, .inr ⟨hopen, rfl⟩⟩
  · exact .refl iv

/-! ## §2 Lists that keep their places -/

/-- Every element of `old` has a successor in the sense of `R` at the same place of `new`. -/
def KeepsPlaces {α : Type} (R : α → α → Prop) (old new : List α) : Prop :=
  ∀ (n : Nat) (a : α), old[n]? = some a → ∃ b, new[n]? = some b ∧ R a b

section Places

variable {α : Type} {R : α → α → Prop}

theorem KeepsPlaces.refl (hR : ∀ a, R a a) (l : List α) : KeepsPlaces R l l := by
  intro n a ha
  exact ⟨a, ha, hR a⟩

theorem KeepsPlaces.trans (hR : ∀ a b c, R a b → R b c → R a c) {l m k : List α}
    (hlm : KeepsPlaces R l m) (hmk : KeepsPlaces R m k) : KeepsPlaces R l k := by
  intro n a ha
  obtain ⟨b, hb, hab⟩ := hlm n a ha
  obtain ⟨c, hc, hbc⟩ := hmk n b hb
  exact ⟨c, hc, hR a b c hab hbc⟩

theorem KeepsPlaces.map {f : α → α} (hf : ∀ a, R a (f a)) (l : List α) :
    KeepsPlaces R l (l.map f) := by
  intro n a ha
  exact ⟨f a, by rw [List.getElem?_map, ha, Option.map_some], hf a⟩

theorem KeepsPlaces.set (hR : ∀ a, R a a) {l : List α} {n : Nat} {old new : α}
    (hget : l[n]? = some old) (hnew : R old new) : KeepsPlaces R l (l.set n new) := by
  intro m a ha
  by_cases hnm : n = m
  · subst hnm
    obtain ⟨hlt, -⟩ := List.getElem?_eq_some_iff.mp hget
    rw [hget] at ha
    exact ⟨new, List.getElem?_set_self hlt, Option.some.inj ha ▸ hnew⟩
  · exact ⟨a, by rw [List.getElem?_set_ne hnm, ha], hR a⟩

theorem KeepsPlaces.append (hR : ∀ a, R a a) (l m : List α) : KeepsPlaces R l (l ++ m) := by
  intro n a ha
  obtain ⟨hlt, -⟩ := List.getElem?_eq_some_iff.mp ha
  exact ⟨a, by rw [List.getElem?_append_left hlt, ha], hR a⟩

end Places

/-- An interval list that grows at its end, where open intervals may be closed. -/
abbrev IntervalsEndure : List EvidenceInterval → List EvidenceInterval → Prop :=
  KeepsPlaces EvidenceInterval.Endures

theorem intervalsEndure_close (intervals : List EvidenceInterval) (ei : Int) :
    IntervalsEndure intervals (closeOpenInterval intervals ei) := by
  rw [closeOpenInterval_eq_map]
  exact .map (fun iv => iv.endures_closedAt ei) intervals

theorem intervalsEndure_open (intervals : List EvidenceInterval) (value : Option String)
    (ei : Int) : IntervalsEndure intervals (openInterval intervals value ei) :=
  .trans (fun _ _ _ => .trans) (intervalsEndure_close intervals ei) (.append .refl _ _)

theorem intervalsEndure_switchOut (intervals : List EvidenceInterval) (ei : Int) :
    IntervalsEndure intervals (endAbilitySuppressionOnSwitchOut intervals ei) := by
  unfold endAbilitySuppressionOnSwitchOut
  split
  · split_ifs
    · exact intervalsEndure_close intervals ei
    · exact .refl .refl _
  · exact .refl .refl _

/-! ## §3 Entries -/

/-- What is known of a pokemon, and what is known of it later. -/
structure Remembers (old new : PokemonView) : Prop where
  moves : old.revealedMoves <+: new.revealedMoves
  identities : IntervalsEndure old.identityIntervals new.identityIntervals
  items : IntervalsEndure old.itemIntervals new.itemIntervals
  abilities : IntervalsEndure old.abilityIntervals new.abilityIntervals
  tera : old.teraType.isSome → new.teraType.isSome

theorem Remembers.refl (pv : PokemonView) : Remembers pv pv :=
  ⟨List.prefix_rfl, .refl .refl _, .refl .refl _, .refl .refl _, id⟩

theorem Remembers.trans (a b c : PokemonView) (hab : Remembers a b) (hbc : Remembers b c) :
    Remembers a c where
  moves := hab.moves.trans hbc.moves
  identities := .trans (fun _ _ _ => .trans) hab.identities hbc.identities
  items := .trans (fun _ _ _ => .trans) hab.items hbc.items
  abilities := .trans (fun _ _ _ => .trans) hab.abilities hbc.abilities
  tera := hbc.tera ∘ hab.tera

/-- Rewriting anything else of an entry keeps what is known. -/
theorem Remembers.of_eq {old new : PokemonView} (hmoves : new.revealedMoves = old.revealedMoves)
    (hidentities : new.identityIntervals = old.identityIntervals)
    (hitems : new.itemIntervals = old.itemIntervals)
    (habilities : new.abilityIntervals = old.abilityIntervals)
    (htera : new.teraType = old.teraType) : Remembers old new where
  moves := hmoves ▸ List.prefix_rfl
  identities := hidentities ▸ .refl .refl _
  items := hitems ▸ .refl .refl _
  abilities := habilities ▸ .refl .refl _
  tera h := htera ▸ h

/-- No edit forgets anything. -/
theorem EntryEdit.remembers (edit : EntryEdit) (ei : Int) (pv : PokemonView) :
    Remembers pv (edit.apply ei pv) := by
  cases edit with
  | reveal moveId =>
    simp only [EntryEdit.apply]
    split_ifs
    · exact .refl pv
    · exact { Remembers.refl pv with moves := List.prefix_append _ _ }
  | item value =>
    exact { Remembers.refl pv with items := intervalsEndure_open pv.itemIntervals value ei }
  | ability value =>
    exact
      { Remembers.refl pv with abilities := intervalsEndure_open pv.abilityIntervals value ei }
  | identity nickname details hp status fainted =>
    exact
      { Remembers.refl pv with
        identities := intervalsEndure_open pv.identityIntervals (some details) ei }
  | tera teraType => exact { Remembers.refl pv with tera := fun _ => rfl }
  | form event hp =>
    simp only [EntryEdit.apply, changeForm]
    split <;> exact .of_eq rfl rfl rfl rfl rfl
  | volatileStart name =>
    simp only [EntryEdit.apply]
    split_ifs <;> exact .of_eq rfl rfl rfl rfl rfl
  | _ => exact .of_eq rfl rfl rfl rfl rfl

theorem remembers_deactivate (pv : PokemonView) (ei : Int) : Remembers pv (deactivate pv ei) := by
  unfold deactivate
  split_ifs
  · exact
      { Remembers.refl pv with abilities := intervalsEndure_switchOut pv.abilityIntervals ei }
  · exact .refl pv

theorem remembers_reenter (pv : PokemonView) (details : String) (hp : HpObservation)
    (status : Option String) : Remembers pv (reenter pv details hp status) :=
  .of_eq rfl rfl rfl rfl rfl

/-! ## §4 One step -/

/-- A roster that keeps its entries in their places, and all that is known of them. -/
abbrev RosterEndures : List PokemonView → List PokemonView → Prop := KeepsPlaces Remembers

theorem rosterEndures_activatePokemon (side : SideView) (nickname details : String)
    (hp : HpObservation) (status : Option String) (ei : Int) :
    RosterEndures side.pokemon
      (activatePokemon side nickname details hp status ei).pokemon := by
  have hleft : RosterEndures side.pokemon (side.pokemon.map (deactivate · ei)) :=
    .map (fun pv => remembers_deactivate pv ei) _
  rw [activatePokemon_pokemon]
  split
  · exact .trans Remembers.trans hleft (.append .refl _ _)
  · next existing hfind =>
    obtain ⟨hget, -⟩ := findForSwitchIn_eq_some hfind
    exact .trans Remembers.trans hleft (.set .refl hget (remembers_reenter _ _ _ _))

theorem rosterEndures_step {s s' : ObservedState} {event : BattleEvent} {i : SideRef}
    (hstep : SideStep s event i s') :
    RosterEndures (s.sideAt i).pokemon (s'.sideAt i).pokemon := by
  cases hstep with
  | keep hevent hpokemon hslot =>
    rw [hpokemon]
    exact .refl .refl _
  | active entry edit hfind hedit hnick hpokemon hslot =>
    rw [hpokemon]
    exact .set .refl (findActive_eq_some hfind).1 (edit.remembers _ _)
  | bench health entry hp hevent hside hget hinactive hhp hpokemon hslot =>
    rw [hpokemon]
    exact .set .refl hget (EntryEdit.remembers _ _ _)
  | boosts entry values hevent hfind hvalues hpokemon hslot =>
    rw [hpokemon]
    exact .set .refl (findActive_eq_some hfind).1 (.of_eq rfl rfl rfl rfl rfl)
  | cure cured hevent hside hpokemon hslot =>
    rw [hpokemon]
    exact .map (fun _ => .of_eq rfl rfl rfl rfl rfl) _
  | activate nickname details token hp hevent hhp hpokemon hslot =>
    rw [hpokemon]
    exact rosterEndures_activatePokemon _ _ _ _ _ _

/-- The entry has the identity that it had, or one that an event of the run has given to the active
pokemon of the side at `i`. -/
def Identified (i : SideRef) (events : List BattleEvent) (old new : PokemonView) : Prop :=
  identityKey new = identityKey old ∨ ∃ event ∈ events, ∃ nickname details,
    event.newIdentity = some (i.id, nickname, details) ∧
      identityKey new = (nickname, normalizeIdentityDetails details)

theorem Identified.refl (i : SideRef) (events : List BattleEvent) (pv : PokemonView) :
    Identified i events pv pv := .inl rfl

theorem Identified.cons {i : SideRef} {event : BattleEvent} {events : List BattleEvent}
    {a b c : PokemonView} (hab : Identified i [event] a b) (hbc : Identified i events b c) :
    Identified i (event :: events) a c := by
  rcases hbc with hsame | ⟨later, hlater, hgiven⟩
  · rcases hab with hsame' | ⟨first, hfirst, nickname, details, hgiven, hkey⟩
    · exact .inl (hsame.trans hsame')
    · rw [List.mem_singleton.mp hfirst] at hgiven
      exact .inr ⟨event, List.mem_cons_self, nickname, details, hgiven, hsame.trans hkey⟩
  · exact .inr ⟨later, List.mem_cons_of_mem _ hlater, hgiven⟩

/-- A switch leaves every entry that was there with its identity. -/
theorem identified_activatePokemon (i : SideRef) (events : List BattleEvent) (side : SideView)
    (nickname details : String) (hp : HpObservation) (status : Option String) (ei : Int) :
    KeepsPlaces (Identified i events) side.pokemon
      (activatePokemon side nickname details hp status ei).pokemon := by
  intro n pv hget
  have hleft : (side.pokemon.map (deactivate · ei))[n]? = some (deactivate pv ei) := by
    rw [List.getElem?_map, hget, Option.map_some]
  have hkey : Identified i events pv (deactivate pv ei) := .inl (identityKey_deactivate pv ei)
  obtain ⟨hlt, -⟩ := List.getElem?_eq_some_iff.mp hleft
  rw [activatePokemon_pokemon]
  split
  · exact ⟨_, (List.getElem?_append_left hlt).trans hleft, hkey⟩
  · next existing hfind =>
    by_cases hn : existing.position = n
    · subst hn
      obtain ⟨hexisting, -⟩ := findForSwitchIn_eq_some hfind
      have hview : deactivate pv ei = existing.view :=
        Option.some.inj (hleft.symm.trans hexisting)
      rw [hview] at hkey
      exact ⟨_, List.getElem?_set_self hlt, hkey⟩
    · exact ⟨_, (List.getElem?_set_ne hn).trans hleft, hkey⟩

theorem identified_step {s s' : ObservedState} {event : BattleEvent} {i : SideRef}
    (hstep : SideStep s event i s') :
    KeepsPlaces (Identified i [event]) (s.sideAt i).pokemon (s'.sideAt i).pokemon := by
  have hrefl := Identified.refl i [event]
  cases hstep with
  | keep hevent hpokemon hslot =>
    rw [hpokemon]
    exact .refl hrefl _
  | active entry edit hfind hedit hnick hpokemon hslot =>
    rw [hpokemon]
    refine .set hrefl (findActive_eq_some hfind).1 ?_
    cases hnew : event.newIdentity with
    | none => exact .inl (identityKey_apply hedit hnew _ _)
    | some identity =>
      obtain ⟨sideId, nickname, details⟩ := identity
      obtain ⟨rfl, hkey⟩ := identityKey_apply_new hedit hnew event.eventIndex hnick
      exact .inr ⟨event, List.mem_singleton_self _, nickname, details, hnew, hkey⟩
  | bench health entry hp hevent hside hget hinactive hhp hpokemon hslot =>
    rw [hpokemon]
    exact .set hrefl hget (.inl rfl)
  | boosts entry values hevent hfind hvalues hpokemon hslot =>
    rw [hpokemon]
    exact .set hrefl (findActive_eq_some hfind).1 (.inl rfl)
  | cure cured hevent hside hpokemon hslot =>
    rw [hpokemon]
    exact .map (fun _ => .inl rfl) _
  | activate nickname details token hp hevent hhp hpokemon hslot =>
    rw [hpokemon]
    exact identified_activatePokemon _ _ _ _ _ _ _ _

/-- An event leaves at most one line of evidence, under its own index. -/
theorem evidence_effectBeside (s : ObservedState) (event : BattleEvent) :
    ∃ new : List VisibleEvidence,
      (effectBeside s event).visibleEvidence = s.visibleEvidence ++ new ∧
        (new = [] ∨ ∃ line, new = [line] ∧ line.eventIndex = event.eventIndex) := by
  cases event with
  | moveUsed event => exact ⟨_, rfl, .inr ⟨_, rfl, rfl⟩⟩
  | movePrevented event => exact ⟨_, rfl, .inr ⟨_, rfl, rfl⟩⟩
  | formChanged event => exact ⟨_, rfl, .inr ⟨_, rfl, rfl⟩⟩
  | pokemonTransformed event => exact ⟨_, rfl, .inr ⟨_, rfl, rfl⟩⟩
  | terastallized event => exact ⟨_, rfl, .inr ⟨_, rfl, rfl⟩⟩
  | visibleEvidence event => exact ⟨_, rfl, .inr ⟨_, rfl, rfl⟩⟩
  | fieldConditionChanged event =>
    refine ⟨[], ?_, .inl rfl⟩
    simp only [effectBeside, reduceFieldConditionChanged, List.append_nil]
    split_ifs <;> rfl
  | _ => exact ⟨[], (List.append_nil _).symm, .inl rfl⟩

/-- The evidence is in the order of the events it comes from, none of them later than now. -/
structure EvidenceOrdered (s : ObservedState) : Prop where
  increasing : (s.visibleEvidence.map fun line => line.eventIndex).Pairwise (· < ·)
  past : ∀ line ∈ s.visibleEvidence, line.eventIndex ≤ s.eventIndex

theorem evidenceOrdered_initial (ourUserId : String) :
    EvidenceOrdered (ObservedState.initial ourUserId) :=
  ⟨.nil, fun _ hline => by cases hline⟩

/-- All that one state knows is known in the other. -/
structure Extends (s t : ObservedState) : Prop where
  evidence : s.visibleEvidence <+: t.visibleEvidence
  rosters : ∀ i, RosterEndures (s.sideAt i).pokemon (t.sideAt i).pokemon

theorem Extends.refl (s : ObservedState) : Extends s s :=
  ⟨List.prefix_rfl, fun _ => .refl .refl _⟩

theorem Extends.trans (s t u : ObservedState) (hst : Extends s t) (htu : Extends t u) :
    Extends s u :=
  ⟨hst.evidence.trans htu.evidence, fun i => .trans Remembers.trans (hst.rosters i) (htu.rosters i)⟩

/-- An accepted event forgets nothing, and leaves its evidence in order. -/
theorem extends_step {s s' : ObservedState} {event : BattleEvent} (hsided : s.WellSided)
    (hordered : EvidenceOrdered s) (h : reduce s event = .ok s') :
    EvidenceOrdered s' ∧ Extends s s' := by
  obtain ⟨hlt, hindex, -, hsteps⟩ := reduce_step hsided h
  obtain ⟨new, hnew, hlines⟩ := evidence_effectBeside { s with eventIndex := event.eventIndex } event
  have hevidence : s'.visibleEvidence = s.visibleEvidence ++ new := by
    rw [reduce_beside h]
    exact hnew
  have hall : ∀ line ∈ new, line.eventIndex = event.eventIndex := by
    intro line hline
    rcases hlines with rfl | ⟨line', rfl, hline'⟩
    · cases hline
    · rw [List.mem_singleton.mp hline, hline']
  refine ⟨⟨?_, fun line hline => ?_⟩, ⟨?_, fun i => rosterEndures_step (hsteps i)⟩⟩
  · rw [hevidence, List.map_append, List.pairwise_append]
    refine ⟨hordered.increasing, ?_, ?_⟩
    · rcases hlines with rfl | ⟨line, rfl, -⟩
      · exact .nil
      · exact List.pairwise_singleton _ _
    · -- whatever was recorded before is older than the event
      intro a ha b hb
      obtain ⟨old, hold, rfl⟩ := List.mem_map.mp ha
      obtain ⟨line, hline, rfl⟩ := List.mem_map.mp hb
      have hpast := hordered.past old hold
      rw [hall line hline]
      omega
  · rw [hindex]
    rw [hevidence] at hline
    rcases List.mem_append.mp hline with hold | hline
    · have hpast := hordered.past line hold
      omega
    · exact le_of_eq (hall line hline)
  · rw [hevidence]
    exact List.prefix_append _ _

/-! ## §5 Along a run -/

/-- Along a run, entries change their identity only where an event says so. -/
theorem identified_run {s t : ObservedState} {events : List BattleEvent} (hsound : SoundState s)
    (hrun : RunsTo reduce s events t) (i : SideRef) :
    KeepsPlaces (Identified i events) (s.sideAt i).pokemon (t.sideAt i).pokemon := by
  induction events generalizing s with
  | nil =>
    obtain rfl := runs_nil.mp hrun
    exact .refl (Identified.refl i []) _
  | cons event rest ih =>
    obtain ⟨m, hm, hrest⟩ := runs_cons.mp hrun
    obtain ⟨-, -, -, hsteps⟩ := reduce_step hsound.sided hm
    intro n pv hget
    obtain ⟨pv', hget', hfirst⟩ := identified_step (hsteps i) n pv hget
    obtain ⟨pv'', hget'', hlater⟩ := ih (hsound.step hm) hrest n pv' hget'
    exact ⟨pv'', hget'', hfirst.cons hlater⟩

/-- **Append-only evidence.** Between any two states of a run: the visible evidence of the later one
continues that of the earlier one, with event indices that increase strictly; and every roster entry
of the earlier one stands at its position in the later one, with its revealed moves continued, its
intervals in place and at most closed, a known tera type still known, and its identity unless an
event of the run has rewritten that. -/
theorem append_only {ourUserId : String} {past events : List BattleEvent} {s t : ObservedState}
    (hpast : RunsTo reduce (ObservedState.initial ourUserId) past s)
    (hrun : RunsTo reduce s events t) :
    s.visibleEvidence <+: t.visibleEvidence ∧
      (t.visibleEvidence.map fun line => line.eventIndex).Pairwise (· < ·) ∧
      ∀ i, KeepsPlaces Remembers (s.sideAt i).pokemon (t.sideAt i).pokemon ∧
        KeepsPlaces (Identified i events) (s.sideAt i).pokemon (t.sideAt i).pokemon := by
  have hstep : ∀ s event s', (SoundState s ∧ EvidenceOrdered s) → reduce s event = .ok s' →
      (SoundState s' ∧ EvidenceOrdered s') ∧ Extends s s' := by
    rintro s event s' ⟨hsound, hordered⟩ h
    obtain ⟨hordered', hextends⟩ := extends_step hsound.sided hordered h
    exact ⟨⟨hsound.step h, hordered'⟩, hextends⟩
  have hinv : SoundState s ∧ EvidenceOrdered s :=
    invariant (fun s event s' hs h => (hstep s event s' hs h).1)
      ⟨soundState_initial ourUserId, evidenceOrdered_initial ourUserId⟩ hpast
  have hextends : Extends s t := related Extends.refl Extends.trans hstep hinv hrun
  have hordered : EvidenceOrdered t :=
    (invariant (fun s event s' hs h => (hstep s event s' hs h).1) hinv hrun).2
  exact ⟨hextends.evidence, hordered.increasing, fun i =>
    ⟨hextends.rosters i, identified_run hinv.1 hrun i⟩⟩

/-- What is known of Scizor when it leaves the field is known when it has come back. -/
theorem append_only_boosted_out :
    ∃ s t, RunsTo reduce (ObservedState.initial "ash") boostedOut s ∧
      RunsTo reduce s
        [.pokemonSwitched ⟨4, "p1", 1, "Scizor", "Scizor, F", ⟨100, 100, none, false⟩⟩] t ∧
      ∀ i, KeepsPlaces Remembers (s.sideAt i).pokemon (t.sideAt i).pokemon := by
  obtain ⟨s, t, hpast, hrun⟩ : ∃ s t, RunsTo reduce (ObservedState.initial "ash") boostedOut s ∧
      RunsTo reduce s
        [.pokemonSwitched ⟨4, "p1", 1, "Scizor", "Scizor, F", ⟨100, 100, none, false⟩⟩] t :=
    ⟨_, _, rfl, rfl⟩
  exact ⟨s, t, hpast, hrun, fun i => ((append_only hpast hrun).2.2 i).1⟩

end BattleBelief
