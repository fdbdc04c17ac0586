import BattleBelief.Observation.ReducerSteps
import BattleBelief.Protocol.Parser

/-!
# Fainted Flags

An entry of a roster says twice whether its pokemon has fainted: in a flag of its own, and in its
latest HP observation. Every branch of the reducer but the one for switches writes both from the
same source; that one takes the observation from the condition on the line and clears the flag.

`fainted_flags_iff` says which runs keep the two in agreement: those in which nobody enters the
field with a fainted condition.
-/

namespace BattleBelief

open Runs

/-! ## §1 The two fields -/

/-- The flag and the observation of a pokemon agree. -/
def FlagAgrees (pv : PokemonView) : Prop :=
  pv.fainted = true ↔ ∃ hp, pv.hp = some hp ∧ hp.fainted = true

/-- They agree for every entry of both rosters. -/
def FaintedFlagsAgree (s : ObservedState) : Prop :=
  ∀ i, ∀ pv ∈ (s.sideAt i).pokemon, FlagAgrees pv

/-- The condition that a switch or drag event brings its pokemon in with. -/
def BattleEvent.enteringToken : BattleEvent → Option HpToken
  | .pokemonSwitched event => some event.hp
  | .pokemonDragged event => some event.hp
  | _ => none

theorem flagAgrees_of_hp {pv : PokemonView} {hp : HpObservation} (h : pv.hp = some hp) :
    FlagAgrees pv ↔ pv.fainted = hp.fainted := by
  unfold FlagAgrees
  rw [h]
  cases pv.fainted <;> cases hfainted : hp.fainted <;> simp [hfainted]

/-- Agreement depends on the two fields alone. -/
theorem FlagAgrees.congr {pv pv' : PokemonView} (h : FlagAgrees pv)
    (hfainted : pv'.fainted = pv.fainted) (hhp : pv'.hp = pv.hp) : FlagAgrees pv' := by
  unfold FlagAgrees at h ⊢
  rw [hfainted, hhp]
  exact h

theorem fainted_of_create {current maximum : Int} {precision : HpPrecision} {fainted : Bool}
    {hp : HpObservation} (h : HpObservation.create current maximum precision fainted = .ok hp) :
    hp.fainted = fainted := by
  unfold HpObservation.create at h
  split_ifs at h with hbounds hzero
  rw [← Except.ok.inj h]

/-- An observation is of a fainted pokemon exactly when the condition on the line is. -/
theorem fainted_of_tokenToObservation {token : HpToken} {sideId : String}
    {ourSide : Option String} {hp : HpObservation}
    (h : tokenToObservation token sideId ourSide = .ok hp) : hp.fainted = token.fainted := by
  unfold tokenToObservation at h
  cases htoken : token.fainted with
  | true =>
    simp only [htoken] at h
    exact fainted_of_create h
  | false =>
    simp only [htoken] at h
    exact fainted_of_create h

/-! ## §2 What a step does to them -/

/-- An event that edits the active pokemon brings nobody in. -/
theorem Edits.enteringToken {ourSide : Option String} {event : BattleEvent} {sideId : String}
    {edit : EntryEdit} (h : Edits ourSide event sideId edit) : event.enteringToken = none := by
  cases h <;> rfl

/-- An accepted event that brings a pokemon in names one of the two sides. -/
theorem rosterSide_of_entering {s s' : ObservedState} {event : BattleEvent} {token : HpToken}
    (h : reduce s event = .ok s') (htoken : event.enteringToken = some token) :
    ∃ i : SideRef, event.rosterSide = some i.id := by
  have hswitch : ∀ {state : ObservedState} {sideId nickname details hp ei},
      reduceSwitch state sideId nickname details hp ei = .ok s' → ∃ i : SideRef, sideId = i.id := by
    intro state sideId nickname details hp ei hreduce
    simp only [reduceSwitch, bind_eq_ok] at hreduce
    obtain ⟨hpObs, -, side, hside, -⟩ := hreduce
    obtain ⟨i, hi, -⟩ := side_eq_ok hside
    exact ⟨i, hi⟩
  unfold reduce at h
  split_ifs at h with hindex
  cases event with
  | pokemonSwitched event =>
    obtain ⟨i, hi⟩ := hswitch h
    exact ⟨i, congrArg some hi⟩
  | pokemonDragged event =>
    obtain ⟨i, hi⟩ := hswitch h
    exact ⟨i, congrArg some hi⟩
  | _ => cases htoken

/-- An event that edits the active pokemon writes both fields or neither. -/
theorem FlagAgrees.edit {ourSide : Option String} {event : BattleEvent} {sideId : String}
    {edit : EntryEdit} (hedit : Edits ourSide event sideId edit) {ei : Int} {pv : PokemonView}
    (h : FlagAgrees pv) : FlagAgrees (edit.apply ei pv) := by
  cases hedit with
  | pokemonFainted event =>
    rw [flagAgrees_of_hp rfl]
    -- a faint line always comes with an observation of its own
    show true = (faintedHp pv.hp).fainted
    cases pv.hp <;> rfl
  | healthChanged event hp hhp =>
    exact (flagAgrees_of_hp rfl).mpr (fainted_of_tokenToObservation hhp).symm
  | identityChanged event hp hhp =>
    exact (flagAgrees_of_hp rfl).mpr (fainted_of_tokenToObservation hhp).symm
  | formChanged event hp hhp =>
    simp only [EntryEdit.apply, changeForm]
    cases event.kind with
    | persistentDetails => exact (flagAgrees_of_hp rfl).mpr (fainted_of_tokenToObservation hhp).symm
    | temporarySpecies => exact (flagAgrees_of_hp rfl).mpr (fainted_of_tokenToObservation hhp).symm
  | moveUsed event =>
    refine h.congr ?_ ?_ <;> simp only [EntryEdit.apply] <;> split_ifs <;> rfl
  | volatileStarted event haction =>
    refine h.congr ?_ ?_ <;> simp only [EntryEdit.apply] <;> split_ifs <;> rfl
  | _ => exact h.congr rfl rfl

theorem FlagAgrees.deactivate {pv : PokemonView} (h : FlagAgrees pv) (ei : Int) :
    FlagAgrees (deactivate pv ei) := by
  unfold BattleBelief.deactivate
  split_ifs
  · exact h.congr rfl rfl
  · exact h

/-- Whoever enters the field has a cleared flag, and so agrees exactly with a healthy condition. -/
theorem flagAgrees_activatePokemon {side : SideView} (h : ∀ pv ∈ side.pokemon, FlagAgrees pv)
    (nickname details : String) (hp : HpObservation) (status : Option String) (ei : Int) :
    (∀ pv ∈ (activatePokemon side nickname details hp status ei).pokemon, FlagAgrees pv) ↔
      hp.fainted = false := by
  have hold : ∀ pv ∈ side.pokemon.map (deactivate · ei), FlagAgrees pv := by
    intro pv hpv
    obtain ⟨old, hmem, rfl⟩ := List.mem_map.mp hpv
    exact (h old hmem).deactivate ei
  have hnew : FlagAgrees (newcomer side.sideId nickname details hp status) ↔ hp.fainted = false :=
    (flagAgrees_of_hp rfl).trans eq_comm
  have hback : ∀ pv, FlagAgrees (reenter pv details hp status) ↔ hp.fainted = false :=
    fun pv => (flagAgrees_of_hp rfl).trans eq_comm
  rw [activatePokemon_pokemon]
  cases hfind : findForSwitchIn (side.pokemon.map (deactivate · ei)) nickname details with
  | none =>
    constructor
    · intro hall
      exact hnew.mp (hall _ (List.mem_append_right _ (List.mem_singleton_self _)))
    · intro hhealthy pv hpv
      rcases List.mem_append.mp hpv with hpv | hpv
      · exact hold pv hpv
      · rw [List.mem_singleton.mp hpv]
        exact hnew.mpr hhealthy
  | some existing =>
    obtain ⟨hlt, -⟩ := List.getElem?_eq_some_iff.mp (findForSwitchIn_eq_some hfind).1
    constructor
    · intro hall
      exact (hback existing.view).mp (hall _ (List.mem_of_getElem? (List.getElem?_set_self hlt)))
    · intro hhealthy pv hpv
      rcases List.mem_or_eq_of_mem_set hpv with hpv | rfl
      · exact hold pv hpv
      · exact (hback existing.view).mpr hhealthy

/-- A side keeps its flags in agreement unless a fainted pokemon enters there. -/
theorem flagAgrees_side_step {s s' : ObservedState} {event : BattleEvent} {i : SideRef}
    (h : ∀ pv ∈ (s.sideAt i).pokemon, FlagAgrees pv) (hstep : SideStep s event i s') :
    (∀ pv ∈ (s'.sideAt i).pokemon, FlagAgrees pv) ↔
      (event.rosterSide = some i.id → ∀ token ∈ event.enteringToken, token.fainted = false) := by
  cases hstep with
  | keep hevent hpokemon hslot =>
    rw [hpokemon]
    exact iff_of_true h fun hside => absurd hside hevent
  | active entry edit hfind hedit hnick hpokemon hslot =>
    obtain ⟨hget, -⟩ := findActive_eq_some hfind
    refine iff_of_true ?_ fun _ token htoken => ?_
    · intro pv hpv
      rw [hpokemon] at hpv
      rcases List.mem_or_eq_of_mem_set hpv with hpv | rfl
      · exact h pv hpv
      · exact (h _ (List.mem_of_getElem? hget)).edit hedit
    · rw [hedit.enteringToken] at htoken
      cases htoken
  | bench health entry hp hevent hside hget hinactive hhp hpokemon hslot =>
    refine iff_of_true ?_ fun _ token htoken => ?_
    · intro pv hpv
      rw [hpokemon] at hpv
      rcases List.mem_or_eq_of_mem_set hpv with hpv | rfl
      · exact h pv hpv
      · exact (flagAgrees_of_hp rfl).mpr (fainted_of_tokenToObservation hhp).symm
    · rw [hevent] at htoken
      cases htoken
  | boosts entry values hevent hfind hvalues hpokemon hslot =>
    obtain ⟨hget, -⟩ := findActive_eq_some hfind
    refine iff_of_true ?_ fun hside => ?_
    · intro pv hpv
      rw [hpokemon] at hpv
      rcases List.mem_or_eq_of_mem_set hpv with hpv | rfl
      · exact h pv hpv
      · exact (h _ (List.mem_of_getElem? hget)).congr rfl rfl
    · rw [hevent] at hside
      cases hside
  | cure cured hevent hside hpokemon hslot =>
    refine iff_of_true ?_ fun _ token htoken => ?_
    · intro pv hpv
      rw [hpokemon] at hpv
      obtain ⟨old, hold, rfl⟩ := List.mem_map.mp hpv
      exact (h old hold).congr rfl rfl
    · rw [hevent] at htoken
      cases htoken
  | activate nickname details token hp hevent hhp hpokemon hslot =>
    have hentering : event.enteringToken = some token ∧ event.rosterSide = some i.id := by
      rcases hevent with ⟨slot, hevent⟩ | ⟨slot, hevent⟩ <;> rw [hevent] <;> exact ⟨rfl, rfl⟩
    rw [hpokemon, flagAgrees_activatePokemon h, fainted_of_tokenToObservation hhp,
      hentering.1, hentering.2]
    simp

/-- Nobody enters the field with a fainted condition. -/
def EntersStanding (event : BattleEvent) : Prop :=
  ∀ token ∈ event.enteringToken, token.fainted = false

/-- An accepted event keeps the flags in agreement exactly when nobody enters fainted. -/
theorem faintedFlagsAgree_step {s s' : ObservedState} {event : BattleEvent} (hsided : s.WellSided)
    (hs : FaintedFlagsAgree s) (h : reduce s event = .ok s') :
    FaintedFlagsAgree s' ↔ EntersStanding event := by
  obtain ⟨-, -, -, hsteps⟩ := reduce_step hsided h
  constructor
  · intro hall token htoken
    obtain ⟨i, hside⟩ := rosterSide_of_entering h htoken
    exact (flagAgrees_side_step (hs i) (hsteps i)).mp (hall i) hside token htoken
  · intro hstanding i
    exact (flagAgrees_side_step (hs i) (hsteps i)).mpr fun _ => hstanding

/-! ## §3 Runs of payloads -/

section Payloads

variable [Python.UnicodeDatabase]

/-- Parses a battle payload as the event with the given index, and reduces it. -/
def observePayload (roomId : Option String) (s : ObservedState) (line : Int × String) :
    Except PyException ObservedState := do
  let event ← parseBattleLine line.2 line.1 roomId
  reduce s event

/-- The payload is of no switch or drag with a fainted condition. -/
def StandingPayload (roomId : Option String) (_ : ObservedState) (line : Int × String) : Prop :=
  ∀ event, parseBattleLine line.2 line.1 roomId = .ok event → EntersStanding event

theorem observePayload_eq_ok {roomId : Option String} {s s' : ObservedState} {line : Int × String}
    (h : observePayload roomId s line = .ok s') :
    ∃ event, parseBattleLine line.2 line.1 roomId = .ok event ∧ reduce s event = .ok s' :=
  bind_eq_ok.mp h

theorem faintedFlagsAgree_payload {roomId : Option String} {s s' : ObservedState}
    {line : Int × String} (hsound : SoundState s) (hs : FaintedFlagsAgree s)
    (h : observePayload roomId s line = .ok s') :
    FaintedFlagsAgree s' ↔ StandingPayload roomId s line := by
  obtain ⟨event, hparse, hreduce⟩ := observePayload_eq_ok h
  rw [faintedFlagsAgree_step hsound.sided hs hreduce]
  constructor
  · intro hstanding event' hparse'
    rw [← Except.ok.inj (hparse.symm.trans hparse')]
    exact hstanding
  · intro hstanding
    exact hstanding event hparse

/-- **Fainted flags.** Along a run of battle payloads, with whatever event indices, flag and HP
observation agree for every pokemon in every state passed through, exactly when no payload that the
run accepts is a switch or drag with a fainted condition. -/
theorem fainted_flags_iff (roomId : Option String) (ourUserId : String)
    (lines : List (Int × String)) :
    HoldsAlong (observePayload roomId) FaintedFlagsAgree (ObservedState.initial ourUserId) lines ↔
      StepsMeet (observePayload roomId) (StandingPayload roomId) (ObservedState.initial ourUserId)
        lines := by
  refine holdsAlong_iff_stepsMeet (I := SoundState) (fun s line t hsound h => ?_)
    (fun s line t hsound hs h => faintedFlagsAgree_payload hsound hs h)
    (soundState_initial ourUserId) (fun i pv hpv => ?_) lines
  · obtain ⟨event, -, hreduce⟩ := observePayload_eq_ok h
    exact hsound.step hreduce
  · cases i <;> cases hpv

end Payloads

/-- A pokemon that is brought in with no HP left. -/
def faintedEntry : List (Int × String) := [(0, "|switch|p1a: Scizor|Scizor, F|0 fnt")]

/-- It stands in the roster with a cleared flag, and with a fainted observation. -/
theorem fainted_flags_disagree :
    letI := Python.asciiDatabase
    ¬HoldsAlong (observePayload (some "battle-1")) FaintedFlagsAgree (ObservedState.initial "ash")
      faintedEntry := by
  intro h
  have hresult : (faintedEntry.foldlM (@observePayload Python.asciiDatabase (some "battle-1"))
      (ObservedState.initial "ash")).map (fun s => s.p1.pokemon.map fun pv =>
        (pv.fainted, pv.hp.map fun hp => hp.fainted)) = .ok [(false, some true)] := by
    decide +kernel
  obtain ⟨s, hrun, hpokemon⟩ := map_eq_ok.mp hresult
  have hagree := holdsAlong_iff_forall_prefix.mp h faintedEntry [] s (List.append_nil _).symm hrun
  obtain ⟨pv, hpv, hfields⟩ : ∃ pv ∈ s.p1.pokemon,
      (pv.fainted, pv.hp.map fun hp => hp.fainted) = (false, some true) := by
    rw [← List.mem_map, hpokemon]
    exact List.mem_singleton_self _
  obtain ⟨hflag, hobserved⟩ := Prod.mk.inj hfields
  obtain ⟨hp, hhp, hfainted⟩ := Option.map_eq_some_iff.mp hobserved
  have htrue := (hagree .p1 pv hpv).mpr ⟨hp, hhp, hfainted⟩
  rw [hflag] at htrue
  cases htrue

end BattleBelief
