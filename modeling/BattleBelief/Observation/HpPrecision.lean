import BattleBelief.Observation.EventFrame
import BattleBelief.Observation.FaintedFlags

/-!
# The Precision of the Opponent's HP

An opponent's HP comes as a share of 100, and the reducer tells this from the maximum on the line. A
fainted condition has no maximum: it is recorded as a pixel observation out of one, and a faint line
keeps precision and maximum of what was recorded before it.

`opponent_precision_iff` says which runs keep the opponent's observations in percent: those in which
no line about the opponent carries a fainted condition.
-/

namespace BattleBelief

open Runs

/-! ## §1 Observations -/

/-- The observation of the pokemon, if there is one, is in percent. -/
def InPercent (pv : PokemonView) : Prop :=
  ∀ hp, pv.hp = some hp → hp.precision = .percent ∧ hp.maximum = 100

/-- Every observation of the side at `i` is in percent. -/
def SideInPercent (i : SideRef) (s : ObservedState) : Prop :=
  ∀ pv ∈ (s.sideAt i).pokemon, InPercent pv

/-- The condition that an event carries, and the side it is about. -/
def BattleEvent.condition : BattleEvent → Option (String × HpToken)
  | .pokemonSwitched event => some (event.sideId, event.hp)
  | .pokemonDragged event => some (event.sideId, event.hp)
  | .healthChanged event => some (event.sideId, event.hp)
  | .identityChanged event => some (event.sideId, event.hp)
  | .formChanged event => some (event.sideId, event.hp)
  | _ => none

theorem rosterSide_of_condition {event : BattleEvent} {sideId : String} {token : HpToken}
    (h : event.condition = some (sideId, token)) : event.rosterSide = some sideId := by
  cases event with
  | pokemonSwitched event => cases h; rfl
  | pokemonDragged event => cases h; rfl
  | healthChanged event => cases h; rfl
  | identityChanged event => cases h; rfl
  | formChanged event => cases h; rfl
  | _ => cases h

theorem InPercent.congr {pv pv' : PokemonView} (h : InPercent pv) (hhp : pv'.hp = pv.hp) :
    InPercent pv' := by
  intro hp hhp'
  exact h hp (hhp ▸ hhp')

theorem inPercent_of_hp {pv : PokemonView} {hp : HpObservation} (h : pv.hp = some hp) :
    InPercent pv ↔ hp.precision = .percent ∧ hp.maximum = 100 := by
  constructor
  · intro hpercent
    exact hpercent hp h
  · intro hpercent hp' hhp'
    rw [h] at hhp'
    exact Option.some.inj hhp' ▸ hpercent

theorem create_eq_ok {current maximum : Int} {precision : HpPrecision} {fainted : Bool}
    {hp : HpObservation} (h : HpObservation.create current maximum precision fainted = .ok hp) :
    hp.maximum = maximum ∧ hp.precision = precision := by
  unfold HpObservation.create at h
  split_ifs at h with hbounds hzero
  rw [← Except.ok.inj h]
  exact ⟨rfl, rfl⟩

/-- Of a side that is not ours, a condition is observed in percent exactly when it is out of 100. -/
theorem percent_of_tokenToObservation {token : HpToken} {sideId : String}
    {ourSide : Option String} {hp : HpObservation} (hours : ourSide ≠ some sideId)
    (h : tokenToObservation token sideId ourSide = .ok hp) :
    (hp.precision = .percent ∧ hp.maximum = 100) ↔ token.maximum = 100 := by
  simp only [tokenToObservation, if_neg hours] at h
  have hfields : hp.precision = (if token.maximum = 100 then .percent else .pixel) ∧
      (hp.maximum = max token.maximum 1 ∨ hp.maximum = token.maximum) := by
    by_cases hfainted : token.fainted = true
    · rw [if_pos hfainted] at h
      obtain ⟨hmaximum, hprecision⟩ := create_eq_ok h
      exact ⟨hprecision, .inl hmaximum⟩
    · rw [if_neg hfainted] at h
      obtain ⟨hmaximum, hprecision⟩ := create_eq_ok h
      exact ⟨hprecision, .inr hmaximum⟩
  obtain ⟨hprecision, hmaximum⟩ := hfields
  rw [hprecision]
  constructor
  · rintro ⟨hpercent, -⟩
    by_contra hmax
    rw [if_neg hmax] at hpercent
    cases hpercent
  · intro hmax
    refine ⟨if_pos hmax, ?_⟩
    rcases hmaximum with hmaximum | hmaximum <;> omega

/-! ## §2 What a step does to them -/

/-- A condition that the event carries for a side is out of 100. -/
def OutOfHundred (sideId : String) (event : BattleEvent) : Prop :=
  ∀ token, event.condition = some (sideId, token) → token.maximum = 100

theorem outOfHundred_of_none {sideId : String} {event : BattleEvent}
    (h : event.condition = none) : OutOfHundred sideId event := by
  intro token htoken
  rw [h] at htoken
  cases htoken

theorem outOfHundred_iff {sideId : String} {event : BattleEvent} {token : HpToken}
    (h : event.condition = some (sideId, token)) :
    OutOfHundred sideId event ↔ token.maximum = 100 := by
  constructor
  · intro hall
    exact hall token h
  · intro hmax token' htoken'
    rw [h] at htoken'
    cases htoken'
    exact hmax

/-- An edit of the active pokemon leaves its HP alone, observes it, or marks it as fainted. -/
theorem inPercent_edit {ourSide : Option String} {event : BattleEvent} {sideId : String}
    {edit : EntryEdit} (hedit : Edits ourSide event sideId edit) (hours : ourSide ≠ some sideId)
    {ei : Int} {pv : PokemonView} (h : InPercent pv) :
    InPercent (edit.apply ei pv) ↔ OutOfHundred sideId event := by
  cases hedit with
  | pokemonFainted event =>
    refine iff_of_true ?_ (outOfHundred_of_none rfl)
    rw [inPercent_of_hp rfl]
    cases hhp : pv.hp with
    | none => exact ⟨rfl, rfl⟩
    | some hp => exact h hp hhp
  | healthChanged event hp hhp =>
    rw [outOfHundred_iff rfl, inPercent_of_hp rfl]
    exact percent_of_tokenToObservation hours hhp
  | identityChanged event hp hhp =>
    rw [outOfHundred_iff rfl, inPercent_of_hp rfl]
    exact percent_of_tokenToObservation hours hhp
  | formChanged event hp hhp =>
    have happlied : ((EntryEdit.form event hp).apply ei pv).hp = some hp := by
      simp only [EntryEdit.apply, changeForm]
      split <;> rfl
    rw [outOfHundred_iff rfl, inPercent_of_hp happlied]
    exact percent_of_tokenToObservation hours hhp
  | moveUsed event =>
    refine iff_of_true (h.congr ?_) (outOfHundred_of_none rfl)
    simp only [EntryEdit.apply]
    split_ifs <;> rfl
  | volatileStarted event haction =>
    refine iff_of_true (h.congr ?_) (outOfHundred_of_none rfl)
    simp only [EntryEdit.apply]
    split_ifs <;> rfl
  | _ => exact iff_of_true (h.congr rfl) (outOfHundred_of_none rfl)

theorem InPercent.deactivate {pv : PokemonView} (h : InPercent pv) (ei : Int) :
    InPercent (deactivate pv ei) := by
  refine h.congr ?_
  unfold BattleBelief.deactivate
  split_ifs <;> rfl

/-- Writing one entry keeps a roster in percent exactly when the new one is. -/
theorem forall_mem_set_iff {α : Type} {P : α → Prop} {l : List α} (h : ∀ a ∈ l, P a) {n : Nat}
    (hn : n < l.length) (a : α) : (∀ b ∈ l.set n a, P b) ↔ P a := by
  constructor
  · intro hall
    exact hall a (List.mem_of_getElem? (List.getElem?_set_self hn))
  · intro ha b hb
    rcases List.mem_or_eq_of_mem_set hb with hb | rfl
    · exact h b hb
    · exact ha

theorem inPercent_activatePokemon {side : SideView} (h : ∀ pv ∈ side.pokemon, InPercent pv)
    (nickname details : String) (hp : HpObservation) (status : Option String) (ei : Int) :
    (∀ pv ∈ (activatePokemon side nickname details hp status ei).pokemon, InPercent pv) ↔
      hp.precision = .percent ∧ hp.maximum = 100 := by
  have hleft : ∀ pv ∈ side.pokemon.map (deactivate · ei), InPercent pv := by
    intro pv hpv
    obtain ⟨old, hold, rfl⟩ := List.mem_map.mp hpv
    exact (h old hold).deactivate ei
  rw [activatePokemon_pokemon]
  split
  · rw [List.forall_mem_append, List.forall_mem_singleton, inPercent_of_hp rfl]
    exact and_iff_right hleft
  · next existing hfind =>
    obtain ⟨hlt, -⟩ := List.getElem?_eq_some_iff.mp (findForSwitchIn_eq_some hfind).1
    rw [forall_mem_set_iff hleft hlt, inPercent_of_hp rfl]

/-- A side that is not ours stays in percent exactly when the event's condition is out of 100. -/
theorem inPercent_step {s s' : ObservedState} {event : BattleEvent} {i : SideRef}
    (hours : s.ourSide ≠ some i.id) (h : SideInPercent i s) (hstep : SideStep s event i s') :
    SideInPercent i s' ↔ OutOfHundred i.id event := by
  unfold SideInPercent at h ⊢
  cases hstep with
  | keep hevent hpokemon hslot =>
    rw [hpokemon]
    exact iff_of_true h fun token htoken => absurd (rosterSide_of_condition htoken) hevent
  | active entry edit hfind hedit hnick hpokemon hslot =>
    obtain ⟨hget, -⟩ := findActive_eq_some hfind
    obtain ⟨hlt, -⟩ := List.getElem?_eq_some_iff.mp hget
    rw [hpokemon, forall_mem_set_iff h hlt]
    exact inPercent_edit hedit hours (h _ (List.mem_of_getElem? hget))
  | bench health entry hp hevent hside hget hinactive hhp hpokemon hslot =>
    obtain ⟨hlt, -⟩ := List.getElem?_eq_some_iff.mp hget
    have hcondition : event.condition = some (i.id, health.hp) := by
      rw [hevent, ← hside]
      rfl
    rw [hpokemon, forall_mem_set_iff h hlt, inPercent_of_hp rfl, outOfHundred_iff hcondition]
    exact percent_of_tokenToObservation (hside ▸ hours) hhp
  | boosts entry values hevent hfind hvalues hpokemon hslot =>
    obtain ⟨hget, -⟩ := findActive_eq_some hfind
    obtain ⟨hlt, -⟩ := List.getElem?_eq_some_iff.mp hget
    rw [hpokemon, forall_mem_set_iff h hlt]
    refine iff_of_true ((h _ (List.mem_of_getElem? hget)).congr rfl) fun token htoken => ?_
    rw [rosterSide_of_condition htoken] at hevent
    cases hevent
  | cure cured hevent hside hpokemon hslot =>
    rw [hpokemon, List.forall_mem_map]
    refine iff_of_true (fun pv hpv => (h pv hpv).congr rfl) (outOfHundred_of_none ?_)
    rw [hevent]
    rfl
  | activate nickname details token hp hevent hhp hpokemon hslot =>
    have hcondition : event.condition = some (i.id, token) := by
      rcases hevent with ⟨slot, hevent⟩ | ⟨slot, hevent⟩ <;> rw [hevent] <;> rfl
    rw [hpokemon, inPercent_activatePokemon h, outOfHundred_iff hcondition]
    exact percent_of_tokenToObservation hours hhp

/-! ## §3 Along a run -/

/-- Our side, once known, stays the same. -/
theorem ourSide_step {s s' : ObservedState} {event : BattleEvent} {our : String}
    (hours : s.ourSide = some our) (h : reduce s event = .ok s') : s'.ourSide = some our := by
  rw [reduce_beside h]
  cases event with
  | playerDeclared event =>
    show (if _ ∧ s.ourSide = none then _ else s.ourSide) = some our
    rw [if_neg (by simp [hours]), hours]
  | fieldConditionChanged event =>
    simp only [effectBeside, reduceFieldConditionChanged, ObservedState.withSides]
    split_ifs <;> exact hours
  | _ => exact hours

section Payloads

variable [Python.UnicodeDatabase]

/-- The condition that a payload carries for a side of the battle. -/
def CarriesCondition (roomId : Option String) (i : SideRef) (line : Int × String)
    (token : HpToken) : Prop :=
  ∃ event, parseBattleLine line.2 line.1 roomId = .ok event ∧
    event.condition = some (i.id, token)

theorem carriesCondition_iff {roomId : Option String} {i : SideRef} {line : Int × String}
    {token : HpToken} : CarriesCondition roomId i line token ↔
      (parseBattleLine line.2 line.1 roomId).map BattleEvent.condition =
        .ok (some (i.id, token)) :=
  map_eq_ok.symm

/-- The observations of the opponent stay in percent exactly when all conditions that the run reads
for that side are out of 100. -/
theorem percent_run {roomId : Option String} {opponent : SideRef} {our : String}
    (hopponent : our ≠ opponent.id) {s t : ObservedState} {lines : List (Int × String)}
    (hsound : SoundState s) (hs : SideInPercent opponent s)
    (hrun : RunsTo (observePayload roomId) s lines t) (hknown : t.ourSide = some our) :
    HoldsAlong (observePayload roomId) (SideInPercent opponent) s lines ↔
      ∀ line ∈ lines, ∀ token, CarriesCondition roomId opponent line token →
        token.maximum = 100 := by
  induction lines generalizing s with
  | nil => exact iff_of_true hs fun _ hline => absurd hline List.not_mem_nil
  | cons line rest ih =>
    obtain ⟨m, hm, hrest⟩ := runs_cons.mp hrun
    obtain ⟨event, hparse, hreduce⟩ := observePayload_eq_ok hm
    have hours : s.ourSide ≠ some opponent.id := by
      intro heq
      have hend : t.ourSide = some opponent.id := by
        refine invariant (I := fun s => s.ourSide = some opponent.id) (fun s line s' hs h => ?_)
          heq hrun
        obtain ⟨_, -, h⟩ := observePayload_eq_ok h
        exact ourSide_step hs h
      exact hopponent (Option.some.inj (hknown.symm.trans hend))
    obtain ⟨-, -, -, hsteps⟩ := reduce_step hsound.sided hreduce
    have hstep := inPercent_step hours hs (hsteps opponent)
    have hhead : (∀ token, CarriesCondition roomId opponent line token → token.maximum = 100) ↔
        OutOfHundred opponent.id event := by
      constructor
      · intro hall token htoken
        exact hall token ⟨event, hparse, htoken⟩
      · rintro hall token ⟨event', hparse', htoken⟩
        rw [hparse] at hparse'
        exact hall token (Except.ok.inj hparse' ▸ htoken)
    rw [List.forall_mem_cons, hhead, ← hstep]
    constructor
    · rintro ⟨-, hholds⟩
      have hmid : SideInPercent opponent m := (hholds m hm).head
      exact ⟨hmid, (ih (hsound.step hreduce) hmid hrest).mp (hholds m hm)⟩
    · rintro ⟨hmid, hall⟩
      refine ⟨hs, fun m' hm' => ?_⟩
      obtain rfl : m = m' := Except.ok.inj (hm.symm.trans hm')
      exact (ih (hsound.step hreduce) hmid hrest).mpr hall

/-! ## §4 Conditions on the wire -/

/-- A condition of the form `c/100`, with a status or without. -/
def PercentText (text : String) : Prop :=
  ∃ c ≤ 100, text = Nat.repr c ++ "/100" ∨
    ∃ status, text = Nat.repr c ++ "/100" ++ " " ++ status

omit [Python.UnicodeDatabase] in
theorem not_mem_toDigits {c : Nat} {d : Char} (hd : d.isDigit = false) :
    d ∉ Nat.toDigits 10 c := by
  intro hmem
  rw [Nat.isDigit_of_mem_toDigits (by decide) (by decide) hmem] at hd
  cases hd

theorem maximum_of_parseHpNumbers {hpStr : String} {c : Nat} {current maximum : Int}
    (h : parseHpNumbers hpStr (Nat.repr c ++ "/100") = .ok (current, maximum)) :
    maximum = 100 := by
  have hsplit : Python.splitOnce (Nat.repr c ++ "/100") "/" = some (Nat.repr c, "100") := by
    have hchars : (Nat.repr c ++ "/100").toList = Nat.toDigits 10 c ++ '/' :: "100".toList := by
      simp
    rw [Python.splitOnce, hchars, show "/".toList = ['/'] from rfl,
      Python.partitionChars_append (not_mem_toDigits rfl), ← Nat.toList_repr]
    simp only [Option.map_some, List.reverse_nil, List.nil_append, String.ofList_toList]
  have hhundred : ∀ message, intField "100" message = .ok 100 := fun _ => rfl
  simp only [parseHpNumbers, hsplit, hhundred, bind_eq_ok] at h
  obtain ⟨_, -, _, hmaximum, heq⟩ := h
  cases hmaximum
  exact (Prod.mk.inj (Except.ok.inj heq)).2.symm

theorem maximum_of_percentText {text : String} {token : HpToken} (htext : PercentText text)
    (h : parseHpToken text = .ok token) : token.maximum = 100 := by
  have hmax : ∀ c : Nat, ((Python.splitOnce text " ").map Prod.fst).getD text =
      Nat.repr c ++ "/100" → token.maximum = 100 := by
    intro c hpart
    simp only [parseHpToken, hpart, bind_eq_ok] at h
    obtain ⟨⟨current, maximum⟩, hnumbers, h⟩ := h
    split at h
    · cases h
    · rw [← Except.ok.inj h]
      exact maximum_of_parseHpNumbers hnumbers
  have hspace : ∀ c : Nat, ' ' ∉ (Nat.repr c ++ "/100").toList := by
    intro c
    simp [not_mem_toDigits (c := c) (d := ' ') rfl]
  obtain ⟨c, -, rfl | ⟨status, rfl⟩⟩ := htext
  · refine hmax c ?_
    have hnone : Python.splitOnce (Nat.repr c ++ "/100") " " = none := by
      rw [Python.splitOnce, show " ".toList = [' '] from rfl,
        Python.partitionChars_eq_none (hspace c)]
      rfl
    rw [hnone]
    rfl
  · refine hmax c ?_
    have hsome : Python.splitOnce (Nat.repr c ++ "/100" ++ " " ++ status) " " =
        some (Nat.repr c ++ "/100", status) := by
      have hchars : (Nat.repr c ++ "/100" ++ " " ++ status).toList =
          (Nat.repr c ++ "/100").toList ++ ' ' :: status.toList := by
        simp
      rw [Python.splitOnce, hchars, show " ".toList = [' '] from rfl,
        Python.partitionChars_append (hspace c)]
      simp only [Option.map_some, List.reverse_nil, List.nil_append, String.ofList_toList]
    rw [hsome]
    rfl

theorem parseHpToken_fnt : parseHpToken "0 fnt" = .ok ⟨0, 0, none, true⟩ := rfl

/-- **Precision of the opponent's HP.** Let our side be known, and let every condition that a run
reads for the other side be `c/100`, with a status or without, or `0 fnt`. Then every observation of
that side is in percent in every state that the run passes through, exactly when none of the
conditions is `0 fnt`. -/
theorem opponent_precision_iff {roomId : Option String} {ourUserId our : String}
    {opponent : SideRef} {lines : List (Int × String)} {s : ObservedState}
    (hrun : RunsTo (observePayload roomId) (ObservedState.initial ourUserId) lines s)
    (hknown : s.ourSide = some our) (hopponent : our ≠ opponent.id)
    (htexts : ∀ line ∈ lines, ∀ token, CarriesCondition roomId opponent line token →
      ∃ text, parseHpToken text = .ok token ∧ (PercentText text ∨ text = "0 fnt")) :
    HoldsAlong (observePayload roomId) (SideInPercent opponent) (ObservedState.initial ourUserId)
        lines ↔
      ∀ line ∈ lines, ∀ token, CarriesCondition roomId opponent line token →
        parseHpToken "0 fnt" ≠ .ok token := by
  have hinitial : SideInPercent opponent (ObservedState.initial ourUserId) := by
    intro pv hpv
    cases opponent <;> cases hpv
  rw [percent_run hopponent (soundState_initial ourUserId) hinitial hrun hknown]
  refine forall₂_congr fun line hline => forall₂_congr fun token hcarries => ?_
  obtain ⟨text, hparse, hform⟩ := htexts line hline token hcarries
  constructor
  · intro hmax hfnt
    rw [← Except.ok.inj (parseHpToken_fnt.symm.trans hfnt)] at hmax
    cases hmax
  · intro hfnt
    rcases hform with hpercent | rfl
    · exact maximum_of_percentText hpercent hparse
    · exact absurd hparse hfnt

end Payloads

example : letI := Python.asciiDatabase
    (parseHpToken "40/100 par").map HpToken.maximum = .ok 100 := by decide +kernel

/-- The opponent's Garchomp is hit, and hit again until it faints. -/
def knockedOut : List (Int × String) :=
  [(0, "|player|p1|Ash|1"), (1, "|switch|p2a: Garchomp|Garchomp, M|100/100"),
    (2, "|-damage|p2a: Garchomp|40/100 par"), (3, "|-damage|p2a: Garchomp|0 fnt"),
    (4, "|faint|p2a: Garchomp")]

/-- Every condition that its lines carry for the opponent has one of the two forms. -/
theorem knockedOut_texts :
    letI := Python.asciiDatabase
    ∀ line ∈ knockedOut, ∀ token, CarriesCondition (some "battle-1") .p2 line token →
      ∃ text, parseHpToken text = .ok token ∧ (PercentText text ∨ text = "0 fnt") := by
  let _ := Python.asciiDatabase
  have hcarried : ∀ line ∈ knockedOut,
      (parseBattleLine line.2 line.1 (some "battle-1")).map BattleEvent.condition ∈
        [.ok none, .ok (some ("p2", ⟨100, 100, none, false⟩)),
          .ok (some ("p2", ⟨40, 100, some "par", false⟩)),
          .ok (some ("p2", ⟨0, 0, none, true⟩))] := by
    decide +kernel
  intro line hline token hcarries
  have hmem := hcarried line hline
  rw [carriesCondition_iff.mp hcarries] at hmem
  simp only [List.mem_cons, List.not_mem_nil, or_false, Except.ok.injEq, Option.some.injEq,
    Prod.mk.injEq, reduceCtorEq, false_or] at hmem
  rcases hmem with ⟨-, rfl⟩ | ⟨-, rfl⟩ | ⟨-, rfl⟩
  · exact ⟨"100/100", rfl, .inl ⟨100, le_refl _, .inl rfl⟩⟩
  · exact ⟨"40/100 par", rfl, .inl ⟨40, by decide, .inr ⟨"par", rfl⟩⟩⟩
  · exact ⟨"0 fnt", rfl, .inr rfl⟩

/-- Up to the line with the fainted condition, the observations are in percent. -/
theorem opponent_precision_before_fnt :
    letI := Python.asciiDatabase
    HoldsAlong (observePayload (some "battle-1")) (SideInPercent .p2)
      (ObservedState.initial "ash") (knockedOut.take 3) := by
  let _ := Python.asciiDatabase
  have hresult : (((knockedOut.take 3).foldlM (observePayload (some "battle-1"))
      (ObservedState.initial "ash")).map fun s => s.ourSide) = .ok (some "p1") := by
    decide +kernel
  obtain ⟨s, hrun, hours⟩ := map_eq_ok.mp hresult
  have hfnt : ∀ line ∈ knockedOut.take 3,
      (parseBattleLine line.2 line.1 (some "battle-1")).map BattleEvent.condition ≠
        .ok (some ("p2", ⟨0, 0, none, true⟩)) := by
    decide +kernel
  refine (opponent_precision_iff hrun hours (by decide)
    fun line hline => knockedOut_texts line (List.mem_of_mem_take hline)).mpr
      fun line hline token hcarries hparse => hfnt line hline ?_
  rw [carriesCondition_iff.mp hcarries, ← Except.ok.inj (parseHpToken_fnt.symm.trans hparse)]
  rfl

/-- Whoever is reported with a fainted condition is recorded out of one pixel, and stays so. -/
theorem opponent_precision_lost :
    letI := Python.asciiDatabase
    (∃ s, RunsTo (observePayload (some "battle-1")) (ObservedState.initial "ash") knockedOut s ∧
      s.ourSide = some "p1" ∧
      s.p2.pokemon.map (fun pv => pv.hp.map fun hp => (hp.precision, hp.maximum)) =
        [some (.pixel, 1)]) ∧
    (∀ line ∈ knockedOut, ∀ token, CarriesCondition (some "battle-1") .p2 line token →
      ∃ text, parseHpToken text = .ok token ∧ (PercentText text ∨ text = "0 fnt")) ∧
    ¬HoldsAlong (observePayload (some "battle-1")) (SideInPercent .p2)
      (ObservedState.initial "ash") knockedOut := by
  let _ := Python.asciiDatabase
  have hresult : (knockedOut.foldlM (observePayload (some "battle-1"))
      (ObservedState.initial "ash")).map (fun s => (s.ourSide,
        s.p2.pokemon.map fun pv => pv.hp.map fun hp => (hp.precision, hp.maximum))) =
      .ok (some "p1", [some (.pixel, 1)]) := by
    decide +kernel
  obtain ⟨s, hrun, hfields⟩ := map_eq_ok.mp hresult
  obtain ⟨hours, hpokemon⟩ := Prod.mk.inj hfields
  refine ⟨⟨s, hrun, hours, hpokemon⟩, knockedOut_texts, fun hholds => ?_⟩
  have hpercent := holdsAlong_iff_forall_prefix.mp hholds knockedOut [] s
    (List.append_nil _).symm hrun
  obtain ⟨pv, hpv, hfield⟩ : ∃ pv ∈ s.p2.pokemon,
      (pv.hp.map fun hp => (hp.precision, hp.maximum)) = some (.pixel, 1) := by
    rw [← List.mem_map, hpokemon]
    exact List.mem_singleton_self _
  obtain ⟨hp, hhp, hfield⟩ := Option.map_eq_some_iff.mp hfield
  rw [(hpercent pv hpv hp hhp).1] at hfield
  cases hfield

end BattleBelief
