import BattleBelief.Observation.RosterStep
import BattleBelief.Library.Outcomes

/-!
# What the Reducer Raises

The reducer raises `ReducerInvariantError` where an event does not fit the state. Two value
lookups that it makes on the way raise a `ValueError` of their own: the constructor of an HP
observation, and the position of a boost stat. `OutsideDomain` says of a state and an event that
such a lookup is reached with a value it cannot take.

`reduceEvent_raises` is the complete list of what a known event can raise, and
`reduceEvent_valueError` says that an event outside the domain does raise the `ValueError`.
-/

namespace BattleBelief

open Runs Outcomes

/-! ## §1 Values that a lookup cannot take -/

/-- An HP observation can be made of the token. -/
def HpToken.Fits (token : HpToken) : Prop :=
  token.fainted = true ∨
    (0 < token.maximum ∧ 0 ≤ token.current ∧ token.current ≤ token.maximum)

instance (token : HpToken) : Decidable token.Fits := by
  unfold HpToken.Fits
  infer_instance

/-- The side's active pokemon has this nickname. -/
def ActiveIs (s : ObservedState) (sideId nickname : String) : Prop :=
  ∃ side entry, s.side sideId = .ok side ∧ findActive side = some entry ∧
    entry.view.nickname = nickname

/-- The event reaches an HP constructor or a stat lookup with a value outside its domain. -/
def OutsideDomain (s : ObservedState) : BattleEvent → Prop
  | .pokemonSwitched event => ¬event.hp.Fits
  | .pokemonDragged event => ¬event.hp.Fits
  | .healthChanged event =>
      ¬event.hp.Fits ∧ ∃ side entry, s.side event.sideId = .ok side ∧
        requireHealthTarget side event.nickname event.slot = .ok entry
  | .identityChanged event =>
      ¬event.hp.Fits ∧ ∃ nickname, ActiveIs s event.sideId nickname
  | .formChanged event => ¬event.hp.Fits ∧ ActiveIs s event.sideId event.nickname
  | .boostChanged event => event.stat ∉ boostStats ∧ ActiveIs s event.sideId event.nickname
  | .boostsSwapped event =>
      (∃ stat ∈ event.stats, stat ∉ boostStats) ∧ ActiveIs s event.sideId event.nickname ∧
        ActiveIs s event.targetSideId event.targetNickname
  | .boostsCopied event =>
      (∃ stat ∈ event.stats, stat ∉ boostStats) ∧ ActiveIs s event.sideId event.nickname ∧
        ActiveIs s event.sourceSideId event.sourceNickname
  | _ => False

/-- One of the classes that the packages define. -/
def BattleEvent.Known (event : BattleEvent) : Prop := ∀ ei className, event ≠ .other ei className

/-- A `ReducerInvariantError` other than the one for unknown event classes. -/
def IsFault (err : PyException) : Prop :=
  ∃ fault, err = .reducerInvariantError fault ∧ ∀ className, fault ≠ .unhandledEvent className

/-- A bare `ValueError`. -/
def IsValueError (err : PyException) : Prop := ∃ text, err = .valueError text

/-- A reducer fault, or a `ValueError` in case of `C`. -/
def FaultOr (C : Prop) (err : PyException) : Prop := IsFault err ∨ IsValueError err ∧ C

theorem FaultOr.mono {C D : Prop} (h : C → D) (err : PyException) : FaultOr C err → FaultOr D err :=
  Or.imp_right (And.imp_right h)

/-! ## §2 The steps of the reducer -/

section Steps

variable {C : Prop}

theorem side_raises (s : ObservedState) (sideId : String) :
    RaisesOnly (FaultOr C) (s.side sideId) := by
  unfold ObservedState.side
  split_ifs
  · exact .ok
  · exact .ok
  · exact .error (.inl ⟨_, rfl, nofun⟩)

theorem updateSide_raises (s : ObservedState) (side : SideView) :
    RaisesOnly (FaultOr C) (updateSide s side) := by
  unfold updateSide
  split_ifs
  · exact .ok
  · exact .ok
  · exact .error (.inl ⟨_, rfl, nofun⟩)

theorem requireActive_raises (side : SideView) (nickname context : String) :
    RaisesOnly (FaultOr C) (requireActive side nickname context) := by
  unfold requireActive
  split
  · exact .error (.inl ⟨_, rfl, nofun⟩)
  · split_ifs
    · exact .ok
    · exact .error (.inl ⟨_, rfl, nofun⟩)

theorem requireHealthTarget_raises (side : SideView) (nickname : String) (slot : Option Int) :
    RaisesOnly (FaultOr C) (requireHealthTarget side nickname slot) := by
  cases slot with
  | some slot => exact requireActive_raises side nickname "health"
  | none =>
    simp only [requireHealthTarget]
    split
    · exact .ok
    · exact .error (.inl ⟨_, rfl, fun className h => by cases h⟩)

theorem clearBoosts_raises (boosts : List Int) (scope : String) :
    RaisesOnly (FaultOr C) (clearBoosts boosts scope) := by
  unfold clearBoosts
  split_ifs
  · exact .ok
  · exact .ok
  · exact .ok
  · split
    · exact .ok
    · exact .error (.inl ⟨_, rfl, nofun⟩)

theorem clearActiveBoosts_raises (side : SideView) (scope : String) :
    RaisesOnly (FaultOr C) (clearActiveBoosts side scope) := by
  unfold clearActiveBoosts
  split
  · exact .ok
  · exact (clearBoosts_raises _ _).bind fun _ _ => .pure trivial

/-- The HP constructor raises exactly when one of its two checks fails. -/
theorem create_outcome (current maximum : Int) (precision : HpPrecision) (fainted : Bool) :
    Satisfies
      (fun _ => (0 < maximum ∧ 0 ≤ current ∧ current ≤ maximum) ∧ (fainted = true → current = 0))
      (fun err => IsValueError err ∧
        ¬((0 < maximum ∧ 0 ≤ current ∧ current ≤ maximum) ∧ (fainted = true → current = 0)))
      (HpObservation.create current maximum precision fainted) := by
  unfold HpObservation.create
  split_ifs with hbounds hzero
  · exact .ok ⟨hbounds, hzero⟩
  · exact .error ⟨⟨_, rfl⟩, fun h => hzero h.2⟩
  · exact .error ⟨⟨_, rfl⟩, fun h => hbounds h.1⟩

/-- An observation of a token raises exactly when the token does not fit. -/
theorem tokenToObservation_outcome (token : HpToken) (sideId : String) (ourSide : Option String) :
    Satisfies (fun _ => token.Fits) (fun err => IsValueError err ∧ ¬token.Fits)
      (tokenToObservation token sideId ourSide) := by
  simp only [tokenToObservation]
  cases hfainted : token.fainted with
  | true =>
    have hmax : 0 < max token.maximum 1 ∧ (0 : Int) ≤ 0 ∧ 0 ≤ max token.maximum 1 := by omega
    exact (create_outcome _ _ _ _).mono (fun _ _ => .inl hfainted)
      fun _ h => absurd ⟨hmax, fun _ => rfl⟩ h.2
  | false =>
    refine (create_outcome _ _ _ _).mono (fun _ h => .inr h.1) fun _ h => ⟨h.1, ?_⟩
    rintro (hfits | hfits)
    · rw [hfainted] at hfits
      cases hfits
    · exact h.2 ⟨hfits, nofun⟩

theorem tokenToObservation_raises (token : HpToken) (sideId : String) (ourSide : Option String) :
    RaisesOnly (FaultOr (¬token.Fits)) (tokenToObservation token sideId ourSide) :=
  (tokenToObservation_outcome token sideId ourSide).mono (fun _ _ => trivial)
    fun _ h => .inr h

theorem tokenToObservation_valueError {token : HpToken} (h : ¬token.Fits) (sideId : String)
    (ourSide : Option String) :
    ∃ text, tokenToObservation token sideId ourSide = .error (.valueError text) := by
  have houtcome := tokenToObservation_outcome token sideId ourSide
  cases hresult : tokenToObservation token sideId ourSide with
  | ok hp => exact absurd (houtcome.of_ok hresult) h
  | error err =>
    obtain ⟨⟨text, rfl⟩, -⟩ := houtcome.of_error hresult
    exact ⟨text, rfl⟩

/-- The stat lookup raises exactly when the stat is not among the seven. -/
theorem statIndex_outcome (stat : String) :
    Satisfies (fun _ => stat ∈ boostStats) (fun err => IsValueError err ∧ stat ∉ boostStats)
      (statIndex stat) := by
  unfold statIndex
  split
  · next idx hidx =>
    obtain ⟨hlt, heq, -⟩ := List.idxOf?_eq_some_iff.mp hidx
    refine .ok ?_
    have hmem := List.getElem_mem hlt
    rwa [heq] at hmem
  · next hidx =>
    exact .error ⟨⟨_, rfl⟩, List.idxOf?_eq_none_iff.mp hidx⟩

theorem changeBoost_outcome (boosts : List Int) (event : BoostChanged) :
    Satisfies (fun _ => event.stat ∈ boostStats)
      (fun err => IsValueError err ∧ event.stat ∉ boostStats) (changeBoost boosts event) := by
  unfold changeBoost
  split
  · exact (statIndex_outcome event.stat).bind fun _ h => .pure h
  · exact (statIndex_outcome event.stat).bind fun _ h => .pure h

theorem swapStats_outcome (stats : List String) (src tgt : List Int) :
    Satisfies (fun _ => ∀ stat ∈ stats, stat ∈ boostStats)
      (fun err => IsValueError err ∧ ∃ stat ∈ stats, stat ∉ boostStats)
      (swapStats stats src tgt) := by
  induction stats generalizing src tgt with
  | nil => exact .ok nofun
  | cons stat stats ih =>
    refine ((statIndex_outcome stat).mono (fun _ h => h) fun err h =>
      ⟨h.1, stat, List.mem_cons_self, h.2⟩).bind fun idx hstat => ?_
    refine (ih _ _).mono (fun _ h => List.forall_mem_cons.mpr ⟨hstat, h⟩) fun err h => ?_
    obtain ⟨bad, hbad, hnot⟩ := h.2
    exact ⟨h.1, bad, List.mem_cons_of_mem stat hbad, hnot⟩

theorem copyStats_outcome (src : List Int) (stats : List String) (tgt : List Int) :
    Satisfies (fun _ => ∀ stat ∈ stats, stat ∈ boostStats)
      (fun err => IsValueError err ∧ ∃ stat ∈ stats, stat ∉ boostStats)
      (copyStats src stats tgt) := by
  induction stats generalizing tgt with
  | nil => exact .ok nofun
  | cons stat stats ih =>
    refine ((statIndex_outcome stat).mono (fun _ h => h) fun err h =>
      ⟨h.1, stat, List.mem_cons_self, h.2⟩).bind fun idx hstat => ?_
    refine (ih _).mono (fun _ h => List.forall_mem_cons.mpr ⟨hstat, h⟩) fun err h => ?_
    obtain ⟨bad, hbad, hnot⟩ := h.2
    exact ⟨h.1, bad, List.mem_cons_of_mem stat hbad, hnot⟩

/-- An update of the active pokemon raises what the update raises, if it gets that far. -/
theorem updateActive_raises {s : ObservedState} {sideId nickname context : String}
    {update : PokemonView → Except PyException PokemonView}
    (hupdate : ActiveIs s sideId nickname → ∀ pv, RaisesOnly (FaultOr C) (update pv)) :
    RaisesOnly (FaultOr C) (updateActive s sideId nickname context update) := by
  refine (side_raises s sideId).bind fun side hside => ?_
  refine (requireActive_raises side nickname context).bind fun entry hentry => ?_
  obtain ⟨hfind, hnick⟩ := requireActive_eq_ok hentry
  refine (hupdate ⟨side, entry, hside, hfind, hnick⟩ entry.view).bind fun updated _ => ?_
  exact updateSide_raises s _

/-- An update that always succeeds adds nothing to what is raised. -/
theorem updateActive_ok_raises {s : ObservedState} {sideId nickname context : String}
    {update : PokemonView → PokemonView} :
    RaisesOnly (FaultOr C)
      (updateActive s sideId nickname context fun pv => .ok (update pv)) :=
  updateActive_raises fun _ _ => .ok

theorem requireActive_of_activeIs {s : ObservedState} {sideId nickname : String}
    (h : ActiveIs s sideId nickname) (context : String) :
    ∃ side entry, s.side sideId = .ok side ∧ findActive side = some entry ∧
      requireActive side nickname context = .ok entry := by
  obtain ⟨side, entry, hside, hfind, hnick⟩ := h
  refine ⟨side, entry, hside, hfind, ?_⟩
  unfold requireActive
  rw [hfind]
  exact if_pos hnick

/-- If the update fails on every pokemon, so does an update of the active one. -/
theorem updateActive_valueError {s : ObservedState} {sideId nickname : String}
    (h : ActiveIs s sideId nickname) (context : String)
    (update : PokemonView → Except PyException PokemonView)
    (hupdate : ∀ pv, ∃ text, update pv = .error (.valueError text)) :
    ∃ text, updateActive s sideId nickname context update = .error (.valueError text) := by
  obtain ⟨side, entry, hside, -, hentry⟩ := requireActive_of_activeIs h context
  obtain ⟨text, htext⟩ := hupdate entry.view
  refine ⟨text, ?_⟩
  rw [updateActive, hside]
  simp only [bind, Except.bind, hentry, htext]

end Steps

/-! ## §3 The reducer -/

/-- A known event raises a reducer fault, or a `ValueError` if it is outside the domain. -/
theorem reduceEvent_raises (s : ObservedState) {event : BattleEvent} (hknown : event.Known) :
    RaisesOnly (FaultOr (OutsideDomain s event)) (reduceEvent s event) := by
  cases event with
  | playerDeclared event => exact (side_raises s _).bind fun _ _ => updateSide_raises _ _
  | teamSizeDeclared event => exact (side_raises s _).bind fun _ _ => updateSide_raises _ _
  | previewPokemonDeclared event => exact (side_raises s _).bind fun _ _ => updateSide_raises _ _
  | teamStatusCured event => exact (side_raises s _).bind fun _ _ => updateSide_raises _ _
  | sideConditionChanged event => exact (side_raises s _).bind fun _ _ => updateSide_raises _ _
  | pokemonSwitched event =>
    refine (tokenToObservation_raises event.hp _ _).bind fun _ _ => ?_
    exact (side_raises s _).bind fun _ _ => updateSide_raises _ _
  | pokemonDragged event =>
    refine (tokenToObservation_raises event.hp _ _).bind fun _ _ => ?_
    exact (side_raises s _).bind fun _ _ => updateSide_raises _ _
  | pokemonFainted event =>
    simp only [reduceEvent]
    exact updateActive_ok_raises
  | statusChanged event =>
    simp only [reduceEvent]
    exact updateActive_ok_raises
  | boostsInverted event =>
    simp only [reduceEvent]
    exact updateActive_ok_raises
  | itemChanged event =>
    simp only [reduceEvent]
    exact updateActive_ok_raises
  | abilityChanged event =>
    simp only [reduceEvent]
    exact updateActive_ok_raises
  | rechargeChanged event =>
    simp only [reduceEvent]
    exact updateActive_ok_raises
  | moveUsed event =>
    refine (side_raises s _).bind fun side _ => ?_
    refine (requireActive_raises side _ _).bind fun entry _ => ?_
    refine RaisesOnly.bind ?_ fun _ _ => .pure trivial
    unfold revealMove
    split_ifs
    · exact .ok
    · exact updateSide_raises _ _
  | healthChanged event =>
    refine (side_raises s _).bind fun side hside => ?_
    refine (requireHealthTarget_raises side _ _).bind fun entry hentry => ?_
    refine RaisesOnly.bind ?_ fun _ _ => updateSide_raises _ _
    exact (tokenToObservation_raises _ _ _).mono
      (FaultOr.mono fun hfits => ⟨hfits, side, entry, hside, hentry⟩)
  | boostChanged event =>
    simp only [reduceEvent]
    refine updateActive_raises fun hactive pv => RaisesOnly.bind ?_ fun _ _ => .pure trivial
    exact (changeBoost_outcome pv.boosts event).mono (fun _ _ => trivial)
      fun _ h => .inr ⟨h.1, h.2, hactive⟩
  | boostsSwapped event =>
    refine (side_raises s _).bind fun srcSide hsrcSide => ?_
    refine (side_raises s _).bind fun tgtSide htgtSide => ?_
    refine (requireActive_raises srcSide _ _).bind fun src hsrc => ?_
    refine (requireActive_raises tgtSide _ _).bind fun tgt htgt => ?_
    obtain ⟨hfindSrc, hnickSrc⟩ := requireActive_eq_ok hsrc
    obtain ⟨hfindTgt, hnickTgt⟩ := requireActive_eq_ok htgt
    refine Satisfies.bind ((swapStats_outcome event.stats _ _).mono (fun _ _ => trivial)
      fun _ h => .inr ⟨h.1, h.2, ⟨srcSide, src, hsrcSide, hfindSrc, hnickSrc⟩,
        ⟨tgtSide, tgt, htgtSide, hfindTgt, hnickTgt⟩⟩) fun boosts _ => ?_
    dsimp only
    split_ifs
    · exact updateSide_raises _ _
    · refine (updateSide_raises _ _).bind fun _ _ => ?_
      exact (side_raises _ _).bind fun _ _ => updateSide_raises _ _
  | boostsCopied event =>
    refine (side_raises s _).bind fun srcSide hsrcSide => ?_
    refine (side_raises s _).bind fun tgtSide htgtSide => ?_
    refine (requireActive_raises srcSide _ _).bind fun src hsrc => ?_
    refine (requireActive_raises tgtSide _ _).bind fun tgt htgt => ?_
    obtain ⟨hfindSrc, hnickSrc⟩ := requireActive_eq_ok hsrc
    obtain ⟨hfindTgt, hnickTgt⟩ := requireActive_eq_ok htgt
    refine Satisfies.bind ((copyStats_outcome _ event.stats _).mono (fun _ _ => trivial)
      fun _ h => .inr ⟨h.1, h.2, ⟨tgtSide, tgt, htgtSide, hfindTgt, hnickTgt⟩,
        ⟨srcSide, src, hsrcSide, hfindSrc, hnickSrc⟩⟩) fun boosts _ => ?_
    exact updateSide_raises _ _
  | boostsCleared event =>
    obtain ⟨eventIndex, sideId, slot, nickname, scope, targetWhole, globalScope⟩ := event
    cases sideId with
    | none =>
      refine (clearActiveBoosts_raises _ _).bind fun _ _ => ?_
      exact (clearActiveBoosts_raises _ _).bind fun _ _ => .pure trivial
    | some sideId =>
      -- the target is whole, so that the nickname is there
      cases nickname with
      | none => simp at targetWhole
      | some nickname =>
        refine (side_raises s _).bind fun side _ => ?_
        refine RaisesOnly.bind .ok fun name _ => ?_
        refine (requireActive_raises side _ _).bind fun entry _ => ?_
        exact (clearBoosts_raises _ _).bind fun _ _ => updateSide_raises _ _
  | identityChanged event =>
    refine (side_raises s _).bind fun side hside => ?_
    cases hfind : findActive side with
    | none => exact .throw (.inl ⟨_, rfl, nofun⟩)
    | some entry =>
      refine RaisesOnly.bind ?_ fun _ _ => updateSide_raises _ _
      exact (tokenToObservation_raises _ _ _).mono
        (FaultOr.mono fun hfits => ⟨hfits, _, side, entry, hside, hfind, rfl⟩)
  | formChanged event =>
    refine RaisesOnly.bind ?_ fun _ _ => .pure trivial
    refine updateActive_raises fun hactive pv => RaisesOnly.bind ?_ fun _ _ => .pure trivial
    exact (tokenToObservation_raises _ _ _).mono (FaultOr.mono fun hfits => ⟨hfits, hactive⟩)
  | pokemonTransformed event =>
    exact updateActive_ok_raises.bind fun _ _ => .pure trivial
  | terastallized event =>
    exact updateActive_ok_raises.bind fun _ _ => .pure trivial
  | volatileChanged event =>
    refine (side_raises s _).bind fun side _ => ?_
    refine (requireActive_raises side _ _).bind fun entry _ => ?_
    split_ifs
    · exact .pure trivial
    · exact updateSide_raises _ _
    · exact updateSide_raises _ _
    · exact .pure trivial
  | weatherChanged event =>
    simp only [reduceEvent]
    split_ifs <;> exact .ok
  | other ei className => exact absurd rfl (hknown ei className)
  | _ => exact .ok

/-- An event outside the domain does raise a `ValueError`. -/
theorem reduceEvent_valueError {s : ObservedState} {event : BattleEvent}
    (h : OutsideDomain s event) :
    ∃ text, reduceEvent s event = .error (.valueError text) := by
  cases event with
  | pokemonSwitched event =>
    obtain ⟨text, htext⟩ := tokenToObservation_valueError h event.sideId s.ourSide
    exact ⟨text, by simp only [reduceEvent, reduceSwitch, htext, bind, Except.bind]⟩
  | pokemonDragged event =>
    obtain ⟨text, htext⟩ := tokenToObservation_valueError h event.sideId s.ourSide
    exact ⟨text, by simp only [reduceEvent, reduceSwitch, htext, bind, Except.bind]⟩
  | healthChanged event =>
    obtain ⟨hfits, side, entry, hside, hentry⟩ := h
    obtain ⟨text, htext⟩ := tokenToObservation_valueError hfits event.sideId s.ourSide
    exact ⟨text, by
      simp only [reduceEvent, reduceHealthChanged, hside, hentry, htext, bind, Except.bind]⟩
  | identityChanged event =>
    obtain ⟨hfits, nickname, side, entry, hside, hfind, -⟩ := h
    obtain ⟨text, htext⟩ := tokenToObservation_valueError hfits event.sideId s.ourSide
    exact ⟨text, by
      simp only [reduceEvent, reduceIdentityChanged, hside, hfind, htext, bind, Except.bind]⟩
  | formChanged event =>
    obtain ⟨hfits, hactive⟩ := h
    obtain ⟨text, htext⟩ := tokenToObservation_valueError hfits event.sideId s.ourSide
    obtain ⟨text', hupdate⟩ := updateActive_valueError hactive "form"
      (fun pv => do
        let hpObs ← tokenToObservation event.hp event.sideId s.ourSide
        pure (changeForm pv event hpObs))
      fun pv => ⟨text, by simp only [htext, bind, Except.bind]⟩
    refine ⟨text', ?_⟩
    simp only [reduceEvent]
    rw [hupdate]
    rfl
  | boostChanged event =>
    obtain ⟨hstat, hactive⟩ := h
    simp only [reduceEvent]
    refine updateActive_valueError hactive _ _ fun pv => ?_
    have houtcome := changeBoost_outcome pv.boosts event
    cases hresult : changeBoost pv.boosts event with
    | ok boosts => exact absurd (houtcome.of_ok hresult) hstat
    | error err =>
      obtain ⟨⟨text, rfl⟩, -⟩ := houtcome.of_error hresult
      exact ⟨text, rfl⟩
  | boostsSwapped event =>
    obtain ⟨⟨stat, hstat, hbad⟩, hsrc, htgt⟩ := h
    obtain ⟨srcSide, src, hsrcSide, -, hsrc⟩ := requireActive_of_activeIs hsrc "swap_boost_src"
    obtain ⟨tgtSide, tgt, htgtSide, -, htgt⟩ := requireActive_of_activeIs htgt "swap_boost_tgt"
    have houtcome := swapStats_outcome event.stats src.view.boosts tgt.view.boosts
    cases hresult : swapStats event.stats src.view.boosts tgt.view.boosts with
    | ok boosts => exact absurd (houtcome.of_ok hresult stat hstat) hbad
    | error err =>
      obtain ⟨⟨text, rfl⟩, -⟩ := houtcome.of_error hresult
      exact ⟨text, by
        simp only [reduceEvent, reduceBoostsSwapped, hsrcSide, htgtSide, hsrc, htgt, hresult,
          bind, Except.bind]⟩
  | boostsCopied event =>
    obtain ⟨⟨stat, hstat, hbad⟩, htgt, hsrc⟩ := h
    obtain ⟨srcSide, src, hsrcSide, -, hsrc⟩ := requireActive_of_activeIs hsrc "copy_boost_src"
    obtain ⟨tgtSide, tgt, htgtSide, -, htgt⟩ := requireActive_of_activeIs htgt "copy_boost_tgt"
    have houtcome := copyStats_outcome src.view.boosts event.stats tgt.view.boosts
    cases hresult : copyStats src.view.boosts event.stats tgt.view.boosts with
    | ok boosts => exact absurd (houtcome.of_ok hresult stat hstat) hbad
    | error err =>
      obtain ⟨⟨text, rfl⟩, -⟩ := houtcome.of_error hresult
      exact ⟨text, by
        simp only [reduceEvent, reduceBoostsCopied, hsrcSide, htgtSide, hsrc, htgt, hresult,
          bind, Except.bind]⟩
  | _ => exact absurd h id

end BattleBelief
