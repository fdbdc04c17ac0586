import BattleBelief.Protocol.Coverage
import BattleBelief.Observation.Bench

/-!
# Transient Effects

Some effects of a pokemon last for a turn, some for a move, and a recharge is over once the
pokemon has been kept from moving. The wire says so only through the type of the line that starts
the effect, and the reducer does not see that type.

`FieldLog` is what the lines alone say about the active pokemon of a side: what was started since
it entered, by which lines, and what has not been ended since. The observed state agrees with the
log along every run (`Tracks`), so that a question about stale effects is one about the lines.
`transients_expire_iff` answers it.
-/

namespace BattleBelief

open Runs

/-! ## §1 The log of a side -/

/-- A line that has been read: its wire type and the event it was parsed into. -/
structure ReadLine where
  wireType : String
  event : BattleEvent

/-- What the lines say about the active pokemon of a side. -/
structure FieldLog where
  nickname : String
  /-- Effect and wire type of every start since the pokemon entered -/
  starts : List (String × String)
  /-- Effects that have not been ended since their last start -/
  live : List String
  recharging : Bool
  /-- Whether it has moved, or has been kept from it, after the last recharge announcement -/
  acted : Bool

/-- The event is the pokemon's move, or what kept it from moving. -/
def BattleEvent.actionOf (event : BattleEvent) (i : SideRef) (nickname : String) : Bool :=
  match event with
  | .moveUsed event => event.sideId = i.id
  | .movePrevented event => event.sideId = i.id && event.nickname = nickname
  | _ => false

/-- The nickname of the pokemon that the event brings onto the side's field. -/
def BattleEvent.enters (i : SideRef) : BattleEvent → Option String
  | .pokemonSwitched event => if event.sideId = i.id then some event.nickname else none
  | .pokemonDragged event => if event.sideId = i.id then some event.nickname else none
  | _ => none

/-- The log after a line that starts or ends an effect. -/
def FieldLog.effectLine (log : FieldLog) (wireType : String) (event : VolatileChanged) : FieldLog :=
  if event.action = "start" then
    { log with
      starts := (event.volatileName, wireType) :: log.starts
      live := event.volatileName :: log.live }
  else if event.action = "end" then
    { log with live := log.live.filter fun v => v != event.volatileName }
  else log

/-- The log after a line that leaves the pokemon on the field. -/
def FieldLog.change (i : SideRef) (line : ReadLine) (log : FieldLog) : FieldLog :=
  match line.event with
  | .pokemonFainted event =>
      if event.sideId = i.id then { log with live := [], recharging := false } else log
  | .identityChanged event =>
      if event.sideId = i.id then { log with nickname := event.nickname } else log
  | .volatileChanged event =>
      if event.sideId = i.id then log.effectLine line.wireType event else log
  | .rechargeChanged event =>
      if event.sideId = i.id then { log with recharging := event.recharging, acted := false }
      else log
  | event => { log with acted := log.acted || event.actionOf i log.nickname }

/-- The log after another line. -/
def FieldLog.update (i : SideRef) (line : ReadLine) (log : Option FieldLog) : Option FieldLog :=
  match line.event.enters i with
  | some nickname => some ⟨nickname, [], [], false, true⟩
  | none => log.map (FieldLog.change i line)

/-- The log of a side after the lines of `past`, the latest first. -/
def fieldLog (i : SideRef) (past : List ReadLine) : Option FieldLog :=
  past.foldr (FieldLog.update i) none

/-- Every start of the effect since the pokemon entered came in a line of this type. -/
def FieldLog.StartedOnlyBy (log : FieldLog) (wireType effect : String) : Prop :=
  ∀ start ∈ log.starts, start.1 = effect → start.2 = wireType

/-! ## §2 The state agrees with the log -/

/-- The active pokemon of a side is as the log has it. -/
structure Agrees (pv : PokemonView) (log : FieldLog) : Prop where
  nickname : pv.nickname = log.nickname
  volatiles : ∀ effect, effect ∈ pv.volatiles ↔ effect ∈ log.live
  recharging : pv.recharging = log.recharging

/-- A side has an active pokemon when its log has one, and they agree. -/
def Tracks (side : SideView) (log : Option FieldLog) : Prop :=
  Option.Rel (fun entry l => Agrees entry.view l) (findActive side) log

/-- The entry of an active pokemon is found, wherever it stands. -/
theorem findActive_of_getElem? {side : SideView}
    (hflags : FieldFlags (activeFlags side.pokemon) side.activeSlot) {n : Nat} {pv : PokemonView}
    (hget : side.pokemon[n]? = some pv) (hactive : pv.active = true) :
    findActive side = some ⟨n, pv⟩ := by
  cases hfind : findActive side with
  | none =>
    have hinactive := findActive_eq_none.mp hfind pv (List.mem_of_getElem? hget)
    rw [hactive] at hinactive
    cases hinactive
  | some entry =>
    obtain ⟨hentry, hentryActive⟩ := findActive_eq_some hfind
    obtain rfl := hflags.same_position hentry hget hentryActive hactive
    obtain rfl := Option.some.inj (hentry.symm.trans hget)
    rfl

/-- Logs that differ at most in what has been done. -/
theorem Agrees.congr {pv : PokemonView} {log log' : FieldLog} (h : Agrees pv log)
    (hnickname : log'.nickname = log.nickname) (hlive : log'.live = log.live)
    (hrecharging : log'.recharging = log.recharging) : Agrees pv log' :=
  ⟨hnickname ▸ h.nickname, hlive ▸ h.volatiles, hrecharging ▸ h.recharging⟩

theorem enters_of_rosterSide_ne {i : SideRef} {event : BattleEvent}
    (hevent : event.rosterSide ≠ some i.id) : event.enters i = none := by
  cases event with
  | pokemonSwitched event => exact if_neg fun h => hevent (congrArg some h)
  | pokemonDragged event => exact if_neg fun h => hevent (congrArg some h)
  | _ => rfl

/-- An event that does not rewrite the side's roster leaves what the log tracks. -/
theorem Agrees.change_of_rosterSide_ne {i : SideRef} {pv : PokemonView} {log : FieldLog}
    (h : Agrees pv log) (line : ReadLine) (hevent : line.event.rosterSide ≠ some i.id) :
    Agrees pv (log.change i line) := by
  obtain ⟨wireType, event⟩ := line
  cases event with
  | pokemonFainted event =>
    simp only [FieldLog.change]
    rw [if_neg fun heq => hevent (congrArg some heq)]
    exact h
  | identityChanged event =>
    simp only [FieldLog.change]
    rw [if_neg fun heq => hevent (congrArg some heq)]
    exact h
  | rechargeChanged event =>
    simp only [FieldLog.change]
    rw [if_neg fun heq => hevent (congrArg some heq)]
    exact h
  | volatileChanged event =>
    simp only [FieldLog.change]
    split_ifs with hside
    · simp only [BattleEvent.rosterSide, hside] at hevent
      split_ifs at hevent with haction
      · exact absurd rfl hevent
      · obtain ⟨hstart, hend⟩ := not_or.mp haction
        rw [FieldLog.effectLine, if_neg hstart, if_neg hend]
        exact h
    · exact h
  | _ => exact h.congr rfl rfl rfl

/-- An edit of the active pokemon changes it as the line changes the log. -/
theorem Agrees.edit {i : SideRef} {ourSide : Option String} {edit : EntryEdit}
    {pv : PokemonView} {log : FieldLog} (h : Agrees pv log) (line : ReadLine)
    (hedit : Edits ourSide line.event i.id edit) (ei : Int) :
    line.event.enters i = none ∧ Agrees (edit.apply ei pv) (log.change i line) := by
  obtain ⟨wireType, event⟩ := line
  dsimp only at hedit
  generalize hid : i.id = sideId at hedit
  cases hedit with
  | pokemonFainted event =>
    refine ⟨rfl, ?_⟩
    simp only [FieldLog.change]
    rw [if_pos hid.symm]
    exact ⟨h.nickname, fun effect => Iff.rfl, rfl⟩
  | moveUsed event =>
    refine ⟨rfl, ?_⟩
    have hkeep : Agrees pv (log.change i ⟨wireType, .moveUsed event⟩) := h.congr rfl rfl rfl
    simp only [EntryEdit.apply]
    split_ifs
    · exact hkeep
    · exact ⟨hkeep.nickname, hkeep.volatiles, hkeep.recharging⟩
  | identityChanged event hp hhp =>
    refine ⟨rfl, ?_⟩
    simp only [FieldLog.change]
    rw [if_pos hid.symm]
    exact ⟨rfl, h.volatiles, h.recharging⟩
  | formChanged event hp hhp =>
    refine ⟨rfl, ?_⟩
    have hkeep : Agrees pv (log.change i ⟨wireType, .formChanged event⟩) := h.congr rfl rfl rfl
    simp only [EntryEdit.apply, changeForm]
    split
    · exact ⟨hkeep.nickname, hkeep.volatiles, hkeep.recharging⟩
    · exact ⟨hkeep.nickname, hkeep.volatiles, hkeep.recharging⟩
  | volatileStarted event haction =>
    refine ⟨rfl, ?_⟩
    simp only [FieldLog.change]
    rw [if_pos hid.symm, FieldLog.effectLine, if_pos haction]
    simp only [EntryEdit.apply]
    split_ifs with hknown
    · refine ⟨h.nickname, fun effect => ?_, h.recharging⟩
      rw [List.mem_cons, h.volatiles]
      refine ⟨.inr, fun hor => hor.elim (fun heq => ?_) id⟩
      exact heq ▸ (h.volatiles _).mp hknown
    · refine ⟨h.nickname, fun effect => ?_, h.recharging⟩
      rw [Python.mem_sorted, List.mem_append, List.mem_singleton, List.mem_cons, h.volatiles,
        or_comm]
  | volatileEnded event haction =>
    refine ⟨rfl, ?_⟩
    have hstart : event.action ≠ "start" := by
      rw [haction]
      decide
    simp only [FieldLog.change]
    rw [if_pos hid.symm, FieldLog.effectLine, if_neg hstart, if_pos haction]
    refine ⟨h.nickname, fun effect => ?_, h.recharging⟩
    simp only [EntryEdit.apply, List.mem_filter, h.volatiles]
  | rechargeChanged event =>
    refine ⟨rfl, ?_⟩
    simp only [FieldLog.change]
    rw [if_pos hid.symm]
    exact ⟨h.nickname, h.volatiles, rfl⟩
  | _ => exact ⟨rfl, h.nickname, h.volatiles, h.recharging⟩

/-! ## §3 One step -/

/-- Who is active depends on the roster alone. -/
theorem findActive_congr {side side' : SideView} (h : side'.pokemon = side.pokemon) :
    findActive side' = findActive side := by
  rw [findActive, findActive, h]

/-- The pokemon that a switch brings in is active, under the name of the line, and clean. -/
theorem activatePokemon_active (side : SideView) (nickname details : String)
    (hp : HpObservation) (status : Option String) (ei : Int) :
    ∃ (n : Nat) (pv : PokemonView),
      (activatePokemon side nickname details hp status ei).pokemon[n]? = some pv ∧
      pv.active = true ∧ pv.nickname = nickname ∧ pv.volatiles = [] ∧ pv.recharging = false := by
  rw [activatePokemon_pokemon]
  split
  · exact ⟨_, newcomer side.sideId nickname details hp status, List.getElem?_concat_length,
      rfl, rfl, rfl, rfl⟩
  · next existing hfind =>
    obtain ⟨hget, hnickname, -⟩ := findForSwitchIn_eq_some hfind
    obtain ⟨hlt, -⟩ := List.getElem?_eq_some_iff.mp hget
    exact ⟨existing.position, reenter existing.view details hp status,
      List.getElem?_set_self hlt, rfl, hnickname, rfl, rfl⟩

/-- The side agrees with a log after its active pokemon has been rewritten. -/
theorem Tracks.of_set {side side' : SideView}
    (hflags' : FieldFlags (activeFlags side'.pokemon) side'.activeSlot) {n : Nat}
    {old new : PokemonView} (hget : side.pokemon[n]? = some old)
    (hpokemon : side'.pokemon = side.pokemon.set n new) (hactive : new.active = true)
    {log : FieldLog} (hagrees : Agrees new log) : Tracks side' (some log) := by
  obtain ⟨hlt, -⟩ := List.getElem?_eq_some_iff.mp hget
  have hnew : side'.pokemon[n]? = some new := by
    rw [hpokemon, List.getElem?_set_self hlt]
  rw [Tracks, findActive_of_getElem? hflags' hnew hactive]
  exact .some hagrees

/-- A line about a side's pokemon changes the side as it changes the log. -/
theorem Tracks.step {s s' : ObservedState} {i : SideRef} {event : BattleEvent}
    {log : Option FieldLog} (wireType : String) (hfield' : FieldInvariant s')
    (hstep : SideStep s event i s') (h : Tracks (s.sideAt i) log) :
    Tracks (s'.sideAt i) (FieldLog.update i ⟨wireType, event⟩ log) := by
  cases hstep with
  | keep hevent hpokemon hslot =>
    rw [Tracks, findActive_congr hpokemon, FieldLog.update, enters_of_rosterSide_ne hevent]
    rw [Tracks] at h
    generalize findActive (s.sideAt i) = found at h ⊢
    cases h with
    | none => exact .none
    | some hagrees => exact .some (hagrees.change_of_rosterSide_ne _ hevent)
  | active entry edit hfind hedit hnick hpokemon hslot =>
    obtain ⟨hget, hactive⟩ := findActive_eq_some hfind
    rw [Tracks, hfind] at h
    cases h with
    | some hagrees =>
      obtain ⟨henters, hchange⟩ := hagrees.edit ⟨wireType, event⟩ hedit event.eventIndex
      rw [FieldLog.update, henters]
      exact .of_set (hfield' i) hget hpokemon (by rw [EntryEdit.active_apply, hactive]) hchange
  | bench health entry hp hevent hside hget hinactive hhp hpokemon hslot =>
    subst hevent
    rw [Tracks] at h
    cases hfind : findActive (s.sideAt i) with
    | none =>
      rw [hfind] at h
      cases h
      have hnone : findActive (s'.sideAt i) = none := by
        refine findActive_eq_none.mpr fun pv hpv => ?_
        rw [hpokemon] at hpv
        rcases List.mem_or_eq_of_mem_set hpv with hold | rfl
        · exact findActive_eq_none.mp hfind pv hold
        · exact hinactive
      rw [Tracks, hnone]
      exact .none
    | some current =>
      obtain ⟨hcurrent, hactive⟩ := findActive_eq_some hfind
      have hne : entry.position ≠ current.position := by
        intro heq
        rw [heq, hcurrent] at hget
        rw [Option.some.inj hget, hinactive] at hactive
        cases hactive
      have hsame : (s'.sideAt i).pokemon[current.position]? = some current.view := by
        rw [hpokemon, List.getElem?_set_ne hne, hcurrent]
      rw [hfind] at h
      rw [Tracks, findActive_of_getElem? (hfield' i) hsame hactive]
      cases h with
      | some hagrees => exact .some (hagrees.congr rfl rfl rfl)
  | boosts entry values hevent hfind hvalues hpokemon hslot =>
    obtain ⟨hget, hactive⟩ := findActive_eq_some hfind
    have hne : event.rosterSide ≠ some i.id := by
      rw [hevent]
      exact nofun
    rw [Tracks, hfind] at h
    cases h with
    | some hagrees =>
      obtain ⟨hnickname, hvolatiles, hrecharging⟩ :=
        hagrees.change_of_rosterSide_ne ⟨wireType, event⟩ hne
      rw [FieldLog.update, enters_of_rosterSide_ne hne]
      exact .of_set (hfield' i) hget hpokemon hactive ⟨hnickname, hvolatiles, hrecharging⟩
  | cure cured hevent hside hpokemon hslot =>
    subst hevent
    rw [Tracks] at h
    cases hfind : findActive (s.sideAt i) with
    | none =>
      rw [hfind] at h
      cases h
      have hnone : findActive (s'.sideAt i) = none := by
        refine findActive_eq_none.mpr fun pv hpv => ?_
        rw [hpokemon] at hpv
        obtain ⟨old, hold, rfl⟩ := List.mem_map.mp hpv
        exact findActive_eq_none.mp hfind old hold
      rw [Tracks, hnone]
      exact .none
    | some current =>
      obtain ⟨hcurrent, hactive⟩ := findActive_eq_some hfind
      have hcured : (s'.sideAt i).pokemon[current.position]? =
          some { current.view with status := none } := by
        rw [hpokemon, List.getElem?_map, hcurrent, Option.map_some]
      rw [hfind] at h
      rw [Tracks, findActive_of_getElem? (hfield' i) hcured hactive]
      cases h with
      | some hagrees =>
        exact .some ⟨hagrees.nickname, hagrees.volatiles, hagrees.recharging⟩
  | activate nickname details token hp hevent hhp hpokemon hslot =>
    have henters : event.enters i = some nickname := by
      rcases hevent with ⟨slot, heq⟩ | ⟨slot, heq⟩
      · rw [heq]
        exact if_pos rfl
      · rw [heq]
        exact if_pos rfl
    obtain ⟨n, pv, hget, hactive, hnickname, hvolatiles, hrecharging⟩ :=
      activatePokemon_active (s.sideAt i) nickname details hp token.status event.eventIndex
    rw [← hpokemon] at hget
    rw [Tracks, findActive_of_getElem? (hfield' i) hget hactive, FieldLog.update, henters]
    refine .some ⟨hnickname, fun effect => ?_, hrecharging⟩
    rw [hvolatiles]

/-! ## §4 Lines read and the state reached -/

/-- A run of lines: the state reached, and the lines read, the latest first. -/
structure LineRun where
  state : ObservedState
  past : List ReadLine

def LineRun.initial (ourUserId : String) : LineRun := ⟨ObservedState.initial ourUserId, []⟩

def BattleEvent.isTurn : BattleEvent → Bool
  | .turnStarted _ => true
  | _ => false

/-- No effect that only single-turn lines started, or only single-move lines, is left. -/
def FieldLog.Expired (log : FieldLog) (effect : String) : Prop :=
  ¬log.StartedOnlyBy "-singleturn" effect ∧ ¬log.StartedOnlyBy "-singlemove" effect

/-- Transient effects are gone when they should be: right after a turn line nobody has a volatile
that only single-turn lines or only single-move lines started since it entered, and nobody is
recharging who has acted since the last announcement of it. -/
structure TransientsExpired (run : LineRun) : Prop where
  volatiles : (∃ line ∈ run.past.head?, line.event.isTurn) →
    ∀ i, ∀ pv ∈ (run.state.sideAt i).pokemon, ∀ effect ∈ pv.volatiles,
      ∀ log ∈ fieldLog i run.past, log.Expired effect
  recharging : ∀ i, ∀ pv ∈ (run.state.sideAt i).pokemon, pv.recharging = true →
    ∀ log ∈ fieldLog i run.past, log.acted = false

/-- The state is sound, with at most one active pokemon on a side, a clean bench, and active
pokemon as the lines have them. -/
structure RunInvariant (run : LineRun) : Prop where
  sound : SoundState run.state
  field : FieldInvariant run.state
  fit : AllPokemon (fun now pv => Timelines now pv ∧ Fit pv) run.state
  tracks : ∀ i, Tracks (run.state.sideAt i) (fieldLog i run.past)

theorem runInvariant_initial (ourUserId : String) : RunInvariant (LineRun.initial ourUserId) where
  sound := soundState_initial ourUserId
  field := fieldInvariant_initial ourUserId
  fit := allPokemon_initial _ ourUserId
  tracks i := by
    cases i <;> exact .none

/-! ## §5 Stale effects are a matter of the log -/

/-- Nobody has acted since a recharge was announced that is still on. -/
def FieldLog.Fresh (log : FieldLog) : Prop := log.recharging = true → log.acted = false

/-- Whoever has a volatile or is recharging is the active pokemon that the log describes. -/
theorem RunInvariant.agrees_of_mem {run : LineRun} (hrun : RunInvariant run) {i : SideRef}
    {pv : PokemonView} (hpv : pv ∈ (run.state.sideAt i).pokemon)
    (hbusy : pv.volatiles ≠ [] ∨ pv.recharging = true) :
    ∃ log, fieldLog i run.past = some log ∧ Agrees pv log := by
  have hactive : pv.active = true := by
    by_contra hinactive
    have hbench := (hrun.fit i pv hpv).2.bench (Bool.eq_false_iff.mpr hinactive)
    rcases hbusy with hvolatiles | hrecharging
    · exact hvolatiles hbench.volatiles
    · rw [hbench.recharging] at hrecharging
      cases hrecharging
  obtain ⟨n, hn⟩ := List.mem_iff_getElem?.mp hpv
  have htracks := hrun.tracks i
  rw [Tracks, findActive_of_getElem? (hrun.field i) hn hactive] at htracks
  generalize fieldLog i run.past = log at htracks ⊢
  cases htracks with
  | some hagrees => exact ⟨_, rfl, hagrees⟩

/-- A log describes an active pokemon that is there. -/
theorem RunInvariant.exists_of_log {run : LineRun} (hrun : RunInvariant run) {i : SideRef}
    {log : FieldLog} (hlog : fieldLog i run.past = some log) :
    ∃ pv ∈ (run.state.sideAt i).pokemon, Agrees pv log := by
  have htracks := hrun.tracks i
  rw [Tracks, hlog] at htracks
  cases hfind : findActive (run.state.sideAt i) with
  | none =>
    rw [hfind] at htracks
    cases htracks
  | some entry =>
    rw [hfind] at htracks
    cases htracks with
    | some hagrees =>
      exact ⟨entry.view, List.mem_of_getElem? (findActive_eq_some hfind).1, hagrees⟩

/-- Whether transient effects are gone can be read off the logs. -/
theorem transientsExpired_iff {run : LineRun} (hrun : RunInvariant run) :
    TransientsExpired run ↔ ∀ i, ∀ log ∈ fieldLog i run.past,
      ((∃ line ∈ run.past.head?, line.event.isTurn) → ∀ effect ∈ log.live, log.Expired effect) ∧
        log.Fresh := by
  constructor
  · intro h i log hlog
    obtain ⟨pv, hpv, hagrees⟩ := hrun.exists_of_log hlog
    refine ⟨fun hturn effect heffect => ?_, fun hrecharging => ?_⟩
    · exact h.volatiles hturn i pv hpv effect ((hagrees.volatiles effect).mpr heffect) log hlog
    · exact h.recharging i pv hpv (hagrees.recharging.trans hrecharging) log hlog
  · intro h
    refine ⟨fun hturn i pv hpv effect heffect log hlog => ?_, fun i pv hpv hrecharging log hlog => ?_⟩
    · obtain ⟨log', hlog', hagrees⟩ :=
        hrun.agrees_of_mem hpv (.inl (List.ne_nil_of_mem heffect))
      obtain rfl := Option.some.inj (hlog'.symm.trans hlog)
      exact (h i log' hlog).1 hturn effect ((hagrees.volatiles effect).mp heffect)
    · obtain ⟨log', hlog', hagrees⟩ := hrun.agrees_of_mem hpv (.inr hrecharging)
      obtain rfl := Option.some.inj (hlog'.symm.trans hlog)
      exact (h i log' hlog).2 (hagrees.recharging.symm.trans hrecharging)

/-- A line that is not an entry keeps a fresh log fresh, unless it acts under a recharge. -/
theorem fresh_change {i : SideRef} {line : ReadLine} {log : FieldLog} (hfresh : log.Fresh) :
    (log.change i line).Fresh ↔ (line.event.actionOf i log.nickname → log.recharging = false) := by
  obtain ⟨wireType, event⟩ := line
  -- a line of no action changes neither flag, clears the first or sets both as announced
  cases event with
  | moveUsed event =>
    simp only [FieldLog.Fresh, FieldLog.change] at hfresh ⊢
    cases hact : BattleEvent.actionOf (.moveUsed event) i log.nickname <;>
      cases hrecharging : log.recharging <;> simp_all
  | movePrevented event =>
    simp only [FieldLog.Fresh, FieldLog.change] at hfresh ⊢
    cases hact : BattleEvent.actionOf (.movePrevented event) i log.nickname <;>
      cases hrecharging : log.recharging <;> simp_all
  | pokemonFainted event =>
    refine iff_of_true ?_ nofun
    simp only [FieldLog.change]
    split_ifs
    · exact nofun
    · exact hfresh
  | identityChanged event =>
    refine iff_of_true ?_ nofun
    simp only [FieldLog.change]
    split_ifs <;> exact hfresh
  | volatileChanged event =>
    refine iff_of_true ?_ nofun
    simp only [FieldLog.change, FieldLog.effectLine]
    split_ifs <;> exact hfresh
  | rechargeChanged event =>
    refine iff_of_true ?_ nofun
    simp only [FieldLog.change]
    split_ifs
    · exact fun _ => rfl
    · exact hfresh
  | _ =>
    refine iff_of_true ?_ nofun
    intro hrecharging
    simp only [FieldLog.change, BattleEvent.actionOf, Bool.or_false] at hrecharging ⊢
    exact hfresh hrecharging

/-- A turn line leaves the effects of the log and their starts. -/
theorem change_of_isTurn {i : SideRef} (line : ReadLine) (log : FieldLog)
    (hturn : line.event.isTurn) :
    (log.change i line).live = log.live ∧ (log.change i line).starts = log.starts := by
  obtain ⟨wireType, event⟩ := line
  cases event with
  | turnStarted event => exact ⟨rfl, rfl⟩
  | _ => cases hturn

theorem enters_of_isTurn {i : SideRef} {event : BattleEvent} (h : event.isTurn) :
    event.enters i = none := by
  cases event with
  | turnStarted event => rfl
  | _ => cases h

theorem enters_of_actionOf {i : SideRef} {event : BattleEvent} {nickname : String}
    (h : event.actionOf i nickname) : event.enters i = none := by
  cases event with
  | moveUsed event => rfl
  | movePrevented event => rfl
  | _ => cases h

/-! ## §6 Runs of lines -/

variable [Python.UnicodeDatabase]

/-- One more line. -/
def readLine (roomId : String) (run : LineRun) (payload : String) : Except PyException LineRun := do
  let event ← parseBattleLine payload (run.state.eventIndex + 1) (some roomId)
  let state ← reduce run.state event
  pure ⟨state, ⟨(splitPayload payload).1, event⟩ :: run.past⟩

/-- What a line must find in the log of the lines before it: a turn line, no live effect that
only single-turn or only single-move lines started; a move, or what prevents one, no announced
recharge. -/
def FindsNothingStale (roomId : String) (run : LineRun) (payload : String) : Prop :=
  ∀ event, parseBattleLine payload (run.state.eventIndex + 1) (some roomId) = .ok event →
    ∀ i, ∀ log ∈ fieldLog i run.past,
      (event.isTurn → ∀ effect ∈ log.live, log.Expired effect) ∧
        (event.actionOf i log.nickname → log.recharging = false)

theorem readLine_eq_ok {roomId : String} {run run' : LineRun} {payload : String}
    (h : readLine roomId run payload = .ok run') :
    ∃ event, parseBattleLine payload (run.state.eventIndex + 1) (some roomId) = .ok event ∧
      reduce run.state event = .ok run'.state ∧
      run'.past = ⟨(splitPayload payload).1, event⟩ :: run.past := by
  simp only [readLine, bind_eq_ok, pure, Except.pure, Except.ok.injEq] at h
  obtain ⟨event, hparse, state, hreduce, rfl⟩ := h
  exact ⟨event, hparse, hreduce, rfl⟩

theorem RunInvariant.step {roomId : String} {run run' : LineRun} {payload : String}
    (hrun : RunInvariant run) (h : readLine roomId run payload = .ok run') : RunInvariant run' := by
  obtain ⟨event, -, hreduce, hpast⟩ := readLine_eq_ok h
  obtain ⟨-, -, -, hsteps⟩ := reduce_step hrun.sound.sided hreduce
  have hfield := hrun.field.step hrun.sound.sided hreduce
  refine ⟨hrun.sound.step hreduce, hfield, ?_, fun i => ?_⟩
  · exact fit_invariant.step hrun.sound.sided hrun.sound.boosts hrun.fit hreduce
  · rw [hpast]
    exact (hrun.tracks i).step _ hfield (hsteps i)

/-- A line keeps transient effects from going stale exactly when it finds nothing stale. -/
theorem transientsExpired_step {roomId : String} {run run' : LineRun} {payload : String}
    (hrun : RunInvariant run) (hexpired : TransientsExpired run)
    (h : readLine roomId run payload = .ok run') :
    TransientsExpired run' ↔ FindsNothingStale roomId run payload := by
  rw [transientsExpired_iff hrun] at hexpired
  rw [transientsExpired_iff (hrun.step h)]
  obtain ⟨event, hparse, -, hpast⟩ := readLine_eq_ok h
  have hlogs : ∀ i, fieldLog i run'.past =
      FieldLog.update i ⟨(splitPayload payload).1, event⟩ (fieldLog i run.past) := by
    intro i
    rw [hpast]
    rfl
  have hturn : (∃ line ∈ run'.past.head?, line.event.isTurn) ↔ event.isTurn := by
    rw [hpast]
    simp
  constructor
  · intro h event' hparse' i log hlog
    obtain rfl := Except.ok.inj (hparse.symm.trans hparse')
    refine ⟨fun hisTurn effect heffect => ?_, fun haction => ?_⟩
    · obtain ⟨hlive, hstarts⟩ := change_of_isTurn (i := i)
        ⟨(splitPayload payload).1, event⟩ log hisTurn
      have hlog' : fieldLog i run'.past = some (log.change i ⟨(splitPayload payload).1, event⟩) := by
        rw [hlogs, FieldLog.update, enters_of_isTurn hisTurn, hlog]
        rfl
      have hexp := (h i _ hlog').1 (hturn.mpr hisTurn) effect (hlive ▸ heffect)
      simpa only [FieldLog.Expired, FieldLog.StartedOnlyBy, hstarts] using hexp
    · have hlog' : fieldLog i run'.past = some (log.change i ⟨(splitPayload payload).1, event⟩) := by
        rw [hlogs, FieldLog.update, enters_of_actionOf haction, hlog]
        rfl
      exact (fresh_change (hexpired i log hlog).2).mp (h i _ hlog').2 haction
  · intro h i log' hlog'
    rw [hlogs, FieldLog.update] at hlog'
    cases henters : event.enters i with
    | some nickname =>
      rw [henters] at hlog'
      obtain rfl := Option.some.inj hlog'
      refine ⟨fun hisTurn => ?_, nofun⟩
      rw [enters_of_isTurn (hturn.mp hisTurn)] at henters
      cases henters
    | none =>
      rw [henters] at hlog'
      obtain ⟨log, hlog, rfl⟩ := Option.map_eq_some_iff.mp hlog'
      obtain ⟨hturnFinds, hactionFinds⟩ := h event hparse i log hlog
      refine ⟨fun hisTurn effect heffect => ?_, ?_⟩
      · obtain ⟨hlive, hstarts⟩ := change_of_isTurn (i := i)
          ⟨(splitPayload payload).1, event⟩ log (hturn.mp hisTurn)
        have hexp := hturnFinds (hturn.mp hisTurn) effect (hlive ▸ heffect)
        simpa only [FieldLog.Expired, FieldLog.StartedOnlyBy, hstarts] using hexp
      · exact (fresh_change (hexpired i log hlog).2).mpr hactionFinds

/-- **Transient effects.** Along a run of battle lines, single-turn and single-move effects are
gone right after a turn line and nobody is left recharging after an action, exactly when every
turn line comes after all such effects have been ended by other lines, and no pokemon acts under
an announced recharge. -/
theorem transients_expire_iff (roomId ourUserId : String) (payloads : List String) :
    HoldsAlong (readLine roomId) TransientsExpired (LineRun.initial ourUserId) payloads ↔
      StepsMeet (readLine roomId) (FindsNothingStale roomId) (LineRun.initial ourUserId)
        payloads := by
  refine holdsAlong_iff_stepsMeet (I := RunInvariant) (fun _ _ _ hrun h => hrun.step h)
    (fun _ _ _ hrun hexpired h => transientsExpired_step hrun hexpired h)
    (runInvariant_initial ourUserId) ?_ payloads
  refine (transientsExpired_iff (runInvariant_initial ourUserId)).mpr fun i log hlog => ?_
  cases hlog

/-- A protected pokemon, and a turn later. -/
def protectedTurn : List String :=
  ["|init|battle", "|switch|p1a: Scizor|Scizor, F|100/100", "|-singleturn|p1a: Scizor|Protect",
    "|turn|2"]

/-- A pokemon that has to recharge, and is kept from moving by it. -/
def rechargedTurn : List String :=
  ["|init|battle", "|switch|p1a: Scizor|Scizor, F|100/100", "|-mustrecharge|p1a: Scizor",
    "|cant|p1a: Scizor|recharge"]

omit [Python.UnicodeDatabase] in
/-- The protection outlasts its turn. -/
theorem protection_stays :
    letI := Python.asciiDatabase
    ¬HoldsAlong (readLine "battle-1") TransientsExpired (LineRun.initial "ash") protectedTurn := by
  have hresult : (protectedTurn.foldlM (@readLine Python.asciiDatabase "battle-1")
      (LineRun.initial "ash")).map (fun run => (run.past.head?.map fun line => line.event.isTurn,
        run.state.p1.pokemon.map fun pv => pv.volatiles,
        (fieldLog .p1 run.past).map fun log => log.starts)) =
      .ok (some true, [["Protect"]], some [("Protect", "-singleturn")]) := by
    decide +kernel
  obtain ⟨run, hrun, hvalues⟩ := map_eq_ok.mp hresult
  simp only [Prod.mk.injEq, Option.map_eq_some_iff] at hvalues
  obtain ⟨⟨line, hline, hturn⟩, hvolatiles, log, hlog, hstarts⟩ := hvalues
  intro h
  have hexpired := holdsAlong_iff_forall_prefix.mp h protectedTurn [] run
    (List.append_nil _).symm hrun
  obtain ⟨pv, hpv, heffect⟩ : ∃ pv ∈ run.state.p1.pokemon, pv.volatiles = ["Protect"] := by
    rw [← List.mem_map, hvolatiles]
    exact List.mem_singleton_self _
  refine (hexpired.volatiles ⟨line, hline, hturn⟩ .p1 pv hpv "Protect"
    (heffect ▸ List.mem_singleton_self _) log hlog).1 fun start hstart _ => ?_
  rw [hstarts, List.mem_singleton] at hstart
  rw [hstart]

omit [Python.UnicodeDatabase] in
/-- The recharge outlasts the move it cost, and the protection its turn. -/
theorem transients_stay :
    letI := Python.asciiDatabase
    ¬HoldsAlong (readLine "battle-1") TransientsExpired (LineRun.initial "ash") protectedTurn ∧
      ¬HoldsAlong (readLine "battle-1") TransientsExpired (LineRun.initial "ash")
        rechargedTurn := by
  refine ⟨protection_stays, fun h => ?_⟩
  have hresult : (rechargedTurn.foldlM (@readLine Python.asciiDatabase "battle-1")
      (LineRun.initial "ash")).map (fun run => (run.state.p1.pokemon.map fun pv => pv.recharging,
        (fieldLog .p1 run.past).map fun log => log.acted)) = .ok ([true], some true) := by
    decide +kernel
  obtain ⟨run, hrun, hvalues⟩ := map_eq_ok.mp hresult
  simp only [Prod.mk.injEq, Option.map_eq_some_iff] at hvalues
  obtain ⟨hrecharging, log, hlog, hacted⟩ := hvalues
  have hexpired := holdsAlong_iff_forall_prefix.mp h rechargedTurn [] run
    (List.append_nil _).symm hrun
  obtain ⟨pv, hpv, hpvRecharging⟩ : ∃ pv ∈ run.state.p1.pokemon, pv.recharging = true := by
    rw [← List.mem_map, hrecharging]
    exact List.mem_singleton_self _
  have hfresh := hexpired.recharging .p1 pv hpv hpvRecharging log hlog
  rw [hacted] at hfresh
  cases hfresh

end BattleBelief
