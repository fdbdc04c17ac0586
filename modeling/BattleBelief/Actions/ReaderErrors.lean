import BattleBelief.Actions.SafeChoices

/-!
# Errors of the Request Reader

The reader speaks of a payload through two classes: it is malformed, or it does not fit what this
client can answer. Of all its parts only two raise anything else: the JSON decoder, and the
constructor of a move submission, which takes Showdown identifiers only.

- `unnamable_move_escapes`: that constructor raises for an enabled move whose id is none
- `reader_errors_iff`: nothing else escapes
-/

namespace BattleBelief

open Outcomes Runs
open Python (Json)

/-- The classes that the reader raises on purpose. -/
def IsReaderError : PyException → Prop
  | .malformedProtocolMessage _ => True
  | .requestStateReconciliationMismatch _ => True
  | _ => False

/-! ## §1 Fields -/

section Fields

variable {α : Type} {value : Json} {payload : Members} {context key : String}

theorem malformed_raises {text : String} : RaisesOnly IsReaderError (malformed text : Except _ α) :=
  RaisesOnly.error trivial

theorem requireObject_raises : RaisesOnly IsReaderError (requireObject value context) := by
  unfold requireObject
  split
  · exact .ok
  · exact malformed_raises

theorem requireString_raises : RaisesOnly IsReaderError (requireString value context) := by
  unfold requireString
  split
  · exact .ite (fun _ => malformed_raises) fun _ => RaisesOnly.ok
  · exact malformed_raises

theorem requireStringValue_raises : RaisesOnly IsReaderError (requireStringValue value context) := by
  unfold requireStringValue
  split
  · exact .ok
  · exact malformed_raises

theorem requireBool_raises : RaisesOnly IsReaderError (requireBool value context) := by
  unfold requireBool
  split
  · exact .ok
  · exact malformed_raises

theorem requireList_raises : RaisesOnly IsReaderError (requireList value context) := by
  unfold requireList
  split
  · exact .ok
  · exact malformed_raises

theorem optionalBool_raises : RaisesOnly IsReaderError (optionalBool payload key) := by
  unfold optionalBool
  split
  · exact .ok
  · exact requireBool_raises

theorem map_raises {β : Type} {x : Except PyException α} {f : α → β}
    (h : RaisesOnly IsReaderError x) : RaisesOnly IsReaderError (x.map f) := by
  cases x with
  | ok a => exact .ok
  | error err => exact .error (h.of_error rfl)

theorem checkOptional_raises {check : Json → Except PyException α}
    (h : ∀ value, RaisesOnly IsReaderError (check value)) :
    RaisesOnly IsReaderError (checkOptional payload key check) := by
  unfold checkOptional
  split
  · exact .ok
  · exact map_raises (h _)

theorem mapM_raises {γ : Type} {f : γ → Except PyException α} {inputs : List γ}
    (h : ∀ c ∈ inputs, RaisesOnly IsReaderError (f c)) :
    RaisesOnly IsReaderError (inputs.mapM f) :=
  (Satisfies.mapM (R := fun _ _ => True) h).mono (fun _ _ => trivial) fun _ herr => herr

theorem requireStringList_raises : RaisesOnly IsReaderError (requireStringList value context) := by
  refine requireList_raises.bind fun items _ => mapM_raises fun entry _ => ?_
  dsimp only
  split
  · exact .ok
  · exact malformed_raises

end Fields

section Parts

variable {value : Json} {payload : Members}

theorem validateActiveShape_raises : RaisesOnly IsReaderError (validateActiveShape value) := by
  unfold validateActiveShape
  split
  · exact requireObject_raises
  · exact malformed_raises

theorem readFlags_raises : RaisesOnly IsReaderError (readFlags payload) := by
  have hforce : RaisesOnly IsReaderError (parseForceSwitch payload) := by
    unfold parseForceSwitch
    split
    · exact .ok
    · exact map_raises requireBool_raises
    · exact malformed_raises
  refine optionalBool_raises.bind fun wait _ => optionalBool_raises.bind fun preview _ => ?_
  refine optionalBool_raises.bind fun update _ => hforce.bind fun force _ => ?_
  exact (checkOptional_raises fun _ => validateActiveShape_raises).bind fun _ _ => RaisesOnly.ok

theorem parseRequestMove_raises {index : Nat} :
    RaisesOnly IsReaderError (parseRequestMove value index) := by
  refine requireObject_raises.bind fun move _ => requireString_raises.bind fun moveId _ => ?_
  have hdisabled : ∀ context, RaisesOnly IsReaderError (parseDisabled move context) := by
    intro context
    unfold parseDisabled
    split
    · exact .ok
    · exact .ok
    · exact .ok
    · exact malformed_raises
  refine (hdisabled _).bind fun disabled _ => ?_
  refine (checkOptional_raises fun _ => requireString_raises).bind fun _ _ => ?_
  refine (checkOptional_raises fun _ => requireString_raises).bind fun _ _ => ?_
  have hpoints : ∀ value context,
      RaisesOnly IsReaderError (if isNonNegative value then .ok () else malformed context) :=
    fun value context => .ite (fun _ => RaisesOnly.ok) fun _ => malformed_raises
  refine (checkOptional_raises fun value => hpoints value _).bind fun _ _ => ?_
  exact (checkOptional_raises fun value => hpoints value _).bind fun _ _ => RaisesOnly.ok

theorem parseActiveRequest_raises : RaisesOnly IsReaderError (parseActiveRequest payload) := by
  refine validateActiveShape_raises.bind fun entry _ => ?_
  have hmoves : RaisesOnly IsReaderError (requireMoves (entry.get "moves")) :=
    requireList_raises.bind fun items _ => .ite (fun _ => RaisesOnly.ok) fun _ => malformed_raises
  have htera : RaisesOnly IsReaderError (parseCanTerastallize entry) := by
    unfold parseCanTerastallize
    split
    · exact .ok
    · exact requireStringValue_raises
  refine hmoves.bind fun items _ => ?_
  refine (mapM_raises fun _ _ => parseRequestMove_raises).bind fun moves _ => ?_
  refine htera.bind fun tera _ => ?_
  refine optionalBool_raises.bind fun trapped _ => optionalBool_raises.bind fun mayTrap _ => ?_
  exact optionalBool_raises.bind fun mayDisable _ => optionalBool_raises.bind fun mayLock _ => RaisesOnly.ok

end Parts

section Database

variable [Python.UnicodeDatabase] {value : Json} {payload : Members}

theorem requireRqid_raises : RaisesOnly IsReaderError (requireRqid payload) := by
  unfold requireRqid
  split
  · exact .error trivial
  · exact .ite (fun _ => RaisesOnly.ok) fun _ => RaisesOnly.error trivial
  · exact .error trivial

theorem parseRequestPokemon_raises {sideId : String} {index : Nat} :
    RaisesOnly IsReaderError (parseRequestPokemon sideId value index) := by
  refine requireObject_raises.bind fun entry _ => requireString_raises.bind fun ident _ => ?_
  refine RaisesOnly.check malformed_raises fun _ => ?_
  refine requireString_raises.bind fun details _ => requireString_raises.bind fun condition _ => ?_
  refine requireBool_raises.bind fun active _ => ?_
  dsimp only
  split
  all_goals
    refine RaisesOnly.bind (by first | exact .ok | exact requireBool_raises) fun reviving _ => ?_
    refine (checkOptional_raises fun _ => requireStringValue_raises).bind fun _ _ => ?_
    refine (checkOptional_raises fun _ => requireStringValue_raises).bind fun _ _ => ?_
    exact (checkOptional_raises fun _ => requireStringList_raises).bind fun _ _ => RaisesOnly.ok

theorem parseSide_raises : RaisesOnly IsReaderError (parseSide value) := by
  refine requireObject_raises.bind fun side _ => ?_
  have hsideId : RaisesOnly IsReaderError (requireSideId (side.get "id")) :=
    requireString_raises.bind fun sideId _ => .ite (fun _ => RaisesOnly.ok) fun _ => malformed_raises
  have hteam : RaisesOnly IsReaderError (requireTeam (side.get "pokemon")) :=
    requireList_raises.bind fun items _ => .ite (fun _ => RaisesOnly.ok) fun _ => malformed_raises
  refine hsideId.bind fun sideId _ => ?_
  refine (checkOptional_raises fun _ => requireString_raises).bind fun _ _ => ?_
  refine hteam.bind fun items _ => ?_
  refine (mapM_raises fun _ _ => parseRequestPokemon_raises).bind fun pokemon _ => ?_
  exact .ite (fun _ => malformed_raises) fun _ => RaisesOnly.ok

theorem requireFullTeam_raises {teamSize : Nat} :
    RaisesOnly IsReaderError (requireFullTeam payload teamSize) := by
  unfold requireFullTeam
  split
  · refine .ite (fun _ => malformed_raises) fun _ => .ite (fun _ => ?_) fun _ => RaisesOnly.ok
    exact RaisesOnly.error trivial
  · exact malformed_raises

end Database

/-! ## §2 Submissions -/

section Submissions

variable {pokemon : List RequestPokemon} {slot : Nat}

/-- A slot of the team can be named. -/
theorem slotSubmission_returns {kind : ActionKind} (hkind : kind = .switch ∨ kind = .revive)
    (hslot : 1 ≤ slot ∧ slot ≤ 6) : ∃ made, slotSubmission kind slot = .ok made := by
  have hfault : submissionFault kind .explicitRequest (some (slot : Int)) none false [] = none := by
    rcases hkind with rfl | rfl
    all_goals
      simp [submissionFault, submissionChecks, slotWithin]
      omega
  refine ⟨⟨kind, .explicitRequest, some slot, none, false, [], hfault⟩, ?_⟩
  exact BattleSubmission.create_eq_ok.mpr ⟨rfl, rfl, rfl, rfl, rfl, rfl⟩

/-- So can all slots with `p` of a team of six. -/
theorem slotSubmissions_return {kind : ActionKind} (hkind : kind = .switch ∨ kind = .revive)
    (p : RequestPokemon → Bool) (hteam : pokemon.length ≤ 6) :
    ∃ made, (slotsWhere p pokemon).mapM (slotSubmission kind) = .ok made := by
  refine exists_mapM fun slot hslot => slotSubmission_returns hkind ?_
  have hbounds := (mem_slotsWhere.mp hslot).bounds slot rfl
  omega

/-- An order of up to six slots can be named. -/
theorem teamSubmission_returns {size : Nat} (hsize : 1 ≤ size ∧ size ≤ 6) {order : List Int}
    (horder : order.Perm (slotRange size)) : ∃ made, teamSubmission order = .ok made := by
  have hne : order ≠ [] := by
    intro hnil
    have hlength := horder.length_eq
    rw [hnil, length_slotRange] at hlength
    exact absurd hlength.symm (Nat.one_le_iff_ne_zero.mp hsize.1)
  have hnodup : order.Nodup :=
    horder.nodup_iff.mpr ((sorted_slotRange size).imp fun hlt => hlt.ne)
  have hslots : ∀ n ∈ order, 1 ≤ n ∧ n ≤ 6 := by
    intro n hn
    obtain ⟨k, hk, rfl⟩ := List.mem_map.mp (horder.mem_iff.mp hn)
    obtain ⟨hle, hlt⟩ := List.mem_range'_1.mp hk
    simp only [Int.ofNat_eq_natCast]
    omega
  have hfault : submissionFault .team .explicitRequest none none false order = none := by
    simpa [submissionFault, submissionChecks, hne, hnodup] using hslots
  refine ⟨⟨.team, .explicitRequest, none, none, false, order, hfault⟩, ?_⟩
  exact BattleSubmission.create_eq_ok.mpr ⟨rfl, rfl, rfl, rfl, rfl, rfl⟩

/-- The orders of a team of one to six can all be named. -/
theorem teamSubmissions_return {size : Nat} (hsize : 1 ≤ size ∧ size ≤ 6) :
    ∃ made, (permutations size (slotRange size)).mapM teamSubmission = .ok made := by
  refine exists_mapM fun order horder => teamSubmission_returns hsize (mem_permutations.mp ?_)
  rwa [length_slotRange]

/-- The constructor of a submission complains with a bare `ValueError`. -/
theorem create_raises {kind : ActionKind} {provenance : ActionProvenance} {slot : Option Int}
    {moveId : Option String} {terastallize : Bool} {teamOrder : List Int} :
    RaisesOnly (fun err => ¬IsReaderError err)
      (BattleSubmission.create kind provenance slot moveId terastallize teamOrder) := by
  unfold BattleSubmission.create
  split
  · exact .error id
  · exact .ok

/-- A move can be named exactly if its id is an identifier. -/
theorem moveSubmission_returns_iff (hslot : 1 ≤ slot ∧ slot ≤ 4) {moveId : String}
    {terastallize : Bool} :
    (∃ made, moveSubmission slot moveId terastallize = .ok made) ↔ isMoveId moveId = true := by
  constructor
  · rintro ⟨made, hmade⟩
    obtain ⟨-, -, hmove, -⟩ := moveSubmission_eq_ok.mp hmade
    exact made.passes.1 moveId (by rw [hmove]; rfl)
  · intro hid
    have hne : moveId ≠ "" := by
      rintro rfl
      simp [isMoveId] at hid
    have hfault : submissionFault .move .explicitRequest (some (slot : Int)) (some moveId)
        terastallize [] = none := by
      simp [submissionFault, submissionChecks, slotWithin, hid, hne]
      omega
    refine ⟨⟨.move, .explicitRequest, some slot, some moveId, terastallize, [], hfault⟩, ?_⟩
    exact BattleSubmission.create_eq_ok.mpr ⟨rfl, rfl, rfl, rfl, rfl, rfl⟩

/-- A request move that cannot be named although it is enabled. -/
def RequestMove.Unnamable (move : RequestMove) : Prop :=
  move.disabled = false ∧ isMoveId move.moveId = false

theorem moveSubmissions_returns_iff (hslot : 1 ≤ slot ∧ slot ≤ 4) {canTera : Bool}
    {move : RequestMove} :
    (∃ made, moveSubmissions canTera move slot = .ok made) ↔ ¬move.Unnamable := by
  have hnamed : ∀ terastallize, (∃ made, moveSubmission slot move.moveId terastallize = .ok made) ↔
      isMoveId move.moveId = true :=
    fun _ => moveSubmission_returns_iff hslot
  unfold moveSubmissions RequestMove.Unnamable
  by_cases hdisabled : move.disabled = true
  · rw [if_pos hdisabled]
    exact iff_of_true ⟨[], rfl⟩ fun h => by simp [hdisabled] at h
  rw [if_neg hdisabled]
  constructor
  · rintro ⟨made, hmade⟩ ⟨-, hid⟩
    obtain ⟨plain, hplain, -⟩ := bind_eq_ok.mp hmade
    have hnamable := (hnamed false).mp ⟨plain, hplain⟩
    rw [hid] at hnamable
    cases hnamable
  · intro h
    have hid : isMoveId move.moveId = true := by
      by_contra hne
      exact h ⟨by simpa using hdisabled, by simpa using hne⟩
    obtain ⟨plain, hplain⟩ := (hnamed false).mpr hid
    obtain ⟨tera, htera⟩ := (hnamed true).mpr hid
    rw [hplain, htera]
    cases canTera with
    | true => exact ⟨[plain, tera], rfl⟩
    | false => exact ⟨[plain], rfl⟩

theorem moveSubmissions_raises {canTera : Bool} {move : RequestMove} :
    RaisesOnly (fun err => ¬IsReaderError err) (moveSubmissions canTera move slot) := by
  refine .ite (fun _ => RaisesOnly.ok) fun _ => create_raises.bind fun plain _ => ?_
  exact .ite (fun _ => create_raises.bind fun _ _ => RaisesOnly.ok) fun _ => RaisesOnly.ok

/-- A map whose failures are all outside of `P` raises only `P` exactly when it returns. -/
theorem mapM_raises_iff {α γ : Type} {f : γ → Except PyException α} {P : PyException → Prop}
    {inputs : List γ} (h : ∀ c ∈ inputs, RaisesOnly (fun err => ¬P err) (f c)) :
    RaisesOnly P (inputs.mapM f) ↔ ∀ c ∈ inputs, ∃ a, f c = .ok a := by
  constructor
  · intro hraises
    have hall : Satisfies _ (fun err => ¬P err) (inputs.mapM f) := Satisfies.mapM h
    cases hmap : inputs.mapM f with
    | ok outputs =>
      intro c hc
      obtain ⟨b, -, hb⟩ := exists_of_mapM hmap hc
      exact ⟨b, hb⟩
    | error err => exact absurd (hraises.of_error hmap) (hall.of_error hmap)
  · intro hreturns
    obtain ⟨outputs, hmap⟩ := exists_mapM hreturns
    exact raisesOnly_of_ok hmap

/-- What a normal move request offers can be named exactly if its enabled moves can. -/
theorem normalSubmissions_raises_iff {active : ActiveRequest} (hmoves : active.moves.length ≤ 4)
    (hteam : pokemon.length ≤ 6) :
    RaisesOnly IsReaderError (normalSubmissions active pokemon) ↔
      ¬(active.maybeDisabled = false ∧ active.maybeLocked = false ∧
        ∃ move ∈ active.moves, move.Unnamable) := by
  unfold normalSubmissions
  split_ifs with hunknown
  · refine iff_of_true .ok fun ⟨hdisabled, hlocked, _⟩ => ?_
    simp [hdisabled, hlocked] at hunknown
  have hswitches : ∀ slots, slots = [] ∨ slots = healthySlots pokemon →
      ∃ made, slots.mapM (slotSubmission .switch) = .ok made := by
    rintro slots (rfl | rfl)
    · exact ⟨[], rfl⟩
    · exact slotSubmissions_return (.inl rfl) _ hteam
  rw [raisesOnly_bind, mapM_raises_iff fun entry _ => moveSubmissions_raises]
  have hrest : ∀ lists : List (List BattleSubmission), RaisesOnly IsReaderError (do
      let switches ← (if (active.trapped || active.maybeTrapped) = true then []
        else healthySlots pokemon).mapM (slotSubmission .switch)
      pure (lists.flatten ++ switches)) := by
    intro lists
    obtain ⟨made, hmade⟩ := hswitches (if (active.trapped || active.maybeTrapped) = true then []
      else healthySlots pokemon) (by split_ifs <;> simp)
    rw [hmade]
    exact .ok
  have hslots : ∀ entry ∈ active.moves.zipIdx 1, 1 ≤ entry.2 ∧ entry.2 ≤ 4 := by
    intro entry hentry
    have hle := List.le_snd_of_mem_zipIdx hentry
    have hlt := List.snd_lt_of_mem_zipIdx hentry
    omega
  simp at hunknown
  constructor
  · rintro ⟨hreturns, -⟩ ⟨-, -, move, hmem, hunnamable⟩
    obtain ⟨index, hget⟩ := List.mem_iff_getElem?.mp hmem
    have hentry : (move, index + 1) ∈ active.moves.zipIdx 1 := mem_zipIdx_one.mpr ⟨index, hget, rfl⟩
    exact (moveSubmissions_returns_iff (hslots _ hentry)).mp (hreturns _ hentry) hunnamable
  · intro h
    refine ⟨fun entry hentry => ?_, fun lists _ => hrest lists⟩
    obtain ⟨index, hget, -⟩ := mem_zipIdx_one.mp hentry
    refine (moveSubmissions_returns_iff (hslots entry hentry)).mpr fun hunnamable => h ?_
    exact ⟨hunknown.1, hunknown.2, entry.1, List.mem_of_getElem? hget, hunnamable⟩

end Submissions

/-! ## §3 The reader -/

section Reader

variable [Python.UnicodeDatabase] {data : Members} {pokemon : List RequestPokemon}

/-- The reader gets as far as the moves of a document. -/
structure ReachesMoves (data : Members) : Prop where
  rqid : ∃ rqid, requireRqid data = .ok rqid
  flags : ∃ flags, readFlags data = .ok flags
  side : ∃ side, parseSide (data.get "side") = .ok side
  kind : requestKindOf data = .move
  active : ∃ active, parseActiveRequest data = .ok active

/-- The server says which moves are possible, and one of them has an id that is no identifier. -/
def HasUnnamableMove (data : Members) : Prop :=
  data.activeEntry.flag "maybeDisabled" = false ∧ data.activeEntry.flag "maybeLocked" = false ∧
    ∃ move ∈ data.moves, isEnabled move = true ∧ isMoveId (move.text "id") = false

omit [Python.UnicodeDatabase] in
theorem length_moves_of_parse {active : ActiveRequest}
    (h : parseActiveRequest data = .ok active) : active.moves.length ≤ 4 := by
  unfold parseActiveRequest at h
  obtain ⟨entry, -, h⟩ := bind_eq_ok.mp h
  obtain ⟨items, hitems, h⟩ := bind_eq_ok.mp h
  obtain ⟨moves, hmoves, h⟩ := bind_eq_ok.mp h
  obtain ⟨_, -, h⟩ := bind_eq_ok.mp h
  obtain ⟨_, -, h⟩ := bind_eq_ok.mp h
  obtain ⟨_, -, h⟩ := bind_eq_ok.mp h
  obtain ⟨_, -, h⟩ := bind_eq_ok.mp h
  obtain ⟨_, -, h⟩ := bind_eq_ok.mp h
  obtain rfl := Except.ok.inj h
  have hlength : items.zipIdx.length = moves.length := (mapM_eq_ok.mp hmoves).length_eq
  rw [List.length_zipIdx] at hlength
  obtain ⟨found, -, hsize⟩ := bind_eq_ok.mp hitems
  split_ifs at hsize with hbounds
  · obtain rfl := Except.ok.inj hsize
    simp at hbounds
    exact hlength ▸ hbounds.2
  · cases hsize

omit [Python.UnicodeDatabase] in
/-- The document and what is read of it have the same moves that cannot be named. -/
theorem hasUnnamableMove_iff {active : ActiveRequest}
    (h : ReadActive data.activeEntry active) :
    HasUnnamableMove data ↔ active.maybeDisabled = false ∧ active.maybeLocked = false ∧
      ∃ move ∈ active.moves, move.Unnamable := by
  unfold HasUnnamableMove
  rw [h.maybeDisabled, h.maybeLocked]
  refine and_congr_right fun _ => and_congr_right fun _ => ?_
  constructor
  · rintro ⟨entry, hmem, henabled, hid⟩
    obtain ⟨move, hmove, hread⟩ := exists_of_forall₂ h.moves.flip hmem
    rw [hread.enabled] at henabled
    rw [hread.moveId] at hid
    exact ⟨move, hmove, by simpa using henabled, hid⟩
  · rintro ⟨move, hmem, henabled, hid⟩
    obtain ⟨entry, hentry, hread⟩ := exists_of_forall₂ h.moves hmem
    refine ⟨entry, hentry, ?_, ?_⟩
    · rw [hread.enabled, henabled]
      rfl
    · rw [hread.moveId]
      exact hid

/-- Of all kinds of requests only a move request can fail in a class of its own. -/
theorem readKind_raises_iff {identity : RequestIdentity} {flags : RequestFlags} {sideId : String}
    {activeIdentity : Option String} (hflags : ReadFlags data flags)
    (hteam : List.Forall₂ ReadFrom data.team pokemon)
    (hsize : 1 ≤ pokemon.length ∧ pokemon.length ≤ 6) :
    RaisesOnly IsReaderError (readKind identity flags sideId pokemon
        (pokemon.find? fun member => member.active) activeIdentity data) ↔
      (requestKindOf data = .move → (∃ active, parseActiveRequest data = .ok active) →
        ¬HasUnnamableMove data) := by
  have hkind := requestKindOf_of_read hflags hteam
  unfold readKind
  rw [hkind]
  split_ifs
  · exact iff_of_true .ok nofun
  · refine iff_of_true (requireFullTeam_raises.bind fun _ _ => ?_) nofun
    obtain ⟨orders, horders⟩ := teamSubmissions_return hsize
    exact (raisesOnly_of_ok horders).bind fun _ _ => RaisesOnly.ok
  · obtain ⟨revivals, hrevivals⟩ := slotSubmissions_return (.inr rfl) _ hsize.2
    exact iff_of_true ((raisesOnly_of_ok hrevivals).bind fun _ _ => RaisesOnly.ok) nofun
  · obtain ⟨switches, hswitches⟩ := slotSubmissions_return (.inl rfl) _ hsize.2
    exact iff_of_true ((raisesOnly_of_ok hswitches).bind fun _ _ => RaisesOnly.ok) nofun
  · unfold readNormalMove
    rw [raisesOnly_bind]
    have hactive : ∀ active, parseActiveRequest data = .ok active →
        (RaisesOnly IsReaderError (do
            let submissions ← normalSubmissions active pokemon
            pure (decisionRequest identity .move sideId pokemon activeIdentity
              (submissions ++ [defaultSubmission]) flags.update)) ↔ ¬HasUnnamableMove data) := by
      intro active hparse
      rw [raisesOnly_bind, hasUnnamableMove_iff (readActive_of_parse hparse),
        normalSubmissions_raises_iff (length_moves_of_parse hparse) hsize.2]
      exact and_iff_left fun _ _ => RaisesOnly.ok
    constructor
    · rintro ⟨-, h⟩ - ⟨active, hparse⟩
      exact (hactive active hparse).mp (h active hparse)
    · intro h
      exact ⟨parseActiveRequest_raises, fun active hparse =>
        (hactive active hparse).mpr (h rfl ⟨active, hparse⟩)⟩

/-- The nickname of a pokemon that was read can be read off. -/
theorem readActiveIdentity_returns {members : List Members}
    (hteam : List.Forall₂ ReadFrom members pokemon) :
    ∃ name, readActiveIdentity (pokemon.find? fun member => member.active) = .ok name := by
  cases hfind : pokemon.find? fun member => member.active with
  | none => exact ⟨none, rfl⟩
  | some member =>
    obtain ⟨_, -, hread⟩ := exists_of_forall₂ hteam (List.mem_of_find?_eq_some hfind)
    obtain ⟨nickname, hnickname⟩ := hread.named
    exact ⟨some nickname, by rw [readActiveIdentity, hnickname]; rfl⟩

variable [JsonDecoder]

/-- The reader raises another class than its two exactly if the decoder does, or a document of a
move request gets as far as its moves and has an enabled one that cannot be named. -/
theorem reader_errors_iff (roomId payload : String) :
    RaisesOnly IsReaderError (readRequest roomId payload) ↔
      (∀ err, JsonDecoder.loads payload = .error (.raised err) → IsReaderError err) ∧
        ∀ data, JsonDecoder.loads payload = .ok (.obj data) → ReachesMoves data →
          ¬HasUnnamableMove data := by
  have hload : RaisesOnly IsReaderError (loadRequest payload) ↔
      ∀ err, JsonDecoder.loads payload = .error (.raised err) → IsReaderError err := by
    unfold loadRequest
    split
    · next hloads => rw [hloads]; exact iff_of_true malformed_raises nofun
    · next raised hloads =>
      rw [hloads]
      constructor
      · rintro h err heq
        obtain rfl := JsonFailure.raised.inj (Except.error.inj heq)
        exact h.of_error rfl
      · exact fun h => .error (h raised rfl)
    · next hloads => rw [hloads]; exact iff_of_true .ok nofun
    · next _ hloads => rw [hloads]; exact iff_of_true malformed_raises nofun
  unfold readRequest
  rw [raisesOnly_bind, hload]
  refine and_congr_right fun _ => forall_congr' fun data => imp_congr loadRequest_eq_ok ?_
  constructor
  · rintro h ⟨⟨rqid, hrqid⟩, ⟨flags, hflags⟩, ⟨⟨sideId, pokemon⟩, hside⟩, hkind, hactive⟩
    have hteam := team_of_parseSide hside
    obtain ⟨name, hname⟩ := readActiveIdentity_returns hteam
    have hread := (raisesOnly_bind.mp h).2 rqid hrqid
    have hread := (raisesOnly_bind.mp hread).2 flags hflags
    have hread := (raisesOnly_bind.mp hread).2 _ hside
    have hread := (raisesOnly_bind.mp hread).2 name hname
    exact (readKind_raises_iff (readFlags_eq_ok hflags) hteam
      ((parseSide_outcome _).of_ok hside).2).mp hread hkind hactive
  · intro h
    refine requireRqid_raises.bind fun rqid hrqid => readFlags_raises.bind fun flags hflags => ?_
    refine parseSide_raises.bind fun ⟨sideId, pokemon⟩ hside => ?_
    have hteam := team_of_parseSide hside
    obtain ⟨name, hname⟩ := readActiveIdentity_returns hteam
    refine (raisesOnly_of_ok hname).bind fun _ _ => ?_
    refine (readKind_raises_iff (readFlags_eq_ok hflags) hteam
      ((parseSide_outcome _).of_ok hside).2).mpr fun hkind hactive => ?_
    exact h ⟨⟨rqid, hrqid⟩, ⟨flags, hflags⟩, ⟨_, hside⟩, hkind, hactive⟩

end Reader

/-- A request with a move that is named by its title. -/
def titledText : String :=
  "\x7b\"rqid\":3,\"active\":[\x7b\"moves\":[\x7b\"id\":\"Fire Blast\"\x7d]\x7d],"
    ++ "\"side\":\x7b\"id\":\"p1\",\"pokemon\":[\x7b\"ident\":\"p1: Eevee\",\"details\":\"Eevee, F\","
    ++ "\"condition\":\"100/100\",\"active\":true\x7d]\x7d\x7d"

/-- What it decodes to. -/
def titledMembers : Members :=
  [("rqid", .int 3),
    ("active", .arr [.obj [("moves", .arr [.obj [("id", .str "Fire Blast")]])]]),
    ("side", .obj [("id", .str "p1"),
      ("pokemon", .arr [.obj [("ident", .str "p1: Eevee"), ("details", .str "Eevee, F"),
        ("condition", .str "100/100"), ("active", .bool true)]])])]

/-- A decoder that knows this request. -/
@[reducible] def titledDecoder : JsonDecoder where
  loads text :=
    if text = titledText then .ok (.obj titledMembers)
    else .error (.decodeError "Expecting value: line 1 column 1 (char 0)")

/-- A move id with a blank is a `ValueError` of the submission. -/
theorem titled_move_escapes :
    letI := Python.asciiDatabase
    letI := titledDecoder
    readRequest "battle-gen9ou-1" titledText =
        .error (.valueError "move_id must be a Showdown identifier or null") ∧
      ¬RaisesOnly IsReaderError (readRequest "battle-gen9ou-1" titledText) := by
  let _ := Python.asciiDatabase
  let _ := titledDecoder
  have hraised : readRequest "battle-gen9ou-1" titledText =
      .error (.valueError "move_id must be a Showdown identifier or null") := by
    decide +kernel
  exact ⟨hraised, fun h => h.of_error hraised⟩

end BattleBelief
