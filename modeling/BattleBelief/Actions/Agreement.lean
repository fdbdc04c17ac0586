import BattleBelief.Actions.SafeChoices

/-!
# Agreement of Reader and Reconciler

The reconciler looks again at what the reader has settled: the room, the identity of the safe set,
the size of the team and the submissions. For a request that was read it never finds anything
there. What is left is the observed state:

- `Contradicts`: what a rejected request and the state disagree on
- `Lacks`: what the state does not tell yet
- `reader_reconciler_agree`: one of these two, or else the request is accepted
-/

namespace BattleBelief

open Runs

section Agreement

variable [Python.UnicodeDatabase] {roomId : String} {request : DecisionRequest}
  {state : ObservedState} {latestRqid : Option Int} {ownSide : SideView}

/-- The state, or the last number, speaks against the request, and how the reconciler says so. -/
inductive Contradicts (request : DecisionRequest) (state : ObservedState)
    (latestRqid : Option Int) : String → Prop where
  | stale {latest : Int} (hlatest : latestRqid = some latest)
      (h : request.identity.rqid < latest) :
      Contradicts request state latestRqid
        s!"stale rqid {request.identity.rqid} < accepted {latest}"
  | side {ourSide : String} (hside : state.ourSide = some ourSide) (h : request.sideId ≠ ourSide) :
      Contradicts request state latestRqid
        (s!"side mismatch: request={Python.repr request.sideId}, "
          ++ s!"state={Python.repr ourSide}")
  | generation {generation : Int} (hgeneration : state.generation = some generation)
      (h : generation ≠ 9) :
      Contradicts request state latestRqid s!"generation mismatch: {generation} != 9"
  | gameType {gameType : String} (hgameType : state.gameType = some gameType)
      (h : Python.lower gameType ≠ "singles") :
      Contradicts request state latestRqid s!"game_type not singles: {Python.repr gameType}"
  | tier {tier : String} (htier : state.tier = some tier) (h : tierMatches tier = false) :
      Contradicts request state latestRqid s!"tier not gen9ou: {Python.repr tier}"
  | teamSize {size : Int} (hsize : state.knownTeamSize request.sideId = some size)
      (h : request.teamMemberCount ≠ size) :
      Contradicts request state latestRqid
        s!"team size mismatch: request={request.teamMemberCount}, state={size}"
  | nobodyNamed {nickname : String} (hneeds : request.kind.needsActive = true)
      (hactive : state.activeNickname request.sideId = some nickname)
      (h : request.activeIdentity = none) :
      Contradicts request state latestRqid "decision request has no active identity"
  | otherActive {name nickname : String} (hneeds : request.kind.needsActive = true)
      (hactive : state.activeNickname request.sideId = some nickname)
      (hname : request.activeIdentity = some name) (h : name ≠ nickname) :
      Contradicts request state latestRqid
        (s!"active identity mismatch: request={Python.repr name}, "
          ++ s!"state={Python.repr nickname}")

/-- The state does not tell yet what the request has to be compared with, and how the reconciler
says so. The active pokemon is missed last. -/
inductive Lacks (request : DecisionRequest) (state : ObservedState) : String → Prop where
  | ourSide (h : state.ourSide = none) : Lacks request state "our_side not yet known"
  | generation (h : state.generation = none) : Lacks request state "generation not yet known"
  | gameType (h : state.gameType = none) : Lacks request state "game_type not yet known"
  | tier (h : state.tier = none) : Lacks request state "tier not yet known"
  | active (hfits : FormatFits request state) (hneeds : request.kind.needsActive = true)
      (h : state.activeNickname request.sideId = none) :
      Lacks request state activeNotYetKnown.reason

/-- The state says all that the request needs, and the same. -/
structure AgreesWith (request : DecisionRequest) (state : ObservedState)
    (latestRqid : Option Int) : Prop where
  latest : ∀ latest ∈ latestRqid, latest ≤ request.identity.rqid
  format : FormatFits request state
  active : request.kind.needsActive = true → ∃ nickname,
    state.activeNickname request.sideId = some nickname ∧ request.activeIdentity = some nickname

/-- What the reconciler's answer says. -/
def Speaks (request : DecisionRequest) (state : ObservedState) (latestRqid : Option Int)
    (result : ReconciliationResult) : Prop :=
  match result.status with
  | .accept => AgreesWith request state latestRqid
  | .pendingPublicState =>
      Lacks request state result.reason ∧ ¬AgreesWith request state latestRqid
  | .reject =>
      Contradicts request state latestRqid result.reason ∧ ¬AgreesWith request state latestRqid

theorem reconcileActive_speaks (hlatest : ∀ latest ∈ latestRqid, latest ≤ request.identity.rqid)
    (hfits : FormatFits request state) (hown : state.side request.sideId = .ok ownSide) :
    Speaks request state latestRqid (reconcileActive request ownSide) := by
  have hnickname : state.activeNickname request.sideId =
      (ownSide.pokemon.find? fun pv => pv.active).map fun pv => pv.nickname := by
    simp only [ObservedState.activeNickname, hown]
  unfold reconcileActive
  by_cases hneeds : request.kind.needsActive = true
  swap
  · rw [if_neg hneeds]
    exact ⟨hlatest, hfits, fun h => absurd h hneeds⟩
  rw [if_pos hneeds]
  cases hfind : ownSide.pokemon.find? fun pv => pv.active with
  | none =>
    rw [hfind] at hnickname
    refine ⟨.active hfits hneeds hnickname, fun hagrees => ?_⟩
    obtain ⟨nickname, hactive, -⟩ := hagrees.active hneeds
    rw [hnickname] at hactive
    cases hactive
  | some activePv =>
    rw [hfind] at hnickname
    have hactive : state.activeNickname request.sideId = some activePv.nickname := hnickname
    cases hname : request.activeIdentity with
    | none =>
      refine ⟨.nobodyNamed hneeds hactive hname, fun hagrees => ?_⟩
      obtain ⟨nickname, -, hsame⟩ := hagrees.active hneeds
      rw [hname] at hsame
      cases hsame
    | some name =>
      by_cases hne : name ≠ activePv.nickname
      · simp only [if_pos hne]
        refine ⟨.otherActive hneeds hactive hname hne, fun hagrees => hne ?_⟩
        obtain ⟨nickname, hactive', hsame⟩ := hagrees.active hneeds
        rw [hname] at hsame
        rw [hactive] at hactive'
        rw [Option.some.inj hsame, Option.some.inj hactive']
      · simp only [if_neg hne]
        refine ⟨hlatest, hfits, fun _ => ⟨activePv.nickname, hactive, ?_⟩⟩
        rw [hname, not_not.mp hne]

/-- The last checks, once side and format fit. -/
theorem reconcileTeam_speaks (h : request.WellFormed roomId)
    (hlatest : ∀ latest ∈ latestRqid, latest ≤ request.identity.rqid)
    (hfits : (∀ size, state.knownTeamSize request.sideId = some size →
      request.teamMemberCount = size) → FormatFits request state)
    (hown : state.side request.sideId = .ok ownSide) :
    Speaks request state latestRqid (reconcileTeam request ownSide) := by
  have hknown : state.knownTeamSize request.sideId = ownSide.teamSize := by
    simp only [ObservedState.knownTeamSize, hown]
  unfold reconcileTeam
  split
  · next size hfilter =>
    obtain ⟨hsize, hne⟩ := Option.filter_eq_some_iff.mp hfilter
    have hne : request.teamMemberCount ≠ size := by simpa using hne
    refine ⟨.teamSize (hknown.trans hsize) hne, fun hagrees => hne ?_⟩
    exact hagrees.format.teamSize size (hknown.trans hsize)
  · next hfilter =>
    rw [Option.filter_eq_none_iff] at hfilter
    rw [h.submissions]
    refine reconcileActive_speaks hlatest (hfits fun size hsize => ?_) hown
    simpa using hfilter size (hknown.symm.trans hsize)

theorem reconcileFormat_speaks (h : request.WellFormed roomId)
    (hlatest : ∀ latest ∈ latestRqid, latest ≤ request.identity.rqid) :
    ∃ result, reconcileFormat request state = .ok result ∧
      Speaks request state latestRqid result := by
  unfold reconcileFormat
  cases hside : state.ourSide with
  | none =>
    refine ⟨_, rfl, .ourSide hside, fun hagrees => ?_⟩
    have hknown := hagrees.format.side
    rw [hside] at hknown
    cases hknown
  | some ourSide =>
  by_cases hsame : request.sideId ≠ ourSide
  · refine ⟨_, if_pos hsame, .side hside hsame, fun hagrees => hsame ?_⟩
    exact (Option.some.inj (hside.symm.trans hagrees.format.side)).symm
  obtain rfl := not_not.mp hsame
  simp only [ne_eq, not_true_eq_false, if_false]
  cases hgeneration : state.generation with
  | none =>
    refine ⟨_, rfl, .generation hgeneration, fun hagrees => ?_⟩
    have hknown := hagrees.format.generation
    rw [hgeneration] at hknown
    cases hknown
  | some generation =>
  by_cases hnine : generation ≠ 9
  · refine ⟨_, if_pos hnine, .generation hgeneration hnine, fun hagrees => hnine ?_⟩
    exact Option.some.inj (hgeneration.symm.trans hagrees.format.generation)
  obtain rfl := not_not.mp hnine
  simp only [not_true_eq_false, if_false]
  cases hgameType : state.gameType with
  | none =>
    refine ⟨_, rfl, .gameType hgameType, fun hagrees => ?_⟩
    obtain ⟨_, hknown, -⟩ := hagrees.format.gameType
    rw [hgameType] at hknown
    cases hknown
  | some gameType =>
  by_cases hsingles : Python.lower gameType ≠ "singles"
  · refine ⟨_, if_pos hsingles, .gameType hgameType hsingles, fun hagrees => hsingles ?_⟩
    obtain ⟨_, hknown, hlower⟩ := hagrees.format.gameType
    rw [Option.some.inj (hgameType.symm.trans hknown)]
    exact hlower
  simp only [hsingles, if_false]
  cases htier : state.tier with
  | none =>
    refine ⟨_, rfl, .tier htier, fun hagrees => ?_⟩
    obtain ⟨_, hknown, -⟩ := hagrees.format.tier
    rw [htier] at hknown
    cases hknown
  | some tier =>
  by_cases hrefused : (!tierMatches tier) = true
  · have hmatches : tierMatches tier = false := by simpa using hrefused
    refine ⟨_, if_pos hrefused, .tier htier hmatches, fun hagrees => ?_⟩
    obtain ⟨_, hknown, hmatches'⟩ := hagrees.format.tier
    rw [← Option.some.inj (htier.symm.trans hknown), hmatches] at hmatches'
    cases hmatches'
  have hmatches : tierMatches tier = true := by simpa using hrefused
  -- the size of a team that was read is never out of range
  have hrange : (1 ≤ request.teamMemberCount && request.teamMemberCount ≤ 6) = true := by
    simpa using h.teamSize
  obtain ⟨ownSide, hown⟩ := h.side_ok state
  simp only [hmatches, hrange, hown, Bool.not_true, Bool.false_eq_true, if_false, Except.map]
  refine ⟨_, rfl, reconcileTeam_speaks h hlatest (fun hteam => ?_) hown⟩
  exact ⟨hside, hgeneration, ⟨gameType, hgameType, not_not.mp hsingles⟩, ⟨tier, htier, hmatches⟩, hteam⟩

/-- A request that agrees with itself is accepted, contradicted by the state, or waits for it. -/
theorem reconcile_speaks (h : request.WellFormed roomId) (state : ObservedState)
    (latestRqid : Option Int) :
    ∃ result, reconcile roomId request state latestRqid = .ok result ∧
      Speaks request state latestRqid result := by
  unfold reconcile
  rw [if_neg (not_not.mpr h.identity.room), if_neg (not_not.mpr h.safeIdentity.symm)]
  split
  · next latest hfilter =>
    obtain ⟨hlatest, hstale⟩ := Option.filter_eq_some_iff.mp hfilter
    have hstale : request.identity.rqid < latest := by simpa using hstale
    refine ⟨_, rfl, .stale hlatest hstale, fun hagrees => ?_⟩
    exact absurd hstale (not_lt.mpr (hagrees.latest latest hlatest))
  · next hfilter =>
    rw [Option.filter_eq_none_iff] at hfilter
    exact reconcileFormat_speaks h fun latest hmem => by simpa using hfilter latest hmem

omit [Python.UnicodeDatabase] in
/-- The last reason to wait is given only where all else fits. -/
theorem Lacks.of_active (h : Lacks request state activeNotYetKnown.reason) :
    FormatFits request state ∧ request.kind.needsActive = true ∧
      state.activeNickname request.sideId = none := by
  generalize hreason : activeNotYetKnown.reason = reason at h
  cases h with
  | active hfits hneeds hactive => exact ⟨hfits, hneeds, hactive⟩
  | _ => exact absurd hreason (by decide)

variable [JsonDecoder] {payload : String}

/-- For a request that was read, the reconciler has an answer in every state. It rejects only
where the state, or the last number, speaks against the request, never over the request's own
submissions; it waits only for what the state lacks; and it accepts exactly where the two agree. -/
theorem reader_reconciler_agree (h : readRequest roomId payload = .ok request)
    (state : ObservedState) (latestRqid : Option Int) :
    ∃ result, reconcile roomId request state latestRqid = .ok result ∧
      (result.status = .reject → Contradicts request state latestRqid result.reason) ∧
      (result.status = .pendingPublicState → Lacks request state result.reason) ∧
      (result.status = .accept ↔ AgreesWith request state latestRqid) := by
  obtain ⟨result, hresult, hspeaks⟩ := reconcile_speaks (readRequest_wellFormed h) state latestRqid
  unfold Speaks at hspeaks
  refine ⟨result, hresult, ?_⟩
  cases hstatus : result.status with
  | accept =>
    rw [hstatus] at hspeaks
    exact ⟨nofun, nofun, iff_of_true rfl hspeaks⟩
  | pendingPublicState =>
    rw [hstatus] at hspeaks
    exact ⟨nofun, fun _ => hspeaks.1, iff_of_false nofun hspeaks.2⟩
  | reject =>
    rw [hstatus] at hspeaks
    exact ⟨fun _ => hspeaks.1, nofun, iff_of_false nofun hspeaks.2⟩

end Agreement

/-- The state of a game whose type is spelled with a capital, with the one pokemon on the field. -/
def capitalState : ObservedState :=
  { ObservedState.initial "ash" with
    generation := some 9
    gameType := some "Singles"
    tier := some "[Gen 9] OU"
    ourSide := some "p1"
    p1 := { emptySide "p1" with
      pokemon := [{ PokemonView.new "p1" "Eevee" (some "Eevee, F") with active := true }] } }

/-- The game type need not be the word itself: the reconciler lowers it first. -/
theorem capital_game_accepted :
    letI := Python.asciiDatabase
    letI := soloDecoder
    ∃ request, readRequest "battle-gen9ou-1" soloText = .ok request ∧
      reconcile "battle-gen9ou-1" request capitalState none = .ok accepted ∧
      capitalState.gameType ≠ some "singles" := by
  let _ := Python.asciiDatabase
  let _ := soloDecoder
  have hread : (readRequest "battle-gen9ou-1" soloText).bind (fun request =>
      reconcile "battle-gen9ou-1" request capitalState none) = .ok accepted := by
    decide +kernel
  obtain ⟨request, hrequest, haccepted⟩ := bind_eq_ok.mp hread
  exact ⟨request, hrequest, haccepted, by decide⟩

/-- The request of the one pokemon agrees with that state. -/
theorem solo_agrees :
    letI := Python.asciiDatabase
    letI := soloDecoder
    ∃ request, readRequest "battle-gen9ou-1" soloText = .ok request ∧
      AgreesWith request capitalState none := by
  let _ := Python.asciiDatabase
  let _ := soloDecoder
  have hread : (readRequest "battle-gen9ou-1" soloText).bind (fun request =>
      reconcile "battle-gen9ou-1" request capitalState none) = .ok accepted := by
    decide +kernel
  obtain ⟨request, hrequest, haccepted⟩ := bind_eq_ok.mp hread
  obtain ⟨result, hresult, -, -, hagrees⟩ := reader_reconciler_agree hrequest capitalState none
  obtain rfl := Except.ok.inj (hresult.symm.trans haccepted)
  exact ⟨request, hrequest, hagrees.mp rfl⟩

end BattleBelief
