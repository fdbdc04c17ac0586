import BattleBelief.Actions.Submission
import BattleBelief.Canonicalization
import BattleBelief.Domain.ObservedState

/-!
# Request Reconciliation

A request may reach the session before the public lines that it refers to. The reconciler compares
it with the observed state, and answers that the two agree, that the state does not know enough
yet, or that they contradict each other.

The checks on room, side and format come first, then those on the request's own submissions, and
the active pokemon last:

- `reconcile_ok`: a request that agrees with itself gets an answer in every state
- `reconcile_of_active`, `reconcile_of_otherActive`, `reconcile_of_noneActive`: once all other checks pass, the active pokemon decides
-/

namespace BattleBelief

/-! ## §1 Answers -/

inductive ReconciliationStatus where
  | accept
  | pendingPublicState
  | reject
  deriving DecidableEq, Repr

structure ReconciliationResult where
  status : ReconciliationStatus
  reason : String
  deriving DecidableEq, Repr

/-- The answer for a request whose pokemon has not been seen on the field yet. -/
def activeNotYetKnown : ReconciliationResult :=
  ⟨.pendingPublicState, "active pokemon not yet known from public state"⟩

def accepted : ReconciliationResult := ⟨.accept, "ok"⟩

/-! ## §2 The checks -/

/-- `_ALLOWED_KINDS`. -/
def allowedKinds : RequestKind → List ActionKind
  | .move => [.move, .switch, .default]
  | .forcedSwitch => [.switch, .default]
  | .revival => [.revive, .default]
  | .teamPreview => [.team, .default]
  | .wait => []

def isAllowed (kind : RequestKind) (submission : BattleSubmission) : Bool :=
  submission.kind ∈ allowedKinds kind

/-- The kinds of request that somebody must be on the field for. -/
def RequestKind.needsActive : RequestKind → Bool
  | .move => true
  | .forcedSwitch => true
  | .revival => true
  | .teamPreview => false
  | .wait => false

def tierMatches (tier : String) : Bool :=
  let lowered := Python.lower tier
  Python.removeChar (Python.removeChar (Python.removeChar lowered ' ') '[') ']' = "gen9ou"

/-- `frozenset(team_order) == frozenset(range(1, count + 1))`. -/
def isFullOrder (teamOrder : List Int) (count : Int) : Bool :=
  teamOrder.all (fun n => 1 ≤ n && n ≤ count) &&
    (List.range count.toNat).all fun k => (k : Int) + 1 ∈ teamOrder

section Database

variable [Python.UnicodeDatabase]

def RequestKind.name : RequestKind → String
  | .move => "MOVE"
  | .forcedSwitch => "FORCED_SWITCH"
  | .revival => "REVIVAL"
  | .teamPreview => "TEAM_PREVIEW"
  | .wait => "WAIT"

def RequestKind.repr (kind : RequestKind) : String :=
  s!"<RequestKind.{kind.name}: {Python.repr kind.value}>"

/-- The last check: the pokemon that the request is for must be the active one. -/
def reconcileActive (request : DecisionRequest) (ownSide : SideView) : ReconciliationResult :=
  if request.kind.needsActive then
    match ownSide.pokemon.find? fun pv => pv.active with
    | none => activeNotYetKnown
    | some activePv =>
        match request.activeIdentity with
        | none => ⟨.reject, "decision request has no active identity"⟩
        | some activeIdentity =>
            if activeIdentity ≠ activePv.nickname then
              ⟨.reject, s!"active identity mismatch: request={Python.repr activeIdentity}, "
                ++ s!"state={Python.repr activePv.nickname}"⟩
            else accepted
  else accepted

/-- The complaint about the submissions of a request, if there is one. -/
def submissionsFault (request : DecisionRequest) : Option String :=
  let submissions := request.safeSubmissions.submissions
  if request.kind = .wait && !submissions.isEmpty then
    some "wait request must not contain submissions"
  else if request.kind ≠ .wait && !submissions.any fun sub => sub.kind = .default then
    some "decision request must contain default"
  else
    match submissions.find? fun sub => !isAllowed request.kind sub with
    | some sub =>
        some (s!"submission kind {sub.kind.repr} is not allowed for request kind "
          ++ request.kind.repr)
    | none =>
        if request.kind = .teamPreview then
          (submissions.find? fun sub =>
            sub.kind = .team && !isFullOrder sub.teamOrder request.teamMemberCount).map fun sub =>
              s!"team_order {reprTuple sub.teamOrder} is not a permutation of "
                ++ s!"1..{request.teamMemberCount}"
        else none

/-- The checks from the observed team size on, against our side as observed. -/
def reconcileTeam (request : DecisionRequest) (ownSide : SideView) : ReconciliationResult :=
  match ownSide.teamSize.filter fun size => request.teamMemberCount ≠ size with
  | some size =>
      ⟨.reject, s!"team size mismatch: request={request.teamMemberCount}, state={size}"⟩
  | none =>
      match submissionsFault request with
      | some complaint => ⟨.reject, complaint⟩
      | none => reconcileActive request ownSide

/-- The checks of side and format. `state.side` raises where the side does not exist. -/
def reconcileFormat (request : DecisionRequest) (state : ObservedState) :
    Except PyException ReconciliationResult :=
  match state.ourSide with
  | none => .ok ⟨.pendingPublicState, "our_side not yet known"⟩
  | some ourSide =>
      if request.sideId ≠ ourSide then
        .ok ⟨.reject, s!"side mismatch: request={Python.repr request.sideId}, "
          ++ s!"state={Python.repr ourSide}"⟩
      else
        match state.generation with
        | none => .ok ⟨.pendingPublicState, "generation not yet known"⟩
        | some generation =>
            if generation ≠ 9 then
              .ok ⟨.reject, s!"generation mismatch: {generation} != 9"⟩
            else
              match state.gameType with
              | none => .ok ⟨.pendingPublicState, "game_type not yet known"⟩
              | some gameType =>
                  if Python.lower gameType ≠ "singles" then
                    .ok ⟨.reject, s!"game_type not singles: {Python.repr gameType}"⟩
                  else
                    match state.tier with
                    | none => .ok ⟨.pendingPublicState, "tier not yet known"⟩
                    | some tier =>
                        if !tierMatches tier then
                          .ok ⟨.reject, s!"tier not gen9ou: {Python.repr tier}"⟩
                        else if !(1 ≤ request.teamMemberCount && request.teamMemberCount ≤ 6) then
                          .ok ⟨.reject,
                            s!"request team size out of range: {request.teamMemberCount}"⟩
                        else
                          (state.side ourSide).map (reconcileTeam request)

/-- `RequestReconciler.reconcile`. -/
def reconcile (roomId : String) (request : DecisionRequest) (state : ObservedState)
    (latestRqid : Option Int) : Except PyException ReconciliationResult :=
  if request.identity.roomId ≠ roomId then
    .ok ⟨.reject, s!"room mismatch: {Python.repr request.identity.roomId} != "
      ++ Python.repr roomId⟩
  else if request.identity ≠ request.safeSubmissions.requestIdentity then
    .ok ⟨.reject, "request identity does not match SafeSubmissionSet identity"⟩
  else
    match latestRqid.filter fun latest => request.identity.rqid < latest with
    | some latest => .ok ⟨.reject, s!"stale rqid {request.identity.rqid} < accepted {latest}"⟩
    | none => reconcileFormat request state

/-! ## §3 What the answers mean -/

/-- The team size that has been announced for a side. -/
def ObservedState.knownTeamSize (state : ObservedState) (sideId : String) : Option Int :=
  match state.side sideId with
  | .ok side => side.teamSize
  | .error _ => none

/-- The nickname of the pokemon that a side has on the field. -/
def ObservedState.activeNickname (state : ObservedState) (sideId : String) : Option String :=
  match state.side sideId with
  | .ok side => (side.pokemon.find? fun pv => pv.active).map fun pv => pv.nickname
  | .error _ => none

/-- The observed state passes every check of side, format and team size that the request makes. -/
structure FormatFits (request : DecisionRequest) (state : ObservedState) : Prop where
  side : state.ourSide = some request.sideId
  generation : state.generation = some 9
  gameType : ∃ gameType, state.gameType = some gameType ∧ Python.lower gameType = "singles"
  tier : ∃ tier, state.tier = some tier ∧ tierMatches tier
  teamSize : ∀ size, state.knownTeamSize request.sideId = some size →
    request.teamMemberCount = size

structure RequestIdentity.WellFormed (roomId : String) (identity : RequestIdentity) : Prop where
  room : identity.roomId = roomId
  rqid : 0 ≤ identity.rqid
  digest : isDigest identity.requestDigest = true

/-- A request that agrees with itself: what `read_request` hands out. -/
structure DecisionRequest.WellFormed (roomId : String) (request : DecisionRequest) : Prop where
  identity : request.identity.WellFormed roomId
  safeIdentity : request.safeSubmissions.requestIdentity = request.identity
  side : request.sideId = "p1" ∨ request.sideId = "p2"
  teamSize : 1 ≤ request.teamMemberCount ∧ request.teamMemberCount ≤ 6
  submissions : submissionsFault request = none

/-- When there is nothing to complain about in the submissions of a request. -/
theorem submissionsFault_eq_none {request : DecisionRequest} (hkind : request.kind ≠ .wait)
    (hdefault : ∃ sub ∈ request.safeSubmissions.submissions, sub.kind = .default)
    (hallowed : ∀ sub ∈ request.safeSubmissions.submissions, isAllowed request.kind sub)
    (horders : request.kind = .teamPreview → ∀ sub ∈ request.safeSubmissions.submissions,
      sub.kind = .team → isFullOrder sub.teamOrder request.teamMemberCount) :
    submissionsFault request = none := by
  have hany : (request.safeSubmissions.submissions.any fun sub => sub.kind = .default) = true := by
    simpa using hdefault
  have hfind : (request.safeSubmissions.submissions.find? fun sub =>
      !isAllowed request.kind sub) = none := by
    rw [List.find?_eq_none]
    intro sub hsub
    simpa using hallowed sub hsub
  simp only [submissionsFault, hany, hfind]
  rw [if_neg (by simp [hkind]), if_neg (by simp)]
  by_cases hpreview : request.kind = .teamPreview
  · rw [if_pos hpreview, Option.map_eq_none_iff, List.find?_eq_none]
    intro sub hsub
    simpa using horders hpreview sub hsub
  · rw [if_neg hpreview]

/-- A well-formed request that wants a decision offers the default. -/
theorem DecisionRequest.WellFormed.default_mem {roomId : String} {request : DecisionRequest}
    (h : request.WellFormed roomId) (hkind : request.kind ≠ .wait) :
    ∃ submission ∈ request.safeSubmissions.submissions, submission.kind = .default := by
  have hany : (request.safeSubmissions.submissions.any fun sub => sub.kind = .default) = true := by
    by_contra hnone
    have hfault := h.submissions
    unfold submissionsFault at hfault
    rw [if_neg (by simp [hkind]), if_pos (by simpa [hkind] using hnone)] at hfault
    cases hfault
  simpa using hany

/-- The side that a well-formed request names exists. -/
theorem DecisionRequest.WellFormed.side_ok {roomId : String} {request : DecisionRequest}
    (h : request.WellFormed roomId) (state : ObservedState) :
    ∃ ownSide, state.side request.sideId = .ok ownSide := by
  rcases h.side with hside | hside
  · exact ⟨state.p1, by rw [hside]; rfl⟩
  · exact ⟨state.p2, by rw [hside]; rfl⟩

/-- A well-formed request gets an answer in every state. -/
theorem reconcile_ok {roomId : String} {request : DecisionRequest}
    (h : request.WellFormed roomId) (state : ObservedState) (latestRqid : Option Int) :
    ∃ result, reconcile roomId request state latestRqid = .ok result := by
  have hformat : ∃ result, reconcileFormat request state = .ok result := by
    simp only [reconcileFormat]
    cases state.ourSide with
    | none => exact ⟨_, rfl⟩
    | some ourSide =>
      by_cases hside : request.sideId = ourSide
      · -- only the last branch looks the side up
        obtain ⟨ownSide, hown⟩ := h.side_ok state
        rw [hside] at hown
        simp only [hown]
        repeat' split
        all_goals exact ⟨_, rfl⟩
      · exact ⟨_, if_pos hside⟩
  unfold reconcile
  rw [if_neg (not_not.mpr h.identity.room), if_neg (not_not.mpr h.safeIdentity.symm)]
  split
  · exact ⟨_, rfl⟩
  · exact hformat

/-- For a request and a state that pass all other checks, our side as observed decides. -/
theorem reconcile_of_fits {roomId : String} {request : DecisionRequest} {state : ObservedState}
    {latestRqid : Option Int} {ownSide : SideView} (h : request.WellFormed roomId)
    (hfits : FormatFits request state) (hown : state.side request.sideId = .ok ownSide)
    (hlatest : ∀ latest ∈ latestRqid, latest ≤ request.identity.rqid) :
    reconcile roomId request state latestRqid = .ok (reconcileActive request ownSide) := by
  obtain ⟨gameType, hgameType, hsingles⟩ := hfits.gameType
  obtain ⟨tier, htier, hmatches⟩ := hfits.tier
  have hteam : reconcileTeam request ownSide = reconcileActive request ownSide := by
    have hsize : (ownSide.teamSize.filter fun size => request.teamMemberCount ≠ size) = none := by
      rw [Option.filter_eq_none_iff]
      intro size hsize
      have hknown : state.knownTeamSize request.sideId = some size := by
        simpa only [ObservedState.knownTeamSize, hown] using hsize
      simpa using hfits.teamSize size hknown
    simp only [reconcileTeam, hsize, h.submissions]
  have hformat : reconcileFormat request state = .ok (reconcileActive request ownSide) := by
    have hrange : (1 ≤ request.teamMemberCount && request.teamMemberCount ≤ 6) = true := by
      simpa using h.teamSize
    simp only [reconcileFormat, hfits.side, hfits.generation, hgameType, htier, hmatches, hsingles,
      hrange, hown, hteam, ne_eq, not_true_eq_false, if_false, Bool.not_true, Except.map,
      Bool.false_eq_true]
  have hstale : (latestRqid.filter fun latest => request.identity.rqid < latest) = none := by
    rw [Option.filter_eq_none_iff]
    intro latest hmem
    simpa using hlatest latest hmem
  simp only [reconcile, hstale, hformat]
  rw [if_neg (not_not.mpr h.identity.room), if_neg (not_not.mpr h.safeIdentity.symm)]

/-- A request for the pokemon that is active is accepted. -/
theorem reconcile_of_active {roomId : String} {request : DecisionRequest} {state : ObservedState}
    {latestRqid : Option Int} (h : request.WellFormed roomId) (hfits : FormatFits request state)
    (hlatest : ∀ latest ∈ latestRqid, latest ≤ request.identity.rqid) {nickname : String}
    (hidentity : request.activeIdentity = some nickname)
    (hactive : state.activeNickname request.sideId = some nickname) :
    reconcile roomId request state latestRqid = .ok accepted := by
  obtain ⟨ownSide, hown⟩ := h.side_ok state
  rw [reconcile_of_fits h hfits hown hlatest, reconcileActive]
  simp only [ObservedState.activeNickname, hown, Option.map_eq_some_iff] at hactive
  obtain ⟨pv, hpv, hnickname⟩ := hactive
  simp only [hpv, hidentity, hnickname]
  split_ifs
  · exact absurd rfl ‹_›
  · rfl
  · rfl

/-- A request that needs one pokemon while another one is active is rejected. -/
theorem reconcile_of_otherActive {roomId : String} {request : DecisionRequest}
    {state : ObservedState} {latestRqid : Option Int} (h : request.WellFormed roomId)
    (hfits : FormatFits request state)
    (hlatest : ∀ latest ∈ latestRqid, latest ≤ request.identity.rqid)
    (hneeds : request.kind.needsActive = true) {other nickname : String}
    (hidentity : request.activeIdentity = some nickname)
    (hactive : state.activeNickname request.sideId = some other) (hne : other ≠ nickname) :
    ∃ reason, reconcile roomId request state latestRqid = .ok ⟨.reject, reason⟩ := by
  obtain ⟨ownSide, hown⟩ := h.side_ok state
  rw [reconcile_of_fits h hfits hown hlatest, reconcileActive, if_pos hneeds]
  simp only [ObservedState.activeNickname, hown, Option.map_eq_some_iff] at hactive
  obtain ⟨pv, hpv, hnickname⟩ := hactive
  simp only [hpv, hidentity, hnickname]
  exact ⟨_, congrArg _ (if_pos hne.symm)⟩

/-- A request that needs a pokemon while none is active has to wait. -/
theorem reconcile_of_noneActive {roomId : String} {request : DecisionRequest}
    {state : ObservedState} {latestRqid : Option Int} (h : request.WellFormed roomId)
    (hfits : FormatFits request state)
    (hlatest : ∀ latest ∈ latestRqid, latest ≤ request.identity.rqid)
    (hneeds : request.kind.needsActive = true)
    (hactive : state.activeNickname request.sideId = none) :
    reconcile roomId request state latestRqid = .ok activeNotYetKnown := by
  obtain ⟨ownSide, hown⟩ := h.side_ok state
  rw [reconcile_of_fits h hfits hown hlatest, reconcileActive, if_pos hneeds]
  simp only [ObservedState.activeNickname, hown, Option.map_eq_none_iff] at hactive
  simp only [hactive]

end Database

end BattleBelief
