import BattleBelief.Engine.StateMapper
import BattleBelief.Session.RequestBeforeSwitch

/-!
# Format Gates

The reconciler and the state mapper both check the format of a battle, each with its own literals.
`format_gates_agree_iff` says for which of the states that the reconciler accepts the mapper finds
nothing wrong with the format.
-/

namespace BattleBelief

section Gates

variable [Python.UnicodeDatabase]

/-! ## §1 What the reconciler has checked -/

/-- What an accepted request says about the observed state. -/
theorem reconcileFormat_accepted {request : DecisionRequest} {state : ObservedState}
    {result : ReconciliationResult} (h : reconcileFormat request state = .ok result)
    (haccept : result.status = .accept) :
    state.generation = some 9 ∧ ∃ ourSide ownSide, state.ourSide = some ourSide ∧
      state.side ourSide = .ok ownSide := by
  -- every answer that is given without a look at our side is no acceptance
  have hother : ∀ {answer : ReconciliationResult}, answer.status ≠ .accept →
      (.ok answer : Except PyException ReconciliationResult) ≠ .ok result :=
    fun hstatus heq => hstatus (Except.ok.inj heq ▸ haccept)
  unfold reconcileFormat at h
  split at h
  · exact absurd h (hother (by decide))
  next ourSide hourSide =>
  split at h
  · exact absurd h (hother (by simp))
  split at h
  · exact absurd h (hother (by decide))
  next generation hgeneration =>
  split at h
  · exact absurd h (hother (by simp))
  next hnine =>
  have hsome : state.generation = some 9 := by
    rw [hgeneration, not_not.mp hnine]
  split at h
  · exact absurd h (hother (by decide))
  split at h
  · exact absurd h (hother (by simp))
  split at h
  · exact absurd h (hother (by decide))
  split at h
  · exact absurd h (hother (by simp))
  split at h
  · exact absurd h (hother (by simp))
  obtain ⟨ownSide, hown, -⟩ := Runs.map_eq_ok.mp h
  exact ⟨hsome, ourSide, ownSide, hourSide, hown⟩

theorem reconcile_accepted {roomId : String} {request : DecisionRequest} {state : ObservedState}
    {latestRqid : Option Int} {result : ReconciliationResult}
    (h : reconcile roomId request state latestRqid = .ok result)
    (haccept : result.status = .accept) :
    state.generation = some 9 ∧ ∃ ourSide ownSide, state.ourSide = some ourSide ∧
      state.side ourSide = .ok ownSide := by
  unfold reconcile at h
  split_ifs at h with hroom hidentity
  · rw [← Except.ok.inj h] at haccept
    cases haccept
  · rw [← Except.ok.inj h] at haccept
    cases haccept
  · split at h
    · rw [← Except.ok.inj h] at haccept
      cases haccept
    · exact reconcileFormat_accepted h haccept

omit [Python.UnicodeDatabase] in
/-- A side of the battle belongs to a player. -/
theorem Player.ofSide_isSome {state : ObservedState} {sideId : String} {side : SideView}
    (h : state.side sideId = .ok side) : (Player.ofSide (some sideId)).isSome := by
  unfold ObservedState.side at h
  split_ifs at h with hone htwo
  · rw [hone]
    rfl
  · rw [htwo]
    rfl

/-! ## §2 The gate of the state mapper -/

/-- The mapper finds the format of a state unsupported. -/
def FormatRejected [Rfc8785] (state : ObservedState) : Prop :=
  mapObservedRoot state = .error (.stateMappingError MappingFailureClass.unsupportedMapping.value)

/-- **Format gates.** Of the states that the reconciler accepts, of a battle that has been
initialized and started, the state mapper does not reject exactly those whose game type and tier are
the literals `singles` and `gen9ou`: it compares without the normalization of the reconciler. -/
theorem format_gates_agree_iff [Rfc8785] (roomId : String) (request : DecisionRequest)
    (state : ObservedState) (latestRqid : Option Int) (result : ReconciliationResult)
    (hresult : reconcile roomId request state latestRqid = .ok result)
    (haccept : result.status = .accept) (hinitialized : state.roomInitialized = true)
    (hstarted : state.battleStarted = true) :
    ¬FormatRejected state ↔ state.gameType = some "singles" ∧ state.tier = some "gen9ou" := by
  obtain ⟨hgeneration, ourSide, ownSide, hourSide, hown⟩ := reconcile_accepted hresult haccept
  obtain ⟨rootPlayer, hplayer⟩ := Option.isSome_iff_exists.mp (Player.ofSide_isSome hown)
  unfold FormatRejected mapObservedRoot
  constructor
  · intro hnot
    by_contra hformat
    apply hnot
    rw [if_pos]
    by_cases hsingles : state.gameType = some "singles"
    · have htier : state.tier ≠ some "gen9ou" := fun htier => hformat ⟨hsingles, htier⟩
      simp [htier]
    · simp [hsingles]
  · rintro ⟨hsingles, htier⟩
    rw [if_neg (by simp [hgeneration, hsingles, htier, hinitialized, hstarted]), hourSide, hplayer]
    intro hrejected
    -- past the gate only the digest can fail, and not like this
    simp only [bind, Except.bind, pure, Except.pure] at hrejected
    split at hrejected
    · next error hdigest =>
      have herror : error = .valueError := by
        unfold Digest.manifest at hdigest
        split at hdigest
        · cases hdigest
        · exact (Except.error.inj hdigest).symm
      rw [herror] at hrejected
      cases hrejected
    · cases hrejected

end Gates

/-- The tier that the server announces, and the only one with which a battle is handed over. -/
theorem announced_tier_rejected :
    letI := Python.asciiDatabase
    letI := garchompDecoder
    letI := compactCanonicalizer
    let state := ((BattleSession.initial (ObservedState.initial "ash")).feedAll heuristicEnvironment
      (metadata ++ [garchompEnters])).state
    state.roomInitialized = true ∧ state.battleStarted = true ∧
      reconcile "battle-gen9ou-1" garchompRequest state none = .ok accepted ∧
      state.tier = some "[Gen 9] OU" ∧ FormatRejected state := by
  let _ := Python.asciiDatabase
  let _ := garchompDecoder
  let _ := compactCanonicalizer
  intro state
  have hevaluates : (state.roomInitialized = true ∧ state.battleStarted = true) ∧
      reconcile "battle-gen9ou-1" garchompRequest state none = .ok accepted ∧
        state.tier = some "[Gen 9] OU" := by
    unfold state
    decide +kernel
  obtain ⟨⟨hinitialized, hstarted⟩, haccepts, htier⟩ := hevaluates
  refine ⟨hinitialized, hstarted, haccepts, htier, ?_⟩
  have hother : state.tier ≠ some "gen9ou" := by
    rw [htier]
    decide
  unfold FormatRejected mapObservedRoot
  rw [if_pos]
  simp [hother]

/-- The same state under the tier of the mapper. -/
theorem literal_tier_mapped :
    letI := Python.asciiDatabase
    letI := garchompDecoder
    letI := compactCanonicalizer
    let reached := ((BattleSession.initial (ObservedState.initial "ash")).feedAll
      heuristicEnvironment (metadata ++ [garchompEnters])).state
    let state := { reached with tier := some "gen9ou" }
    ¬FormatRejected state ↔ state.gameType = some "singles" ∧ state.tier = some "gen9ou" := by
  let _ := Python.asciiDatabase
  let _ := garchompDecoder
  let _ := compactCanonicalizer
  intro reached state
  have hevaluates : (state.roomInitialized = true ∧ state.battleStarted = true) ∧
      reconcile "battle-gen9ou-1" garchompRequest state none = .ok accepted := by
    unfold state reached
    decide +kernel
  exact format_gates_agree_iff "battle-gen9ou-1" garchompRequest state none accepted hevaluates.2
    rfl hevaluates.1.1 hevaluates.1.2

end BattleBelief
