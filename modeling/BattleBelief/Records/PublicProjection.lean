import BattleBelief.Actions.Submission
import BattleBelief.Canonicalization
import BattleBelief.Domain.ObservedState

/-!
# Public Projections

The parts of requests, submissions and observed states that may go into a decision record, as JSON
values, and the digests of these. Room, nicknames and user names are left out.
-/

namespace BattleBelief

open Python (Json)

/-! ## §1 Values -/

def optionalJson {α : Type} (project : α → Json) : Option α → Json
  | none => .null
  | some value => project value

def optionalStr (value : Option String) : Json := optionalJson .str value
def optionalInt (value : Option Int) : Json := optionalJson .int value
def strings (values : List String) : Json := .arr (values.map .str)
def integers (values : List Int) : Json := .arr (values.map .int)

/-- `to_showdown_id`. -/
def toShowdownId (value : String) : String :=
  String.ofList ((Python.lower value).toList.filter fun c => Python.isAscii c && c.isAlphanum)

/-! ## §2 Requests and submissions -/

/-- A request identity without its room, as a decision record keeps it. -/
structure PublicRequestIdentity where
  rqid : Int
  requestDigest : String
  /-- The request number is a safe integer of JSON -/
  safe : 0 ≤ rqid ∧ rqid ≤ maxSafeInteger
  digest : isDigest requestDigest = true

theorem PublicRequestIdentity.ext_iff {first second : PublicRequestIdentity} :
    first = second ↔ first.rqid = second.rqid ∧ first.requestDigest = second.requestDigest := by
  cases first
  cases second
  exact PublicRequestIdentity.mk.injEq .. ▸ Iff.rfl

instance : DecidableEq PublicRequestIdentity :=
  fun _ _ => decidable_of_iff _ PublicRequestIdentity.ext_iff.symm

/-- `PublicRequestIdentity.from_internal`, with the checks of `__post_init__`. -/
def PublicRequestIdentity.fromInternal (identity : RequestIdentity) :
    Except PyException PublicRequestIdentity :=
  if hsafe : 0 ≤ identity.rqid ∧ identity.rqid ≤ maxSafeInteger then
    if hdigest : isDigest identity.requestDigest = true then
      .ok ⟨identity.rqid, identity.requestDigest, hsafe, hdigest⟩
    else .error (.valueError "request_digest must be a sha256 digest")
  else .error (.valueError "rqid must be a JCS-safe non-negative integer")

/-- What is public of an identity is its number and its digest. -/
theorem PublicRequestIdentity.fromInternal_eq_ok {identity : RequestIdentity}
    {publicIdentity : PublicRequestIdentity} :
    PublicRequestIdentity.fromInternal identity = .ok publicIdentity ↔
      publicIdentity.rqid = identity.rqid ∧
        publicIdentity.requestDigest = identity.requestDigest := by
  obtain ⟨rqid, requestDigest, hsafe, hdigest⟩ := publicIdentity
  unfold PublicRequestIdentity.fromInternal
  constructor
  · intro h
    split_ifs at h with hs hd
    have heq := Except.ok.inj h
    exact ⟨(congrArg PublicRequestIdentity.rqid heq).symm,
      (congrArg PublicRequestIdentity.requestDigest heq).symm⟩
  · rintro ⟨rfl, rfl⟩
    rw [dif_pos hsafe, dif_pos hdigest]

/-- `project_request_identity` of an internal identity. -/
def projectRequestIdentity (identity : RequestIdentity) : Except PyException Json := do
  let publicIdentity ← PublicRequestIdentity.fromInternal identity
  pure (.obj [("rqid", .int publicIdentity.rqid),
    ("request_digest", .str publicIdentity.requestDigest)])

def projectBattleSubmission (submission : BattleSubmission) : Json :=
  .obj [("kind", .str submission.kind.value),
    ("provenance", .str submission.provenance.value),
    ("slot", optionalInt submission.slot),
    ("move_id", optionalStr submission.moveId),
    ("terastallize", .bool submission.terastallize),
    ("team_order", integers submission.teamOrder)]

/-- `project_safe_submission_set`: the order of the submissions is kept. -/
def projectSafeSubmissionSet (safe : SafeSubmissionSet) : Except PyException Json := do
  let identity ← projectRequestIdentity safe.requestIdentity
  pure (.obj [("request_identity", identity),
    ("submissions", .arr (safe.submissions.map projectBattleSubmission))])

/-! ## §3 Pokemon and sides -/

def HpPrecision.value : HpPrecision → String
  | .exact => "exact"
  | .percent => "percent"
  | .pixel => "pixel"

def projectInterval (interval : EvidenceInterval) : Json :=
  .obj [("value", optionalStr interval.value),
    ("source_event_index", .int interval.sourceEventIndex),
    ("valid_from", .int interval.validFrom),
    ("valid_until", optionalInt interval.validUntil)]

def projectHp (hp : HpObservation) : Json :=
  .obj [("current", .int hp.current),
    ("maximum", .int hp.maximum),
    ("precision", .str hp.precision.value),
    ("fainted", .bool hp.fainted)]

def projectPreview (item : PreviewPokemon) : Json :=
  .obj [("details", .str item.details), ("has_item", .bool item.hasItem)]

def projectPokemon (item : PokemonView) : Json :=
  .obj [("identity_intervals", .arr (item.identityIntervals.map projectInterval)),
    ("preview_details", optionalStr item.previewDetails),
    ("current_details", optionalStr item.currentDetails),
    ("active", .bool item.active),
    ("hp", optionalJson projectHp item.hp),
    ("status", optionalStr item.status),
    ("fainted", .bool item.fainted),
    ("revealed_moves", strings item.revealedMoves),
    ("item_intervals", .arr (item.itemIntervals.map projectInterval)),
    ("ability_intervals", .arr (item.abilityIntervals.map projectInterval)),
    ("tera_type", optionalStr item.teraType),
    ("boosts", integers item.boosts),
    ("volatiles", strings item.volatiles),
    ("recharging", .bool item.recharging),
    ("transformed", .bool item.transformTarget.isSome)]

def projectSide (side : SideView) : Json :=
  .obj [("side_id", .str side.sideId),
    ("team_size", optionalInt side.teamSize),
    ("preview_roster", .arr (side.previewRoster.map projectPreview)),
    ("active_slot", optionalInt side.activeSlot),
    ("pokemon", .arr (side.pokemon.map projectPokemon)),
    ("side_conditions", .arr (side.sideConditions.map fun (condition, count) =>
      .obj [("condition", .str condition), ("count", .int count)]))]

/-- `_winner_projection`. -/
def winnerProjection (state : ObservedState) : Option String :=
  if state.tied then some "tie"
  else
    state.winner.bind fun winner =>
      let winnerId := toShowdownId winner
      if winnerId = toShowdownId state.ourUserId then some "our_side"
      else
        let side := [state.p1, state.p2].find? fun side =>
          side.userId.any fun userId => winnerId = toShowdownId userId
        side.map fun side =>
          if some side.sideId = state.ourSide then "our_side" else "opponent_side"

/-! ## §4 Evidence -/

def annotationTypes : List String :=
  ["already", "from", "of", "silent", "still", "upkeep", "wisher"]

def effectTypes : List String := ["ability", "condition", "item", "move"]

/-- The side and slot that an annotation names with a pokemon. -/
def annotationTarget (target : String) : List (String × Json) :=
  match Python.splitOnce target ": " with
  | none => []
  | some (position, _) =>
      if position = "p1a" then [("side_id", .str "p1"), ("slot", .int 1)]
      else if position = "p2a" then [("side_id", .str "p2"), ("slot", .int 1)]
      else []

/-- `_project_annotation`. -/
def projectAnnotation ( annotation : String) : Json :=
  match annotation.toList with
  | '[' :: rest =>
      match Python.splitOnce (String.ofList rest) "]" with
      | none => .obj [("type", .str "unknown")]
      | some (label, remainder) =>
          let normalizedLabel := toShowdownId label
          let type := if normalizedLabel ∈ annotationTypes then normalizedLabel else "unknown"
          .obj (("type", .str type) :: annotationTarget (Python.strip remainder))
  | _ => .obj [("type", .str "unknown")]

section Database

variable [Python.UnicodeDatabase]

/-- What is public of the effect of an evidence: a hit count, or the type of the effect. -/
def projectEffect (evidence : VisibleEvidence) : List (String × Json) :=
  let effect := evidence.effect.getD ""
  if evidence.kind = "hitcount" then
    match Python.int effect with
    | some hitCount =>
        if 0 ≤ hitCount ∧ hitCount ≤ maxSafeInteger then [("hit_count", .int hitCount)] else []
    | none => []
  else if evidence.kind ∈ ["activate", "block", "prepare", "fieldactivate"] then
    match Python.splitOnce effect ":" with
    | some (effectType, effectValue) =>
        let normalizedType := toShowdownId effectType
        let normalizedValue := toShowdownId (Python.strip effectValue)
        if normalizedType ∈ effectTypes && normalizedValue ≠ "" then
          [("effect_type", .str normalizedType)]
        else []
    | none => []
  else []

/-- `_project_visible_evidence`. -/
def projectVisibleEvidence (evidence : VisibleEvidence) : Json :=
  let annotations :=
    if evidence.annotations.isEmpty then []
    else [("annotations", Json.arr (evidence.annotations.map projectAnnotation))]
  .obj ([("event_index", .int evidence.eventIndex),
    ("kind", .str evidence.kind),
    ("side_id", optionalStr evidence.sideId),
    ("slot", optionalInt evidence.slot)] ++ projectEffect evidence ++ annotations)

/-! ## §5 The state -/

def projectObservedState (state : ObservedState) : Json :=
  .obj [("event_index", .int state.eventIndex),
    ("room_initialized", .bool state.roomInitialized),
    ("generation", optionalInt state.generation),
    ("game_type", optionalStr state.gameType),
    ("tier", optionalStr state.tier),
    ("rated", optionalJson .bool state.rated),
    ("rules", strings state.rules),
    ("turn", .int state.turn),
    ("battle_started", .bool state.battleStarted),
    ("team_preview_started", .bool state.teamPreviewStarted),
    ("winner", optionalStr (winnerProjection state)),
    ("tied", .bool state.tied),
    ("our_side", optionalStr state.ourSide),
    ("p1", projectSide state.p1),
    ("p2", projectSide state.p2),
    ("weather", optionalStr state.weather),
    ("field_conditions", strings state.fieldConditions),
    ("visible_evidence", .arr (state.visibleEvidence.map projectVisibleEvidence)),
    ("ignored_display_count", .int state.ignoredDisplayCount)]

variable [Rfc8785]

/-- `observed_state_digest`. -/
def observedStateDigest (state : ObservedState) : Except PyException String :=
  manifestDigest (projectObservedState state)

end Database

/-! ## §6 Digests of requests -/

variable [Rfc8785]

/-- `safe_submission_set_digest`. -/
def safeSubmissionSetDigest (safe : SafeSubmissionSet) : Except PyException String := do
  let projection ← projectSafeSubmissionSet safe
  manifestDigest projection

/-- A digest of a safe set is one, and there is one only for a public identity. -/
theorem safeSubmissionSetDigest_eq_ok {safe : SafeSubmissionSet} {digest : String}
    (h : safeSubmissionSetDigest safe = .ok digest) :
    isDigest digest = true ∧
      ∃ identity, PublicRequestIdentity.fromInternal safe.requestIdentity = .ok identity := by
  cases hidentity : PublicRequestIdentity.fromInternal safe.requestIdentity with
  | error err =>
    simp [safeSubmissionSetDigest, projectSafeSubmissionSet, projectRequestIdentity, hidentity,
      bind, Except.bind] at h
  | ok identity =>
    simp only [safeSubmissionSetDigest, projectSafeSubmissionSet, projectRequestIdentity,
      hidentity, bind, Except.bind, pure, Except.pure] at h
    exact ⟨isDigest_of_manifestDigest h, identity, rfl⟩

end BattleBelief
