import BattleBelief.Errors
import Mathlib.Data.List.MinMax

/-!
# Submissions and Decision Requests

What a request may be answered with: battle submissions, the set of those that are safe for one
request, the gate that lets only members of that set through, the default policy that picks one,
and the text that a submission has on the wire.

A `BattleSubmission` carries the checks of its constructor, so that there is no other.
-/

namespace BattleBelief

/-! ## §1 Battle submissions -/

inductive ActionKind where
  | move
  | switch
  | revive
  | team
  | default
  deriving DecidableEq, Repr

def ActionKind.value : ActionKind → String
  | .move => "move"
  | .switch => "switch"
  | .revive => "revive"
  | .team => "team"
  | .default => "default"

inductive ActionProvenance where
  | explicitRequest
  | serverDefault
  deriving DecidableEq, Repr

def ActionProvenance.value : ActionProvenance → String
  | .explicitRequest => "explicit_request"
  | .serverDefault => "server_default"

/-- Showdown identifiers: one to a hundred lower-case letters and digits. -/
def isMoveId (s : String) : Bool :=
  1 ≤ s.toList.length && s.toList.length ≤ 100 &&
    s.toList.all fun c => ('a' ≤ c && c ≤ 'z') || ('0' ≤ c && c ≤ '9')

/-- A slot between 1 and `bound`. -/
def slotWithin (slot : Option Int) (bound : Int) : Bool :=
  slot.any fun n => 1 ≤ n && n ≤ bound

/-- The checks that each kind of submission makes: what must not be, and the complaint. -/
def submissionChecks (kind : ActionKind) (provenance : ActionProvenance) (slot : Option Int)
    (moveId : Option String) (terastallize : Bool) (teamOrder : List Int) :
    List (Bool × String) :=
  match kind with
  | .move =>
      [(!slotWithin slot 4, "move slot must be 1-4"),
        (moveId.isNone || moveId = some "", "move requires move_id"),
        (!teamOrder.isEmpty, "move must not carry team_order"),
        (provenance ≠ .explicitRequest, "move must carry EXPLICIT_REQUEST")]
  | .switch =>
      [(!slotWithin slot 6, "switch slot must be 1-6"),
        (terastallize, "switch must not terastallize"),
        (moveId.isSome, "switch must not carry move_id"),
        (!teamOrder.isEmpty, "switch must not carry team_order"),
        (provenance ≠ .explicitRequest, "switch must carry EXPLICIT_REQUEST")]
  | .revive =>
      [(!slotWithin slot 6, "revive slot must be 1-6"),
        (terastallize, "revive must not terastallize"),
        (moveId.isSome, "revive must not carry move_id"),
        (!teamOrder.isEmpty, "revive must not carry team_order"),
        (provenance ≠ .explicitRequest, "revive must carry EXPLICIT_REQUEST")]
  | .team =>
      [(teamOrder.isEmpty, "team requires non-empty team_order"),
        (!teamOrder.Nodup || teamOrder.any fun n => n < 1 || 6 < n,
          "team_order must contain unique slots from 1 through 6"),
        (slot.isSome, "team must not carry slot"),
        (terastallize, "team must not terastallize"),
        (moveId.isSome, "team must not carry move_id"),
        (provenance ≠ .explicitRequest, "team must carry EXPLICIT_REQUEST")]
  | .default =>
      [(provenance ≠ .serverDefault, "default must carry SERVER_DEFAULT"),
        (slot.isSome, "default must not carry slot"),
        (moveId.isSome, "default must not carry move_id"),
        (terastallize, "default must not terastallize"),
        (!teamOrder.isEmpty, "default must not carry team_order")]

/-- The complaint of the first check of `__post_init__` that fails. -/
def submissionFault (kind : ActionKind) (provenance : ActionProvenance) (slot : Option Int)
    (moveId : Option String) (terastallize : Bool) (teamOrder : List Int) : Option String :=
  let checks :=
    (moveId.any fun text => !isMoveId text, "move_id must be a Showdown identifier or null") ::
      submissionChecks kind provenance slot moveId terastallize teamOrder
  (checks.find? Prod.fst).map Prod.snd

structure BattleSubmission where
  kind : ActionKind
  provenance : ActionProvenance
  slot : Option Int
  moveId : Option String
  terastallize : Bool
  teamOrder : List Int
  /-- No check of the constructor fails -/
  valid : submissionFault kind provenance slot moveId terastallize teamOrder = none
  deriving DecidableEq

/-- The constructor with the checks of its `__post_init__`. -/
def BattleSubmission.create (kind : ActionKind) (provenance : ActionProvenance)
    (slot : Option Int) (moveId : Option String) (terastallize : Bool) (teamOrder : List Int) :
    Except PyException BattleSubmission :=
  match h : submissionFault kind provenance slot moveId terastallize teamOrder with
  | some complaint => .error (.valueError complaint)
  | none => .ok ⟨kind, provenance, slot, moveId, terastallize, teamOrder, h⟩

/-! ## §2 Requests -/

structure RequestIdentity where
  roomId : String
  rqid : Int
  requestDigest : String
  deriving DecidableEq, Repr

structure SafeSubmissionSet where
  requestIdentity : RequestIdentity
  submissions : List BattleSubmission
  deriving DecidableEq

def SafeSubmissionSet.contains (safe : SafeSubmissionSet) (submission : BattleSubmission) : Bool :=
  submission ∈ safe.submissions

inductive RequestKind where
  | move
  | forcedSwitch
  | revival
  | teamPreview
  | wait
  deriving DecidableEq, Repr

def RequestKind.value : RequestKind → String
  | .move => "move"
  | .forcedSwitch => "forced_switch"
  | .revival => "revival"
  | .teamPreview => "team_preview"
  | .wait => "wait"

structure DecisionRequest where
  identity : RequestIdentity
  kind : RequestKind
  sideId : String
  teamMemberCount : Int
  activeIdentity : Option String
  safeSubmissions : SafeSubmissionSet
  isUpdate : Bool
  deriving DecidableEq

/-! ## §3 The action gate -/

section Database

variable [Python.UnicodeDatabase]

/-- A tuple of integers, as `repr` shows it. -/
def reprTuple (values : List Int) : String :=
  match values with
  | [value] => s!"({value},)"
  | values => "(" ++ Python.join ", " (values.map toString) ++ ")"

def reprOption (value : Option String) : String := value.getD "None"

def reprBool (value : Bool) : String := if value then "True" else "False"

def ActionKind.name : ActionKind → String
  | .move => "MOVE"
  | .switch => "SWITCH"
  | .revive => "REVIVE"
  | .team => "TEAM"
  | .default => "DEFAULT"

def ActionProvenance.name : ActionProvenance → String
  | .explicitRequest => "EXPLICIT_REQUEST"
  | .serverDefault => "SERVER_DEFAULT"

def ActionKind.repr (kind : ActionKind) : String :=
  s!"<ActionKind.{kind.name}: {Python.repr kind.value}>"

def ActionProvenance.repr (provenance : ActionProvenance) : String :=
  s!"<ActionProvenance.{provenance.name}: {Python.repr provenance.value}>"

def BattleSubmission.repr (submission : BattleSubmission) : String :=
  s!"BattleSubmission(kind={submission.kind.repr}, provenance={submission.provenance.repr}, "
    ++ s!"slot={reprOption (submission.slot.map toString)}, "
    ++ s!"move_id={reprOption (submission.moveId.map Python.repr)}, "
    ++ s!"terastallize={reprBool submission.terastallize}, "
    ++ s!"team_order={reprTuple submission.teamOrder})"

/-- `ActionSafetyGate.authorize`. -/
def authorize (candidate : BattleSubmission) (candidateRequest : RequestIdentity)
    (latest : SafeSubmissionSet) : Except PyException BattleSubmission :=
  if candidateRequest ≠ latest.requestIdentity then
    .error (.staleRequestIdentity
      s!"candidate rqid={candidateRequest.rqid} != latest rqid={latest.requestIdentity.rqid}")
  else if !latest.contains candidate then
    .error (.localActionGateRejection s!"submission not in SafeSubmissionSet: {candidate.repr}")
  else
    .ok candidate

/-- The gate hands a candidate on unchanged, and only a member of the safe set. -/
theorem authorize_eq_ok {candidate authorized : BattleSubmission} {identity : RequestIdentity}
    {latest : SafeSubmissionSet} (h : authorize candidate identity latest = .ok authorized) :
    authorized = candidate ∧ authorized ∈ latest.submissions := by
  unfold authorize at h
  split_ifs at h with hidentity hcontains
  have hmem : candidate ∈ latest.submissions := by
    simpa [SafeSubmissionSet.contains] using hcontains
  obtain rfl := Except.ok.inj h
  exact ⟨rfl, hmem⟩

/-- For the identity of the set itself, the gate refuses by a rejection only. -/
theorem authorize_eq_error {candidate : BattleSubmission} {latest : SafeSubmissionSet}
    {err : PyException} (h : authorize candidate latest.requestIdentity latest = .error err) :
    ∃ text, err = .localActionGateRejection text := by
  unfold authorize at h
  rw [if_neg (not_not.mpr rfl)] at h
  split_ifs at h
  exact ⟨_, (Except.error.inj h).symm⟩

end Database

/-! ## §4 The heuristic policy -/

/-- The priority of a submission, lowest first: a plain move, a revival, a switch, a team order,
a move with terastallization, and last the default. -/
def priority (submission : BattleSubmission) : Nat :=
  match submission.kind, submission.terastallize with
  | .move, false => 0
  | .revive, _ => 1
  | .switch, _ => 2
  | .team, _ => 3
  | .move, true => 4
  | .default, _ => 5

/-- `HeuristicPolicy.select`: the first submission of the best priority. -/
def heuristicSelect (request : DecisionRequest) : Except PyException BattleSubmission :=
  match request.safeSubmissions.submissions.argmin priority with
  | none => .error (.noLegalActionError "SafeSubmissionSet is empty — no legal action available")
  | some submission => .ok submission

/-- The heuristic policy picks a safe submission whenever there is one. -/
theorem heuristicSelect_mem {request : DecisionRequest}
    (h : request.safeSubmissions.submissions ≠ []) :
    ∃ submission ∈ request.safeSubmissions.submissions,
      heuristicSelect request = .ok submission := by
  cases hmin : request.safeSubmissions.submissions.argmin priority with
  | none => exact absurd (List.argmin_eq_none.mp hmin) h
  | some submission =>
    refine ⟨submission, List.argmin_mem hmin, ?_⟩
    simp only [heuristicSelect, hmin]

/-! ## §5 The command encoder -/

/-- `encode_submission`: the choice string without room prefix and request number. -/
def encodeSubmission (submission : BattleSubmission) : Except PyException String :=
  let slot := reprOption (submission.slot.map toString)
  if submission.kind = .default then .ok "default"
  else if submission.kind = .move then
    if submission.terastallize then .ok s!"move {slot} terastallize" else .ok s!"move {slot}"
  else if submission.kind = .switch || submission.kind = .revive then .ok s!"switch {slot}"
  else if submission.kind = .team then
    .ok ("team " ++ String.join (submission.teamOrder.map toString))
  else .error (.valueError s!"unencodable submission kind: {submission.kind.value}")

/-- Every kind of submission has an encoding. -/
theorem encodeSubmission_ok (submission : BattleSubmission) :
    ∃ text, encodeSubmission submission = .ok text := by
  unfold encodeSubmission
  cases submission.kind with
  | move =>
    cases submission.terastallize with
    | true => exact ⟨_, rfl⟩
    | false => exact ⟨_, rfl⟩
  | _ => exact ⟨_, rfl⟩

end BattleBelief
