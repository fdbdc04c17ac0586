import BattleBelief.Actions.Reconciler
import BattleBelief.Library.Outcomes

/-!
# The Request Reader

`readRequest` turns the JSON text of one `|request|` line into a decision request with the set of
all submissions that are safe for it. The kind of the request is found in a fixed order: wait,
team preview, revival, forced switch, and last the normal move.

`readRequest_wellFormed` says what every request agrees with itself on; the reconciler need not
look at it again.
-/

namespace BattleBelief

open Outcomes
open Python (Json)

/-! ## §1 JSON fields -/

/-- How `json.loads` fails: on a text that is not JSON, or in some other way. -/
inductive JsonFailure where
  | decodeError (text : String)
  | raised (err : PyException)

/-- `json.loads`. -/
class JsonDecoder where
  loads : String → Except JsonFailure Json

/-- The members of an object. -/
abbrev Members := List (String × Json)

/-- `payload.get(key)`. -/
def Members.get (payload : Members) (key : String) : Json := (Json.get? payload key).getD .null

def malformed {α : Type} (text : String) : Except PyException α :=
  .error (.malformedProtocolMessage text)

def mismatch {α : Type} (text : String) : Except PyException α :=
  .error (.requestStateReconciliationMismatch text)

/-- `_canonical_digest`, with its prefix. -/
def canonicalDigest (payload : Members) : String :=
  sha256Digest (Python.encodeUtf8 (Json.dumps (.obj payload)))

def requireObject (value : Json) (context : String) : Except PyException Members :=
  match value with
  | .obj members => .ok members
  | _ => malformed s!"{context} must be an object"

/-- `_require_string`. -/
def requireString (value : Json) (context : String) : Except PyException String :=
  match value with
  | .str text =>
      if text = "" then malformed s!"{context} must be a non-empty string" else .ok text
  | _ => malformed s!"{context} must be a non-empty string"

/-- `_require_string_value`: the string may be empty. -/
def requireStringValue (value : Json) (context : String) : Except PyException String :=
  match value with
  | .str text => .ok text
  | _ => malformed s!"{context} must be a string"

def requireBool (value : Json) (context : String) : Except PyException Bool :=
  match value with
  | .bool b => .ok b
  | _ => malformed s!"{context} must be a boolean"

def requireList (value : Json) (complaint : String) : Except PyException (List Json) :=
  match value with
  | .arr items => .ok items
  | _ => malformed complaint

/-- `_optional_bool`, with the default `False`. -/
def optionalBool (payload : Members) (key : String) : Except PyException Bool :=
  match Json.get? payload key with
  | none => .ok false
  | some value => requireBool value key

/-- Checks a field where it is present. -/
def checkOptional {α : Type} (payload : Members) (key : String)
    (check : Json → Except PyException α) : Except PyException Unit :=
  match Json.get? payload key with
  | none => .ok ()
  | some value => (check value).map fun _ => ()

def requireStringList (value : Json) (context : String) : Except PyException (List String) := do
  let items ← requireList value s!"{context} must be a list"
  items.zipIdx.mapM fun (item, index) =>
    match item with
    | .str text => .ok text
    | _ => malformed s!"{context}[{index}] must be a string"

/-- `isinstance(value, int) and not isinstance(value, bool) and value >= 0`. -/
def isNonNegative : Json → Bool
  | .int n => 0 ≤ n
  | _ => false

section Database

variable [Python.UnicodeDatabase]

def requireRqid (payload : Members) : Except PyException Int :=
  match Json.get? payload "rqid" with
  | none => mismatch "request missing rqid"
  | some (.int n) => if 0 ≤ n then .ok n else mismatch s!"invalid rqid: {n}"
  | some value => mismatch s!"invalid rqid: {value.repr}"

/-! ## §2 The side of a request -/

structure RequestPokemon where
  ident : String
  details : String
  condition : String
  active : Bool
  reviving : Bool

/-- `_pokemon_fainted`. -/
def pokemonFainted (condition : String) : Bool :=
  Python.endsWith (Python.rstrip condition) " fnt" || Python.strip condition = "0 fnt"

def invalidRequestIdent {α : Type} (ident : String) : Except PyException α :=
  malformed s!"invalid pokemon ident: {Python.repr ident}"

/-- `_nickname_from_ident`. -/
def nicknameFromIdent (ident : String) : Except PyException String :=
  match Python.splitOnce ident ": " with
  | none => invalidRequestIdent ident
  | some (_, nickname) => if nickname = "" then invalidRequestIdent ident else .ok nickname

/-- `_parse_request_pokemon`. -/
def parseRequestPokemon (sideId : String) (value : Json) (index : Nat) :
    Except PyException RequestPokemon := do
  let context := s!"side.pokemon[{index}]"
  let entry ← requireObject value context
  let ident ← requireString (entry.get "ident") s!"{context}.ident"
  let (identSide, nickname) := (Python.splitOnce ident ": ").getD (ident, "")
  if identSide ≠ sideId || nickname = "" then invalidRequestIdent ident
  let details ← requireString (entry.get "details") s!"{context}.details"
  let condition ← requireString (entry.get "condition") s!"{context}.condition"
  let active ← requireBool (entry.get "active") s!"{context}.active"
  let reviving ←
    match Json.get? entry "reviving" with
    | none => .ok false
    | some value => requireBool value s!"{context}.reviving"
  checkOptional entry "item" fun value => requireStringValue value s!"{context}.item"
  checkOptional entry "ability" fun value => requireStringValue value s!"{context}.ability"
  checkOptional entry "moves" fun value => requireStringList value s!"{context}.moves"
  pure { ident, details, condition, active, reviving }

/-- The pokemon list of a side: one to six entries. -/
def requireTeam (value : Json) : Except PyException (List Json) := do
  let items ← requireList value "side.pokemon must be a list"
  if 1 ≤ items.length && items.length ≤ 6 then pure items
  else malformed "side.pokemon must contain 1-6 entries"

def requireSideId (value : Json) : Except PyException String := do
  let sideId ← requireString value "side.id"
  if sideId = "p1" || sideId = "p2" then pure sideId
  else malformed s!"invalid side.id: {Python.repr sideId}"

/-- `_parse_side`. -/
def parseSide (value : Json) : Except PyException (String × List RequestPokemon) := do
  let side ← requireObject value "side"
  let sideId ← requireSideId (side.get "id")
  checkOptional side "name" fun value => requireString value "side.name"
  let items ← requireTeam (side.get "pokemon")
  let pokemon ← items.zipIdx.mapM fun (entry, index) => parseRequestPokemon sideId entry index
  if 1 < pokemon.countP fun member => member.active then
    malformed "Singles request cannot contain multiple active pokemon"
  else pure (sideId, pokemon)

/-! ## §3 The active part of a request -/

structure RequestMove where
  moveId : String
  disabled : Bool

structure ActiveRequest where
  moves : List RequestMove
  canTerastallize : String
  trapped : Bool
  maybeTrapped : Bool
  maybeDisabled : Bool
  maybeLocked : Bool

/-- `_parse_force_switch`. -/
def parseForceSwitch (payload : Members) : Except PyException (Option Bool) :=
  match Json.get? payload "forceSwitch" with
  | none => .ok none
  | some (.arr [value]) => (requireBool value "forceSwitch[0]").map some
  | some _ => malformed "forceSwitch must be a singles boolean array"

/-- `_validate_active_shape`. -/
def validateActiveShape (value : Json) : Except PyException Members :=
  match value with
  | .arr [entry] => requireObject entry "active[0]"
  | _ => malformed "active must be a singles array with one entry"

/-- A move is disabled by a flag, or by a reason that is not empty. -/
def parseDisabled (move : Members) (context : String) : Except PyException Bool :=
  match Json.get? move "disabled" with
  | none => .ok false
  | some (.bool b) => .ok b
  | some (.str text) => .ok (text ≠ "")
  | some _ => malformed s!"{context}.disabled must be a boolean or string"

def parseRequestMove (value : Json) (index : Nat) : Except PyException RequestMove := do
  let context := s!"active[0].moves[{index}]"
  let move ← requireObject value context
  let moveId ← requireString (move.get "id") s!"{context}.id"
  let disabled ← parseDisabled move context
  checkOptional move "move" fun value => requireString value s!"{context}.move"
  checkOptional move "target" fun value => requireString value s!"{context}.target"
  let points (key : String) (value : Json) : Except PyException Unit :=
    if isNonNegative value then .ok ()
    else malformed s!"{context}.{key} must be a non-negative integer"
  checkOptional move "pp" (points "pp")
  checkOptional move "maxpp" (points "maxpp")
  pure { moveId, disabled }

/-- `active_info.get("canTerastallize", "")`, a string. -/
def parseCanTerastallize (activeInfo : Members) : Except PyException String :=
  match Json.get? activeInfo "canTerastallize" with
  | none => .ok ""
  | some value => requireStringValue value "active[0].canTerastallize"

/-- The move list of the active pokemon: one to four entries. -/
def requireMoves (value : Json) : Except PyException (List Json) := do
  let items ← requireList value "active[0].moves must be a list"
  if 1 ≤ items.length && items.length ≤ 4 then pure items
  else malformed "active[0].moves must contain 1-4 entries"

/-- `_parse_active_request`. -/
def parseActiveRequest (payload : Members) : Except PyException ActiveRequest := do
  let activeInfo ← validateActiveShape (payload.get "active")
  let items ← requireMoves (activeInfo.get "moves")
  let moves ← items.zipIdx.mapM fun (value, index) => parseRequestMove value index
  let canTerastallize ← parseCanTerastallize activeInfo
  let trapped ← optionalBool activeInfo "trapped"
  let maybeTrapped ← optionalBool activeInfo "maybeTrapped"
  let maybeDisabled ← optionalBool activeInfo "maybeDisabled"
  let maybeLocked ← optionalBool activeInfo "maybeLocked"
  pure { moves, canTerastallize, trapped, maybeTrapped, maybeDisabled, maybeLocked }

/-! ## §4 Safe submissions -/

/-- `_default_submission`. -/
def defaultSubmission : BattleSubmission where
  kind := .default
  provenance := .serverDefault
  slot := none
  moveId := none
  terastallize := false
  teamOrder := []
  valid := by decide

/-- A submission of `kind` for one of our slots. -/
def slotSubmission (kind : ActionKind) (slot : Nat) : Except PyException BattleSubmission :=
  BattleSubmission.create kind .explicitRequest (some slot) none false []

def teamSubmission (teamOrder : List Int) : Except PyException BattleSubmission :=
  BattleSubmission.create .team .explicitRequest none none false teamOrder

def moveSubmission (slot : Nat) (moveId : String) (terastallize : Bool) :
    Except PyException BattleSubmission :=
  BattleSubmission.create .move .explicitRequest (some slot) (some moveId) terastallize []

/-- The slots, from 1, of the pokemon with `p`. -/
def slotsWhere (p : RequestPokemon → Bool) (pokemon : List RequestPokemon) : List Nat :=
  (pokemon.zipIdx 1).filterMap fun (member, slot) => if p member then some slot else none

/-- The slots that a switch may name. -/
def healthySlots (pokemon : List RequestPokemon) : List Nat :=
  slotsWhere (fun member => !member.active && !pokemonFainted member.condition) pokemon

/-- The slots that a revival may name. -/
def faintedSlots (pokemon : List RequestPokemon) : List Nat :=
  slotsWhere (fun member => !member.active && pokemonFainted member.condition) pokemon

/-- Each element with the others, in order. -/
def picks {α : Type} : List α → List (α × List α)
  | [] => []
  | x :: xs => (x, xs) :: (picks xs).map fun (y, rest) => (y, x :: rest)

/-- `itertools.permutations`, for a list of length `n`. -/
def permutations {α : Type} : Nat → List α → List (List α)
  | 0, _ => [[]]
  | n + 1, xs => (picks xs).flatMap fun (x, rest) => (permutations n rest).map (x :: ·)

/-- `tuple(range(1, count + 1))`. -/
def slotRange (count : Nat) : List Int := (List.range' 1 count).map Int.ofNat

/-- The submissions for one move, with and without terastallization. -/
def moveSubmissions (canTera : Bool) (move : RequestMove) (slot : Nat) :
    Except PyException (List BattleSubmission) :=
  if move.disabled then .ok []
  else do
    let plain ← moveSubmission slot move.moveId false
    if canTera then
      let tera ← moveSubmission slot move.moveId true
      pure [plain, tera]
    else pure [plain]

/-! ## §5 Kinds of requests -/

/-- A request for the side of `pokemon`; the last submission is the default. -/
def decisionRequest (identity : RequestIdentity) (kind : RequestKind) (sideId : String)
    (pokemon : List RequestPokemon) (activeIdentity : Option String)
    (submissions : List BattleSubmission) (isUpdate : Bool) : DecisionRequest where
  identity := identity
  kind := kind
  sideId := sideId
  teamMemberCount := pokemon.length
  activeIdentity := activeIdentity
  safeSubmissions := ⟨identity, submissions⟩
  isUpdate := isUpdate

/-- `data.get("maxChosenTeamSize", team_size)`, which must be the team size. -/
def requireFullTeam (payload : Members) (teamSize : Nat) : Except PyException Unit :=
  match (Json.get? payload "maxChosenTeamSize").getD (.int teamSize) with
  | .int maxChosen =>
      if maxChosen < 1 then malformed s!"invalid maxChosenTeamSize: {maxChosen}"
      else if maxChosen ≠ teamSize then
        mismatch ("Bring-N team preview is outside the Gen9 OU scope: "
          ++ s!"{maxChosen} of {teamSize}")
      else .ok ()
  | value => malformed s!"invalid maxChosenTeamSize: {value.repr}"

/-- `_read_team_preview`. -/
def readTeamPreview (identity : RequestIdentity) (sideId : String)
    (pokemon : List RequestPokemon) (payload : Members) : Except PyException DecisionRequest := do
  let teamSize := pokemon.length
  requireFullTeam payload teamSize
  let orders ← (permutations teamSize (slotRange teamSize)).mapM teamSubmission
  pure (decisionRequest identity .teamPreview sideId pokemon none
    (orders ++ [defaultSubmission]) false)

/-- `_read_revival`. -/
def readRevival (identity : RequestIdentity) (sideId : String) (pokemon : List RequestPokemon)
    (activeIdentity : Option String) (isUpdate : Bool) : Except PyException DecisionRequest := do
  let revivals ← (faintedSlots pokemon).mapM (slotSubmission .revive)
  pure (decisionRequest identity .revival sideId pokemon activeIdentity
    (revivals ++ [defaultSubmission]) isUpdate)

/-- `_read_forced_switch`. -/
def readForcedSwitch (identity : RequestIdentity) (sideId : String)
    (pokemon : List RequestPokemon) (activeIdentity : Option String) (isUpdate : Bool) :
    Except PyException DecisionRequest := do
  let switches ← (healthySlots pokemon).mapM (slotSubmission .switch)
  pure (decisionRequest identity .forcedSwitch sideId pokemon activeIdentity
    (switches ++ [defaultSubmission]) isUpdate)

/-- The moves and switches that a normal move request offers. -/
def normalSubmissions (activeRequest : ActiveRequest) (pokemon : List RequestPokemon) :
    Except PyException (List BattleSubmission) :=
  -- the server does not say what is possible, so the choice is left to it
  if activeRequest.maybeDisabled || activeRequest.maybeLocked then .ok []
  else do
    let canTera := activeRequest.canTerastallize ≠ ""
    let moves ← (activeRequest.moves.zipIdx 1).mapM fun (move, slot) =>
      moveSubmissions canTera move slot
    let trapped := activeRequest.trapped || activeRequest.maybeTrapped
    let slots := if trapped then [] else healthySlots pokemon
    let switches ← slots.mapM (slotSubmission .switch)
    pure (moves.flatten ++ switches)

/-- `_read_normal_move`. -/
def readNormalMove (identity : RequestIdentity) (sideId : String) (pokemon : List RequestPokemon)
    (activeIdentity : Option String) (payload : Members) (isUpdate : Bool) :
    Except PyException DecisionRequest := do
  let activeRequest ← parseActiveRequest payload
  let submissions ← normalSubmissions activeRequest pokemon
  pure (decisionRequest identity .move sideId pokemon activeIdentity
    (submissions ++ [defaultSubmission]) isUpdate)

/-! ## §6 The reader -/

/-- The flags that decide the kind of a request. -/
structure RequestFlags where
  wait : Bool
  teamPreview : Bool
  update : Bool
  forceSwitch : Option Bool

/-- Reads the flags, and checks the shape of `active` where it is present. -/
def readFlags (payload : Members) : Except PyException RequestFlags := do
  let wait ← optionalBool payload "wait"
  let teamPreview ← optionalBool payload "teamPreview"
  let update ← optionalBool payload "update"
  let forceSwitch ← parseForceSwitch payload
  checkOptional payload "active" validateActiveShape
  pure { wait, teamPreview, update, forceSwitch }

/-- The nickname of the active pokemon, if one of the team is active. -/
def readActiveIdentity : Option RequestPokemon → Except PyException (Option String)
  | none => .ok none
  | some activePv => (nicknameFromIdent activePv.ident).map some

/-- Reads the request once its kind can be told. -/
def readKind (identity : RequestIdentity) (flags : RequestFlags) (sideId : String)
    (pokemon : List RequestPokemon) (activePv : Option RequestPokemon)
    (activeIdentity : Option String) (payload : Members) : Except PyException DecisionRequest :=
  if flags.wait then .ok (decisionRequest identity .wait sideId pokemon none [] false)
  else if flags.teamPreview then readTeamPreview identity sideId pokemon payload
  else if activePv.any fun member => member.reviving then
    readRevival identity sideId pokemon activeIdentity flags.update
  else if flags.forceSwitch = some true then
    readForcedSwitch identity sideId pokemon activeIdentity flags.update
  else readNormalMove identity sideId pokemon activeIdentity payload flags.update

variable [JsonDecoder]

/-- Decodes the payload, which must be an object. -/
def loadRequest (payload : String) : Except PyException Members :=
  match JsonDecoder.loads payload with
  | .error (.decodeError text) => malformed s!"invalid request json: {text}"
  | .error (.raised err) => .error err
  | .ok (.obj members) => .ok members
  | .ok _ => malformed "request json must be an object"

/-- `read_request`. -/
def readRequest (roomId payload : String) : Except PyException DecisionRequest := do
  let data ← loadRequest payload
  let rqid ← requireRqid data
  let identity : RequestIdentity := ⟨roomId, rqid, canonicalDigest data⟩
  let flags ← readFlags data
  let (sideId, pokemon) ← parseSide (data.get "side")
  let activePv := pokemon.find? fun member => member.active
  let activeIdentity ← readActiveIdentity activePv
  readKind identity flags sideId pokemon activePv activeIdentity data

end Database

/-! ## §7 What a request agrees with itself on -/

theorem kind_of_create {kind : ActionKind} {provenance : ActionProvenance} {slot : Option Int}
    {moveId : Option String} {terastallize : Bool} {teamOrder : List Int} :
    Satisfies (fun submission => submission.kind = kind ∧ submission.teamOrder = teamOrder)
      (fun _ => True)
      (BattleSubmission.create kind provenance slot moveId terastallize teamOrder) := by
  unfold BattleSubmission.create
  split
  · exact .error trivial
  · exact .ok ⟨rfl, rfl⟩

/-- Each element that a list is picked apart into completes the others to the list. -/
theorem picks_perm {α : Type} {xs rest : List α} {x : α} (h : (x, rest) ∈ picks xs) :
    (x :: rest).Perm xs := by
  induction xs generalizing x rest with
  | nil => cases h
  | cons y ys ih =>
    rcases List.mem_cons.mp h with heq | htail
    · obtain ⟨rfl, rfl⟩ := Prod.mk.inj heq
      exact .refl _
    · obtain ⟨⟨z, others⟩, hpick, heq⟩ := List.mem_map.mp htail
      obtain ⟨rfl, rfl⟩ := Prod.mk.inj heq
      exact (List.Perm.swap y z others).trans ((ih hpick).cons y)

theorem permutations_perm {α : Type} {xs order : List α}
    (h : order ∈ permutations xs.length xs) : order.Perm xs := by
  generalize hn : xs.length = n at h
  induction n generalizing xs order with
  | zero =>
    obtain rfl := List.length_eq_zero_iff.mp hn
    rw [List.mem_singleton.mp h]
  | succ n ih =>
    obtain ⟨⟨x, rest⟩, hpick, horder⟩ := List.mem_flatMap.mp h
    obtain ⟨order', horder', rfl⟩ := List.mem_map.mp horder
    have hperm := picks_perm hpick
    have hlength : rest.length = n := by
      have hlength := hperm.length_eq
      rw [List.length_cons, hn] at hlength
      exact Nat.succ.inj hlength
    exact ((ih hlength horder').cons x).trans hperm

/-- A permutation of all slots is a full team order. -/
theorem isFullOrder_of_perm {order : List Int} {count : Nat} (h : order.Perm (slotRange count)) :
    isFullOrder order count = true := by
  have hmem : ∀ n : Int, n ∈ order ↔ ∃ k : Nat, k < count ∧ n = k + 1 := by
    intro n
    rw [h.mem_iff]
    simp only [slotRange, List.mem_map, List.mem_range'_1]
    constructor
    · rintro ⟨k, ⟨hle, hlt⟩, rfl⟩
      exact ⟨k - 1, by omega, by simp only [Int.ofNat_eq_natCast]; omega⟩
    · rintro ⟨k, hlt, rfl⟩
      exact ⟨k + 1, by omega, by simp⟩
  have hrange : ∀ n ∈ order, 1 ≤ n ∧ n ≤ (count : Int) := by
    intro n hn
    obtain ⟨k, hlt, rfl⟩ := (hmem n).mp hn
    omega
  have hall : ∀ k < count, (k : Int) + 1 ∈ order := fun k hk => (hmem _).mpr ⟨k, hk, rfl⟩
  simpa [isFullOrder] using ⟨hrange, hall⟩

/-- A list of submissions of one kind, as the reader makes it from slots. -/
theorem slotSubmissions_kind (kind : ActionKind) (slots : List Nat) :
    Satisfies (fun subs => ∀ sub ∈ subs, sub.kind = kind) (fun _ => True)
      (slots.mapM (slotSubmission kind)) := by
  have hmap : Satisfies _ (fun _ => True) (slots.mapM (slotSubmission kind)) :=
    .mapM fun _ _ => kind_of_create
  refine hmap.mono (fun subs hsubs sub hsub => ?_) fun _ h => h
  obtain ⟨slot, -, hkind, -⟩ := hsubs.2 sub hsub
  exact hkind

/-- A normal move request offers moves and switches. -/
theorem normalSubmissions_kinds (activeRequest : ActiveRequest) (pokemon : List RequestPokemon) :
    Satisfies (fun subs => ∀ sub ∈ subs, isAllowed .move sub) (fun _ => True)
      (normalSubmissions activeRequest pokemon) := by
  refine .ite (fun _ => .ok nofun) fun _ => ?_
  have hmoves : ∀ (canTera : Bool) (move : RequestMove) (slot : Nat),
      Satisfies (fun subs => ∀ sub ∈ subs, sub.kind = .move) (fun _ => True)
        (moveSubmissions canTera move slot) := by
    intro canTera move slot
    refine .ite (fun _ => .ok nofun) fun _ => ?_
    refine Satisfies.bind kind_of_create fun plain hplain => .ite (fun _ => ?_) fun _ => .pure ?_
    · refine Satisfies.bind kind_of_create fun tera htera => .pure ?_
      simp [hplain.1, htera.1]
    · simp [hplain.1]
  have hall : Satisfies _ (fun _ => True) ((activeRequest.moves.zipIdx 1).mapM fun (move, slot) =>
      moveSubmissions (activeRequest.canTerastallize ≠ "") move slot) :=
    .mapM fun entry _ => hmoves _ entry.1 entry.2
  refine hall.bind fun moves hmem => ?_
  refine (slotSubmissions_kind .switch _).bind fun switches hswitches => .pure fun sub hsub => ?_
  rcases List.mem_append.mp hsub with hsub | hsub
  · obtain ⟨subs, hsubs, hsub⟩ := List.mem_flatten.mp hsub
    obtain ⟨entry, -, hkinds⟩ := hmem.2 subs hsubs
    rw [isAllowed, hkinds sub hsub]
    decide
  · rw [isAllowed, hswitches sub hsub]
    decide

section WellFormed

variable [Python.UnicodeDatabase] {roomId : String} {identity : RequestIdentity}

/-- What a well-formed request needs of its parts: allowed kinds and full team orders before the
default. -/
theorem wellFormed_decisionRequest {kind : RequestKind} {sideId : String}
    {pokemon : List RequestPokemon} {activeIdentity : Option String}
    {submissions : List BattleSubmission} {isUpdate : Bool} (hidentity : identity.WellFormed roomId)
    (hside : sideId = "p1" ∨ sideId = "p2") (hteam : 1 ≤ pokemon.length ∧ pokemon.length ≤ 6)
    (hkind : kind ≠ .wait)
    (hsubs : ∀ sub ∈ submissions, isAllowed kind sub ∧
      (kind = .teamPreview → isFullOrder sub.teamOrder pokemon.length)) :
    (decisionRequest identity kind sideId pokemon activeIdentity
      (submissions ++ [defaultSubmission]) isUpdate).WellFormed roomId := by
  have hcount : 1 ≤ (pokemon.length : Int) ∧ (pokemon.length : Int) ≤ 6 := by omega
  refine ⟨hidentity, rfl, hside, hcount, submissionsFault_eq_none hkind ?_ ?_ ?_⟩
  · exact ⟨defaultSubmission, List.mem_append_right _ List.mem_cons_self, rfl⟩
  · intro sub hsub
    rcases List.mem_append.mp hsub with hsub | hsub
    · exact (hsubs sub hsub).1
    · obtain rfl := List.mem_singleton.mp hsub
      show isAllowed kind defaultSubmission
      cases kind with
      | wait => exact absurd rfl hkind
      | _ => decide
  · intro hpreview sub hsub hteamKind
    rcases List.mem_append.mp hsub with hsub | hsub
    · exact (hsubs sub hsub).2 hpreview
    · obtain rfl := List.mem_singleton.mp hsub
      cases hteamKind

theorem readTeamPreview_wellFormed {sideId : String}
    {pokemon : List RequestPokemon} (payload : Members) (hidentity : identity.WellFormed roomId)
    (hside : sideId = "p1" ∨ sideId = "p2") (hteam : 1 ≤ pokemon.length ∧ pokemon.length ≤ 6) :
    Satisfies (fun request => request.WellFormed roomId) (fun _ => True)
      (readTeamPreview identity sideId pokemon payload) := by
  refine RaisesOnly.any.bind fun _ _ => ?_
  have horders : Satisfies _ (fun _ => True)
      ((permutations pokemon.length (slotRange pokemon.length)).mapM teamSubmission) :=
    .mapM fun _ _ => kind_of_create
  refine horders.bind fun subs hsubs => .pure ?_
  refine wellFormed_decisionRequest hidentity hside hteam (by decide) fun sub hsub => ?_
  obtain ⟨order, hmem, hkind, hteamOrder⟩ := hsubs.2 sub hsub
  have hlength : (slotRange pokemon.length).length = pokemon.length := by
    simp [slotRange]
  have hperm : order.Perm (slotRange pokemon.length) :=
    permutations_perm (by rwa [hlength])
  refine ⟨by rw [isAllowed, hkind]; decide, fun _ => ?_⟩
  rw [hteamOrder]
  exact isFullOrder_of_perm hperm

/-- A request whose submissions are of one allowed kind, next to the default. -/
theorem slotRequest_wellFormed {sideId : String} {pokemon : List RequestPokemon}
    (activeIdentity : Option String) (isUpdate : Bool) (hidentity : identity.WellFormed roomId)
    (hside : sideId = "p1" ∨ sideId = "p2") (hteam : 1 ≤ pokemon.length ∧ pokemon.length ≤ 6)
    {kind : RequestKind} {slotKind : ActionKind} (slots : List Nat) (hkind : kind ≠ .wait)
    (hpreview : kind ≠ .teamPreview) (hallowed : slotKind ∈ allowedKinds kind) :
    Satisfies (fun request => request.WellFormed roomId) (fun _ => True) (do
      let subs ← slots.mapM (slotSubmission slotKind)
      pure (decisionRequest identity kind sideId pokemon activeIdentity
        (subs ++ [defaultSubmission]) isUpdate)) := by
  refine (slotSubmissions_kind slotKind slots).bind fun subs hsubs => .pure ?_
  refine wellFormed_decisionRequest hidentity hside hteam hkind fun sub hsub => ⟨?_, fun h => absurd h hpreview⟩
  rw [isAllowed, hsubs sub hsub]
  exact decide_eq_true hallowed

theorem readKind_wellFormed (flags : RequestFlags) {sideId : String}
    {pokemon : List RequestPokemon} (activePv : Option RequestPokemon)
    (activeIdentity : Option String) (payload : Members) (hidentity : identity.WellFormed roomId)
    (hside : sideId = "p1" ∨ sideId = "p2") (hteam : 1 ≤ pokemon.length ∧ pokemon.length ≤ 6) :
    Satisfies (fun request => request.WellFormed roomId) (fun _ => True)
      (readKind identity flags sideId pokemon activePv activeIdentity payload) := by
  refine .ite (fun _ => .ok ?_) fun _ => ?_
  · -- a wait request has no submissions at all
    exact ⟨hidentity, rfl, hside, by simp only [decisionRequest]; omega, rfl⟩
  refine .ite (fun _ => readTeamPreview_wellFormed payload hidentity hside hteam) fun _ => ?_
  refine .ite (fun _ => ?_) fun _ => .ite (fun _ => ?_) fun _ => ?_
  · exact slotRequest_wellFormed activeIdentity flags.update hidentity hside hteam _ (by decide)
      (by decide) (by decide)
  · exact slotRequest_wellFormed activeIdentity flags.update hidentity hside hteam _ (by decide)
      (by decide) (by decide)
  · refine RaisesOnly.any.bind fun activeRequest _ => ?_
    refine (normalSubmissions_kinds activeRequest pokemon).bind fun subs hsubs => .pure ?_
    exact wellFormed_decisionRequest hidentity hside hteam (by decide) fun sub hsub => ⟨hsubs sub hsub, nofun⟩

/-- A side is one of the two, with one to six pokemon. -/
theorem parseSide_outcome (value : Json) :
    Satisfies (fun side => (side.1 = "p1" ∨ side.1 = "p2") ∧
      1 ≤ side.2.length ∧ side.2.length ≤ 6) (fun _ => True) (parseSide value) := by
  refine RaisesOnly.any.bind fun side _ => ?_
  have hsideId : Satisfies (fun sideId => sideId = "p1" ∨ sideId = "p2") (fun _ => True)
      (requireSideId (side.get "id")) := by
    refine RaisesOnly.any.bind fun sideId _ => .ite (fun h => .pure ?_) fun _ => .error trivial
    simpa using h
  refine hsideId.bind fun sideId hside => RaisesOnly.any.bind fun _ _ => ?_
  have hteam : Satisfies (fun items => 1 ≤ items.length ∧ items.length ≤ 6) (fun _ => True)
      (requireTeam (side.get "pokemon")) := by
    refine RaisesOnly.any.bind fun items _ => .ite (fun h => .pure ?_) fun _ => .error trivial
    simpa using h
  refine hteam.bind fun items hitems => ?_
  have hpokemon : Satisfies _ (fun _ => True) (items.zipIdx.mapM fun (entry, index) =>
      parseRequestPokemon sideId entry index) :=
    .mapM (R := fun _ _ => True) fun _ _ => RaisesOnly.any
  refine hpokemon.bind fun pokemon hlength => .ite (fun _ => .error trivial) fun _ => .pure ?_
  refine ⟨hside, ?_⟩
  rw [hlength.1, List.length_zipIdx]
  exact hitems

/-- A request number is not negative. -/
theorem requireRqid_outcome (payload : Members) :
    Satisfies (fun rqid => 0 ≤ rqid) (fun _ => True) (requireRqid payload) := by
  unfold requireRqid
  split
  · exact .error trivial
  · exact .ite (fun h => .ok h) fun _ => .error trivial
  · exact .error trivial

variable [JsonDecoder]

/-- Whatever the reader returns is well formed. -/
theorem readRequest_wellFormed {payload : String} {request : DecisionRequest}
    (h : readRequest roomId payload = .ok request) : request.WellFormed roomId := by
  have hread : Satisfies (fun request => request.WellFormed roomId) (fun _ => True)
      (readRequest roomId payload) := by
    refine RaisesOnly.any.bind fun data _ => (requireRqid_outcome data).bind fun rqid hrqid => ?_
    refine RaisesOnly.any.bind fun flags _ => (parseSide_outcome _).bind fun side hside => ?_
    refine RaisesOnly.any.bind fun activeIdentity _ => ?_
    have hidentity : RequestIdentity.WellFormed roomId ⟨roomId, rqid, canonicalDigest data⟩ :=
      ⟨rfl, hrqid, isDigest_sha256Digest _⟩
    exact readKind_wellFormed flags _ activeIdentity data hidentity hside.1 hside.2
  exact hread.of_ok h

end WellFormed

end BattleBelief
