import Mathlib.Data.Finset.Basic
import BattleBelief.Library.Runs
import BattleBelief.Oracle.ProtocolDecoder
import BattleBelief.Records.PublicProjection

/-!
# Fixtures of the Oracle

A fixture is a JSON document that fixes one short battle: the teams, the choices of both players
and the seed. It becomes four batches of commands for the simulator, each with the response that
unlocks the next one.
-/

namespace BattleBelief.Oracle

open Python (Json)

/-! ## §1 Fields -/

/-- `_FIXTURE_ID_RE`: runs of lower-case letters and digits with single dashes between them.
`afterDash` holds where a run must begin. -/
def fixtureIdChars : Bool → List Char → Bool
  | afterDash, [] => !afterDash
  | afterDash, c :: rest =>
      if ('a' ≤ c && c ≤ 'z') || ('0' ≤ c && c ≤ '9') then fixtureIdChars false rest
      else c = '-' && !afterDash && fixtureIdChars true rest

def isFixtureId (text : String) : Bool := fixtureIdChars true text.toList

/-- `if refused: raise ValueError(message)`. -/
def refuseIf (refused : Prop) [Decidable refused] (message : String) : Except PyException Unit :=
  if refused then .error (.valueError message) else .ok ()

theorem refuseIf_eq_ok {refused : Prop} [Decidable refused] {message : String} {u : Unit} :
    refuseIf refused message = .ok u ↔ ¬refused := by
  rw [refuseIf]
  split_ifs with h
  · exact iff_of_false nofun (not_not.mpr h)
  · exact iff_of_true rfl h

/-- `value[key]`, of an object whose keys are checked. -/
def field (members : List (String × Json)) (key : String) : Json :=
  (Json.get? members key).getD .null

/-- `_require_digest`. -/
def requireDigest (value : Json) (fieldName : String) : Except PyException String :=
  let refused := .error (.valueError (fieldName ++ " must be a lowercase sha256 digest"))
  match value with
  | .str text => if isDigest text then .ok text else refused
  | _ => refused

/-- `_require_string`. -/
def requireString (value : Json) (fieldName : String) : Except PyException String :=
  let refused := .error (.valueError (fieldName ++ " must be a non-empty string"))
  match value with
  | .str text =>
      if text = "" then refused
      else if Python.contains text "\r" || Python.contains text "\n" ||
          Python.contains text (String.ofList [Char.ofNat 0]) then
        .error (.valueError (fieldName ++ " must not contain a control line separator"))
      else .ok text
  | _ => refused

/-- `value == expected`, for a string. -/
def isText (value : Json) (expected : String) : Bool :=
  match value with
  | .str text => text = expected
  | _ => false

/-- `value == 1`. -/
def equalsOne : Json → Bool
  | .int value => value = 1
  | .bool value => value
  | .float text => text = "1.0"
  | _ => false

/-- An `int` that every JSON reader keeps. -/
def safeInteger : Json → Option Int
  | .int value => if 0 ≤ value ∧ value ≤ maxSafeInteger then some value else none
  | _ => none

section Database

variable [Python.UnicodeDatabase]

/-- `_require_exact_keys`. -/
def requireExactKeys (members : List (String × Json)) (expected : List String) (name : String) :
    Except PyException Unit :=
  let keys := Python.Dict.keys members
  if Python.Dict.sameSet keys expected then .ok ()
  else
    let missing := Python.sorted (expected.filter fun key => key ∉ keys)
    let unknown := Python.sorted (keys.filter fun key => key ∉ expected)
    .error (.valueError (name ++ " fields differ: missing=" ++ Python.reprList missing ++
      ", unknown=" ++ Python.reprList unknown))

/-! ## §2 Fixtures -/

/-- `_FixturePlayer`. -/
structure FixturePlayer where
  name : String
  team : String
  teamChoice : String
  moveChoice : String
  deriving DecidableEq

/-- The fields of a `_Fixture` that are read from its document. -/
structure FixtureFields where
  fixtureId : String
  rulesetSnapshotDigest : String
  seedDomain : String
  seed : List Int
  p1 : FixturePlayer
  p2 : FixturePlayer
  expectedTeraLine : Option String
  deriving DecidableEq

/-- `_Fixture`. -/
structure Fixture extends FixtureFields where
  canonicalDocument : List Nat
  fixtureDigest : String
  deriving DecidableEq

/-- `_EXPECTED_PLAYER_FIELDS`. -/
def expectedPlayerFields : List String := ["name", "team", "team_choice", "move_choice"]

/-- `_EXPECTED_FIXTURE_FIELDS`. -/
def expectedFixtureFields : List String :=
  ["schema_version", "fixture_id", "format_id", "ruleset_snapshot_digest", "seed_domain", "seed",
    "players", "expected_tera_line"]

/-- `_APPROVED_TERA_LINE`. -/
def approvedTeraLine : String := "|-terastallize|p1a: Garchomp|Ground"

/-- `_parse_player`. -/
def parsePlayer (value : Json) (side : PlayerSide) : Except PyException FixturePlayer :=
  let path := "players." ++ side.value
  match value with
  | .obj members => do
      requireExactKeys members expectedPlayerFields path
      let name ← requireString (field members "name") (path ++ ".name")
      refuseIf (name ≠ side.value) (path ++ ".name must bind its player side")
      let team ← requireString (field members "team") (path ++ ".team")
      let teamChoice ← requireString (field members "team_choice") (path ++ ".team_choice")
      let moveChoice ← requireString (field members "move_choice") (path ++ ".move_choice")
      refuseIf (teamChoice ≠ "team 1") (path ++ ".team_choice must be team 1")
      refuseIf (moveChoice ∉ ["move 1", "move 1 terastallize"])
        (path ++ ".move_choice is unsupported")
      pure { name, team, teamChoice, moveChoice }
  | _ => .error (.valueError (path ++ " must be an object"))

def FixturePlayer.toDict (player : FixturePlayer) : Json :=
  .obj [("name", .str player.name), ("team", .str player.team),
    ("team_choice", .str player.teamChoice), ("move_choice", .str player.moveChoice)]

def seedRefused : PyException :=
  .valueError "fixture seed must contain four JCS-safe non-negative integers"

/-- The seed, if it is a list of four integers that are safe and not negative. -/
def parseSeed : Json → Except PyException (List Int)
  | .arr items =>
      match items.mapM safeInteger with
      | some seed => if items.length = 4 then .ok seed else .error seedRefused
      | none => .error seedRefused
  | _ => .error seedRefused

/-- `expected_tera_line`, if it is not `None`. -/
def parseTeraLine : Json → Except PyException (Option String)
  | .null => .ok none
  | value => do
      let line ← requireString value "expected_tera_line"
      refuseIf (line ≠ approvedTeraLine)
        "expected_tera_line must bind the approved Tera transition"
      pure (some line)

/-- The document that `_parse_fixture` digests. -/
def FixtureFields.document (fields : FixtureFields) : Json :=
  .obj [("schema_version", .int 1), ("fixture_id", .str fields.fixtureId),
    ("format_id", .str "gen9ou"), ("ruleset_snapshot_digest", .str fields.rulesetSnapshotDigest),
    ("seed_domain", .str fields.seedDomain), ("seed", .arr (fields.seed.map .int)),
    ("players", .obj [("p1", fields.p1.toDict), ("p2", fields.p2.toDict)]),
    ("expected_tera_line", (fields.expectedTeraLine.map Json.str).getD .null)]

/-- The checks of `_parse_fixture`. -/
def parseFields (value : Json) : Except PyException FixtureFields :=
  match value with
  | .obj members => do
      requireExactKeys members expectedFixtureFields "fixture"
      refuseIf (!equalsOne (field members "schema_version")) "fixture schema_version must be 1"
      let fixtureId ← requireString (field members "fixture_id") "fixture_id"
      refuseIf (!isFixtureId fixtureId) "fixture_id is invalid"
      refuseIf (!isText (field members "format_id") "gen9ou") "fixture format_id must be gen9ou"
      let rulesetSnapshotDigest ←
        requireDigest (field members "ruleset_snapshot_digest") "ruleset_snapshot_digest"
      let seedDomain ← requireString (field members "seed_domain") "seed_domain"
      refuseIf (seedDomain ≠ "showdown-fixture-v1")
        "fixture seed_domain is unsupported"
      let seed ← parseSeed (field members "seed")
      match field members "players" with
      | .obj players => do
          requireExactKeys players ["p1", "p2"] "players"
          let p1 ← parsePlayer (field players "p1") .p1
          let p2 ← parsePlayer (field players "p2") .p2
          let expectedTeraLine ← parseTeraLine (field members "expected_tera_line")
          refuseIf (expectedTeraLine.isNone ≠ decide (p1.moveChoice = "move 1"))
            "fixture tera expectation must agree with the p1 move choice"
          refuseIf (p2.moveChoice ≠ "move 1") "p2 fixture move must be move 1"
          pure { fixtureId, rulesetSnapshotDigest, seedDomain, seed, p1, p2, expectedTeraLine }
      | _ => throw (.valueError "players must be an object")
  | _ => .error (.valueError "fixture must be an object")

/-! ## §3 Reading JSON back -/

section Json

variable [JsonModule]

/-- `json.loads` without hooks of the caller: a later member replaces one with its key, and the
constants are floats. -/
def plainHooks : JsonHooks where
  objectPairs pairs := .ok (.obj (Python.Dict.ofPairs pairs))
  parseConstant text :=
    .ok (.float (if text = "NaN" then "nan" else if text = "Infinity" then "inf" else "-inf"))
  parseFloat text := .ok (.float (JsonModule.float text))

/-- `json.loads(raw.decode("utf-8"))`. A `UnicodeDecodeError` is a `ValueError`. -/
def decodeJson (raw : List Nat) : Except PyException Json :=
  match Python.decodeUtf8 raw with
  | none => .error (.valueError "the bytes are not valid UTF-8")
  | some text => JsonModule.loads plainHooks text

variable [Rfc8785]

/-- `_Fixture.seed_digest`. -/
def Fixture.seedDigest (fixture : Fixture) : Except PyException String :=
  manifestDigest (.obj [("seed_domain", .str fixture.seedDomain),
    ("seed", .arr (fixture.seed.map .int))])

/-- `_parse_fixture`. -/
def parseFixture (value : Json) : Except PyException Fixture := do
  let fields ← parseFields value
  let canonicalDocument ← Rfc8785.dumps fields.document
  let document ← decodeJson canonicalDocument
  let fixtureDigest ← manifestDigest document
  pure { toFixtureFields := fields, canonicalDocument, fixtureDigest }

end Json

end Database

/-! ## §4 Batches of commands -/

/-- The exact response condition that unlocks the next write batch. -/
structure ProcessResponseBarrier where
  requestSides : Finset PlayerSide
  /-- `end` -/
  terminal : Bool
  required : requestSides.Nonempty ∨ terminal = true

/-- A line feed ends the bytes of a batch, and so there are some. -/
def Terminated (bytes : List Nat) : Prop := bytes.getLast? = some 10

/-- One immutable input batch followed by one required response barrier. -/
structure ProcessInteractionStep where
  inputBytes : List Nat
  barrier : ProcessResponseBarrier
  terminated : Terminated inputBytes

def defaultMaxCommandBytes : Nat := 1024 * 1024

def defaultMaxInputBytes : Nat := 16 * 1024 * 1024

section Commands

variable [Python.NormalForms]

/-- The condition of `encode_commands` on the shape of one command. -/
def isCommand (command : String) : Bool :=
  Python.startsWith command ">" && !Python.contains command "\r" &&
    !Python.contains command "\n" && !Python.contains command (String.ofList [Char.ofNat 0]) &&
    Python.NormalForms.isNfc command

/-- The loop of `encode_commands`, after commands of `totalBytes` bytes. -/
def encodeFrom (totalBytes : Nat) : List String → Except DecoderError (List Nat)
  | [] => .ok []
  | command :: rest =>
      if !isCommand command then desynchronized "simulator command has an invalid shape"
      else
        let encoded := Python.encodeUtf8 command.toList
        if encoded.length > defaultMaxCommandBytes then
          .error (.oracleProtocolError .inputTooLarge
            "simulator command exceeds the configured byte limit")
        else
          let totalBytes := totalBytes + encoded.length + 1
          if totalBytes > defaultMaxInputBytes then
            .error (.oracleProtocolError .inputTooLarge
              "simulator input exceeds the configured byte limit")
          else do
            let later ← encodeFrom totalBytes rest
            pure (encoded ++ 10 :: later)

/-- `encode_commands`, with its default limits. -/
def encodeCommands (commands : List String) : Except DecoderError (List Nat) :=
  if commands = [] then desynchronized "simulator command list must not be empty"
  else encodeFrom 0 commands

theorem getLast?_encodeFrom {commands : List String} {totalBytes : Nat} {bytes : List Nat}
    (h : encodeFrom totalBytes commands = .ok bytes) :
    bytes.getLast? = some 10 ∨ commands = [] ∧ bytes = [] := by
  induction commands generalizing totalBytes bytes with
  | nil =>
    rw [encodeFrom, Except.ok.injEq] at h
    exact .inr ⟨rfl, h.symm⟩
  | cons command rest ih =>
    rw [encodeFrom] at h
    dsimp only at h
    split_ifs at h
    · cases h
    · obtain ⟨later, hlater, h⟩ := Runs.bind_eq_ok.mp h
      obtain rfl := Except.ok.inj h
      left
      rcases ih hlater with hlast | ⟨rfl, rfl⟩
      · simp [List.getLast?_append, List.getLast?_cons, hlast]
      · simp

/-- Every command that is encoded has a line feed behind it. -/
theorem terminated_of_encodeCommands {commands : List String} {bytes : List Nat}
    (h : encodeCommands commands = .ok bytes) : Terminated bytes := by
  rw [encodeCommands] at h
  split_ifs at h with hempty
  · cases h
  · rcases getLast?_encodeFrom h with hlast | ⟨hnil, -⟩
    · exact hlast
    · exact absurd hnil hempty

/-- A batch of the encoded commands. -/
def interactionStep (commands : List String) (barrier : ProcessResponseBarrier) :
    Except DecoderError ProcessInteractionStep :=
  match h : encodeCommands commands with
  | .error err => .error err
  | .ok inputBytes =>
      .ok { inputBytes, barrier, terminated := terminated_of_encodeCommands h }

variable [Rfc8785]

/-- `_command_json`. -/
def commandJson (start : String) (payload : Json) : Except PyException String := do
  let raw ← Rfc8785.dumps payload
  match Python.decodeUtf8 raw with
  | none => throw (.valueError "the bytes are not valid UTF-8")
  | some text => pure (start ++ text)

/-- Requests for both players. -/
def requestBarrier : ProcessResponseBarrier where
  requestSides := {.p1, .p2}
  terminal := false
  required := .inl ⟨.p1, by decide⟩

/-- The end of the battle. -/
def endBarrier : ProcessResponseBarrier where
  requestSides := ∅
  terminal := true
  required := .inr rfl

/-- `_build_steps`. -/
def buildSteps (fixture : FixtureFields) : Except DecoderError (List ProcessInteractionStep) := do
  let start ← (commandJson ">start " (.obj [("formatid", .str "gen9ou"),
    ("seed", .arr (fixture.seed.map .int))])).mapError .raised
  let p1 ← (commandJson ">player p1 " (.obj [("name", .str fixture.p1.name),
    ("team", .str fixture.p1.team)])).mapError .raised
  let p2 ← (commandJson ">player p2 " (.obj [("name", .str fixture.p2.name),
    ("team", .str fixture.p2.team)])).mapError .raised
  let initial ← interactionStep [start, p1, p2] requestBarrier
  let teams ← interactionStep
    [">p1 " ++ fixture.p1.teamChoice, ">p2 " ++ fixture.p2.teamChoice] requestBarrier
  let moves ← interactionStep
    [">p1 " ++ fixture.p1.moveChoice, ">p2 " ++ fixture.p2.moveChoice] requestBarrier
  let tie ← interactionStep [">forcetie"] endBarrier
  pure [initial, teams, moves, tie]

/-- The responses that the batches of a fixture ask for. -/
def fixtureBarriers : List ProcessResponseBarrier :=
  [requestBarrier, requestBarrier, requestBarrier, endBarrier]

omit [Rfc8785] in
theorem interactionStep_eq_ok {commands : List String} {barrier : ProcessResponseBarrier}
    {step : ProcessInteractionStep} (h : interactionStep commands barrier = .ok step) :
    step.barrier = barrier := by
  rw [interactionStep] at h
  split at h
  · cases h
  · exact (Except.ok.inj h) ▸ rfl

/-- Every fixture has the same barriers. -/
theorem barrier_buildSteps {fixture : FixtureFields} {steps : List ProcessInteractionStep}
    (h : buildSteps fixture = .ok steps) :
    steps.map ProcessInteractionStep.barrier = fixtureBarriers := by
  obtain ⟨start, -, h⟩ := Runs.bind_eq_ok.mp h
  obtain ⟨p1, -, h⟩ := Runs.bind_eq_ok.mp h
  obtain ⟨p2, -, h⟩ := Runs.bind_eq_ok.mp h
  obtain ⟨initial, hinitial, h⟩ := Runs.bind_eq_ok.mp h
  obtain ⟨teams, hteams, h⟩ := Runs.bind_eq_ok.mp h
  obtain ⟨moves, hmoves, h⟩ := Runs.bind_eq_ok.mp h
  obtain ⟨tie, htie, h⟩ := Runs.bind_eq_ok.mp h
  obtain rfl := Except.ok.inj h
  rw [List.map_cons, List.map_cons, List.map_cons, List.map_cons, List.map_nil,
    interactionStep_eq_ok hinitial, interactionStep_eq_ok hteams, interactionStep_eq_ok hmoves,
    interactionStep_eq_ok htie, fixtureBarriers]

end Commands

end BattleBelief.Oracle
