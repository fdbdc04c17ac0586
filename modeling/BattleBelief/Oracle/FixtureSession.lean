import BattleBelief.Oracle.OracleResult
import BattleBelief.Oracle.StreamProtocol

/-!
# Oracle Sessions

`ShowdownOracleSession.run_fixture`: from a fixture document over the batches for the simulator to
an `OracleResult`. The build verification, the network guard and the process runner are what the
session calls, and so are arguments.
-/

namespace BattleBelief.Oracle

open Python (Json)

/-! ## §1 The session -/

/-- Non-canonical process result. -/
structure OracleProcessResult where
  messages : List ProtocolMessage
  returncode : Int
  forcedShutdown : Bool
  completedBarriers : Bool
  terminalSideError : Option (PlayerSide × String)
  deriving DecidableEq

/-- What the session reads of its configuration. The digests of the manifests are computed. -/
structure ShowdownOracleConfig where
  sourceManifestDigest : String
  buildManifestDigest : String
  rulesetSnapshotDigest : String
  digests : isDigest sourceManifestDigest = true ∧ isDigest buildManifestDigest = true

/-- What `run_fixture` has computed when it calls the process runner. -/
structure Prepared where
  fixture : Fixture
  steps : List ProcessInteractionStep
  canonicalInput : List Nat
  evidence : Evidence

def isUpdateWith (line : String) : ProtocolMessage → Bool
  | .updateMessage lines => line ∈ lines
  | _ => false

/-- The failures that `run_fixture` finds in a process result, in the order of its tests. -/
def failureOf (fixture : Fixture) (result : OracleProcessResult) : Option OracleFailureClass :=
  if result.terminalSideError.isSome then some .rulesetRejected
  else if !result.completedBarriers then some .protocolDesynchronization
  else if !result.messages.any ProtocolMessage.isEnd then some .protocolDesynchronization
  else if fixture.expectedTeraLine.any fun line => !result.messages.any (isUpdateWith line) then
    some .rulesetRejected
  else none

/-- `input_document` -/
def inputDocument (fixtureId : String) (steps : List String) : Json :=
  .obj [("fixture_id", .str fixtureId), ("steps", .arr (steps.map .str))]

section Session

variable [Python.UnicodeDatabase] [Python.NormalForms] [JsonModule] [Rfc8785]

/-- `step.input_bytes.decode("utf-8")`. -/
def stepText (step : ProcessInteractionStep) : Except PyException String :=
  match Python.decodeUtf8 step.inputBytes with
  | none => .error (.valueError "the bytes are not valid UTF-8")
  | some text => .ok text

/-- `run_fixture` before its first call to the outside. -/
def prepare (config : ShowdownOracleConfig) (document : Json) : Except DecoderError Prepared := do
  let fixture ← (parseFixture document).mapError .raised
  (refuseIf (fixture.rulesetSnapshotDigest ≠ config.rulesetSnapshotDigest)
    "fixture ruleset snapshot does not bind the configured build").mapError .raised
  let steps ← buildSteps fixture.toFixtureFields
  let texts ← (steps.mapM stepText).mapError .raised
  let canonicalInput ← (Rfc8785.dumps (inputDocument fixture.fixtureId texts)).mapError .raised
  let inputDigest ←
    (manifestDigest (inputDocument fixture.fixtureId texts)).mapError .raised
  let seedDigest ← fixture.seedDigest.mapError .raised
  let evidence : Evidence :=
    { fixtureId := fixture.fixtureId
      sourceManifestDigest := config.sourceManifestDigest
      buildManifestDigest := config.buildManifestDigest
      rulesetSnapshotDigest := fixture.rulesetSnapshotDigest
      fixtureDigest := fixture.fixtureDigest
      seedDigest
      inputDigest }
  pure { fixture, steps, canonicalInput, evidence }

omit [Python.UnicodeDatabase] [Python.NormalForms] in
/-- `OracleResult(**evidence, ...)`. -/
def buildResult (prepared : Prepared) (status : OracleStatus)
    (failureClass : Option OracleFailureClass) (transcript : List Json)
    (identities : List OracleRequestIdentity) : Except PyException OracleResult := do
  let transcriptDigest ← manifestDigest (.arr transcript)
  let canonicalTranscript ← Rfc8785.dumps (.arr transcript)
  OracleResult.create
    { toEvidence := prepared.evidence
      status
      failureClass
      transcriptDigest
      canonicalInput := prepared.canonicalInput
      canonicalTranscript
      requestIdentities := identities }

omit [Python.UnicodeDatabase] [Python.NormalForms] in
/-- `_failure_result`. -/
def failureResult (prepared : Prepared) (transcript : List Json)
    (identities : List OracleRequestIdentity) (failureClass : OracleFailureClass) :
    Except PyException OracleResult :=
  buildResult prepared .failure (some failureClass) transcript identities

omit [Python.UnicodeDatabase] [Python.NormalForms] in
/-- `run_fixture` after the process runner has returned. -/
def concludeFixture (prepared : Prepared) (result : OracleProcessResult) :
    Except PyException OracleResult := do
  let transcript ← transcriptDocument result.messages
  let identities ← requestIdentities prepared.fixture.fixtureId result.messages
  match failureOf prepared.fixture result with
  | some failureClass => failureResult prepared transcript identities failureClass
  | none => buildResult prepared .success none transcript identities

omit [Python.UnicodeDatabase] [Python.NormalForms] in
/-- `run_fixture` from its first call to the outside. `verified` is what `verify_build_manifest`
does, `guarded` says that `guarded_node_environment` does not raise, and `run` is the process
runner. -/
def runPrepared (verified : Except OracleFailureClass Unit) (guarded : Bool)
    (run : List ProcessInteractionStep → Except OracleFailureClass OracleProcessResult)
    (prepared : Prepared) : Except PyException OracleResult :=
  match verified with
  | .error failureClass => failureResult prepared [] [] failureClass
  | .ok () =>
      if !guarded then failureResult prepared [] [] .buildOutputMissing
      else
        match run prepared.steps with
        | .error failureClass => failureResult prepared [] [] failureClass
        | .ok result => concludeFixture prepared result

/-- `ShowdownOracleSession.run_fixture`. -/
def runFixture (config : ShowdownOracleConfig) (verified : Except OracleFailureClass Unit)
    (guarded : Bool)
    (run : List ProcessInteractionStep → Except OracleFailureClass OracleProcessResult)
    (document : Json) : Except DecoderError OracleResult := do
  let prepared ← prepare config document
  (runPrepared verified guarded run prepared).mapError .raised

end Session

end BattleBelief.Oracle
