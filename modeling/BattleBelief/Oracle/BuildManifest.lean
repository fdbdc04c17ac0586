import BattleBelief.Oracle.RulesetSnapshot

/-!
# Build Manifests

The hermetic build of one oracle: what it was built from and with, the files it installed and
produced, and the rules it resolved. Whatever a constructor or a document is given, the manifest
that comes out of it is read back from its own document (`build_manifest_round_trip`).
-/

namespace BattleBelief.Oracle.Manifests

open Runs
open Python (Dict.keys Dict.ofPairs Dict.sortedItems Json)

/-! ## §1 Scalars -/

/-- A digit or a lower-case letter, of the ASCII ones. -/
def isIdChar (c : Char) : Bool := ('a' ≤ c && c ≤ 'z') || ('0' ≤ c && c ≤ '9')

/-- `_MANIFEST_ID_RE`: words with hyphens between them. -/
def isManifestId (text : String) : Bool :=
  (Python.split text "-").all fun word => word ≠ "" && word.toList.all isIdChar

/-- `_require_manifest_id`. -/
def requireManifestId (value : Json) : Except PyException String := do
  let text ← requireString value "manifest_id"
  refuseIf (!isManifestId text)
    (.valueError "manifest_id must match the schema identifier pattern")
  pure text

def isNumber (text : String) : Bool := text ≠ "" && text.toList.all Char.isDigit

/-- `[0-9A-Za-z.-]` -/
def isSuffixChar (c : Char) : Bool := c.isAlphanum || c = '.' || c = '-'

/-- `_VERSION_RE`: three numbers, and perhaps a suffix after a sign. -/
def isVersion (text : String) : Bool :=
  let isSign := fun c : Char => c = '-' || c = '+'
  let release := text.toList.takeWhile fun c => !isSign c
  let suffix := text.toList.dropWhile fun c => !isSign c
  let numbers := Python.split (String.ofList release) "."
  (numbers.length = 3 && numbers.all isNumber) &&
    (suffix.isEmpty || (!suffix.tail.isEmpty && suffix.tail.all isSuffixChar))

/-- `_require_version`. -/
def requireVersion (value : Json) (field : String) : Except PyException String := do
  let text ← requireString value field
  refuseIf (!isVersion text)
    (.valueError (field ++ " must be an exact version without a v-prefix or range"))
  pure text

/-- `_COMMIT_RE` -/
def isCommit (text : String) : Bool :=
  text.toList.length = 40 && text.toList.all fun c => c ∈ Sha256.hexAlphabet

/-- A commit: the pattern takes nothing but a text. -/
def requireCommit (value : Json) : Except PyException String :=
  match value with
  | .str text =>
      if isCommit text then .ok text
      else refused "commit must be 40 lowercase hexadecimal characters"
  | _ => .error (.other "TypeError" none)

/-- `value not in {...}`, of a set of texts: a list and an object have no hash. -/
def requireMember (value : Json) (options : List String) (problem : String) :
    Except PyException String :=
  match value with
  | .str text => if text ∈ options then .ok text else refused problem
  | .arr _ | .obj _ => .error (.other "TypeError" none)
  | _ => refused problem

/-- `value != expected` -/
def requireEqual (value : Json) (expected problem : String) : Except PyException String :=
  match value with
  | .str text => if text = expected then .ok text else refused problem
  | _ => refused problem

def requireSchemaVersion (value : Json) : Except PyException Unit :=
  match value with
  | .int version =>
      refuseIf (version ≠ 1) (.valueError "unsupported build manifest schema version")
  | _ => refused "unsupported build manifest schema version"

/-- `_CANDIDATE_NODE_NPM` -/
def candidateNodeNpm : String × String := ("22.23.2", "10.9.8")

/-- `_COMPARISON_NODE_NPM` -/
def comparisonNodeNpm : List (String × String) := [("18.20.8", "10.8.2"), ("20.20.2", "10.8.2")]

/-- `_SHOWDOWN_COMMIT` -/
def showdownCommit : String := "6a1836dd71c0718e923206f3d089e61074410868"

/-- The versions that a probe of this role may have. -/
def requireApprovedVersions (probeRole nodeVersion npmVersion : String) :
    Except PyException Unit := do
  refuseIf (probeRole = "candidate" ∧ (nodeVersion, npmVersion) ≠ candidateNodeNpm)
    (.valueError "candidate must bind the approved Node and npm versions")
  refuseIf (probeRole = "comparison" ∧ (nodeVersion, npmVersion) ∉ comparisonNodeNpm)
    (.valueError "comparison must bind an approved Node and npm version pair")

/-! ## §2 Arguments and settings -/

/-- `^[A-Za-z]:/` -/
def hasDriveRoot (text : String) : Bool := hasDrive text && (text.toList.drop 2).head? = some '/'

/-- A token that is an absolute path, or one through a parent directory. -/
def isLocalPath (token : String) : Bool :=
  let normalized := String.ofList (token.toList.map fun c => if c = '\\' then '/' else c)
  Python.startsWith normalized "/" || hasDriveRoot normalized ||
    Python.contains ("/" ++ normalized ++ "/") "/../"

/-- `_normalize_argv`. -/
def normalizeArgv (value : Json) (field : String) : Except PyException (List String) :=
  match value with
  | .arr (first :: rest) => do
      let argv ← (first :: rest).mapM fun token => requireString token (field ++ " token")
      refuseIf (∃ token ∈ argv, isLocalPath token = true)
        (.valueError (field ++ " must not contain local absolute or parent paths"))
      pure argv
  | _ => refused (field ++ " must be a non-empty argument list")

def argvDocument (argv : List String) : Json := .arr (argv.map .str)

/-- `_NPM_CONFIG_KEYS` -/
def npmConfigKeys : List String :=
  ["audit", "fund", "ignore-scripts", "package-lock", "update-notifier"]

def npmSetting (item : String × Json) : Except PyException (String × String) :=
  match item.2 with
  | .str setting =>
      if setting = "true" ∨ setting = "false" then .ok (item.1, setting)
      else refused "npm_config values must be explicit true or false strings"
  | _ => refused "npm_config values must be explicit true or false strings"

/-- `_normalize_npm_config`. -/
def normalizeNpmConfig (value : Json) : Except PyException (List (String × String)) :=
  match value with
  | .obj (first :: rest) => do
      refuseIf (∃ key ∈ Dict.keys (first :: rest), key ∉ npmConfigKeys)
        (.valueError "npm_config contains a non-allowlisted key")
      let normalized ← (first :: rest).mapM npmSetting
      pure (Dict.sortedItems normalized)
  | _ => refused "npm_config must be a non-empty allowlisted object"

/-- The settings, as the values of a dictionary. -/
def settingItems (config : List (String × String)) : List (String × Json) :=
  config.map fun setting => (setting.1, .str setting.2)

/-! ## §3 File records -/

/-- `_records_document`. -/
def recordsDocument (records : List FileRecord) : Json :=
  .arr (records.map fun record =>
    .obj [("path", .str record.1), ("digest", .str record.2.1), ("size", .int record.2.2)])

/-- The fields of a `_DependencyFileRecord`, before they are checked. -/
structure DependencyFields where
  kind : Json
  path : Json
  digest : Json
  size : Json
  target : Json

def isNull : Json → Bool
  | .null => true
  | _ => false

/-- `_DependencyFileRecord.to_dict`. -/
def DependencyFields.toDict (record : DependencyFields) : Except PyException Json :=
  if Python.Json.pyEq record.kind (.str "file") then do
    refuseIf (isNull record.digest || isNull record.size) (.other "AssertionError" none)
    pure (.obj [("kind", .str "file"), ("path", record.path), ("digest", record.digest),
      ("size", record.size)])
  else do
    refuseIf (isNull record.target) (.other "AssertionError" none)
    pure (.obj [("kind", .str "symlink"), ("path", record.path), ("target", record.target)])

/-- A checked record, as its fields. -/
def DependencyFileRecord.fields : DependencyFileRecord → DependencyFields
  | .file path digest size =>
      { kind := .str "file", path := .str path, digest := .str digest, size := .int size,
        target := .null }
  | .symlink path target =>
      { kind := .str "symlink", path := .str path, digest := .null, size := .null,
        target := .str target }

/-- The document of a checked record. -/
def DependencyFileRecord.toJson : DependencyFileRecord → Json
  | .file path digest size =>
      .obj [("kind", .str "file"), ("path", .str path), ("digest", .str digest),
        ("size", .int size)]
  | .symlink path target =>
      .obj [("kind", .str "symlink"), ("path", .str path), ("target", .str target)]

/-- `_dependency_files_document`. -/
def dependencyFilesDocument (records : List DependencyFields) : Except PyException Json := do
  let documents ← records.mapM DependencyFields.toDict
  pure (.arr documents)

/-! ## §4 Manifests -/

/-- What the constructor is given. -/
structure BuildFields where
  schemaVersion : Json
  manifestId : Json
  sourceManifestDigest : Json
  commit : Json
  nodeVersion : Json
  npmVersion : Json
  probeRole : Json
  os : Json
  architecture : Json
  npmCiArgv : List Json
  npmBuildArgv : List Json
  simulatorArgv : List Json
  /-- The pairs of the settings -/
  npmConfig : List (String × Json)
  dependencyTreeDigest : Json
  dependencyFiles : List DependencyFields
  dependencyFilesDigest : Json
  /-- Paths with digests and sizes -/
  distFiles : List (Json × Json × Json)
  distTreeDigest : Json
  formatId : Json
  rulesetSnapshot : Json
  rulesetSnapshotDigest : Json
  formatIdentityDigest : Json
  adapterVersion : Json
  canonicalizationProfile : Json
  schemaId : Json

section Manifest

variable [Python.UnicodeDatabase] [Rfc8785]

/-- A constructed manifest. -/
structure ShowdownBuildManifest where
  manifestId : String
  sourceManifestDigest : String
  commit : String
  nodeVersion : String
  npmVersion : String
  probeRole : String
  os : String
  architecture : String
  npmCiArgv : List String
  npmBuildArgv : List String
  simulatorArgv : List String
  npmConfig : List (String × String)
  dependencyTreeDigest : String
  dependencyFiles : List DependencyFileRecord
  dependencyFilesDigest : String
  distFiles : List FileRecord
  distTreeDigest : String
  formatId : String
  rulesetSnapshot : RulesetSnapshot
  rulesetSnapshotDigest : String
  formatIdentityDigest : String
  adapterVersion : String
  canonicalizationProfile : String
  schemaId : String

/-- The records of the distribution, as the constructor was given them. -/
def givenRecordsDocument (records : List (Json × Json × Json)) : Json :=
  .arr (records.map fun record =>
    .obj [("path", record.1), ("digest", record.2.1), ("size", record.2.2)])

/-- `ShowdownBuildManifest.__post_init__`. -/
def ShowdownBuildManifest.construct (fields : BuildFields) :
    Except PyException ShowdownBuildManifest := do
  requireSchemaVersion fields.schemaVersion
  let manifestId ← requireManifestId fields.manifestId
  let sourceManifestDigest ← requireDigest fields.sourceManifestDigest "source_manifest_digest"
  let commit ← requireCommit fields.commit
  let nodeVersion ← requireVersion fields.nodeVersion "node_version"
  let npmVersion ← requireVersion fields.npmVersion "npm_version"
  let probeRole ← requireMember fields.probeRole ["candidate", "comparison"]
    "probe_role is unsupported"
  refuseIf (commit ≠ showdownCommit)
    (.valueError "commit must bind the selected Showdown revision")
  requireApprovedVersions probeRole nodeVersion npmVersion
  let os ← requireMember fields.os ["linux", "windows"] "os is unsupported"
  let architecture ← requireMember fields.architecture ["x86_64", "arm64"]
    "architecture is unsupported"
  let npmCiArgv ← normalizeArgv (.arr fields.npmCiArgv) "npm_ci_argv"
  let npmBuildArgv ← normalizeArgv (.arr fields.npmBuildArgv) "npm_build_argv"
  let simulatorArgv ← normalizeArgv (.arr fields.simulatorArgv) "simulator_argv"
  refuseIf (npmCiArgv ≠ ["npm", "ci", "--no-audit", "--no-fund"])
    (.valueError "npm_ci_argv must bind npm ci --no-audit --no-fund")
  refuseIf (npmBuildArgv ≠ ["npm", "run", "build"])
    (.valueError "npm_build_argv must bind the approved build command")
  refuseIf (simulatorArgv ≠ ["node", "pokemon-showdown", "--skip-build", "simulate-battle"])
    (.valueError "simulator_argv must bind the approved simulator command")
  let npmConfig ← normalizeNpmConfig (.obj (Dict.ofPairs fields.npmConfig))
  let dependencyTreeDigest ← requireDigest fields.dependencyTreeDigest "dependency_tree_digest"
  let dependencyDocument ← dependencyFilesDocument fields.dependencyFiles
  let dependencyFiles ← normalizeDependencyFiles dependencyDocument
  let dependencyFilesDigest ← requireDigest fields.dependencyFilesDigest "dependency_files_digest"
  let dependencyDigest ← manifestDigest (.arr (dependencyFiles.map DependencyFileRecord.toJson))
  refuseIf (dependencyFilesDigest ≠ dependencyDigest)
    (.valueError "dependency_files_digest does not match dependency_files")
  let distFiles ← normalizeRecords (givenRecordsDocument fields.distFiles) "dist_files"
  let distDigest ← manifestDigest (recordsDocument distFiles)
  let distTreeDigest ← requireEqual fields.distTreeDigest distDigest
    "dist_tree_digest does not match dist_files"
  let formatId ← requireEqual fields.formatId "gen9ou" "format_id must bind gen9ou"
  let rulesetSnapshot ← normalizeRulesetSnapshot fields.rulesetSnapshot
  let rulesetSnapshotDigest ← requireDigest fields.rulesetSnapshotDigest "ruleset_snapshot_digest"
  let formatIdentityDigest ← requireDigest fields.formatIdentityDigest "format_identity_digest"
  let snapshotDigest ← manifestDigest rulesetSnapshot.toJson
  refuseIf (rulesetSnapshotDigest ≠ snapshotDigest)
    (.valueError "ruleset_snapshot_digest does not match ruleset_snapshot")
  let formatDigest ← manifestDigest rulesetSnapshot.format.toJson
  refuseIf (formatIdentityDigest ≠ formatDigest)
    (.valueError "format_identity_digest does not match ruleset_snapshot format")
  let adapterVersion ← requireEqual fields.adapterVersion "showdown-oracle-v1"
    "adapter_version is unsupported"
  let canonicalizationProfile ← requireEqual fields.canonicalizationProfile "rfc8785-jcs-v1"
    "canonicalization profile is unsupported"
  let schemaId ← requireEqual fields.schemaId
    "urn:battlebelief:schema:manifest:showdown-oracle-build:v1"
    "build schema identity is unsupported"
  pure { manifestId, sourceManifestDigest, commit, nodeVersion, npmVersion, probeRole, os,
         architecture, npmCiArgv, npmBuildArgv, simulatorArgv, npmConfig, dependencyTreeDigest,
         dependencyFiles, dependencyFilesDigest, distFiles, distTreeDigest, formatId,
         rulesetSnapshot, rulesetSnapshotDigest, formatIdentityDigest, adapterVersion,
         canonicalizationProfile, schemaId }

/-- `_FIELDS` -/
def buildManifestFields : List String :=
  ["schema_version", "manifest_id", "source_manifest_digest", "commit", "node_version",
    "npm_version", "probe_role", "os", "architecture", "npm_ci_argv", "npm_build_argv",
    "simulator_argv", "npm_config", "dependency_tree_digest", "dependency_files",
    "dependency_files_digest", "dist_files", "dist_tree_digest", "format_id", "ruleset_snapshot",
    "ruleset_snapshot_digest", "format_identity_digest", "adapter_version",
    "canonicalization_profile", "schema_id"]

/-- `value[key]`, of an object whose keys are checked. -/
def checkedField (members : List (String × Json)) (key : String) : Json :=
  (Json.get? members key).getD .null

/-- A checked file record, as the constructor is given it. -/
def givenRecord (record : FileRecord) : Json × Json × Json :=
  (.str record.1, .str record.2.1, .int record.2.2)

/-- `ShowdownBuildManifest.from_dict`. -/
def ShowdownBuildManifest.fromDict (value : Json) : Except PyException ShowdownBuildManifest :=
  match value with
  | .obj members => do
      requireExactKeys members buildManifestFields
      let field := checkedField members
      let npmCiArgv ← normalizeArgv (field "npm_ci_argv") "npm_ci_argv"
      let npmBuildArgv ← normalizeArgv (field "npm_build_argv") "npm_build_argv"
      let simulatorArgv ← normalizeArgv (field "simulator_argv") "simulator_argv"
      let npmConfig ← normalizeNpmConfig (field "npm_config")
      let dependencyFiles ← normalizeDependencyFiles (field "dependency_files")
      let distFiles ← normalizeRecords (field "dist_files") "dist_files"
      let rulesetSnapshot ← normalizeRulesetSnapshot (field "ruleset_snapshot")
      construct
        { schemaVersion := field "schema_version", manifestId := field "manifest_id"
          sourceManifestDigest := field "source_manifest_digest", commit := field "commit"
          nodeVersion := field "node_version", npmVersion := field "npm_version"
          probeRole := field "probe_role", os := field "os", architecture := field "architecture"
          npmCiArgv := npmCiArgv.map .str, npmBuildArgv := npmBuildArgv.map .str
          simulatorArgv := simulatorArgv.map .str, npmConfig := settingItems npmConfig
          dependencyTreeDigest := field "dependency_tree_digest"
          dependencyFiles := dependencyFiles.map DependencyFileRecord.fields
          dependencyFilesDigest := field "dependency_files_digest"
          distFiles := distFiles.map givenRecord, distTreeDigest := field "dist_tree_digest"
          formatId := field "format_id", rulesetSnapshot := rulesetSnapshot.toJson
          rulesetSnapshotDigest := field "ruleset_snapshot_digest"
          formatIdentityDigest := field "format_identity_digest"
          adapterVersion := field "adapter_version"
          canonicalizationProfile := field "canonicalization_profile"
          schemaId := field "schema_id" }
  | _ => refused "build manifest must be an object"

/-- `ShowdownBuildManifest.to_dict`. -/
def ShowdownBuildManifest.toDict (manifest : ShowdownBuildManifest) :
    Except PyException (List (String × Json)) := do
  let dependencyDocument ← dependencyFilesDocument
    (manifest.dependencyFiles.map DependencyFileRecord.fields)
  let rulesetSnapshot ← normalizeRulesetSnapshot manifest.rulesetSnapshot.toJson
  pure [("schema_version", .int 1), ("manifest_id", .str manifest.manifestId),
    ("source_manifest_digest", .str manifest.sourceManifestDigest),
    ("commit", .str manifest.commit), ("node_version", .str manifest.nodeVersion),
    ("npm_version", .str manifest.npmVersion), ("probe_role", .str manifest.probeRole),
    ("os", .str manifest.os), ("architecture", .str manifest.architecture),
    ("npm_ci_argv", argvDocument manifest.npmCiArgv),
    ("npm_build_argv", argvDocument manifest.npmBuildArgv),
    ("simulator_argv", argvDocument manifest.simulatorArgv),
    ("npm_config", .obj (Dict.ofPairs (settingItems manifest.npmConfig))),
    ("dependency_tree_digest", .str manifest.dependencyTreeDigest),
    ("dependency_files", dependencyDocument),
    ("dependency_files_digest", .str manifest.dependencyFilesDigest),
    ("dist_files", recordsDocument manifest.distFiles),
    ("dist_tree_digest", .str manifest.distTreeDigest), ("format_id", .str manifest.formatId),
    ("ruleset_snapshot", rulesetSnapshot.toJson),
    ("ruleset_snapshot_digest", .str manifest.rulesetSnapshotDigest),
    ("format_identity_digest", .str manifest.formatIdentityDigest),
    ("adapter_version", .str manifest.adapterVersion),
    ("canonicalization_profile", .str manifest.canonicalizationProfile),
    ("schema_id", .str manifest.schemaId)]

/-- `ShowdownBuildManifest.canonical_bytes`. -/
def ShowdownBuildManifest.canonicalBytes (manifest : ShowdownBuildManifest) :
    Except PyException (List Nat) := do
  let document ← manifest.toDict
  Rfc8785.dumps (.obj document)

/-- `ShowdownBuildManifest.digest`. -/
def ShowdownBuildManifest.digest (manifest : ShowdownBuildManifest) :
    Except PyException String := do
  let document ← manifest.toDict
  manifestDigest (.obj document)

end Manifest

end BattleBelief.Oracle.Manifests
