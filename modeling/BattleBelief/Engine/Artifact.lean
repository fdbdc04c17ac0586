import BattleBelief.Canonicalization
import BattleBelief.Library.PosixPath
import BattleBelief.Library.PythonCodecs
import BattleBelief.Library.PythonDecimal
import BattleBelief.Library.Runs

/-!
# The Installed Engine

`artifact.py` checks the files of the installed wheel before any native code is loaded: what is on
the disk, what the wheel's RECORD says, what the distribution lists and what the build manifest pins
have to agree.
-/

namespace BattleBelief.EngineArtifact

open Runs
open Python (Json)

/-- `EngineFailureClass`. -/
inductive EngineFailureClass where
  | extraUnavailable
  | artifactUnavailable
  | artifactMismatch
  | unsupportedEnvironment
  | importFailed
  | sentinelFailed
  | nativeUnhealthy
  deriving DecidableEq, Repr

/-! ## §1 Installations -/

/-- What a path holds that is not a directory. It does not matter where a link leads. -/
inductive Node where
  | file (content : List Nat)
  | link
  deriving DecidableEq

/-- The name of a directory entry. -/
def IsName (name : String) : Prop := name ≠ "" ∧ name ≠ "." ∧ name ≠ ".." ∧ '/' ∉ name.toList

instance (name : String) : Decidable (IsName name) := inferInstanceAs (Decidable (_ ∧ _ ∧ _ ∧ _))

/-- The files and links of an installation, by their paths from its root. A path may lead through a
link. -/
structure Installation where
  nodes : List (List String × Node)
  nodup : (Python.Dict.keys nodes).Nodup
  named : ∀ place ∈ Python.Dict.keys nodes, place ≠ [] ∧ ∀ name ∈ place, IsName name

namespace Installation

variable (install : Installation)

def find (place : List String) : Option Node := Python.Dict.get? install.nodes place

/-- `_is_link_or_reparse`. -/
def isLink (place : List String) : Bool := install.find place = some .link

/-- `is_dir`: something lies below. -/
def isDir (place : List String) : Bool :=
  install.nodes.any fun node => place <+: node.1 ∧ place ≠ node.1

/-- What `rglob` finds below a directory, directories apart. It does not go through links. -/
def below (directory : List String) : List (List String × Node) :=
  install.nodes.filter fun node =>
    decide (directory <+: node.1 ∧ directory ≠ node.1) &&
      node.1.inits.all fun place =>
        !(decide (directory <+: place ∧ directory ≠ place ∧ place ≠ node.1) && install.isLink place)

end Installation

/-- What is read of an `importlib.metadata.Distribution`: the texts of its files, and the resolved
directory that it is installed in. -/
structure Distribution where
  name : Option String
  version : String
  files : Option (List String)
  root : Option Installation

/-- The checks that only look at the content of one file or at the import system:
`_verify_direct_url` and `_verify_uv_cache`, and the resolved origin that `find_spec` gives. -/
structure Checks where
  verifyDirectUrl : List Nat → Except EngineFailureClass Unit
  verifyUvCache : List Nat → Except EngineFailureClass Unit
  origin : Option (List String)

/-- `_safe_record_path`, with the parts of the path. -/
def safeRecordPath (value : String) : Except EngineFailureClass (List String) := do
  let parts := Python.Posix.parts value
  refuseIf (Python.startsWith value "/" = true ∨ parts = [] ∨ '\\' ∈ value.toList ∨
    ∃ part ∈ parts, part = "" ∨ part = "." ∨ part = "..") .artifactMismatch
  pure parts

/-- `_installed_path`. -/
def installedPath (install : Installation) (relative : String) :
    Except EngineFailureClass (List String) := do
  let parts ← safeRecordPath relative
  refuseIf (∃ place ∈ parts.inits, install.isLink place = true) .artifactMismatch
  match install.find parts with
  | some (.file _) => pure parts
  | _ => .error .artifactMismatch

/-- `_read_installed`. -/
def readInstalled (install : Installation) (place : List String) :
    Except EngineFailureClass (List Nat) :=
  match install.find place with
  | some (.file content) => .ok content
  | _ => .error .artifactMismatch

/-! ## §2 RECORD -/

/-- `_decode_record_hash`. -/
def decodeRecordHash (value : String) : Except EngineFailureClass String :=
  match Python.splitOnce value "=" with
  | none => .error .artifactMismatch
  | some (algorithm, encoded) =>
      let padding := String.ofList (List.replicate ((4 - encoded.toList.length % 4) % 4) '=')
      match Python.urlsafeB64decode (encoded ++ padding) with
      | none => .error .artifactMismatch
      | some decoded =>
          if algorithm ≠ "sha256" ∨ decoded.length ≠ 32 then .error .artifactMismatch
          else .ok ("sha256:" ++ Python.hex decoded)

/-- The digest and the size that a record gives, if it does. -/
abbrev RecordEntry := Option String × Option Int

section Record

variable [Python.UnicodeDatabase]

/-- One row of RECORD. -/
def recordRow (result : List (String × RecordEntry)) (row : List String) :
    Except EngineFailureClass (List (String × RecordEntry)) :=
  match row with
  | [path, rawDigest, rawSize] => do
      refuseIf (path ∈ Python.Dict.keys result) .artifactMismatch
      let _ ← safeRecordPath path
      if rawDigest = "" ∧ rawSize = "" then pure (result ++ [(path, (none, none))])
      else if rawDigest = "" ∨ rawSize = "" then .error .artifactMismatch
      else
        let digest ← decodeRecordHash rawDigest
        match Python.int rawSize with
        | some size => pure (result ++ [(path, (some digest, some size))])
        | none => .error .artifactMismatch
  | _ => .error .artifactMismatch

/-- `_installed_record`. -/
def installedRecord (record : List Nat) :
    Except EngineFailureClass (List (String × RecordEntry)) :=
  match (Python.decodeUtf8 record).bind Python.csvReader with
  | none => .error .artifactMismatch
  | some rows => rows.foldlM recordRow []

end Record

/-- `_distribution_root_and_info`. -/
def distributionRootAndInfo (distribution : Distribution) :
    Except EngineFailureClass (Installation × String × List String) :=
  match distribution.files with
  | none => .error .artifactMismatch
  | some files =>
      let paths := (files.map fun path => Python.replace path "\\" "/").dedup
      match paths.filter fun path => Python.endsWith path ".dist-info/METADATA" with
      | [metadata] =>
          match distribution.root with
          | some root => .ok (root, (Python.splitMax "/" 1 metadata).headD "", paths)
          | none => .error .artifactMismatch
      | _ => .error .artifactMismatch

/-! ## §3 The Build Manifest -/

/-- The digest and the size that the manifest gives for a path: any JSON values. -/
abbrev Pin := Json × Json

/-- One record entry of the wheel. -/
def pinnedRecord (original : List (String × Pin)) (item : Json) :
    Except EngineFailureClass (List (String × Pin)) :=
  match item with
  | .obj members =>
      match Json.get? members "path" with
      | some (.str path) =>
          if path ∈ Python.Dict.keys original then .error .artifactMismatch
          else
            pure (original ++ [(path, ((Json.get? members "sha256").getD .null,
              (Json.get? members "size").getD .null))])
      | _ => .error .artifactMismatch
  | _ => .error .artifactMismatch

/-- The wheel of the manifest, and what it pins. -/
def pinnedRecords (build : List (String × Json)) :
    Except EngineFailureClass (List (String × Json) × List (String × Pin)) :=
  match Json.get? build "wheel" with
  | some (.obj wheel) =>
      match Json.get? wheel "record_entries" with
      | some (.arr items) => do pure (wheel, ← items.foldlM pinnedRecord [])
      | _ => .error .artifactMismatch
  | _ => .error .artifactMismatch

/-- `value == text` -/
def equalsText (value : Json) (text : String) : Bool :=
  match value with
  | .str other => other = text
  | _ => false

/-- `value == number`: booleans and floats are numbers. -/
def equalsNumber (value : Json) (number : Int) : Bool :=
  match value with
  | .int other => other = number
  | .bool other => (if other then 1 else 0) = number
  | .float text =>
      ((Python.Decimal.ofText text).bind fun decimal => Python.Float.ofRat decimal.toRat) =
        some (number : ℚ)
  | _ => false

def isNull : Json → Bool
  | .null => true
  | _ => false

/-- `pin == entry` -/
def Pin.matches (pin : Pin) (entry : RecordEntry) : Bool :=
  (match entry.1 with
    | some digest => equalsText pin.1 digest
    | none => isNull pin.1) &&
  (match entry.2 with
    | some size => equalsNumber pin.2 size
    | none => isNull pin.2)

/-! ## §4 Verification -/

/-- The files that an installer adds. -/
def allowedAdded (distInfo : String) : List String :=
  [distInfo ++ "/INSTALLER", distInfo ++ "/REQUESTED", distInfo ++ "/direct_url.json",
    distInfo ++ "/uv_cache.json"]

/-- The check of one installed path. -/
def verifyRecord (install : Installation) (recordRelative : String) (original : List (String × Pin))
    (item : String × RecordEntry) : Except EngineFailureClass Unit := do
  let place ← installedPath install item.1
  if item.1 = recordRelative then refuseIf (item.2 ≠ (none, none)) .artifactMismatch
  else
    let content ← readInstalled install place
    refuseIf (item.2.1 ≠ some (sha256Digest content) ∨ item.2.2 ≠ some (content.length : Int))
      .artifactMismatch
    match Python.Dict.get? original item.1 with
    | some pin => refuseIf (pin.matches item.2 = false) .artifactMismatch
    | none => pure ()

/-- What the walk does with what it finds. -/
def visitNode (node : List String × Node) : Except EngineFailureClass String :=
  match node.2 with
  | .file _ => .ok (Python.join "/" node.1)
  | .link => .error .artifactMismatch

/-- The walk over one directory. -/
def actualPaths (install : Installation) (directory : List String) :
    Except EngineFailureClass (List String) := do
  refuseIf (install.isDir directory = false ∨ install.isLink directory = true) .artifactMismatch
  (install.below directory).mapM visitNode

/-- The native module, by its path. -/
def isExtension (path : String) : Bool :=
  Python.startsWith path "poke_engine/poke_engine." &&
    (Python.endsWith path ".pyd" || Python.endsWith path ".so")

/-- `_sha256(_read_installed(_installed_path(root, relative)))` against a member of the wheel. -/
def verifyMember (install : Installation) (relative : String) (expected : Option Json) :
    Except EngineFailureClass Unit := do
  let content ← readInstalled install (← installedPath install relative)
  refuseIf (equalsText (expected.getD .null) (sha256Digest content) = false) .artifactMismatch

/-- The candidates for the native module. One candidate does not have to be sorted. -/
def extensionOf (install : Installation) (original : List (String × Pin)) :
    Except EngineFailureClass (List String) := do
  let candidates ← ((Python.Dict.keys original).filter isExtension).mapM (installedPath install)
  match candidates with
  | [extension] => pure extension
  | _ => .error .artifactMismatch

/-- What the installed files, the record and the pins have to do with each other. -/
def verifyClosure (install : Installation) (distInfo : String)
    (installed : List (String × RecordEntry)) (original : List (String × Pin)) :
    Except EngineFailureClass Unit := do
  let recordRelative := distInfo ++ "/RECORD"
  let known := Python.Dict.keys original ++ allowedAdded distInfo
  refuseIf (((Python.Dict.get? original recordRelative).map fun pin => pin.matches (none, none)) ≠
    some true) .artifactMismatch
  refuseIf ((∃ path ∈ Python.Dict.keys installed, path ∉ known) ∨
    ∃ path ∈ Python.Dict.keys original, path ∉ Python.Dict.keys installed) .artifactMismatch
  let _ ← installed.mapM (verifyRecord install recordRelative original)
  let package ← actualPaths install ["poke_engine"]
  let info ← actualPaths install (Python.Posix.parts distInfo)
  refuseIf (Python.Dict.sameSet (package ++ info) (Python.Dict.keys installed) = false)
    .artifactMismatch

/-- The contents of the files that the installer has added. -/
def verifyAdded (install : Installation) (distInfo : String)
    (installed : List (String × RecordEntry)) (checks : Checks) :
    Except EngineFailureClass Unit := do
  let directUrl ← readInstalled install (← installedPath install (distInfo ++ "/direct_url.json"))
  checks.verifyDirectUrl directUrl
  let uvCache := distInfo ++ "/uv_cache.json"
  if uvCache ∈ Python.Dict.keys installed then
    checks.verifyUvCache (← readInstalled install (← installedPath install uvCache))
  else pure ()

/-- The native module, once the import system agrees on the package. -/
def verifyOrigin (install : Installation) (original : List (String × Pin)) (checks : Checks) :
    Except EngineFailureClass (List String × List String) := do
  let extension ← extensionOf install original
  let expectedPackage ← installedPath install "poke_engine/__init__.py"
  refuseIf (checks.origin ≠ some expectedPackage) .artifactMismatch
  pure (["poke_engine"], extension)

variable [Python.UnicodeDatabase]

/-- `_verify_installation`. -/
def verifyInstallation (distribution : Distribution) (build : List (String × Json))
    (checks : Checks) (expectedVersion : String) :
    Except EngineFailureClass (List String × List String) := do
  refuseIf (distribution.name ≠ some "poke-engine" ∨ distribution.version ≠ expectedVersion)
    .artifactMismatch
  let (install, distInfo, distributionPaths) ← distributionRootAndInfo distribution
  let recordPath ← installedPath install (distInfo ++ "/RECORD")
  let installed ← installedRecord (← readInstalled install recordPath)
  refuseIf (Python.Dict.sameSet (Python.Dict.keys installed) distributionPaths = false)
    .artifactMismatch
  let (wheel, original) ← pinnedRecords build
  verifyClosure install distInfo installed original
  verifyMember install (distInfo ++ "/METADATA") (Json.get? wheel "metadata_sha256")
  verifyMember install (distInfo ++ "/WHEEL") (Json.get? wheel "wheel_metadata_sha256")
  verifyAdded install distInfo installed checks
  verifyOrigin install original checks

end BattleBelief.EngineArtifact
