import BattleBelief.Library.PathOrder
import BattleBelief.Oracle.Manifests
import BattleBelief.Oracle.ProtocolDecoder
import Mathlib.Data.String.Basic

/-!
# Installed Files of the Oracle

`installation.py` walks the built distribution and the installed dependencies, and compares what it
finds with the records of the build manifest.
-/

namespace BattleBelief.Oracle.Installation

open Runs
open Manifests (FileRecord DependencyFileRecord)

/-! ## §1 Directory Trees -/

/-- What a path of the checkout holds. A link comes with whether its target exists below
`node_modules`; `other` is what is neither a file, a directory nor a link. -/
inductive Entry where
  | file (content : List Nat)
  | directory (entries : List (String × Entry))
  | symlink (target : String) (inside : Bool)
  | other

/-- `BuildOracleError`. -/
structure BuildOracleError where
  failureClass : OracleFailureClass
  detail : String
  deriving DecidableEq, Repr

def outputMissing (detail : String) : BuildOracleError :=
  { failureClass := .buildOutputMissing, detail }

/-- `sorted(entries, key=lambda candidate: candidate.name)` -/
def sortedByName {α : Type} (entries : List (String × α)) : List (String × α) :=
  entries.insertionSort fun entry other => entry.1 ≤ other.1

section Visit

variable {ρ : Type} (record : List String → Entry → Except BuildOracleError ρ)

mutual

/-- `visit`, with the record of an entry that is not a directory. Each entry comes with what a visit
to it gives, and the visits are made in the order of the names. -/
def visit (path : List String) : Entry → Except BuildOracleError (List ρ)
  | .directory entries => do
      let records ← (sortedByName (visits path entries)).mapM Prod.snd
      pure records.flatten
  | .file content => (record path (.file content)).map fun found => [found]
  | .symlink target inside => (record path (.symlink target inside)).map fun found => [found]
  | .other => (record path .other).map fun found => [found]

def visits (path : List String) :
    List (String × Entry) → List (String × Except BuildOracleError (List ρ))
  | [] => []
  | (name, entry) :: rest => (name, visit (path ++ [name]) entry) :: visits path rest

end

end Visit

/-! ## §2 The Collectors -/

/-- `_file_record`. -/
def fileRecord (path : List String) (content : List Nat) : FileRecord :=
  (Python.join "/" path, sha256Digest content, content.length)

/-- What `collect_dist_records` keeps of an entry. -/
def distRecord (path : List String) : Entry → Except BuildOracleError FileRecord
  | .file content => .ok (fileRecord path content)
  | _ => .error (outputMissing "dist output is not regular")

/-- `_dependency_symlink_record`. -/
def dependencySymlinkRecord (path : List String) (target : String) (inside : Bool) :
    Except BuildOracleError DependencyFileRecord := do
  refuseIf (target = "" ∨ '\\' ∈ target.toList ∨ Python.startsWith target "/" = true)
    (outputMissing "dependency symlink target is unsafe")
  refuseIf (inside = false) (outputMissing "dependency symlink escapes node_modules")
  pure (.symlink (Python.join "/" path) target)

/-- The record of a dependency's file. -/
def dependencyFileRecord (path : List String) (content : List Nat) : DependencyFileRecord :=
  .file (Python.join "/" path) (sha256Digest content) content.length

/-- What `collect_dependency_file_records` keeps of an entry. -/
def dependencyRecord (path : List String) : Entry → Except BuildOracleError DependencyFileRecord
  | .symlink target inside => dependencySymlinkRecord path target inside
  | .file content => .ok (dependencyFileRecord path content)
  | _ => .error (outputMissing "dependency entry is not regular")

/-- `paths != sorted(paths) or len(paths) != len(set(paths))` -/
def notCanonical (paths : List String) : Prop := paths ≠ Python.sorted paths ∨ ¬paths.Nodup

instance (paths : List String) : Decidable (notCanonical paths) :=
  inferInstanceAs (Decidable (_ ∨ _))

/-- `collect_dist_records` on a path that ends in `name`, and what is there. -/
def collectDistRecords (name : String) (found : Option Entry) :
    Except BuildOracleError (List FileRecord) := do
  refuseIf (name ≠ "dist") (outputMissing "dist directory is missing")
  match found with
  | none => .error (outputMissing "dist directory is missing")
  | some (.directory entries) =>
      let records ← visit distRecord [name] (.directory entries)
      refuseIf (records = []) (outputMissing "dist directory has no files")
      refuseIf (notCanonical (records.map Prod.fst)) (outputMissing "dist records are not canonical")
      pure records
  | some _ => .error (outputMissing "dist directory is invalid")

/-- `collect_dependency_file_records`. -/
def collectDependencyFileRecords (name : String) (found : Option Entry) :
    Except BuildOracleError (List DependencyFileRecord) :=
  match found with
  | none => .error (outputMissing "node_modules directory is missing")
  | some (.directory entries) => do
      let visited ← visit dependencyRecord [name] (.directory entries)
      let records := visited.insertionSort fun record other => record.path ≤ other.path
      refuseIf (records = [] ∨ notCanonical (records.map DependencyFileRecord.path))
        (outputMissing "dependency files are not canonical")
      pure records
  | some _ => .error (outputMissing "node_modules directory is invalid")

/-! ## §3 The Verifiers -/

/-- How the verifiers compare what they collect. -/
def verifyRecords {ρ : Type} [DecidableEq ρ] (collected : Except BuildOracleError (List ρ))
    (expected : List ρ) (detail : String) : Except BuildOracleError Unit :=
  match collected with
  | .error error =>
      if error.failureClass = .buildOutputMissing then .error (outputMissing detail)
      else .error error
  | .ok actual => refuseIf (actual ≠ expected) (outputMissing detail)

/-- `verify_dist_records`. -/
def verifyDistRecords (name : String) (found : Option Entry) (expected : List FileRecord) :
    Except BuildOracleError Unit :=
  verifyRecords (collectDistRecords name found) expected "dist output differs"

/-- `verify_dependency_file_records`. -/
def verifyDependencyFileRecords (name : String) (found : Option Entry)
    (expected : List DependencyFileRecord) : Except BuildOracleError Unit :=
  verifyRecords (collectDependencyFileRecords name found) expected "dependency files differ"

end BattleBelief.Oracle.Installation
