import BattleBelief.Canonicalization
import BattleBelief.Library.PosixPath
import BattleBelief.Library.Runs

/-!
# Manifests of the Oracle

How a manifest's lists of file records are read: `_normalize_records` for the distribution, and
`_normalize_dependency_files` for what is installed below `node_modules`, where a record may be a
symbolic link.
-/

namespace BattleBelief.Oracle.Manifests

open Runs
open Python (Json)

/-! ## §1 Fields -/

section Fields

variable [Python.UnicodeDatabase]

/-- `_require_exact_keys`. -/
def requireExactKeys (members : List (String × Json)) (expected : List String) :
    Except PyException Unit :=
  let keys := Python.Dict.keys members
  let missing := Python.sorted (expected.filter fun key => key ∉ keys)
  let unknown := Python.sorted (keys.filter fun key => key ∉ expected)
  refuseIf (!Python.Dict.sameSet keys expected)
    (.valueError ("manifest fields differ: missing=" ++ Json.repr (.arr (missing.map .str)) ++
      ", unknown=" ++ Json.repr (.arr (unknown.map .str))))

/-- `value[key]` -/
def member (members : List (String × Json)) (key : String) : Except PyException Json :=
  match Json.get? members key with
  | some value => .ok value
  | none => .error (.other "KeyError" none)

end Fields

/-- `_require_string`. -/
def requireString (value : Json) (field : String) : Except PyException String :=
  match value with
  | .str text =>
      if text = "" then .error (.valueError (field ++ " must be a non-empty string")) else .ok text
  | _ => .error (.valueError (field ++ " must be a non-empty string"))

/-- `_require_digest`. -/
def requireDigest (value : Json) (field : String) : Except PyException String := do
  let text ← requireString value field
  refuseIf (!isDigest text) (.valueError (field ++ " must be a lowercase sha256 digest"))
  pure text

/-- `[A-Za-z0-9._@+~=-]` -/
def isPathChar (c : Char) : Bool :=
  ('A' ≤ c && c ≤ 'Z') || ('a' ≤ c && c ≤ 'z') || ('0' ≤ c && c ≤ '9') ||
    c ∈ ['.', '_', '@', '+', '~', '=', '-']

/-- `_SAFE_PATH_RE`: parts of these characters, none of them empty or `..`. -/
def isSafePath (text : String) : Bool :=
  (Python.split text "/").all fun part =>
    part ≠ "" && part.toList.all isPathChar && part ≠ ".."

/-- `_require_safe_path`. -/
def requireSafePath (value : Json) (field : String) : Except PyException String := do
  let text ← requireString value field
  refuseIf (!isSafePath text) (.valueError (field ++ " must be a safe relative POSIX path"))
  pure text

/-- `type(size) is not int or size < 0` -/
def requireSize (value : Json) (field : String) : Except PyException Int :=
  match value with
  | .int size =>
      if size < 0 then .error (.valueError (field ++ ".size must be a non-negative integer"))
      else .ok size
  | _ => .error (.valueError (field ++ ".size must be a non-negative integer"))

/-! ## §2 Files -/

/-- A path with the digest and the size of the file. -/
abbrev FileRecord := String × String × Int

section Records

variable [Python.UnicodeDatabase]

/-- One record of `_normalize_records`. -/
def normalizeRecord (field : String) (record : Json) : Except PyException FileRecord :=
  match record with
  | .obj members => do
      requireExactKeys members ["path", "digest", "size"]
      let path ← requireSafePath (← member members "path") (field ++ ".path")
      let digest ← requireDigest (← member members "digest") (field ++ ".digest")
      let size ← requireSize (← member members "size") field
      pure (path, digest, size)
  | _ => .error (.valueError (field ++ " records must be objects"))

/-- `_normalize_records`. -/
def normalizeRecords (value : Json) (field : String) : Except PyException (List FileRecord) :=
  match value with
  | .arr (first :: rest) => do
      let records ← (first :: rest).mapM (normalizeRecord field)
      refuseIf (records ≠ records.insertionSort fun record other => record.1 ≤ other.1)
        (.valueError (field ++ " must be sorted by path"))
      refuseIf (¬(records.map Prod.fst).Nodup)
        (.valueError (field ++ " must not contain duplicate paths"))
      pure records
  | _ => .error (.valueError (field ++ " must be a non-empty list"))

end Records

/-! ## §3 Dependencies -/

/-- `_DependencyFileRecord`: a file, or a link to a target. -/
inductive DependencyFileRecord where
  | file (path digest : String) (size : Int)
  | symlink (path target : String)
  deriving DecidableEq, Repr

def DependencyFileRecord.path : DependencyFileRecord → String
  | .file path _ _ => path
  | .symlink path _ => path

/-- `_require_dependency_path`. -/
def requireDependencyPath (value : Json) (field : String) : Except PyException String := do
  let path ← requireSafePath value field
  refuseIf (!Python.startsWith path "node_modules/")
    (.valueError (field ++ " must be below node_modules"))
  pure path

/-- `^[A-Za-z]:` -/
def hasDrive (text : String) : Bool :=
  match text.toList with
  | c :: ':' :: _ => ('A' ≤ c && c ≤ 'Z') || ('a' ≤ c && c ≤ 'z')
  | _ => false

/-- The loop of `_require_relative_link_target` over the parts of the target. -/
def resolveTarget : List String → List String → Except PyException (List String)
  | resolved, [] => .ok resolved
  | resolved, part :: rest =>
      if part = ".." then
        if resolved.length ≤ 1 then
          .error (.valueError "dependency_files.target must stay within node_modules")
        else resolveTarget resolved.dropLast rest
      else resolveTarget (resolved ++ [part]) rest

/-- `_require_relative_link_target`. -/
def requireRelativeLinkTarget (value : Json) (path : String) : Except PyException String := do
  let target ← requireString value "dependency_files.target"
  refuseIf ('\\' ∈ target.toList ∨ Python.startsWith target "/" = true ∨ hasDrive target = true)
    (.valueError "dependency_files.target must be a relative POSIX path")
  refuseIf ((Python.split target "/").any fun part => part = "" || part = ".")
    (.valueError "dependency_files.target must be normalized")
  let resolved ← resolveTarget (Python.split path "/").dropLast (Python.Posix.parts target)
  refuseIf (resolved.head? ≠ some "node_modules")
    (.valueError "dependency_files.target must stay within node_modules")
  pure target

section Dependencies

variable [Python.UnicodeDatabase]

/-- One record of `_normalize_dependency_files`. -/
def normalizeDependencyFile (rawRecord : Json) : Except PyException DependencyFileRecord :=
  match rawRecord with
  | .obj members =>
      match Json.get? members "kind" with
      | some (.str kind) =>
          if kind = "file" then do
            requireExactKeys members ["kind", "path", "digest", "size"]
            let path ← requireDependencyPath (← member members "path") "dependency_files.path"
            let digest ← requireDigest (← member members "digest") "dependency_files.digest"
            let size ← requireSize (← member members "size") "dependency_files"
            pure (.file path digest size)
          else if kind = "symlink" then do
            requireExactKeys members ["kind", "path", "target"]
            let path ← requireDependencyPath (← member members "path") "dependency_files.path"
            let target ← requireRelativeLinkTarget (← member members "target") path
            pure (.symlink path target)
          else .error (.valueError "dependency_files.kind is unsupported")
      | _ => .error (.valueError "dependency_files.kind is unsupported")
  | _ => .error (.valueError "dependency_files records must be objects")

/-- `_normalize_dependency_files`. -/
def normalizeDependencyFiles (value : Json) : Except PyException (List DependencyFileRecord) :=
  match value with
  | .arr (first :: rest) => do
      let records ← (first :: rest).mapM normalizeDependencyFile
      refuseIf (records ≠ records.insertionSort fun record other => record.path ≤ other.path)
        (.valueError "dependency_files must be sorted by path")
      refuseIf (¬(records.map DependencyFileRecord.path).Nodup)
        (.valueError "dependency_files must not contain duplicate paths")
      pure records
  | _ => .error (.valueError "dependency_files must be a non-empty list")

end Dependencies

end BattleBelief.Oracle.Manifests
