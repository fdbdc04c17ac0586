import BattleBelief.Oracle.Manifests

/-!
# Targets of Links

A link among the dependency records has to lead to a place below `node_modules`. The check counts the
parts of the link's directory, and counts `.` among them as a directory; a target may then climb
higher than there are directories.

- `resolveTarget_eq_ok`: the check, as a bound on how far a target climbs
- `link_containment_iff`: which accepted lists have only links that stay within `node_modules`
-/

namespace BattleBelief.Oracle.Manifests

open Runs
open Python (Json)
open Python.Posix

/-! ## §1 The check of a target -/

/-- The check bounds how far a target climbs by the parts before it. -/
theorem resolveTarget_eq_ok {first : String} {below path resolved : List String}
    (hdots : ∀ part ∈ path, part ≠ ".")
    (h : resolveTarget (first :: below) path = .ok resolved) :
    highestClimb path ≤ below.length ∧ resolved = resolve (first :: below) path := by
  induction path generalizing below with
  | nil =>
    cases h
    exact ⟨Nat.zero_le _, rfl⟩
  | cons part path ih =>
    obtain ⟨hdot, hrest⟩ := List.forall_mem_cons.mp hdots
    have hresolve : resolve (first :: below) (part :: path) =
        resolve (step (first :: below) part) path := rfl
    rw [resolveTarget] at h
    rw [hresolve, highestClimb, if_neg hdot, step, if_neg hdot]
    by_cases hup : part = ".."
    · rw [if_pos hup] at h ⊢
      cases below using List.reverseRecOn with
      | nil => cases h
      | append_singleton below last =>
        have hlong : ¬(first :: (below ++ [last])).length ≤ 1 := by simp
        have hdrop : (first :: (below ++ [last])).dropLast = first :: below := by
          rw [← List.cons_append, List.dropLast_concat]
        rw [if_neg hlong, hdrop] at h
        obtain ⟨hclimb, hresolved⟩ := ih hrest h
        rw [if_pos hup, hdrop, List.length_append, List.length_singleton]
        exact ⟨by omega, hresolved⟩
    · rw [if_neg hup, List.cons_append] at h
      rw [if_neg hup, if_neg hup, List.cons_append]
      obtain ⟨hclimb, hresolved⟩ := ih hrest h
      rw [List.length_append, List.length_singleton] at hclimb
      exact ⟨by omega, hresolved⟩

/-! ## §2 Records that are accepted -/

/-- The directories below `node_modules` that a path names on the way to its last part. -/
def linkDirectories (path : String) : List String := (Python.split path "/").dropLast.tail

/-- Followed from the directory of the link, the target never leaves `node_modules`. -/
def StaysInNodeModules (path target : String) : Prop :=
  Stays ["node_modules"] (resolve [] (Python.split path "/").dropLast) (Python.split target "/")

/-- What is known of a link that is accepted. -/
structure AcceptedLink (path target : String) : Prop where
  directory : (Python.split path "/").dropLast = "node_modules" :: linkDirectories path
  noParents : ∀ part ∈ linkDirectories path, part ≠ ".."
  climb : highestClimb (Python.split target "/") ≤ (linkDirectories path).length

theorem requireSafePath_ok {value : Json} {field path : String}
    (h : requireSafePath value field = .ok path) : isSafePath path = true := by
  simp only [requireSafePath, bind_eq_ok, refuseIf_eq_ok] at h
  obtain ⟨text, -, -, hsafe, h⟩ := h
  cases h
  simpa using hsafe

/-- The parts of a path below `node_modules`. -/
theorem split_of_below {path : String} (h : Python.startsWith path "node_modules/" = true) :
    ∃ first rest, Python.split path "/" = "node_modules" :: first :: rest := by
  obtain ⟨after, hafter⟩ := List.isPrefixOf_iff_prefix.mp h
  have htoList : path.toList = "node_modules".toList ++ '/' :: after := hafter.symm
  have hfree : '/' ∉ "node_modules".toList := by decide
  have hsplit : Python.split path "/" =
      "node_modules" :: (Python.splitChars ['/'] 0 [] after).map String.ofList := by
    show (Python.splitChars ['/'] 0 [] path.toList).map String.ofList = _
    rw [htoList, Python.splitChars_singleton hfree, List.map_cons]
    rfl
  obtain ⟨first, rest, hfields⟩ :=
    List.exists_cons_of_ne_nil (Python.splitChars_ne_nil ['/'] 0 [] after)
  exact ⟨String.ofList first, rest.map String.ofList, by rw [hsplit, hfields]; rfl⟩

theorem requireRelativeLinkTarget_ok {value : Json} {path target : String}
    (hbelow : Python.startsWith path "node_modules/" = true) (hsafe : isSafePath path = true)
    (h : requireRelativeLinkTarget value path = .ok target) : AcceptedLink path target := by
  simp only [requireRelativeLinkTarget, bind_eq_ok, refuseIf_eq_ok] at h
  obtain ⟨text, -, -, -, -, hnormal, resolved, hresolved, -, -, h⟩ := h
  cases h
  obtain ⟨first, rest, hsplit⟩ := split_of_below hbelow
  have hdirectory : (Python.split path "/").dropLast = "node_modules" :: linkDirectories path := by
    rw [linkDirectories, hsplit]
    rfl
  have hnormalized : ∀ part ∈ Python.split target "/", part ≠ "" ∧ part ≠ "." := by
    simpa using hnormal
  -- so the target has the parts that it is split into
  have hparts : parts target = Python.split target "/" :=
    List.filter_eq_self.mpr fun part hpart => by simpa using hnormalized part hpart
  rw [hparts, hdirectory] at hresolved
  refine ⟨hdirectory, fun part hpart hup => ?_,
    (resolveTarget_eq_ok (fun part hpart => (hnormalized part hpart).2) hresolved).1⟩
  have hmem : part ∈ Python.split path "/" :=
    List.dropLast_subset _ (List.mem_of_mem_tail hpart)
  have hpartSafe := List.all_eq_true.mp hsafe part hmem
  simp [hup] at hpartSafe

/-- A link stays exactly if its target climbs no higher than there are directories, without those
that are `.`. -/
theorem AcceptedLink.stays_iff {path target : String} (h : AcceptedLink path target) :
    StaysInNodeModules path target ↔
      highestClimb (Python.split target "/") ≤ (linkDirectories path).countP (· ≠ ".") := by
  have hresolve : resolve [] (Python.split path "/").dropLast =
      ["node_modules"] ++ (linkDirectories path).filter (fun part => part ≠ ".") := by
    rw [h.directory, resolve_of_names (List.forall_mem_cons.mpr ⟨by decide, h.noParents⟩)]
    rfl
  rw [StaysInNodeModules, hresolve, Python.Posix.stays_iff (List.cons_ne_nil _ _), List.countP_eq_length_filter]

section Records

variable [Python.UnicodeDatabase]

theorem normalizeDependencyFile_symlink {rawRecord : Json} {path target : String}
    (h : normalizeDependencyFile rawRecord = .ok (.symlink path target)) : AcceptedLink path target := by
  unfold normalizeDependencyFile at h
  split at h
  · split at h
    · split at h
      · simp only [bind_eq_ok] at h
        obtain ⟨_, _, _, _, _, _, _, _, _, _, _, _, _, _, h⟩ := h
        cases h
      · split at h
        · simp only [bind_eq_ok] at h
          obtain ⟨_, _, value, _, path', hpath, value', _, target', htarget, h⟩ := h
          cases h
          simp only [requireDependencyPath, bind_eq_ok, refuseIf_eq_ok] at hpath
          obtain ⟨text, htext, _, hbelow, hpath⟩ := hpath
          cases hpath
          exact requireRelativeLinkTarget_ok (by simpa using hbelow) (requireSafePath_ok htext) htarget
        · cases h
    · cases h
  · cases h

theorem mem_of_normalizeDependencyFiles {value : Json} {records : List DependencyFileRecord}
    (h : normalizeDependencyFiles value = .ok records) {record : DependencyFileRecord}
    (hrecord : record ∈ records) : ∃ rawRecord, normalizeDependencyFile rawRecord = .ok record := by
  unfold normalizeDependencyFiles at h
  split at h
  · simp only [bind_eq_ok, refuseIf_eq_ok] at h
    obtain ⟨read, hread, _, _, _, _, h⟩ := h
    cases h
    obtain ⟨rawRecord, -, hraw⟩ := mem_of_mapM hread hrecord
    exact ⟨rawRecord, hraw⟩
  · cases h

/-- **Links.** In a list of dependency files that is accepted, the links stay within `node_modules`
exactly if each of them is in directories none of which is `.`, or climbs no higher than there are
directories without those. -/
theorem link_containment_iff (value : Json) (records : List DependencyFileRecord)
    (h : normalizeDependencyFiles value = .ok records) :
    (∀ path target, .symlink path target ∈ records → StaysInNodeModules path target) ↔
      ∀ path target, .symlink path target ∈ records → "." ∉ linkDirectories path ∨
        highestClimb (Python.split target "/") ≤ (linkDirectories path).countP (· ≠ ".") := by
  have hlink {path target : String} (hrecord : .symlink path target ∈ records) :
      AcceptedLink path target := by
    obtain ⟨rawRecord, hraw⟩ := mem_of_normalizeDependencyFiles h hrecord
    exact normalizeDependencyFile_symlink hraw
  constructor
  · intro hstays path target hrecord
    exact .inr ((hlink hrecord).stays_iff.mp (hstays path target hrecord))
  · intro hcondition path target hrecord
    have haccepted := hlink hrecord
    apply haccepted.stays_iff.mpr
    rcases hcondition path target hrecord with hdots | hclimb
    · -- every directory counts
      have hall : (linkDirectories path).countP (· ≠ ".") = (linkDirectories path).length := by
        refine List.countP_eq_length.mpr fun part hpart => ?_
        simpa using fun heq : part = "." => hdots (heq ▸ hpart)
      rw [hall]
      exact haccepted.climb
    · exact hclimb

end Records

/-! ## §3 Two lists of links -/

/-- The document of a link. -/
def linkDocument (path target : String) : Json :=
  .obj [("kind", .str "symlink"), ("path", .str path), ("target", .str target)]

/-- A link in a directory `.` that leads out of `node_modules`. -/
theorem dotted_link_escapes :
    ¬∀ [Python.UnicodeDatabase] (value : Json) (records : List DependencyFileRecord),
      normalizeDependencyFiles value = .ok records →
        ∀ path target, .symlink path target ∈ records → StaysInNodeModules path target := by
  intro hclaim
  let _ := Python.asciiDatabase
  have hstays := hclaim (.arr [linkDocument "node_modules/./link" "../x"])
    [.symlink "node_modules/./link" "../x"] (by decide +kernel) "node_modules/./link" "../x" (by simp)
  have hout := hstays [".."] (by decide +kernel)
  exact absurd hout (by decide +kernel)

/-- The executables of a package lead to its files. -/
theorem bin_link_stays :
    StaysInNodeModules "node_modules/.bin/esbuild" "../esbuild/bin/esbuild" := by
  let _ := Python.asciiDatabase
  refine (link_containment_iff (.arr [linkDocument "node_modules/.bin/esbuild" "../esbuild/bin/esbuild"])
    [.symlink "node_modules/.bin/esbuild" "../esbuild/bin/esbuild"] (by decide +kernel)).mpr ?_ _ _
      (List.mem_singleton_self _)
  intro path target hrecord
  cases List.mem_singleton.mp hrecord
  exact .inl (by decide +kernel)

end BattleBelief.Oracle.Manifests
