import BattleBelief.Oracle.Installation

/-!
# Completeness of the Collectors

What the collectors must give for a tree of directories and files: one record for each file, in the
order of the paths. The walk of `visit` finds the files in the order of their names, directory by
directory; `collect_dependency_file_records` sorts what it found and `collect_dist_records` does not.

- `visit_eq_ok`: a walk gives the records of all files, in the order of their names
- `collect_dist_records_iff`: the distribution's collector succeeds exactly when no file straddles
  another
- `collectors_exact_iff`: so the collectors and verifiers are exact in these trees and no others
-/

namespace BattleBelief.Oracle.Installation

open Runs
open PathOrder
open Manifests (FileRecord DependencyFileRecord)

/-! ## §1 Trees and Their Files -/

/-- Directories and regular files only, with distinct names that hold no `/`. -/
inductive Entry.Regular : Entry → Prop where
  | file {content : List Nat} : Regular (.file content)
  | directory {entries : List (String × Entry)} :
      (entries.map Prod.fst).Nodup → (∀ entry ∈ entries, '/' ∉ entry.1.toList) →
      (∀ entry ∈ entries, Regular entry.2) → Regular (.directory entries)

/-- A file below an entry, with the names on the way to it. -/
inductive Entry.FileAt : Entry → List String → List Nat → Prop where
  | here {content : List Nat} : FileAt (.file content) [] content
  | within {entries : List (String × Entry)} {name : String} {entry : Entry} {path : List String}
      {content : List Nat} :
      (name, entry) ∈ entries → FileAt entry path content →
      FileAt (.directory entries) (name :: path) content

/-- A directory tree with a file in it. -/
structure Tree where
  entries : List (String × Entry)
  regular : (Entry.directory entries).Regular
  hasFile : ∃ path content, (Entry.directory entries).FileAt path content

abbrev Tree.entry (tree : Tree) : Entry := .directory tree.entries

/-- The names on a path, as characters. -/
def names (path : List String) : List (List Char) := path.map String.toList

theorem names_cons (name : String) (path : List String) :
    names (name :: path) = name.toList :: names path := rfl

theorem names_injective : Function.Injective names :=
  List.map_injective_iff.mpr fun _ _ h => String.toList_injective h

/-- The text of a path has its names between slashes. -/
theorem toList_join (path : List String) :
    (Python.join "/" path).toList = written '/' (names path) := by
  induction path with
  | nil => rfl
  | cons name rest ih =>
    cases rest with
    | nil => rfl
    | cons next rest =>
      rw [Python.join, String.toList_append, String.toList_append, ih]
      · simp [names, written]
      · simp

theorem Entry.fileAt_directory {entries : List (String × Entry)} {path : List String}
    {content : List Nat} :
    (Entry.directory entries).FileAt path content ↔
      ∃ entry ∈ entries, ∃ below, path = entry.1 :: below ∧ entry.2.FileAt below content := by
  constructor
  · intro h
    cases h with
    | within hmem h => exact ⟨_, hmem, _, rfl, h⟩
  · rintro ⟨entry, hmem, below, rfl, h⟩
    exact .within hmem h

/-- No name on the way to a file holds the separator. -/
theorem Entry.Regular.names_apart {entry : Entry} (h : entry.Regular) {path : List String}
    {content : List Nat} (hfile : entry.FileAt path content) : ∀ name ∈ names path, '/' ∉ name := by
  induction h generalizing path with
  | file =>
    cases hfile
    simp [names]
  | @directory entries _ hnames _ ih =>
    obtain ⟨entry, hmem, below, rfl, hbelow⟩ := fileAt_directory.mp hfile
    intro name hname
    rcases List.mem_cons.mp hname with rfl | hname
    · exact hnames entry hmem
    · exact ih entry hmem hbelow name hname

/-- No file is below another, and a path has one content. -/
theorem Entry.Regular.fileAt_unique {entry : Entry} (h : entry.Regular) {path other : List String}
    {content content' : List Nat} (hfile : entry.FileAt path content)
    (hother : entry.FileAt other content') (hextends : path <+: other) :
    path = other ∧ content = content' := by
  induction h generalizing path other with
  | file =>
    cases hfile
    cases hother
    exact ⟨rfl, rfl⟩
  | @directory entries hnodup _ _ ih =>
    obtain ⟨first, hfirst, below, rfl, hbelow⟩ := fileAt_directory.mp hfile
    obtain ⟨second, hsecond, below', rfl, hbelow'⟩ := fileAt_directory.mp hother
    obtain ⟨hname, hbeneath⟩ := List.cons_prefix_cons.mp hextends
    have hsame : first = second := List.inj_on_of_nodup_map hnodup hfirst hsecond hname
    subst hsame
    obtain ⟨rfl, hcontent⟩ := ih first hfirst hbelow hbelow' hbeneath
    exact ⟨rfl, hcontent⟩

/-! ## §2 The Walk -/

/-- All files of an entry, in the order of the names on their paths. -/
structure Listed (entry : Entry) (files : List (List String × List Nat)) : Prop where
  ordered : (files.map fun file => names file.1).Pairwise (· < ·)
  complete : ∀ file, file ∈ files ↔ entry.FileAt file.1 file.2

section Walk

variable {ρ : Type} {record : List String → Entry → Except BuildOracleError ρ}
variable {make : List String → List Nat → ρ}

theorem visits_eq (path : List String) (entries : List (String × Entry)) :
    visits record path entries =
      entries.map fun entry => (entry.1, visit record (path ++ [entry.1]) entry.2) := by
  induction entries with
  | nil => rfl
  | cons entry rest ih => rw [visits, List.map_cons, ih]

/-- A directory's entries are visited by name. -/
theorem visit_directory (path : List String) (entries : List (String × Entry)) :
    visit record path (.directory entries) =
      ((sortedByName entries).mapM fun entry => visit record (path ++ [entry.1]) entry.2).map
        List.flatten := by
  have hsorted : sortedByName (visits record path entries) =
      (sortedByName entries).map fun entry =>
        (entry.1, visit record (path ++ [entry.1]) entry.2) := by
    rw [visits_eq, sortedByName, sortedByName]
    exact (List.map_insertionSort
      (fun entry other : String × Entry => entry.1 ≤ other.1)
      (fun entry other : String × Except BuildOracleError (List ρ) => entry.1 ≤ other.1)
      _ entries fun _ _ _ _ => Iff.rfl).symm
  rw [visit, hsorted, List.mapM_map]
  rfl

/-- What the walk gives for an entry: the records of its files, wherever it is. -/
def Finds (record : List String → Entry → Except BuildOracleError ρ)
    (make : List String → List Nat → ρ) (entry : Entry) : Prop :=
  ∃ files, Listed entry files ∧ ∀ path,
    visit record path entry = .ok (files.map fun file => make (path ++ file.1) file.2)

/-- Entries in the order of their names, each with its files. -/
theorem finds_entries {entries : List (String × Entry)}
    (hordered : (entries.map Prod.fst).Pairwise (· < ·))
    (hfinds : ∀ entry ∈ entries, Finds record make entry.2) :
    ∃ files, Listed (.directory entries) files ∧ ∀ path,
      (entries.mapM fun entry => visit record (path ++ [entry.1]) entry.2).map List.flatten =
        .ok (files.map fun file => make (path ++ file.1) file.2) := by
  induction entries with
  | nil =>
    refine ⟨[], ⟨List.Pairwise.nil, fun file => ?_⟩, fun path => rfl⟩
    simp [Entry.fileAt_directory]
  | cons entry rest ih =>
    obtain ⟨hfirst, hrest⟩ := List.pairwise_cons.mp hordered
    obtain ⟨files, hlisted, hvisit⟩ := hfinds entry List.mem_cons_self
    obtain ⟨others, hothers, hvisits⟩ :=
      ih hrest fun other hother => hfinds other (List.mem_cons_of_mem _ hother)
    refine ⟨files.map (fun file => (entry.1 :: file.1, file.2)) ++ others, ⟨?_, ?_⟩, ?_⟩
    · -- the entry's own files before those of the entries with later names
      rw [List.map_append, List.pairwise_append]
      refine ⟨?_, hothers.ordered, ?_⟩
      · have hcons := hlisted.ordered
        rw [List.map_map, List.pairwise_map]
        rw [List.pairwise_map] at hcons
        exact hcons.imp fun hlt => List.cons_lt_cons_self.mpr hlt
      · intro path hpath other hother
        obtain ⟨_, hmem, rfl⟩ := List.mem_map.mp hpath
        obtain ⟨file, _, rfl⟩ := List.mem_map.mp hmem
        obtain ⟨file', hfile', rfl⟩ := List.mem_map.mp hother
        obtain ⟨later, hlater, below, hbelow, _⟩ :=
          Entry.fileAt_directory.mp ((hothers.complete file').mp hfile')
        rw [hbelow]
        exact List.cons_lt_cons_iff.mpr (.inl (String.lt_iff_toList_lt.mp
          (hfirst later.1 (List.mem_map_of_mem hlater))))
    · intro file
      rw [List.mem_append, hothers.complete, Entry.fileAt_directory, Entry.fileAt_directory]
      constructor
      · rintro (hmem | ⟨later, hlater, hbelow⟩)
        · obtain ⟨found, hfound, rfl⟩ := List.mem_map.mp hmem
          exact ⟨entry, List.mem_cons_self, found.1, rfl, (hlisted.complete found).mp hfound⟩
        · exact ⟨later, List.mem_cons_of_mem _ hlater, hbelow⟩
      · rintro ⟨other, hother, below, hpath, hbelow⟩
        rcases List.mem_cons.mp hother with rfl | hother
        · refine .inl (List.mem_map.mpr ⟨(below, file.2), (hlisted.complete _).mpr hbelow, ?_⟩)
          rw [← hpath]
        · exact .inr ⟨other, hother, below, hpath, hbelow⟩
    · intro path
      obtain ⟨lists, hlists, hflatten⟩ := map_eq_ok.mp (hvisits path)
      rw [List.mapM_cons, hvisit, hlists]
      simp only [bind, Except.bind, pure, Except.pure, Except.map, List.flatten_cons, hflatten,
        List.map_append, List.map_map, Function.comp_def, List.append_assoc, List.singleton_append]

/-- A walk gives the records of all files, in the order of their names. -/
theorem visit_eq_ok (hmake : ∀ path content, record path (.file content) = .ok (make path content))
    {entry : Entry} (h : entry.Regular) : Finds record make entry := by
  induction h with
  | @file content =>
    refine ⟨[([], content)], ⟨List.pairwise_singleton _ _, fun file => ?_⟩, fun path => ?_⟩
    · constructor
      · intro hmem
        rw [List.mem_singleton.mp hmem]
        exact .here
      · obtain ⟨path, content'⟩ := file
        intro hfile
        cases hfile
        exact List.mem_singleton_self _
    · rw [visit, hmake, List.map_singleton, List.append_nil]
      rfl
  | @directory entries hnodup _ _ ih =>
    have hperm : (sortedByName entries).Perm entries := List.perm_insertionSort _ _
    have hordered : ((sortedByName entries).map Prod.fst).Pairwise (· < ·) := by
      rw [sortedByName, Python.map_insertionSort]
      exact Python.sorted_strict hnodup
    obtain ⟨files, hlisted, hvisit⟩ :=
      finds_entries hordered fun entry hentry => ih entry (hperm.mem_iff.mp hentry)
    refine ⟨files, ⟨hlisted.ordered, fun file => ?_⟩, fun path => ?_⟩
    · rw [hlisted.complete, Entry.fileAt_directory, Entry.fileAt_directory]
      simp only [hperm.mem_iff]
    · rw [visit_directory]
      exact hvisit path

end Walk

/-! ## §3 Records of a Tree -/

/-- Two trees with the same files. -/
def SameFiles (tree other : Tree) : Prop :=
  ∀ path content, tree.entry.FileAt path content ↔ other.entry.FileAt path content

/-- Different contents in the trees have different digests. -/
def DigestsApart (tree other : Tree) : Prop :=
  ∀ path content path' content', tree.entry.FileAt path content →
    other.entry.FileAt path' content' → sha256Digest content = sha256Digest content' →
    content = content'

/-- A file of the tree lies below a directory that has a file beside it, or below an entry beside
it, under a longer name that goes on with a character before `/`. -/
def Straddling (tree : Tree) : Prop :=
  ∃ path content other content', tree.entry.FileAt path content ∧
    tree.entry.FileAt other content' ∧ Straddles '/' (names path) (names other)

/-- One record for each file of the tree, in strictly increasing order of the paths. -/
structure RecordsOf {ρ : Type} (make : List String → List Nat → ρ) (pathOf : ρ → String)
    (root : String) (tree : Tree) (records : List ρ) : Prop where
  ordered : (records.map pathOf).Pairwise (· < ·)
  complete : ∃ files : List (List String × List Nat), files.Nodup ∧
    (∀ file, file ∈ files ↔ tree.entry.FileAt file.1 file.2) ∧
    records = files.map fun file => make (root :: file.1) file.2

abbrev DistRecordsOf (tree : Tree) (records : List FileRecord) : Prop :=
  RecordsOf fileRecord Prod.fst "dist" tree records

abbrev DependencyRecordsOf (tree : Tree) (records : List DependencyFileRecord) : Prop :=
  RecordsOf dependencyFileRecord DependencyFileRecord.path "node_modules" tree records

/-- Sorted and without duplicates is strictly increasing. -/
theorem not_notCanonical_iff {paths : List String} :
    ¬notCanonical paths ↔ paths.Pairwise (· < ·) := by
  rw [notCanonical, not_or, not_not, not_not]
  constructor
  · rintro ⟨hsorted, hnodup⟩
    rw [hsorted]
    exact Python.sorted_strict hnodup
  · intro hlt
    refine ⟨(List.Pairwise.insertionSort_eq (hlt.imp fun hlt => hlt.le)).symm, ?_⟩
    exact hlt.imp fun hlt => hlt.ne

theorem Listed.nodup {entry : Entry} {files : List (List String × List Nat)}
    (hlisted : Listed entry files) : files.Nodup := by
  have hordered := hlisted.ordered
  rw [List.pairwise_map] at hordered
  refine hordered.imp ?_
  rintro file other hlt rfl
  exact lt_irrefl _ hlt

section Paths

variable {root : String} (hroot : '/' ∉ root.toList)
include hroot

/-- No name on a path below the root holds the separator. -/
theorem names_apart {tree : Tree} {path : List String} {content : List Nat}
    (hfile : tree.entry.FileAt path content) : ∀ name ∈ names (root :: path), '/' ∉ name := by
  intro name hname
  rcases List.mem_cons.mp hname with rfl | hname
  · exact hroot
  · exact tree.regular.names_apart hfile name hname

/-- A path's text determines the path. -/
theorem join_injective {tree other : Tree} {path path' : List String} {content content' : List Nat}
    (hfile : tree.entry.FileAt path content) (hfile' : other.entry.FileAt path' content')
    (h : Python.join "/" (root :: path) = Python.join "/" (root :: path')) : path = path' := by
  have hwritten := congrArg String.toList h
  rw [toList_join, toList_join] at hwritten
  have hnames := written_injective (names_apart hroot hfile) (names_apart hroot hfile')
    (List.cons_ne_nil _ _) (List.cons_ne_nil _ _) hwritten
  exact (List.cons.inj (names_injective hnames)).2

/-- The files in the order of their names are in the order of their paths exactly when none
straddles another. -/
theorem paths_ordered_iff {tree : Tree} {files : List (List String × List Nat)}
    (hlisted : Listed tree.entry files) :
    (files.map fun file => Python.join "/" (root :: file.1)).Pairwise (· < ·) ↔
      ¬Straddling tree := by
  have htext : ∀ path other : List String,
      Python.join "/" (root :: path) < Python.join "/" (root :: other) ↔
        written '/' (names (root :: path)) < written '/' (names (root :: other)) := by
    intro path other
    rw [String.lt_iff_toList_lt, toList_join, toList_join]
  have hpaths : ((files.map fun file => names (root :: file.1)).map (written '/')).Pairwise
      (· < ·) ↔ _ := pairwise_written_lt_iff ?_ ?_ ?_
  · rw [List.map_map, List.pairwise_map] at hpaths
    rw [List.pairwise_map]
    simp only [htext]
    refine hpaths.trans ?_
    simp only [List.forall_mem_map, names_cons, straddles_cons]
    constructor
    · rintro hnone ⟨path, content, other, content', hfile, hother, hstraddles⟩
      exact hnone (path, content) ((hlisted.complete _).mpr hfile) (other, content')
        ((hlisted.complete _).mpr hother) hstraddles
    · intro hnone file hfile other hother hstraddles
      exact hnone ⟨file.1, file.2, other.1, other.2, (hlisted.complete file).mp hfile,
        (hlisted.complete other).mp hother, hstraddles⟩
  · have hordered := hlisted.ordered
    rw [List.pairwise_map] at hordered ⊢
    exact hordered.imp fun hlt => List.cons_lt_cons_self.mpr hlt
  · simp only [List.forall_mem_map]
    intro file hfile
    exact names_apart hroot ((hlisted.complete file).mp hfile)
  · simp only [List.forall_mem_map, names_cons]
    intro file hfile other hother hextends
    have hbelow := (List.prefix_map_iff_of_injective fun _ _ h => String.toList_injective h).mp
      (List.cons_prefix_cons.mp hextends).2
    obtain ⟨hpath, _⟩ := tree.regular.fileAt_unique ((hlisted.complete file).mp hfile)
      ((hlisted.complete other).mp hother) hbelow
    rw [hpath]

/-- The paths of different files are different. -/
theorem paths_nodup {tree : Tree} {files : List (List String × List Nat)}
    (hlisted : Listed tree.entry files) :
    (files.map fun file => Python.join "/" (root :: file.1)).Nodup := by
  refine hlisted.nodup.map_on ?_
  intro file hfile other hother h
  have hfile := (hlisted.complete file).mp hfile
  have hother := (hlisted.complete other).mp hother
  have hpath := join_injective hroot hfile hother h
  have hcontent := (tree.regular.fileAt_unique hfile hother (hpath ▸ List.prefix_rfl)).2
  exact Prod.ext hpath hcontent

end Paths

section Records

variable {ρ : Type} {make : List String → List Nat → ρ} {pathOf : ρ → String} {root : String}
variable {tree other : Tree} {records records' : List ρ}

theorem RecordsOf.mem_iff (h : RecordsOf make pathOf root tree records) (record : ρ) :
    record ∈ records ↔
      ∃ path content, tree.entry.FileAt path content ∧ record = make (root :: path) content := by
  obtain ⟨files, _, hfiles, rfl⟩ := h.complete
  rw [List.mem_map]
  constructor
  · rintro ⟨file, hfile, rfl⟩
    exact ⟨file.1, file.2, (hfiles file).mp hfile, rfl⟩
  · rintro ⟨path, content, hfile, rfl⟩
    exact ⟨(path, content), (hfiles _).mpr hfile, rfl⟩

theorem RecordsOf.nodup (h : RecordsOf make pathOf root tree records) : records.Nodup := by
  have hordered := h.ordered
  rw [List.pairwise_map] at hordered
  refine hordered.imp ?_
  rintro record other hlt rfl
  exact lt_irrefl _ hlt

/-- A file's record tells its path, and its content where digests are apart. -/
theorem file_of_record (hroot : '/' ∉ root.toList)
    (hpath : ∀ path content, pathOf (make path content) = Python.join "/" path)
    (hdigest : ∀ {path content path' content'}, make path content = make path' content' →
      sha256Digest content = sha256Digest content')
    (hapart : DigestsApart tree other) {path path' : List String} {content content' : List Nat}
    (hfile : tree.entry.FileAt path content) (hfile' : other.entry.FileAt path' content')
    (h : make (root :: path) content = make (root :: path') content') :
    path = path' ∧ content = content' := by
  have hjoin := congrArg pathOf h
  rw [hpath, hpath] at hjoin
  exact ⟨join_injective hroot hfile hfile' hjoin,
    hapart path content path' content' hfile hfile' (hdigest h)⟩

/-- Two trees have the same records exactly when they have the same files. -/
theorem records_eq_iff (hroot : '/' ∉ root.toList)
    (hpath : ∀ path content, pathOf (make path content) = Python.join "/" path)
    (hdigest : ∀ {path content path' content'}, make path content = make path' content' →
      sha256Digest content = sha256Digest content')
    (h : RecordsOf make pathOf root tree records) (h' : RecordsOf make pathOf root other records')
    (hapart : DigestsApart tree other) : records = records' ↔ SameFiles tree other := by
  constructor
  · intro heq path content
    constructor
    · intro hfile
      have hmem := (h.mem_iff _).mpr ⟨path, content, hfile, rfl⟩
      obtain ⟨path', content', hfile', hmake⟩ := (h'.mem_iff _).mp (heq ▸ hmem)
      obtain ⟨rfl, rfl⟩ := file_of_record hroot hpath hdigest hapart hfile hfile' hmake
      exact hfile'
    · intro hfile
      have hmem := (h'.mem_iff _).mpr ⟨path, content, hfile, rfl⟩
      obtain ⟨path', content', hfile', hmake⟩ := (h.mem_iff _).mp (heq ▸ hmem)
      obtain ⟨rfl, rfl⟩ := file_of_record hroot hpath hdigest hapart hfile' hfile hmake.symm
      exact hfile'
  · intro hsame
    have hmem : ∀ record, record ∈ records ↔ record ∈ records' := by
      intro record
      rw [h.mem_iff, h'.mem_iff]
      simp only [hsame _ _]
    have hperm : records.Perm records' := (List.perm_ext_iff_of_nodup h.nodup h'.nodup).mpr hmem
    -- two lists in strict order with the same members are equal
    have hordered := h.ordered
    have hordered' := h'.ordered
    rw [List.pairwise_map] at hordered hordered'
    refine hperm.eq_of_pairwise ?_ hordered hordered'
    intro record other _ _ hlt hback
    exact absurd hback (lt_asymm hlt)

theorem verifyRecords_eq_ok [DecidableEq ρ] {collected : Except BuildOracleError (List ρ)}
    {expected : List ρ} {detail : String} :
    verifyRecords collected expected detail = .ok () ↔ collected = .ok expected := by
  cases collected with
  | ok actual => simp [verifyRecords]
  | error error =>
    rw [verifyRecords]
    split <;> simp

end Records

/-! ## §4 The Two Collectors -/

/-- The walk of the distribution succeeds on every tree. -/
theorem visit_dist (tree : Tree) : ∃ files, Listed tree.entry files ∧
    visit distRecord ["dist"] tree.entry =
      .ok (files.map fun file => fileRecord ("dist" :: file.1) file.2) := by
  have hmake : ∀ path content, distRecord path (.file content) = .ok (fileRecord path content) :=
    fun _ _ => rfl
  obtain ⟨files, hlisted, hvisit⟩ := visit_eq_ok hmake tree.regular
  exact ⟨files, hlisted, hvisit ["dist"]⟩

theorem Listed.ne_nil {tree : Tree} {files : List (List String × List Nat)}
    (hlisted : Listed tree.entry files) : files ≠ [] := by
  obtain ⟨path, content, hfile⟩ := tree.hasFile
  exact List.ne_nil_of_mem ((hlisted.complete (path, content)).mpr hfile)

/-- The distribution's collector succeeds exactly when no file straddles another. -/
theorem collect_dist_records_iff (tree : Tree) :
    (∃ records, collectDistRecords "dist" (some tree.entry) = .ok records ∧
      DistRecordsOf tree records) ↔ ¬Straddling tree := by
  obtain ⟨files, hlisted, hvisit⟩ := visit_dist tree
  have hpaths : (files.map fun file => fileRecord ("dist" :: file.1) file.2).map Prod.fst =
      files.map fun file => Python.join "/" ("dist" :: file.1) := by
    rw [List.map_map]
    rfl
  have hroot : '/' ∉ "dist".toList := by decide
  have hordered := paths_ordered_iff hroot hlisted
  rw [← hpaths] at hordered
  constructor
  · rintro ⟨records, hrecords, _⟩
    simp only [collectDistRecords, hvisit, bind_eq_ok, refuseIf_eq_ok] at hrecords
    obtain ⟨_, _, records', hrecords', _, _, _, hcanonical, _⟩ := hrecords
    cases hrecords'
    exact hordered.mp (not_notCanonical_iff.mp hcanonical)
  · intro hnone
    have hlt := hordered.mpr hnone
    refine ⟨_, ?_, hlt, files, hlisted.nodup, hlisted.complete, rfl⟩
    simp only [collectDistRecords, hvisit, bind_eq_ok, refuseIf_eq_ok]
    refine ⟨(), by simp, _, rfl, (), ?_, (), not_notCanonical_iff.mpr hlt, rfl⟩
    simpa using hlisted.ne_nil

/-- The dependencies' collector succeeds on every tree. -/
theorem collect_dependency_file_records_ok (tree : Tree) :
    ∃ records, collectDependencyFileRecords "node_modules" (some tree.entry) = .ok records ∧
      DependencyRecordsOf tree records := by
  have hmake : ∀ path content,
      dependencyRecord path (.file content) = .ok (dependencyFileRecord path content) :=
    fun _ _ => rfl
  obtain ⟨files, hlisted, hvisits⟩ := visit_eq_ok hmake tree.regular
  have hvisit := hvisits ["node_modules"]
  let key (file : List String × List Nat) := Python.join "/" ("node_modules" :: file.1)
  let make (file : List String × List Nat) := dependencyFileRecord ("node_modules" :: file.1) file.2
  let sortedFiles := files.insertionSort fun file other => key file ≤ key other
  have hperm : sortedFiles.Perm files := List.perm_insertionSort _ _
  have hsorted : (files.map make).insertionSort (fun record other => record.path ≤ other.path) =
      sortedFiles.map make :=
    (List.map_insertionSort (fun file other => key file ≤ key other) _ make files
      fun _ _ _ _ => Iff.rfl).symm
  have hlt : ((sortedFiles.map make).map DependencyFileRecord.path).Pairwise (· < ·) := by
    have hkeys : (sortedFiles.map make).map DependencyFileRecord.path =
        Python.sorted (files.map key) := by
      rw [List.map_map]
      exact Python.map_insertionSort key files
    rw [hkeys]
    exact Python.sorted_strict (paths_nodup (by decide) hlisted)
  refine ⟨sortedFiles.map make, ?_, hlt, sortedFiles, hperm.nodup_iff.mpr hlisted.nodup, ?_, rfl⟩
  · simp only [collectDependencyFileRecords, bind_eq_ok, refuseIf_eq_ok]
    refine ⟨files.map make, hvisit, (), ?_, by rw [hsorted]; rfl⟩
    rw [hsorted, not_or]
    refine ⟨?_, not_notCanonical_iff.mpr hlt⟩
    intro hnil
    rw [List.map_eq_nil_iff.mp hnil] at hperm
    exact hlisted.ne_nil hperm.nil_eq.symm
  · intro file
    rw [hperm.mem_iff]
    exact hlisted.complete file

/-! ## §5 Exactness -/

/-- Both collectors give one record for each file of the tree, and the verifiers accept the tree
against the records of the trees with the same files. -/
structure CollectorsExact (tree : Tree) : Prop where
  dist : ∃ records, collectDistRecords "dist" (some tree.entry) = .ok records ∧
    DistRecordsOf tree records
  dependencies : ∃ records,
    collectDependencyFileRecords "node_modules" (some tree.entry) = .ok records ∧
      DependencyRecordsOf tree records
  verifyDist : ∀ other records, DistRecordsOf other records → DigestsApart tree other →
    (verifyDistRecords "dist" (some tree.entry) records = .ok () ↔ SameFiles tree other)
  verifyDependencies : ∀ other records, DependencyRecordsOf other records →
    DigestsApart tree other →
    (verifyDependencyFileRecords "node_modules" (some tree.entry) records = .ok () ↔
      SameFiles tree other)

/-- A verifier accepts the records that its collector gives. -/
theorem verify_iff {ρ : Type} [DecidableEq ρ] {make : List String → List Nat → ρ}
    {pathOf : ρ → String} {root : String} {tree other : Tree} {actual expected : List ρ}
    {detail : String} (hroot : '/' ∉ root.toList)
    (hpath : ∀ path content, pathOf (make path content) = Python.join "/" path)
    (hdigest : ∀ {path content path' content'}, make path content = make path' content' →
      sha256Digest content = sha256Digest content')
    (hactual : RecordsOf make pathOf root tree actual)
    (hexpected : RecordsOf make pathOf root other expected) (hapart : DigestsApart tree other) :
    verifyRecords (.ok actual) expected detail = .ok () ↔ SameFiles tree other := by
  rw [verifyRecords_eq_ok, Except.ok.injEq]
  exact records_eq_iff hroot hpath hdigest hactual hexpected hapart

/-- The collectors and the verifiers are exact on a tree if and only if none of its files straddles
another one. -/
theorem collectors_exact_iff (tree : Tree) : CollectorsExact tree ↔ ¬Straddling tree := by
  constructor
  · intro hexact
    exact (collect_dist_records_iff tree).mp hexact.dist
  · intro hnone
    have hdist := (collect_dist_records_iff tree).mpr hnone
    have hdependencies := collect_dependency_file_records_ok tree
    refine ⟨hdist, hdependencies, ?_, ?_⟩
    · intro other expected hexpected hapart
      obtain ⟨actual, hcollected, hactual⟩ := hdist
      rw [verifyDistRecords, hcollected]
      refine verify_iff (by decide) (fun _ _ => rfl) ?_ hactual hexpected hapart
      intro path content path' content' h
      exact congrArg (fun record : FileRecord => record.2.1) h
    · intro other expected hexpected hapart
      obtain ⟨actual, hcollected, hactual⟩ := hdependencies
      rw [verifyDependencyFileRecords, hcollected]
      refine verify_iff (by decide) (fun _ _ => rfl) ?_ hactual hexpected hapart
      intro path content path' content' h
      exact (DependencyFileRecord.file.inj h).2.1

/-- A directory `a` with a file `x` in it, next to a file `a.js`. -/
def besideTree : Tree where
  entries := [("a", .directory [("x", .file [])]), ("a.js", .file [])]
  regular := by
    refine .directory (by decide) (by decide) ?_
    simp only [List.forall_mem_cons]
    refine ⟨.directory (by decide) (by decide) ?_, .file, by simp⟩
    simp only [List.forall_mem_cons]
    exact ⟨.file, by simp⟩
  hasFile := ⟨["a.js"], [], .within (List.mem_cons_of_mem _ List.mem_cons_self) .here⟩

/-- The distribution's collector fails on `a/x` next to `a.js`. -/
theorem collectors_not_exact : ¬∀ tree, CollectorsExact tree := by
  intro hexact
  obtain ⟨records, hrecords, _⟩ := (hexact besideTree).dist
  have hfails : collectDistRecords "dist" (some besideTree.entry) =
      .error (outputMissing "dist records are not canonical") := by
    rfl
  rw [hfails] at hrecords
  cases hrecords

end BattleBelief.Oracle.Installation
