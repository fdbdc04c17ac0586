import BattleBelief.Engine.Artifact
import BattleBelief.Library.Utf8
import Mathlib.Data.List.Infix

/-!
# Closure of the Installed Engine

What an accepted installation holds. The walk names its files one way, by the names on their paths;
the record and the manifest are brought to that spelling by the comparison with what the walk has
found, and the pins then say what each file contains.

- `actualPaths_ok`: an accepted walk finds the files of a directory, and no links
- `verifyClosure_ok`: what the inclusions between the sets of paths come to
- `verify_installation_exact`: the files of an accepted installation are the pinned ones
-/

namespace BattleBelief.EngineArtifact

open Runs
open Python (Json)

/-! ## §1 Installed Paths -/

namespace Installation

variable {install : Installation}

/-- A file of the installation. -/
def FileAt (install : Installation) (place : List String) (content : List Nat) : Prop :=
  install.find place = some (.file content)

/-- Below a directory, at any depth. -/
def Below (directory place : List String) : Prop := directory <+: place ∧ directory ≠ place

theorem mem_nodes_iff {place : List String} {node : Node} :
    (place, node) ∈ install.nodes ↔ install.find place = some node := by
  constructor
  · intro hmem
    exact Python.Dict.get?_of_mem install.nodup hmem
  · exact Python.Dict.mem_of_get?

/-- The parts of a file's path are the names on it. -/
theorem parts_join {place : List String} {node : Node} (h : install.find place = some node) :
    Python.Posix.parts (Python.join "/" place) = place := by
  obtain ⟨hne, hnames⟩ := install.named place (List.mem_map_of_mem (mem_nodes_iff.mpr h))
  refine Python.Posix.parts_join hne fun name hname => ?_
  exact ⟨(hnames name hname).1, (hnames name hname).2.1, (hnames name hname).2.2.2⟩

end Installation

variable {install : Installation}

theorem safeRecordPath_ok {value : String} {parts : List String}
    (h : safeRecordPath value = .ok parts) : parts = Python.Posix.parts value := by
  simp only [safeRecordPath, bind_eq_ok, refuseIf_eq_ok] at h
  obtain ⟨_, _, hparts⟩ := h
  exact (Except.ok.inj hparts).symm

/-- An installed path is a file that no link leads to. -/
theorem installedPath_ok {relative : String} {place : List String}
    (h : installedPath install relative = .ok place) :
    place = Python.Posix.parts relative ∧ (∃ content, install.FileAt place content) ∧
      ∀ start, start <+: place → install.isLink start = false := by
  simp only [installedPath, bind_eq_ok, refuseIf_eq_ok] at h
  obtain ⟨parts, hparts, _, hlinks, hfile⟩ := h
  split at hfile
  case h_1 content hfind =>
    cases hfile
    refine ⟨safeRecordPath_ok hparts, ⟨content, hfind⟩, ?_⟩
    intro start hstart
    rw [← Bool.not_eq_true]
    intro hlink
    exact hlinks ⟨start, (List.mem_inits _ _).mpr hstart, hlink⟩
  case h_2 => cases hfile

theorem readInstalled_ok {place : List String} {content : List Nat}
    (h : readInstalled install place = .ok content) : install.FileAt place content := by
  unfold readInstalled at h
  split at h
  case h_1 hfind =>
    cases h
    exact hfind
  case h_2 => cases h

/-! ## §2 The Walk -/

theorem actualPaths_eq_ok {directory : List String} {paths : List String}
    (h : actualPaths install directory = .ok paths) :
    (install.below directory).mapM visitNode = .ok paths := by
  simp only [actualPaths, bind_eq_ok, refuseIf_eq_ok] at h
  obtain ⟨_, _, hpaths⟩ := h
  exact hpaths

/-- What the walk visits: what lies below the directory and not behind a link. -/
theorem mem_below_iff {directory place : List String} {node : Node} :
    (place, node) ∈ install.below directory ↔
      install.find place = some node ∧ Installation.Below directory place ∧
        ∀ start, start <+: place → start ≠ place → Installation.Below directory start →
          install.isLink start = false := by
  simp only [Installation.below, List.mem_filter, Installation.mem_nodes_iff, Bool.and_eq_true,
    decide_eq_true_eq, List.all_eq_true, List.mem_inits, Bool.not_eq_true', Bool.and_eq_false_iff,
    decide_eq_false_iff_not, Installation.Below]
  constructor
  · rintro ⟨hfind, hbelow, hlinks⟩
    refine ⟨hfind, hbelow, fun start hstart hne hdirectory => ?_⟩
    rcases hlinks start hstart with hnot | hlink
    · exact absurd ⟨hdirectory.1, hdirectory.2, hne⟩ hnot
    · exact hlink
  · rintro ⟨hfind, hbelow, hlinks⟩
    refine ⟨hfind, hbelow, fun start hstart => ?_⟩
    by_cases hbetween : directory <+: start ∧ directory ≠ start ∧ start ≠ place
    · exact .inr (hlinks start hstart hbetween.2.2 ⟨hbetween.1, hbetween.2.1⟩)
    · exact .inl hbetween

/-- An accepted walk meets no link anywhere below its directory: it would have met the first one on
the way. -/
theorem isLink_of_actualPaths {directory : List String} {paths : List String}
    (h : actualPaths install directory = .ok paths) (place : List String)
    (hbelow : Installation.Below directory place) : install.isLink place = false := by
  -- by induction on how deep the link is
  induction hdepth : place.length using Nat.strong_induction_on generalizing place with
  | _ depth ih =>
    rw [← Bool.not_eq_true]
    intro hlink
    have hfind : install.find place = some .link := of_decide_eq_true hlink
    have hmem : (place, Node.link) ∈ install.below directory := by
      refine mem_below_iff.mpr ⟨hfind, hbelow, fun start hstart hne hdirectory => ?_⟩
      have hlt : start.length < place.length :=
        lt_of_le_of_ne hstart.length_le fun heq => hne (hstart.eq_of_length heq)
      exact ih start.length (hdepth ▸ hlt) start hdirectory rfl
    obtain ⟨path, _, hpath⟩ := exists_of_mapM (actualPaths_eq_ok h) hmem
    cases hpath

/-- An accepted walk finds the files below its directory. -/
theorem actualPaths_ok {directory : List String} {paths : List String}
    (h : actualPaths install directory = .ok paths) (path : String) :
    path ∈ paths ↔ ∃ place content, install.FileAt place content ∧
      Installation.Below directory place ∧ path = Python.join "/" place := by
  constructor
  · intro hpath
    obtain ⟨⟨place, node⟩, hmem, hnode⟩ := mem_of_mapM (actualPaths_eq_ok h) hpath
    obtain ⟨hfind, hbelow, _⟩ := mem_below_iff.mp hmem
    cases node with
    | link => cases hnode
    | file content => exact ⟨place, content, hfind, hbelow, (Except.ok.inj hnode).symm⟩
  · rintro ⟨place, content, hfile, hbelow, rfl⟩
    have hmem : (place, Node.file content) ∈ install.below directory :=
      mem_below_iff.mpr ⟨hfile, hbelow, fun start _ _ hdirectory =>
        isLink_of_actualPaths h start hdirectory⟩
    obtain ⟨path, hpath, hnode⟩ := exists_of_mapM (actualPaths_eq_ok h) hmem
    obtain rfl := Except.ok.inj hnode
    exact hpath

/-! ## §3 The Closure -/

/-- A file below the package or below the dist-info directory, by its path. -/
def InClosure (install : Installation) (distInfo path : String) : Prop :=
  ∃ place content, install.FileAt place content ∧
    (Installation.Below ["poke_engine"] place ∨
      Installation.Below (Python.Posix.parts distInfo) place) ∧ path = Python.join "/" place

theorem InClosure.parts {distInfo path : String} (h : InClosure install distInfo path) :
    (∃ content, install.FileAt (Python.Posix.parts path) content) ∧
      Python.join "/" (Python.Posix.parts path) = path := by
  obtain ⟨place, content, hfile, _, rfl⟩ := h
  rw [Installation.parts_join hfile]
  exact ⟨⟨content, hfile⟩, rfl⟩

/-- What an accepted closure says of the paths and the pins. -/
structure Closed (install : Installation) (distInfo : String)
    (original : List (String × Pin)) : Prop where
  pinned : ∀ path ∈ Python.Dict.keys original, InClosure install distInfo path
  known : ∀ path, InClosure install distInfo path →
    path ∈ Python.Dict.keys original ∨ path ∈ allowedAdded distInfo
  unlinked : ∀ path, InClosure install distInfo path → ∀ start,
    start <+: Python.Posix.parts path → install.isLink start = false
  contents : ∀ path pin, (path, pin) ∈ original → path ≠ distInfo ++ "/RECORD" →
    ∃ content, install.FileAt (Python.Posix.parts path) content ∧
      equalsText pin.1 (sha256Digest content) = true ∧
        equalsNumber pin.2 (content.length : Int) = true

theorem verifyRecord_ok {recordRelative : String} {original : List (String × Pin)}
    {item : String × RecordEntry} (h : verifyRecord install recordRelative original item = .ok ()) :
    (∀ start, start <+: Python.Posix.parts item.1 → install.isLink start = false) ∧
      (item.1 ≠ recordRelative → ∃ content, install.FileAt (Python.Posix.parts item.1) content ∧
        ∀ pin, Python.Dict.get? original item.1 = some pin →
          equalsText pin.1 (sha256Digest content) = true ∧
            equalsNumber pin.2 (content.length : Int) = true) := by
  obtain ⟨place, hplace, hrest⟩ := bind_eq_ok.mp h
  obtain ⟨rfl, _, hlinks⟩ := installedPath_ok hplace
  refine ⟨hlinks, fun hne => ?_⟩
  rw [if_neg hne] at hrest
  simp only [bind_eq_ok, refuseIf_eq_ok, not_or, not_not] at hrest
  obtain ⟨content, hread, _, ⟨hdigest, hsize⟩, hpin⟩ := hrest
  refine ⟨content, readInstalled_ok hread, fun pin hfind => ?_⟩
  rw [hfind] at hpin
  simpa [Pin.matches, hdigest, hsize] using hpin

theorem verifyClosure_ok {distInfo : String} {installed : List (String × RecordEntry)}
    {original : List (String × Pin)} (hnodup : (Python.Dict.keys original).Nodup)
    (h : verifyClosure install distInfo installed original = .ok ()) :
    Closed install distInfo original ∧ distInfo ++ "/RECORD" ∈ Python.Dict.keys original := by
  simp only [verifyClosure, bind_eq_ok, refuseIf_eq_ok, not_or, not_exists, not_and, not_not] at h
  obtain ⟨_, hrecord, _, ⟨hknown, hpinned⟩, _, hrecords, package, hpackage, info, hinfo, hsame⟩ := h
  have hclosure : ∀ path, path ∈ Python.Dict.keys installed ↔ InClosure install distInfo path := by
    intro path
    rw [Bool.not_eq_false, Python.Dict.sameSet_iff] at hsame
    rw [← hsame, List.mem_append, actualPaths_ok hpackage, actualPaths_ok hinfo]
    constructor
    · rintro (⟨place, content, hfile, hbelow, htext⟩ | ⟨place, content, hfile, hbelow, htext⟩)
      · exact ⟨place, content, hfile, .inl hbelow, htext⟩
      · exact ⟨place, content, hfile, .inr hbelow, htext⟩
    · rintro ⟨place, content, hfile, hbelow | hbelow, htext⟩
      · exact .inl ⟨place, content, hfile, hbelow, htext⟩
      · exact .inr ⟨place, content, hfile, hbelow, htext⟩
  have hitem : ∀ path, path ∈ Python.Dict.keys installed → ∃ entry,
      verifyRecord install (distInfo ++ "/RECORD") original (path, entry) = .ok () := by
    intro path hpath
    obtain ⟨⟨path, entry⟩, hmem, rfl⟩ := List.mem_map.mp hpath
    obtain ⟨_, _, hverify⟩ := exists_of_mapM hrecords hmem
    exact ⟨entry, hverify⟩
  refine ⟨⟨?_, ?_, ?_, ?_⟩, ?_⟩
  · intro path hpath
    exact (hclosure path).mp (hpinned path hpath)
  · intro path hpath
    exact List.mem_append.mp (hknown path ((hclosure path).mpr hpath))
  · intro path hpath
    obtain ⟨entry, hverify⟩ := hitem path ((hclosure path).mpr hpath)
    exact (verifyRecord_ok hverify).1
  · intro path pin hmem hne
    obtain ⟨entry, hverify⟩ := hitem path (hpinned path (List.mem_map_of_mem hmem))
    obtain ⟨content, hfile, hpin⟩ := (verifyRecord_ok hverify).2 hne
    exact ⟨content, hfile, hpin pin (Python.Dict.get?_of_mem hnodup hmem)⟩
  · obtain ⟨pin, hpin, _⟩ := Option.map_eq_some_iff.mp hrecord
    exact Python.Dict.mem_keys_iff.mpr ⟨pin, hpin⟩

/-- The dist-info directory is spelled as the walk spells it. -/
theorem join_distInfo {distInfo : String} (h : InClosure install distInfo (distInfo ++ "/RECORD"))
    {name : String} (hname : Python.Posix.parts name = [name]) :
    Python.join "/" (Python.Posix.parts (distInfo ++ "/" ++ name)) = distInfo ++ "/" ++ name := by
  have hrecord : distInfo ++ "/RECORD" = distInfo ++ "/" ++ "RECORD" := by
    rw [String.append_assoc]
    rfl
  have hjoin := h.parts.2
  have hparts : Python.Posix.parts "RECORD" = ["RECORD"] := by decide
  rw [hrecord, Python.Posix.parts_append, hparts] at hjoin
  rw [Python.Posix.parts_append, hname]
  by_cases hempty : Python.Posix.parts distInfo = []
  · -- the path would be absolute
    rw [hempty] at hjoin
    have hlength := congrArg (fun text => text.toList.length) hjoin
    simp [Python.join] at hlength
  · rw [Python.Posix.join_concat hempty] at hjoin ⊢
    have hsame : Python.join "/" (Python.Posix.parts distInfo) = distInfo := by
      have hlist := congrArg String.toList hjoin
      simp only [String.toList_append, List.append_cancel_right_eq] at hlist
      exact String.toList_injective hlist
    rw [hsame]

/-! ## §4 The Native Module -/

theorem isExtension_below {place : List String} {content : List Nat}
    (hfile : install.FileAt place content) (h : isExtension (Python.join "/" place) = true) :
    Installation.Below ["poke_engine"] place := by
  have hstart : Python.startsWith (Python.join "/" place) "poke_engine/poke_engine." = true :=
    (Bool.and_eq_true_iff.mp h).1
  obtain ⟨tail, htail⟩ := List.isPrefixOf_iff_prefix.mp hstart
  have htext : Python.join "/" place =
      "poke_engine" ++ "/" ++ ("poke_engine." ++ String.ofList tail) := by
    apply String.toList_injective
    rw [← htail]
    simp
  have hparts := Installation.parts_join hfile
  have hpackage : Python.Posix.parts "poke_engine" = ["poke_engine"] := by decide
  rw [htext, Python.Posix.parts_append, hpackage] at hparts
  refine ⟨⟨_, hparts⟩, ?_⟩
  rintro rfl
  -- the directory's own path is too short
  have hnot : Python.startsWith "poke_engine" "poke_engine/poke_engine." = false := by decide
  exact absurd hstart (by rw [Python.join, hnot]; decide)

/-- A long enough end of a text decides how it ends. -/
theorem endsWith_append {first second ending : String}
    (hlength : ending.toList.length ≤ second.toList.length)
    (h : Python.endsWith (first ++ second) ending = true) :
    Python.endsWith second ending = true := by
  rw [Python.endsWith, List.isSuffixOf_iff_suffix] at h ⊢
  rw [String.toList_append] at h
  exact List.suffix_of_suffix_length_le h (List.suffix_append _ _) hlength

theorem not_isExtension_of_allowedAdded {distInfo path : String} (h : path ∈ allowedAdded distInfo) :
    isExtension path = false := by
  rw [← Bool.not_eq_true]
  intro hextension
  have hends : Python.endsWith path ".pyd" = true ∨ Python.endsWith path ".so" = true :=
    Bool.or_eq_true_iff.mp (Bool.and_eq_true_iff.mp hextension).2
  simp only [allowedAdded, List.mem_cons, List.not_mem_nil, or_false] at h
  rcases h with rfl | rfl | rfl | rfl
  all_goals
    rcases hends with hends | hends
    · exact absurd (endsWith_append (by decide) hends) (by decide)
    · exact absurd (endsWith_append (by decide) hends) (by decide)

/-- The only candidate for the native module. -/
theorem extensionOf_ok {original : List (String × Pin)} {extension : List String}
    (h : extensionOf install original = .ok extension) :
    ∃ path, (Python.Dict.keys original).filter isExtension = [path] ∧
      extension = Python.Posix.parts path := by
  simp only [extensionOf, bind_eq_ok] at h
  obtain ⟨candidates, hcandidates, hextension⟩ := h
  split at hextension
  case h_1 first =>
    cases hextension
    obtain ⟨path, rest, hpath, hrest, hfilter⟩ :=
      List.forall₂_cons_right_iff.mp (mapM_eq_ok.mp hcandidates)
    rw [List.forall₂_nil_right_iff.mp hrest] at hfilter
    exact ⟨path, hfilter, (installedPath_ok hpath).1⟩
  case h_2 => cases hextension

theorem nodup_keys_pinnedRecord {original after : List (String × Pin)} {item : Json}
    (hnodup : (Python.Dict.keys original).Nodup) (h : pinnedRecord original item = .ok after) :
    (Python.Dict.keys after).Nodup := by
  unfold pinnedRecord at h
  split at h
  case h_1 members =>
    split at h
    case h_1 path _ =>
      split at h
      case isTrue => cases h
      case isFalse hnew =>
        cases h
        rw [Python.Dict.keys, List.map_append, List.map_singleton]
        exact hnodup.append (List.nodup_singleton path) (List.disjoint_singleton.mpr hnew)
    case h_2 => cases h
  case h_2 => cases h

/-- The manifest pins no path twice. -/
theorem pinnedRecords_ok {build wheel : List (String × Json)} {original : List (String × Pin)}
    (h : pinnedRecords build = .ok (wheel, original)) : (Python.Dict.keys original).Nodup := by
  unfold pinnedRecords at h
  split at h
  case h_1 wheel' _ =>
    split at h
    case h_1 items _ =>
      obtain ⟨original', hrun, hpair⟩ := bind_eq_ok.mp h
      cases hpair
      have hnil : (Python.Dict.keys ([] : List (String × Pin))).Nodup := List.nodup_nil
      exact invariant (fun _ _ _ => nodup_keys_pinnedRecord) hnil hrun
    case h_2 => cases h
  case h_2 => cases h

/-! ## §5 Accepted Installations -/

/-- The record of where the wheel came from lies in the dist-info directory. -/
theorem directUrl_inClosure {distInfo : String} {installed : List (String × RecordEntry)}
    {checks : Checks} (h : verifyAdded install distInfo installed checks = .ok ())
    (hrecord : InClosure install distInfo (distInfo ++ "/RECORD")) :
    InClosure install distInfo (distInfo ++ "/direct_url.json") := by
  simp only [verifyAdded, bind_eq_ok] at h
  obtain ⟨place, hplace, _⟩ := h
  obtain ⟨rfl, ⟨content, hfile⟩, _⟩ := installedPath_ok hplace
  have htext : distInfo ++ "/direct_url.json" = distInfo ++ "/" ++ "direct_url.json" := by
    rw [String.append_assoc]
    rfl
  have hname : Python.Posix.parts "direct_url.json" = ["direct_url.json"] := by decide
  have hplace : Python.Posix.parts (distInfo ++ "/" ++ "direct_url.json") =
      Python.Posix.parts distInfo ++ ["direct_url.json"] := by
    rw [Python.Posix.parts_append, hname]
  refine ⟨_, content, hfile, .inr ?_, ?_⟩
  · rw [htext, hplace]
    exact ⟨List.prefix_append _ _, by simp⟩
  · rw [htext]
    exact (join_distInfo hrecord hname).symm

/-- A native module anywhere in the installation is the returned one. -/
theorem extension_unique {distInfo : String} {original : List (String × Pin)}
    {extension place : List String} {content : List Nat}
    (hclosed : Closed install distInfo original)
    (hextension : extensionOf install original = .ok extension)
    (hfile : install.FileAt place content)
    (hnative : isExtension (Python.join "/" place) = true) : place = extension := by
  obtain ⟨path, hfilter, rfl⟩ := extensionOf_ok hextension
  have hinside : InClosure install distInfo (Python.join "/" place) :=
    ⟨place, content, hfile, .inl (isExtension_below hfile hnative), rfl⟩
  rcases hclosed.known _ hinside with hkey | hadded
  · have hmem : Python.join "/" place ∈ (Python.Dict.keys original).filter isExtension :=
      List.mem_filter.mpr ⟨hkey, hnative⟩
    rw [hfilter, List.mem_singleton] at hmem
    rw [← hmem, Installation.parts_join hfile]
  · rw [not_isExtension_of_allowedAdded hadded] at hnative
    cases hnative

/-- The installation has the pinned files and those that an installer adds, without a link on the
way to them; each pinned file but RECORD has the pinned digest and size; and the returned extension
is the only native module. -/
structure Exact (install : Installation) (distInfo : String) (original : List (String × Pin))
    (extension : List String) : Prop extends Closed install distInfo original where
  directUrl : InClosure install distInfo (distInfo ++ "/direct_url.json")
  extension_pinned : ∃ path ∈ Python.Dict.keys original, isExtension path = true ∧
    extension = Python.Posix.parts path ∧ ∃ content, install.FileAt extension content
  extension_unique : ∀ place content, install.FileAt place content →
    isExtension (Python.join "/" place) = true → place = extension

section Accepted

variable [Python.UnicodeDatabase]

/-- The files of an accepted installation are the pinned ones. -/
theorem verify_installation_exact {distribution : Distribution} {build : List (String × Json)}
    {checks : Checks} {expectedVersion : String} {package extension : List String}
    (h : verifyInstallation distribution build checks expectedVersion = .ok (package, extension)) :
    ∃ install distInfo paths wheel original,
      distributionRootAndInfo distribution = .ok (install, distInfo, paths) ∧
        pinnedRecords build = .ok (wheel, original) ∧ package = ["poke_engine"] ∧
          Exact install distInfo original extension := by
  simp only [verifyInstallation, bind_eq_ok, refuseIf_eq_ok] at h
  obtain ⟨_, _, ⟨install, distInfo, paths⟩, hroot, h⟩ := h
  obtain ⟨_, _, _, _, installed, _, _, _, ⟨wheel, original⟩, hpinned, h⟩ := h
  obtain ⟨_, hverify, _, _, _, _, _, hadded, horigin⟩ := h
  obtain ⟨hclosed, hrecord⟩ := verifyClosure_ok (pinnedRecords_ok hpinned) hverify
  simp only [verifyOrigin, bind_eq_ok, refuseIf_eq_ok] at horigin
  obtain ⟨extension', hextension, _, _, _, _, hresult⟩ := horigin
  cases hresult
  refine ⟨install, distInfo, paths, wheel, original, hroot, hpinned, rfl, hclosed, ?_, ?_, ?_⟩
  · exact directUrl_inClosure hadded (hclosed.pinned _ hrecord)
  · obtain ⟨path, hfilter, rfl⟩ := extensionOf_ok hextension
    have hmem : path ∈ (Python.Dict.keys original).filter isExtension :=
      hfilter ▸ List.mem_singleton_self path
    obtain ⟨hkey, hnative⟩ := List.mem_filter.mp hmem
    exact ⟨path, hkey, hnative, rfl, (hclosed.pinned path hkey).parts.1⟩
  · intro place content hfile hnative
    exact extension_unique hclosed hextension hfile hnative

/-- RECORD, from its text on. -/
theorem installedRecord_encodeUtf8 {text : List Char} {rows : List (List String)}
    (h : Python.csvReader (String.ofList text) = some rows) :
    installedRecord (Python.encodeUtf8 text) = rows.foldlM recordRow [] := by
  rw [installedRecord, Python.decodeUtf8_encodeUtf8, Option.bind_some, h]

end Accepted

/-! ### An installation of empty files -/

def emptyEntry : List Char := ",sha256=47DEQpj8HBSa-_TImW-5JCeuQeRkm5NMpJWZG3hSuFU,0\n".toList

def sampleRecord : List Char :=
  "poke_engine/__init__.py".toList ++ emptyEntry ++
    "poke_engine/poke_engine.abi3.so".toList ++ emptyEntry ++
    "p.dist-info/METADATA".toList ++ emptyEntry ++ "p.dist-info/WHEEL".toList ++ emptyEntry ++
    "p.dist-info/direct_url.json".toList ++ emptyEntry ++ "p.dist-info/RECORD,,\n".toList

def sampleInstallation : Installation where
  nodes := [
    (["poke_engine", "__init__.py"], .file []),
    (["poke_engine", "poke_engine.abi3.so"], .file []),
    (["p.dist-info", "METADATA"], .file []),
    (["p.dist-info", "WHEEL"], .file []),
    (["p.dist-info", "direct_url.json"], .file []),
    (["p.dist-info", "RECORD"], .file (Python.encodeUtf8 sampleRecord))]
  nodup := by decide
  named := by decide

def sampleDistribution : Distribution where
  name := some "poke-engine"
  version := "0.0.49"
  files := some ["poke_engine/__init__.py", "poke_engine/poke_engine.abi3.so",
    "p.dist-info/METADATA", "p.dist-info/WHEEL", "p.dist-info/direct_url.json",
    "p.dist-info/RECORD"]
  root := some sampleInstallation

def emptyDigest : String :=
  "sha256:e3b0c44298fc1c149afbf4c8996fb92427ae41e4649b934ca495991b7852b855"

def emptyPin (path : String) : Json :=
  .obj [("path", .str path), ("sha256", .str emptyDigest), ("size", .int 0)]

def sampleBuild : List (String × Json) :=
  [("wheel", .obj [
    ("metadata_sha256", .str emptyDigest),
    ("wheel_metadata_sha256", .str emptyDigest),
    ("record_entries", .arr [
      emptyPin "poke_engine/__init__.py", emptyPin "poke_engine/poke_engine.abi3.so",
      emptyPin "p.dist-info/METADATA", emptyPin "p.dist-info/WHEEL",
      .obj [("path", .str "p.dist-info/RECORD"), ("sha256", .null), ("size", .null)]])])]

def sampleChecks : Checks where
  verifyDirectUrl _ := .ok ()
  verifyUvCache _ := .ok ()
  origin := some ["poke_engine", "__init__.py"]

def sampleInstalled : List (String × RecordEntry) :=
  [("poke_engine/__init__.py", (some emptyDigest, some 0)),
    ("poke_engine/poke_engine.abi3.so", (some emptyDigest, some 0)),
    ("p.dist-info/METADATA", (some emptyDigest, some 0)),
    ("p.dist-info/WHEEL", (some emptyDigest, some 0)),
    ("p.dist-info/direct_url.json", (some emptyDigest, some 0)),
    ("p.dist-info/RECORD", (none, none))]

def sampleRows : List (List String) :=
  sampleInstalled.map fun item =>
    if item.2.1 = none then [item.1, "", ""]
    else [item.1, "sha256=47DEQpj8HBSa-_TImW-5JCeuQeRkm5NMpJWZG3hSuFU", "0"]

theorem sampleRecord_rows : Python.csvReader (String.ofList sampleRecord) = some sampleRows := by
  rw [Python.csvReader, String.toList_ofList]
  decide +kernel

theorem sampleRecord_read :
    letI := Python.asciiDatabase
    installedRecord (Python.encodeUtf8 sampleRecord) = .ok sampleInstalled := by
  let _ := Python.asciiDatabase
  rw [installedRecord_encodeUtf8 sampleRecord_rows]
  decide +kernel

theorem sampleInstallation_accepted :
    letI := Python.asciiDatabase
    verifyInstallation sampleDistribution sampleBuild sampleChecks "0.0.49" =
      .ok (["poke_engine"], ["poke_engine", "poke_engine.abi3.so"]) := by
  simp only [verifyInstallation, bind_eq_ok, refuseIf_eq_ok]
  refine ⟨(), by decide, ⟨sampleInstallation, "p.dist-info", _⟩, rfl, _, rfl, _, rfl,
    sampleInstalled, sampleRecord_read, (), ?_, _, rfl, (), ?_, (), ?_, (), ?_, (), rfl, ?_⟩
  · decide +kernel
  · decide +kernel
  · decide +kernel
  · decide +kernel
  · decide +kernel

theorem sample_installation_exact :
    ∃ install distInfo paths wheel original,
      distributionRootAndInfo sampleDistribution = .ok (install, distInfo, paths) ∧
        pinnedRecords sampleBuild = .ok (wheel, original) ∧
          ["poke_engine"] = ["poke_engine"] ∧
            Exact install distInfo original ["poke_engine", "poke_engine.abi3.so"] :=
  letI := Python.asciiDatabase
  verify_installation_exact sampleInstallation_accepted

end BattleBelief.EngineArtifact
