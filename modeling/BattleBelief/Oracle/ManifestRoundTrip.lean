import BattleBelief.Oracle.BuildManifest

/-!
# Round Trips of Build Manifests

Every reader of a build manifest accepts the document of what it has read, and reads the same again.

- `ReadsBack`: this property, of one reader
- `construct_fields`: a constructed manifest is constructed again from its own fields
- `build_manifest_round_trip`: a manifest is read back from its own document
-/

namespace BattleBelief.Oracle.Manifests

open Runs
open Python (Dict.keys Dict.ofPairs Dict.sortedItems Json)

/-! ## §1 Scalars -/

theorem requireDigest_text {value : Json} {field text : String}
    (h : requireDigest value field = .ok text) : value = .str text := by
  obtain ⟨found, hfound, h⟩ := bind_eq_ok.mp h
  obtain ⟨_, -, h⟩ := bind_eq_ok.mp h
  cases h
  exact (requireString_eq_ok.mp hfound).1

theorem requireManifestId_text {value : Json} {text : String}
    (h : requireManifestId value = .ok text) : value = .str text := by
  obtain ⟨found, hfound, h⟩ := bind_eq_ok.mp h
  obtain ⟨_, -, h⟩ := bind_eq_ok.mp h
  cases h
  exact (requireString_eq_ok.mp hfound).1

theorem requireVersion_text {value : Json} {field text : String}
    (h : requireVersion value field = .ok text) : value = .str text := by
  obtain ⟨found, hfound, h⟩ := bind_eq_ok.mp h
  obtain ⟨_, -, h⟩ := bind_eq_ok.mp h
  cases h
  exact (requireString_eq_ok.mp hfound).1

theorem requireSafePath_text {value : Json} {field text : String}
    (h : requireSafePath value field = .ok text) : value = .str text := by
  obtain ⟨found, hfound, h⟩ := bind_eq_ok.mp h
  obtain ⟨_, -, h⟩ := bind_eq_ok.mp h
  cases h
  exact (requireString_eq_ok.mp hfound).1

theorem requireDependencyPath_text {value : Json} {field text : String}
    (h : requireDependencyPath value field = .ok text) : value = .str text := by
  obtain ⟨found, hfound, h⟩ := bind_eq_ok.mp h
  obtain ⟨_, -, h⟩ := bind_eq_ok.mp h
  cases h
  exact requireSafePath_text hfound

theorem requireRelativeLinkTarget_text {value : Json} {path text : String}
    (h : requireRelativeLinkTarget value path = .ok text) : value = .str text := by
  obtain ⟨found, hfound, h⟩ := bind_eq_ok.mp h
  obtain ⟨_, -, h⟩ := bind_eq_ok.mp h
  obtain ⟨_, -, h⟩ := bind_eq_ok.mp h
  obtain ⟨_, -, h⟩ := bind_eq_ok.mp h
  obtain ⟨_, -, h⟩ := bind_eq_ok.mp h
  cases h
  exact (requireString_eq_ok.mp hfound).1

theorem requireSize_int {value : Json} {field : String} {size : Int}
    (h : requireSize value field = .ok size) : value = .int size := by
  cases value with
  | int found =>
    unfold requireSize at h
    dsimp only at h
    split_ifs at h
    cases h
    rfl
  | _ => cases h

theorem requireCommit_text {value : Json} {text : String} (h : requireCommit value = .ok text) :
    value = .str text := by
  cases value with
  | str found =>
    unfold requireCommit at h
    dsimp only at h
    split_ifs at h
    · cases h
      rfl
    · cases h
  | _ => cases h

theorem requireMember_text {value : Json} {options : List String} {problem text : String}
    (h : requireMember value options problem = .ok text) : value = .str text := by
  cases value with
  | str found =>
    unfold requireMember at h
    dsimp only at h
    split_ifs at h
    · cases h
      rfl
    · cases h
  | _ => cases h

theorem requireEqual_text {value : Json} {expected problem text : String}
    (h : requireEqual value expected problem = .ok text) : value = .str text := by
  cases value with
  | str found =>
    unfold requireEqual at h
    dsimp only at h
    split_ifs at h
    · cases h
      rfl
    · cases h
  | _ => cases h

/-! ## §2 Arguments and settings -/

/-- The reader accepts the document of what it has read, and reads the same again. -/
def ReadsBack {α : Type} (read : Json → Except PyException α) (document : α → Json) : Prop :=
  ∀ value result, read value = .ok result → read (document result) = .ok result

theorem normalizeArgv_document {value : Json} {field : String} {argv : List String}
    (h : normalizeArgv value field = .ok argv) : value = argvDocument argv := by
  unfold normalizeArgv at h
  split at h
  · obtain ⟨tokens, htokens, h⟩ := bind_eq_ok.mp h
    obtain ⟨_, -, h⟩ := bind_eq_ok.mp h
    cases h
    rw [((mapM_eq_ok_iff_map fun _ _ => requireString_eq_ok).mp htokens).1, argvDocument]
  · cases h

theorem normalizeArgv_readsBack (field : String) :
    ReadsBack (fun value => normalizeArgv value field) argvDocument := by
  intro value argv h
  rw [← normalizeArgv_document h]
  exact h

/-- What an accepted configuration is. -/
structure NpmConfig (config : List (String × String)) : Prop where
  nonempty : config ≠ []
  known : ∀ key ∈ Dict.keys config, key ∈ npmConfigKeys
  settings : ∀ setting ∈ config, setting.2 = "true" ∨ setting.2 = "false"
  sorted : Dict.sortedItems config = config

theorem npmSetting_eq_ok {item : String × Json} {setting : String × String} :
    npmSetting item = .ok setting ↔
      item = (setting.1, .str setting.2) ∧ (setting.2 = "true" ∨ setting.2 = "false") := by
  obtain ⟨key, value⟩ := item
  cases value with
  | str text =>
    by_cases h : text = "true" ∨ text = "false"
    · simp only [npmSetting, if_pos h, Except.ok.injEq, Prod.mk.injEq, Json.str.injEq]
      constructor
      · rintro rfl
        exact ⟨⟨rfl, rfl⟩, h⟩
      · rintro ⟨⟨rfl, rfl⟩, -⟩
        rfl
    · simp only [npmSetting, if_neg h, Prod.mk.injEq, Json.str.injEq]
      constructor
      · intro hrefused
        cases hrefused
      · rintro ⟨⟨rfl, rfl⟩, hsetting⟩
        exact absurd hsetting h
  | _ => simp [npmSetting, refused]

theorem normalizeNpmConfig_spec {value : Json} {config : List (String × String)}
    (h : normalizeNpmConfig value = .ok config) : NpmConfig config := by
  unfold normalizeNpmConfig at h
  split at h
  · rename_i first rest
    obtain ⟨_, hknown, h⟩ := bind_eq_ok.mp h
    obtain ⟨normalized, hnormalized, h⟩ := bind_eq_ok.mp h
    cases h
    obtain ⟨hitems, hsettings⟩ :=
      (mapM_eq_ok_iff_map fun _ _ => npmSetting_eq_ok).mp hnormalized
    have hknown := refuseIf_eq_ok.mp hknown
    push Not at hknown
    have hperm := Python.Dict.perm_sortedItems normalized
    have hkeys : Dict.keys (first :: rest) = Dict.keys normalized := by
      rw [hitems, Python.Dict.keys, List.map_map]
      rfl
    constructor
    · intro hnil
      rw [hnil] at hperm
      rw [hperm.nil_eq.symm] at hitems
      cases hitems
    · intro key hkey
      apply hknown
      rw [hkeys]
      exact (hperm.map Prod.fst).mem_iff.mp hkey
    · intro setting hsetting
      exact hsettings setting (hperm.mem_iff.mp hsetting)
    · exact Python.Dict.sortedItems_sortedItems normalized
  · cases h

theorem normalizeNpmConfig_of_spec {config : List (String × String)} (h : NpmConfig config) :
    normalizeNpmConfig (.obj (settingItems config)) = .ok config := by
  have hread : (settingItems config).mapM npmSetting = .ok config :=
    (mapM_eq_ok_iff_map fun _ _ => npmSetting_eq_ok).mpr ⟨rfl, h.settings⟩
  have hkeys : Dict.keys (settingItems config) = Dict.keys config := by
    rw [settingItems, Python.Dict.keys, List.map_map]
    rfl
  have hknown : ¬∃ key ∈ Dict.keys (settingItems config), key ∉ npmConfigKeys := by
    rw [hkeys]
    push Not
    exact h.known
  cases hitems : settingItems config with
  | nil => exact absurd (List.map_eq_nil_iff.mp hitems) h.nonempty
  | cons first rest =>
    rw [hitems] at hread hknown
    apply bind_of_ok (a := ()) (refuseIf_eq_ok.mpr hknown)
    apply bind_of_ok hread
    exact congrArg Except.ok h.sorted

theorem normalizeNpmConfig_readsBack :
    ReadsBack normalizeNpmConfig fun config => .obj (settingItems config) := by
  intro value config h
  exact normalizeNpmConfig_of_spec (normalizeNpmConfig_spec h)

/-! ## §3 File records -/

section Records

variable [Python.UnicodeDatabase]

def recordDocument (record : FileRecord) : Json :=
  .obj [("path", .str record.1), ("digest", .str record.2.1), ("size", .int record.2.2)]

theorem normalizeRecord_document {field : String} {value : Json} {record : FileRecord}
    (h : normalizeRecord field value = .ok record) :
    normalizeRecord field (recordDocument record) = .ok record := by
  unfold normalizeRecord at h
  split at h
  · obtain ⟨_, -, h⟩ := bind_eq_ok.mp h
    obtain ⟨pathValue, -, h⟩ := bind_eq_ok.mp h
    obtain ⟨path, hpath, h⟩ := bind_eq_ok.mp h
    obtain ⟨digestValue, -, h⟩ := bind_eq_ok.mp h
    obtain ⟨digest, hdigest, h⟩ := bind_eq_ok.mp h
    obtain ⟨sizeValue, -, h⟩ := bind_eq_ok.mp h
    obtain ⟨size, hsize, h⟩ := bind_eq_ok.mp h
    cases h
    cases requireSafePath_text hpath
    cases requireDigest_text hdigest
    cases requireSize_int hsize
    apply bind_of_ok (requireExactKeys_of_keys rfl)
    apply bind_of_ok rfl
    apply bind_of_ok hpath
    apply bind_of_ok rfl
    apply bind_of_ok hdigest
    apply bind_of_ok rfl
    exact bind_of_ok hsize rfl
  · cases h

theorem normalizeRecords_readsBack (field : String) :
    ReadsBack (fun value => normalizeRecords value field) recordsDocument := by
  intro value records h
  dsimp only at h ⊢
  unfold normalizeRecords at h
  split at h
  · rename_i first rest
    obtain ⟨found, hfound, h⟩ := bind_eq_ok.mp h
    obtain ⟨_, hsorted, h⟩ := bind_eq_ok.mp h
    obtain ⟨_, hunique, h⟩ := bind_eq_ok.mp h
    cases h
    have hread : (records.map recordDocument).mapM (normalizeRecord field) = .ok records := by
      apply mapM_map_self
      intro record hrecord
      obtain ⟨item, -, hitem⟩ := mem_of_mapM hfound hrecord
      exact normalizeRecord_document hitem
    cases records with
    | nil =>
      have hlength := (mapM_eq_ok.mp hfound).length_eq
      cases hlength
    | cons record others =>
      apply bind_of_ok hread
      apply bind_of_ok hsorted
      exact bind_of_ok hunique rfl
  · cases h

theorem normalizeDependencyFile_document {value : Json} {record : DependencyFileRecord}
    (h : normalizeDependencyFile value = .ok record) :
    normalizeDependencyFile record.toJson = .ok record := by
  unfold normalizeDependencyFile at h
  split at h
  · split at h
    · split_ifs at h
      · obtain ⟨_, -, h⟩ := bind_eq_ok.mp h
        obtain ⟨pathValue, -, h⟩ := bind_eq_ok.mp h
        obtain ⟨path, hpath, h⟩ := bind_eq_ok.mp h
        obtain ⟨digestValue, -, h⟩ := bind_eq_ok.mp h
        obtain ⟨digest, hdigest, h⟩ := bind_eq_ok.mp h
        obtain ⟨sizeValue, -, h⟩ := bind_eq_ok.mp h
        obtain ⟨size, hsize, h⟩ := bind_eq_ok.mp h
        cases h
        cases requireDependencyPath_text hpath
        cases requireDigest_text hdigest
        cases requireSize_int hsize
        apply bind_of_ok (requireExactKeys_of_keys rfl)
        apply bind_of_ok rfl
        apply bind_of_ok hpath
        apply bind_of_ok rfl
        apply bind_of_ok hdigest
        apply bind_of_ok rfl
        exact bind_of_ok hsize rfl
      · obtain ⟨_, -, h⟩ := bind_eq_ok.mp h
        obtain ⟨pathValue, -, h⟩ := bind_eq_ok.mp h
        obtain ⟨path, hpath, h⟩ := bind_eq_ok.mp h
        obtain ⟨targetValue, -, h⟩ := bind_eq_ok.mp h
        obtain ⟨target, htarget, h⟩ := bind_eq_ok.mp h
        cases h
        cases requireDependencyPath_text hpath
        cases requireRelativeLinkTarget_text htarget
        apply bind_of_ok (requireExactKeys_of_keys rfl)
        apply bind_of_ok rfl
        apply bind_of_ok hpath
        apply bind_of_ok rfl
        exact bind_of_ok htarget rfl
    · cases h
  · cases h

def dependencyDocument (records : List DependencyFileRecord) : Json :=
  .arr (records.map DependencyFileRecord.toJson)

theorem normalizeDependencyFiles_readsBack :
    ReadsBack normalizeDependencyFiles dependencyDocument := by
  intro value records h
  unfold normalizeDependencyFiles at h
  split at h
  · rename_i first rest
    obtain ⟨found, hfound, h⟩ := bind_eq_ok.mp h
    obtain ⟨_, hsorted, h⟩ := bind_eq_ok.mp h
    obtain ⟨_, hunique, h⟩ := bind_eq_ok.mp h
    cases h
    have hread : (records.map DependencyFileRecord.toJson).mapM normalizeDependencyFile =
        .ok records := by
      apply mapM_map_self
      intro record hrecord
      obtain ⟨item, -, hitem⟩ := mem_of_mapM hfound hrecord
      exact normalizeDependencyFile_document hitem
    cases records with
    | nil =>
      have hlength := (mapM_eq_ok.mp hfound).length_eq
      cases hlength
    | cons record others =>
      apply bind_of_ok hread
      apply bind_of_ok hsorted
      exact bind_of_ok hunique rfl
  · cases h

end Records

/-! ## §4 Manifests -/

theorem dependencyFilesDocument_fields (records : List DependencyFileRecord) :
    dependencyFilesDocument (records.map DependencyFileRecord.fields) =
      .ok (dependencyDocument records) := by
  have hread : (records.map DependencyFileRecord.fields).mapM DependencyFields.toDict =
      .ok (records.map DependencyFileRecord.toJson) := by
    apply mapM_eq_ok.mpr
    rw [List.forall₂_map_left_iff, List.forall₂_map_right_iff, List.forall₂_same]
    intro record _
    cases record with
    | file path digest size =>
      have hkind : Python.Json.pyEq (.str "file") (.str "file") = true :=
        Python.Json.pyEq_str.mpr rfl
      simp only [DependencyFields.toDict, DependencyFileRecord.fields, hkind, if_pos]
      rfl
    | symlink path target =>
      have hkind : Python.Json.pyEq (.str "symlink") (.str "file") = false := by
        simpa using mt Python.Json.pyEq_str.mp (by simp)
      simp only [DependencyFields.toDict, DependencyFileRecord.fields, hkind]
      rfl
  exact bind_of_ok hread rfl

theorem givenRecordsDocument_givenRecord (records : List FileRecord) :
    givenRecordsDocument (records.map givenRecord) = recordsDocument records := by
  rw [givenRecordsDocument, List.map_map]
  rfl

theorem ofPairs_settingItems {config : List (String × String)} (h : (Dict.keys config).Nodup) :
    Dict.ofPairs (settingItems config) = settingItems config := by
  apply Python.Dict.ofPairs_of_nodup
  rw [settingItems, Python.Dict.keys, List.map_map]
  exact h

theorem nodup_keys_normalizeNpmConfig {items : List (String × Json)}
    {config : List (String × String)} (hitems : (Dict.keys items).Nodup)
    (h : normalizeNpmConfig (.obj items) = .ok config) : (Dict.keys config).Nodup := by
  cases items with
  | nil => cases h
  | cons first rest =>
    obtain ⟨_, -, h⟩ := bind_eq_ok.mp h
    obtain ⟨normalized, hnormalized, h⟩ := bind_eq_ok.mp h
    cases h
    obtain ⟨hread, -⟩ := (mapM_eq_ok_iff_map fun _ _ => npmSetting_eq_ok).mp hnormalized
    rw [hread, Python.Dict.keys, List.map_map] at hitems
    exact ((Python.Dict.perm_sortedItems normalized).map Prod.fst).nodup_iff.mpr hitems

section Manifest

variable [Python.UnicodeDatabase] [Rfc8785]

/-- The fields of a constructed manifest. -/
def ShowdownBuildManifest.fields (manifest : ShowdownBuildManifest) : BuildFields where
  schemaVersion := .int 1
  manifestId := .str manifest.manifestId
  sourceManifestDigest := .str manifest.sourceManifestDigest
  commit := .str manifest.commit
  nodeVersion := .str manifest.nodeVersion
  npmVersion := .str manifest.npmVersion
  probeRole := .str manifest.probeRole
  os := .str manifest.os
  architecture := .str manifest.architecture
  npmCiArgv := manifest.npmCiArgv.map .str
  npmBuildArgv := manifest.npmBuildArgv.map .str
  simulatorArgv := manifest.simulatorArgv.map .str
  npmConfig := settingItems manifest.npmConfig
  dependencyTreeDigest := .str manifest.dependencyTreeDigest
  dependencyFiles := manifest.dependencyFiles.map DependencyFileRecord.fields
  dependencyFilesDigest := .str manifest.dependencyFilesDigest
  distFiles := manifest.distFiles.map givenRecord
  distTreeDigest := .str manifest.distTreeDigest
  formatId := .str manifest.formatId
  rulesetSnapshot := manifest.rulesetSnapshot.toJson
  rulesetSnapshotDigest := .str manifest.rulesetSnapshotDigest
  formatIdentityDigest := .str manifest.formatIdentityDigest
  adapterVersion := .str manifest.adapterVersion
  canonicalizationProfile := .str manifest.canonicalizationProfile
  schemaId := .str manifest.schemaId

/-- The lists of a manifest, each read back from its own document. -/
structure Normalised (manifest : ShowdownBuildManifest) : Prop where
  ci : normalizeArgv (argvDocument manifest.npmCiArgv) "npm_ci_argv" = .ok manifest.npmCiArgv
  build : normalizeArgv (argvDocument manifest.npmBuildArgv) "npm_build_argv" =
    .ok manifest.npmBuildArgv
  simulator : normalizeArgv (argvDocument manifest.simulatorArgv) "simulator_argv" =
    .ok manifest.simulatorArgv
  config : NpmConfig manifest.npmConfig
  uniqueConfig : (Dict.keys manifest.npmConfig).Nodup
  dependencies : normalizeDependencyFiles (dependencyDocument manifest.dependencyFiles) =
    .ok manifest.dependencyFiles
  dist : normalizeRecords (recordsDocument manifest.distFiles) "dist_files" = .ok manifest.distFiles

/-- A constructed manifest is constructed again from its own fields. -/
theorem construct_fields {fields : BuildFields} {manifest : ShowdownBuildManifest}
    (h : ShowdownBuildManifest.construct fields = .ok manifest) :
    ShowdownBuildManifest.construct manifest.fields = .ok manifest ∧ Normalised manifest := by
  unfold ShowdownBuildManifest.construct at h
  obtain ⟨_, hversion, h⟩ := bind_eq_ok.mp h
  obtain ⟨manifestId, hid, h⟩ := bind_eq_ok.mp h
  obtain ⟨sourceDigest, hsource, h⟩ := bind_eq_ok.mp h
  obtain ⟨commit, hcommit, h⟩ := bind_eq_ok.mp h
  obtain ⟨nodeVersion, hnode, h⟩ := bind_eq_ok.mp h
  obtain ⟨npmVersion, hnpm, h⟩ := bind_eq_ok.mp h
  obtain ⟨probeRole, hrole, h⟩ := bind_eq_ok.mp h
  obtain ⟨_, hbound, h⟩ := bind_eq_ok.mp h
  obtain ⟨_, happroved, h⟩ := bind_eq_ok.mp h
  obtain ⟨os, hos, h⟩ := bind_eq_ok.mp h
  obtain ⟨architecture, harchitecture, h⟩ := bind_eq_ok.mp h
  obtain ⟨ci, hci, h⟩ := bind_eq_ok.mp h
  obtain ⟨build, hbuild, h⟩ := bind_eq_ok.mp h
  obtain ⟨simulator, hsimulator, h⟩ := bind_eq_ok.mp h
  obtain ⟨_, hciBound, h⟩ := bind_eq_ok.mp h
  obtain ⟨_, hbuildBound, h⟩ := bind_eq_ok.mp h
  obtain ⟨_, hsimulatorBound, h⟩ := bind_eq_ok.mp h
  obtain ⟨config, hconfig, h⟩ := bind_eq_ok.mp h
  obtain ⟨treeDigest, htree, h⟩ := bind_eq_ok.mp h
  obtain ⟨document, hdocument, h⟩ := bind_eq_ok.mp h
  obtain ⟨dependencies, hdependencies, h⟩ := bind_eq_ok.mp h
  obtain ⟨filesDigest, hfiles, h⟩ := bind_eq_ok.mp h
  obtain ⟨computedFiles, hcomputedFiles, h⟩ := bind_eq_ok.mp h
  obtain ⟨_, hfilesMatch, h⟩ := bind_eq_ok.mp h
  obtain ⟨dist, hdist, h⟩ := bind_eq_ok.mp h
  obtain ⟨computedDist, hcomputedDist, h⟩ := bind_eq_ok.mp h
  obtain ⟨distDigest, hdistDigest, h⟩ := bind_eq_ok.mp h
  obtain ⟨formatId, hformat, h⟩ := bind_eq_ok.mp h
  obtain ⟨snapshot, hsnapshot, h⟩ := bind_eq_ok.mp h
  obtain ⟨snapshotDigest, hsnapshotDigest, h⟩ := bind_eq_ok.mp h
  obtain ⟨identityDigest, hidentity, h⟩ := bind_eq_ok.mp h
  obtain ⟨computedSnapshot, hcomputedSnapshot, h⟩ := bind_eq_ok.mp h
  obtain ⟨_, hsnapshotMatch, h⟩ := bind_eq_ok.mp h
  obtain ⟨computedFormat, hcomputedFormat, h⟩ := bind_eq_ok.mp h
  obtain ⟨_, hformatMatch, h⟩ := bind_eq_ok.mp h
  obtain ⟨adapter, hadapter, h⟩ := bind_eq_ok.mp h
  obtain ⟨profile, hprofile, h⟩ := bind_eq_ok.mp h
  obtain ⟨schema, hschema, h⟩ := bind_eq_ok.mp h
  cases h
  have hci := normalizeArgv_readsBack "npm_ci_argv" _ _ hci
  have hbuild := normalizeArgv_readsBack "npm_build_argv" _ _ hbuild
  have hsimulator := normalizeArgv_readsBack "simulator_argv" _ _ hsimulator
  have hunique := nodup_keys_normalizeNpmConfig (Python.Dict.nodup_keys_ofPairs _) hconfig
  have hconfig := normalizeNpmConfig_spec hconfig
  have hdependencies := normalizeDependencyFiles_readsBack _ _ hdependencies
  have hdist := normalizeRecords_readsBack "dist_files" _ _ hdist
  refine ⟨?_, ⟨hci, hbuild, hsimulator, hconfig, hunique, hdependencies, hdist⟩⟩
  rw [requireManifestId_text hid] at hid
  rw [requireDigest_text hsource] at hsource
  rw [requireCommit_text hcommit] at hcommit
  rw [requireVersion_text hnode] at hnode
  rw [requireVersion_text hnpm] at hnpm
  rw [requireMember_text hrole] at hrole
  rw [requireMember_text hos] at hos
  rw [requireMember_text harchitecture] at harchitecture
  rw [requireDigest_text htree] at htree
  rw [requireDigest_text hfiles] at hfiles
  rw [requireEqual_text hdistDigest] at hdistDigest
  rw [requireEqual_text hformat] at hformat
  rw [requireDigest_text hsnapshotDigest] at hsnapshotDigest
  rw [requireDigest_text hidentity] at hidentity
  rw [requireEqual_text hadapter] at hadapter
  rw [requireEqual_text hprofile] at hprofile
  rw [requireEqual_text hschema] at hschema
  have hconfigRead : normalizeNpmConfig (.obj (Dict.ofPairs (settingItems config))) =
      .ok config := by
    rw [ofPairs_settingItems hunique]
    exact normalizeNpmConfig_of_spec hconfig
  have hdistRead : normalizeRecords (givenRecordsDocument (dist.map givenRecord)) "dist_files" =
      .ok dist := by
    rw [givenRecordsDocument_givenRecord]
    exact hdist
  unfold ShowdownBuildManifest.construct
  have hone : requireSchemaVersion (.int 1) = .ok () := rfl
  apply bind_of_ok hone
  apply bind_of_ok hid
  apply bind_of_ok hsource
  apply bind_of_ok hcommit
  apply bind_of_ok hnode
  apply bind_of_ok hnpm
  apply bind_of_ok hrole
  apply bind_of_ok hbound
  apply bind_of_ok happroved
  apply bind_of_ok hos
  apply bind_of_ok harchitecture
  apply bind_of_ok hci
  apply bind_of_ok hbuild
  apply bind_of_ok hsimulator
  apply bind_of_ok hciBound
  apply bind_of_ok hbuildBound
  apply bind_of_ok hsimulatorBound
  apply bind_of_ok hconfigRead
  apply bind_of_ok htree
  apply bind_of_ok (dependencyFilesDocument_fields _)
  apply bind_of_ok hdependencies
  apply bind_of_ok hfiles
  apply bind_of_ok hcomputedFiles
  apply bind_of_ok hfilesMatch
  apply bind_of_ok hdistRead
  apply bind_of_ok hcomputedDist
  apply bind_of_ok hdistDigest
  apply bind_of_ok hformat
  apply bind_of_ok (normalizeRulesetSnapshot_toJson _)
  apply bind_of_ok hsnapshotDigest
  apply bind_of_ok hidentity
  apply bind_of_ok hcomputedSnapshot
  apply bind_of_ok hsnapshotMatch
  apply bind_of_ok hcomputedFormat
  apply bind_of_ok hformatMatch
  apply bind_of_ok hadapter
  apply bind_of_ok hprofile
  exact bind_of_ok hschema rfl

/-- A constructed manifest is read back from its own document. -/
theorem fromDict_toDict {fields : BuildFields} {manifest : ShowdownBuildManifest}
    (h : ShowdownBuildManifest.construct fields = .ok manifest) :
    ∃ document, manifest.toDict = .ok document ∧
      ShowdownBuildManifest.fromDict (.obj document) = .ok manifest := by
  obtain ⟨hconstruct, hnormalised⟩ := construct_fields h
  refine ⟨_, bind_of_ok (dependencyFilesDocument_fields _)
    (bind_of_ok (normalizeRulesetSnapshot_toJson _) rfl), ?_⟩
  rw [ofPairs_settingItems hnormalised.uniqueConfig]
  unfold ShowdownBuildManifest.fromDict
  apply bind_of_ok (requireExactKeys_of_keys rfl)
  apply bind_of_ok hnormalised.ci
  apply bind_of_ok hnormalised.build
  apply bind_of_ok hnormalised.simulator
  apply bind_of_ok (normalizeNpmConfig_of_spec hnormalised.config)
  apply bind_of_ok hnormalised.dependencies
  apply bind_of_ok hnormalised.dist
  apply bind_of_ok (normalizeRulesetSnapshot_toJson manifest.rulesetSnapshot)
  exact hconstruct

/-- What is read from a document was constructed. -/
theorem construct_of_fromDict {value : Json} {manifest : ShowdownBuildManifest}
    (h : ShowdownBuildManifest.fromDict value = .ok manifest) :
    ∃ fields, ShowdownBuildManifest.construct fields = .ok manifest := by
  unfold ShowdownBuildManifest.fromDict at h
  split at h
  · obtain ⟨_, -, h⟩ := bind_eq_ok.mp h
    obtain ⟨ci, -, h⟩ := bind_eq_ok.mp h
    obtain ⟨build, -, h⟩ := bind_eq_ok.mp h
    obtain ⟨simulator, -, h⟩ := bind_eq_ok.mp h
    obtain ⟨config, -, h⟩ := bind_eq_ok.mp h
    obtain ⟨dependencies, -, h⟩ := bind_eq_ok.mp h
    obtain ⟨dist, -, h⟩ := bind_eq_ok.mp h
    obtain ⟨snapshot, -, h⟩ := bind_eq_ok.mp h
    exact ⟨_, h⟩
  · cases h

/-! ## §5 The round trip -/

/-- Every normaliser reads back what it has read. -/
structure NormalisersReadBack : Prop where
  argv : ∀ field, ReadsBack (fun value => normalizeArgv value field) argvDocument
  npmConfig : ReadsBack normalizeNpmConfig fun config => .obj (settingItems config)
  dependencyFiles : ReadsBack normalizeDependencyFiles dependencyDocument
  records : ∀ field, ReadsBack (fun value => normalizeRecords value field) recordsDocument
  sortedStrings : ∀ field, ReadsBack (fun value => normalizeSortedStrings value field)
    SortedStrings.toJson
  entries : ∀ field, ReadsBack (fun value => normalizeRulesetEntries value field)
    (PairTable.toJson "key" "value")
  complexBans : ∀ field, ReadsBack (fun value => normalizeComplexBans value field)
    ComplexBans.toJson
  tagRules : ReadsBack normalizeTagRules (PairTable.toJson "prefix" "tag")
  teamConstraints : ReadsBack normalizeTeamConstraints TeamConstraints.toJson
  format : ReadsBack normalizeRulesetFormat RulesetFormat.toJson
  ruleTable : ReadsBack normalizeRuleTable RuleTable.toJson
  snapshot : ReadsBack normalizeRulesetSnapshot RulesetSnapshot.toJson

/-- The document of the manifest is read as the manifest, with its bytes and its digest. -/
def RoundTrips (manifest : ShowdownBuildManifest) : Prop :=
  ∃ document again, manifest.toDict = .ok document ∧
    ShowdownBuildManifest.fromDict (.obj document) = .ok again ∧ again = manifest ∧
    again.canonicalBytes = manifest.canonicalBytes ∧ again.digest = manifest.digest

/-- Every manifest that is constructed or read is read back from its own document, and so is what
every normaliser has read. -/
theorem build_manifest_round_trip :
    (∀ fields manifest, ShowdownBuildManifest.construct fields = .ok manifest →
      RoundTrips manifest) ∧
    (∀ value manifest, ShowdownBuildManifest.fromDict value = .ok manifest →
      RoundTrips manifest) ∧ NormalisersReadBack := by
  have hconstructed : ∀ fields manifest,
      ShowdownBuildManifest.construct fields = .ok manifest → RoundTrips manifest := by
    intro fields manifest h
    obtain ⟨document, hdocument, hread⟩ := fromDict_toDict h
    exact ⟨document, manifest, hdocument, hread, rfl, rfl, rfl⟩
  refine ⟨hconstructed, ?_, ?_⟩
  · intro value manifest h
    obtain ⟨fields, hfields⟩ := construct_of_fromDict h
    exact hconstructed fields manifest hfields
  · exact { argv := normalizeArgv_readsBack
            npmConfig := normalizeNpmConfig_readsBack
            dependencyFiles := normalizeDependencyFiles_readsBack
            records := normalizeRecords_readsBack
            sortedStrings := fun field _ strings _ => normalizeSortedStrings_toJson strings field
            entries := fun field _ table _ => normalizeRulesetEntries_toJson table field
            complexBans := fun field _ table _ => normalizeComplexBans_toJson table field
            tagRules := fun _ table _ => normalizeTagRules_toJson table
            teamConstraints := fun _ constraints _ => normalizeTeamConstraints_toJson constraints
            format := fun _ format _ => normalizeRulesetFormat_toJson format
            ruleTable := fun _ table _ => normalizeRuleTable_toJson table
            snapshot := fun _ snapshot _ => normalizeRulesetSnapshot_toJson snapshot }

end Manifest

/-! ## §6 A candidate build -/

def repeatedDigest : String :=
  "sha256:0000000000000000000000000000000000000000000000000000000000000000"

def noStrings : SortedStrings := ⟨[], rfl, List.nodup_nil⟩

def noPairs {α : Type} (texts : α → String × String) : PairTable texts := ⟨[], rfl, List.nodup_nil⟩

/-- A snapshot of a format without rules. -/
def bareSnapshot : letI := compactCanonicalizer; RulesetSnapshot :=
  letI := compactCanonicalizer
  { format := { name := ⟨"[Gen 9] OU", by decide⟩, rated := true, ruleset := noStrings,
                baseRuleset := noStrings, banlist := noStrings, restricted := noStrings,
                unbanlist := noStrings }
    resolvedRuleTable :=
      { entries := noPairs _, valueRules := noPairs _, complexBans := ⟨[], [], rfl, .nil⟩
        complexTeamBans := ⟨[], [], rfl, .nil⟩, tagRules := noPairs _
        teamConstraints := ⟨⟨510, by decide⟩, ⟨100, by decide⟩, ⟨4, by decide⟩, ⟨6, by decide⟩,
          ⟨1, by decide⟩, ⟨0, by decide⟩, ⟨0, by decide⟩⟩ } }

def candidateDependency : DependencyFileRecord := .file "node_modules/a.js" repeatedDigest 1

def candidateModule : FileRecord := ("dist/a.js", repeatedDigest, 1)

/-- The digest of a document under the compact canonicalizer. -/
def compactDigest (value : Json) : String := sha256Digest (Python.encodeUtf8 value.dumps)

/-- A candidate build with one file of each kind. -/
def candidateBuild : letI := compactCanonicalizer; ShowdownBuildManifest :=
  letI := compactCanonicalizer
  { manifestId := "showdown-build", sourceManifestDigest := repeatedDigest, commit := showdownCommit
    nodeVersion := "22.23.2", npmVersion := "10.9.8", probeRole := "candidate", os := "linux"
    architecture := "x86_64", npmCiArgv := ["npm", "ci", "--no-audit", "--no-fund"]
    npmBuildArgv := ["npm", "run", "build"]
    simulatorArgv := ["node", "pokemon-showdown", "--skip-build", "simulate-battle"]
    npmConfig := [("audit", "false")], dependencyTreeDigest := repeatedDigest
    dependencyFiles := [candidateDependency]
    dependencyFilesDigest := compactDigest (dependencyDocument [candidateDependency])
    distFiles := [candidateModule]
    distTreeDigest := compactDigest (recordsDocument [candidateModule])
    formatId := "gen9ou", rulesetSnapshot := bareSnapshot
    rulesetSnapshotDigest := compactDigest bareSnapshot.toJson
    formatIdentityDigest := compactDigest bareSnapshot.format.toJson
    adapterVersion := "showdown-oracle-v1", canonicalizationProfile := "rfc8785-jcs-v1"
    schemaId := "urn:battlebelief:schema:manifest:showdown-oracle-build:v1" }

theorem candidateBuild_constructed : letI := Python.asciiDatabase; letI := compactCanonicalizer
    ShowdownBuildManifest.construct candidateBuild.fields = .ok candidateBuild := by
  let _ := Python.asciiDatabase
  let _ := compactCanonicalizer
  have hdigest : ∀ value field, requireDigest (.str (compactDigest value)) field =
      .ok (compactDigest value) := by
    intro value field
    exact requireDigest_str (isDigest_sha256Digest _) field
  have hzero : ∀ field, requireDigest (.str repeatedDigest) field = .ok repeatedDigest := by
    intro field
    exact requireDigest_str (by decide +kernel) field
  have hequal : ∀ text problem, requireEqual (.str text) text problem = .ok text := by
    intro text problem
    exact if_pos rfl
  have hid : requireManifestId (.str "showdown-build") = .ok "showdown-build" := by rfl
  have hcommit : requireCommit (.str showdownCommit) = .ok showdownCommit := by rfl
  have hnode : requireVersion (.str "22.23.2") "node_version" = .ok "22.23.2" := by rfl
  have hnpm : requireVersion (.str "10.9.8") "npm_version" = .ok "10.9.8" := by rfl
  have hconfig : normalizeNpmConfig (.obj (Dict.ofPairs (settingItems [("audit", "false")]))) =
      .ok [("audit", "false")] := by rfl
  have hdependency : normalizeDependencyFile candidateDependency.toJson =
      .ok candidateDependency := by
    apply bind_of_ok (requireExactKeys_of_keys rfl)
    apply bind_of_ok rfl
    apply bind_of_ok (a := "node_modules/a.js") (by rfl)
    apply bind_of_ok rfl
    apply bind_of_ok (hzero _)
    apply bind_of_ok rfl
    exact bind_of_ok (a := 1) (by rfl) rfl
  have hdependencies : normalizeDependencyFiles (dependencyDocument [candidateDependency]) =
      .ok [candidateDependency] := by
    apply bind_of_ok (a := [candidateDependency])
    · exact mapM_map_self (List.forall_mem_singleton.mpr hdependency)
    apply bind_of_ok (a := ()) (by rfl)
    exact bind_of_ok (a := ()) (by rfl) rfl
  have hrecord : normalizeRecord "dist_files" (recordDocument candidateModule) =
      .ok candidateModule := by
    apply bind_of_ok (requireExactKeys_of_keys rfl)
    apply bind_of_ok rfl
    apply bind_of_ok (a := "dist/a.js") (by rfl)
    apply bind_of_ok rfl
    apply bind_of_ok (hzero _)
    apply bind_of_ok rfl
    exact bind_of_ok (a := 1) (by rfl) rfl
  have hdist : normalizeRecords (givenRecordsDocument [givenRecord candidateModule]) "dist_files" =
      .ok [candidateModule] := by
    apply bind_of_ok (a := [candidateModule])
    · exact mapM_map_self (List.forall_mem_singleton.mpr hrecord)
    apply bind_of_ok (a := ()) (by rfl)
    exact bind_of_ok (a := ()) (by rfl) rfl
  apply bind_of_ok (a := ()) (by rfl)
  apply bind_of_ok hid
  apply bind_of_ok (hzero _)
  apply bind_of_ok hcommit
  apply bind_of_ok hnode
  apply bind_of_ok hnpm
  apply bind_of_ok (a := "candidate") (by rfl)
  apply bind_of_ok (a := ()) (by rfl)
  apply bind_of_ok (a := ()) (by rfl)
  apply bind_of_ok (a := "linux") (by rfl)
  apply bind_of_ok (a := "x86_64") (by rfl)
  apply bind_of_ok (a := ["npm", "ci", "--no-audit", "--no-fund"]) (by rfl)
  apply bind_of_ok (a := ["npm", "run", "build"]) (by rfl)
  apply bind_of_ok (a := ["node", "pokemon-showdown", "--skip-build", "simulate-battle"]) (by rfl)
  apply bind_of_ok (a := ()) (by rfl)
  apply bind_of_ok (a := ()) (by rfl)
  apply bind_of_ok (a := ()) (by rfl)
  apply bind_of_ok hconfig
  apply bind_of_ok (hzero _)
  apply bind_of_ok (dependencyFilesDocument_fields _)
  apply bind_of_ok hdependencies
  apply bind_of_ok (hdigest _ _)
  apply bind_of_ok (a := compactDigest (dependencyDocument [candidateDependency])) rfl
  apply bind_of_ok (a := ()) (refuseIf_eq_ok.mpr (not_not_intro rfl))
  apply bind_of_ok hdist
  apply bind_of_ok (a := compactDigest (recordsDocument [candidateModule])) rfl
  apply bind_of_ok (hequal _ _)
  apply bind_of_ok (hequal _ _)
  apply bind_of_ok (normalizeRulesetSnapshot_toJson _)
  apply bind_of_ok (hdigest _ _)
  apply bind_of_ok (hdigest _ _)
  apply bind_of_ok (a := compactDigest bareSnapshot.toJson) rfl
  apply bind_of_ok (a := ()) (refuseIf_eq_ok.mpr (not_not_intro rfl))
  apply bind_of_ok (a := compactDigest bareSnapshot.format.toJson) rfl
  apply bind_of_ok (a := ()) (refuseIf_eq_ok.mpr (not_not_intro rfl))
  apply bind_of_ok (hequal _ _)
  apply bind_of_ok (hequal _ _)
  exact bind_of_ok (hequal _ _) rfl

/-- The candidate build is read back from its own document. -/
theorem candidateBuild_round_trips : letI := Python.asciiDatabase; letI := compactCanonicalizer
    RoundTrips candidateBuild := by
  let _ := Python.asciiDatabase
  let _ := compactCanonicalizer
  exact build_manifest_round_trip.1 candidateBuild.fields candidateBuild candidateBuild_constructed

end BattleBelief.Oracle.Manifests
