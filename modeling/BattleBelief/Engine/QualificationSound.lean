import BattleBelief.Engine.Qualification
import Mathlib.Data.List.Dedup

/-!
# Qualified Capabilities

What a manifest that could be constructed says about a capability: a qualified one has evidence of
its own for every environment, taken with the parts that the manifest names.
-/

namespace BattleBelief.Qualification

open Runs
open HashChain (CollisionFree)

/-! ## §1 Sequences without duplicates -/

theorem nodup_of_dedup_length {α : Type*} [DecidableEq α] {items : List α}
    (h : items.dedup.length = items.length) : items.Nodup := by
  rw [← List.dedup_eq_self]
  exact (List.dedup_sublist items).eq_of_length h

theorem uniquelySorted_iff {values : List String} :
    UniquelySorted values ↔ values.Pairwise (· < ·) := by
  constructor
  · rintro ⟨hsorted, hlength⟩
    rw [hsorted]
    exact Python.sorted_strict (nodup_of_dedup_length hlength)
  · intro h
    have hle : values.Pairwise (· ≤ ·) := h.imp le_of_lt
    have hnodup : values.Nodup := h.imp ne_of_lt
    exact ⟨hle.insertionSort_eq.symm, by rw [hnodup.dedup]⟩

/-- The part of a catalog that search works with. -/
def CapabilityCatalog.issuing [Rfc8785] (catalog : CapabilityCatalog) :
    BattleBelief.CapabilityCatalog where
  definitions := catalog.definitionValues
  catalogDigest := ⟨catalog.catalogDigest, catalog.isDigest_catalogDigest⟩
  sorted := by
    obtain ⟨-, -, -, -, -, -, -, -, -, -, hsorted, -⟩ :=
      CatalogFields.postInit_eq_ok.mp catalog.accepted
    exact uniquelySorted_iff.mp hsorted

/-- That part issues the same capabilities. -/
theorem CapabilityCatalog.issuing_idFor [Rfc8785] {catalog : CapabilityCatalog} {value : String}
    {capability : CapabilityId} :
    catalog.issuing.idFor value = .ok capability ↔ catalog.idFor value = .ok capability := by
  unfold idFor BattleBelief.CapabilityCatalog.idFor
  by_cases hmem : value ∈ catalog.definitionValues
  · have hmem' : value ∈ catalog.issuing.definitions := hmem
    rw [if_pos hmem', bind_eq_ok]
    simp [hmem, issuing, pure, Except.pure]
  · have hmem' : value ∉ catalog.issuing.definitions := hmem
    rw [if_neg hmem', bind_eq_ok]
    simp [hmem]

/-- `dict.fromkeys` keeps a sequence without duplicates. -/
theorem eraseDups_eq_self {α : Type*} [DecidableEq α] {items : List α} (h : items.Nodup) :
    items.eraseDups = items := by
  induction items with
  | nil => rfl
  | cons item rest ih =>
    obtain ⟨hitem, hrest⟩ := List.nodup_cons.mp h
    have hkept : (rest.filter fun other => !other == item) = rest := by
      rw [List.filter_eq_self]
      intro other hother
      have hne : other ≠ item := fun heq => hitem (heq ▸ hother)
      simp [hne]
    rw [List.eraseDups_cons, hkept, ih hrest]

/-- An item is the only one with its key. -/
theorem filter_key {α κ : Type*} [DecidableEq κ] {key : α → κ} {items : List α} {item : α}
    (h : (items.map key).Nodup) (hitem : item ∈ items) :
    items.filter (fun other => key other = key item) = [item] := by
  induction items with
  | nil => cases hitem
  | cons first rest ih =>
    rw [List.map_cons, List.nodup_cons] at h
    rcases List.mem_cons.mp hitem with rfl | hrest
    · have hnone : rest.filter (fun other => key other = key item) = [] := by
        rw [List.filter_eq_nil_iff]
        intro other hother heq
        exact h.1 (of_decide_eq_true heq ▸ List.mem_map_of_mem hother)
      rw [List.filter_cons_of_pos (by simp), hnone]
    · have hne : key first ≠ key item := fun heq => h.1 (heq ▸ List.mem_map_of_mem hrest)
      rw [List.filter_cons_of_neg (by simpa using hne), ih h.2 hrest]

theorem find?_key {α κ : Type*} [DecidableEq κ] {key : α → κ} {items : List α} {item : α}
    (h : (items.map key).Nodup) (hitem : item ∈ items) :
    items.find? (fun other => key other = key item) = some item := by
  rw [← List.head?_filter, filter_key h hitem]
  rfl

/-! ## §2 References and sets of them -/

/-- What a reference has to have. -/
theorem EvidenceFields.postInit_eq_ok {ref : EvidenceFields} :
    ref.postInit = .ok () ↔
      isCanonicalId ref.evidenceId.toList = true ∧ isDigest ref.evidenceDigest = true ∧
      isCanonicalId ref.catalogId.toList = true ∧ ref.catalogVersion ≠ "" ∧
      isDigest ref.catalogDigest = true ∧ ref.capabilityId.catalogDigest.text = ref.catalogDigest ∧
      isDigest ref.canonicalizationContractDigest = true ∧
      isEnvironmentCellId ref.environmentCellId.toList = true ∧
      isCanonicalId ref.transitionAdapterId.toList = true ∧ ref.transitionAdapterVersion ≠ "" ∧
      isSchemaId ref.qualificationResultSchemaId.toList = true ∧
      ∀ field ∈ ref.digestFields, isDigest field.2 = true := by
  simp only [postInit, bind_eq_ok, canonicalId_eq_ok, nonempty_eq_ok, digest_eq_ok,
    environmentCellId_eq_ok, schemaId_eq_ok, refuseIf_eq_ok, forM_eq_ok, exists_const,
    Option.any_some, ne_eq, not_not, decide_eq_true_eq]

/-- The capability of a reference was issued by the catalog that the reference names. -/
theorem CapabilityEvidenceRef.issued (ref : CapabilityEvidenceRef) :
    ref.capabilityId.catalogDigest.text = ref.catalogDigest := by
  obtain ⟨-, -, -, -, -, hissued, -⟩ := EvidenceFields.postInit_eq_ok.mp ref.accepted
  exact hissued

/-- The key shows every field, and the capability but for its catalog. -/
theorem EvidenceFields.eq_of_key {ref other : EvidenceFields}
    (hcapability : ref.capabilityId = other.capabilityId) (h : ref.key = other.key) :
    ref = other := by
  cases ref
  cases other
  simp only [key, refFields, List.map_cons, List.map_nil, List.cons.injEq] at h
  simp only [mk.injEq]
  simp_all

/-- The key of a reference tells everything about it. -/
theorem CapabilityEvidenceRef.key_injective :
    Function.Injective fun ref : CapabilityEvidenceRef => ref.key := by
  intro ref other h
  have hkey : ref.key = other.key := h
  have hvalue : ref.capabilityId.value = other.capabilityId.value :=
    congrArg (fun fields => fields.getD 4 "") hkey
  have hcatalog : ref.catalogDigest = other.catalogDigest :=
    congrArg (fun fields => fields.getD 5 "") hkey
  have hdigest : ref.capabilityId.catalogDigest = other.capabilityId.catalogDigest := by
    apply Digest.text_injective
    rw [ref.issued, other.issued, hcatalog]
  have hcapability : ref.capabilityId = other.capabilityId := by
    cases hfirst : ref.capabilityId
    cases hsecond : other.capabilityId
    rw [hfirst, hsecond] at hvalue hdigest
    exact congrArg₂ CapabilityId.mk hvalue hdigest
  have hfields := EvidenceFields.eq_of_key hcapability hkey
  cases ref
  cases other
  congr

/-- Documents tell sequences of references apart. -/
theorem evidenceSetDocument_injective : Function.Injective evidenceSetDocument := by
  intro refs refs' h
  have hdocuments : (refs.map fun ref => ref.document) = refs'.map fun ref => ref.document := by
    simpa [evidenceSetDocument] using h
  apply List.map_injective_iff.mpr _ hdocuments
  intro ref other hsame
  apply CapabilityEvidenceRef.key_injective
  have hmembers : (ref.refFields.map fun field => (field.1, Python.Json.str field.2)) =
      other.refFields.map fun field => (field.1, Python.Json.str field.2) :=
    Python.Json.obj.inj hsame
  have hfields : ref.refFields = other.refFields := by
    apply List.map_injective_iff.mpr _ hmembers
    intro field field' heq
    simpa [Prod.ext_iff] using heq
  exact congrArg (List.map Prod.snd) hfields

theorem evidenceSetDocument_plain (refs : List CapabilityEvidenceRef) :
    (evidenceSetDocument refs).isPlain = true := by
  have hrefs : (Python.Json.arr (refs.map fun ref => ref.document)).isPlain = true := by
    rw [Python.Json.isPlain_arr]
    intro item hitem
    obtain ⟨ref, -, rfl⟩ := List.mem_map.mp hitem
    rfl
  simp only [evidenceSetDocument, Python.Json.isPlain, Python.Json.membersPlain, Bool.and_true] at hrefs ⊢
  exact hrefs

section Manifest

variable [Rfc8785]

/-- The digest of a set of references is that of the references in the order of their keys. -/
theorem evidenceSetDigestFor_eq_ok {refs : List CapabilityEvidenceRef} {digest : String} :
    evidenceSetDigestFor refs = .ok digest ↔ refs.Nodup ∧
      manifestDigest (evidenceSetDocument (SetDigest.listing (fun ref => ref.key) refs)) =
        .ok digest := by
  have hnodup : (refs.map fun ref => ref.key).dedup.length = (refs.map fun ref => ref.key).length ↔
      refs.Nodup := by
    rw [← List.nodup_map_iff CapabilityEvidenceRef.key_injective]
    exact ⟨nodup_of_dedup_length, fun h => congrArg List.length h.dedup⟩
  simp only [evidenceSetDigestFor, bind_eq_ok, refuseIf_eq_ok, ne_eq, not_not, hnodup,
    exists_const]

/-! ## §3 Claims -/

omit [Rfc8785] in
/-- What a claim has to have. -/
theorem ClaimFields.postInit_eq_ok {claim : ClaimFields} :
    claim.postInit = .ok () ↔
      (∀ ref ∈ claim.evidenceRefs, ref.capabilityId = claim.capabilityId) ∧
      (claim.evidenceRefs.map fun ref => ref.environmentCellId).Pairwise (· < ·) ∧
      claim.status.isQualifying = !claim.evidenceRefs.isEmpty ∧
      decide (claim.status = .boundedApproximation) = claim.approximation.isSome := by
  simp only [postInit, bind_eq_ok, refuseIf_eq_ok, uniquelySorted_iff, exists_const, ne_eq, not_not,
    not_exists, not_and]

omit [Rfc8785] in
/-- A claim has at most one reference for a cell. -/
theorem CapabilityClaim.nodup_cells (claim : CapabilityClaim) :
    (claim.evidenceRefs.map fun ref => ref.environmentCellId).Nodup := by
  obtain ⟨-, hsorted, -⟩ := ClaimFields.postInit_eq_ok.mp claim.accepted
  exact hsorted.imp ne_of_lt

omit [Rfc8785] in
theorem CapabilityClaim.capabilityId_eq (claim : CapabilityClaim) :
    ∀ ref ∈ claim.evidenceRefs, ref.capabilityId = claim.capabilityId :=
  (ClaimFields.postInit_eq_ok.mp claim.accepted).1

/-! ## §4 What a manifest has checked -/

/-- A reference was taken in this cell, with the parts that the manifest names. -/
structure EvidenceMatches (manifest : ManifestFields) (cell : EngineEnvironmentBinding)
    (ref : CapabilityEvidenceRef) : Prop where
  environmentCellId : ref.environmentCellId = cell.environmentCellId
  engineBuildManifestDigest : ref.engineBuildManifestDigest = cell.engineBuildManifestDigest
  wheelDigest : ref.wheelDigest = cell.wheelDigest
  catalogId : ref.catalogId = manifest.catalog.catalogId
  catalogVersion : ref.catalogVersion = manifest.catalog.catalogVersion
  catalogDigest : ref.catalogDigest = manifest.catalog.catalogDigest
  canonicalizationContractDigest :
    ref.canonicalizationContractDigest = manifest.canonicalizationContractDigest
  engineSourceManifestDigest : ref.engineSourceManifestDigest = manifest.engineSourceManifestDigest
  artifactIndexDigest : ref.artifactIndexDigest = manifest.artifactIndexDigest
  transitionAdapterId : some ref.transitionAdapterId = manifest.transitionAdapterId
  transitionAdapterVersion : some ref.transitionAdapterVersion = manifest.transitionAdapterVersion
  transitionAdapterSourceDigest :
    some ref.transitionAdapterSourceDigest = manifest.transitionAdapterSourceDigest
  transitionModelContractDigest :
    some ref.transitionModelContractDigest = manifest.transitionModelContractDigest
  transitionAdapterConformanceDigest :
    some ref.transitionAdapterConformanceDigest = manifest.transitionAdapterConformanceDigest
  oracleSourceManifestDigest :
    some ref.oracleSourceManifestDigest = manifest.oracleSourceManifestDigest
  oracleBuildManifestDigest :
    some ref.oracleBuildManifestDigest = manifest.oracleBuildManifestDigest
  rulesetDigest : some ref.rulesetDigest = manifest.rulesetDigest
  corpusDigest : some ref.corpusDigest = manifest.corpusDigest
  runnerSourceDigest : some ref.runnerSourceDigest = manifest.runnerSourceDigest
  classifierSourceDigest : some ref.classifierSourceDigest = manifest.classifierSourceDigest

/-- The checks of `__post_init__` that qualification rests on. -/
structure ManifestFields.Accepted (manifest : ManifestFields) : Prop where
  cells : manifest.cells.Nodup
  claims : (manifest.claims.map fun claim => claim.capabilityId.value).Nodup
  migration : manifest.migration ≠ none → manifest.claims = []
  evidenceIds : (manifest.allRefs.eraseDups.map fun ref => ref.evidenceId).Nodup
  evidenceDigests : (manifest.allRefs.eraseDups.map fun ref => ref.evidenceDigest).Nodup
  adapter : manifest.qualifyingClaims ≠ [] → ∀ field ∈ manifest.adapterFields, field.2 ≠ none
  covered : ∀ claim ∈ manifest.qualifyingClaims,
    (claim.evidenceRefs.map fun ref => ref.environmentCellId) = manifest.cells
  evidence : ∀ claim ∈ manifest.qualifyingClaims, ∀ ref ∈ claim.evidenceRefs,
    manifest.requireMatchingEvidence ref = .ok ()

/-- What the provenance of an adapter has to have, when it is there. -/
theorem ManifestFields.checkAdapter_eq_ok {manifest : ManifestFields}
    (hpresent : ∀ field ∈ manifest.adapterFields, field.2 ≠ none) :
    manifest.checkAdapter = .ok () ↔
      (manifest.transitionAdapterId.any fun text => isCanonicalId text.toList) = true ∧
      manifest.transitionAdapterVersion.any (· ≠ "") = true ∧
      ∀ field ∈ manifest.adapterDigestFields, field.2.any isDigest = true := by
  have hnone : ¬∃ field ∈ manifest.adapterFields, field.2 = none := by
    rintro ⟨field, hfield, hnone⟩
    exact hpresent field hfield hnone
  simp only [checkAdapter, hnone, false_and, refuseIf_false, if_pos hpresent, bind_eq_ok,
    forM_eq_ok, exists_const, canonicalId_eq_ok, nonempty_eq_ok, digest_eq_ok, true_and]

/-- What qualifying claims ask of the manifest. -/
theorem ManifestFields.checkQualifying_eq_ok {manifest : ManifestFields} {expected : String} :
    manifest.checkQualifying expected = .ok () ↔
      (manifest.environmentBindings ≠ [] ∧ (∀ field ∈ manifest.adapterFields, field.2 ≠ none) ∧
        ∀ field ∈ manifest.optionalClosureDigestFields, field.2 ≠ none) ∧
      manifest.evidenceSetDigest = some expected ∧
      ∀ claim ∈ manifest.qualifyingClaims,
        (claim.evidenceRefs.map fun ref => ref.environmentCellId) = manifest.cells ∧
          ∀ ref ∈ claim.evidenceRefs, manifest.requireMatchingEvidence ref = .ok () := by
  simp only [checkQualifying, bind_eq_ok, refuseIf_eq_ok, forM_eq_ok, exists_const, ne_eq, not_not,
    not_or, not_exists, not_and, List.isEmpty_iff]

/-- What a manifest has to have. -/
theorem ManifestFields.postInit_eq_ok {manifest : ManifestFields} :
    manifest.postInit = .ok () ↔
      isCanonicalId manifest.manifestId.toList = true ∧ manifest.generation = 9 ∧
      manifest.format = "gen9ou" ∧
      (manifest.catalog.generation = manifest.generation ∧
        manifest.catalog.format = manifest.format ∧
        manifest.catalog.canonicalizationContractDigest =
          manifest.canonicalizationContractDigest) ∧
      isDigest manifest.engineSourceManifestDigest = true ∧
      isDigest manifest.artifactIndexDigest = true ∧
      isDigest manifest.canonicalizationContractDigest = true ∧
      manifest.cells.Pairwise (· < ·) ∧ manifest.checkAdapter = .ok () ∧
      (∀ field ∈ manifest.optionalClosureDigestFields, ∀ text ∈ field.2, isDigest text = true) ∧
      (manifest.claims.map fun claim => claim.capabilityId.value).Pairwise (· < ·) ∧
      (∀ claim ∈ manifest.claims,
        discard (manifest.catalog.require claim.capabilityId) = .ok ()) ∧
      (manifest.migration.isSome → manifest.claims = [] ∧
        (∀ field ∈ manifest.adapterFields, field.2 = none) ∧
        ∀ field ∈ manifest.optionalClosureDigestFields, field.2 = none) ∧
      (manifest.allRefs.eraseDups.map fun ref => ref.evidenceId).dedup.length =
        manifest.allRefs.eraseDups.length ∧
      (manifest.allRefs.eraseDups.map fun ref => ref.evidenceDigest).dedup.length =
        manifest.allRefs.eraseDups.length ∧
      ∃ expected, evidenceSetDigestFor manifest.allRefs.eraseDups = .ok expected ∧
        if manifest.qualifyingClaims ≠ [] then manifest.checkQualifying expected = .ok ()
        else manifest.evidenceSetDigest ≠ none → manifest.evidenceSetDigest = some expected := by
  simp only [postInit, bind_eq_ok, refuseIf_eq_ok, forM_eq_ok, ne_eq, not_not, not_or,
    not_exists, not_and, List.isEmpty_iff, canonicalId_eq_ok, digest_eq_ok, optionalDigest_eq_ok,
    Option.any_some, uniquelySorted_iff, Unique.exists_iff, PUnit.default_eq_unit,
    apply_ite (· = (Except.ok () : Except PyException Unit))]

theorem EngineCapabilityManifest.checked (manifest : EngineCapabilityManifest) :
    manifest.Accepted := by
  obtain ⟨-, -, -, -, -, -, -, hcells, -, -, hclaims, -, hmigration, hids, hdigests, expected, -,
    h⟩ := ManifestFields.postInit_eq_ok.mp manifest.accepted
  have hqualified (hne : manifest.qualifyingClaims ≠ []) :=
    ManifestFields.checkQualifying_eq_ok.mp ((if_pos hne).mp h)
  constructor
  case cells => exact hcells.imp ne_of_lt
  case claims => exact hclaims.imp ne_of_lt
  case migration => exact fun hsome => (hmigration (Option.isSome_iff_ne_none.mpr hsome)).1
  case evidenceIds =>
    apply nodup_of_dedup_length
    rw [hids, List.length_map]
  case evidenceDigests =>
    apply nodup_of_dedup_length
    rw [hdigests, List.length_map]
  case adapter => exact fun hne => (hqualified hne).1.2.1
  case covered =>
    intro claim hclaim
    exact ((hqualified (List.ne_nil_of_mem hclaim)).2.2 claim hclaim).1
  case evidence =>
    intro claim hclaim
    exact ((hqualified (List.ne_nil_of_mem hclaim)).2.2 claim hclaim).2

/-- The references that a manifest accepts are those that match the binding of their cell. -/
theorem ManifestFields.requireMatchingEvidence_eq_ok {manifest : ManifestFields}
    {ref : CapabilityEvidenceRef} {cell : EngineEnvironmentBinding}
    (hfound : manifest.cellFor ref.environmentCellId = some cell) :
    manifest.requireMatchingEvidence ref = .ok () ↔ EvidenceMatches manifest cell ref := by
  have hcell : cell.environmentCellId = ref.environmentCellId := by
    simpa using List.find?_some hfound
  have hglobal : (¬∃ field ∈ manifest.globalEvidenceFields ref, some field.1 ≠ field.2) ↔
      ∀ field ∈ manifest.globalEvidenceFields ref, some field.1 = field.2 := by
    simp
  rw [requireMatchingEvidence, hfound]
  simp only [bind_eq_ok, refuseIf_eq_ok, exists_const, Option.any_some, decide_eq_true_eq, not_not,
    hglobal]
  simp only [globalEvidenceFields, List.forall_mem_cons, Option.some.injEq, not_or, ne_eq, not_not]
  constructor
  · rintro ⟨⟨hbuild, hwheel⟩, ⟨hcatalogId, hversion, hdigest, hcanonicalization⟩, hsource, hindex,
      hadapter, hadapterVersion, hadapterSource, hmodel, hconformance, horacleSource, horacleBuild,
      hruleset, hcorpus, hrunner, hclassifier, -⟩
    exact ⟨hcell.symm, hbuild, hwheel, hcatalogId, hversion, hdigest, hcanonicalization, hsource,
      hindex, hadapter, hadapterVersion, hadapterSource, hmodel, hconformance, horacleSource,
      horacleBuild, hruleset, hcorpus, hrunner, hclassifier⟩
  · intro h
    exact ⟨⟨h.engineBuildManifestDigest, h.wheelDigest⟩,
      ⟨h.catalogId, h.catalogVersion, h.catalogDigest, h.canonicalizationContractDigest⟩,
      h.engineSourceManifestDigest, h.artifactIndexDigest, h.transitionAdapterId,
      h.transitionAdapterVersion, h.transitionAdapterSourceDigest, h.transitionModelContractDigest,
      h.transitionAdapterConformanceDigest, h.oracleSourceManifestDigest,
      h.oracleBuildManifestDigest, h.rulesetDigest, h.corpusDigest, h.runnerSourceDigest,
      h.classifierSourceDigest, nofun⟩

/-- References that different claims count are different. -/
theorem EngineCapabilityManifest.nodup_allRefs (manifest : EngineCapabilityManifest) :
    manifest.allRefs.Nodup := by
  unfold ManifestFields.allRefs
  rw [List.nodup_flatMap]
  constructor
  · intro claim _
    exact List.Nodup.of_map _ claim.nodup_cells
  · have hclaims := manifest.checked.claims
    rw [List.Nodup, List.pairwise_map] at hclaims
    apply hclaims.imp
    intro claim other hne ref hfirst hsecond
    apply hne
    rw [← claim.capabilityId_eq ref hfirst, ← other.capabilityId_eq ref hsecond]

/-- No two references share an id or a digest. -/
theorem EngineCapabilityManifest.refs_apart (manifest : EngineCapabilityManifest) :
    manifest.allRefs.Pairwise fun first second =>
      first.evidenceId ≠ second.evidenceId ∧ first.evidenceDigest ≠ second.evidenceDigest := by
  have hids := manifest.checked.evidenceIds
  have hdigests := manifest.checked.evidenceDigests
  rw [eraseDups_eq_self manifest.nodup_allRefs, List.Nodup, List.pairwise_map] at hids hdigests
  exact hids.and hdigests

/-! ## §5 The status of a capability -/

theorem CapabilityCatalog.require_idFor {catalog : CapabilityCatalog} {value : String}
    {capability : CapabilityId} (h : catalog.idFor value = .ok capability) :
    catalog.require capability = .ok capability := by
  obtain ⟨_, hmem, hcapability⟩ := bind_eq_ok.mp h
  rw [refuseIf_eq_ok, not_not] at hmem
  obtain rfl := Except.ok.inj hcapability
  unfold require
  rw [bind_eq_ok]
  exact ⟨(), by simpa using hmem, rfl⟩

variable {manifest : EngineCapabilityManifest} {capability : CapabilityId}

theorem EngineCapabilityManifest.claimFor_eq
    (h : manifest.catalog.require capability = .ok capability) :
    manifest.claimFor capability =
      .ok (manifest.claims.find? fun claim => claim.capabilityId = capability) := by
  rw [claimFor, h]
  rfl

/-- The status of a capability is that of its claim. -/
theorem EngineCapabilityManifest.statusFor_eq {found : Option CapabilityClaim}
    (h : manifest.claimFor capability = .ok found) :
    manifest.statusFor capability = .ok (found.elim .unknown fun claim => claim.status) := by
  rw [statusFor, h]
  cases found with
  | none => rfl
  | some claim => rfl

/-- The promise that comes with a qualified claim: for each environment the claim has one reference,
which is for this capability and matches, and the backend has an identity there. -/
structure Qualified (manifest : EngineCapabilityManifest) (claim : CapabilityClaim) : Prop where
  evidence : ∀ cell ∈ manifest.environmentBindings, ∃ ref,
    (claim.evidenceRefs.filter fun ref => ref.environmentCellId = cell.environmentCellId) = [ref] ∧
      ref.capabilityId = claim.capabilityId ∧ EvidenceMatches manifest.toManifestFields cell ref
  backend : ∀ cell ∈ manifest.environmentBindings,
    ∃ digest, manifest.backendIdentityDigest cell.environmentCellId = .ok digest

theorem EngineCapabilityManifest.backendDocument_plain (cell : EngineEnvironmentBinding) :
    (manifest.backendDocument cell).isPlain = true := rfl

/-- With an adapter every bound cell has an identity. -/
theorem EngineCapabilityManifest.exists_backendIdentityDigest (hdumps : DumpsPlain)
    (hadapter : ∀ field ∈ manifest.adapterFields, field.2 ≠ none) {cell : EngineEnvironmentBinding}
    (hcell : cell ∈ manifest.environmentBindings) :
    ∃ digest, manifest.backendIdentityDigest cell.environmentCellId = .ok digest := by
  obtain ⟨digest, hdigest⟩ :=
    hdumps.exists_digest (manifest.backendDocument_plain cell)
  have hfound : manifest.cellFor cell.environmentCellId = some cell :=
    find?_key manifest.checked.cells hcell
  have hpresent : ¬∃ field ∈ manifest.adapterFields, field.2 = none := by
    rintro ⟨field, hfield, hnone⟩
    exact hadapter field hfield hnone
  refine ⟨digest, ?_⟩
  unfold backendIdentityDigest
  rw [bind_eq_ok]
  refine ⟨(), refuseIf_eq_ok.mpr hpresent, ?_⟩
  rw [hfound]
  exact hdigest

/-- A claim with a qualifying status is qualified. -/
theorem EngineCapabilityManifest.qualified (hdumps : DumpsPlain) {claim : CapabilityClaim}
    (hclaim : claim ∈ manifest.claims) (hstatus : claim.status.isQualifying = true) :
    Qualified manifest claim := by
  have hchecked := manifest.checked
  have hqualifying : claim ∈ manifest.qualifyingClaims := List.mem_filter.mpr ⟨hclaim, hstatus⟩
  have hcovered := hchecked.covered claim hqualifying
  constructor
  · intro cell hcell
    have hmem : cell.environmentCellId ∈ manifest.cells := List.mem_map_of_mem hcell
    rw [← hcovered] at hmem
    obtain ⟨ref, href, hsame⟩ := List.mem_map.mp hmem
    refine ⟨ref, ?_, claim.capabilityId_eq ref href, ?_⟩
    · rw [← hsame]
      exact filter_key claim.nodup_cells href
    · have hfound : manifest.cellFor ref.environmentCellId = some cell := by
        rw [hsame]
        exact find?_key hchecked.cells hcell
      exact (ManifestFields.requireMatchingEvidence_eq_ok hfound).mp
        (hchecked.evidence claim hqualifying ref href)
  · intro cell hcell
    exact exists_backendIdentityDigest hdumps
      (hchecked.adapter (List.ne_nil_of_mem hqualifying)) hcell

/-- With a migration there are no claims. -/
theorem EngineCapabilityManifest.statusFor_of_migration (hmigration : manifest.migration ≠ none)
    (h : manifest.catalog.require capability = .ok capability) :
    manifest.statusFor capability = .ok .unknown := by
  have hclaim := manifest.claimFor_eq h
  rw [manifest.checked.migration hmigration] at hclaim
  exact statusFor_eq hclaim

/-- Qualification is sound, and the digest of evidence names a set. -/
theorem qualification_sound (hdumps : DumpsPlain) :
    (∀ (manifest : EngineCapabilityManifest) (value : String) (capability : CapabilityId),
      manifest.catalog.idFor value = .ok capability →
        ∃ status, manifest.statusFor capability = .ok status ∧
          (status.isQualifying = true → ∃ claim, manifest.claimFor capability = .ok (some claim) ∧
            claim.capabilityId = capability ∧ Qualified manifest claim) ∧
          (manifest.migration ≠ none → status = .unknown)) ∧
      (∀ manifest : EngineCapabilityManifest, manifest.allRefs.Pairwise fun first second =>
        first.evidenceId ≠ second.evidenceId ∧ first.evidenceDigest ≠ second.evidenceDigest) ∧
      (∀ refs : List CapabilityEvidenceRef,
        refs.Nodup ↔ ∃ digest, evidenceSetDigestFor refs = .ok digest) ∧
      ∀ (refs refs' : List CapabilityEvidenceRef) (digest digest' : String),
        evidenceSetDigestFor refs = .ok digest → evidenceSetDigestFor refs' = .ok digest' →
          ((∀ ref, ref ∈ refs ↔ ref ∈ refs') → digest = digest') ∧
          (CollisionFree manifestDigest (fun document =>
              document = evidenceSetDocument (SetDigest.listing (fun ref => ref.key) refs) ∨
                document = evidenceSetDocument (SetDigest.listing (fun ref => ref.key) refs')) →
            digest = digest' → ∀ ref, ref ∈ refs ↔ ref ∈ refs') := by
  refine ⟨?_, fun manifest => manifest.refs_apart, ?_, ?_⟩
  · intro manifest value capability hcapability
    have hrequire := CapabilityCatalog.require_idFor hcapability
    have hclaim := manifest.claimFor_eq hrequire
    refine ⟨_, EngineCapabilityManifest.statusFor_eq hclaim, ?_, ?_⟩
    · intro hstatus
      cases hfound : manifest.claims.find? fun claim => claim.capabilityId = capability with
      | none =>
        rw [hfound] at hstatus
        cases hstatus
      | some claim =>
        rw [hfound] at hclaim hstatus
        have hsame : claim.capabilityId = capability := by
          simpa using List.find?_some hfound
        exact ⟨claim, hclaim, hsame,
          EngineCapabilityManifest.qualified hdumps (List.mem_of_find?_eq_some hfound) hstatus⟩
    · intro hmigration
      have hunknown := manifest.statusFor_of_migration hmigration hrequire
      rw [EngineCapabilityManifest.statusFor_eq hclaim] at hunknown
      exact Except.ok.inj hunknown
  · intro refs
    simp only [evidenceSetDigestFor_eq_ok, exists_and_left, iff_self_and]
    intro _
    exact hdumps.exists_digest (evidenceSetDocument_plain _)
  · intro refs refs' digest digest' hdigest hdigest'
    obtain ⟨hnodup, hdigest⟩ := evidenceSetDigestFor_eq_ok.mp hdigest
    obtain ⟨hnodup', hdigest'⟩ := evidenceSetDigestFor_eq_ok.mp hdigest'
    constructor
    · intro hsame
      rw [(SetDigest.listing_eq_iff CapabilityEvidenceRef.key_injective hnodup hnodup').mpr hsame]
        at hdigest
      exact Except.ok.inj (hdigest.symm.trans hdigest')
    · intro hfree
      exact (SetDigest.digest_eq_iff CapabilityEvidenceRef.key_injective
        evidenceSetDocument_injective hfree hnodup hnodup' hdigest hdigest').mp

end Manifest

/-! ## §6 An engine with one qualified capability -/

def sampleDigest : String := String.ofList ("sha256:".toList ++ List.replicate 64 '0')

theorem sampleDigest_valid : isDigest sampleDigest = true := by decide +kernel

def sampleCatalogFields (catalogDigest : String) : CatalogFields where
  catalogId := "catalog"
  catalogVersion := "1"
  generation := 9
  format := "gen9ou"
  capabilityContractId := "contract"
  capabilityContractVersion := "2"
  capabilityContractDigest := sampleDigest
  canonicalizationContractId := "profile"
  canonicalizationContractVersion := "1"
  canonicalizationContractDigest := sampleDigest
  catalogDigest := catalogDigest
  definitions := [⟨"gen9.transition.order", "Order", by decide +kernel⟩]

/-- The digest of the catalog's document. -/
def sampleCatalogDigest : String :=
  sha256Digest (Python.encodeUtf8 (sampleCatalogFields "").document.dumps)

theorem sampleCatalogDigest_valid : isDigest sampleCatalogDigest = true := isDigest_sha256Digest _

def sampleCatalog : letI := compactCanonicalizer; CapabilityCatalog :=
  letI := compactCanonicalizer
  { toCatalogFields := sampleCatalogFields sampleCatalogDigest
    accepted := by
      rw [CatalogFields.postInit_eq_ok]
      exact ⟨by decide +kernel, by decide +kernel, ⟨rfl, rfl⟩, by decide +kernel,
        by decide +kernel, sampleDigest_valid, by decide +kernel, by decide +kernel,
        sampleDigest_valid, List.cons_ne_nil _ _, by decide +kernel, rfl⟩ }

def sampleCapability : CapabilityId :=
  ⟨"gen9.transition.order", ⟨sampleCatalogDigest, sampleCatalogDigest_valid⟩⟩

theorem sampleCapability_issued :
    letI := compactCanonicalizer
    sampleCatalog.idFor "gen9.transition.order" = .ok sampleCapability := by
  let _ := compactCanonicalizer
  have hdefined : "gen9.transition.order" ∈ sampleCatalog.definitionValues :=
    List.mem_singleton.mpr rfl
  exact bind_eq_ok.mpr ⟨(), refuseIf_eq_ok.mpr (not_not.mpr hdefined), rfl⟩

def sampleRefFields : EvidenceFields where
  evidenceId := "evidence"
  evidenceDigest := sampleDigest
  catalogId := "catalog"
  catalogVersion := "1"
  capabilityId := sampleCapability
  catalogDigest := sampleCatalogDigest
  canonicalizationContractDigest := sampleDigest
  environmentCellId := "linux"
  engineSourceManifestDigest := sampleDigest
  engineBuildManifestDigest := sampleDigest
  artifactIndexDigest := sampleDigest
  wheelDigest := sampleDigest
  transitionAdapterId := "adapter"
  transitionAdapterVersion := "1"
  transitionAdapterSourceDigest := sampleDigest
  transitionModelContractDigest := sampleDigest
  transitionAdapterConformanceDigest := sampleDigest
  oracleSourceManifestDigest := sampleDigest
  oracleBuildManifestDigest := sampleDigest
  rulesetDigest := sampleDigest
  corpusDigest := sampleDigest
  runnerSourceDigest := sampleDigest
  classifierSourceDigest := sampleDigest
  qualificationResultSchemaId := "urn:battlebelief:schema:result:v1"
  qualificationResultDigest := sampleDigest

theorem sampleRefFields_digests :
    ∀ field ∈ sampleRefFields.digestFields, isDigest field.2 = true := by
  simp only [EvidenceFields.digestFields, sampleRefFields, List.forall_mem_cons,
    sampleDigest_valid, sampleCatalogDigest_valid, true_and]
  exact nofun

def sampleRef : CapabilityEvidenceRef where
  toEvidenceFields := sampleRefFields
  accepted := by
    rw [EvidenceFields.postInit_eq_ok]
    exact ⟨by decide +kernel, sampleDigest_valid, by decide +kernel, by decide +kernel,
      sampleCatalogDigest_valid, rfl, sampleDigest_valid, by decide +kernel,
      by decide +kernel, by decide +kernel, by decide +kernel, sampleRefFields_digests⟩

def sampleClaim : CapabilityClaim where
  capabilityId := sampleCapability
  status := .exact
  evidenceRefs := [sampleRef]
  accepted := by
    rw [ClaimFields.postInit_eq_ok]
    exact ⟨List.forall_mem_singleton.mpr rfl, List.pairwise_singleton _ _, rfl, rfl⟩

/-- The digest of the claim's evidence. -/
def sampleEvidenceDigest : String :=
  sha256Digest (Python.encodeUtf8 (evidenceSetDocument [sampleRef]).dumps)

theorem sampleEvidenceDigest_valid : isDigest sampleEvidenceDigest = true := isDigest_sha256Digest _

def sampleCell : EngineEnvironmentBinding :=
  ⟨"linux", sampleDigest, sampleDigest, by decide +kernel⟩

def sampleManifestFields : letI := compactCanonicalizer; ManifestFields :=
  letI := compactCanonicalizer
  { manifestId := "manifest"
    catalog := sampleCatalog
    generation := 9
    format := "gen9ou"
    engineSourceManifestDigest := sampleDigest
    artifactIndexDigest := sampleDigest
    environmentBindings := [sampleCell]
    transitionAdapterId := some "adapter"
    transitionAdapterVersion := some "1"
    transitionAdapterSourceDigest := some sampleDigest
    transitionModelContractDigest := some sampleDigest
    transitionAdapterConformanceDigest := some sampleDigest
    oracleSourceManifestDigest := some sampleDigest
    oracleBuildManifestDigest := some sampleDigest
    rulesetDigest := some sampleDigest
    corpusDigest := some sampleDigest
    runnerSourceDigest := some sampleDigest
    classifierSourceDigest := some sampleDigest
    evidenceSetDigest := some sampleEvidenceDigest
    canonicalizationContractDigest := sampleDigest
    claims := [sampleClaim] }

theorem sampleManifestFields_ok :
    letI := compactCanonicalizer
    sampleManifestFields.postInit = .ok () := by
  let _ := compactCanonicalizer
  have hrefs : sampleManifestFields.allRefs.eraseDups = [sampleRef] :=
    eraseDups_eq_self (List.nodup_singleton sampleRef)
  have hadapter : ∀ field ∈ sampleManifestFields.adapterFields, field.2 ≠ none := by
    simp [ManifestFields.adapterFields, sampleManifestFields]
  have hclosure : ∀ field ∈ sampleManifestFields.optionalClosureDigestFields, field.2 ≠ none := by
    simp [ManifestFields.optionalClosureDigestFields, sampleManifestFields]
  have hdigest : evidenceSetDigestFor [sampleRef] = .ok sampleEvidenceDigest :=
    evidenceSetDigestFor_eq_ok.mpr ⟨List.nodup_singleton sampleRef, rfl⟩
  have hfound : sampleManifestFields.cellFor sampleRef.environmentCellId = some sampleCell := rfl
  have hmatches : EvidenceMatches sampleManifestFields sampleCell sampleRef :=
    ⟨rfl, rfl, rfl, rfl, rfl, rfl, rfl, rfl, rfl, rfl, rfl, rfl, rfl, rfl, rfl, rfl, rfl, rfl, rfl, rfl⟩
  have hqualifying : sampleManifestFields.qualifyingClaims = [sampleClaim] := rfl
  have hchecked : sampleManifestFields.checkQualifying sampleEvidenceDigest = .ok () := by
    rw [ManifestFields.checkQualifying_eq_ok, hqualifying, List.forall_mem_singleton]
    exact ⟨⟨List.cons_ne_nil _ _, hadapter, hclosure⟩, rfl, rfl, List.forall_mem_singleton.mpr
      ((ManifestFields.requireMatchingEvidence_eq_ok hfound).mpr hmatches)⟩
  rw [ManifestFields.postInit_eq_ok, hrefs, hqualifying]
  refine ⟨by decide +kernel, rfl, rfl, ⟨rfl, rfl, rfl⟩, sampleDigest_valid, sampleDigest_valid,
    sampleDigest_valid, List.pairwise_singleton _ _, ?_, ?_, List.pairwise_singleton _ _, ?_, nofun,
    rfl, rfl, sampleEvidenceDigest, hdigest, hchecked⟩
  · rw [ManifestFields.checkAdapter_eq_ok hadapter]
    refine ⟨by decide +kernel, by decide +kernel, ?_⟩
    simp only [ManifestFields.adapterDigestFields, ManifestFields.adapterFields, List.drop,
      sampleManifestFields, List.forall_mem_cons, Option.any_some, sampleDigest_valid, true_and]
    exact nofun
  · have hsample : ∀ text ∈ some sampleDigest, isDigest text = true := by
      intro text htext
      obtain rfl := Option.mem_some_iff.mp htext
      exact sampleDigest_valid
    have hevidence : ∀ text ∈ some sampleEvidenceDigest, isDigest text = true := by
      intro text htext
      obtain rfl := Option.mem_some_iff.mp htext
      exact sampleEvidenceDigest_valid
    exact List.forall_mem_cons.mpr ⟨hsample, List.forall_mem_cons.mpr ⟨hsample,
      List.forall_mem_cons.mpr ⟨hsample, List.forall_mem_cons.mpr ⟨hsample,
      List.forall_mem_cons.mpr ⟨hsample, List.forall_mem_cons.mpr ⟨hsample,
      List.forall_mem_cons.mpr ⟨hevidence, nofun⟩⟩⟩⟩⟩⟩⟩
  · intro claim hclaim
    obtain rfl := List.mem_singleton.mp hclaim
    have hrequire : sampleCatalog.require sampleCapability = .ok sampleCapability :=
      CapabilityCatalog.require_idFor sampleCapability_issued
    show discard (sampleCatalog.require sampleCapability) = .ok ()
    rw [hrequire]
    rfl

def sampleManifest : letI := compactCanonicalizer; EngineCapabilityManifest :=
  letI := compactCanonicalizer
  { toManifestFields := sampleManifestFields
    accepted := sampleManifestFields_ok }

/-- Its capability is exact, and has evidence for the cell that it is bound to. -/
theorem sample_qualified :
    letI := compactCanonicalizer
    sampleManifest.statusFor sampleCapability = .ok .exact ∧
      ∃ claim, sampleManifest.claimFor sampleCapability = .ok (some claim) ∧
        Qualified sampleManifest claim := by
  let _ := compactCanonicalizer
  obtain ⟨hqualified, -⟩ := qualification_sound compactCanonicalizer_dumpsPlain
  obtain ⟨status, hstatus, hclaim, -⟩ := hqualified sampleManifest "gen9.transition.order"
    sampleCapability sampleCapability_issued
  have hclaims : sampleManifest.claimFor sampleCapability = .ok (some sampleClaim) := by
    rw [EngineCapabilityManifest.claimFor_eq (CapabilityCatalog.require_idFor sampleCapability_issued)]
    exact congrArg Except.ok (List.find?_cons_of_pos (decide_eq_true rfl))
  have hexact := EngineCapabilityManifest.statusFor_eq hclaims
  obtain rfl := Except.ok.inj (hexact.symm.trans hstatus)
  obtain ⟨claim, hfound, -, hclaim⟩ := hclaim rfl
  exact ⟨hexact, claim, hfound, hclaim⟩

end BattleBelief.Qualification
