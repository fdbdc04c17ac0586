import BattleBelief.Engine.SearchValues
import BattleBelief.Library.SetDigest

/-!
# Qualification of an Engine

`engine_capabilities.py`: the catalog that issues capabilities, references to evidence, claims on
capabilities and the manifest that brings them together for one engine. Each constructor checks
its fields in `__post_init__`, and each type carries that its check passed.
-/

namespace BattleBelief.Qualification

open Runs
open Python (Json)

/-! ## §1 Identifiers -/

def isLower (c : Char) : Bool := 'a' ≤ c && c ≤ 'z'

def isDecimal (c : Char) : Bool := '0' ≤ c && c ≤ '9'

/-- `[a-z0-9]+` -/
def isWord (part : List Char) : Bool := part ≠ [] && part.all fun c => isLower c || isDecimal c

/-- `_CANONICAL_ID_RE`. -/
def isCanonicalId (text : List Char) : Bool :=
  text.head?.any isLower && (text.splitOn '-').all isWord

/-- `_CAPABILITY_ID_RE`. -/
def isCapabilityId (text : List Char) : Bool :=
  let parts := text.splitOn '.'
  3 ≤ parts.length && parts.length ≤ 8 && parts.all isCanonicalId

/-- `_ENVIRONMENT_CELL_ID_RE`. -/
def isEnvironmentCellId (text : List Char) : Bool :=
  (text.splitOnP fun c => c ∈ ['-', '.', '_']).all isWord

/-- `[a-z][a-z0-9-]*` -/
def isSchemaName (part : List Char) : Bool :=
  part.head?.any isLower && part.all fun c => isLower c || isDecimal c || c = '-'

/-- `v[1-9][0-9]*` -/
def isSchemaVersion : List Char → Bool
  | 'v' :: first :: rest => '1' ≤ first && first ≤ '9' && rest.all isDecimal
  | _ => false

/-- `_SCHEMA_ID_RE`. -/
def isSchemaId (text : List Char) : Bool :=
  match text.splitOn ':' with
  | ['u', 'r', 'n'] :: project :: kind :: rest =>
      project = "battlebelief".toList && kind = "schema".toList && 2 ≤ rest.length &&
        rest.dropLast.all isSchemaName && rest.getLast?.any isSchemaVersion
  | _ => false

/-- `0|[1-9][0-9]*` -/
def isWhole (part : List Char) : Bool :=
  part = ['0'] || (part.all isDecimal && part.head?.any fun c => '1' ≤ c)

/-- `[0-9]*[1-9]` -/
def isFraction (part : List Char) : Bool :=
  part.all isDecimal && part.getLast?.any fun c => '1' ≤ c

/-- `_CANONICAL_DECIMAL_RE`. -/
def isCanonicalDecimal (text : List Char) : Bool :=
  match text.splitOn '.' with
  | [whole] => isWhole whole
  | [whole, fraction] => isWhole whole && isFraction fraction
  | _ => false

/-! The checks take any object; a field may have no text. -/

/-- `_nonempty`. -/
def nonempty (value : Option String) (name : String) : Except PyException Unit :=
  refuseIf (¬value.any (· ≠ "")) (.valueError s!"{name} must be a non-empty string")

/-- `_digest`. -/
def digest (value : Option String) (name : String) : Except PyException Unit :=
  refuseIf (¬value.any isDigest) (.valueError s!"{name} must be a sha256 digest")

/-- `_digest` of a value that may be `None`. -/
def optionalDigest (value : Option String) (name : String) : Except PyException Unit :=
  if value = none then .ok () else digest value name

/-- `_canonical_id`. -/
def canonicalId (value : Option String) (name : String) : Except PyException Unit :=
  refuseIf (¬value.any fun text => isCanonicalId text.toList)
    (.valueError s!"{name} must be a canonical identifier")

/-- `_environment_cell_id`. -/
def environmentCellId (value : String) : Except PyException Unit :=
  refuseIf (¬isEnvironmentCellId value.toList)
    (.valueError "environment_cell_id must be canonical")

/-- `_schema_id`. -/
def schemaId (value name : String) : Except PyException Unit :=
  refuseIf (¬isSchemaId value.toList)
    (.valueError s!"{name} must be a canonical BattleBelief schema id")

@[simp] theorem nonempty_eq_ok {value : Option String} {name : String} {u : Unit} :
    nonempty value name = .ok u ↔ value.any (· ≠ "") = true := by
  simp [nonempty]

@[simp] theorem digest_eq_ok {value : Option String} {name : String} {u : Unit} :
    digest value name = .ok u ↔ value.any isDigest = true := by
  simp [digest]

@[simp] theorem optionalDigest_eq_ok {value : Option String} {name : String} {u : Unit} :
    optionalDigest value name = .ok u ↔ ∀ text ∈ value, isDigest text = true := by
  cases value with
  | none => simp [optionalDigest]
  | some text => simp [optionalDigest]

@[simp] theorem canonicalId_eq_ok {value : Option String} {name : String} {u : Unit} :
    canonicalId value name = .ok u ↔ (value.any fun text => isCanonicalId text.toList) = true := by
  simp [canonicalId]

@[simp] theorem environmentCellId_eq_ok {value : String} {u : Unit} :
    environmentCellId value = .ok u ↔ isEnvironmentCellId value.toList = true := by
  simp [environmentCellId]

@[simp] theorem schemaId_eq_ok {value name : String} {u : Unit} :
    schemaId value name = .ok u ↔ isSchemaId value.toList = true := by
  simp [schemaId]

/-- `values == tuple(sorted(values)) and len(set(values)) == len(values)` -/
def UniquelySorted (values : List String) : Prop :=
  values = Python.sorted values ∧ values.dedup.length = values.length

instance (values : List String) : Decidable (UniquelySorted values) :=
  inferInstanceAs (Decidable (_ ∧ _))

/-! ## §2 Catalogs -/

/-- `CapabilityDefinition.__post_init__`. -/
def definitionPostInit (value description : String) : Except PyException Unit := do
  refuseIf (¬value.toList.all Python.isAscii ∨ 128 < value.toList.length ∨
      ¬isCapabilityId value.toList ∨ ¬Python.startsWith value "gen9.")
    (.valueError "capability value must be a canonical gen9 capability id")
  nonempty description "description"

structure CapabilityDefinition where
  value : String
  description : String
  accepted : definitionPostInit value description = .ok ()

def CapabilityDefinition.document (definition : CapabilityDefinition) : Json :=
  .obj [("value", .str definition.value), ("description", .str definition.description)]

/-- The fields of a `CapabilityCatalog`. -/
structure CatalogFields where
  catalogId : String
  catalogVersion : String
  generation : Int
  format : String
  capabilityContractId : String
  capabilityContractVersion : String
  capabilityContractDigest : String
  canonicalizationContractId : String
  canonicalizationContractVersion : String
  canonicalizationContractDigest : String
  catalogDigest : String
  definitions : List CapabilityDefinition

/-- `CapabilityCatalog.document`, which `_derive_digest` digests too. -/
def CatalogFields.document (catalog : CatalogFields) : Json :=
  .obj [("schema_version", .int 1), ("catalog_id", .str catalog.catalogId),
    ("catalog_version", .str catalog.catalogVersion), ("generation", .int catalog.generation),
    ("format", .str catalog.format),
    ("capability_contract_id", .str catalog.capabilityContractId),
    ("capability_contract_version", .str catalog.capabilityContractVersion),
    ("capability_contract_digest", .str catalog.capabilityContractDigest),
    ("canonicalization_contract_id", .str catalog.canonicalizationContractId),
    ("canonicalization_contract_version", .str catalog.canonicalizationContractVersion),
    ("canonicalization_contract_digest", .str catalog.canonicalizationContractDigest),
    ("definitions", .arr (catalog.definitions.map CapabilityDefinition.document))]

/-- `_definition_values`. -/
def CatalogFields.definitionValues (catalog : CatalogFields) : List String :=
  catalog.definitions.map CapabilityDefinition.value

section Catalog

variable [Rfc8785]

/-- `CapabilityCatalog.__post_init__`. -/
def CatalogFields.postInit (catalog : CatalogFields) : Except PyException Unit := do
  canonicalId catalog.catalogId "catalog_id"
  nonempty catalog.catalogVersion "catalog_version"
  refuseIf (catalog.generation ≠ 9 ∨ catalog.format ≠ "gen9ou")
    (.valueError "catalog must be for Gen 9 OU")
  canonicalId catalog.capabilityContractId "capability_contract_id"
  nonempty catalog.capabilityContractVersion "capability_contract_version"
  digest catalog.capabilityContractDigest "capability_contract_digest"
  canonicalId catalog.canonicalizationContractId "canonicalization_contract_id"
  nonempty catalog.canonicalizationContractVersion "canonicalization_contract_version"
  digest catalog.canonicalizationContractDigest "canonicalization_contract_digest"
  refuseIf (catalog.definitions.isEmpty)
    (.valueError "definitions must be a non-empty tuple of CapabilityDefinition values")
  refuseIf (¬UniquelySorted catalog.definitionValues)
    (.valueError "definitions must be uniquely sorted by value")
  let expected ← manifestDigest catalog.document
  refuseIf (catalog.catalogDigest ≠ expected)
    (.valueError "catalog_digest must bind the canonical catalog document")

structure CapabilityCatalog extends CatalogFields where
  accepted : toCatalogFields.postInit = .ok ()

/-- What a catalog has to have. -/
theorem CatalogFields.postInit_eq_ok {catalog : CatalogFields} :
    catalog.postInit = .ok () ↔
      isCanonicalId catalog.catalogId.toList = true ∧ catalog.catalogVersion ≠ "" ∧
      (catalog.generation = 9 ∧ catalog.format = "gen9ou") ∧
      isCanonicalId catalog.capabilityContractId.toList = true ∧
      catalog.capabilityContractVersion ≠ "" ∧
      isDigest catalog.capabilityContractDigest = true ∧
      isCanonicalId catalog.canonicalizationContractId.toList = true ∧
      catalog.canonicalizationContractVersion ≠ "" ∧
      isDigest catalog.canonicalizationContractDigest = true ∧
      catalog.definitions ≠ [] ∧ UniquelySorted catalog.definitionValues ∧
      manifestDigest catalog.document = .ok catalog.catalogDigest := by
  simp only [postInit, bind_eq_ok, canonicalId_eq_ok, nonempty_eq_ok, digest_eq_ok, refuseIf_eq_ok,
    exists_const, Option.any_some, ne_eq, not_not, not_or, decide_eq_true_eq, List.isEmpty_iff,
    exists_eq_right']

/-- The digest of a catalog is the one that its document has. -/
theorem CapabilityCatalog.isDigest_catalogDigest (catalog : CapabilityCatalog) :
    isDigest catalog.catalogDigest = true := by
  obtain ⟨-, -, -, -, -, -, -, -, -, -, -, hdigest⟩ := CatalogFields.postInit_eq_ok.mp catalog.accepted
  exact isDigest_of_manifestDigest hdigest

/-- `CapabilityCatalog.id_for`. -/
def CapabilityCatalog.idFor (catalog : CapabilityCatalog) (value : String) :
    Except PyException CapabilityId := do
  refuseIf (value ∉ catalog.definitionValues)
    (.valueError "capability is not defined by this catalog")
  pure ⟨value, ⟨catalog.catalogDigest, catalog.isDigest_catalogDigest⟩⟩

/-- `CapabilityCatalog.require`. -/
def CapabilityCatalog.require (catalog : CapabilityCatalog) (capability : CapabilityId) :
    Except PyException CapabilityId := do
  refuseIf (capability.catalogDigest.text ≠ catalog.catalogDigest ∨
      capability.value ∉ catalog.definitionValues)
    (.valueError "capability does not belong to this catalog")
  pure capability

end Catalog

/-! ## §3 Claims and their evidence -/

inductive CapabilityStatus where
  | exact
  | boundedApproximation
  | unsupported
  | unknown
  deriving DecidableEq, Repr

/-- `status in {CapabilityStatus.EXACT, CapabilityStatus.BOUNDED_APPROXIMATION}` -/
def CapabilityStatus.isQualifying (status : CapabilityStatus) : Bool :=
  status ∈ [.exact, .boundedApproximation]

/-- `CapabilityApproximation.__post_init__`. -/
def approximationPostInit (metricId maximum unitId conditionId : String) :
    Except PyException Unit := do
  canonicalId metricId "metric_id"
  refuseIf (¬isCanonicalDecimal maximum.toList)
    (.valueError "maximum must be a canonical non-negative decimal")
  canonicalId unitId "unit_id"
  canonicalId conditionId "condition_id"

structure CapabilityApproximation where
  metricId : String
  maximum : String
  unitId : String
  conditionId : String
  accepted : approximationPostInit metricId maximum unitId conditionId = .ok ()

/-- `EngineEnvironmentBinding.__post_init__`. -/
def bindingPostInit (cellId engineBuildManifestDigest wheelDigest : String) :
    Except PyException Unit := do
  environmentCellId cellId
  digest engineBuildManifestDigest "engine_build_manifest_digest"
  digest wheelDigest "wheel_digest"

structure EngineEnvironmentBinding where
  environmentCellId : String
  engineBuildManifestDigest : String
  wheelDigest : String
  accepted : bindingPostInit environmentCellId engineBuildManifestDigest wheelDigest = .ok ()

/-- The fields of a `CapabilityEvidenceRef`. -/
structure EvidenceFields where
  evidenceId : String
  evidenceDigest : String
  catalogId : String
  catalogVersion : String
  capabilityId : CapabilityId
  catalogDigest : String
  canonicalizationContractDigest : String
  environmentCellId : String
  engineSourceManifestDigest : String
  engineBuildManifestDigest : String
  artifactIndexDigest : String
  wheelDigest : String
  transitionAdapterId : String
  transitionAdapterVersion : String
  transitionAdapterSourceDigest : String
  transitionModelContractDigest : String
  transitionAdapterConformanceDigest : String
  oracleSourceManifestDigest : String
  oracleBuildManifestDigest : String
  rulesetDigest : String
  corpusDigest : String
  runnerSourceDigest : String
  classifierSourceDigest : String
  qualificationResultSchemaId : String
  qualificationResultDigest : String
  deriving DecidableEq

namespace EvidenceFields

variable (ref : EvidenceFields)

/-- `_EVIDENCE_REF_FIELDS`, with what `document` gives for each. -/
def refFields : List (String × String) :=
  [("evidence_id", ref.evidenceId), ("evidence_digest", ref.evidenceDigest),
    ("catalog_id", ref.catalogId), ("catalog_version", ref.catalogVersion),
    ("capability_id", ref.capabilityId.value), ("catalog_digest", ref.catalogDigest),
    ("canonicalization_contract_digest", ref.canonicalizationContractDigest),
    ("environment_cell_id", ref.environmentCellId),
    ("engine_source_manifest_digest", ref.engineSourceManifestDigest),
    ("engine_build_manifest_digest", ref.engineBuildManifestDigest),
    ("artifact_index_digest", ref.artifactIndexDigest), ("wheel_digest", ref.wheelDigest),
    ("transition_adapter_id", ref.transitionAdapterId),
    ("transition_adapter_version", ref.transitionAdapterVersion),
    ("transition_adapter_source_digest", ref.transitionAdapterSourceDigest),
    ("transition_model_contract_digest", ref.transitionModelContractDigest),
    ("transition_adapter_conformance_digest", ref.transitionAdapterConformanceDigest),
    ("oracle_source_manifest_digest", ref.oracleSourceManifestDigest),
    ("oracle_build_manifest_digest", ref.oracleBuildManifestDigest),
    ("ruleset_digest", ref.rulesetDigest), ("corpus_digest", ref.corpusDigest),
    ("runner_source_digest", ref.runnerSourceDigest),
    ("classifier_source_digest", ref.classifierSourceDigest),
    ("qualification_result_schema_id", ref.qualificationResultSchemaId),
    ("qualification_result_digest", ref.qualificationResultDigest)]

/-- `_EVIDENCE_DIGEST_FIELDS`. -/
def digestFields : List (String × String) :=
  [("evidence_digest", ref.evidenceDigest), ("catalog_digest", ref.catalogDigest),
    ("canonicalization_contract_digest", ref.canonicalizationContractDigest),
    ("engine_source_manifest_digest", ref.engineSourceManifestDigest),
    ("engine_build_manifest_digest", ref.engineBuildManifestDigest),
    ("artifact_index_digest", ref.artifactIndexDigest), ("wheel_digest", ref.wheelDigest),
    ("transition_adapter_source_digest", ref.transitionAdapterSourceDigest),
    ("transition_model_contract_digest", ref.transitionModelContractDigest),
    ("transition_adapter_conformance_digest", ref.transitionAdapterConformanceDigest),
    ("oracle_source_manifest_digest", ref.oracleSourceManifestDigest),
    ("oracle_build_manifest_digest", ref.oracleBuildManifestDigest),
    ("ruleset_digest", ref.rulesetDigest), ("corpus_digest", ref.corpusDigest),
    ("runner_source_digest", ref.runnerSourceDigest),
    ("classifier_source_digest", ref.classifierSourceDigest),
    ("qualification_result_digest", ref.qualificationResultDigest)]

/-- `CapabilityEvidenceRef.__post_init__`. -/
def postInit : Except PyException Unit := do
  canonicalId ref.evidenceId "evidence_id"
  digest ref.evidenceDigest "evidence_digest"
  canonicalId ref.catalogId "catalog_id"
  nonempty ref.catalogVersion "catalog_version"
  digest ref.catalogDigest "catalog_digest"
  refuseIf (ref.capabilityId.catalogDigest.text ≠ ref.catalogDigest)
    (.valueError "capability_id must be issued by the evidence catalog")
  digest ref.canonicalizationContractDigest "canonicalization_contract_digest"
  Qualification.environmentCellId ref.environmentCellId
  canonicalId ref.transitionAdapterId "transition_adapter_id"
  nonempty ref.transitionAdapterVersion "transition_adapter_version"
  schemaId ref.qualificationResultSchemaId "qualification_result_schema_id"
  ref.digestFields.forM fun field => digest field.2 field.1

/-- `CapabilityEvidenceRef.document`. -/
def document : Json := .obj (ref.refFields.map fun field => (field.1, .str field.2))

/-- The key that evidence references are sorted by. -/
def key : List String := ref.refFields.map Prod.snd

end EvidenceFields

structure CapabilityEvidenceRef extends EvidenceFields where
  accepted : toEvidenceFields.postInit = .ok ()
  deriving DecidableEq

/-- The fields of a `CapabilityClaim`. -/
structure ClaimFields where
  capabilityId : CapabilityId
  status : CapabilityStatus
  evidenceRefs : List CapabilityEvidenceRef := []
  approximation : Option CapabilityApproximation := none

/-- `CapabilityClaim.__post_init__`. -/
def ClaimFields.postInit (claim : ClaimFields) : Except PyException Unit := do
  refuseIf (∃ ref ∈ claim.evidenceRefs, ref.capabilityId ≠ claim.capabilityId)
    (.valueError "evidence reference capability must match its claim")
  refuseIf (¬UniquelySorted (claim.evidenceRefs.map fun ref => ref.environmentCellId))
    (.valueError "evidence_refs must be uniquely sorted by environment cell id")
  refuseIf (claim.status.isQualifying ≠ !claim.evidenceRefs.isEmpty)
    (.valueError "qualifying claims require evidence; nonqualifying claims forbid it")
  refuseIf (decide (claim.status = .boundedApproximation) ≠ claim.approximation.isSome)
    (.valueError "only bounded claims carry an explicit approximation")

structure CapabilityClaim extends ClaimFields where
  accepted : toClaimFields.postInit = .ok ()

/-! ## §4 Migrations -/

/-- The fields of a `CapabilityMigrationClosure`. -/
structure MigrationFields where
  sourceSchemaId : String
  sourceDocumentId : String
  sourceDigest : String
  migratorId : String
  migratorVersion : String
  lossCodes : List String
  lossReportId : String
  lossReportDigest : String

/-- `CapabilityMigrationClosure.__post_init__`. -/
def MigrationFields.postInit (migration : MigrationFields) : Except PyException Unit := do
  schemaId migration.sourceSchemaId "source_schema_id"
  refuseIf (migration.sourceSchemaId ≠ "urn:battlebelief:schema:manifest:engine-capability:v1")
    (.valueError "migration source schema must be the registered v1 schema")
  canonicalId migration.sourceDocumentId "source_document_id"
  digest migration.sourceDigest "source_digest"
  nonempty migration.migratorId "migrator_id"
  nonempty migration.migratorVersion "migrator_version"
  refuseIf (migration.migratorId ≠ "battlebelief.engine-capability-v1-to-v2" ∨
      migration.migratorVersion ≠ "1")
    (.valueError "migration must use the registered v1-to-v2 migrator")
  refuseIf (migration.lossCodes.isEmpty ∨ ¬UniquelySorted migration.lossCodes)
    (.valueError "loss_codes must be a non-empty uniquely sorted tuple")
  migration.lossCodes.forM fun code => canonicalId code "loss_code"
  refuseIf (migration.lossCodes ≠ ["approximated", "exact", "known-divergences", "unsupported"])
    (.valueError "migration must use the registered v1-to-v2 loss codes")
  canonicalId migration.lossReportId "loss_report_id"
  digest migration.lossReportDigest "loss_report_digest"

structure CapabilityMigrationClosure extends MigrationFields where
  accepted : toMigrationFields.postInit = .ok ()

/-! ## §5 Manifests -/

section Manifest

variable [Rfc8785]

/-- The document that the digest of a set of references is taken of. -/
def evidenceSetDocument (refs : List CapabilityEvidenceRef) : Json :=
  .obj [("evidence_refs", .arr (refs.map fun ref => ref.document))]

/-- `EngineCapabilityManifest.evidence_set_digest_for`. -/
def evidenceSetDigestFor (refs : List CapabilityEvidenceRef) : Except PyException String := do
  let keys := refs.map fun ref => ref.key
  refuseIf (keys.dedup.length ≠ keys.length)
    (.valueError "evidence_refs must not contain duplicate references")
  manifestDigest (evidenceSetDocument (SetDigest.listing (fun ref => ref.key) refs))

/-- The fields of an `EngineCapabilityManifest`. -/
structure ManifestFields where
  manifestId : String
  catalog : CapabilityCatalog
  generation : Int
  format : String
  engineSourceManifestDigest : String
  artifactIndexDigest : String
  environmentBindings : List EngineEnvironmentBinding := []
  transitionAdapterId : Option String := none
  transitionAdapterVersion : Option String := none
  transitionAdapterSourceDigest : Option String := none
  transitionModelContractDigest : Option String := none
  transitionAdapterConformanceDigest : Option String := none
  oracleSourceManifestDigest : Option String := none
  oracleBuildManifestDigest : Option String := none
  rulesetDigest : Option String := none
  corpusDigest : Option String := none
  runnerSourceDigest : Option String := none
  classifierSourceDigest : Option String := none
  evidenceSetDigest : Option String := none
  canonicalizationContractDigest : String := ""
  migration : Option CapabilityMigrationClosure := none
  claims : List CapabilityClaim := []

namespace ManifestFields

variable (manifest : ManifestFields)

/-- `_ADAPTER_FIELDS`. -/
def adapterFields : List (String × Option String) :=
  [("transition_adapter_id", manifest.transitionAdapterId),
    ("transition_adapter_version", manifest.transitionAdapterVersion),
    ("transition_adapter_source_digest", manifest.transitionAdapterSourceDigest),
    ("transition_model_contract_digest", manifest.transitionModelContractDigest),
    ("transition_adapter_conformance_digest", manifest.transitionAdapterConformanceDigest)]

/-- `_ADAPTER_DIGEST_FIELDS`. -/
def adapterDigestFields : List (String × Option String) := manifest.adapterFields.drop 2

/-- `_OPTIONAL_CLOSURE_DIGEST_FIELDS`. -/
def optionalClosureDigestFields : List (String × Option String) :=
  [("oracle_source_manifest_digest", manifest.oracleSourceManifestDigest),
    ("oracle_build_manifest_digest", manifest.oracleBuildManifestDigest),
    ("ruleset_digest", manifest.rulesetDigest), ("corpus_digest", manifest.corpusDigest),
    ("runner_source_digest", manifest.runnerSourceDigest),
    ("classifier_source_digest", manifest.classifierSourceDigest),
    ("evidence_set_digest", manifest.evidenceSetDigest)]

/-- `_GLOBAL_EVIDENCE_FIELDS`, of a reference and of the manifest. -/
def globalEvidenceFields (ref : CapabilityEvidenceRef) : List (String × Option String) :=
  [(ref.engineSourceManifestDigest, manifest.engineSourceManifestDigest),
    (ref.artifactIndexDigest, manifest.artifactIndexDigest),
    (ref.transitionAdapterId, manifest.transitionAdapterId),
    (ref.transitionAdapterVersion, manifest.transitionAdapterVersion),
    (ref.transitionAdapterSourceDigest, manifest.transitionAdapterSourceDigest),
    (ref.transitionModelContractDigest, manifest.transitionModelContractDigest),
    (ref.transitionAdapterConformanceDigest, manifest.transitionAdapterConformanceDigest),
    (ref.oracleSourceManifestDigest, manifest.oracleSourceManifestDigest),
    (ref.oracleBuildManifestDigest, manifest.oracleBuildManifestDigest),
    (ref.rulesetDigest, manifest.rulesetDigest), (ref.corpusDigest, manifest.corpusDigest),
    (ref.runnerSourceDigest, manifest.runnerSourceDigest),
    (ref.classifierSourceDigest, manifest.classifierSourceDigest)]

/-- The binding with a cell id: `next(...)` over the bindings. -/
def cellFor (cellId : String) : Option EngineEnvironmentBinding :=
  manifest.environmentBindings.find? fun cell => cell.environmentCellId = cellId

/-- The environment cells, in their order. -/
def cells : List String := manifest.environmentBindings.map EngineEnvironmentBinding.environmentCellId

/-- The references of all claims. -/
def allRefs : List CapabilityEvidenceRef := manifest.claims.flatMap fun claim => claim.evidenceRefs

def qualifyingClaims : List CapabilityClaim :=
  manifest.claims.filter fun claim => claim.status.isQualifying

/-- `_require_matching_evidence`. -/
def requireMatchingEvidence (ref : CapabilityEvidenceRef) : Except PyException Unit := do
  refuseIf (¬(manifest.cellFor ref.environmentCellId).any fun cell =>
      ref.engineBuildManifestDigest = cell.engineBuildManifestDigest ∧
        ref.wheelDigest = cell.wheelDigest)
    (.valueError "evidence does not match its environment cell")
  refuseIf (ref.catalogId ≠ manifest.catalog.catalogId ∨
      ref.catalogVersion ≠ manifest.catalog.catalogVersion ∨
      ref.catalogDigest ≠ manifest.catalog.catalogDigest ∨
      ref.canonicalizationContractDigest ≠ manifest.canonicalizationContractDigest)
    (.valueError "evidence does not match manifest catalog identity")
  refuseIf (∃ field ∈ manifest.globalEvidenceFields ref, some field.1 ≠ field.2)
    (.valueError "evidence does not match manifest provenance")

/-- The provenance of the adapter is complete or absent, and well formed. -/
def checkAdapter : Except PyException Unit := do
  refuseIf ((∃ field ∈ manifest.adapterFields, field.2 = none) ∧
      ∃ field ∈ manifest.adapterFields, field.2 ≠ none)
    (.valueError "adapter provenance must be all-null or all-present")
  if ∀ field ∈ manifest.adapterFields, field.2 ≠ none then
    canonicalId manifest.transitionAdapterId "transition_adapter_id"
    nonempty manifest.transitionAdapterVersion "transition_adapter_version"
    manifest.adapterDigestFields.forM fun field => digest field.2 field.1

/-- What qualifying claims ask of the manifest, when the digest of all evidence is known. -/
def checkQualifying (expectedEvidenceSet : String) : Except PyException Unit := do
  refuseIf (manifest.environmentBindings.isEmpty ∨
      (∃ field ∈ manifest.adapterFields, field.2 = none) ∨
      ∃ field ∈ manifest.optionalClosureDigestFields, field.2 = none)
    (.valueError "qualifying claims require complete provenance closure")
  refuseIf (manifest.evidenceSetDigest ≠ some expectedEvidenceSet)
    (.valueError "evidence_set_digest must bind all evidence references")
  manifest.qualifyingClaims.forM fun claim => do
    refuseIf ((claim.evidenceRefs.map fun ref => ref.environmentCellId) ≠ manifest.cells)
      (.valueError "qualifying claim evidence must cover every environment cell")
    claim.evidenceRefs.forM manifest.requireMatchingEvidence

/-- `EngineCapabilityManifest.__post_init__`. -/
def postInit : Except PyException Unit := do
  canonicalId manifest.manifestId "manifest_id"
  refuseIf (manifest.generation ≠ 9) (.valueError "manifest must bind the Gen 9 catalog")
  refuseIf (manifest.format ≠ "gen9ou") (.valueError "manifest format must be gen9ou")
  refuseIf (manifest.catalog.generation ≠ manifest.generation ∨
      manifest.catalog.format ≠ manifest.format ∨
      manifest.catalog.canonicalizationContractDigest ≠ manifest.canonicalizationContractDigest)
    (.valueError "manifest must match its catalog generation, format, and canonicalization")
  digest manifest.engineSourceManifestDigest "engine_source_manifest_digest"
  digest manifest.artifactIndexDigest "artifact_index_digest"
  digest manifest.canonicalizationContractDigest "canonicalization_contract_digest"
  refuseIf (¬UniquelySorted manifest.cells)
    (.valueError "environment_bindings must be uniquely sorted by environment cell id")
  manifest.checkAdapter
  manifest.optionalClosureDigestFields.forM fun field => optionalDigest field.2 field.1
  refuseIf (¬UniquelySorted (manifest.claims.map fun claim => claim.capabilityId.value))
    (.valueError "claims must be uniquely sorted by capability value")
  manifest.claims.forM fun claim => discard (manifest.catalog.require claim.capabilityId)
  refuseIf (manifest.migration.isSome ∧
      (¬manifest.claims.isEmpty ∨ (∃ field ∈ manifest.adapterFields, field.2 ≠ none) ∨
        ∃ field ∈ manifest.optionalClosureDigestFields, field.2 ≠ none))
    (.valueError "migration target must remain unqualified")
  let refs := manifest.allRefs.eraseDups
  refuseIf ((refs.map fun ref => ref.evidenceId).dedup.length ≠ refs.length)
    (.valueError "evidence references must have unique evidence IDs")
  refuseIf ((refs.map fun ref => ref.evidenceDigest).dedup.length ≠ refs.length)
    (.valueError "evidence references must have unique evidence digests")
  let expectedEvidenceSet ← evidenceSetDigestFor refs
  if ¬manifest.qualifyingClaims.isEmpty then manifest.checkQualifying expectedEvidenceSet
  else
    refuseIf (manifest.evidenceSetDigest ≠ none ∧
        manifest.evidenceSetDigest ≠ some expectedEvidenceSet)
      (.valueError "evidence_set_digest must bind all evidence references")

end ManifestFields

structure EngineCapabilityManifest extends ManifestFields where
  accepted : toManifestFields.postInit = .ok ()

namespace EngineCapabilityManifest

variable (manifest : EngineCapabilityManifest)

/-- `EngineCapabilityManifest.claim_for`. -/
def claimFor (capability : CapabilityId) : Except PyException (Option CapabilityClaim) := do
  let _ ← manifest.catalog.require capability
  pure (manifest.claims.find? fun claim => claim.capabilityId = capability)

/-- `EngineCapabilityManifest.status_for`. -/
def statusFor (capability : CapabilityId) : Except PyException CapabilityStatus := do
  match ← manifest.claimFor capability with
  | none => pure .unknown
  | some claim => pure claim.status

/-- The document of a backend, for one of its cells. The adapter has to be there. -/
def backendDocument (cell : EngineEnvironmentBinding) : Json :=
  .obj ([("engine_source_manifest_digest", .str manifest.engineSourceManifestDigest),
    ("artifact_index_digest", .str manifest.artifactIndexDigest),
    ("environment_cell_id", .str cell.environmentCellId),
    ("engine_build_manifest_digest", .str cell.engineBuildManifestDigest),
    ("wheel_digest", .str cell.wheelDigest)] ++
    manifest.adapterFields.map fun field => (field.1, .str (field.2.getD "")))

/-- `EngineCapabilityManifest.backend_identity_digest`. -/
def backendIdentityDigest (environmentCellId : String) : Except PyException String := do
  refuseIf (∃ field ∈ manifest.adapterFields, field.2 = none)
    (.valueError "backend identity is unavailable for an unqualified adapter")
  match manifest.cellFor environmentCellId with
  | none => throw (.valueError "environment cell is not bound by this manifest")
  | some cell => manifestDigest (manifest.backendDocument cell)

end EngineCapabilityManifest

end Manifest

end BattleBelief.Qualification
