import BattleBelief.Engine.Qualification
import BattleBelief.Library.PythonObjects

/-!
# Documents of Capabilities

A catalog is read from its document by `CapabilityCatalog.from_document`, and a manifest by
`_validate_capability_manifest`, which builds the manifest anew and reports what goes wrong.
-/

namespace BattleBelief.Qualification

open Runs
open Python (Dict.keys Dict.sameSet Json ObjectError)
open Python.Json (pyEq)

/-! ## §1 Values -/

/-- What reading a document raises. -/
inductive DocumentError where
  | object (error : ObjectError)
  | raised (error : PyException)

def refuse {α : Type} (text : String) : Except DocumentError α :=
  .error (.raised (.valueError text))

/-- `raise ValueError(text)`, where something holds. -/
def rejectWhen (c : Prop) [Decidable c] (text : String) : Except DocumentError Unit :=
  refuseIf c (.raised (.valueError text))

/-- A check of the core that is made here. -/
def core {α : Type} (check : Except PyException α) : Except DocumentError α :=
  check.mapError .raised

theorem core_eq_ok {α : Type} {check : Except PyException α} {a : α} :
    core check = .ok a ↔ check = .ok a := by
  cases check with
  | ok b => simp [core, Except.mapError]
  | error error => simp [core, Except.mapError]

/-- `value[key]` -/
def item (value : Json) (key : String) : Except DocumentError Json :=
  (value.subscript key).mapError .object

/-- `tuple(value)` -/
def itemsOf (value : Json) : Except DocumentError (List Json) := value.iterate.mapError .object

/-- `len(value)` -/
def lengthOf (value : Json) : Except DocumentError Nat := value.len.mapError .object

/-- `constructor(**value)`, of one of the core's values. -/
def keywordsOf (name : String) (arguments : List String) (value : Json) :
    Except DocumentError (List (String × Json)) :=
  (value.keywords "battlebelief_core.domain.engine_capabilities" name arguments).mapError .object

/-- What a check of a text is made on. Every check of the core refuses what is not a text as it
refuses the empty one. -/
def textOf : Json → String
  | .str text => text
  | _ => ""

/-- The text of a field that may be `None`. -/
def optionalText : Json → Option String
  | .null => none
  | value => some (textOf value)

/-- The value of a field that is there. -/
def present (members : List (String × Json)) (key : String) : Json :=
  (Json.get? members key).getD .null

/-- A value that carries that its check passed. -/
def constructed {α ε : Type} (check : Except ε Unit) (build : check = .ok () → α) : Except ε α :=
  match check, build with
  | .ok _, build => .ok (build rfl)
  | .error error, _ => .error error

theorem constructed_of_ok {α ε : Type} {check : Except ε Unit} {build : check = .ok () → α}
    (h : check = .ok ()) : constructed check build = .ok (build h) := by
  subst h
  rfl

theorem constructed_eq_ok {α ε : Type} {check : Except ε Unit} {build : check = .ok () → α} {a : α}
    (h : constructed check build = .ok a) : ∃ hcheck : check = .ok (), a = build hcheck := by
  cases check with
  | ok _ =>
    cases h
    exact ⟨rfl, rfl⟩
  | error error => cases h

/-! ## §2 Bindings and migrations -/

/-- The fields of an `EngineEnvironmentBinding`. -/
def bindingNames : List String :=
  ["environment_cell_id", "engine_build_manifest_digest", "wheel_digest"]

/-- `EngineEnvironmentBinding(**value)`. -/
def environmentBindingOf (value : Json) : Except DocumentError EngineEnvironmentBinding := do
  let members ← keywordsOf "EngineEnvironmentBinding" bindingNames value
  let field := fun name => textOf (present members name)
  core (constructed (bindingPostInit (field "environment_cell_id")
    (field "engine_build_manifest_digest") (field "wheel_digest")) fun accepted =>
      ⟨_, _, _, accepted⟩)

/-- The document of a binding, as manifests hold it. -/
def EngineEnvironmentBinding.document (binding : EngineEnvironmentBinding) : Json :=
  .obj [("environment_cell_id", .str binding.environmentCellId),
    ("engine_build_manifest_digest", .str binding.engineBuildManifestDigest),
    ("wheel_digest", .str binding.wheelDigest)]

/-- A binding is read from its document. -/
theorem environmentBindingOf_document (binding : EngineEnvironmentBinding) :
    environmentBindingOf binding.document = .ok binding := by
  apply bind_of_ok rfl
  exact congrArg core (constructed_of_ok binding.accepted)

/-- `CapabilityMigrationClosure.document`. -/
def MigrationFields.document (migration : MigrationFields) : Json :=
  .obj [("source_schema_id", .str migration.sourceSchemaId),
    ("source_document_id", .str migration.sourceDocumentId),
    ("source_digest", .str migration.sourceDigest), ("migrator_id", .str migration.migratorId),
    ("migrator_version", .str migration.migratorVersion),
    ("loss_codes", .arr (migration.lossCodes.map .str)),
    ("loss_report_id", .str migration.lossReportId),
    ("loss_report_digest", .str migration.lossReportDigest)]

/-- The codes that are checked. Where one is not a text, the check refuses the codes as it refuses
an empty tuple. -/
def codesOf (values : List Json) : List String :=
  if ∀ value ∈ values, value.typeName = "str" then values.map textOf else []

theorem codesOf_texts (codes : List String) : codesOf (codes.map .str) = codes := by
  have htexts : ∀ value ∈ codes.map Json.str, value.typeName = "str" := by
    intro value hvalue
    obtain ⟨code, -, rfl⟩ := List.mem_map.mp hvalue
    rfl
  rw [codesOf, if_pos htexts, List.map_map]
  exact List.map_id codes

/-- `CapabilityMigrationClosure(...)` from the migration of a document, where there is one. -/
def closureOf (value : Json) : Except DocumentError (Option CapabilityMigrationClosure) :=
  match value with
  | .null => .ok none
  | value => do
      let sourceSchemaId ← item value "source_schema_id"
      let sourceDocumentId ← item value "source_document_id"
      let sourceDigest ← item value "source_digest"
      let migratorId ← item value "migrator_id"
      let migratorVersion ← item value "migrator_version"
      let lossCodes ← itemsOf (← item value "loss_codes")
      let lossReportId ← item value "loss_report_id"
      let lossReportDigest ← item value "loss_report_digest"
      let fields : MigrationFields :=
        { sourceSchemaId := textOf sourceSchemaId, sourceDocumentId := textOf sourceDocumentId
          sourceDigest := textOf sourceDigest, migratorId := textOf migratorId
          migratorVersion := textOf migratorVersion, lossCodes := codesOf lossCodes
          lossReportId := textOf lossReportId, lossReportDigest := textOf lossReportDigest }
      core (constructed fields.postInit fun accepted => some ⟨fields, accepted⟩)

/-- A closure is read from its document. -/
theorem closureOf_document (migration : CapabilityMigrationClosure) :
    closureOf migration.document = .ok (some migration) := by
  apply bind_of_ok rfl
  apply bind_of_ok rfl
  apply bind_of_ok rfl
  apply bind_of_ok rfl
  apply bind_of_ok rfl
  apply bind_of_ok rfl
  apply bind_of_ok rfl
  apply bind_of_ok rfl
  apply bind_of_ok rfl
  dsimp only
  rw [codesOf_texts]
  exact congrArg core (constructed_of_ok migration.accepted)

section Documents

variable [Rfc8785]

/-! ## §3 Catalogs -/

/-- One definition of `CapabilityCatalog.from_document`. -/
def definitionOf (value : Json) : Except DocumentError CapabilityDefinition :=
  match value with
  | .obj members => do
      rejectWhen (!Dict.sameSet (Dict.keys members) ["value", "description"])
        "catalog definition document is invalid"
      core (constructed (definitionPostInit (textOf (present members "value"))
        (textOf (present members "description"))) fun accepted => ⟨_, _, accepted⟩)
  | _ => refuse "catalog definition document is invalid"

/-- The fields of a catalog document that are texts. -/
def catalogTexts : List String :=
  ["catalog_id", "catalog_version", "capability_contract_id", "capability_contract_version",
    "capability_contract_digest", "canonicalization_contract_id",
    "canonicalization_contract_version", "canonicalization_contract_digest"]

/-- `CapabilityCatalog.create`. -/
def CatalogFields.create (fields : CatalogFields) : Except DocumentError CapabilityCatalog := do
  let catalogDigest ← core (manifestDigest fields.document)
  core (constructed ({ fields with catalogDigest } : CatalogFields).postInit fun accepted =>
    { toCatalogFields := { fields with catalogDigest }, accepted })

/-- `CapabilityCatalog.from_document`. -/
def CapabilityCatalog.fromDocument (document : Json) : Except DocumentError CapabilityCatalog :=
  match document with
  | .obj members => do
      let field := present members
      rejectWhen (!Dict.sameSet (Dict.keys members)
        (["schema_version", "generation", "format", "definitions"] ++ catalogTexts))
        "catalog document has an invalid shape"
      let definitions ←
        match field "definitions" with
        | .arr items => items.mapM definitionOf
        | _ => refuse "catalog document definitions must be a list"
      rejectWhen ((field "schema_version").typeName ≠ "int" ∨
          !pyEq (field "schema_version") (.int 1) ∨ !pyEq (field "generation") (.int 9) ∨
          !pyEq (field "format") (.str "gen9ou"))
        "catalog document is not Gen 9 OU schema version 1"
      rejectWhen (∃ name ∈ catalogTexts, (field name).typeName ≠ "str")
        "catalog document fields must be strings"
      CatalogFields.create
        { catalogId := textOf (field "catalog_id")
          catalogVersion := textOf (field "catalog_version"), generation := 9, format := "gen9ou"
          capabilityContractId := textOf (field "capability_contract_id")
          capabilityContractVersion := textOf (field "capability_contract_version")
          capabilityContractDigest := textOf (field "capability_contract_digest")
          canonicalizationContractId := textOf (field "canonicalization_contract_id")
          canonicalizationContractVersion := textOf (field "canonicalization_contract_version")
          canonicalizationContractDigest := textOf (field "canonicalization_contract_digest")
          catalogDigest := "", definitions }
  | _ => refuse "catalog document has an invalid shape"

/-! ## §4 Claims -/

/-- `catalog.id_for(value)`. -/
def capabilityOf (catalog : CapabilityCatalog) (value : Json) : Except DocumentError CapabilityId :=
  match value with
  | .str text => core (catalog.idFor text)
  | _ => refuse "capability is not defined by this catalog"

/-- The fields of a `CapabilityEvidenceRef`. -/
def evidenceNames : List String :=
  ["evidence_id", "evidence_digest", "catalog_id", "catalog_version", "capability_id",
    "catalog_digest", "canonicalization_contract_digest", "environment_cell_id",
    "engine_source_manifest_digest", "engine_build_manifest_digest", "artifact_index_digest",
    "wheel_digest", "transition_adapter_id", "transition_adapter_version",
    "transition_adapter_source_digest", "transition_model_contract_digest",
    "transition_adapter_conformance_digest", "oracle_source_manifest_digest",
    "oracle_build_manifest_digest", "ruleset_digest", "corpus_digest", "runner_source_digest",
    "classifier_source_digest", "qualification_result_schema_id", "qualification_result_digest"]

/-- `CapabilityEvidenceRef(**value)`, with the capability that the catalog issues for its text. -/
def evidenceRefOf (catalog : CapabilityCatalog) (value : Json) :
    Except DocumentError CapabilityEvidenceRef :=
  match value with
  | .obj members => do
      let capabilityId ← capabilityOf catalog (← item value "capability_id")
      let _ ← keywordsOf "CapabilityEvidenceRef" evidenceNames value
      let field := fun name => textOf (present members name)
      let fields : EvidenceFields :=
        { evidenceId := field "evidence_id", evidenceDigest := field "evidence_digest"
          catalogId := field "catalog_id", catalogVersion := field "catalog_version", capabilityId
          catalogDigest := field "catalog_digest"
          canonicalizationContractDigest := field "canonicalization_contract_digest"
          environmentCellId := field "environment_cell_id"
          engineSourceManifestDigest := field "engine_source_manifest_digest"
          engineBuildManifestDigest := field "engine_build_manifest_digest"
          artifactIndexDigest := field "artifact_index_digest", wheelDigest := field "wheel_digest"
          transitionAdapterId := field "transition_adapter_id"
          transitionAdapterVersion := field "transition_adapter_version"
          transitionAdapterSourceDigest := field "transition_adapter_source_digest"
          transitionModelContractDigest := field "transition_model_contract_digest"
          transitionAdapterConformanceDigest := field "transition_adapter_conformance_digest"
          oracleSourceManifestDigest := field "oracle_source_manifest_digest"
          oracleBuildManifestDigest := field "oracle_build_manifest_digest"
          rulesetDigest := field "ruleset_digest", corpusDigest := field "corpus_digest"
          runnerSourceDigest := field "runner_source_digest"
          classifierSourceDigest := field "classifier_source_digest"
          qualificationResultSchemaId := field "qualification_result_schema_id"
          qualificationResultDigest := field "qualification_result_digest" }
      core (constructed fields.postInit fun accepted => ⟨fields, accepted⟩)
  | value => .error (.object (.typeError s!"'{value.typeName}' object is not a mapping"))

/-- `CapabilityApproximation(**value)`, where there is one. -/
def approximationOf (value : Json) : Except DocumentError (Option CapabilityApproximation) :=
  match value with
  | .null => .ok none
  | value => do
      let members ← keywordsOf "CapabilityApproximation"
        ["metric_id", "maximum", "unit_id", "condition_id"] value
      let field := fun name => textOf (present members name)
      core (constructed (approximationPostInit (field "metric_id") (field "maximum")
        (field "unit_id") (field "condition_id")) fun accepted => some ⟨_, _, _, _, accepted⟩)

section Claims

variable [Python.UnicodeDatabase]

/-- `CapabilityStatus(value)`. -/
def statusOf (value : Json) : Except DocumentError CapabilityStatus :=
  match value with
  | .str "exact" => .ok .exact
  | .str "bounded_approximation" => .ok .boundedApproximation
  | .str "unsupported" => .ok .unsupported
  | .str "unknown" => .ok .unknown
  | value => refuse s!"{value.repr} is not a valid CapabilityStatus"

/-- One claim of a manifest document. -/
def claimOf (catalog : CapabilityCatalog) (value : Json) :
    Except DocumentError CapabilityClaim := do
  let evidenceRefs ← (← itemsOf (← item value "evidence_refs")).mapM (evidenceRefOf catalog)
  let approximationValue ← item value "approximation"
  let capabilityId ← capabilityOf catalog (← item value "capability_id")
  let status ← statusOf (← item value "status")
  let approximation ← approximationOf approximationValue
  let fields : ClaimFields := { capabilityId, status, evidenceRefs, approximation }
  core (constructed fields.postInit fun accepted => ⟨fields, accepted⟩)

/-! ## §5 Manifests -/

/-- The number of a field that has to be an `int`. No check of the core accepts 0. -/
def numberOf : Json → Int
  | .int value => value
  | _ => 0

/-- The manifest that `_validate_capability_manifest` builds from a document. -/
def manifestOf (document : List (String × Json)) (catalog : CapabilityCatalog)
    (environmentBindings : List EngineEnvironmentBinding) (claims : List CapabilityClaim) :
    Except DocumentError EngineCapabilityManifest := do
  let field := item (.obj document)
  let manifestId ← field "manifest_id"
  let generation ← field "generation"
  let format ← field "format"
  let engineSourceManifestDigest ← field "engine_source_manifest_digest"
  let artifactIndexDigest ← field "artifact_index_digest"
  let transitionAdapterId ← field "transition_adapter_id"
  let transitionAdapterVersion ← field "transition_adapter_version"
  let transitionAdapterSourceDigest ← field "transition_adapter_source_digest"
  let transitionModelContractDigest ← field "transition_model_contract_digest"
  let transitionAdapterConformanceDigest ← field "transition_adapter_conformance_digest"
  let oracleSourceManifestDigest ← field "oracle_source_manifest_digest"
  let oracleBuildManifestDigest ← field "oracle_build_manifest_digest"
  let rulesetDigest ← field "ruleset_digest"
  let corpusDigest ← field "corpus_digest"
  let runnerSourceDigest ← field "runner_source_digest"
  let classifierSourceDigest ← field "classifier_source_digest"
  let evidenceSetDigest ← field "evidence_set_digest"
  let canonicalizationContractDigest ← field "canonicalization_contract_digest"
  let migration ← closureOf (← field "migration")
  let fields : ManifestFields :=
    { manifestId := textOf manifestId, catalog, generation := numberOf generation
      format := textOf format, engineSourceManifestDigest := textOf engineSourceManifestDigest
      artifactIndexDigest := textOf artifactIndexDigest, environmentBindings
      transitionAdapterId := optionalText transitionAdapterId
      transitionAdapterVersion := optionalText transitionAdapterVersion
      transitionAdapterSourceDigest := optionalText transitionAdapterSourceDigest
      transitionModelContractDigest := optionalText transitionModelContractDigest
      transitionAdapterConformanceDigest := optionalText transitionAdapterConformanceDigest
      oracleSourceManifestDigest := optionalText oracleSourceManifestDigest
      oracleBuildManifestDigest := optionalText oracleBuildManifestDigest
      rulesetDigest := optionalText rulesetDigest, corpusDigest := optionalText corpusDigest
      runnerSourceDigest := optionalText runnerSourceDigest
      classifierSourceDigest := optionalText classifierSourceDigest
      evidenceSetDigest := optionalText evidenceSetDigest
      canonicalizationContractDigest := textOf canonicalizationContractDigest, migration, claims }
  core (constructed fields.postInit fun accepted => ⟨fields, accepted⟩)

/-- The body of `_validate_capability_manifest`. -/
def checkCapabilityManifest (document : List (String × Json)) (catalog : CapabilityCatalog)
    (evidenceDocuments : Option (List (String × CapabilityEvidenceRef))) :
    Except DocumentError Unit := do
  let field := item (.obj document)
  let identity := "manifest catalog identity does not match the catalog"
  rejectWhen (!pyEq (← field "catalog_id") (.str catalog.catalogId)) identity
  rejectWhen (!pyEq (← field "catalog_version") (.str catalog.catalogVersion)) identity
  rejectWhen (!pyEq (← field "catalog_digest") (.str catalog.catalogDigest)) identity
  let usable := "usable capability manifest requires engine source and artifact index"
  rejectWhen (pyEq (← field "engine_source_manifest_digest") .null) usable
  rejectWhen (pyEq (← field "artifact_index_digest") .null) usable
  let bindings ← (← itemsOf (← field "environment_bindings")).mapM environmentBindingOf
  let claims ← (← itemsOf (← field "claims")).mapM (claimOf catalog)
  let _ ← manifestOf document catalog bindings claims
  match evidenceDocuments with
  | none => .ok ()
  | some documents =>
      claims.forM fun claim => claim.evidenceRefs.forM fun ref =>
        rejectWhen (Python.Dict.get? documents ref.evidenceId ≠ some ref)
          "referenced evidence document does not match evidence_ref"

/-- `str(error)`, of an error that `except (KeyError, TypeError, ValueError)` catches. -/
def caughtText : DocumentError → Option String
  | .object (.keyError key) => some (Python.repr key)
  | .object (.typeError text) => some text
  | .raised (.valueError text) => some text
  | .raised _ => none

/-- `_validate_capability_manifest`. -/
def validateCapabilityManifest (document : List (String × Json)) (catalog : CapabilityCatalog)
    (evidenceDocuments : Option (List (String × CapabilityEvidenceRef))) :
    Except DocumentError (List String) :=
  match checkCapabilityManifest document catalog evidenceDocuments with
  | .ok _ => .ok []
  | .error error =>
      match caughtText error with
      | some text => .ok ["capability manifest semantic validation failed: " ++ text]
      | none => .error error

end Claims

end Documents

end BattleBelief.Qualification
