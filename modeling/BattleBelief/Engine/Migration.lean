import BattleBelief.Engine.CapabilityDocuments
import BattleBelief.Registration.Calibration

/-!
# Migration of Capability Documents

`migrate_v1_document` writes an unqualified manifest and a report of what is lost, for a document of
the first version. `_validate_migration_provenance` reads the manifest back, with the documents that
the repository stores under the names that the manifest gives.
-/

namespace BattleBelief.Qualification

open Runs
open Python (Dict.keys Dict.sameSet Json)
open Python.Json (pyEq)

/-! ## §1 Losses and errors -/

/-- The sections of a first-version document whose entries the migration drops. -/
def lossSections : List String := ["exact", "approximated", "unsupported", "known_divergences"]

/-- `ENGINE_CAPABILITY_V1_TO_V2_LOSS_CODES`. -/
def lossCodes : List String := ["approximated", "exact", "known-divergences", "unsupported"]

/-- `ENGINE_CAPABILITY_V1_SCHEMA_ID`. -/
def v1SchemaId : String := "urn:battlebelief:schema:manifest:engine-capability:v1"

/-- `ENGINE_CAPABILITY_V1_TO_V2_MIGRATOR_ID`. -/
def migratorId : String := "battlebelief.engine-capability-v1-to-v2"

/-- `ENGINE_CAPABILITY_V1_TO_V2_MIGRATOR_VERSION`. -/
def migratorVersion : String := "1"

/-- How many entries each section has; the writer and the reader count alike. -/
def lossCounts (source : List (String × Json)) : Except DocumentError Json := do
  let counts ← lossSections.mapM fun name => do
    let length ← lengthOf (← item (.obj source) name)
    pure (name, Json.int length)
  pure (.obj counts)

/-- The JSON schemas, by what they accept. A document of the first version has its sections. -/
structure DocumentSchemas where
  v1 : Json → Bool
  v2 : Json → Bool
  lossReport : Json → Bool
  sections : ∀ source, v1 (.obj source) = true → ∀ name ∈ lossSections,
    ∃ items, Json.get? source name = some (.arr items)

/-- `raise ValueError(f"...: \x7berror\x7d") from error`, where the error is one that is caught. -/
def relabel {α : Type} (caught : DocumentError → Option String) (label : String)
    (body : Except DocumentError α) : Except DocumentError α :=
  match body with
  | .ok a => .ok a
  | .error error =>
      match caught error with
      | some text => refuse (label ++ ": " ++ text)
      | none => .error error

theorem relabel_eq_ok {α : Type} {caught : DocumentError → Option String} {label : String}
    {body : Except DocumentError α} {a : α} : relabel caught label body = .ok a ↔ body = .ok a := by
  cases body with
  | ok b => rfl
  | error error =>
    cases htext : caught error with
    | some text => simp [relabel, htext, refuse]
    | none => simp [relabel, htext]

section Migration

variable [Python.UnicodeDatabase] [Rfc8785]

/-! ## §2 The writer -/

/-- `_require_valid_source`. -/
def requireValidSource (schemas : DocumentSchemas) (source : Json) :
    Except DocumentError (List (String × Json)) :=
  match source with
  | .obj members => do
      rejectWhen ((present members "schema_version").typeName ≠ "int")
        "source must be an engine-capability v1 document"
      rejectWhen (schemas.v1 (.obj members) = false)
        "source fails the engine-capability v1 schema"
      pure members
  | _ => refuse "source must be an engine-capability v1 document"

/-- `str(error)`, of an error that `except (TypeError, ValueError)` catches. -/
def typeOrValueText : DocumentError → Option String
  | .object (.keyError _) => none
  | error => caughtText error

/-- `str(error)`, of an error that `except ValueError` catches. -/
def valueText : DocumentError → Option String
  | .raised (.valueError text) => some text
  | _ => none

/-- `_require_catalog`. -/
def requireCatalog (catalog : Json) : Except DocumentError CapabilityCatalog :=
  match catalog with
  | .obj _ => relabel typeOrValueText "catalog is invalid" (CapabilityCatalog.fromDocument catalog)
  | _ => refuse "catalog must be a v1 capability catalog document"

theorem requireCatalog_eq_ok {document : Json} {catalog : CapabilityCatalog} :
    requireCatalog document = .ok catalog ↔
      CapabilityCatalog.fromDocument document = .ok catalog := by
  cases document with
  | obj members => exact relabel_eq_ok
  | _ => simp [requireCatalog, CapabilityCatalog.fromDocument, refuse]

/-- `_BINDING_FIELDS`. -/
def targetBindingNames : List String :=
  ["engine_source_manifest_digest", "artifact_index_digest", "environment_bindings",
    "canonicalization_contract_digest"]

/-- What `_require_binding` returns. -/
structure TargetBinding where
  sourceDigest : String
  indexDigest : String
  environmentBindings : List EngineEnvironmentBinding
  canonicalizationDigest : String

/-- `_require_binding`. -/
def requireBinding (binding : Json) (catalog : CapabilityCatalog) :
    Except DocumentError TargetBinding :=
  match binding with
  | .obj members => do
      let field := present members
      rejectWhen (!Dict.sameSet (Dict.keys members) targetBindingNames)
        "unqualified target binding has an invalid shape"
      rejectWhen (!pyEq (field "canonicalization_contract_digest")
          (.str catalog.canonicalizationContractDigest))
        "target binding canonicalization does not match catalog"
      let environmentBindings ← relabel typeOrValueText "target binding environments are invalid" do
        let items ← itemsOf (field "environment_bindings")
        items.mapM environmentBindingOf
      rejectWhen (¬UniquelySorted (environmentBindings.map fun cell => cell.environmentCellId))
        "target binding environments must be uniquely sorted"
      rejectWhen ((field "engine_source_manifest_digest").typeName ≠ "str" ∨
          (field "artifact_index_digest").typeName ≠ "str")
        "target binding engine provenance must be strings"
      rejectWhen ((field "canonicalization_contract_digest").typeName ≠ "str")
        "target binding canonicalization must be a string"
      pure { sourceDigest := textOf (field "engine_source_manifest_digest")
             indexDigest := textOf (field "artifact_index_digest"), environmentBindings
             canonicalizationDigest := textOf (field "canonicalization_contract_digest") }
  | _ => refuse "unqualified target binding has an invalid shape"

/-- `_v2_compatible_id`. -/
def v2CompatibleId (value : String) : Except DocumentError String :=
  match value.toList with
  | first :: _ => .ok (if Python.isAlphaChar first then value else "v1-" ++ value)
  | [] => .error (.raised (.other "IndexError" none))

/-- The fields of a manifest that stay empty in an unqualified one. -/
def unqualifiedNames : List String :=
  ["transition_adapter_id", "transition_adapter_version", "transition_adapter_source_digest",
    "transition_model_contract_digest", "transition_adapter_conformance_digest",
    "oracle_source_manifest_digest", "oracle_build_manifest_digest", "ruleset_digest",
    "corpus_digest", "runner_source_digest", "classifier_source_digest", "evidence_set_digest"]

/-- The report, as far as its own digest covers it. -/
def reportProjection (migration : MigrationFields) (loss : Json) : List (String × Json) :=
  [("report_id", .str migration.lossReportId),
    ("source_document_id", .str migration.sourceDocumentId),
    ("source_schema_id", .str migration.sourceSchemaId),
    ("source_digest", .str migration.sourceDigest), ("migrator_id", .str migration.migratorId),
    ("migrator_version", .str migration.migratorVersion),
    ("loss_codes", .arr (migration.lossCodes.map .str)), ("loss", loss)]

/-- The whole report. -/
def reportDocument (migration : MigrationFields) (loss : Json) (targetDigest : String) :
    List (String × Json) :=
  [("schema_version", .int 1)] ++ reportProjection migration loss ++
  [("loss_report_digest", .str migration.lossReportDigest), ("target_digest", .str targetDigest)]

/-- The unqualified manifest. -/
def targetDocument (manifestId : String) (catalog : CapabilityCatalog) (binding : TargetBinding)
    (migration : MigrationFields) : List (String × Json) :=
  [("schema_version", .int 2), ("manifest_id", .str manifestId),
    ("catalog_id", .str catalog.catalogId), ("catalog_version", .str catalog.catalogVersion),
    ("catalog_digest", .str catalog.catalogDigest), ("generation", .int 9),
    ("format", .str "gen9ou"), ("engine_source_manifest_digest", .str binding.sourceDigest),
    ("artifact_index_digest", .str binding.indexDigest),
    ("environment_bindings", .arr (binding.environmentBindings.map fun cell => cell.document))] ++
  unqualifiedNames.map (fun name => (name, .null)) ++
  [("canonicalization_contract_digest", .str binding.canonicalizationDigest),
    ("migration", migration.document), ("claims", .arr [])]

/-- The fields of the manifest that the core has to accept. -/
def targetFields (manifestId : String) (catalog : CapabilityCatalog) (binding : TargetBinding)
    (migration : CapabilityMigrationClosure) : ManifestFields :=
  { manifestId, catalog, generation := 9, format := "gen9ou"
    engineSourceManifestDigest := binding.sourceDigest, artifactIndexDigest := binding.indexDigest
    environmentBindings := binding.environmentBindings
    canonicalizationContractDigest := binding.canonicalizationDigest, migration := some migration }

/-- The manifest and the report. -/
abbrev Migrated := List (String × Json) × List (String × Json)

/-- `migrate_v1_document`. -/
def migrateV1Document (schemas : DocumentSchemas) (source catalog unqualifiedTargetBinding : Json)
    (sourceDocumentId lossReportId : Option String) : Except DocumentError Migrated := do
  let sourceDocument ← requireValidSource schemas source
  let catalogValue ← requireCatalog catalog
  let binding ← requireBinding unqualifiedTargetBinding catalogValue
  let sourceManifestId ← v2CompatibleId (pyStr (← item (.obj sourceDocument) "manifest_id"))
  let sourceDocumentId ← v2CompatibleId (sourceDocumentId.getD sourceManifestId)
  let targetManifestId := sourceManifestId ++ "-v2-unqualified"
  let lossReportId := lossReportId.getD (targetManifestId ++ "-loss-report-v1")
  let loss ← lossCounts sourceDocument
  let sourceDigest ← core (manifestDigest (.obj sourceDocument))
  let unsealed : MigrationFields :=
    { sourceSchemaId := v1SchemaId, sourceDocumentId, sourceDigest, migratorId, migratorVersion
      lossCodes, lossReportId, lossReportDigest := "" }
  let projection := reportProjection unsealed loss
  let lossReportDigest ← core (manifestDigest (.obj projection))
  let migration := { unsealed with lossReportDigest }
  let target := targetDocument targetManifestId catalogValue binding migration
  rejectWhen (schemas.v2 (.obj target) = false)
    "migrated target fails the engine-capability v2 schema"
  relabel valueText "migrated target fails Core validation" do
    let closure ← core (constructed migration.postInit fun accepted => ⟨migration, accepted⟩)
    core (targetFields targetManifestId catalogValue binding closure).postInit
  let targetDigest ← core (manifestDigest (.obj target))
  let report := reportDocument migration loss targetDigest
  rejectWhen (schemas.lossReport (.obj report) = false) "migration loss report fails its schema"
  pure (target, report)

/-! ## §3 The reader -/

/-- A problem that is reported where something holds. -/
def problemIf (c : Bool) (text : String) : List String := if c then [text] else []

/-- `documents.get(key)`. A list and an object have no hash. -/
def stored (documents : List (String × List (String × Json))) (key : Json) :
    Except DocumentError (Option (List (String × Json))) :=
  match key with
  | .str name => .ok (Python.Dict.get? documents name)
  | .arr _ | .obj _ => .error (.object (.typeError s!"unhashable type: '{key.typeName}'"))
  | _ => .ok none

/-- `_migration_report_projection`. -/
def migrationReportProjection (document : List (String × Json)) :
    Except DocumentError (List (String × Json)) :=
  ["report_id", "source_document_id", "source_schema_id", "source_digest", "migrator_id",
    "migrator_version", "loss_codes", "loss"].mapM fun name => do
      pure (name, ← item (.obj document) name)

/-- The problems of a manifest that is not unqualified. -/
def qualifiedProblems (manifest : List (String × Json)) : List String :=
  problemIf (present manifest "claims").truthy "migration target must remain unqualified" ++
  problemIf (unqualifiedNames.any fun name => !pyEq (present manifest name) .null)
    "migration target must remain unqualified"

/-- The migrator is the registered one, in the registered version. -/
def migratorProblems (migration : Json) : Except DocumentError (List String) := do
  let problem := "migration must use the registered v1-to-v2 migrator"
  if !pyEq (← item migration "migrator_id") (.str migratorId) then pure [problem]
  else pure (problemIf (!pyEq (← item migration "migrator_version") (.str migratorVersion)) problem)

/-- The problems of the migration on its own, and of a manifest that is not unqualified. -/
def closureProblems (manifest : List (String × Json)) (migration : Json) :
    Except DocumentError (List String) := do
  let schemaId ← item migration "source_schema_id"
  let ofMigrator ← migratorProblems migration
  let codes ← item migration "loss_codes"
  pure (problemIf (!pyEq schemaId (.str v1SchemaId))
      "migration source schema must be engine-capability v1" ++ ofMigrator ++
    problemIf (!pyEq codes (.arr (lossCodes.map .str)))
      "migration must use the registered v1-to-v2 loss codes" ++ qualifiedProblems manifest)

/-- The problems of a document, where it is stored. -/
def ofStored (document : Option (List (String × Json)))
    (problems : List (String × Json) → Except DocumentError (List String)) :
    Except DocumentError (List String) :=
  match document with
  | none => .ok []
  | some document => problems document

/-- The problems of the stored source. -/
def sourceProblems (source : List (String × Json)) (migration : Json) :
    Except DocumentError (List String) := do
  let digest ← core (manifestDigest (.obj source))
  let sourceDigest ← item migration "source_digest"
  pure (problemIf (!pyEq (.str digest) sourceDigest)
    "migration source digest does not match source document")

/-- A field of the report that differs from the migration. -/
def fieldProblem (report : List (String × Json)) (migration : Json) (name : String) :
    Except DocumentError (List String) := do
  let expected ← item migration name
  pure (problemIf (!pyEq (present report name) expected)
    s!"migration loss report {name} does not match manifest closure")

/-- Counts of the report that differ from what the stored source has. -/
def lossProblems (report : List (String × Json)) (source : Option (List (String × Json))) :
    Except DocumentError (List String) :=
  match source with
  | none => pure []
  | some source => do
      let expected ← lossCounts source
      pure (problemIf (!pyEq (present report "loss") expected)
        "migration loss counts do not match v1 source")

/-- The problems of the stored report. -/
def reportProblems (manifest report : List (String × Json)) (source : Option (List (String × Json)))
    (migration reportId : Json) : Except DocumentError (List String) := do
  let ofFields ← ["source_document_id", "source_schema_id", "source_digest", "migrator_id",
    "migrator_version", "loss_codes"].mapM (fieldProblem report migration)
  let sealed ← item migration "loss_report_digest"
  let digest ← core (manifestDigest (.obj (← migrationReportProjection report)))
  let ofLoss ← lossProblems report source
  let targetDigest ← core (manifestDigest (.obj manifest))
  pure (problemIf (!pyEq (present report "report_id") reportId)
      "migration loss report ID does not match its file identity" ++ ofFields.flatten ++
    problemIf (!pyEq (present report "loss_report_digest") sealed)
      "migration loss report digest does not match manifest closure" ++
    problemIf (!pyEq (.str digest) sealed)
      "migration loss report digest does not match report projection" ++ ofLoss ++
    problemIf (!pyEq (present report "target_digest") (.str targetDigest))
      "migration loss report target digest does not match manifest")

/-- The problems of a manifest with a migration, for its path below the root. -/
def migrationProblems (relativePath : String) (manifest : List (String × Json))
    (sources reports : List (String × List (String × Json))) (migration : Json) :
    Except DocumentError (List String) := do
  let sourceId ← item migration "source_document_id"
  let reportId ← item migration "loss_report_id"
  let ofClosure ← closureProblems manifest migration
  let source ← stored sources sourceId
  let report ← stored reports reportId
  let missing :=
    problemIf source.isNone ("migration source document is missing for " ++ pyStr sourceId) ++
    problemIf report.isNone ("migration loss report is missing for " ++ pyStr reportId)
  let ofSource ← ofStored source fun source => sourceProblems source migration
  let ofReport ← ofStored report fun report =>
    reportProblems manifest report source migration reportId
  pure ((ofClosure ++ missing ++ ofSource ++ ofReport).map fun problem =>
    s!"{relativePath}: {problem}")

/-- `_validate_migration_provenance`. -/
def validateMigrationProvenance (relativePath : String) (manifest : List (String × Json))
    (sources reports : List (String × List (String × Json))) :
    Except DocumentError (List String) := do
  match ← item (.obj manifest) "migration" with
  | .null => pure []
  | migration => migrationProblems relativePath manifest sources reports migration

end Migration

end BattleBelief.Qualification
