import BattleBelief.CanonicalDomain
import BattleBelief.Engine.Migration
import BattleBelief.Engine.QualificationSound

/-!
# Writer and Reader of Migrations

What the migration writes, the reader accepts. Where the stored source, the loss counts of the
report or the manifest is changed afterwards, the reader reports a problem, unless the canonicalizer
refuses what is there now: then the reader does not report but raises.

- `Written`: what a migration has written
- `Tampering`: what is changed afterwards
- `migration_checked_iff`: both directions
-/

namespace BattleBelief.Qualification

open Runs
open Python (Json)
open Python.Json (pyEq)

/-! ## §1 Counts -/

theorem lossCounts_shape {source : List (String × Json)} {loss : Json}
    (h : lossCounts source = .ok loss) :
    ∃ exact approximated unsupported divergences : Nat, loss = .obj [("exact", .int exact),
      ("approximated", .int approximated), ("unsupported", .int unsupported),
      ("known_divergences", .int divergences)] := by
  obtain ⟨counts, hcounts, h⟩ := bind_eq_ok.mp h
  cases h
  have hcounted : List.Forall₂ (fun name count => ∃ length : Nat, count = (name, Json.int length))
      lossSections counts := by
    apply (mapM_eq_ok.mp hcounts).imp
    intro name count hcount
    obtain ⟨section_, -, hcount⟩ := bind_eq_ok.mp hcount
    obtain ⟨length, -, hcount⟩ := bind_eq_ok.mp hcount
    cases hcount
    exact ⟨length, rfl⟩
  obtain _ | ⟨⟨exact, rfl⟩, hcounted⟩ := hcounted
  obtain _ | ⟨⟨approximated, rfl⟩, hcounted⟩ := hcounted
  obtain _ | ⟨⟨unsupported, rfl⟩, hcounted⟩ := hcounted
  obtain _ | ⟨⟨divergences, rfl⟩, hcounted⟩ := hcounted
  cases hcounted
  exact ⟨exact, approximated, unsupported, divergences, rfl⟩

/-- A document with its sections has counts. -/
theorem exists_lossCounts {source : List (String × Json)}
    (h : ∀ name ∈ lossSections, ∃ items, Json.get? source name = some (.arr items)) :
    ∃ loss, lossCounts source = .ok loss := by
  have hcounted : ∀ name ∈ lossSections, ∃ count, (do
      let length ← lengthOf (← item (.obj source) name)
      pure (name, Json.int length) : Except DocumentError (String × Json)) = .ok count := by
    intro name hname
    obtain ⟨items, hitems⟩ := h name hname
    refine ⟨(name, .int items.length), ?_⟩
    apply bind_of_ok (a := .arr items)
    · rw [item, Json.subscript_of_get? hitems]
      rfl
    · rfl
  obtain ⟨counts, hcounts⟩ := exists_mapM hcounted
  exact ⟨.obj counts, bind_of_ok hcounts rfl⟩

theorem pyEq_lossCounts {source : List (String × Json)} {loss : Json}
    (h : lossCounts source = .ok loss) : pyEq loss loss = true := by
  obtain ⟨exact, approximated, unsupported, divergences, rfl⟩ := lossCounts_shape h
  simp [pyEq, Json.membersEq, Json.get?, Python.Dict.get?, Json.scalarEq, Json.numbersEq,
    Json.number?, Python.Number.eq]

theorem problemIf_eq_nil {value expected : Json} {problem : String} :
    problemIf (!pyEq value expected) problem = [] ↔ pyEq value expected = true := by
  cases h : pyEq value expected with
  | true => simp [problemIf]
  | false => simp [problemIf]

@[simp] theorem problemIf_equal (text problem : String) :
    problemIf (!pyEq (.str text) (.str text)) problem = [] := by
  rw [Json.pyEq_str.mpr rfl]
  rfl

section Migration

variable [Rfc8785]

/-! ## §2 What is written -/

/-- A source is written as an unqualified manifest and a report. -/
structure Written (source : List (String × Json)) (catalog : CapabilityCatalog)
    (manifestId : String) (binding : TargetBinding) (migration : CapabilityMigrationClosure) (loss : Json)
    (targetDigest : String) : Prop where
  schemaId : migration.sourceSchemaId = v1SchemaId
  migrator : migration.migratorId = migratorId
  version : migration.migratorVersion = migratorVersion
  codes : migration.lossCodes = lossCodes
  counted : lossCounts source = .ok loss
  source_digest : manifestDigest (.obj source) = .ok migration.sourceDigest
  report_digest : manifestDigest (.obj (reportProjection migration.toMigrationFields loss)) =
    .ok migration.lossReportDigest
  target_digest :
    manifestDigest (.obj (targetDocument manifestId catalog binding migration.toMigrationFields)) =
      .ok targetDigest
  accepted : (targetFields manifestId catalog binding migration).postInit = .ok ()

variable {source : List (String × Json)} {catalog : CapabilityCatalog} {manifestId : String}
  {binding : TargetBinding} {migration : CapabilityMigrationClosure} {loss : Json}
  {targetDigest : String}

/-- The manifest that is built from the written document is the one that the writer had accepted. -/
theorem manifestOf_target
    (h : Written source catalog manifestId binding migration loss targetDigest) :
    manifestOf (targetDocument manifestId catalog binding migration.toMigrationFields) catalog
      binding.environmentBindings [] =
        .ok ⟨targetFields manifestId catalog binding migration, h.accepted⟩ := by
  unfold manifestOf
  -- every field is there
  iterate 19 apply bind_of_ok rfl
  apply bind_of_ok (closureOf_document migration)
  exact congrArg core (constructed_of_ok h.accepted)

section Database

variable [Python.UnicodeDatabase]

/-- What a migration returns was written. -/
theorem written_of_migrate {schemas : DocumentSchemas} {source : List (String × Json)}
    {catalogDocument bindingDocument : Json} {sourceDocumentId lossReportId : Option String}
    {catalog : CapabilityCatalog} {target report : List (String × Json)}
    (hcatalog : CapabilityCatalog.fromDocument catalogDocument = .ok catalog)
    (h : migrateV1Document schemas (.obj source) catalogDocument bindingDocument sourceDocumentId
      lossReportId = .ok (target, report)) :
    ∃ manifestId binding migration loss targetDigest,
      Written source catalog manifestId binding migration loss targetDigest ∧
      target = targetDocument manifestId catalog binding migration.toMigrationFields ∧
      report = reportDocument migration.toMigrationFields loss targetDigest := by
  unfold migrateV1Document at h
  obtain ⟨sourceDocument, hsource, h⟩ := bind_eq_ok.mp h
  obtain ⟨catalogValue, hcatalogValue, h⟩ := bind_eq_ok.mp h
  obtain ⟨binding, -, h⟩ := bind_eq_ok.mp h
  obtain ⟨_, -, h⟩ := bind_eq_ok.mp h
  obtain ⟨sourceManifestId, -, h⟩ := bind_eq_ok.mp h
  obtain ⟨documentId, -, h⟩ := bind_eq_ok.mp h
  obtain ⟨loss, hloss, h⟩ := bind_eq_ok.mp h
  obtain ⟨sourceDigest, hsourceDigest, h⟩ := bind_eq_ok.mp h
  obtain ⟨reportDigest, hreportDigest, h⟩ := bind_eq_ok.mp h
  obtain ⟨_, -, h⟩ := bind_eq_ok.mp h
  obtain ⟨_, haccepted, h⟩ := bind_eq_ok.mp h
  obtain ⟨targetDigest, htargetDigest, h⟩ := bind_eq_ok.mp h
  obtain ⟨_, -, h⟩ := bind_eq_ok.mp h
  cases h
  obtain ⟨_, -, hsource⟩ := bind_eq_ok.mp hsource
  obtain ⟨_, -, hsource⟩ := bind_eq_ok.mp hsource
  cases hsource
  obtain ⟨closure, hclosure, haccepted⟩ := bind_eq_ok.mp (relabel_eq_ok.mp haccepted)
  obtain ⟨hpost, rfl⟩ := constructed_eq_ok (core_eq_ok.mp hclosure)
  cases hcatalog.symm.trans (requireCatalog_eq_ok.mp hcatalogValue)
  exact ⟨_, binding, ⟨_, hpost⟩, loss, targetDigest,
    { schemaId := rfl, migrator := rfl, version := rfl, codes := rfl, counted := hloss
      source_digest := core_eq_ok.mp hsourceDigest, report_digest := core_eq_ok.mp hreportDigest
      target_digest := core_eq_ok.mp htargetDigest
      accepted := core_eq_ok.mp haccepted }, rfl, rfl⟩

/-- The reader accepts the written manifest, whatever evidence it knows. -/
theorem validateCapabilityManifest_target
    (h : Written source catalog manifestId binding migration loss targetDigest)
    (evidenceDocuments : Option (List (String × CapabilityEvidenceRef))) :
    validateCapabilityManifest
      (targetDocument manifestId catalog binding migration.toMigrationFields) catalog
      evidenceDocuments = .ok [] := by
  have hequal : ∀ text : String, ¬(!pyEq (.str text) (.str text)) = true := by
    intro text
    rw [Json.pyEq_str.mpr rfl]
    simp
  have hchecked : checkCapabilityManifest
      (targetDocument manifestId catalog binding migration.toMigrationFields) catalog
      evidenceDocuments = .ok () := by
    unfold checkCapabilityManifest
    apply bind_of_ok rfl
    apply bind_of_ok (a := ()) (refuseIf_eq_ok.mpr (hequal _))
    apply bind_of_ok rfl
    apply bind_of_ok (a := ()) (refuseIf_eq_ok.mpr (hequal _))
    apply bind_of_ok rfl
    apply bind_of_ok (a := ()) (refuseIf_eq_ok.mpr (hequal _))
    apply bind_of_ok rfl
    apply bind_of_ok (a := ()) rfl
    apply bind_of_ok rfl
    apply bind_of_ok (a := ()) rfl
    apply bind_of_ok rfl
    apply bind_of_ok rfl
    apply bind_of_ok (mapM_map_self fun cell _ => environmentBindingOf_document cell)
    apply bind_of_ok rfl
    apply bind_of_ok rfl
    apply bind_of_ok rfl
    apply bind_of_ok (manifestOf_target h)
    cases evidenceDocuments with
    | none => rfl
    | some documents => rfl
  rw [validateCapabilityManifest, hchecked]

end Database

/-! ## §3 The reader on what is stored -/

/-- The registered migration has no problems of its own. -/
theorem closureProblems_written
    (h : Written source catalog manifestId binding migration loss targetDigest)
    (manifest : List (String × Json)) :
    closureProblems manifest migration.document = .ok (qualifiedProblems manifest) := by
  have hdocument : migration.document = .obj [("source_schema_id", .str v1SchemaId),
      ("source_document_id", .str migration.sourceDocumentId),
      ("source_digest", .str migration.sourceDigest), ("migrator_id", .str migratorId),
      ("migrator_version", .str migratorVersion), ("loss_codes", .arr (lossCodes.map .str)),
      ("loss_report_id", .str migration.lossReportId),
      ("loss_report_digest", .str migration.lossReportDigest)] := by
    rw [MigrationFields.document, h.schemaId, h.migrator, h.version, h.codes]
  rw [hdocument]
  rfl

/-- What the reader finds of a stored source that has a digest. -/
theorem sourceProblems_eq {stored : List (String × Json)} {digest : String}
    (h : manifestDigest (.obj stored) = .ok digest) :
    sourceProblems stored migration.document =
      .ok (problemIf (!pyEq (.str digest) (.str migration.sourceDigest))
        "migration source digest does not match source document") := by
  apply bind_of_ok (core_eq_ok.mpr h)
  exact bind_of_ok rfl rfl

/-- What the reader finds of the stored report, with other counts, where all that it takes digests
of has one. -/
theorem reportProblems_eq
    (h : Written source catalog manifestId binding migration loss targetDigest)
    {manifest stored : List (String × Json)} {counts expected : Json}
    {digest digestOfManifest : String}
    (hprojection : manifestDigest (.obj (reportProjection migration.toMigrationFields counts)) =
      .ok digest)
    (hexpected : lossCounts stored = .ok expected)
    (hmanifest : manifestDigest (.obj manifest) = .ok digestOfManifest) :
    reportProblems manifest (reportDocument migration.toMigrationFields counts targetDigest)
      (some stored) migration.document (.str migration.lossReportId) =
        .ok (problemIf (!pyEq (.str digest) (.str migration.lossReportDigest))
            "migration loss report digest does not match report projection" ++
          problemIf (!pyEq counts expected) "migration loss counts do not match v1 source" ++
          problemIf (!pyEq (.str targetDigest) (.str digestOfManifest))
            "migration loss report target digest does not match manifest") := by
  have hfield : ∀ (name text : String) (report : List (String × Json)),
      Json.get? report name = some (.str text) →
      item migration.document name = .ok (.str text) →
      fieldProblem report migration.document name = .ok [] := by
    intro name text report hreport hitem
    apply bind_of_ok hitem
    rw [present, hreport, Option.getD_some, problemIf_equal]
    rfl
  have hcodes : fieldProblem (reportDocument migration.toMigrationFields counts targetDigest)
      migration.document "loss_codes" = .ok [] := by
    apply bind_of_ok rfl
    rw [show present (reportDocument migration.toMigrationFields counts targetDigest) "loss_codes" =
      .arr (migration.lossCodes.map .str) from rfl, h.codes]
    rfl
  have hfields : ["source_document_id", "source_schema_id", "source_digest", "migrator_id",
      "migrator_version", "loss_codes"].mapM
        (fieldProblem (reportDocument migration.toMigrationFields counts targetDigest)
          migration.document) = .ok [[], [], [], [], [], []] := by
    rw [mapM_eq_ok]
    exact .cons (hfield _ _ _ rfl rfl) (.cons (hfield _ _ _ rfl rfl) (.cons (hfield _ _ _ rfl rfl)
      (.cons (hfield _ _ _ rfl rfl) (.cons (hfield _ _ _ rfl rfl) (.cons hcodes .nil)))))
  unfold reportProblems
  apply bind_of_ok hfields
  apply bind_of_ok rfl
  apply bind_of_ok rfl
  apply bind_of_ok (core_eq_ok.mpr hprojection)
  apply bind_of_ok (a := problemIf (!pyEq counts expected) _) (bind_of_ok hexpected rfl)
  apply bind_of_ok (core_eq_ok.mpr hmanifest)
  have hid := problemIf_equal migration.lossReportId
    "migration loss report ID does not match its file identity"
  have hsealed := problemIf_equal migration.lossReportDigest
    "migration loss report digest does not match manifest closure"
  show Except.ok (problemIf (!pyEq (.str migration.lossReportId) (.str migration.lossReportId)) _ ++
    [] ++ problemIf (!pyEq (.str migration.lossReportDigest) (.str migration.lossReportDigest)) _ ++
    _ ++ _ ++ _) = _
  rw [hid, hsealed]
  rfl

/-! ## §4 Changes afterwards -/

/-- The text of a field of the target's migration. -/
def migrationText (target : List (String × Json)) (name : String) : String :=
  match present target "migration" with
  | .obj members => textOf (present members name)
  | _ => ""

/-- The source is stored under the target's source document id, the report under its report id. -/
def Stores (target source report : List (String × Json))
    (sources reports : List (String × List (String × Json))) : Prop :=
  Python.Dict.get? sources (migrationText target "source_document_id") = some source ∧
    Python.Dict.get? reports (migrationText target "loss_report_id") = some report

/-- What is changed after the migration. -/
inductive Tampering where
  /-- Another document is stored as the source -/
  | source (changed : List (String × Json))
  /-- The report has other loss counts -/
  | loss (changed : Json)
  /-- The manifest is another one, with the same migration -/
  | target (changed : List (String × Json))

/-- The digests tell the two documents apart: with one digest they are equal. -/
def DigestsInjective (first second : Json) : Prop :=
  ∀ digest, manifestDigest first = .ok digest → manifestDigest second = .ok digest →
    pyEq first second = true

namespace Tampering

/-- What is there instead. -/
def changed : Tampering → Json
  | .source changed => .obj changed
  | .loss changed => changed
  | .target changed => .obj changed

def sourceAfter (tampering : Tampering) (written : List (String × Json)) : List (String × Json) :=
  match tampering with
  | .source changed => changed
  | _ => written

def reportAfter (tampering : Tampering) (written : List (String × Json)) : List (String × Json) :=
  match tampering with
  | .loss changed => Python.Dict.assign written "loss" changed
  | _ => written

def targetAfter (tampering : Tampering) (written : List (String × Json)) : List (String × Json) :=
  match tampering with
  | .target changed => changed
  | _ => written

/-- Something really differs, and digests tell it apart. A stored source is valid, as the repository
has checked before. -/
def Changes (schemas : DocumentSchemas) (written report writtenTarget : List (String × Json)) :
    Tampering → Prop
  | .source changed => schemas.v1 (.obj changed) = true ∧
      pyEq (.obj changed) (.obj written) = false ∧ DigestsInjective (.obj changed) (.obj written)
  | .loss changed => pyEq changed (present report "loss") = false
  | .target changed => Json.get? changed "migration" = Json.get? writtenTarget "migration" ∧
      pyEq (.obj changed) (.obj writtenTarget) = false ∧
      DigestsInjective (.obj changed) (.obj writtenTarget)

end Tampering

/-- The check returns problems. -/
def Reports (outcome : Except DocumentError (List String)) : Prop :=
  ∃ problems, outcome = .ok problems ∧ problems ≠ []

/-- A report with other counts has a canonical form exactly when the counts have one. -/
theorem inDomain_projection
    (h : Written source catalog manifestId binding migration loss targetDigest) (counts : Json) :
    (Json.obj (reportProjection migration.toMigrationFields counts)).inDomain =
      counts.inDomain := by
  rw [reportProjection, h.codes]
  simp [Json.inDomain, Json.membersInDomain, Json.itemsInDomain, lossCodes]

section Database

variable [Python.UnicodeDatabase]

variable {relativePath : String} {manifest stored : List (String × Json)} {counts expected : Json}
  {sources reports : List (String × List (String × Json))}

/-- What is found where everything has a digest. -/
theorem validate_of_digests
    (h : Written source catalog manifestId binding migration loss targetDigest)
    (hmigration : Json.get? manifest "migration" = some migration.document)
    (hsource : Python.Dict.get? sources migration.sourceDocumentId = some stored)
    (hreport : Python.Dict.get? reports migration.lossReportId =
      some (reportDocument migration.toMigrationFields counts targetDigest))
    {sourceDigest reportDigest digest : String}
    (hstored : manifestDigest (.obj stored) = .ok sourceDigest)
    (hprojection : manifestDigest (.obj (reportProjection migration.toMigrationFields counts)) =
      .ok reportDigest)
    (hexpected : lossCounts stored = .ok expected)
    (hmanifest : manifestDigest (.obj manifest) = .ok digest) :
    validateMigrationProvenance relativePath manifest sources reports =
      .ok ((qualifiedProblems manifest ++
        problemIf (!pyEq (.str sourceDigest) (.str migration.sourceDigest))
          "migration source digest does not match source document" ++
        (problemIf (!pyEq (.str reportDigest) (.str migration.lossReportDigest))
          "migration loss report digest does not match report projection" ++
        problemIf (!pyEq counts expected) "migration loss counts do not match v1 source" ++
        problemIf (!pyEq (.str targetDigest) (.str digest))
          "migration loss report target digest does not match manifest")).map fun problem =>
            s!"{relativePath}: {problem}") := by
  have hitem : item (.obj manifest) "migration" = .ok migration.document := by
    rw [item, Json.subscript_of_get? hmigration]
    rfl
  unfold validateMigrationProvenance
  apply bind_of_ok hitem
  show migrationProblems relativePath manifest sources reports migration.document = _
  have hsourceId : item migration.document "source_document_id" =
    .ok (.str migration.sourceDocumentId) := rfl
  have hreportId : item migration.document "loss_report_id" =
    .ok (.str migration.lossReportId) := rfl
  have hstoredSource : Qualification.stored sources (.str migration.sourceDocumentId) =
    .ok (some stored) := congrArg Except.ok hsource
  have hstoredReport : Qualification.stored reports (.str migration.lossReportId) =
    .ok (some (reportDocument migration.toMigrationFields counts targetDigest)) :=
      congrArg Except.ok hreport
  apply bind_of_ok hsourceId
  apply bind_of_ok hreportId
  apply bind_of_ok (closureProblems_written h manifest)
  apply bind_of_ok hstoredSource
  apply bind_of_ok hstoredReport
  apply bind_of_ok (sourceProblems_eq hstored)
  apply bind_of_ok (reportProblems_eq h hprojection hexpected hmanifest)
  show Except.ok ((qualifiedProblems manifest ++ [] ++ _ ++ _).map _) = _
  rw [List.append_nil]

/-- Where anything is found, or nothing, everything has a digest. -/
theorem digests_of_validate
    (hmigration : Json.get? manifest "migration" = some migration.document)
    (hsource : Python.Dict.get? sources migration.sourceDocumentId = some stored)
    (hreport : Python.Dict.get? reports migration.lossReportId =
      some (reportDocument migration.toMigrationFields counts targetDigest))
    {problems : List String}
    (h : validateMigrationProvenance relativePath manifest sources reports = .ok problems) :
    (∃ digest, manifestDigest (.obj stored) = .ok digest) ∧
    (∃ digest, manifestDigest (.obj (reportProjection migration.toMigrationFields counts)) =
      .ok digest) ∧
    ∃ digest, manifestDigest (.obj manifest) = .ok digest := by
  have hitem : item (.obj manifest) "migration" = .ok migration.document := by
    rw [item, Json.subscript_of_get? hmigration]
    rfl
  unfold validateMigrationProvenance at h
  obtain ⟨_, hfound, h⟩ := bind_eq_ok.mp h
  cases hitem.symm.trans hfound
  have h : migrationProblems relativePath manifest sources reports migration.document =
    .ok problems := h
  obtain ⟨_, hid, h⟩ := bind_eq_ok.mp h
  cases hid
  obtain ⟨_, hid, h⟩ := bind_eq_ok.mp h
  cases hid
  obtain ⟨_, -, h⟩ := bind_eq_ok.mp h
  obtain ⟨_, hfound, h⟩ := bind_eq_ok.mp h
  cases (congrArg Except.ok hsource).symm.trans hfound
  obtain ⟨_, hfound, h⟩ := bind_eq_ok.mp h
  cases (congrArg Except.ok hreport).symm.trans hfound
  obtain ⟨_, hofSource, h⟩ := bind_eq_ok.mp h
  obtain ⟨_, hofReport, -⟩ := bind_eq_ok.mp h
  obtain ⟨sourceDigest, hstored, -⟩ := bind_eq_ok.mp hofSource
  obtain ⟨_, -, hofReport⟩ := bind_eq_ok.mp hofReport
  obtain ⟨_, -, hofReport⟩ := bind_eq_ok.mp hofReport
  obtain ⟨_, hfound, hofReport⟩ := bind_eq_ok.mp hofReport
  cases hfound
  obtain ⟨reportDigest, hprojection, hofReport⟩ := bind_eq_ok.mp hofReport
  obtain ⟨_, -, hofReport⟩ := bind_eq_ok.mp hofReport
  obtain ⟨digest, hmanifest, -⟩ := bind_eq_ok.mp hofReport
  exact ⟨⟨sourceDigest, core_eq_ok.mp hstored⟩, ⟨reportDigest, core_eq_ok.mp hprojection⟩,
    ⟨digest, core_eq_ok.mp hmanifest⟩⟩

/-! ## §5 Acceptance and detection -/

/-- The reader finds nothing wrong with what the writer has written. -/
theorem validateMigrationProvenance_written
    (h : Written source catalog manifestId binding migration loss targetDigest)
    (hsource : Python.Dict.get? sources migration.sourceDocumentId = some source)
    (hreport : Python.Dict.get? reports migration.lossReportId =
      some (reportDocument migration.toMigrationFields loss targetDigest)) :
    validateMigrationProvenance relativePath
      (targetDocument manifestId catalog binding migration.toMigrationFields) sources reports =
        .ok [] := by
  have hqualified : qualifiedProblems
      (targetDocument manifestId catalog binding migration.toMigrationFields) = [] := rfl
  rw [validate_of_digests h rfl hsource hreport h.source_digest h.report_digest h.counted
    h.target_digest, hqualified, problemIf_equal, problemIf_equal, problemIf_equal,
    pyEq_lossCounts h.counted]
  rfl

/-- Where the reader has something to find, it reports exactly when everything that it takes digests
of has a canonical form. -/
theorem reports_iff (hdomain : DumpsDomain)
    (h : Written source catalog manifestId binding migration loss targetDigest)
    (hmigration : Json.get? manifest "migration" = some migration.document)
    (hsource : Python.Dict.get? sources migration.sourceDocumentId = some stored)
    (hreport : Python.Dict.get? reports migration.lossReportId =
      some (reportDocument migration.toMigrationFields counts targetDigest))
    (hexpected : lossCounts stored = .ok expected)
    (hproblem : manifestDigest (.obj stored) ≠ .ok migration.sourceDigest ∨
      pyEq counts expected = false ∨ manifestDigest (.obj manifest) ≠ .ok targetDigest) :
    Reports (validateMigrationProvenance relativePath manifest sources reports) ↔
      (Json.obj stored).inDomain = true ∧ counts.inDomain = true ∧
        (Json.obj manifest).inDomain = true := by
  rw [← inDomain_projection h counts, ← hdomain.digest_iff, ← hdomain.digest_iff,
    ← hdomain.digest_iff]
  constructor
  · rintro ⟨problems, hvalidated, -⟩
    exact digests_of_validate hmigration hsource hreport hvalidated
  · rintro ⟨⟨sourceDigest, hstored⟩, ⟨reportDigest, hprojection⟩, digest, hmanifest⟩
    refine ⟨_, validate_of_digests h hmigration hsource hreport hstored hprojection hexpected
      hmanifest, ?_⟩
    intro hnil
    have hnone := List.map_eq_nil_iff.mp hnil
    simp only [List.append_eq_nil_iff, problemIf_eq_nil, Json.pyEq_str] at hnone
    obtain ⟨⟨-, hsame⟩, ⟨-, hcounts⟩, htarget⟩ := hnone
    rcases hproblem with hdigest | hchanged | hdigest
    · apply hdigest
      rw [hstored, Json.str.inj hsame]
    · rw [hcounts] at hchanged
      cases hchanged
    · apply hdigest
      rw [hmanifest, Json.str.inj htarget]

end Database

end Migration

/-! ## §6 A migration -/

/-- Schemas that ask for the sections. -/
def sectionSchemas : DocumentSchemas where
  v1 value :=
    match value with
    | .obj members => lossSections.all fun name =>
        match Json.get? members name with
        | some (.arr _) => true
        | _ => false
    | _ => false
  v2 _ := true
  lossReport _ := true
  sections := by
    intro source hvalid name hname
    have hsection := List.all_eq_true.mp hvalid name hname
    cases hfound : Json.get? source name with
    | none =>
      rw [hfound] at hsection
      cases hsection
    | some value =>
      rw [hfound] at hsection
      cases value with
      | arr items => exact ⟨items, rfl⟩
      | _ => cases hsection

/-- A document of the first version, with one capability that is not supported. -/
def sampleSource : List (String × Json) :=
  [("schema_version", .int 1), ("manifest_id", .str "sample"), ("engine", .str "poke-engine"),
    ("package_version", .str "0.0.47"), ("engine_commit", .str "0123456"),
    ("artifact_digest", .str sampleDigest), ("build_features", .arr []),
    ("adapter_version", .str "1"), ("format", .str "gen9ou"),
    ("oracle_showdown_commit", .str "0123456"), ("ruleset_snapshot_digest", .str sampleDigest),
    ("evidence_run_id", .str "run"), ("generated_at", .str "2026-01-01T00:00:00Z"),
    ("fallback_policy_id", .str "fallback"), ("exact", .arr []), ("approximated", .arr []),
    ("unsupported", .arr [.obj [("capability", .str "order"),
      ("classification", .str "unsupported"), ("applies_when", .obj [("turns", .int 1)])]]),
    ("known_divergences", .arr [])]

def sampleCatalogDocument : Json := (sampleCatalogFields "").document

def sampleTargetBinding : Json :=
  .obj [("engine_source_manifest_digest", .str sampleDigest),
    ("artifact_index_digest", .str sampleDigest),
    ("environment_bindings", .arr [sampleCell.document]),
    ("canonicalization_contract_digest", .str sampleDigest)]

def sampleBinding : TargetBinding :=
  ⟨sampleDigest, sampleDigest, [sampleCell], sampleDigest⟩

def sampleLoss (exact : Int) : Json :=
  .obj [("exact", .int exact), ("approximated", .int 0), ("unsupported", .int 1),
    ("known_divergences", .int 0)]

/-- The digest of a document that has a canonical form. -/
def compactDigest (value : Json) : String := sha256Digest (Python.encodeUtf8 value.dumps)

theorem digest_compactDigest (value : Json) (name : String) :
    digest (some (compactDigest value)) name = .ok () := by
  rw [digest_eq_ok]
  exact isDigest_sha256Digest _

def migrationFields (lossReportDigest : String) : MigrationFields where
  sourceSchemaId := v1SchemaId
  sourceDocumentId := "sample"
  sourceDigest := compactDigest (.obj sampleSource)
  migratorId := migratorId
  migratorVersion := migratorVersion
  lossCodes := lossCodes
  lossReportId := "sample-v2-unqualified-loss-report-v1"
  lossReportDigest := lossReportDigest

def sampleMigration : CapabilityMigrationClosure where
  toMigrationFields := migrationFields (compactDigest (.obj (reportProjection (migrationFields "")
    (sampleLoss 0))))
  accepted := by
    apply bind_of_ok (a := ()) (schemaId_eq_ok.mpr (by decide +kernel))
    apply bind_of_ok (a := ()) (refuseIf_eq_ok.mpr (by decide))
    apply bind_of_ok (a := ()) (canonicalId_eq_ok.mpr (by decide +kernel))
    apply bind_of_ok (a := ()) (digest_compactDigest (.obj sampleSource) _)
    apply bind_of_ok (a := ()) (nonempty_eq_ok.mpr (by decide +kernel))
    apply bind_of_ok (a := ()) (nonempty_eq_ok.mpr (by decide +kernel))
    apply bind_of_ok (a := ()) (refuseIf_eq_ok.mpr (by decide))
    apply bind_of_ok (a := ()) (refuseIf_eq_ok.mpr (by decide +kernel))
    apply bind_of_ok (a := ()) (forM_eq_ok.mpr (by
      simp only [canonicalId_eq_ok]
      decide +kernel))
    apply bind_of_ok (a := ()) (refuseIf_eq_ok.mpr (by decide))
    apply bind_of_ok (a := ()) (canonicalId_eq_ok.mpr (by decide +kernel))
    exact digest_compactDigest _ _

theorem sampleCatalogFields_accepted : letI := domainCanonicalizer
    (sampleCatalogFields sampleCatalogDigest).postInit = .ok () := by
  let _ := domainCanonicalizer
  rw [CatalogFields.postInit_eq_ok]
  exact ⟨by decide +kernel, by decide +kernel, ⟨rfl, rfl⟩, by decide +kernel,
    by decide +kernel, sampleDigest_valid, by decide +kernel, by decide +kernel,
    sampleDigest_valid, List.cons_ne_nil _ _, by decide +kernel, rfl⟩

/-- The catalog, where the canonicalizer refuses what has no canonical form. -/
def sampleStrictCatalog : letI := domainCanonicalizer; CapabilityCatalog :=
  letI := domainCanonicalizer
  ⟨sampleCatalogFields sampleCatalogDigest, sampleCatalogFields_accepted⟩

theorem sampleStrictCatalog_read : letI := domainCanonicalizer
    CapabilityCatalog.fromDocument sampleCatalogDocument = .ok sampleStrictCatalog := by
  let _ := domainCanonicalizer
  have hdefinition : definitionOf (.obj [("value", .str "gen9.transition.order"),
      ("description", .str "Order")]) =
        .ok ⟨"gen9.transition.order", "Order", by decide +kernel⟩ := by
    apply bind_of_ok (a := ()) rfl
    exact congrArg core (constructed_of_ok (by decide +kernel))
  apply bind_of_ok (a := ()) rfl
  apply bind_of_ok (mapM_eq_ok.mpr (.cons hdefinition .nil))
  apply bind_of_ok (a := ()) rfl
  apply bind_of_ok (a := ()) rfl
  apply bind_of_ok (a := sampleCatalogDigest) rfl
  exact congrArg core (constructed_of_ok sampleStrictCatalog.accepted)

def sampleTargetId : String := "sample-v2-unqualified"

def sampleTarget : letI := domainCanonicalizer; List (String × Json) :=
  letI := domainCanonicalizer
  targetDocument sampleTargetId sampleStrictCatalog sampleBinding sampleMigration.toMigrationFields

def sampleReport (exact : Int) : letI := domainCanonicalizer; List (String × Json) :=
  letI := domainCanonicalizer
  reportDocument sampleMigration.toMigrationFields (sampleLoss exact)
    (compactDigest (.obj sampleTarget))

theorem sampleTargetFields_ok : letI := domainCanonicalizer
    (targetFields sampleTargetId sampleStrictCatalog sampleBinding sampleMigration).postInit =
      .ok () := by
  let _ := domainCanonicalizer
  have hrefs : evidenceSetDigestFor [] = .ok (compactDigest (evidenceSetDocument [])) :=
    evidenceSetDigestFor_eq_ok.mpr ⟨List.nodup_nil, rfl⟩
  rw [ManifestFields.postInit_eq_ok]
  refine ⟨by decide +kernel, rfl, rfl, ⟨rfl, rfl, rfl⟩, sampleDigest_valid, sampleDigest_valid,
    sampleDigest_valid, List.pairwise_singleton _ _, rfl, ?_, .nil, ?_, ?_, rfl, rfl,
    _, hrefs, ?_⟩
  · intro field hfield text htext
    have hempty : field.2 = none := by
      simp only [ManifestFields.optionalClosureDigestFields, targetFields, List.mem_cons,
        List.not_mem_nil, or_false] at hfield
      obtain rfl | rfl | rfl | rfl | rfl | rfl | rfl := hfield <;> rfl
    rw [hempty] at htext
    cases htext
  · intro claim hclaim
    cases hclaim
  · intro _
    refine ⟨rfl, ?_, ?_⟩
    · decide
    · decide
  · have hnone : ¬(targetFields sampleTargetId sampleStrictCatalog sampleBinding
        sampleMigration).qualifyingClaims ≠ [] := not_not_intro rfl
    rw [if_neg hnone]
    intro hsome
    exact absurd rfl hsome

theorem sampleMigrated : letI := Python.asciiDatabase; letI := domainCanonicalizer
    migrateV1Document sectionSchemas (.obj sampleSource) sampleCatalogDocument sampleTargetBinding
      none none = .ok (sampleTarget, sampleReport 0) := by
  let _ := Python.asciiDatabase
  let _ := domainCanonicalizer
  have hcatalog : requireCatalog sampleCatalogDocument = .ok sampleStrictCatalog :=
    requireCatalog_eq_ok.mpr sampleStrictCatalog_read
  have hbinding : requireBinding sampleTargetBinding sampleStrictCatalog = .ok sampleBinding := by
    have hcells : [sampleCell.document].mapM environmentBindingOf = .ok [sampleCell] :=
      mapM_eq_ok.mpr (.cons (environmentBindingOf_document sampleCell) .nil)
    have hitems : (do
        let items ← itemsOf (.arr [sampleCell.document])
        items.mapM environmentBindingOf) = .ok [sampleCell] := bind_of_ok rfl hcells
    apply bind_of_ok (a := ()) (refuseIf_eq_ok.mpr (by decide +kernel))
    apply bind_of_ok (a := ()) (refuseIf_eq_ok.mpr (by decide +kernel))
    apply bind_of_ok (relabel_eq_ok.mpr hitems)
    apply bind_of_ok (a := ()) (refuseIf_eq_ok.mpr (by decide +kernel))
    apply bind_of_ok (a := ()) (refuseIf_eq_ok.mpr (by decide +kernel))
    apply bind_of_ok (a := ()) (refuseIf_eq_ok.mpr (by decide +kernel))
    rfl
  have hsource : requireValidSource sectionSchemas (.obj sampleSource) = .ok sampleSource := by
    apply bind_of_ok (a := ()) (refuseIf_eq_ok.mpr (by decide +kernel))
    apply bind_of_ok (a := ()) (refuseIf_eq_ok.mpr (by decide +kernel))
    rfl
  have hid : item (.obj sampleSource) "manifest_id" = .ok (.str "sample") := by rfl
  have hcompatible : v2CompatibleId "sample" = .ok "sample" := by rfl
  have hloss : lossCounts sampleSource = .ok (sampleLoss 0) := by rfl
  have hsourceDigest : manifestDigest (.obj sampleSource) =
    .ok (compactDigest (.obj sampleSource)) := by rfl
  have hprojection : manifestDigest (.obj (reportProjection (migrationFields "") (sampleLoss 0))) =
    .ok sampleMigration.lossReportDigest := by rfl
  have htarget : manifestDigest (.obj sampleTarget) = .ok (compactDigest (.obj sampleTarget)) := by
    rfl
  have haccepted : (do
      let closure ← core (constructed sampleMigration.toMigrationFields.postInit fun accepted =>
        CapabilityMigrationClosure.mk sampleMigration.toMigrationFields accepted)
      core (targetFields sampleTargetId sampleStrictCatalog sampleBinding closure).postInit) =
        .ok () := by
    apply bind_of_ok (congrArg core (constructed_of_ok sampleMigration.accepted))
    exact congrArg core sampleTargetFields_ok
  apply bind_of_ok hsource
  apply bind_of_ok hcatalog
  apply bind_of_ok hbinding
  apply bind_of_ok hid
  apply bind_of_ok hcompatible
  apply bind_of_ok hcompatible
  apply bind_of_ok hloss
  apply bind_of_ok (core_eq_ok.mpr hsourceDigest)
  apply bind_of_ok (core_eq_ok.mpr hprojection)
  apply bind_of_ok (a := ()) (refuseIf_eq_ok.mpr Bool.noConfusion)
  apply bind_of_ok (a := ()) (relabel_eq_ok.mpr haccepted)
  apply bind_of_ok (core_eq_ok.mpr htarget)
  apply bind_of_ok (a := ()) (refuseIf_eq_ok.mpr Bool.noConfusion)
  rfl

end BattleBelief.Qualification
