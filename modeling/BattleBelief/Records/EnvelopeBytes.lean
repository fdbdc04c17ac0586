import BattleBelief.Library.JsonLines
import BattleBelief.Records.RecordEnvelope

/-!
# Envelope Bytes

A decision record in the form in which it is written down: the canonical bytes of its envelope. A
record has no floats and no unsafe integers, so that there is an envelope for each of them, and the
envelope fits on one line.

- `exists_envelopeBytes`: every record has its bytes, without a line feed
-/

namespace BattleBelief

open Python (Json)

/-- The line feed. -/
def lineFeed : Nat := 10

/-- The canonical form of a plain value has no line feed: in a text it is escaped, and there is no
white space between tokens. -/
def DumpsInline [Rfc8785] : Prop :=
  ∀ (value : Json) (bytes : List Nat), value.isPlain = true → Rfc8785.dumps value = .ok bytes →
    lineFeed ∉ bytes

theorem compactCanonicalizer_dumpsInline :
    letI := compactCanonicalizer
    DumpsInline := by
  intro value bytes hplain hbytes
  obtain rfl := Except.ok.inj hbytes
  exact Json.lineFeed_notMem_bytes hplain

namespace DecisionRecord

/-! ## §1 Plain documents -/

theorem isPlain_slot {value : Int} (hlow : 1 ≤ value) (hhigh : value ≤ 6) :
    (Json.int value).isPlain = true :=
  inDomain_slot hlow hhigh

theorem isPlain_optionalStr (value : Option String) : (optionalStr value).isPlain = true := by
  cases value <;> rfl

theorem isPlain_submission (submission : BattleSubmission) :
    (projectBattleSubmission submission).isPlain = true := by
  have hslot : (optionalInt submission.slot).isPlain = true := by
    cases hvalue : submission.slot with
    | none => rfl
    | some value => exact isPlain_slot (slot_bounds hvalue).1 (slot_bounds hvalue).2
  have horder : (integers submission.teamOrder).isPlain = true := by
    apply Json.isPlain_arr.mpr
    intro item hitem
    obtain ⟨value, hvalue, rfl⟩ := List.mem_map.mp hitem
    obtain ⟨hlow, hhigh⟩ := teamOrder_bounds submission value hvalue
    exact isPlain_slot hlow hhigh
  simp only [projectBattleSubmission, Json.isPlain, Json.membersPlain, hslot, horder,
    isPlain_optionalStr, Bool.and_self]

theorem isPlain_identity (identity : PublicRequestIdentity) : identity.project.isPlain = true :=
  inDomain_identity identity

variable (record : DecisionRecord)

theorem isPlain_payload : record.toPayload.isPlain = true := by
  have hselected : (optionalJson projectBattleSubmission record.selectedSubmission).isPlain = true := by
    cases record.selectedSubmission with
    | none => rfl
    | some submission => exact isPlain_submission submission
  have hdigests : record.runtimeAndContractDigests.toDict.isPlain = true := rfl
  have hversion : (Json.int record.recordSchemaVersion).isPlain = true := record.inDomain_version
  have hindex : (Json.int record.decisionIndex).isPlain = true := record.inDomain_index
  simp only [Json.isPlain] at hversion hindex
  simp only [toPayload, Json.isPlain, Json.membersPlain, hversion, hindex, hselected, hdigests,
    isPlain_identity, isPlain_optionalStr, Bool.and_self]

/-! ## §2 Envelopes -/

section Digests

variable [Rfc8785]

/-- `to_envelope`. -/
def toEnvelope : Except PyException Json := do
  let recordId ← record.recordId
  let recordDigest ← record.recordDigest
  pure (.obj [("record_id", .str recordId), ("record_digest", .str recordDigest),
    ("payload", record.toPayload)])

/-- `canonical_envelope_bytes`. -/
def canonicalEnvelopeBytes : Except PyException (List Nat) := do
  Rfc8785.dumps (← record.toEnvelope)

theorem exists_recordId (hdumps : DumpsPlain) : ∃ recordId, record.recordId = .ok recordId := by
  have hindex : (Json.int record.decisionIndex).isPlain = true := record.inDomain_index
  have hplain : (Json.obj [("run_context_digest", .str record.runContextDigest),
      ("battle_id_digest", .str record.battleIdDigest),
      ("decision_index", .int record.decisionIndex),
      ("request_identity", record.requestIdentity.project)]).isPlain = true := by
    simp only [Json.isPlain] at hindex
    simp only [Json.isPlain, Json.membersPlain, hindex, isPlain_identity, Bool.and_self]
  obtain ⟨recordId, hrecordId⟩ := hdumps.exists_digest hplain
  refine ⟨recordId, ?_⟩
  have hsafe : requireSafeInteger "decision_index" record.decisionIndex = .ok () := by
    rw [requireSafeInteger, if_pos record.index_bounds]
  apply Runs.bind_of_ok hsafe
  exact hrecordId

/-- Every record has an envelope. -/
theorem exists_envelope (hdumps : DumpsPlain) :
    ∃ recordId recordDigest, record.recordId = .ok recordId ∧
      digestRecordEnvelope recordId record.toPayload = .ok recordDigest ∧
      record.toEnvelope = .ok (.obj [("record_id", .str recordId),
        ("record_digest", .str recordDigest), ("payload", record.toPayload)]) := by
  obtain ⟨recordId, hrecordId⟩ := record.exists_recordId hdumps
  have hplain : (Json.obj [("record_id", .str recordId), ("payload", record.toPayload)]).isPlain =
      true := by
    simp only [Json.isPlain, Json.membersPlain, record.isPlain_payload, Bool.and_self]
  obtain ⟨recordDigest, hdigest⟩ := hdumps.exists_digest hplain
  refine ⟨recordId, recordDigest, hrecordId, hdigest, ?_⟩
  have hrecordDigest : record.recordDigest = .ok recordDigest := Runs.bind_of_ok hrecordId hdigest
  apply Runs.bind_of_ok hrecordId
  apply Runs.bind_of_ok hrecordDigest
  rfl

/-- Every record has its bytes, and they are on one line. -/
theorem exists_envelopeBytes (hdumps : DumpsPlain) (hinline : DumpsInline) :
    ∃ bytes, record.canonicalEnvelopeBytes = .ok bytes ∧ lineFeed ∉ bytes := by
  obtain ⟨recordId, recordDigest, -, -, henvelope⟩ := record.exists_envelope hdumps
  have hplain : (Json.obj [("record_id", .str recordId), ("record_digest", .str recordDigest),
      ("payload", record.toPayload)]).isPlain = true := by
    simp only [Json.isPlain, Json.membersPlain, record.isPlain_payload, Bool.and_self]
  obtain ⟨bytes, hbytes⟩ := hdumps _ hplain
  refine ⟨bytes, ?_, hinline _ bytes hplain hbytes⟩
  apply Runs.bind_of_ok henvelope
  exact hbytes

end Digests

end DecisionRecord

end BattleBelief
