import BattleBelief.Library.HashChain
import BattleBelief.Records.EnvelopeIntegrity
import BattleBelief.Session.RecordCardinality

/-!
# What a Record Digest Commits to

The digest of a record is of its envelope, the payload in the envelope names the run context by its
digest, and the context names the battle and the scope of the run by theirs. So the one digest tells
all of them.

- `record_digest_commits`: equal digests are of equal records, in one battle of one scope
-/

namespace BattleBelief

open Python (Json)
open Runs HashChain

section Commitment

variable [Rfc8785]

/-- A record and the run context that it has been made in. -/
structure MeasuredRecord where
  context : MeasurementRunContext
  record : DecisionRecord
  made : record.runContextDigest = context.runContextDigest

/-- What is digested on the way from the scope of a run to a record. -/
inductive CommittedKind where
  | scope
  | context
  | envelope

/-- The documents that the digest of a record goes back to. -/
inductive MeasuredRecord.IsDocument (measured : MeasuredRecord) : CommittedKind → Json → Prop
  | scope : IsDocument measured .scope measured.context.runScope.toDict
  | context : IsDocument measured .context measured.context.payload.toDict
  | envelope {recordId : String} (h : measured.record.recordId = .ok recordId) :
      IsDocument measured .envelope (digestedEnvelope recordId measured.record.toPayload)

/-- **Commitment.** The digest of a record tells the record, the battle and the scope of its run, if no
two documents of one kind collide. -/
theorem record_digest_commits (first second : MeasuredRecord)
    (hfree : ∀ kind, CollisionFree manifestDigest fun document =>
      first.IsDocument kind document ∨ second.IsDocument kind document) {digest : String}
    (hfirst : first.record.recordDigest = .ok digest)
    (hsecond : second.record.recordDigest = .ok digest) :
    first.record = second.record ∧ first.context.payload = second.context.payload ∧
      first.context.runScope = second.context.runScope := by
  have hseparates : CollisionFree DecisionRecord.recordDigest fun record =>
      record = first.record ∨ record = second.record := by
    apply collisionFree_recordDigest
    apply (hfree .envelope).mono
    rintro document ⟨record, rfl | rfl, recordId, hid, rfl⟩
    · exact .inl (.envelope hid)
    · exact .inr (.envelope hid)
  have hrecord : first.record = second.record :=
    hseparates _ _ _ (.inl rfl) (.inr rfl) hfirst hsecond
  -- the payload names the context, and the context names its scope
  have hcontexts : second.context.runContextDigest = first.context.runContextDigest := by
    rw [← first.made, ← second.made, hrecord]
  have hpayload : first.context.payload = second.context.payload := by
    apply RunContextPayload.toDict_injective
    exact hfree .context _ _ _ (.inl .context) (.inr .context) first.context.payloadDigest
      (hcontexts ▸ second.context.payloadDigest)
  refine ⟨hrecord, hpayload, ?_⟩
  apply RunScopePayload.toDict_injective
  exact hfree .scope _ _ _ (.inl .scope) (.inr .scope) first.context.scopeDigest
    (hpayload ▸ second.context.scopeDigest)

end Commitment

/-- The fields of the record of a request to wait, in the first battle of the measurement run. -/
def waitFields : letI := compactCanonicalizer; RecordFields :=
  letI := compactCanonicalizer
  recordFields measurementContext .waitNoop 0 zeroDigest zeroDigest none none

theorem waitFields_content : firstFault waitFields.contentChecks = none := by decide +kernel

theorem zero_safe : 0 ≤ (0 : Int) ∧ 0 ≤ maxSafeInteger := by decide

theorem isDigest_zeroDigest : isDigest zeroDigest = true := by decide +kernel

def waitRecord : letI := compactCanonicalizer; MeasuredRecord :=
  letI := compactCanonicalizer
  { context := measurementContext
    record := ⟨waitFields, ⟨0, zeroDigest, zero_safe, isDigest_zeroDigest⟩, rfl, waitFields_content⟩
    made := rfl }

/-- The same record, in a context that is bound to another arm. -/
def otherArmRecord : letI := compactCanonicalizer; MeasuredRecord :=
  letI := compactCanonicalizer
  { context := { measurementContext with
      resolvedBinding := { measurementContext.resolvedBinding with
        armId := "random"
        arm := by decide } }
    record := waitRecord.record
    made := rfl }

/-- Both go back to the same documents. -/
theorem waitRecord_commits :
    letI := compactCanonicalizer
    ∃ digest, waitRecord.record.recordDigest = .ok digest ∧
      waitRecord.record = otherArmRecord.record ∧
      waitRecord.context.payload = otherArmRecord.context.payload ∧
      waitRecord.context.runScope = otherArmRecord.context.runScope := by
  let _ := compactCanonicalizer
  obtain ⟨recordId, digest, hid, hdigest, -⟩ :=
    waitRecord.record.exists_envelope compactCanonicalizer_dumpsPlain
  have hrecord : waitRecord.record.recordDigest = .ok digest := Runs.bind_of_ok hid hdigest
  have hsame : ∀ kind document, otherArmRecord.IsDocument kind document →
      waitRecord.IsDocument kind document := by
    intro kind document h
    cases h with
    | scope => exact .scope
    | context => exact .context
    | envelope hother => exact .envelope hother
  have hone : ∀ kind document other, waitRecord.IsDocument kind document →
      waitRecord.IsDocument kind other → document = other := by
    intro kind document other h h'
    cases h with
    | scope => cases h'; rfl
    | context => cases h'; rfl
    | envelope hfirst =>
      cases h' with
      | envelope hsecond => rw [Except.ok.inj (hfirst.symm.trans hsecond)]
  refine ⟨digest, hrecord, record_digest_commits waitRecord otherArmRecord ?_ hrecord hrecord⟩
  intro kind document other key h h' _ _
  exact hone kind document other (h.elim id (hsame kind document)) (h'.elim id (hsame kind other))

end BattleBelief
