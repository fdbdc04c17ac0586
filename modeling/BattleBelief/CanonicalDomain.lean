import BattleBelief.Canonicalization
import BattleBelief.Library.PythonEquality

/-!
# What Has a Canonical Form

RFC 8785 has no form for an integer that a double does not represent exactly, and none for a float
that is not finite. The canonicalizer refuses these, wherever they stand in a document.

- `inDomain`: documents without such numbers
- `DumpsDomain`: the canonicalizer has bytes for these documents and no others
-/

namespace Python

/-- The number has a canonical form. -/
def Number.isFinite : Number → Bool
  | .finite _ => true
  | _ => false

namespace Json

mutual

/-- Without integers that a double does not represent exactly, and with finite floats. -/
def inDomain : Json → Bool
  | null | bool _ | str _ => true
  | int value => -9007199254740991 ≤ value && value ≤ 9007199254740991
  | float text => (Number.ofFloatText text).isFinite
  | arr items => itemsInDomain items
  | obj members => membersInDomain members

def itemsInDomain : List Json → Bool
  | [] => true
  | item :: rest => inDomain item && itemsInDomain rest

def membersInDomain : List (String × Json) → Bool
  | [] => true
  | (_, value) :: rest => inDomain value && membersInDomain rest

end

end Json

end Python

namespace BattleBelief

/-- The canonicalizer has bytes for what has a canonical form, and for nothing else. -/
def DumpsDomain [Rfc8785] : Prop :=
  ∀ value : Python.Json, (∃ bytes, Rfc8785.dumps value = .ok bytes) ↔ value.inDomain = true

/-- The compact canonicalizer, where it refuses what has no canonical form. -/
@[reducible] def domainCanonicalizer : Rfc8785 :=
  ⟨fun value =>
    if value.inDomain then .ok (Python.encodeUtf8 value.dumps)
    else .error (.valueError "number exceeds the canonical domain")⟩

theorem domainCanonicalizer_dumpsDomain : letI := domainCanonicalizer
    DumpsDomain := by
  intro value
  by_cases h : value.inDomain = true
  · simp [Rfc8785.dumps, h]
  · simp [Rfc8785.dumps, h]

section Digests

variable [Rfc8785]

/-- What has a canonical form has a digest, and nothing else has. -/
theorem DumpsDomain.digest_iff (h : DumpsDomain) {value : Python.Json} :
    (∃ digest, manifestDigest value = .ok digest) ↔ value.inDomain = true := by
  rw [← h value]
  cases hbytes : Rfc8785.dumps value with
  | error error => simp [manifestDigest, hbytes, Except.map]
  | ok bytes => simp [manifestDigest, hbytes, Except.map]

end Digests

end BattleBelief
