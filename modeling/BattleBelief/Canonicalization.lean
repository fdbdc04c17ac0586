import BattleBelief.Errors
import BattleBelief.Library.PythonJson
import BattleBelief.Library.Sha256

/-!
# Canonicalization

Digests of JSON values, in the versioned form `sha256:` with 64 hexadecimal digits. The
canonicalizer of RFC 8785 comes from a package, and so is a parameter.
-/

namespace BattleBelief

/-- `_MAX_SAFE_INTEGER`: the largest integer that a document may hold. -/
def maxSafeInteger : Int := 9007199254740991

/-- `rfc8785.dumps`: the canonical bytes of a value, or the error for a value that has none. -/
class Rfc8785 where
  dumps : Python.Json → Except PyException (List Nat)

/-- Where all text is ASCII and all numbers are integers, the canonical form is the compact one with
sorted keys. -/
@[reducible] def compactCanonicalizer : Rfc8785 := ⟨fun value => .ok (Python.encodeUtf8 value.dumps)⟩

/-- The canonicalizer has bytes for every plain value: without floats, and with integers that a
double represents exactly. -/
def DumpsPlain [Rfc8785] : Prop :=
  ∀ value : Python.Json, value.isPlain = true → ∃ bytes, Rfc8785.dumps value = .ok bytes

theorem compactCanonicalizer_dumpsPlain :
    letI := compactCanonicalizer
    DumpsPlain := by
  intro value _
  exact ⟨_, rfl⟩

/-- `hashlib.sha256(message).hexdigest()`, with the prefix of the repository's digests. -/
def sha256Digest (message : List Nat) : String :=
  "sha256:" ++ String.ofList (Sha256.hexdigest message)

/-- `^sha256:[0-9a-f]{64}$` -/
def isDigest (text : String) : Bool :=
  Python.startsWith text "sha256:" && text.toList.length = 71 &&
    (text.toList.drop 7).all fun c => c ∈ Sha256.hexAlphabet

/-- Every computed digest has the form that the records ask for. -/
theorem isDigest_sha256Digest (message : List Nat) : isDigest (sha256Digest message) = true := by
  have hchars : (sha256Digest message).toList = "sha256:".toList ++ Sha256.hexdigest message := by
    simp only [sha256Digest, String.toList_append, String.toList_ofList]
  have hstart : Python.startsWith (sha256Digest message) "sha256:" = true := by
    rw [Python.startsWith, hchars]
    exact List.isPrefixOf_iff_prefix.mpr (List.prefix_append _ _)
  have hlength : (sha256Digest message).toList.length = 71 := by
    rw [hchars, List.length_append, Sha256.hexdigest_length]
    rfl
  have hhex : ((sha256Digest message).toList.drop 7).all fun c => c ∈ Sha256.hexAlphabet := by
    rw [hchars, List.all_eq_true]
    intro c hc
    exact decide_eq_true (Sha256.hexdigest_isHex message c hc)
  rw [isDigest, hstart, decide_eq_true hlength, hhex]
  rfl

section Database

variable [Rfc8785]

/-- `manifest_digest`. -/
def manifestDigest (value : Python.Json) : Except PyException String :=
  (Rfc8785.dumps value).map sha256Digest

theorem isDigest_of_manifestDigest {value : Python.Json} {digest : String}
    (h : manifestDigest value = .ok digest) : isDigest digest = true := by
  cases hbytes : Rfc8785.dumps value with
  | error err => simp [manifestDigest, hbytes, Except.map] at h
  | ok bytes =>
    simp only [manifestDigest, hbytes, Except.map, Except.ok.injEq] at h
    exact h ▸ isDigest_sha256Digest bytes

/-- Plain values have digests. -/
theorem DumpsPlain.exists_digest (h : DumpsPlain) {value : Python.Json} (hplain : value.isPlain = true) :
    ∃ digest, manifestDigest value = .ok digest := by
  obtain ⟨bytes, hbytes⟩ := h value hplain
  exact ⟨sha256Digest bytes, by rw [manifestDigest, hbytes]; rfl⟩

end Database

end BattleBelief
