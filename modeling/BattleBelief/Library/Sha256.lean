import Mathlib.Data.List.Basic

/-!
# SHA-256

The hash function of FIPS 180-4 on byte lists, and its lower-case hexadecimal form. Words are
natural numbers below `2 ^ 32`, so that the kernel computes on them directly.

- `hexdigest_length`, `hexdigest_isHex`: a digest is 64 lower-case hexadecimal digits
-/

namespace Sha256

/-! ## §1 Words -/

/-- A word, reduced modulo `2 ^ 32`. -/
def word (n : Nat) : Nat := n % 4294967296

/-- Rotates a word to the right. -/
def rotr (k x : Nat) : Nat := (x >>> k) ||| word (x <<< (32 - k))

def bigSigma0 (x : Nat) : Nat := rotr 2 x ^^^ rotr 13 x ^^^ rotr 22 x
def bigSigma1 (x : Nat) : Nat := rotr 6 x ^^^ rotr 11 x ^^^ rotr 25 x
def smallSigma0 (x : Nat) : Nat := rotr 7 x ^^^ rotr 18 x ^^^ (x >>> 3)
def smallSigma1 (x : Nat) : Nat := rotr 17 x ^^^ rotr 19 x ^^^ (x >>> 10)

def choice (x y z : Nat) : Nat := (x &&& y) ^^^ ((4294967295 ^^^ x) &&& z)
def majority (x y z : Nat) : Nat := (x &&& y) ^^^ (x &&& z) ^^^ (y &&& z)

/-- The round constants. -/
def roundConstants : List Nat :=
  [0x428a2f98, 0x71374491, 0xb5c0fbcf, 0xe9b5dba5, 0x3956c25b, 0x59f111f1, 0x923f82a4, 0xab1c5ed5,
    0xd807aa98, 0x12835b01, 0x243185be, 0x550c7dc3, 0x72be5d74, 0x80deb1fe, 0x9bdc06a7, 0xc19bf174,
    0xe49b69c1, 0xefbe4786, 0x0fc19dc6, 0x240ca1cc, 0x2de92c6f, 0x4a7484aa, 0x5cb0a9dc, 0x76f988da,
    0x983e5152, 0xa831c66d, 0xb00327c8, 0xbf597fc7, 0xc6e00bf3, 0xd5a79147, 0x06ca6351, 0x14292967,
    0x27b70a85, 0x2e1b2138, 0x4d2c6dfc, 0x53380d13, 0x650a7354, 0x766a0abb, 0x81c2c92e, 0x92722c85,
    0xa2bfe8a1, 0xa81a664b, 0xc24b8b70, 0xc76c51a3, 0xd192e819, 0xd6990624, 0xf40e3585, 0x106aa070,
    0x19a4c116, 0x1e376c08, 0x2748774c, 0x34b0bcb5, 0x391c0cb3, 0x4ed8aa4a, 0x5b9cca4f, 0x682e6ff3,
    0x748f82ee, 0x78a5636f, 0x84c87814, 0x8cc70208, 0x90befffa, 0xa4506ceb, 0xbef9a3f7, 0xc67178f2]

/-! ## §2 Compression -/

/-- The eight working variables. -/
structure Working where
  a : Nat
  b : Nat
  c : Nat
  d : Nat
  e : Nat
  f : Nat
  g : Nat
  h : Nat

def initial : Working :=
  ⟨0x6a09e667, 0xbb67ae85, 0x3c6ef372, 0xa54ff53a, 0x510e527f, 0x9b05688c, 0x1f83d9ab, 0x5be0cd19⟩

/-- One round, for the round constant `k` and the schedule word `w`. -/
def Working.round (v : Working) (k w : Nat) : Working :=
  let t1 := v.h + bigSigma1 v.e + choice v.e v.f v.g + k + w
  let t2 := bigSigma0 v.a + majority v.a v.b v.c
  ⟨word (t1 + t2), v.a, v.b, v.c, word (v.d + t1), v.e, v.f, v.g⟩

def Working.add (v w : Working) : Working :=
  ⟨word (v.a + w.a), word (v.b + w.b), word (v.c + w.c), word (v.d + w.d), word (v.e + w.e),
    word (v.f + w.f), word (v.g + w.g), word (v.h + w.h)⟩

/-- Extends the last 16 words of a schedule, newest first, by one word. -/
def nextWord (recent : List Nat) : Nat :=
  word (smallSigma1 (recent.getD 1 0) + recent.getD 6 0 + smallSigma0 (recent.getD 14 0) +
    recent.getD 15 0)

/-- Runs the rounds that are left. `schedule` has the words ahead and `recent` the 16 words that
the next new word is made from, newest first. -/
def rounds : List Nat → List Nat → List Nat → Working → Working
  | [], _, _, v => v
  | k :: constants, w :: schedule, recent, v => rounds constants schedule recent (v.round k w)
  | k :: constants, [], recent, v =>
      let w := nextWord recent
      rounds constants [] (w :: recent.take 15) (v.round k w)

/-- Absorbs one block of 16 words. -/
def compress (v : Working) (block : List Nat) : Working :=
  v.add (rounds roundConstants block block.reverse v)

/-! ## §3 Messages -/

/-- The bytes of a message with its padding: a one bit, zeros, and the length in bits. -/
def pad (message : List Nat) : List Nat :=
  let length := message.length * 8
  message ++ 128 :: List.replicate ((119 - message.length % 64) % 64) 0 ++
    [56, 48, 40, 32, 24, 16, 8, 0].map fun shift => (length >>> shift) % 256

/-- Reads big-endian words; a padded message has no bytes left over. -/
def words : List Nat → List Nat
  | b0 :: b1 :: b2 :: b3 :: rest =>
      (((b0 * 256 + b1) * 256 + b2) * 256 + b3) :: words rest
  | _ => []

/-- Absorbs `count` blocks. -/
def absorb : Nat → List Nat → Working → Working
  | 0, _, v => v
  | count + 1, message, v => absorb count (message.drop 16) (compress v (message.take 16))

def hash (message : List Nat) : Working :=
  let padded := words (pad message)
  absorb (padded.length / 16) padded initial

/-! ## §4 Hexadecimal form -/

def hexAlphabet : List Char :=
  ['0', '1', '2', '3', '4', '5', '6', '7', '8', '9', 'a', 'b', 'c', 'd', 'e', 'f']

/-- The hexadecimal digit of a number below 16. -/
def hexDigit (n : Nat) : Char := hexAlphabet.getD n '0'

/-- The eight digits of a word. -/
def hexWord (x : Nat) : List Char :=
  [28, 24, 20, 16, 12, 8, 4, 0].map fun shift => hexDigit ((x >>> shift) % 16)

/-- The digest of a byte list in lower-case hexadecimal. -/
def hexdigest (message : List Nat) : List Char :=
  let v := hash message
  [v.a, v.b, v.c, v.d, v.e, v.f, v.g, v.h].flatMap hexWord

theorem hexDigit_mem (n : Nat) : hexDigit n ∈ hexAlphabet := by
  unfold hexDigit
  rw [List.getD_eq_getElem?_getD]
  cases hget : hexAlphabet[n]? with
  | none => decide
  | some c => exact List.mem_of_getElem? hget

theorem hexdigest_length (message : List Nat) : (hexdigest message).length = 64 := by
  simp [hexdigest, hexWord]

theorem hexdigest_isHex (message : List Nat) : ∀ c ∈ hexdigest message, c ∈ hexAlphabet := by
  intro c hc
  obtain ⟨x, -, hx⟩ := List.mem_flatMap.mp hc
  obtain ⟨shift, -, rfl⟩ := List.mem_map.mp hx
  exact hexDigit_mem _

example : String.ofList (hexdigest [97, 98, 99]) =
    "ba7816bf8f01cfea414140de5dae2223b00361a396177a9cb410ff61f20015ad" := by
  decide +kernel

end Sha256
