import BattleBelief.Library.PythonText
import Mathlib.Algebra.Order.Field.Rat
import Mathlib.Data.Rat.Floor

/-!
# Decimals and Floats in Python

Finite `decimal.Decimal` values with the arithmetic of the default context: results are rounded to 28
significant digits, half to even. `Fraction` is `ℚ`.

Finite doubles are the rationals that they are: an operation is the exact result, rounded to the
nearest double, half to even. `none` is a result beyond the largest double.
-/

namespace Python

/-- A finite decimal: `coefficient * 10 ^ exponent`. -/
structure Decimal where
  coefficient : Int
  exponent : Int
  deriving DecidableEq, Repr

namespace Decimal

/-- `getcontext().prec` -/
def precision : Nat := 28

def zero : Decimal := ⟨0, 0⟩

def ofInt (value : Int) : Decimal := ⟨value, 0⟩

/-- `Fraction(value)` -/
def toRat (value : Decimal) : ℚ := value.coefficient * (10 : ℚ) ^ value.exponent

/-- A coefficient without its last `digits` digits, rounded half to even. -/
def dropDigits (coefficient digits : Nat) : Nat :=
  let quotient := coefficient / 10 ^ digits
  let double := 2 * (coefficient % 10 ^ digits)
  if double > 10 ^ digits || (double = 10 ^ digits && quotient % 2 = 1) then quotient + 1
  else quotient

/-- The digits that a coefficient has beyond the precision. -/
def excessDigits (coefficient : Nat) : Nat := (Nat.toDigits 10 coefficient).length - precision

/-- Rounds to the precision of the context. -/
def round (value : Decimal) : Decimal :=
  let excess := excessDigits value.coefficient.natAbs
  ⟨value.coefficient.sign * dropDigits value.coefficient.natAbs excess, value.exponent + excess⟩

/-- `first + second` -/
def add (first second : Decimal) : Decimal :=
  let exponent := min first.exponent second.exponent
  round ⟨first.coefficient * 10 ^ (first.exponent - exponent).toNat +
    second.coefficient * 10 ^ (second.exponent - exponent).toNat, exponent⟩

/-- `-value` under an addition that rounds. -/
def neg (value : Decimal) : Decimal := ⟨-value.coefficient, value.exponent⟩

/-- `sum(values, Decimal(0))` -/
def sum (values : List Decimal) : Decimal := values.foldl add zero

/-! ## §1 Texts -/

/-- The digits of a text as a number. -/
def digitsValue (chars : List Char) : Option Nat :=
  if chars.isEmpty || !chars.all Char.isDigit then none
  else some (chars.foldl (fun value c => 10 * value + (c.toNat - '0'.toNat)) 0)

/-- A signed decimal integer. -/
def signedValue (text : String) : Option Int :=
  match text.toList with
  | '-' :: digits => (digitsValue digits).map fun value => -(value : Int)
  | '+' :: digits => (digitsValue digits).map fun value => (value : Int)
  | digits => (digitsValue digits).map fun value => (value : Int)

/-- A decimal without an exponent, of a text without a sign. -/
def unsignedMantissa (text : String) : Option (Nat × Nat) :=
  match splitOnce text "." with
  | none => (digitsValue text.toList).map fun value => (value, 0)
  | some (whole, fraction) =>
      (digitsValue (whole.toList ++ fraction.toList)).map fun value => (value, fraction.length)

/-- `Decimal(text)`, of the `repr` of a finite float. -/
def ofText (text : String) : Option Decimal := do
  let (negative, unsigned) :=
    if startsWith text "-" then (true, dropChars text 1) else (false, text)
  let (mantissa, exponent) ← match splitOnce unsigned "e" with
    | none => some (unsigned, 0)
    | some (mantissa, exponent) => (signedValue exponent).map fun exponent => (mantissa, exponent)
  let (coefficient, places) ← unsignedMantissa mantissa
  some ⟨if negative then -(coefficient : Int) else coefficient, exponent - places⟩

example : (ofText "3.125").map toRat = some (25 / 8) := by decide +kernel

end Decimal

/-! ## §2 Doubles -/

namespace Float

/-- `round(value)` -/
def roundHalfEven (value : ℚ) : Int :=
  let rest := value - ⌊value⌋
  if rest < 1 / 2 || (rest = 1 / 2 && ⌊value⌋ % 2 = 0) then ⌊value⌋ else ⌊value⌋ + 1

/-- An integer is what a value rounds to if it is nearer than any other, or as near and even. -/
theorem roundHalfEven_eq_iff {value : ℚ} {n : Int} :
    roundHalfEven value = n ↔ |value - n| < 1 / 2 ∨ |value - n| = 1 / 2 ∧ n % 2 = 0 := by
  have hfloor : (⌊value⌋ : ℚ) ≤ value := Int.floor_le value
  have hceil : value < ⌊value⌋ + 1 := Int.lt_floor_add_one value
  -- only the two neighbours of the value are near enough
  have hnear : |value - n| ≤ 1 / 2 → n = ⌊value⌋ ∨ n = ⌊value⌋ + 1 := by
    intro h
    obtain ⟨hlow, hhigh⟩ := abs_le.mp h
    have hleast : (⌊value⌋ : ℚ) - 1 < n := by linarith
    have hmost : (n : ℚ) < ⌊value⌋ + 2 := by linarith
    have hleast' : ⌊value⌋ - 1 < n := by exact_mod_cast hleast
    have hmost' : n < ⌊value⌋ + 2 := by exact_mod_cast hmost
    omega
  have hdown : |value - ⌊value⌋| = value - ⌊value⌋ := abs_of_nonneg (by linarith)
  have hup : |value - (⌊value⌋ + 1 : Int)| = 1 - (value - ⌊value⌋) := by
    rw [abs_of_neg (by push_cast; linarith)]
    push_cast
    ring
  unfold roundHalfEven
  simp only [Bool.or_eq_true, Bool.and_eq_true, decide_eq_true_eq]
  split_ifs with h
  · constructor
    · rintro rfl
      rw [hdown]
      exact h
    · intro hn
      rcases hnear (hn.elim le_of_lt fun heq => heq.1.le) with rfl | rfl
      · rfl
      · rw [hup] at hn
        rcases h with h | ⟨h, heven⟩ <;> rcases hn with hn | ⟨hn, heven'⟩
        · linarith
        · linarith
        · linarith
        · omega
  · rw [not_or, not_lt] at h
    obtain ⟨hhalf, hodd⟩ := h
    constructor
    · rintro rfl
      rw [hup]
      rcases hhalf.lt_or_eq with hlt | heq
      · left
        linarith
      · right
        have hnotEven : ¬⌊value⌋ % 2 = 0 := fun heven => hodd ⟨heq.symm, heven⟩
        exact ⟨by linarith, by omega⟩
    · intro hn
      rcases hnear (hn.elim le_of_lt fun heq => heq.1.le) with rfl | rfl
      · rw [hdown] at hn
        rcases hn with hn | hn
        · linarith
        · exact absurd hn hodd
      · rfl

/-- The exponent of the last of the 53 binary digits that a double keeps of a value. -/
def lastExponent (value : ℚ) : Int :=
  -- the quotient of two numbers of so many digits has that exponent or the one below
  let estimate : Int := (Nat.log2 value.num.natAbs : Int) - Nat.log2 value.den
  let leading := if |value| < (2 : ℚ) ^ estimate then estimate - 1 else estimate
  max (leading - 52) (-1074)

/-- The double nearest to a value. -/
def ofRat (value : ℚ) : Option ℚ :=
  let unit : ℚ := 2 ^ lastExponent value
  let rounded := roundHalfEven (value / unit) * unit
  if |rounded| < 2 ^ 1024 then some rounded else none

/-- `round((numerator / denominator) * scale)`, of integers. -/
def scaledQuotient (numerator denominator scale : Int) : Option Int :=
  if denominator = 0 then none
  else do
    let quotient ← ofRat (numerator / denominator)
    let factor ← ofRat scale
    let product ← ofRat (quotient * factor)
    some (roundHalfEven product)

-- an eighth of 100 is 12.5, and a third of 100 is rounded twice before
example : scaledQuotient 1 8 100 = some 12 ∧ scaledQuotient 1 3 100 = some 33 ∧
    ofRat (1 / 3) = some (6004799503160661 / 2 ^ 54) := by decide +kernel

end Float

end Python
