import BattleBelief.Library.PythonDecimal
import BattleBelief.Library.PythonJson

/-!
# Equality of JSON Values in Python

Integers, floats and booleans are numbers, and equal where they stand for the same one. Lists are
equal item by item, and objects key by key, whatever the order of their keys.
-/

namespace Python

open Json

/-! ## §1 Numbers -/

/-- What a number stands for. -/
inductive Number where
  | finite (value : ℚ)
  | infinite (positive : Bool)
  | nan
  deriving DecidableEq

namespace Number

/-- `first == second` -/
def eq : Number → Number → Bool
  | finite first, finite second => first = second
  | infinite first, infinite second => first = second
  | _, _ => false

/-- `first < second` -/
def lt : Number → Number → Bool
  | finite first, finite second => first < second
  | finite _, infinite positive => positive
  | infinite positive, finite _ => !positive
  | infinite first, infinite second => !first && second
  | _, _ => false

/-- The double that a `repr` names. -/
def ofFloatText (text : String) : Number :=
  if text = "nan" then nan
  else if text = "inf" then infinite true
  else if text = "-inf" then infinite false
  else
    match Decimal.ofText text with
    | none => nan
    | some decimal =>
        match Float.ofRat decimal.toRat with
        | some value => finite value
        | none => infinite (0 < decimal.coefficient)

theorem eq_finite {number : Number} {value : ℚ} :
    eq number (finite value) = true ↔ number = finite value := by
  cases number with
  | finite other => simp [eq]
  | infinite positive => simp [eq]
  | nan => simp [eq]

end Number

/-- The number that a value is. -/
def Json.number? : Json → Option Number
  | int value => some (.finite value)
  | bool value => some (.finite (if value then 1 else 0))
  | float text => some (Number.ofFloatText text)
  | _ => none

/-! ## §2 Equality -/

namespace Json

/-- Two values are equal numbers. -/
def numbersEq : Option Number → Option Number → Bool
  | some first, some second => first.eq second
  | _, _ => false

theorem numbersEq_some {first : Option Number} {number : Number} :
    numbersEq first (some number) = true ↔
      ∃ found, first = some found ∧ found.eq number = true := by
  cases first with
  | none => simp [numbersEq]
  | some found => simp [numbersEq]

/-- `first == second`, of two values that are neither lists nor objects. -/
def scalarEq (first second : Json) : Bool :=
  match first, second with
  | null, null => true
  | str first, str second => first = second
  | first, second => numbersEq (number? first) (number? second)

mutual

/-- `first == second` -/
def pyEq : Json → Json → Bool
  | arr items, arr others => itemsEq items others
  | obj members, obj others => members.length = others.length && membersEq members others
  | arr _, _ | obj _, _ => false
  | first, second => scalarEq first second

def itemsEq : List Json → List Json → Bool
  | [], [] => true
  | item :: rest, other :: others => pyEq item other && itemsEq rest others
  | _, _ => false

/-- Every member is in the other object, with an equal value. -/
def membersEq : List (String × Json) → List (String × Json) → Bool
  | [], _ => true
  | (key, value) :: rest, others =>
      (match get? others key with
        | some other => pyEq value other
        | none => false) && membersEq rest others

end

/-- `value in items` -/
def isIn (value : Json) (items : List Json) : Bool := items.any fun item => pyEq item value

/-- A list and an object have no hash, and no set takes them. -/
def hashable : Json → Bool
  | arr _ | obj _ => false
  | _ => true

/-- Only a text equals a text. -/
theorem pyEq_str {value : Json} {text : String} :
    pyEq value (str text) = true ↔ value = str text := by
  cases value with
  | str other => simp [pyEq, scalarEq]
  | arr items => simp [pyEq]
  | obj members => simp [pyEq]
  | null => simp [pyEq, scalarEq, number?, numbersEq]
  | bool value => simp [pyEq, scalarEq, number?, numbersEq]
  | int value => simp [pyEq, scalarEq, number?, numbersEq]
  | float text => simp [pyEq, scalarEq, number?, numbersEq]

theorem pyEq_str_left {value : Json} {text : String} :
    pyEq (str text) value = true ↔ value = str text := by
  cases value with
  | str other => simp [pyEq, scalarEq, eq_comm]
  | arr items => simp [pyEq, scalarEq, number?, numbersEq]
  | obj members => simp [pyEq, scalarEq, number?, numbersEq]
  | null => simp [pyEq, scalarEq, number?, numbersEq]
  | bool value => simp [pyEq, scalarEq, number?, numbersEq]
  | int value => simp [pyEq, scalarEq, number?, numbersEq]
  | float text => simp [pyEq, scalarEq, number?, numbersEq]

/-- What equals a number is a number. -/
theorem pyEq_of_number {value other : Json} {number : Number} (h : number? other = some number) :
    pyEq value other = true ↔ ∃ found, number? value = some found ∧ found.eq number = true := by
  have hscalar : scalarEq value other = true ↔
      ∃ found, number? value = some found ∧ found.eq number = true := by
    cases other with
    | null => cases h
    | str text => cases h
    | arr items => cases h
    | obj members => cases h
    | int other => cases value <;> simp only [scalarEq, h, numbersEq_some]
    | bool other => cases value <;> simp only [scalarEq, h, numbersEq_some]
    | float text => cases value <;> simp only [scalarEq, h, numbersEq_some]
  rw [← hscalar]
  cases value with
  | arr items => cases other <;> simp_all [pyEq, scalarEq, number?, numbersEq]
  | obj members => cases other <;> simp_all [pyEq, scalarEq, number?, numbersEq]
  | null => simp [pyEq]
  | str text => simp [pyEq]
  | int value => simp [pyEq]
  | bool value => simp [pyEq]
  | float text => simp [pyEq]

/-- What equals an integer is a number, and that one. -/
theorem pyEq_int {value : Json} {number : Int} :
    pyEq value (int number) = true ↔ number? value = some (.finite number) := by
  rw [pyEq_of_number (show number? (int number) = some (.finite number) from rfl)]
  constructor
  · rintro ⟨found, hfound, heq⟩
    rw [hfound, Number.eq_finite.mp heq]
  · intro h
    exact ⟨_, h, Number.eq_finite.mpr rfl⟩

theorem pyEq_null {value : Json} : pyEq value null = true ↔ value = null := by
  cases value with
  | null => simp [pyEq, scalarEq]
  | arr items => simp [pyEq]
  | obj members => simp [pyEq]
  | str text => simp [pyEq, scalarEq, number?, numbersEq]
  | int other => simp [pyEq, scalarEq, number?, numbersEq]
  | bool other => simp [pyEq, scalarEq, number?, numbersEq]
  | float text => simp [pyEq, scalarEq, number?, numbersEq]

theorem itemsEq_iff {items others : List Json} :
    itemsEq items others = true ↔
      List.Forall₂ (fun item other => pyEq item other = true) items others := by
  induction items generalizing others with
  | nil =>
    cases others with
    | nil => simp [itemsEq]
    | cons other others => simp [itemsEq]
  | cons item rest ih =>
    cases others with
    | nil => simp [itemsEq]
    | cons other others => simp [itemsEq, ih]

/-- A text is among values exactly where it is one of them. -/
theorem str_isIn {text : String} {items : List Json} :
    isIn (str text) items = true ↔ str text ∈ items := by
  rw [isIn, List.any_eq_true]
  constructor
  · rintro ⟨item, hmem, heq⟩
    rwa [pyEq_str.mp heq] at hmem
  · intro hmem
    exact ⟨str text, hmem, pyEq_str.mpr rfl⟩

end Json

end Python
