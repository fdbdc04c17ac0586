import BattleBelief.Library.PythonEquality
import BattleBelief.Library.Runs

/-!
# Values of an Unknown Kind

A value may be asked for one of its items, for all of them or for its length, and a call may take
it for its keyword arguments. Where the value is of a kind that does not do this, the language
raises, with a message of its own.

- `subscript`, `len`, `iterate`: one value
- `keywords`: the arguments of a call
-/

namespace Python

open Json (get? hasKey)

/-- What a value of the wrong kind or without the right key raises. -/
inductive ObjectError where
  | keyError (key : String)
  | typeError (text : String)

namespace Json

/-- `type(value).__name__` -/
def typeName : Json → String
  | null => "NoneType"
  | bool _ => "bool"
  | int _ => "int"
  | float _ => "float"
  | str _ => "str"
  | arr _ => "list"
  | obj _ => "dict"

/-- `bool(value)` -/
def truthy : Json → Bool
  | null => false
  | bool value => value
  | int value => value ≠ 0
  | float text => !(Number.ofFloatText text).eq (.finite 0)
  | str text => text ≠ ""
  | arr items => !items.isEmpty
  | obj members => !members.isEmpty

/-- `value[key]` -/
def subscript (value : Json) (key : String) : Except ObjectError Json :=
  match value with
  | obj members =>
      match get? members key with
      | some member => .ok member
      | none => .error (.keyError key)
  | arr _ => .error (.typeError "list indices must be integers or slices, not str")
  | str _ => .error (.typeError "string indices must be integers, not 'str'")
  | value => .error (.typeError s!"'{value.typeName}' object is not subscriptable")

/-- `len(value)` -/
def len : Json → Except ObjectError Nat
  | str text => .ok text.toList.length
  | arr items => .ok items.length
  | obj members => .ok members.length
  | value => .error (.typeError s!"object of type '{value.typeName}' has no len()")

/-- `tuple(value)` -/
def iterate : Json → Except ObjectError (List Json)
  | str text => .ok (text.toList.map fun c => .str (String.ofList [c]))
  | arr items => .ok items
  | obj members => .ok (members.map fun member => .str member.1)
  | value => .error (.typeError s!"'{value.typeName}' object is not iterable")

theorem subscript_of_get? {members : List (String × Json)} {key : String} {member : Json}
    (h : get? members key = some member) : subscript (obj members) key = .ok member := by
  simp only [subscript, h]

/-! ## §1 Calls -/

/-- The names that a message about missing arguments lists. -/
def listNames : List String → String
  | [] => ""
  | [name] => s!"'{name}'"
  | [first, last] => s!"'{first}' and '{last}'"
  | first :: second :: rest =>
      let last := (second :: rest).getLast (List.cons_ne_nil _ _)
      join ", " ((first :: second :: rest).dropLast.map fun name => s!"'{name}'") ++
        s!", and '{last}'"

/-- The text about missing arguments. -/
def missingText (missing : List String) : String :=
  s!"missing {missing.length} required positional argument" ++
    (if missing.length = 1 then "" else "s") ++ ": " ++ listNames missing

/-- `constructor(**value)`, where the constructor takes these arguments and requires them all. -/
def keywords (package name : String) (arguments : List String) (value : Json) :
    Except ObjectError (List (String × Json)) :=
  match value with
  | obj members =>
      match (Dict.keys members).find? (· ∉ arguments), arguments.filter (!hasKey members ·) with
      | some key, _ =>
          .error (.typeError s!"{name}.__init__() got an unexpected keyword argument '{key}'")
      | none, [] => .ok members
      | none, missing => .error (.typeError s!"{name}.__init__() {missingText missing}")
  | value =>
      .error (.typeError
        s!"{package}.{name}() argument after ** must be a mapping, not {value.typeName}")

end Json

end Python
