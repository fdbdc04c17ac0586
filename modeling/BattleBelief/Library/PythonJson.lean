import BattleBelief.Library.PythonDict
import BattleBelief.Library.PythonText

/-!
# JSON Values in Python

The values that the `json` module decodes to, with the parts of the standard library that read
them back into text: `repr` and the compact form of `json.dumps` with sorted keys.
-/

namespace Python

/-- A decoded JSON value. A float is given by its `repr`. The members of an object stand in
insertion order, no key twice. -/
inductive Json where
  | null
  | bool (value : Bool)
  | int (value : Int)
  | float (text : String)
  | str (value : String)
  | arr (items : List Json)
  | obj (members : List (String × Json))

namespace Json

/-- `members.get(key)`. -/
def get? (members : List (String × Json)) (key : String) : Option Json :=
  Dict.get? members key

/-- `key in members`. -/
def hasKey (members : List (String × Json)) (key : String) : Bool := (get? members key).isSome

/-! ## §1 `repr` -/

section Database

variable [UnicodeDatabase]

mutual

/-- `repr` of a value. -/
def repr : Json → String
  | null => "None"
  | bool true => "True"
  | bool false => "False"
  | int value => toString value
  | float text => text
  | str value => Python.repr value
  | arr items => "[" ++ join ", " (reprItems items) ++ "]"
  | obj members => "\x7b" ++ join ", " (reprMembers members) ++ "\x7d"

def reprItems : List Json → List String
  | [] => []
  | item :: rest => repr item :: reprItems rest

def reprMembers : List (String × Json) → List String
  | [] => []
  | (key, value) :: rest => (Python.repr key ++ ": " ++ repr value) :: reprMembers rest

end

end Database

/-! ## §2 `dumps` -/

/-- `\uXXXX` -/
def unicodeEscape (n : Nat) : List Char := '\\' :: 'u' :: hexDigits 4 n

/-- One character inside a JSON string, everything outside printable ASCII escaped. -/
def escapeChar (c : Char) : List Char :=
  if c = '"' || c = '\\' then ['\\', c]
  else if c = '\n' then ['\\', 'n']
  else if c = '\r' then ['\\', 'r']
  else if c = '\t' then ['\\', 't']
  else if c.toNat = 0xc then ['\\', 'f']
  else if c.toNat = 0x8 then ['\\', 'b']
  else if 0x20 ≤ c.toNat && c.toNat ≤ 0x7e then [c]
  else if c.toNat < 0x10000 then unicodeEscape c.toNat
  else
    -- outside the basic plane, as a surrogate pair
    let offset := c.toNat - 0x10000
    unicodeEscape (0xd800 + offset / 0x400) ++ unicodeEscape (0xdc00 + offset % 0x400)

def quote (s : String) : List Char := '"' :: s.toList.flatMap escapeChar ++ ['"']

/-- The text of a float, from its `repr`. -/
def dumpFloat (text : String) : List Char :=
  if text = "nan" then "NaN".toList
  else if text = "inf" then "Infinity".toList
  else if text = "-inf" then "-Infinity".toList
  else text.toList

/-- Puts dumped members in key order. -/
def sortMembers (members : List (String × List Char)) : List (String × List Char) :=
  members.insertionSort fun a b => a.1 ≤ b.1

/-- Dumped parts with commas between them. -/
def commaSeparated (parts : List (List Char)) : List Char := (parts.intersperse [',']).flatten

mutual

/-- The characters of `json.dumps(value, sort_keys=True, separators=(",", ":"))`. -/
def dumps : Json → List Char
  | null => ['n', 'u', 'l', 'l']
  | bool true => ['t', 'r', 'u', 'e']
  | bool false => ['f', 'a', 'l', 's', 'e']
  | int value => (toString value).toList
  | float text => dumpFloat text
  | str value => quote value
  | arr items => '[' :: commaSeparated (dumpItems items) ++ [']']
  | obj members =>
      let fields := (sortMembers (dumpMembers members)).map fun (key, text) =>
        quote key ++ ':' :: text
      Char.ofNat 0x7b :: commaSeparated fields ++ [Char.ofNat 0x7d]

def dumpItems : List Json → List (List Char)
  | [] => []
  | item :: rest => dumps item :: dumpItems rest

def dumpMembers : List (String × Json) → List (String × List Char)
  | [] => []
  | (key, value) :: rest => (key, dumps value) :: dumpMembers rest

end

/-! ## §3 Plain values -/

mutual

/-- Without floats, and with integers that a double represents exactly. -/
def isPlain : Json → Bool
  | null | bool _ | str _ => true
  | int value => -9007199254740991 ≤ value && value ≤ 9007199254740991
  | float _ => false
  | arr items => itemsPlain items
  | obj members => membersPlain members

def itemsPlain : List Json → Bool
  | [] => true
  | item :: rest => isPlain item && itemsPlain rest

def membersPlain : List (String × Json) → Bool
  | [] => true
  | (_, value) :: rest => isPlain value && membersPlain rest

end

theorem isPlain_arr {items : List Json} :
    isPlain (arr items) = true ↔ ∀ item ∈ items, isPlain item = true := by
  rw [isPlain]
  induction items with
  | nil => simp [itemsPlain]
  | cons item rest ih => rw [itemsPlain, Bool.and_eq_true, ih, List.forall_mem_cons]

end Json

end Python
