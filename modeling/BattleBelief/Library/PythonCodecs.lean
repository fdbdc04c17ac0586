import BattleBelief.Library.PythonText

/-!
# Decoders of Python's Standard Library

`csv.reader` with its default dialect, and `base64.urlsafe_b64decode`, as the machines over
characters that they are.
-/

namespace Python

/-! ## §1 `csv.reader` -/

namespace Csv

/-- Where the reader is in a record. -/
inductive State where
  | startRecord
  | startField
  | inField
  | inQuotedField
  | quoteInQuotedField
  | eatCrnl
  deriving DecidableEq, Repr

structure Reader where
  state : State
  field : List Char
  fields : List String
  rows : List (List String)
  deriving DecidableEq, Repr

/-- `csv.field_size_limit()` -/
def fieldSizeLimit : Nat := 131072

namespace Reader

def saveField (reader : Reader) (state : State) : Reader :=
  { reader with
    state
    field := []
    fields := reader.fields ++ [String.ofList reader.field] }

/-- The next character of a field; a field that grows too long is an error. -/
def addChar (reader : Reader) (c : Char) (state : State) : Option Reader :=
  if reader.field.length ≥ fieldSizeLimit then none
  else some { reader with state, field := reader.field ++ [c] }

/-- A character outside of quotes. -/
def readUnquoted (reader : Reader) (c : Char) : Option Reader :=
  if c = '\n' ∨ c = '\r' then some (reader.saveField .eatCrnl)
  else if c = ',' then some (reader.saveField .startField)
  else reader.addChar c .inField

/-- A character of a line. A newline in the middle of one is an error. -/
def readChar (reader : Reader) (c : Char) : Option Reader :=
  match reader.state with
  | .startRecord =>
      if c = '\n' ∨ c = '\r' then some { reader with state := .eatCrnl }
      else if c = '"' then some { reader with state := .inQuotedField }
      else reader.readUnquoted c
  | .startField =>
      if c = '"' then some { reader with state := .inQuotedField } else reader.readUnquoted c
  | .inField => reader.readUnquoted c
  | .inQuotedField =>
      if c = '"' then some { reader with state := .quoteInQuotedField }
      else reader.addChar c .inQuotedField
  | .quoteInQuotedField =>
      -- two quotes stand for one
      if c = '"' then reader.addChar c .inQuotedField else reader.readUnquoted c
  | .eatCrnl => if c = '\n' ∨ c = '\r' then some reader else none

def emit (reader : Reader) : Reader :=
  { state := .startRecord
    field := []
    fields := []
    rows := reader.rows ++ [reader.fields] }

/-- The end of a line. A record goes on in the next line only inside of quotes. -/
def endLine (reader : Reader) : Reader :=
  match reader.state with
  | .startRecord | .eatCrnl => reader.emit
  | .startField | .inField | .quoteInQuotedField => (reader.saveField .startRecord).emit
  | .inQuotedField => reader

def readChars : Reader → List Char → Option Reader
  | reader, [] => some reader
  | reader, c :: rest => do
      let next ← reader.readChar c
      readChars (if c = '\n' ∨ rest = [] then next.endLine else next) rest

end Reader

end Csv

/-- `list(csv.reader(io.StringIO(text)))`, or nothing for a `csv.Error`. -/
def csvReader (text : String) : Option (List (List String)) := do
  let start : Csv.Reader := { state := .startRecord, field := [], fields := [], rows := [] }
  let reader ← start.readChars text.toList
  -- the text may end inside of quotes
  pure (if reader.state = .inQuotedField then (reader.saveField .startRecord).emit else reader).rows

/-! ## §2 `base64.urlsafe_b64decode` -/

/-- The value of a character. Those of the standard alphabet are taken as well. -/
def base64Value (c : Char) : Option Nat :=
  if 'A' ≤ c ∧ c ≤ 'Z' then some (c.toNat - 65)
  else if 'a' ≤ c ∧ c ≤ 'z' then some (c.toNat - 71)
  else if '0' ≤ c ∧ c ≤ '9' then some (c.toNat + 4)
  else if c = '-' ∨ c = '+' then some 62
  else if c = '_' ∨ c = '/' then some 63
  else none

/-- `binascii.a2b_base64`, not strict: other characters are skipped, and padding that completes a
group ends the text. `quad` is the place in a group, `left` what is left of the last character. -/
def a2bBase64 (quad left pads : Nat) (decoded : List Nat) : List Char → Option (List Nat)
  | [] => if quad = 0 then some decoded else none
  | c :: rest =>
      if c = '=' then
        if quad < 2 then a2bBase64 quad left pads decoded rest
        else if quad + pads + 1 ≥ 4 then some decoded
        else a2bBase64 quad left (pads + 1) decoded rest
      else
        match base64Value c with
        | none => a2bBase64 quad left pads decoded rest
        | some value =>
            match quad with
            | 0 => a2bBase64 1 value 0 decoded rest
            | 1 => a2bBase64 2 (value % 16) 0 (decoded ++ [left * 4 + value / 16]) rest
            | 2 => a2bBase64 3 (value % 4) 0 (decoded ++ [left * 16 + value / 4]) rest
            | _ => a2bBase64 0 0 0 (decoded ++ [left * 64 + value]) rest

/-- `base64.urlsafe_b64decode`, or nothing for a `ValueError`. -/
def urlsafeB64decode (encoded : String) : Option (List Nat) :=
  if encoded.toList.all isAscii then a2bBase64 0 0 0 [] encoded.toList else none

/-- `content.hex()` -/
def hex (content : List Nat) : String := String.ofList (content.flatMap (hexDigits 2))

end Python
