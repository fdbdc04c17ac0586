import Mathlib.Data.List.Sort
import Mathlib.Data.String.Basic

/-!
# Python Text Primitives

The string operations of the Python standard library that a line-oriented protocol adapter
leans on, over Lean strings. Every operation works on the list of characters, by structural
recursion, so that it evaluates.

## Unicode

The interpreter's Unicode database differs between releases. Where an operation consults it
for a character outside ASCII the answer comes from `UnicodeDatabase`, so that a result about
these operations holds for every release.
-/

namespace Python

/-! ## §1 Characters -/

/-- What the interpreter's Unicode database says about characters outside ASCII. -/
class UnicodeDatabase where
  /-- `str.isalpha` on one character -/
  isAlpha : Char → Bool
  /-- `str.isdigit` on one character -/
  isDigit : Char → Bool
  /-- `str.isprintable` on one character -/
  isPrintable : Char → Bool
  /-- The value of a decimal digit, as `int` reads it -/
  decimalValue : Char → Option (Fin 10)

/-- The database that knows no letter and no digit outside ASCII. -/
@[reducible] def asciiDatabase : UnicodeDatabase where
  isAlpha _ := false
  isDigit _ := false
  isPrintable _ := true
  decimalValue _ := none

/-- What `unicodedata` says about normal forms. -/
class NormalForms where
  /-- `unicodedata.is_normalized("NFC", text)` -/
  isNfc : String → Bool

/-- The normal forms of texts without combining characters. -/
@[reducible] def plainForms : NormalForms where
  isNfc _ := true

/-- `str.isascii` on one character. -/
def isAscii (c : Char) : Bool := c.toNat < 128

/-- `str.isspace` on one character. -/
def isSpace (c : Char) : Bool :=
  c.toNat ∈ [0x9, 0xa, 0xb, 0xc, 0xd, 0x1c, 0x1d, 0x1e, 0x1f, 0x20, 0x85, 0xa0, 0x1680,
    0x2000, 0x2001, 0x2002, 0x2003, 0x2004, 0x2005, 0x2006, 0x2007, 0x2008, 0x2009, 0x200a,
    0x2028, 0x2029, 0x202f, 0x205f, 0x3000]

section Database

variable [UnicodeDatabase]

/-- `str.isalpha` on one character. -/
def isAlphaChar (c : Char) : Bool :=
  if isAscii c then c.isAlpha else UnicodeDatabase.isAlpha c

/-- `str.isdigit` on one character. -/
def isDigitChar (c : Char) : Bool :=
  if isAscii c then c.isDigit else UnicodeDatabase.isDigit c

/-- The value of `c` as a decimal digit. -/
def digitValue (c : Char) : Option Nat :=
  if isAscii c then
    if c.isDigit then some (c.toNat - '0'.toNat) else none
  else
    (UnicodeDatabase.decimalValue c).map Fin.val

/-- `str.isprintable`. -/
def isPrintable (s : String) : Bool :=
  s.toList.all fun c =>
    if isAscii c then 0x20 ≤ c.toNat && c.toNat < 0x7f else UnicodeDatabase.isPrintable c

/-- `str.isdigit`: not empty, and digits throughout. -/
def isDigit (s : String) : Bool :=
  !s.toList.isEmpty && s.toList.all isDigitChar

end Database

/-- What `str.lower` makes of one character, as far as ASCII text goes.

Two characters outside ASCII have ASCII text in their lower case. The lower case of every
other one stays outside ASCII, and a comparison with ASCII text cannot tell which it is. -/
def lowerChar (c : Char) : List Char :=
  if c.toNat = 0x130 then ['i', Char.ofNat 0x307]
  else if c.toNat = 0x212a then ['k']
  else [c.toLower]

/-- `str.lower`. -/
def lower (s : String) : String := String.ofList (s.toList.flatMap lowerChar)

/-! ## §2 Searching -/

/-- `str.startswith`. -/
def startsWith (s start : String) : Bool := start.toList.isPrefixOf s.toList

/-- No text begins with both of two texts that differ early. -/
theorem not_startsWith {s first second : String} (h : startsWith s first = true)
    (hlength : first.toList.length ≤ second.toList.length)
    (hfirst : first.toList.isPrefixOf second.toList = false) :
    startsWith s second = false := by
  by_contra hsecond
  rw [Bool.not_eq_false] at hsecond
  have hprefix : first.toList <+: second.toList :=
    List.prefix_of_prefix_length_le (List.isPrefixOf_iff_prefix.mp h)
      (List.isPrefixOf_iff_prefix.mp hsecond) hlength
  rw [List.isPrefixOf_iff_prefix.mpr hprefix] at hfirst
  cases hfirst

/-- `str.endswith`. -/
def endsWith (s ending : String) : Bool := ending.toList.isSuffixOf s.toList

/-- `part in s`. -/
def contains (s part : String) : Bool :=
  s.toList.tails.any fun rest => part.toList.isPrefixOf rest

/-- `s[n:]`. -/
def dropChars (s : String) (n : Nat) : String := String.ofList (s.toList.drop n)

/-- The middle of a text that consists of `before`, the middle and `after`. -/
def between (s before after : String) : Option String :=
  let rest := s.toList.drop before.toList.length
  if startsWith s before && after.toList.isSuffixOf rest then
    some (String.ofList (rest.take (rest.length - after.toList.length)))
  else none

/-- `str.replace` of every occurrence of one character by nothing. -/
def removeChar (s : String) (c : Char) : String :=
  String.ofList (s.toList.filter fun d => d != c)

/-- `str.rstrip`. -/
def rstrip (s : String) : String :=
  String.ofList (s.toList.reverse.dropWhile isSpace).reverse

/-- `str.strip`. -/
def strip (s : String) : String :=
  rstrip (String.ofList (s.toList.dropWhile isSpace))

/-! ## §3 Splitting and Joining -/

/-- Splits `text` at every `sep`. `skip` characters of a separator are still to be dropped and
`field` is the current field, last character first. -/
def splitChars (sep : List Char) : Nat → List Char → List Char → List (List Char)
  | _, field, [] => [field.reverse]
  | skip + 1, field, _ :: text => splitChars sep skip field text
  | 0, field, c :: text =>
      if sep.isPrefixOf (c :: text) then
        field.reverse :: splitChars sep (sep.length - 1) [] text
      else
        splitChars sep 0 (c :: field) text

/-- `str.split(sep)`. -/
def split (s sep : String) : List String :=
  (splitChars sep.toList 0 [] s.toList).map String.ofList

theorem splitChars_ne_nil (sep : List Char) (skip : Nat) (field text : List Char) :
    splitChars sep skip field text ≠ [] := by
  induction text generalizing skip field with
  | nil => simp [splitChars]
  | cons c text ih =>
    cases skip with
    | succ skip => exact ih skip field
    | zero =>
      rw [splitChars]
      split_ifs
      · exact List.cons_ne_nil _ _
      · exact ih 0 (c :: field)

/-- A separator of two different characters never overlaps another one, so a text splits at each
one that is put into it. -/
theorem splitChars_append {a b : Char} (hab : a ≠ b) {skip : Nat} {field before : List Char}
    (hskip : skip ≤ before.length) (after : List Char) :
    splitChars [a, b] skip field (before ++ a :: b :: after) =
      splitChars [a, b] skip field before ++ splitChars [a, b] 0 [] after := by
  induction before generalizing skip field with
  | nil =>
    obtain rfl : skip = 0 := Nat.le_zero.mp hskip
    simp [splitChars]
  | cons c rest ih =>
    cases skip with
    | succ skip =>
      simp only [List.cons_append, splitChars]
      exact ih (Nat.le_of_succ_le_succ hskip)
    | zero =>
      simp only [List.cons_append, splitChars]
      cases rest with
      | nil =>
        -- the character before the separator is not one that starts another separator
        have hne : ¬b = a := hab.symm
        simp [splitChars, hne]
      | cons d rest =>
        simp only [List.cons_append, List.isPrefixOf, Bool.and_true, List.length_cons,
          List.length_nil]
        split_ifs
        · rw [List.cons_append]
          exact congrArg _ (ih (by simp))
        · exact ih (Nat.zero_le _)

/-- A text without separator is one field. -/
theorem splitChars_of_not_infix {sep text : List Char} (h : ¬sep <:+: text) (field : List Char) :
    splitChars sep 0 field text = [field.reverse ++ text] := by
  induction text generalizing field with
  | nil => simp [splitChars]
  | cons c rest ih =>
    rw [List.infix_cons_iff, not_or] at h
    rw [splitChars, if_neg, ih h.2]
    · simp
    · rw [List.isPrefixOf_iff_prefix]
      exact h.1

/-- A separator of one character ends the field that has none before it. -/
theorem splitChars_singleton {sep : Char} {before : List Char} (h : sep ∉ before)
    (field after : List Char) :
    splitChars [sep] 0 field (before ++ sep :: after) =
      (field.reverse ++ before) :: splitChars [sep] 0 [] after := by
  induction before generalizing field with
  | nil => simp [splitChars]
  | cons c rest ih =>
    rw [List.mem_cons, not_or] at h
    obtain ⟨hc, hrest⟩ := h
    simp [splitChars, hc, ih hrest]

/-- The text before and after the first `sep`. `field` is read already, last character first. -/
def partitionChars (sep : List Char) : List Char → List Char → Option (List Char × List Char)
  | _, [] => none
  | field, c :: text =>
      if sep.isPrefixOf (c :: text) then
        some (field.reverse, (c :: text).drop sep.length)
      else
        partitionChars sep (c :: field) text

/-- `str.split(sep, 1)`, as a pair when `sep` occurs. -/
def splitOnce (s sep : String) : Option (String × String) :=
  (partitionChars sep.toList [] s.toList).map fun (before, after) =>
    (String.ofList before, String.ofList after)

/-- The two parts are what stands around the separator. -/
theorem append_of_partitionChars {sep field text before after : List Char}
    (h : partitionChars sep field text = some (before, after)) :
    field.reverse ++ text = before ++ (sep ++ after) := by
  induction text generalizing field with
  | nil => cases h
  | cons c rest ih =>
    rw [partitionChars] at h
    split_ifs at h with hprefix
    · cases h
      rw [List.append_right_inj]
      exact (List.prefix_iff_eq_append.mp (List.isPrefixOf_iff_prefix.mp hprefix)).symm
    · rw [← ih h, List.reverse_cons, List.append_assoc, List.singleton_append]

/-- The first separator of one character ends what has none before it. -/
theorem partitionChars_append {sep : Char} {before : List Char} (h : sep ∉ before)
    (field after : List Char) :
    partitionChars [sep] field (before ++ sep :: after) = some (field.reverse ++ before, after) := by
  induction before generalizing field with
  | nil => simp [partitionChars]
  | cons c rest ih =>
    rw [List.mem_cons, not_or] at h
    obtain ⟨hc, hrest⟩ := h
    simp [partitionChars, hc, ih hrest]

theorem partitionChars_eq_none {sep : Char} {text : List Char} (h : sep ∉ text)
    (field : List Char) : partitionChars [sep] field text = none := by
  induction text generalizing field with
  | nil => rfl
  | cons c rest ih =>
    rw [List.mem_cons, not_or] at h
    obtain ⟨hc, hrest⟩ := h
    simp [partitionChars, hc, ih hrest]

/-- `str.split(sep, limit)`: at most `limit` separators split the text. -/
def splitMax (sep : String) : Nat → String → List String
  | 0, s => [s]
  | limit + 1, s =>
      match splitOnce s sep with
      | none => [s]
      | some (before, after) => before :: splitMax sep limit after

/-- `sep.join(parts)`. -/
def join (sep : String) : List String → String
  | [] => ""
  | [s] => s
  | s :: rest => s ++ sep ++ join sep rest

/-- `s.replace(old, new)`. -/
def replace (s old new : String) : String := join new (split s old)

/-- `s.encode("utf-8")` for the text `s` with these characters, as the list of its bytes. -/
def encodeUtf8 (text : List Char) : List Nat :=
  (text.flatMap String.utf8EncodeChar).map UInt8.toNat

/-- The first character of some bytes, and the number of bytes that it takes. Overlong forms and
surrogates are refused. -/
def headUtf8 : List Nat → Option (Char × Nat)
  | [] => none
  | a :: rest =>
      if a < 0x80 then some (Char.ofNat a, 1)
      else
        let shape :=
          if 0xc0 ≤ a && a < 0xe0 then some (1, a - 0xc0, 0x80)
          else if 0xe0 ≤ a && a < 0xf0 then some (2, a - 0xe0, 0x800)
          else if 0xf0 ≤ a && a < 0xf8 then some (3, a - 0xf0, 0x10000)
          else none
        shape.bind fun (count, lead, least) =>
          let tail := rest.take count
          let value := tail.foldl (fun value b => value * 0x40 + (b - 0x80)) lead
          if tail.length = count && tail.all (fun b => 0x80 ≤ b && b < 0xc0) && least ≤ value &&
              decide value.isValidChar then
            some (Char.ofNat value, count + 1)
          else none

/-- `skip` bytes belong to a character that is read already. -/
def decodeUtf8From : Nat → List Nat → Option (List Char)
  | _, [] => some []
  | skip + 1, _ :: rest => decodeUtf8From skip rest
  | 0, a :: rest =>
      (headUtf8 (a :: rest)).bind fun (c, count) =>
        (decodeUtf8From (count - 1) rest).map (c :: ·)

/-- `raw.decode("utf-8", errors="strict")`, unless it raises. -/
def decodeUtf8 (raw : List Nat) : Option String := (decodeUtf8From 0 raw).map String.ofList

/-! ## §4 Integers -/

section Database

variable [UnicodeDatabase]

/-- White space that `int` skips: the ASCII separators `0x1c` to `0x1f` are not among it. -/
def isIntSpace (c : Char) : Bool :=
  isSpace c && !(0x1c ≤ c.toNat && c.toNat ≤ 0x1f)

/-- The longest digit string `int` converts. -/
def maxStrDigits : Nat := 4300

/-- Reads a digit string with single underscores between digits. -/
def readDigits (value count : Nat) (afterDigit : Bool) : List Char → Option Nat
  | [] => if afterDigit && count ≤ maxStrDigits then some value else none
  | c :: text =>
      if c = '_' then
        if afterDigit then readDigits value count false text else none
      else
        match digitValue c with
        | some d => readDigits (value * 10 + d) (count + 1) true text
        | none => none

/-- `int(s)`; `none` where it raises `ValueError`. -/
def int (s : String) : Option Int :=
  let text := ((s.toList.dropWhile isIntSpace).reverse.dropWhile isIntSpace).reverse
  match text with
  | '+' :: digits => (readDigits 0 0 false digits).map Int.ofNat
  | '-' :: digits => (readDigits 0 0 false digits).map fun n => -Int.ofNat n
  | digits => (readDigits 0 0 false digits).map Int.ofNat

/-! ## §5 Representation -/

/-- `width` hexadecimal digits of `n`. -/
def hexDigits (width n : Nat) : List Char :=
  let digits := Nat.toDigits 16 n
  List.replicate (width - digits.length) '0' ++ digits

/-- One character of `repr(s)` inside `quote`. -/
def reprChar (quote c : Char) : List Char :=
  if c = quote || c = '\\' then ['\\', c]
  else if c = '\t' then ['\\', 't']
  else if c = '\n' then ['\\', 'n']
  else if c = '\r' then ['\\', 'r']
  else if c.toNat < 0x20 || c.toNat = 0x7f then '\\' :: 'x' :: hexDigits 2 c.toNat
  else if isAscii c || UnicodeDatabase.isPrintable c then [c]
  else if c.toNat < 0x100 then '\\' :: 'x' :: hexDigits 2 c.toNat
  else if c.toNat < 0x10000 then '\\' :: 'u' :: hexDigits 4 c.toNat
  else '\\' :: 'U' :: hexDigits 8 c.toNat

/-- `repr(s)`: single quotes, unless the text holds one and no double quote. -/
def repr (s : String) : String :=
  let single := Char.ofNat 39
  let double := Char.ofNat 34
  let quote := if s.toList.contains single && !s.toList.contains double then double else single
  String.ofList (quote :: s.toList.flatMap (reprChar quote) ++ [quote])

/-- `repr` of a list of strings. -/
def reprList (parts : List String) : String :=
  "[" ++ join ", " (parts.map repr) ++ "]"

end Database

/-! ## §6 Sorting -/

/-- `sorted` on strings: Python compares them by code point, as Lean does. -/
def sorted (parts : List String) : List String := parts.insertionSort (· ≤ ·)

theorem pairwise_sorted (parts : List String) : (sorted parts).Pairwise (· ≤ ·) :=
  List.pairwise_insertionSort _ _

theorem perm_sorted (parts : List String) : (sorted parts).Perm parts :=
  List.perm_insertionSort _ _

@[simp] theorem mem_sorted {parts : List String} {s : String} :
    s ∈ sorted parts ↔ s ∈ parts :=
  (perm_sorted parts).mem_iff

/-- Sorting keeps a list without duplicates strictly increasing. -/
theorem sorted_strict {parts : List String} (h : parts.Nodup) :
    (sorted parts).Pairwise (· < ·) := by
  have hnodup : (sorted parts).Nodup := (perm_sorted parts).nodup_iff.mpr h
  exact ((pairwise_sorted parts).and hnodup).imp fun ⟨hle, hne⟩ => lt_of_le_of_ne hle hne

/-- Sorting by a text sorts the texts: `sorted(items, key=...)`. -/
theorem map_insertionSort {α : Type*} (key : α → String) (items : List α) :
    (items.insertionSort fun first second => key first ≤ key second).map key =
      sorted (items.map key) :=
  List.map_insertionSort _ _ key items fun _ _ _ _ => Iff.rfl

end Python
