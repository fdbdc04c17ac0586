import BattleBelief.Library.PythonJson
import BattleBelief.Library.Runs

/-!
# JSON Text

A writer of canonical JSON text and a reader of compact JSON text. The writer puts the members of an
object in key order and escapes what has to be escaped. The reader takes one character at a time and
keeps the arrays and objects that are still open on a stack, so that a text is read in the same way
wherever it stands.

- `reads_text`: a text that the writer quotes is read back
- `Reads.array`, `Reads.object`: what is made of texts that read back reads back
- `writeObject_perm`: the order of members does not show
-/

namespace Python.JsonText

open Runs

/-! ## §1 The writer -/

/-- The characters with a short escape, and the letter of it. -/
def shortEscapes : List (Char × Char) :=
  [('"', '"'), ('\\', '\\'), (Char.ofNat 8, 'b'), ('\t', 't'), ('\n', 'n'), (Char.ofNat 12, 'f'),
    ('\r', 'r')]

def escape (c : Char) : List Char :=
  match shortEscapes.lookup c with
  | some letter => ['\\', letter]
  | none =>
      if c.toNat < 0x20 then
        ['\\', 'u', '0', '0', Nat.digitChar (c.toNat / 16), Nat.digitChar (c.toNat % 16)]
      else [c]

def quote (s : String) : List Char := '"' :: (s.toList.flatMap escape ++ ['"'])

/-- An array of items with these texts. -/
def writeArray (items : List (List Char)) : List Char :=
  '[' :: (Json.commaSeparated items ++ [']'])

/-- One member. -/
def writeMember (member : String × List Char) : List Char := quote member.1 ++ ':' :: member.2

/-- An object of members with these texts. -/
def writeObject (members : List (String × List Char)) : List Char :=
  Char.ofNat 0x7b ::
    (Json.commaSeparated ((Json.sortMembers members).map writeMember) ++ [Char.ofNat 0x7d])

mutual

def write : Json → List Char
  | .null => ['n', 'u', 'l', 'l']
  | .bool true => ['t', 'r', 'u', 'e']
  | .bool false => ['f', 'a', 'l', 's', 'e']
  | .int value => (toString value).toList
  | .float text => text.toList
  | .str value => quote value
  | .arr items => writeArray (writeItems items)
  | .obj members => writeObject (writeMembers members)

def writeItems : List Json → List (List Char)
  | [] => []
  | item :: rest => write item :: writeItems rest

def writeMembers : List (String × Json) → List (String × List Char)
  | [] => []
  | (key, value) :: rest => (key, write value) :: writeMembers rest

end

theorem writeItems_eq_map (items : List Json) : writeItems items = items.map write := by
  induction items with
  | nil => rfl
  | cons item rest ih => rw [writeItems, ih, List.map_cons]

theorem writeMembers_eq_map (members : List (String × Json)) :
    writeMembers members = members.map fun member => (member.1, write member.2) := by
  induction members with
  | nil => rfl
  | cons member rest ih => rw [writeMembers, ih, List.map_cons]

/-! ## §2 The reader -/

/-- What a reader makes of the parts that are not the same for every caller. -/
structure Hooks (κ : Type) where
  object : List (String × Json) → Except κ Json
  constant : String → Except κ Json
  float : String → Except κ Json
  malformed : κ

/-- An array or object that is still open. -/
inductive Frame where
  | items (done : List Json)
  /-- A key is next. -/
  | members (done : List (String × Json))
  /-- The value of `key` is next. -/
  | member (done : List (String × Json)) (key : String)

/-- What the reader is about to read. -/
inductive Mode where
  | value
  | firstItem
  | firstKey
  | key
  | text (isKey : Bool) (raw : List Char) (escaped : Bool)
  | colon
  | token (chars : List Char)
  | complete (value : Json)

/-- The arrays and objects that are open, the innermost one first, and what is next. -/
abbrev State := List Frame × Mode

/-- The characters after which a number or literal is over. -/
def isDelimiter (c : Char) : Bool := c = ',' || c = ']' || c = Char.ofNat 0x7d

def hexValue (c : Char) : Option Nat := (List.range 16).find? fun n => Nat.digitChar n = c

/-- The character of four hexadecimal digits. One half of a surrogate pair has none. -/
def unicodeEscape (a b c d : Char) : Option Char := do
  let value := (((← hexValue a) * 16 + (← hexValue b)) * 16 + (← hexValue c)) * 16 + (← hexValue d)
  if decide value.isValidChar then some (Char.ofNat value) else none

/-- The character of a short escape. A solidus may be escaped without need. -/
def shortEscape (letter : Char) : Option Char :=
  if letter = '/' then some '/'
  else (shortEscapes.find? fun entry => entry.2 = letter).map Prod.fst

/-- The characters between two quotes. -/
def unescape : List Char → Option (List Char)
  | [] => some []
  | '\\' :: 'u' :: a :: b :: c :: d :: rest => do
      let first ← unicodeEscape a b c d
      let others ← unescape rest
      pure (first :: others)
  | '\\' :: letter :: rest => do
      let first ← shortEscape letter
      let others ← unescape rest
      pure (first :: others)
  | c :: rest => do
      if c.toNat < 0x20 then none
      let others ← unescape rest
      pure (c :: others)

variable {κ : Type} (hooks : Hooks κ)

/-- A number or a literal. -/
def readToken (chars : List Char) : Except κ Json :=
  let digits := if chars.head? = some '-' then chars.tail else chars
  if chars = "null".toList then .ok .null
  else if chars = "true".toList then .ok (.bool true)
  else if chars = "false".toList then .ok (.bool false)
  else if chars ∈ ["NaN", "Infinity", "-Infinity"].map String.toList then
    hooks.constant (String.ofList chars)
  else if digits ≠ [] && digits.all Char.isDigit then
    let value : Int := Nat.ofDigitChars 10 digits 0
    .ok (.int (if chars.head? = some '-' then -value else value))
  else hooks.float (String.ofList chars)

/-- The first character of a value. -/
def begin (stack : List Frame) (c : Char) : Except κ State :=
  if c = '"' then .ok (stack, .text false [] false)
  else if c = '[' then .ok (.items [] :: stack, .firstItem)
  else if c = Char.ofNat 0x7b then .ok (.members [] :: stack, .firstKey)
  else if isDelimiter c then .error hooks.malformed
  else .ok (stack, .token [c])

/-- The character behind a value. -/
def after (value : Json) (c : Char) : List Frame → Except κ State
  | .items done :: below =>
      if c = ',' then .ok (.items (done ++ [value]) :: below, .value)
      else if c = ']' then .ok (below, .complete (.arr (done ++ [value])))
      else .error hooks.malformed
  | .member done key :: below =>
      if c = ',' then .ok (.members (done ++ [(key, value)]) :: below, .key)
      else if c = Char.ofNat 0x7d then
        (hooks.object (done ++ [(key, value)])).map fun object => (below, .complete object)
      else .error hooks.malformed
  | _ => .error hooks.malformed

/-- The quote at the end of a text. -/
def closeText (isKey : Bool) (raw : List Char) (stack : List Frame) : Except κ State :=
  match unescape raw with
  | none => .error hooks.malformed
  | some chars =>
      if isKey then
        match stack with
        | .members done :: below => .ok (.member done (String.ofList chars) :: below, .colon)
        | _ => .error hooks.malformed
      else .ok (stack, .complete (.str (String.ofList chars)))

/-- Reads one character. -/
def step (state : State) (c : Char) : Except κ State :=
  let (stack, mode) := state
  match mode with
  | .value => begin hooks stack c
  | .firstItem =>
      if c = ']' then
        match stack with
        | .items _ :: below => .ok (below, .complete (.arr []))
        | _ => .error hooks.malformed
      else begin hooks stack c
  | .firstKey =>
      if c = '"' then .ok (stack, .text true [] false)
      else if c = Char.ofNat 0x7d then
        match stack with
        | .members _ :: below => (hooks.object []).map fun object => (below, .complete object)
        | _ => .error hooks.malformed
      else .error hooks.malformed
  | .key => if c = '"' then .ok (stack, .text true [] false) else .error hooks.malformed
  | .text isKey raw escaped =>
      if escaped then .ok (stack, .text isKey (raw ++ [c]) false)
      else if c = '"' then closeText hooks isKey raw stack
      else .ok (stack, .text isKey (raw ++ [c]) (c = '\\'))
  | .colon => if c = ':' then .ok (stack, .value) else .error hooks.malformed
  | .token chars =>
      if isDelimiter c then do
        let value ← readToken hooks chars
        after hooks value c stack
      else .ok (stack, .token (chars ++ [c]))
  | .complete value => after hooks value c stack

/-- The value that has been read, if it may end here. -/
def ended : Mode → Except κ Json
  | .complete value => .ok value
  | .token chars => readToken hooks chars
  | _ => .error hooks.malformed

/-- Reads a text that is one value. -/
def read (text : List Char) : Except κ Json := do
  let (stack, mode) ← text.foldlM (step hooks) ([], .value)
  match stack with
  | [] => ended hooks mode
  | _ => .error hooks.malformed

/-! ## §3 Texts in a context -/

/-- The text is read as this value. -/
def Reads (text : List Char) (value : Json) : Prop :=
  ∃ mode, RunsTo (step hooks) ([], .value) text ([], mode) ∧ ended hooks mode = .ok value

variable {hooks}

theorem read_eq_ok {text : List Char} {value : Json} :
    read hooks text = .ok value ↔ Reads hooks text value := by
  rw [read, bind_eq_ok]
  constructor
  · rintro ⟨⟨stack, mode⟩, hrun, h⟩
    cases stack with
    | nil => exact ⟨mode, hrun, h⟩
    | cons frame below => cases h
  · rintro ⟨mode, hrun, h⟩
    exact ⟨([], mode), hrun, h⟩

theorem begin_append {stack stack' : List Frame} {mode : Mode} {c : Char} (below : List Frame)
    (h : begin hooks stack c = .ok (stack', mode)) :
    begin hooks (stack ++ below) c = .ok (stack' ++ below, mode) := by
  unfold begin at h ⊢
  split_ifs at h ⊢ with hquote hbracket hbrace hdelimiter
  all_goals
    cases h
    rfl

theorem after_append {value : Json} {c : Char} {stack stack' : List Frame} {mode : Mode}
    (below : List Frame) (h : after hooks value c stack = .ok (stack', mode)) :
    after hooks value c (stack ++ below) = .ok (stack' ++ below, mode) := by
  cases stack with
  | nil => cases h
  | cons frame rest =>
    cases frame with
    | members done => cases h
    | items done =>
      simp only [List.cons_append, after] at h ⊢
      split_ifs at h ⊢ with hcomma hclose
      all_goals
        cases h
        rfl
    | member done key =>
      simp only [List.cons_append, after] at h ⊢
      split_ifs at h ⊢ with hcomma hclose
      · cases h
        rfl
      · obtain ⟨object, hobject, hstate⟩ := map_eq_ok.mp h
        cases hstate
        exact map_eq_ok.mpr ⟨object, hobject, rfl⟩

theorem closeText_append {isKey : Bool} {raw : List Char} {stack stack' : List Frame} {mode : Mode}
    (below : List Frame) (h : closeText hooks isKey raw stack = .ok (stack', mode)) :
    closeText hooks isKey raw (stack ++ below) = .ok (stack' ++ below, mode) := by
  unfold closeText at h ⊢
  cases hraw : unescape raw with
  | none => simp [hraw] at h
  | some chars =>
    simp only [hraw] at h ⊢
    split_ifs at h ⊢ with hkey
    · cases stack with
      | nil => cases h
      | cons frame rest =>
        cases frame with
        | members done =>
          cases h
          rfl
        | items done => cases h
        | member done key => cases h
    · cases h
      rfl

/-- A step does not look below the frames that it needs. -/
theorem step_append {stack stack' : List Frame} {mode mode' : Mode} {c : Char}
    (below : List Frame) (h : step hooks (stack, mode) c = .ok (stack', mode')) :
    step hooks (stack ++ below, mode) c = .ok (stack' ++ below, mode') := by
  cases mode with
  | value => exact begin_append below h
  | firstItem =>
    simp only [step] at h ⊢
    split_ifs at h ⊢ with hclose
    · cases stack with
      | nil => cases h
      | cons frame rest =>
        cases frame with
        | items done =>
          cases h
          rfl
        | members done => cases h
        | member done key => cases h
    · exact begin_append below h
  | firstKey =>
    simp only [step] at h ⊢
    split_ifs at h ⊢ with hquote hclose
    · cases h
      rfl
    · cases stack with
      | nil => cases h
      | cons frame rest =>
        cases frame with
        | members done =>
          obtain ⟨object, hobject, hstate⟩ := map_eq_ok.mp h
          cases hstate
          exact map_eq_ok.mpr ⟨object, hobject, rfl⟩
        | items done => cases h
        | member done key => cases h
  | key =>
    simp only [step] at h ⊢
    split_ifs at h ⊢
    cases h
    rfl
  | text isKey raw escaped =>
    simp only [step] at h ⊢
    split_ifs at h ⊢ with hescaped hquote
    · cases h
      rfl
    · exact closeText_append below h
    · cases h
      rfl
  | colon =>
    simp only [step] at h ⊢
    split_ifs at h ⊢
    cases h
    rfl
  | token chars =>
    simp only [step] at h ⊢
    split_ifs at h ⊢ with hdelimiter
    · obtain ⟨value, hvalue, hafter⟩ := bind_eq_ok.mp h
      exact bind_eq_ok.mpr ⟨value, hvalue, after_append below hafter⟩
    · cases h
      rfl
  | complete value => exact after_append below h

/-- A text is read in the same way inside open arrays and objects. -/
theorem runs_append_below {stack stack' : List Frame} {mode mode' : Mode} {text : List Char}
    (below : List Frame) (h : RunsTo (step hooks) (stack, mode) text (stack', mode')) :
    RunsTo (step hooks) (stack ++ below, mode) text (stack' ++ below, mode') := by
  induction text generalizing stack mode with
  | nil =>
    obtain ⟨rfl, rfl⟩ := Prod.mk.inj (runs_nil.mp h)
    exact runs_nil.mpr rfl
  | cons c rest ih =>
    obtain ⟨⟨stack₁, mode₁⟩, hstep, hrest⟩ := runs_cons.mp h
    exact runs_cons.mpr ⟨(stack₁ ++ below, mode₁), step_append below hstep, ih hrest⟩

/-- Behind a value, all that matters is the value. -/
theorem step_of_ended {mode : Mode} {value : Json} (h : ended hooks mode = .ok value) {c : Char}
    (hc : isDelimiter c = true) (stack : List Frame) :
    step hooks (stack, mode) c = after hooks value c stack := by
  cases mode with
  | complete value' =>
    obtain rfl := Except.ok.inj h
    rfl
  | token chars =>
    have htoken : readToken hooks chars = .ok value := h
    simp only [step, hc, if_true, htoken]
    rfl
  | value => cases h
  | firstItem => cases h
  | firstKey => cases h
  | key => cases h
  | text isKey raw escaped => cases h
  | colon => cases h

/-- Reads a value and the delimiter behind it. -/
theorem Reads.runs {text : List Char} {value : Json} (h : Reads hooks text value) {c : Char}
    (hc : isDelimiter c = true) {stack : List Frame} {state : State}
    (hafter : after hooks value c stack = .ok state) (rest : List Char) {final : State}
    (hrest : RunsTo (step hooks) state rest final) :
    RunsTo (step hooks) (stack, .value) (text ++ c :: rest) final := by
  obtain ⟨mode, hrun, hended⟩ := h
  have hbelow := runs_append_below stack hrun
  rw [List.nil_append] at hbelow
  refine runs_append.mpr ⟨(stack, mode), hbelow, runs_cons.mpr ⟨state, ?_, hrest⟩⟩
  rw [step_of_ended hended hc, hafter]

/-! ## §4 Quoted texts -/

/-- A character is escaped in one of three ways. -/
theorem escape_cases (c : Char) :
    (∃ letter, (c, letter) ∈ shortEscapes ∧ escape c = ['\\', letter]) ∨
      (c.toNat < 0x20 ∧ escape c =
        ['\\', 'u', '0', '0', Nat.digitChar (c.toNat / 16), Nat.digitChar (c.toNat % 16)]) ∨
      (c ≠ '"' ∧ c ≠ '\\' ∧ 0x20 ≤ c.toNat ∧ escape c = [c]) := by
  cases hlookup : shortEscapes.lookup c with
  | some letter =>
    obtain ⟨first, second, hsplit, -⟩ := List.lookup_eq_some_iff.mp hlookup
    refine .inl ⟨letter, ?_, ?_⟩
    · rw [hsplit]
      simp
    · simp only [escape, hlookup]
  | none =>
    right
    by_cases hcontrol : c.toNat < 0x20
    · refine .inl ⟨hcontrol, ?_⟩
      simp only [escape, hlookup, hcontrol, if_true]
    · right
      have hnone := List.lookup_eq_none_iff.mp hlookup
      refine ⟨?_, ?_, Nat.le_of_not_lt hcontrol, ?_⟩
      · rintro rfl
        exact absurd (hnone ('"', '"') (by simp [shortEscapes])) (by simp)
      · rintro rfl
        exact absurd (hnone ('\\', '\\') (by simp [shortEscapes])) (by simp)
      · simp only [escape, hlookup, hcontrol, if_false]

theorem shortEscape_back : ∀ entry ∈ shortEscapes,
    entry.2 ≠ 'u' ∧ shortEscape entry.2 = some entry.1 := by
  decide

theorem unescape_short {c letter : Char} (h : (c, letter) ∈ shortEscapes) (rest : List Char) :
    unescape ('\\' :: letter :: rest) = (unescape rest).map (c :: ·) := by
  obtain ⟨hletter, hback⟩ := shortEscape_back (c, letter) h
  have hchar : shortEscape letter = some c := hback
  rw [unescape]
  · rw [hchar]
    cases unescape rest <;> rfl
  · intro a b c' d tail hu
    exact absurd hu hletter

theorem unicodeEscape_control : ∀ n < 0x20,
    unicodeEscape '0' '0' (Nat.digitChar (n / 16)) (Nat.digitChar (n % 16)) =
      some (Char.ofNat n) := by
  decide

theorem unescape_escape (c : Char) (rest : List Char) :
    unescape (escape c ++ rest) = (unescape rest).map (c :: ·) := by
  rcases escape_cases c with ⟨letter, hmem, hescape⟩ | ⟨hcontrol, hescape⟩ |
    ⟨hquote, hslash, hplain, hescape⟩
  · rw [hescape]
    exact unescape_short hmem rest
  · rw [hescape]
    simp only [List.cons_append, List.nil_append, unescape, unicodeEscape_control _ hcontrol,
      Char.ofNat_toNat]
    cases unescape rest <;> rfl
  · rw [hescape, List.singleton_append, unescape]
    · have hnot : ¬c.toNat < 0x20 := Nat.not_lt.mpr hplain
      rw [if_neg hnot]
      cases unescape rest <;> rfl
    · intro a b c' d tail hc
      exact absurd hc hslash
    · intro letter tail hc
      exact absurd hc hslash

theorem unescape_flatMap (chars : List Char) : unescape (chars.flatMap escape) = some chars := by
  induction chars with
  | nil => rfl
  | cons c rest ih => rw [List.flatMap_cons, unescape_escape, ih, Option.map_some]

theorem digitChar_control : ∀ n < 0x20,
    (Nat.digitChar (n / 16) ≠ '"' ∧ Nat.digitChar (n / 16) ≠ '\\') ∧
      Nat.digitChar (n % 16) ≠ '"' ∧ Nat.digitChar (n % 16) ≠ '\\' := by
  decide

/-- The characters of a quoted text do not end it. -/
theorem runs_escape (stack : List Frame) (isKey : Bool) (raw : List Char) (c : Char) :
    RunsTo (step hooks) (stack, .text isKey raw false) (escape c)
      (stack, .text isKey (raw ++ escape c) false) := by
  rcases escape_cases c with ⟨letter, -, hescape⟩ | ⟨hcontrol, hescape⟩ |
    ⟨hquote, hslash, -, hescape⟩
  · rw [hescape]
    simp [RunsTo, step, bind, Except.bind, pure, Except.pure]
  · have hdigits := digitChar_control c.toNat hcontrol
    rw [hescape]
    simp [RunsTo, step, bind, Except.bind, pure, Except.pure, hdigits]
  · rw [hescape]
    simp [RunsTo, step, bind, Except.bind, pure, Except.pure, hquote, hslash]

theorem runs_flatMap_escape (stack : List Frame) (isKey : Bool) (raw chars : List Char) :
    RunsTo (step hooks) (stack, .text isKey raw false) (chars.flatMap escape)
      (stack, .text isKey (raw ++ chars.flatMap escape) false) := by
  induction chars generalizing raw with
  | nil => simp
  | cons c rest ih =>
    rw [List.flatMap_cons, ← List.append_assoc]
    exact runs_append.mpr ⟨_, runs_escape stack isKey raw c, ih (raw ++ escape c)⟩

/-- The body of a quoted text and the quote behind it. -/
theorem runs_body (stack : List Frame) (isKey : Bool) (s : String) {state : State}
    (h : closeText hooks isKey (s.toList.flatMap escape) stack = .ok state) :
    RunsTo (step hooks) (stack, .text isKey [] false) (s.toList.flatMap escape ++ ['"']) state := by
  have hbody : RunsTo (step hooks) (stack, .text isKey [] false) (s.toList.flatMap escape)
      (stack, .text isKey (s.toList.flatMap escape) false) :=
    runs_flatMap_escape stack isKey [] s.toList
  refine runs_concat.mpr ⟨_, hbody, ?_⟩
  simpa [step] using h

theorem reads_text (s : String) : Reads hooks (quote s) (.str s) := by
  refine ⟨.complete (.str s), runs_cons.mpr ⟨([], .text false [] false), rfl, ?_⟩, rfl⟩
  apply runs_body
  simp [closeText, unescape_flatMap]

/-- A key and the colon behind it. -/
theorem runs_key (done : List (String × Json)) (below : List Frame) (key : String) :
    RunsTo (step hooks) (.members done :: below, .text true [] false)
      (key.toList.flatMap escape ++ ['"', ':']) (.member done key :: below, .value) := by
  have hbody : RunsTo (step hooks) (.members done :: below, .text true [] false)
      (key.toList.flatMap escape ++ ['"']) (.member done key :: below, .colon) := by
    apply runs_body
    simp [closeText, unescape_flatMap]
  have hcolon : RunsTo (step hooks) (.member done key :: below, .colon) [':']
      (.member done key :: below, .value) := runs_cons.mpr ⟨_, rfl, runs_nil.mpr rfl⟩
  have hboth := runs_append.mpr ⟨_, hbody, hcolon⟩
  rwa [List.append_assoc, List.singleton_append] at hboth

/-! ## §5 Arrays and objects -/

theorem commaSeparated_cons_cons (first second : List Char) (rest : List (List Char)) :
    Json.commaSeparated (first :: second :: rest) =
      first ++ ',' :: Json.commaSeparated (second :: rest) := by
  simp [Json.commaSeparated]

theorem commaSeparated_singleton (text : List Char) : Json.commaSeparated [text] = text := by
  simp [Json.commaSeparated]

theorem runs_items {texts : List (List Char)} {values : List Json}
    (h : List.Forall₂ (Reads hooks) texts values) (hne : values ≠ []) (done : List Json)
    (below : List Frame) :
    RunsTo (step hooks) (.items done :: below, .value) (Json.commaSeparated texts ++ [']'])
      (below, .complete (.arr (done ++ values))) := by
  induction h generalizing done with
  | nil => exact absurd rfl hne
  | cons hhead htail ih =>
    rename_i text value texts values
    cases htail with
    | nil =>
      rw [commaSeparated_singleton]
      exact hhead.runs rfl rfl [] (runs_nil.mpr rfl)
    | cons hsecond hothers =>
      have hrest := ih (List.cons_ne_nil _ _) (done ++ [value])
      rw [commaSeparated_cons_cons, List.append_assoc, List.cons_append]
      rw [List.append_assoc, List.singleton_append] at hrest
      exact hhead.runs rfl rfl _ hrest

/-- The first item of an array is read like the others. -/
theorem runs_firstItem {stack : List Frame} {text : List Char} {state : State}
    (h : RunsTo (step hooks) (stack, .value) text state) (hne : text ≠ []) :
    RunsTo (step hooks) (stack, .firstItem) text state := by
  cases text with
  | nil => exact absurd rfl hne
  | cons c rest =>
    obtain ⟨next, hstep, hrest⟩ := runs_cons.mp h
    have hbegin : begin hooks stack c = .ok next := hstep
    refine runs_cons.mpr ⟨next, ?_, hrest⟩
    -- a value does not begin with the bracket that would close the array
    have hc : c ≠ ']' := by
      rintro rfl
      cases hbegin
    simp only [step, if_neg hc, hbegin]

/-- An array of texts that are read is read. -/
theorem Reads.array {texts : List (List Char)} {values : List Json}
    (h : List.Forall₂ (Reads hooks) texts values) : Reads hooks (writeArray texts) (.arr values) := by
  refine ⟨.complete (.arr values), runs_cons.mpr ⟨([.items []], .firstItem), rfl, ?_⟩, rfl⟩
  cases h with
  | nil => exact runs_cons.mpr ⟨_, rfl, runs_nil.mpr rfl⟩
  | cons hhead htail =>
    exact runs_firstItem (runs_items (.cons hhead htail) (List.cons_ne_nil _ _) [] []) (by simp)

/-- Reads one member and the delimiter behind it. -/
theorem runs_member {done : List (String × Json)} {below : List Frame} {key : String}
    {text : List Char} {value : Json} (h : Reads hooks text value) {c : Char}
    (hc : isDelimiter c = true) {mode : Mode} {state final : State}
    (hmode : step hooks (.members done :: below, mode) '"' =
      .ok (.members done :: below, .text true [] false))
    (hafter : after hooks value c (.member done key :: below) = .ok state) (rest : List Char)
    (hrest : RunsTo (step hooks) state rest final) :
    RunsTo (step hooks) (.members done :: below, mode) (writeMember (key, text) ++ c :: rest)
      final := by
  have hkey : RunsTo (step hooks) (.members done :: below, .text true [] false)
      (key.toList.flatMap escape ++ ['"', ':']) (.member done key :: below, .value) :=
    runs_key done below key
  have hvalue := h.runs hc hafter rest hrest
  have hboth := runs_cons.mpr ⟨_, hmode, runs_append.mpr ⟨_, hkey, hvalue⟩⟩
  simpa [writeMember, quote] using hboth

theorem runs_members {texts : List (String × List Char)} {members : List (String × Json)}
    (h : List.Forall₂ (fun text member => text.1 = member.1 ∧ Reads hooks text.2 member.2)
      texts members) (hne : members ≠ []) {done : List (String × Json)} {below : List Frame}
    {mode : Mode} {object : Json}
    (hmode : step hooks (.members done :: below, mode) '"' =
      .ok (.members done :: below, .text true [] false))
    (hobject : hooks.object (done ++ members) = .ok object) :
    RunsTo (step hooks) (.members done :: below, mode)
      (Json.commaSeparated (texts.map writeMember) ++ [Char.ofNat 0x7d])
      (below, .complete object) := by
  induction h generalizing done mode with
  | nil => exact absurd rfl hne
  | cons hhead htail ih =>
    rename_i text member texts members
    obtain ⟨hkey, hvalue⟩ := hhead
    obtain ⟨key, text⟩ := text
    obtain ⟨key', value⟩ := member
    obtain rfl : key = key' := hkey
    cases htail with
    | nil =>
      rw [List.map_cons, List.map_nil, commaSeparated_singleton]
      have hafter : after hooks value (Char.ofNat 0x7d) (.member done key :: below) =
          .ok (below, .complete object) := by
        simp [after, hobject, Except.map]
      exact runs_member hvalue rfl hmode hafter [] (runs_nil.mpr rfl)
    | cons hsecond hothers =>
      have hnext : step hooks (.members (done ++ [(key, value)]) :: below, .key) '"' =
          .ok (.members (done ++ [(key, value)]) :: below, .text true [] false) := rfl
      have hrest := ih (List.cons_ne_nil _ _) hnext
        (by rwa [List.append_assoc, List.singleton_append])
      rw [List.map_cons, List.map_cons, commaSeparated_cons_cons, List.append_assoc,
        List.cons_append]
      exact runs_member hvalue rfl hmode rfl _ hrest

/-- Keys in order are left in order. -/
theorem sortMembers_eq {texts : List (String × List Char)}
    (h : texts.Pairwise fun a b => a.1 < b.1) : Json.sortMembers texts = texts :=
  (h.imp le_of_lt).insertionSort_eq

/-- An object of members that are read is read, if the caller makes `object` of them. -/
theorem Reads.object {texts : List (String × List Char)} {members : List (String × Json)}
    (h : List.Forall₂ (fun text member => text.1 = member.1 ∧ Reads hooks text.2 member.2)
      texts members) (hsorted : texts.Pairwise fun a b => a.1 < b.1) {object : Json}
    (hobject : hooks.object members = .ok object) : Reads hooks (writeObject texts) object := by
  refine ⟨.complete object, runs_cons.mpr ⟨([.members []], .firstKey), rfl, ?_⟩, rfl⟩
  rw [sortMembers_eq hsorted]
  cases h with
  | nil =>
    have hclose : step hooks ([.members []], .firstKey) (Char.ofNat 0x7d) =
        .ok ([], .complete object) := by
      simp [step, hobject, Except.map]
    exact runs_cons.mpr ⟨_, hclose, runs_nil.mpr rfl⟩
  | cons hhead htail => exact runs_members (.cons hhead htail) (List.cons_ne_nil _ _) rfl hobject

/-- The order of members does not show in what is written. -/
theorem writeObject_perm {texts texts' : List (String × List Char)} (hperm : texts.Perm texts')
    (hnodup : (texts.map Prod.fst).Nodup) : writeObject texts = writeObject texts' := by
  have htotal : Std.Total fun a b : String × List Char => a.1 ≤ b.1 := ⟨fun a b => le_total a.1 b.1⟩
  have htrans : IsTrans (String × List Char) fun a b => a.1 ≤ b.1 := ⟨fun _ _ _ => le_trans⟩
  have hsorted : Json.sortMembers texts = Json.sortMembers texts' := by
    refine List.Perm.eq_of_pairwise ?_ (List.pairwise_insertionSort _ texts)
      (List.pairwise_insertionSort _ texts') ?_
    · intro a b ha hb hab hba
      have hmem : a ∈ texts := (List.perm_insertionSort _ _).mem_iff.mp ha
      have hmem' : b ∈ texts := hperm.mem_iff.mpr ((List.perm_insertionSort _ _).mem_iff.mp hb)
      exact List.inj_on_of_nodup_map hnodup hmem hmem' (le_antisymm hab hba)
    · exact (List.perm_insertionSort _ _).trans
        (hperm.trans (List.perm_insertionSort _ _).symm)
  rw [writeObject, writeObject, hsorted]

end Python.JsonText
