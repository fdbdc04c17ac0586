import BattleBelief.Library.PythonJson
import BattleBelief.Library.Utf8

/-!
# JSON Lines

The compact text of a document has no line feed in it: in a string it is escaped, and there is no
white space between tokens. So documents can be put into a file with one of them to a line.

- `lineFeed_notMem_dumps`: no plain value has a line feed in its text
- `lineFeed_notMem_bytes`: nor in its bytes
-/

namespace Python.Json

/-! ## §1 Tokens -/

theorem mem_toDigits_hex {n : Nat} {c : Char} (h : c ∈ Nat.toDigits 16 n) :
    ∃ d < 16, c = Nat.digitChar d := by
  induction n using Nat.strongRecOn with
  | ind n ih =>
    by_cases hsmall : n < 16
    · rw [Nat.toDigits_of_lt_base hsmall, List.mem_singleton] at h
      exact ⟨n, hsmall, h⟩
    · rw [Nat.toDigits_of_base_le (by decide) (not_lt.mp hsmall), List.mem_append,
        List.mem_singleton] at h
      rcases h with hhigh | hlow
      · exact ih (n / 16) (by omega) hhigh
      · exact ⟨n % 16, Nat.mod_lt n (by decide), hlow⟩

theorem lineFeed_notMem_hexDigits (width n : Nat) : '\n' ∉ hexDigits width n := by
  have hdigits : ∀ d < 16, '\n' ≠ Nat.digitChar d := by decide
  simp only [hexDigits, List.mem_append, List.mem_replicate, not_or]
  constructor
  · rintro ⟨-, hzero⟩
    cases hzero
  · intro hmem
    obtain ⟨d, hd, heq⟩ := mem_toDigits_hex hmem
    exact hdigits d hd heq

theorem lineFeed_notMem_unicodeEscape (n : Nat) : '\n' ∉ unicodeEscape n := by
  simp [unicodeEscape, lineFeed_notMem_hexDigits]

/-- An escaped character does not break the line. -/
theorem lineFeed_notMem_escapeChar (c : Char) : '\n' ∉ escapeChar c := by
  unfold escapeChar
  split_ifs with hquoted hfeed
  · -- a quote or a backslash, which is not the line feed
    rw [Bool.or_eq_true, decide_eq_true_eq, decide_eq_true_eq] at hquoted
    rcases hquoted with rfl | rfl <;> decide
  all_goals simp [lineFeed_notMem_unicodeEscape]
  exact fun heq => hfeed heq.symm

theorem lineFeed_notMem_quote (s : String) : '\n' ∉ quote s := by
  simp only [quote, List.cons_append, List.mem_cons, List.mem_append, List.mem_flatMap,
    List.not_mem_nil, or_false]
  rintro (hstart | ⟨c, -, hc⟩ | hend)
  · cases hstart
  · exact lineFeed_notMem_escapeChar c hc
  · cases hend

/-- A number has only digits, and a sign. -/
theorem notMem_toString_int {c : Char} (hdigit : c.isDigit = false) (hsign : c ≠ '-') (value : Int) :
    c ∉ (toString value).toList := by
  have hnat : ∀ n : Nat, c ∉ Nat.toDigits 10 n := by
    intro n hmem
    rw [Nat.isDigit_of_mem_toDigits (by decide) (by decide) hmem] at hdigit
    cases hdigit
  cases value with
  | ofNat n => simpa [toString, Int.repr] using hnat n
  | negSucc n => simpa [toString, Int.repr, hsign] using hnat (n + 1)

theorem lineFeed_notMem_int (value : Int) : '\n' ∉ (toString value).toList :=
  notMem_toString_int rfl (by decide) value

theorem lineFeed_notMem_commaSeparated {parts : List (List Char)}
    (h : ∀ part ∈ parts, '\n' ∉ part) : '\n' ∉ commaSeparated parts := by
  induction parts with
  | nil => simp [commaSeparated]
  | cons part rest ih =>
    rw [List.forall_mem_cons] at h
    cases rest with
    | nil => simpa [commaSeparated] using h.1
    | cons next rest =>
      have hrest := ih h.2
      simp only [commaSeparated] at hrest ⊢
      simp [h.1, hrest]

/-! ## §2 Values -/

mutual

/-- No plain value has a line feed in its text. -/
theorem lineFeed_notMem_dumps : ∀ {value : Json}, value.isPlain = true → '\n' ∉ value.dumps
  | null, _ => by decide
  | bool true, _ => by decide
  | bool false, _ => by decide
  | int value, _ => lineFeed_notMem_int value
  | float _, h => by cases h
  | str value, _ => lineFeed_notMem_quote value
  | arr items, h => by
      have hparts := lineFeed_notMem_commaSeparated (lineFeed_notMem_dumpItems h)
      simp [dumps, hparts]
  | obj members, h => by
      have hmembers := lineFeed_notMem_dumpMembers h
      have hparts : ∀ part ∈ (sortMembers (dumpMembers members)).map
          (fun part => quote part.1 ++ ':' :: part.2), '\n' ∉ part := by
        intro text htext
        obtain ⟨part, hpart, rfl⟩ := List.mem_map.mp htext
        have hdumped := hmembers part ((List.perm_insertionSort _ _).mem_iff.mp hpart)
        simp [lineFeed_notMem_quote, hdumped]
      have hjoined := lineFeed_notMem_commaSeparated hparts
      simpa [dumps] using hjoined

theorem lineFeed_notMem_dumpItems : ∀ {items : List Json}, itemsPlain items = true →
    ∀ part ∈ dumpItems items, '\n' ∉ part
  | [], _ => by simp [dumpItems]
  | item :: rest, h => by
      rw [itemsPlain, Bool.and_eq_true] at h
      rw [dumpItems, List.forall_mem_cons]
      exact ⟨lineFeed_notMem_dumps h.1, lineFeed_notMem_dumpItems h.2⟩

theorem lineFeed_notMem_dumpMembers : ∀ {members : List (String × Json)},
    membersPlain members = true → ∀ part ∈ dumpMembers members, '\n' ∉ part.2
  | [], _ => by simp [dumpMembers]
  | (_, value) :: rest, h => by
      rw [membersPlain, Bool.and_eq_true] at h
      rw [dumpMembers, List.forall_mem_cons]
      exact ⟨lineFeed_notMem_dumps h.1, lineFeed_notMem_dumpMembers h.2⟩

end

/-- The bytes of a plain value have no line feed. -/
theorem lineFeed_notMem_bytes {value : Json} (h : value.isPlain = true) :
    10 ∉ encodeUtf8 value.dumps := by
  intro hmem
  exact lineFeed_notMem_dumps h (mem_of_mem_encodeUtf8 hmem (by decide))

end Python.Json
