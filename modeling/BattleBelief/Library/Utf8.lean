import BattleBelief.Library.PythonText

/-!
# UTF-8

Decoding takes encoding back, for every text: a character is read from its own bytes, whatever
bytes come after them.
-/

namespace Python

/-! ## §1 One character -/

theorem toNat_ofNat_byte {n : Nat} (h : n < 256) : (UInt8.ofNat n).toNat = n := by
  rw [UInt8.toNat_ofNat', Nat.mod_eq_of_lt h]

theorem headUtf8_two {a b : Nat} (rest : List Nat) (ha : 0xc2 ≤ a ∧ a < 0xe0)
    (hb : 0x80 ≤ b ∧ b < 0xc0) :
    headUtf8 (a :: b :: rest) = some (Char.ofNat ((a - 0xc0) * 0x40 + (b - 0x80)), 2) := by
  have hvalid : ((a - 0xc0) * 0x40 + (b - 0x80)).isValidChar := by
    left; omega
  have hleast : 0x80 ≤ (a - 0xc0) * 0x40 + (b - 0x80) := by omega
  have h1 : ¬a < 0x80 := by omega
  have h2 : 0xc0 ≤ a := by omega
  simp [headUtf8, h1, h2, ha.2, hb, hleast, hvalid]

theorem headUtf8_three {a b c : Nat} (rest : List Nat) (ha : 0xe0 ≤ a ∧ a < 0xf0)
    (hb : 0x80 ≤ b ∧ b < 0xc0) (hc : 0x80 ≤ c ∧ c < 0xc0)
    (hleast : 0x800 ≤ ((a - 0xe0) * 0x40 + (b - 0x80)) * 0x40 + (c - 0x80))
    (hvalid : (((a - 0xe0) * 0x40 + (b - 0x80)) * 0x40 + (c - 0x80)).isValidChar) :
    headUtf8 (a :: b :: c :: rest) =
      some (Char.ofNat (((a - 0xe0) * 0x40 + (b - 0x80)) * 0x40 + (c - 0x80)), 3) := by
  have h1 : ¬a < 0x80 := by omega
  have h2 : ¬(0xc0 ≤ a ∧ a < 0xe0) := by omega
  simp [headUtf8, h1, h2, ha, hb, hc, hleast, hvalid]

theorem headUtf8_four {a b c d : Nat} (rest : List Nat) (ha : 0xf0 ≤ a ∧ a < 0xf8)
    (hb : 0x80 ≤ b ∧ b < 0xc0) (hc : 0x80 ≤ c ∧ c < 0xc0) (hd : 0x80 ≤ d ∧ d < 0xc0)
    (hleast : 0x10000 ≤
      (((a - 0xf0) * 0x40 + (b - 0x80)) * 0x40 + (c - 0x80)) * 0x40 + (d - 0x80))
    (hvalid : ((((a - 0xf0) * 0x40 + (b - 0x80)) * 0x40 + (c - 0x80)) * 0x40 +
      (d - 0x80)).isValidChar) :
    headUtf8 (a :: b :: c :: d :: rest) =
      some (Char.ofNat ((((a - 0xf0) * 0x40 + (b - 0x80)) * 0x40 + (c - 0x80)) * 0x40 +
        (d - 0x80)), 4) := by
  have h1 : ¬a < 0x80 := by omega
  have h2 : ¬(0xc0 ≤ a ∧ a < 0xe0) := by omega
  have h3 : ¬(0xe0 ≤ a ∧ a < 0xf0) := by omega
  simp [headUtf8, h1, h2, h3, ha, hb, hc, hd, hleast, hvalid]

/-- The bytes of one character, before any others. -/
theorem headUtf8_encodeUtf8 (c : Char) (rest : List Nat) :
    headUtf8 (encodeUtf8 [c] ++ rest) = some (c, (encodeUtf8 [c]).length) := by
  have hvalid : c.toNat.isValidChar := c.valid
  have hself : Char.ofNat c.toNat = c := Char.ofNat_toNat c
  have hlt : c.toNat < 0x110000 := by
    rcases hvalid with h | h
    · omega
    · exact h.2
  have hval : c.val.toNat = c.toNat := rfl
  simp only [encodeUtf8, List.flatMap_cons, List.flatMap_nil, List.append_nil,
    String.utf8EncodeChar, hval]
  generalize c.toNat = n at hvalid hself hlt
  by_cases h1 : n ≤ 0x7f
  · have hone : n < 0x80 := by omega
    simp [h1, headUtf8, hone, hself, Nat.mod_eq_of_lt (show n < 256 by omega)]
  by_cases h2 : n ≤ 0x7ff
  · have ha : (UInt8.ofNat (n / 64 % 0x20 + 0xc0)).toNat = n / 64 + 0xc0 := by
      rw [toNat_ofNat_byte (by omega)]
      omega
    have hb : (UInt8.ofNat (n % 0x40 + 0x80)).toNat = n % 0x40 + 0x80 :=
      toNat_ofNat_byte (by omega)
    have hn : (n / 64 + 0xc0 - 0xc0) * 0x40 + (n % 0x40 + 0x80 - 0x80) = n := by omega
    have hhead := headUtf8_two rest (a := n / 64 + 0xc0) (b := n % 0x40 + 0x80) (by omega)
      (by omega)
    rw [hn, hself] at hhead
    rw [if_neg h1, if_pos h2, List.map_cons, List.map_cons, List.map_nil, ha, hb]
    exact hhead
  by_cases h3 : n ≤ 0xffff
  · have ha : (UInt8.ofNat (n / 4096 % 0x10 + 0xe0)).toNat = n / 4096 + 0xe0 := by
      rw [toNat_ofNat_byte (by omega)]
      omega
    have hb : (UInt8.ofNat (n / 64 % 0x40 + 0x80)).toNat = n / 64 % 0x40 + 0x80 :=
      toNat_ofNat_byte (by omega)
    have hc : (UInt8.ofNat (n % 0x40 + 0x80)).toNat = n % 0x40 + 0x80 :=
      toNat_ofNat_byte (by omega)
    have hn : ((n / 4096 + 0xe0 - 0xe0) * 0x40 + (n / 64 % 0x40 + 0x80 - 0x80)) * 0x40 +
        (n % 0x40 + 0x80 - 0x80) = n := by omega
    have hhead := headUtf8_three rest (a := n / 4096 + 0xe0) (b := n / 64 % 0x40 + 0x80)
      (c := n % 0x40 + 0x80) (by omega) (by omega) (by omega) (by omega) (by rwa [hn])
    rw [hn, hself] at hhead
    rw [if_neg h1, if_neg h2, if_pos h3, List.map_cons, List.map_cons, List.map_cons, List.map_nil,
      ha, hb, hc]
    exact hhead
  · have ha : (UInt8.ofNat (n / 262144 % 0x08 + 0xf0)).toNat = n / 262144 + 0xf0 := by
      rw [toNat_ofNat_byte (by omega)]
      omega
    have hb : (UInt8.ofNat (n / 4096 % 0x40 + 0x80)).toNat = n / 4096 % 0x40 + 0x80 :=
      toNat_ofNat_byte (by omega)
    have hc : (UInt8.ofNat (n / 64 % 0x40 + 0x80)).toNat = n / 64 % 0x40 + 0x80 :=
      toNat_ofNat_byte (by omega)
    have hd : (UInt8.ofNat (n % 0x40 + 0x80)).toNat = n % 0x40 + 0x80 :=
      toNat_ofNat_byte (by omega)
    have hn : (((n / 262144 + 0xf0 - 0xf0) * 0x40 + (n / 4096 % 0x40 + 0x80 - 0x80)) * 0x40 +
        (n / 64 % 0x40 + 0x80 - 0x80)) * 0x40 + (n % 0x40 + 0x80 - 0x80) = n := by omega
    have hhead := headUtf8_four rest (a := n / 262144 + 0xf0) (b := n / 4096 % 0x40 + 0x80)
      (c := n / 64 % 0x40 + 0x80) (d := n % 0x40 + 0x80) (by omega) (by omega) (by omega) (by omega)
      (by omega) (by rwa [hn])
    rw [hn, hself] at hhead
    rw [if_neg h1, if_neg h2, if_neg h3, List.map_cons, List.map_cons, List.map_cons,
      List.map_cons, List.map_nil, ha, hb, hc, hd]
    exact hhead

/-! ## §2 Texts -/

theorem encodeUtf8_cons (c : Char) (text : List Char) :
    encodeUtf8 (c :: text) = encodeUtf8 [c] ++ encodeUtf8 text := by
  simp [encodeUtf8]

theorem decodeUtf8From_skip (first rest : List Nat) :
    decodeUtf8From first.length (first ++ rest) = decodeUtf8From 0 rest := by
  induction first with
  | nil => rfl
  | cons b first ih => exact ih

theorem decodeUtf8From_encodeUtf8 (text : List Char) :
    decodeUtf8From 0 (encodeUtf8 text) = some text := by
  induction text with
  | nil => rfl
  | cons c text ih =>
    have hhead := headUtf8_encodeUtf8 c (encodeUtf8 text)
    rw [encodeUtf8_cons]
    cases hbytes : encodeUtf8 [c] with
    | nil =>
      have hnone := headUtf8_encodeUtf8 c []
      rw [hbytes] at hnone
      cases hnone
    | cons a first =>
      rw [hbytes, List.cons_append] at hhead
      rw [List.cons_append, decodeUtf8From, hhead, Option.bind_some]
      dsimp only
      rw [List.length_cons, Nat.add_sub_cancel, decodeUtf8From_skip, ih, Option.map_some]

/-- Decoding takes encoding back. -/
theorem decodeUtf8_encodeUtf8 (text : List Char) :
    decodeUtf8 (encodeUtf8 text) = some (String.ofList text) := by
  rw [decodeUtf8, decodeUtf8From_encodeUtf8, Option.map_some]

/-! ## §3 ASCII bytes -/

/-- The bytes of a character outside ASCII are not ASCII. -/
theorem ascii_of_mem_encodeUtf8 {c : Char} {n : Nat} (hmem : n ∈ encodeUtf8 [c]) (hn : n < 128) :
    c = Char.ofNat n := by
  have hself : Char.ofNat c.toNat = c := Char.ofNat_toNat c
  have hval : c.val.toNat = c.toNat := rfl
  simp only [encodeUtf8, List.flatMap_cons, List.flatMap_nil, List.append_nil,
    String.utf8EncodeChar, hval] at hmem
  rw [← hself]
  generalize c.toNat = m at hmem
  have hbyte : ∀ low high : Nat, 128 ≤ high → low + high < 256 → n ≠ (UInt8.ofNat (low + high)).toNat := by
    intro low high hhigh hlt heq
    rw [toNat_ofNat_byte hlt] at heq
    omega
  split_ifs at hmem with h1 h2 h3
  · rw [List.map_cons, List.map_nil, List.mem_singleton, toNat_ofNat_byte (by omega)] at hmem
    rw [hmem]
  · simp only [List.map_cons, List.map_nil, List.mem_cons, List.not_mem_nil, or_false] at hmem
    rcases hmem with hmem | hmem
    · exact absurd hmem (hbyte _ _ (by omega) (by omega))
    · exact absurd hmem (hbyte _ _ (by omega) (by omega))
  · simp only [List.map_cons, List.map_nil, List.mem_cons, List.not_mem_nil, or_false] at hmem
    rcases hmem with hmem | hmem | hmem
    · exact absurd hmem (hbyte _ _ (by omega) (by omega))
    · exact absurd hmem (hbyte _ _ (by omega) (by omega))
    · exact absurd hmem (hbyte _ _ (by omega) (by omega))
  · simp only [List.map_cons, List.map_nil, List.mem_cons, List.not_mem_nil, or_false] at hmem
    rcases hmem with hmem | hmem | hmem | hmem
    · exact absurd hmem (hbyte _ _ (by omega) (by omega))
    · exact absurd hmem (hbyte _ _ (by omega) (by omega))
    · exact absurd hmem (hbyte _ _ (by omega) (by omega))
    · exact absurd hmem (hbyte _ _ (by omega) (by omega))

/-- An ASCII byte is a character of the text. -/
theorem mem_of_mem_encodeUtf8 {text : List Char} {n : Nat} (hmem : n ∈ encodeUtf8 text)
    (hn : n < 128) : Char.ofNat n ∈ text := by
  induction text with
  | nil => cases hmem
  | cons c text ih =>
    rw [encodeUtf8_cons, List.mem_append] at hmem
    rcases hmem with hfirst | hrest
    · rw [ascii_of_mem_encodeUtf8 hfirst hn]
      exact List.mem_cons_self
    · exact List.mem_cons_of_mem c (ih hrest)

end Python
