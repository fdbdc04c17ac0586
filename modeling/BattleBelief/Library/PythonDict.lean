import Mathlib.Data.List.Sort

/-!
# Python Dictionaries

An insertion-ordered dictionary as the list of its items, with no key twice. The operations are
assignment, `get`, `pop`, the constructor from pairs and `sorted(items())`.

Proofs use `split_at`: a dictionary that has a key is, up to order, that key's item next to a
rest without the key, and assignment and `pop` act on the item alone.
-/

namespace Python.Dict

universe u v

variable {κ : Type u} {ν : Type v} [DecidableEq κ]

/-- The keys, in insertion order. -/
def keys (dict : List (κ × ν)) : List κ := dict.map Prod.fst

/-- `dict[key] = value`. -/
def assign (dict : List (κ × ν)) (key : κ) (value : ν) : List (κ × ν) :=
  match dict with
  | [] => [(key, value)]
  | (key', value') :: rest =>
      if key' = key then (key, value) :: rest else (key', value') :: assign rest key value

/-- `dict.get(key)`. -/
def get? (dict : List (κ × ν)) (key : κ) : Option ν :=
  (dict.find? fun item => item.1 = key).map Prod.snd

/-- `dict.pop(key, None)`, for its effect. -/
def pop (dict : List (κ × ν)) (key : κ) : List (κ × ν) :=
  dict.filter fun item => item.1 ≠ key

/-- `set(first) == set(second)`, on two sequences. -/
def sameSet (first second : List κ) : Bool :=
  first.all (fun key => key ∈ second) && second.all fun key => key ∈ first

/-- `dict(pairs)`: a later pair overrides an earlier one with its key. -/
def ofPairs (pairs : List (κ × ν)) : List (κ × ν) :=
  pairs.foldl (fun dict item => assign dict item.1 item.2) []

theorem sameSet_iff {first second : List κ} :
    sameSet first second = true ↔ ∀ key, key ∈ first ↔ key ∈ second := by
  simp only [sameSet, Bool.and_eq_true, List.all_eq_true, decide_eq_true_eq]
  exact ⟨fun h key => ⟨h.1 key, h.2 key⟩, fun h => ⟨fun key => (h key).mp, fun key => (h key).mpr⟩⟩

/-- The items before come first. -/
theorem get?_append (first rest : List (κ × ν)) (key : κ) :
    get? (first ++ rest) key = (get? first key).or (get? rest key) := by
  rw [get?, List.find?_append, Option.map_or]
  rfl

/-! ## Section 1: Assignment and pop around one item -/

omit [DecidableEq κ] in
theorem keys_cons (item : κ × ν) (dict : List (κ × ν)) :
    keys (item :: dict) = item.1 :: keys dict := rfl

/-- Assignment to a key that is not there appends its item. -/
theorem assign_of_notMem {dict : List (κ × ν)} {key : κ} (value : ν)
    (h : key ∉ keys dict) : assign dict key value = dict ++ [(key, value)] := by
  induction dict with
  | nil => rfl
  | cons item rest ih =>
    rw [keys_cons, List.mem_cons, not_or] at h
    obtain ⟨hne, hrest⟩ := h
    rw [assign, if_neg (Ne.symm hne), ih hrest, List.cons_append]

/-- `pop` of a key that is not there changes nothing. -/
theorem pop_of_notMem {dict : List (κ × ν)} {key : κ} (h : key ∉ keys dict) :
    pop dict key = dict := by
  refine List.filter_eq_self.mpr fun item hitem => ?_
  have hne : item.1 ≠ key := fun heq => h (heq ▸ List.mem_map_of_mem hitem)
  simpa using hne

/-- A dictionary with `key` is its item next to a rest without `key`. -/
theorem split_at {dict : List (κ × ν)} {key : κ} (hnodup : (keys dict).Nodup)
    (h : key ∈ keys dict) :
    ∃ old rest, dict.Perm ((key, old) :: rest) ∧ key ∉ keys rest ∧
      get? dict key = some old ∧
      pop dict key = rest ∧ ∀ value, (assign dict key value).Perm ((key, value) :: rest) := by
  induction dict with
  | nil => simp [keys] at h
  | cons item dict ih =>
    obtain ⟨key', value'⟩ := item
    obtain ⟨hnotMem, htail⟩ := List.nodup_cons.mp hnodup
    by_cases hkey : key' = key
    · subst hkey
      refine ⟨value', dict, List.Perm.refl _, hnotMem, ?_, ?_, fun value => ?_⟩
      · simp [get?]
      · have hpop : pop ((key', value') :: dict) key' = pop dict key' := by simp [pop]
        rw [hpop, pop_of_notMem hnotMem]
      · simp [assign]
    · have hmem : key ∈ keys dict := by
        rw [keys_cons, List.mem_cons] at h
        exact h.resolve_left fun heq => hkey heq.symm
      obtain ⟨old, rest, hperm, hrest, hget, hpop, hassign⟩ := ih htail hmem
      refine ⟨old, (key', value') :: rest, ?_, ?_, ?_, ?_, fun value => ?_⟩
      · exact (hperm.cons _).trans (List.Perm.swap _ _ _)
      · rw [keys_cons, List.mem_cons, not_or]
        exact ⟨fun heq => hkey heq.symm, hrest⟩
      · rw [← hget]
        simp [get?, hkey]
      · rw [← hpop]
        simp [pop, hkey]
      · rw [assign, if_neg hkey]
        exact ((hassign value).cons _).trans (List.Perm.swap _ _ _)

theorem get?_of_notMem {dict : List (κ × ν)} {key : κ} (h : key ∉ keys dict) :
    get? dict key = none := by
  rw [get?, Option.map_eq_none_iff, List.find?_eq_none]
  intro item hitem heq
  exact h (of_decide_eq_true heq ▸ List.mem_map_of_mem hitem)

/-! ## Section 2: What assignment changes -/

/-- A key that is assigned to keeps its place, and a new one comes last. -/
theorem keys_assign (dict : List (κ × ν)) (key : κ) (value : ν) :
    keys (assign dict key value) = if key ∈ keys dict then keys dict else keys dict ++ [key] := by
  induction dict with
  | nil => rfl
  | cons item rest ih =>
    by_cases hkey : item.1 = key
    · simp [assign, keys, hkey]
    · have hiff : key ∈ keys (item :: rest) ↔ key ∈ keys rest := by
        simp [keys_cons, Ne.symm hkey]
      rw [assign, if_neg hkey, keys_cons, ih]
      simp only [hiff]
      split_ifs <;> simp [keys_cons]

theorem nodup_keys_assign {dict : List (κ × ν)} (h : (keys dict).Nodup) (key : κ) (value : ν) :
    (keys (assign dict key value)).Nodup := by
  rw [keys_assign]
  split_ifs with hmem
  · exact h
  · exact List.nodup_append.mpr ⟨h, List.nodup_singleton key, by
      rintro other hother _ (_ | ⟨_, ⟨⟩⟩) rfl
      exact hmem hother⟩

@[simp] theorem mem_keys_assign {dict : List (κ × ν)} {key other : κ} {value : ν} :
    other ∈ keys (assign dict key value) ↔ other = key ∨ other ∈ keys dict := by
  rw [keys_assign]
  split_ifs with hmem
  · exact ⟨Or.inr, fun h => h.elim (fun heq => heq ▸ hmem) id⟩
  · rw [List.mem_append, List.mem_singleton, or_comm]

theorem get?_cons (item : κ × ν) (dict : List (κ × ν)) (key : κ) :
    get? (item :: dict) key = if item.1 = key then some item.2 else get? dict key := by
  by_cases hkey : item.1 = key <;> simp [get?, hkey]

/-- Assignment changes the value of its own key only. -/
theorem get?_assign (dict : List (κ × ν)) (key other : κ) (value : ν) :
    get? (assign dict key value) other = if other = key then some value else get? dict other := by
  induction dict with
  | nil =>
    rw [assign, get?_cons]
    simp [get?, eq_comm]
  | cons item rest ih =>
    by_cases hkey : item.1 = key
    · rw [assign, if_pos hkey, get?_cons, get?_cons, hkey]
      split_ifs <;> simp_all
    · rw [assign, if_neg hkey, get?_cons, get?_cons, ih]
      split_ifs <;> simp_all

theorem mem_keys_iff {dict : List (κ × ν)} {key : κ} :
    key ∈ keys dict ↔ ∃ value, get? dict key = some value := by
  induction dict with
  | nil => simp [keys, get?]
  | cons item rest ih =>
    rw [keys_cons, List.mem_cons, get?_cons, ih]
    by_cases hkey : item.1 = key
    · simp [hkey]
    · simp [hkey, Ne.symm hkey]

/-- An item is found under its key. -/
theorem get?_of_mem {dict : List (κ × ν)} (h : (keys dict).Nodup) {item : κ × ν}
    (hmem : item ∈ dict) : get? dict item.1 = some item.2 := by
  induction dict with
  | nil => cases hmem
  | cons head rest ih =>
    rw [keys_cons, List.nodup_cons] at h
    rw [get?_cons]
    rcases List.mem_cons.mp hmem with rfl | hrest
    · rw [if_pos rfl]
    · have hne : head.1 ≠ item.1 := fun heq => h.1 (heq ▸ List.mem_map_of_mem hrest)
      rw [if_neg hne]
      exact ih h.2 hrest

/-- What is found under a key is one of the items. -/
theorem mem_of_get? {dict : List (κ × ν)} {key : κ} {value : ν} (h : get? dict key = some value) :
    (key, value) ∈ dict := by
  induction dict with
  | nil => cases h
  | cons item rest ih =>
    rw [get?_cons] at h
    by_cases hkey : item.1 = key
    · rw [if_pos hkey] at h
      obtain rfl := Option.some.inj h
      exact hkey ▸ List.mem_cons_self
    · rw [if_neg hkey] at h
      exact List.mem_cons_of_mem _ (ih h)

/-! ## Section 3: Construction and order -/

theorem foldl_assign {dict pairs : List (κ × ν)} (h : (keys (dict ++ pairs)).Nodup) :
    pairs.foldl (fun dict item => assign dict item.1 item.2) dict = dict ++ pairs := by
  induction pairs generalizing dict with
  | nil => simp
  | cons item rest ih =>
    have hkeys : keys (dict ++ item :: rest) = keys dict ++ item.1 :: keys rest := by
      simp [keys]
    have hnotMem : item.1 ∉ keys dict := by
      rw [hkeys] at h
      intro hmem
      exact (List.nodup_append.mp h).2.2 item.1 hmem item.1 List.mem_cons_self rfl
    rw [List.foldl_cons, assign_of_notMem item.2 hnotMem, ih (by simpa using h)]
    simp

/-- Pairs without a repeated key are the dictionary built from them. -/
theorem ofPairs_of_nodup {pairs : List (κ × ν)} (h : (keys pairs).Nodup) :
    ofPairs pairs = pairs := by
  rw [ofPairs, foldl_assign (by simpa using h), List.nil_append]

/-- Building a dictionary keeps an invariant that every assignment keeps. -/
theorem ofPairs_invariant {I : List (κ × ν) → Prop} {pairs : List (κ × ν)} (hnil : I [])
    (hassign : ∀ dict, I dict → ∀ item ∈ pairs, I (assign dict item.1 item.2)) :
    I (ofPairs pairs) :=
  List.foldlRecOn pairs _ hnil hassign

theorem nodup_keys_ofPairs (pairs : List (κ × ν)) : (keys (ofPairs pairs)).Nodup :=
  ofPairs_invariant (I := fun dict => (keys dict).Nodup) List.nodup_nil
    fun _ h item _ => nodup_keys_assign h item.1 item.2

theorem mem_keys_ofPairs {pairs : List (κ × ν)} {key : κ} :
    key ∈ keys (ofPairs pairs) ↔ key ∈ keys pairs := by
  suffices h : ∀ dict : List (κ × ν),
      key ∈ keys (pairs.foldl (fun dict item => assign dict item.1 item.2) dict) ↔
        key ∈ keys dict ∨ key ∈ keys pairs by
    simpa [keys, ofPairs] using h []
  induction pairs with
  | nil => simp [keys]
  | cons item rest ih =>
    intro dict
    rw [List.foldl_cons, ih, mem_keys_assign, keys_cons, List.mem_cons]
    tauto

/-- In `dict(pairs)` a key has the value of its last pair. -/
theorem get?_ofPairs_eq (pairs : List (κ × ν)) (key : κ) :
    get? (ofPairs pairs) key = get? pairs.reverse key := by
  suffices h : ∀ dict : List (κ × ν),
      get? (pairs.foldl (fun dict item => assign dict item.1 item.2) dict) key =
        (get? pairs.reverse key).or (get? dict key) by
    rw [ofPairs, h []]
    exact Option.or_none
  induction pairs with
  | nil =>
    intro dict
    rfl
  | cons item rest ih =>
    intro dict
    rw [List.foldl_cons, ih, List.reverse_cons, get?_append, Option.or_assoc, get?_assign,
      get?_cons]
    by_cases hkey : key = item.1
    · simp [hkey]
    · rw [if_neg hkey, if_neg (Ne.symm hkey)]
      rfl

/-- Pairs whose value is a function of their key make a dictionary of this function. -/
theorem get?_ofPairs {pairs : List (κ × ν)} {f : κ → ν} (h : ∀ item ∈ pairs, item.2 = f item.1)
    {key : κ} (hkey : key ∈ keys pairs) : get? (ofPairs pairs) key = some (f key) := by
  have hall : ∀ other value, get? (ofPairs pairs) other = some value → value = f other := by
    refine ofPairs_invariant
      (I := fun dict => ∀ other value, get? dict other = some value → value = f other) ?_ ?_
    · intro other value hget
      cases hget
    · intro dict hdict item hitem other value hget
      rw [get?_assign] at hget
      split_ifs at hget with heq
      · rw [← Option.some.inj hget, h item hitem, heq]
      · exact hdict other value hget
  obtain ⟨value, hvalue⟩ := mem_keys_iff.mp (mem_keys_ofPairs.mpr hkey)
  rw [hvalue, hall key value hvalue]

variable [LinearOrder κ] [LinearOrder ν]

/-- The order of items as tuples. -/
def itemLe (a b : κ × ν) : Prop := a.1 < b.1 ∨ a.1 = b.1 ∧ a.2 ≤ b.2

instance (a b : κ × ν) : Decidable (itemLe a b) :=
  inferInstanceAs (Decidable (_ ∨ _ ∧ _))

/-- `sorted(dict.items())`. -/
def sortedItems (dict : List (κ × ν)) : List (κ × ν) := dict.insertionSort itemLe

theorem perm_sortedItems (dict : List (κ × ν)) : (sortedItems dict).Perm dict :=
  List.perm_insertionSort _ _

theorem pairwise_sortedItems (dict : List (κ × ν)) : (sortedItems dict).Pairwise itemLe := by
  have : Std.Total (itemLe : κ × ν → κ × ν → Prop) := by
    constructor
    intro a b
    rcases lt_trichotomy a.1 b.1 with hlt | heq | hgt
    · exact .inl (.inl hlt)
    · exact (le_total a.2 b.2).imp (fun hle => .inr ⟨heq, hle⟩) fun hle => .inr ⟨heq.symm, hle⟩
    · exact .inr (.inl hgt)
  have : IsTrans (κ × ν) itemLe := by
    constructor
    rintro a b c (hab | ⟨hab, hab'⟩) (hbc | ⟨hbc, hbc'⟩)
    · exact .inl (hab.trans hbc)
    · exact .inl (hbc ▸ hab)
    · exact .inl (hab ▸ hbc)
    · exact .inr ⟨hab.trans hbc, hab'.trans hbc'⟩
  exact List.pairwise_insertionSort itemLe dict

/-- Items that are sorted stay as they are. -/
theorem sortedItems_sortedItems (dict : List (κ × ν)) :
    sortedItems (sortedItems dict) = sortedItems dict :=
  (pairwise_sortedItems dict).insertionSort_eq

end Python.Dict
