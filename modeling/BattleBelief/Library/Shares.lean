import Mathlib.Algebra.BigOperators.Group.List.Basic
import Mathlib.Algebra.Order.BigOperators.Group.List
import Mathlib.Algebra.Order.Field.Rat
import Mathlib.Data.Rat.Lemmas
import Mathlib.Tactic.FieldSimp

/-!
# Shares

Items that carry a key and a weight, the weight of a key, and shares as numerators over one common
denominator.
-/

namespace Shares

universe u

variable {κ : Type u} [DecidableEq κ]

/-! ## Section 1: The weight of a key -/

/-- The weights of the items with a key, together. -/
def weightOf (items : List (κ × ℚ)) (key : κ) : ℚ :=
  ((items.filter fun item => item.1 = key).map Prod.snd).sum

/-- The weights of all items, together. -/
def total (items : List (κ × ℚ)) : ℚ := (items.map Prod.snd).sum

@[simp] theorem weightOf_nil (key : κ) : weightOf [] key = 0 := rfl

theorem weightOf_cons (item : κ × ℚ) (items : List (κ × ℚ)) (key : κ) :
    weightOf (item :: items) key = (if item.1 = key then item.2 else 0) + weightOf items key := by
  unfold weightOf
  rw [List.filter_cons]
  by_cases hkey : item.1 = key
  · simp [hkey]
  · simp [hkey]

theorem weightOf_concat (items : List (κ × ℚ)) (item : κ × ℚ) (key : κ) :
    weightOf (items ++ [item]) key = weightOf items key + if item.1 = key then item.2 else 0 := by
  induction items with
  | nil => simp [weightOf_cons]
  | cons first rest ih => rw [List.cons_append, weightOf_cons, weightOf_cons, ih, add_assoc]

theorem weightOf_of_notMem {items : List (κ × ℚ)} {key : κ} (h : key ∉ items.map Prod.fst) :
    weightOf items key = 0 := by
  have hfilter : (items.filter fun item => item.1 = key) = [] := by
    rw [List.filter_eq_nil_iff]
    intro item hitem hkey
    exact h (List.mem_map.mpr ⟨item, hitem, of_decide_eq_true hkey⟩)
  rw [weightOf, hfilter]
  rfl

/-- A key of items with positive weights has a positive weight. -/
theorem weightOf_pos {items : List (κ × ℚ)} (hpos : ∀ item ∈ items, 0 < item.2) {key : κ}
    (h : key ∈ items.map Prod.fst) : 0 < weightOf items key := by
  obtain ⟨item, hitem, hkey⟩ := List.mem_map.mp h
  have hmem : item ∈ items.filter fun item => item.1 = key :=
    List.mem_filter.mpr ⟨hitem, decide_eq_true hkey⟩
  refine List.sum_pos _ (fun weight hweight => ?_) ?_
  · obtain ⟨other, hother, rfl⟩ := List.mem_map.mp hweight
    exact hpos other (List.mem_of_mem_filter hother)
  · exact List.ne_nil_of_mem (List.mem_map_of_mem hmem)

/-- A sum over distinct keys of which one counts. -/
theorem sum_single {keys : List κ} (hnodup : keys.Nodup) {key : κ} (hkey : key ∈ keys) (weight : ℚ) :
    (keys.map fun other => if key = other then weight else 0).sum = weight := by
  induction keys with
  | nil => cases hkey
  | cons first rest ih =>
    obtain ⟨hfirst, hrest⟩ := List.nodup_cons.mp hnodup
    rw [List.map_cons, List.sum_cons]
    by_cases heq : key = first
    · have hzero : ∀ other ∈ rest, (if key = other then weight else 0) = 0 := by
        intro other hother
        refine if_neg fun hsame => hfirst ?_
        rwa [← heq, hsame]
      rw [if_pos heq, List.sum_eq_zero, add_zero]
      simpa using hzero
    · have hmem : key ∈ rest := (List.mem_cons.mp hkey).resolve_left heq
      rw [if_neg heq, ih hrest hmem, zero_add]

/-- The weights of all keys are the weights of all items. -/
theorem sum_weightOf {items : List (κ × ℚ)} {keys : List κ} (hnodup : keys.Nodup)
    (hall : ∀ item ∈ items, item.1 ∈ keys) : (keys.map (weightOf items)).sum = total items := by
  induction items with
  | nil =>
    have hzero : keys.map (weightOf []) = keys.map fun _ => (0 : ℚ) := rfl
    simp [total, hzero]
  | cons item rest ih =>
    have hone := sum_single hnodup (hall item List.mem_cons_self) item.2
    have hrest := ih fun other hother => hall other (List.mem_cons_of_mem item hother)
    have hcons : weightOf (item :: rest) =
        fun key => (if item.1 = key then item.2 else 0) + weightOf rest key :=
      funext fun key => weightOf_cons item rest key
    calc (keys.map (weightOf (item :: rest))).sum
        = (keys.map fun key => (if item.1 = key then item.2 else 0) + weightOf rest key).sum := by
          rw [hcons]
      _ = item.2 + total rest := by rw [List.sum_map_add, hone, hrest]
      _ = total (item :: rest) := by simp [total]

/-! ## Section 2: One denominator -/

/-- The least common multiple of the denominators: `math.lcm(*...)`. -/
def commonDenominator (shares : List ℚ) : Nat :=
  shares.foldl (fun denominator share => denominator.lcm share.den) 1

/-- A share as a numerator over a denominator that its own divides:
`share.numerator * (denominator // share.denominator)`. -/
def numerator (share : ℚ) (denominator : Nat) : Int := share.num * (denominator / share.den : Nat)

theorem dvd_foldl_lcm (shares : List ℚ) (start : Nat) :
    start ∣ shares.foldl (fun denominator share => denominator.lcm share.den) start ∧
      ∀ share ∈ shares,
        share.den ∣ shares.foldl (fun denominator share => denominator.lcm share.den) start := by
  induction shares generalizing start with
  | nil => exact ⟨dvd_refl start, nofun⟩
  | cons first rest ih =>
    obtain ⟨hstart, hrest⟩ := ih (start.lcm first.den)
    refine ⟨(Nat.dvd_lcm_left start first.den).trans hstart, fun share hshare => ?_⟩
    rcases List.mem_cons.mp hshare with rfl | hshare
    · exact (Nat.dvd_lcm_right start share.den).trans hstart
    · exact hrest share hshare

theorem den_dvd_commonDenominator {shares : List ℚ} {share : ℚ} (h : share ∈ shares) :
    share.den ∣ commonDenominator shares :=
  (dvd_foldl_lcm shares 1).2 share h

theorem commonDenominator_pos (shares : List ℚ) : 0 < commonDenominator shares := by
  suffices h : ∀ start, 0 < start →
      0 < shares.foldl (fun denominator share => denominator.lcm share.den) start from h 1 one_pos
  induction shares with
  | nil => exact fun _ h => h
  | cons first rest ih => exact fun start hstart => ih _ (Nat.lcm_pos hstart first.den_pos)

theorem numerator_eq {share : ℚ} {denominator : Nat} (h : share.den ∣ denominator) :
    (numerator share denominator : ℚ) = share * denominator := by
  obtain ⟨factor, rfl⟩ := h
  have hden : (share.den : ℚ) ≠ 0 := by exact_mod_cast share.den_ne_zero
  unfold numerator
  rw [Nat.mul_div_cancel_left factor share.den_pos]
  push_cast
  calc (share.num : ℚ) * factor = share.num / share.den * (share.den * factor) := by field_simp
    _ = share * (share.den * factor) := by rw [Rat.num_div_den]

theorem numerator_pos {share : ℚ} {denominator : Nat} (h : share.den ∣ denominator)
    (hdenominator : 0 < denominator) (hpos : 0 < share) : 0 < numerator share denominator := by
  have hcast : (0 : ℚ) < numerator share denominator := by
    rw [numerator_eq h]
    exact mul_pos hpos (by exact_mod_cast hdenominator)
  exact_mod_cast hcast

/-- Shares that add up to one have numerators that add up to the denominator. -/
theorem sum_numerator {shares : List ℚ} (h : shares.sum = 1) :
    (shares.map fun share => numerator share (commonDenominator shares)).sum =
      commonDenominator shares := by
  have hcast : ∀ part : List ℚ, (∀ share ∈ part, share.den ∣ commonDenominator shares) →
      (((part.map fun share => numerator share (commonDenominator shares)).sum : Int) : ℚ) =
        part.sum * commonDenominator shares := by
    intro part hpart
    induction part with
    | nil => simp
    | cons first rest ih =>
      rw [List.map_cons, List.sum_cons, List.sum_cons, Int.cast_add,
        numerator_eq (hpart first List.mem_cons_self),
        ih fun share hshare => hpart share (List.mem_cons_of_mem first hshare), add_mul]
  have hall := hcast shares fun share hshare => den_dvd_commonDenominator hshare
  rw [h, one_mul] at hall
  exact_mod_cast hall

end Shares
