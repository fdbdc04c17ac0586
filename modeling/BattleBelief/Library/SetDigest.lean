import BattleBelief.Library.HashChain
import Mathlib.Data.List.Sort

/-!
# Digests of Sets

A set is named by the digest of a document that lists its members in the order of a key.

- `listing_eq_iff`: where different members have different keys, two sequences have one listing
  exactly when they have the same members
- `digest_eq_iff`: where the two documents do not collide, they have one digest exactly then
-/

namespace SetDigest

open HashChain (CollisionFree)

variable {α κ δ ε η : Type*} [LinearOrder κ] (key : α → κ)

/-- The members in the order of their keys: `sorted(items, key=key)`. -/
def listing (items : List α) : List α :=
  items.insertionSort fun first second => key first ≤ key second

theorem perm_listing (items : List α) : (listing key items).Perm items :=
  List.perm_insertionSort _ items

variable {key} {items items' : List α}

theorem pairwise_listing (items : List α) :
    (listing key items).Pairwise fun first second => key first ≤ key second := by
  let r := fun first second : α => key first ≤ key second
  have : Std.Total r := ⟨fun first second => le_total (key first) (key second)⟩
  have : IsTrans α r := ⟨fun _ _ _ => le_trans⟩
  exact List.pairwise_insertionSort r items

theorem listing_of_pairwise (h : items.Pairwise fun first second => key first ≤ key second) :
    listing key items = items :=
  h.insertionSort_eq

/-- The order of the members does not show in the listing, where no two share a key. -/
theorem listing_congr (hkey : ∀ first ∈ items, ∀ second ∈ items, key first = key second → first = second)
    (h : items.Perm items') : listing key items = listing key items' := by
  have hlisted : (listing key items).Perm (listing key items') :=
    (perm_listing key items).trans (h.trans (perm_listing key items').symm)
  apply List.Perm.eq_of_pairwise _ (pairwise_listing items) (pairwise_listing items') hlisted
  intro first second hfirst hsecond hle hge
  have hfirst := (perm_listing key items).mem_iff.mp hfirst
  have hsecond := h.mem_iff.mpr ((perm_listing key items').mem_iff.mp hsecond)
  exact hkey first hfirst second hsecond (le_antisymm hle hge)

/-- Nothing but the order of the members is lost. -/
theorem listing_eq_iff_perm (hkey : Function.Injective key) :
    listing key items = listing key items' ↔ items.Perm items' := by
  constructor
  · intro h
    have hperm := perm_listing key items'
    rw [← h] at hperm
    exact (perm_listing key items).symm.trans hperm
  · apply listing_congr
    intro first _ second _ hsame
    exact hkey hsame

theorem listing_eq_iff (hkey : Function.Injective key) (hnodup : items.Nodup)
    (hnodup' : items'.Nodup) :
    listing key items = listing key items' ↔ ∀ item, item ∈ items ↔ item ∈ items' := by
  rw [listing_eq_iff_perm hkey]
  exact List.perm_ext_iff_of_nodup hnodup hnodup'

/-- Two sets have one digest exactly when they are the same. -/
theorem digest_eq_iff {document : List α → δ} {hash : δ → Except ε η} {digest digest' : η}
    (hkey : Function.Injective key) (hdocument : Function.Injective document)
    (hfree : CollisionFree hash fun other =>
      other = document (listing key items) ∨ other = document (listing key items'))
    (hnodup : items.Nodup) (hnodup' : items'.Nodup)
    (hdigest : hash (document (listing key items)) = .ok digest)
    (hdigest' : hash (document (listing key items')) = .ok digest') :
    digest = digest' ↔ ∀ item, item ∈ items ↔ item ∈ items' := by
  rw [← listing_eq_iff hkey hnodup hnodup']
  constructor
  · intro h
    subst h
    exact hdocument (hfree _ _ digest (.inl rfl) (.inr rfl) hdigest hdigest')
  · intro h
    rw [h] at hdigest
    exact Except.ok.inj (hdigest.symm.trans hdigest')

end SetDigest
