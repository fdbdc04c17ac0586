import Mathlib.Data.Fintype.Card
import Mathlib.Logic.Relation

/-!
# Cycles

Cycles of a relation, above all of one under which every element has at most one successor: then a
cycle is what any of its elements reaches.
-/

namespace Cycles

open Relation

variable {α : Type*} {r : α → α → Prop} {a b c : α}

/-- What an element that reaches itself reaches. -/
def IsCycle (r : α → α → Prop) (cycle : Set α) : Prop :=
  ∃ a, TransGen r a a ∧ cycle = {b | ReflTransGen r a b}

/-! ## §1 Unique successors -/

/-- What is reached from a cycle leads back to it. -/
theorem reaches_back (hr : Relator.RightUnique r) (hcycle : TransGen r a a)
    (h : ReflTransGen r a b) : ReflTransGen r b a := by
  induction h with
  | refl => exact .refl
  | @tail b c _ hstep ih =>
    obtain ⟨d, hfirst, hrest⟩ : ∃ d, r b d ∧ ReflTransGen r d a := by
      rcases ih.cases_head with rfl | hhead
      · exact TransGen.head'_iff.mp hcycle
      · exact hhead
    rwa [hr hstep hfirst]

theorem onCycle_of_reaches (hr : Relator.RightUnique r) (hcycle : TransGen r a a)
    (h : ReflTransGen r a b) : TransGen r b b :=
  (TransGen.trans_right (reaches_back hr hcycle h) hcycle).trans_left h

/-- A cycle is what any of its elements reaches. -/
theorem IsCycle.of_mem (hr : Relator.RightUnique r) {cycle : Set α} (h : IsCycle r cycle)
    (hb : b ∈ cycle) : TransGen r b b ∧ cycle = {c | ReflTransGen r b c} := by
  obtain ⟨a, hcycle, rfl⟩ := h
  refine ⟨onCycle_of_reaches hr hcycle hb, Set.ext fun c => ⟨fun hc => ?_, fun hc => ?_⟩⟩
  · exact (reaches_back hr hcycle hb).trans hc
  · exact ReflTransGen.trans hb hc

/-- A set that keeps the successors of its elements keeps the cycles that it meets. -/
theorem mem_of_onCycle (hr : Relator.RightUnique r) {s : Set α}
    (hclosed : ∀ a ∈ s, ∀ b, r a b → TransGen r b b → b ∈ s) (ha : a ∈ s)
    (hcycle : TransGen r a a) (h : ReflTransGen r a b) : b ∈ s := by
  induction h with
  | refl => exact ha
  | @tail b c hreaches hstep ih =>
    exact hclosed b ih c hstep (onCycle_of_reaches hr hcycle (hreaches.tail hstep))

/-! ## §2 No cycles -/

/-- In a finite graph, below an element that reaches no cycle, what passes from the successors of an
element to the element itself holds everywhere. -/
theorem induction_below [Finite α] {motive : α → Prop}
    (hacyclic : ∀ b, ReflTransGen r a b → ¬TransGen r b b)
    (hstep : ∀ b, (∀ c, r b c → motive c) → motive b) : motive a := by
  let below : α → α → Prop := fun c b => ReflTransGen r a b ∧ TransGen r b c
  have htrans : IsTrans α below := ⟨fun _ _ _ hlower hupper => ⟨hupper.1, hupper.2.trans hlower.2⟩⟩
  have hirrefl : Std.Irrefl below := ⟨fun b hself => hacyclic b hself.1 hself.2⟩
  have hwell : WellFounded below := Finite.wellFounded_of_trans_of_irrefl below
  suffices hall : ∀ b, ReflTransGen r a b → motive b from hall a .refl
  intro b
  induction b using hwell.induction with
  | _ b ih =>
    intro hreached
    exact hstep b fun c hc => ih c ⟨hreached, .single hc⟩ (hreached.tail hc)

end Cycles
