import BattleBelief.Library.Outcomes

/-!
# Compositional Properties

Code that works in any monad touches the world outside through a few operations. A property of
computations that these operations have and that sequencing keeps is one of the code as a whole.

- `Compositional`: values have the property, and sequencing keeps it
- `raisesOnly_compositional`: what a computation raises is such a property
-/

namespace Effects

variable {m : Type → Type} [Monad m]

/-- Values have the property, and sequencing keeps it. -/
structure Compositional (S : ∀ α, m α → Prop) : Prop where
  pure : ∀ {α} (a : α), S α (Pure.pure a)
  bind : ∀ {α β} {x : m α} {f : α → m β}, S α x → (∀ a, S β (f a)) → S β (x >>= f)

namespace Compositional

variable {S : ∀ α, m α → Prop} {α β : Type}

theorem mapM [LawfulMonad m] (h : Compositional S) {f : α → m β} {inputs : List α}
    (hf : ∀ a ∈ inputs, S β (f a)) : S (List β) (inputs.mapM f) := by
  induction inputs with
  | nil =>
    rw [List.mapM_nil]
    exact h.pure []
  | cons a rest ih =>
    rw [List.mapM_cons]
    refine h.bind (hf a List.mem_cons_self) fun b => ?_
    refine h.bind (ih fun a' ha' => hf a' (List.mem_cons_of_mem a ha')) fun others => ?_
    exact h.pure (b :: others)

theorem foldlM (h : Compositional S) {f : β → α → m β} {inputs : List α} {b : β}
    (hf : ∀ b, ∀ a ∈ inputs, S β (f b a)) : S β (inputs.foldlM f b) := by
  induction inputs generalizing b with
  | nil => exact h.pure b
  | cons a rest ih =>
    rw [List.foldlM_cons]
    exact h.bind (hf b a List.mem_cons_self) fun c =>
      ih fun b a' ha' => hf b a' (List.mem_cons_of_mem a ha')

end Compositional

open Outcomes in
/-- What a computation raises is a compositional property. -/
theorem raisesOnly_compositional {κ : Type} (P : κ → Prop) :
    Compositional fun α (x : Except κ α) => RaisesOnly P x where
  pure _ := .pure trivial
  bind hx hf := hx.bind fun a _ => hf a

end Effects
