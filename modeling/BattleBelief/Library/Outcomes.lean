import Mathlib.Data.List.Basic

/-!
# Outcomes of Fallible Computations

A specification of a computation in `Except` says something about the value it returns and about
the errors it raises. `Satisfies Q P x` states both, and composes along sequencing, so that a
function is proved from the specifications of its steps.
-/

namespace Outcomes

universe u

variable {κ : Type*} {α β : Type u}

/-- `x` returns a value with `Q` or raises an error with `P`. -/
structure Satisfies (Q : α → Prop) (P : κ → Prop) (x : Except κ α) : Prop where
  of_ok : ∀ {a}, x = .ok a → Q a
  of_error : ∀ {err}, x = .error err → P err

/-- Whatever `x` raises has `P`. -/
def RaisesOnly (P : κ → Prop) (x : Except κ α) : Prop := Satisfies (fun _ => True) P x

section Rules

variable {Q R : α → Prop} {S : β → Prop} {P P' : κ → Prop} {x : Except κ α}

theorem Satisfies.ok {a : α} (h : Q a) : Satisfies Q P (.ok a) :=
  ⟨fun heq => Except.ok.inj heq ▸ h, nofun⟩

theorem Satisfies.pure {a : α} (h : Q a) : Satisfies Q P (Pure.pure a) := .ok h

theorem Satisfies.error {err : κ} (h : P err) : Satisfies Q P (.error err) :=
  ⟨nofun, fun heq => Except.error.inj heq ▸ h⟩

theorem Satisfies.throw {err : κ} (h : P err) : Satisfies Q P (MonadExcept.throw err) := .error h

theorem RaisesOnly.ok {a : α} : RaisesOnly P (.ok a) := Satisfies.ok trivial

theorem RaisesOnly.error {err : κ} (h : P err) : RaisesOnly P (.error err : Except κ α) :=
  Satisfies.error h

theorem Satisfies.mono (h : Satisfies Q P x) (hQ : ∀ a, Q a → R a)
    (hP : ∀ err, P err → P' err) : Satisfies R P' x :=
  ⟨fun heq => hQ _ (h.of_ok heq), fun heq => hP _ (h.of_error heq)⟩

theorem RaisesOnly.mono (h : RaisesOnly P x) (hP : ∀ err, P err → P' err) : RaisesOnly P' x :=
  Satisfies.mono h (fun _ h => h) hP

/-- Sequencing: what the first computation returns may be used for the second. -/
theorem Satisfies.bind {f : α → Except κ β} (hx : Satisfies Q P x)
    (hf : ∀ a, Q a → Satisfies S P (f a)) : Satisfies S P (x >>= f) := by
  cases x with
  | ok a => exact hf a (hx.of_ok rfl)
  | error err => exact .error (hx.of_error rfl)

/-- Sequencing when all that matters of the first computation is what it raises and that it
returned. -/
theorem RaisesOnly.bind {f : α → Except κ β} (hx : RaisesOnly P x)
    (hf : ∀ a, x = .ok a → Satisfies S P (f a)) : Satisfies S P (x >>= f) := by
  cases x with
  | ok a => exact hf a rfl
  | error err => exact .error (hx.of_error rfl)

/-- A sequence raises what its first part raises, and what the second does on a value of the
first. -/
theorem raisesOnly_bind {f : α → Except κ β} :
    RaisesOnly P (x >>= f) ↔ RaisesOnly P x ∧ ∀ a, x = .ok a → RaisesOnly P (f a) := by
  constructor
  · intro h
    cases x with
    | ok a => exact ⟨RaisesOnly.ok, fun b hb => Except.ok.inj hb ▸ h⟩
    | error err =>
      have herr : P err := h.of_error rfl
      exact ⟨RaisesOnly.error herr, nofun⟩
  · rintro ⟨hx, hf⟩
    exact hx.bind hf

/-- What returns raises nothing. -/
theorem raisesOnly_of_ok {a : α} (h : x = .ok a) : RaisesOnly P x := h ▸ .ok

/-- A check that refuses, before the rest of the code. -/
theorem RaisesOnly.check {c : Prop} [Decidable c] {γ : Type} {R : γ → Prop}
    {refusal : Except κ Unit} {rest : Unit → Except κ γ}
    (hrefusal : RaisesOnly P refusal) (hrest : ∀ u, Satisfies R P (rest u)) :
    Satisfies R P (if c then refusal >>= rest else rest ()) := by
  split_ifs
  · exact hrefusal.bind fun u _ => hrest u
  · exact hrest ()

/-- A handler answers for what it may be handed. -/
theorem RaisesOnly.tryCatch {handler : κ → Except κ α} (hx : RaisesOnly P x)
    (hhandler : ∀ err, P err → RaisesOnly P' (handler err)) :
    RaisesOnly P' (MonadExceptOf.tryCatch x handler) := by
  cases x with
  | ok a => exact .ok
  | error err => exact hhandler err (hx.of_error rfl)

/-- Nothing is said about what is raised. -/
theorem RaisesOnly.any : RaisesOnly (fun _ => True) x := ⟨fun _ => trivial, fun _ => trivial⟩

/-- A map over a list returns one value for each element, each related to some element. -/
theorem Satisfies.mapM {γ : Type*} {R : γ → α → Prop} {f : γ → Except κ α} {inputs : List γ}
    (h : ∀ c ∈ inputs, Satisfies (R c) P (f c)) :
    Satisfies (fun values => values.length = inputs.length ∧ ∀ a ∈ values, ∃ c ∈ inputs, R c a) P
      (inputs.mapM f) := by
  induction inputs with
  | nil => exact .pure ⟨rfl, nofun⟩
  | cons c rest ih =>
    rw [List.mapM_cons]
    have hrest := ih fun c' hc' => h c' (List.mem_cons_of_mem c hc')
    refine (h c List.mem_cons_self).bind fun a ha => ?_
    refine hrest.bind fun values hvalues => .pure ⟨congrArg (· + 1) hvalues.1, fun b hb => ?_⟩
    rcases List.mem_cons.mp hb with rfl | hb
    · exact ⟨c, List.mem_cons_self, ha⟩
    · obtain ⟨c', hc', hR⟩ := hvalues.2 b hb
      exact ⟨c', List.mem_cons_of_mem c hc', hR⟩

theorem Satisfies.ite {c : Prop} [Decidable c] {y : Except κ α} (hx : c → Satisfies Q P x)
    (hy : ¬c → Satisfies Q P y) : Satisfies Q P (if c then x else y) := by
  by_cases hc : c
  · rw [if_pos hc]
    exact hx hc
  · rw [if_neg hc]
    exact hy hc

end Rules

end Outcomes
