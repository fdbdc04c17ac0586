import Mathlib.Data.List.Basic
import Mathlib.Data.List.Forall2
import Mathlib.Data.List.Induction

/-!
# Runs of a Fallible Step

A component that consumes inputs one at a time and may refuse one is a step function
`σ → ε → Except κ σ`. A run is the monadic fold of its inputs: it ends at the first refusal.

This module has the induction rules that proofs about runs use:

- `runs_append`: a run splits where its inputs split
- `invariant`: what every accepted step preserves holds after every run
- `invariant_history`: the same for a property that also reads the inputs so far
- `related`: what every accepted step relates, a run relates
- `holdsAlong_iff_stepsMeet`: a property holds at every point of a run exactly when every step keeps it
-/

namespace Runs

universe u

variable {σ ε κ : Type*} {step : σ → ε → Except κ σ}

/-- `inputs` lead from `s` to `t`, every one of them accepted. -/
def RunsTo (step : σ → ε → Except κ σ) (s : σ) (inputs : List ε) (t : σ) : Prop :=
  inputs.foldlM step s = .ok t

/-! ## Section 1: Results of fallible computations -/

/-- A sequence returns exactly when its first part returns and hands on to the second. -/
theorem bind_eq_ok {α β : Type u} {x : Except κ α} {f : α → Except κ β} {b : β} :
    (x >>= f) = .ok b ↔ ∃ a, x = .ok a ∧ f a = .ok b := by
  cases x with
  | error e => simp [bind, Except.bind]
  | ok a => simp [bind, Except.bind]

/-- A sequence returns what its second part makes of the first. -/
theorem bind_of_ok {α β : Type u} {x : Except κ α} {f : α → Except κ β} {a : α} {b : β}
    (hx : x = .ok a) (hf : f a = .ok b) : (x >>= f) = .ok b :=
  bind_eq_ok.mpr ⟨a, hx, hf⟩

theorem map_eq_ok {α β : Type u} {x : Except κ α} {f : α → β} {b : β} :
    x.map f = .ok b ↔ ∃ a, x = .ok a ∧ f a = b := by
  cases x with
  | error e => simp [Except.map]
  | ok a => simp [Except.map]

/-- A sequence fails in its first part, or in its second on what the first returned. -/
theorem bind_eq_error {α β : Type u} {x : Except κ α} {f : α → Except κ β} {e : κ} :
    (x >>= f) = .error e ↔ x = .error e ∨ ∃ a, x = .ok a ∧ f a = .error e := by
  cases x with
  | error e' => simp [bind, Except.bind]
  | ok a => simp [bind, Except.bind]

/-- A check that refuses with an error. -/
def refuseIf (c : Prop) [Decidable c] (e : κ) : Except κ Unit := if c then .error e else .ok ()

@[simp] theorem refuseIf_eq_ok {c : Prop} [Decidable c] {e : κ} {u : Unit} :
    refuseIf c e = .ok u ↔ ¬c := by
  by_cases hc : c
  · simp [refuseIf, hc]
  · simp [refuseIf, hc]

@[simp] theorem refuseIf_false {h : Decidable False} {e : κ} : @refuseIf κ False h e = .ok () :=
  refuseIf_eq_ok.mpr id

@[simp] theorem refuseIf_eq_error {c : Prop} [Decidable c] {e e' : κ} :
    refuseIf c e = .error e' ↔ c ∧ e = e' := by
  by_cases hc : c
  · simp [refuseIf, hc]
  · simp [refuseIf, hc]

/-- A map over a list returns exactly when it returns on every element. -/
theorem mapM_eq_ok {α β : Type u} {f : α → Except κ β} {inputs : List α} {outputs : List β} :
    inputs.mapM f = .ok outputs ↔ List.Forall₂ (fun a b => f a = .ok b) inputs outputs := by
  induction inputs generalizing outputs with
  | nil =>
    rw [List.forall₂_nil_left_iff, List.mapM_nil]
    exact ⟨fun h => (Except.ok.inj h).symm, fun h => congrArg Except.ok h.symm⟩
  | cons a rest ih =>
    rw [List.mapM_cons, bind_eq_ok, List.forall₂_cons_left_iff]
    constructor
    · rintro ⟨b, hb, h⟩
      obtain ⟨others, hothers, h⟩ := bind_eq_ok.mp h
      exact ⟨b, others, hb, ih.mp hothers, (Except.ok.inj h).symm⟩
    · rintro ⟨b, others, hb, hothers, rfl⟩
      exact ⟨b, hb, bind_eq_ok.mpr ⟨others, ih.mpr hothers, rfl⟩⟩

/-- A loop over a list returns exactly when it returns on every element. -/
theorem forM_eq_ok {α : Type*} {f : α → Except κ Unit} {inputs : List α} {u : Unit} :
    inputs.forM f = .ok u ↔ ∀ a ∈ inputs, f a = .ok () := by
  induction inputs with
  | nil => exact ⟨fun _ => nofun, fun _ => rfl⟩
  | cons a rest ih =>
    show (f a >>= fun _ => rest.forM f) = .ok () ↔ _
    rw [bind_eq_ok, List.forall_mem_cons]
    constructor
    · rintro ⟨_, ha, hrest⟩
      exact ⟨ha, ih.mp hrest⟩
    · rintro ⟨ha, hrest⟩
      exact ⟨(), ha, ih.mpr hrest⟩

/-- What holds of every output and its input holds along the lists. -/
theorem map_eq_of_mapM {α β : Type u} {γ : Type*} {f : α → Except κ β} {inputs : List α}
    {outputs : List β} {g : β → γ} {g' : α → γ} (h : inputs.mapM f = .ok outputs)
    (heq : ∀ a b, f a = .ok b → g b = g' a) : outputs.map g = inputs.map g' := by
  have hall := mapM_eq_ok.mp h
  induction hall with
  | nil => rfl
  | cons hhead htail ih => rw [List.map_cons, List.map_cons, heq _ _ hhead, ih (mapM_eq_ok.mpr htail)]

/-- A map over a list returns when it returns on every element. -/
theorem exists_mapM {α β : Type u} {f : α → Except κ β} {inputs : List α}
    (h : ∀ a ∈ inputs, ∃ b, f a = .ok b) : ∃ outputs, inputs.mapM f = .ok outputs := by
  induction inputs with
  | nil => exact ⟨[], rfl⟩
  | cons a rest ih =>
    obtain ⟨b, hb⟩ := h a List.mem_cons_self
    obtain ⟨others, hothers⟩ := ih fun a' ha' => h a' (List.mem_cons_of_mem a ha')
    refine ⟨b :: others, ?_⟩
    rw [List.mapM_cons, bind_eq_ok]
    exact ⟨b, hb, bind_eq_ok.mpr ⟨others, hothers, rfl⟩⟩

/-- A map over a list returns results with what each of them has. -/
theorem exists_mapM_forall₂ {α β : Type u} {f : α → Except κ β} {R : α → β → Prop} {inputs : List α}
    (h : ∀ a ∈ inputs, ∃ b, f a = .ok b ∧ R a b) :
    ∃ outputs, inputs.mapM f = .ok outputs ∧ List.Forall₂ R inputs outputs := by
  induction inputs with
  | nil => exact ⟨[], rfl, .nil⟩
  | cons a rest ih =>
    obtain ⟨b, hb, hR⟩ := h a List.mem_cons_self
    obtain ⟨others, hothers, hall⟩ := ih fun a' ha' => h a' (List.mem_cons_of_mem a ha')
    refine ⟨b :: others, ?_, .cons hR hall⟩
    rw [List.mapM_cons, bind_eq_ok]
    exact ⟨b, hb, bind_eq_ok.mpr ⟨others, hothers, rfl⟩⟩

/-- Every member of the second of two related lists has one of the first to go with it. -/
theorem exists_of_forall₂ {α β : Type*} {R : α → β → Prop} {inputs : List α} {outputs : List β}
    (h : List.Forall₂ R inputs outputs) {b : β} (hmem : b ∈ outputs) : ∃ a ∈ inputs, R a b := by
  induction h with
  | nil => cases hmem
  | cons hhead htail ih =>
    rcases List.mem_cons.mp hmem with rfl | hrest
    · exact ⟨_, List.mem_cons_self, hhead⟩
    · obtain ⟨a, ha, hb⟩ := ih hrest
      exact ⟨a, List.mem_cons_of_mem _ ha, hb⟩

/-- Two related lists have the same values under two functions exactly when their members have. -/
theorem map_eq_map_iff_forall₂ {α β γ : Type*} {R C : α → β → Prop} {f : α → γ} {g : β → γ}
    {inputs : List α} {outputs : List β} (h : List.Forall₂ R inputs outputs)
    (hC : ∀ a b, R a b → (f a = g b ↔ C a b)) :
    inputs.map f = outputs.map g ↔ List.Forall₂ C inputs outputs := by
  induction h with
  | nil => simp
  | cons hhead htail ih =>
    rw [List.map_cons, List.map_cons, List.cons.injEq, List.forall₂_cons, hC _ _ hhead, ih]

/-- Every output comes from one of the inputs. -/
theorem mem_of_mapM {α β : Type u} {f : α → Except κ β} {inputs : List α} {outputs : List β}
    (h : inputs.mapM f = .ok outputs) {b : β} (hmem : b ∈ outputs) : ∃ a ∈ inputs, f a = .ok b :=
  exists_of_forall₂ (mapM_eq_ok.mp h) hmem

/-- Every input leads to one of the outputs. -/
theorem exists_of_mapM {α β : Type u} {f : α → Except κ β} {inputs : List α} {outputs : List β}
    (h : inputs.mapM f = .ok outputs) {a : α} (hmem : a ∈ inputs) : ∃ b ∈ outputs, f a = .ok b :=
  exists_of_forall₂ (List.Forall₂.flip (mapM_eq_ok.mp h)) hmem

/-- A reader that reads every value back from its image reads lists back. -/
theorem mapM_map_self {α β : Type u} {f : α → Except κ β} {g : β → α} {outputs : List β}
    (h : ∀ b ∈ outputs, f (g b) = .ok b) : (outputs.map g).mapM f = .ok outputs := by
  apply mapM_eq_ok.mpr
  apply List.forall₂_map_left_iff.mpr
  exact List.forall₂_same.mpr h

/-- A reader of images only reads lists of images only. -/
theorem mapM_eq_ok_iff_map {α β : Type u} {f : α → Except κ β} {g : β → α} {P : β → Prop}
    {inputs : List α} {outputs : List β} (h : ∀ a b, f a = .ok b ↔ a = g b ∧ P b) :
    inputs.mapM f = .ok outputs ↔ inputs = outputs.map g ∧ ∀ b ∈ outputs, P b := by
  constructor
  · intro hread
    have hall := mapM_eq_ok.mp hread
    induction hall with
    | nil => exact ⟨rfl, fun b hb => by cases hb⟩
    | cons hhead _ ih =>
      obtain ⟨rfl, hP⟩ := (h _ _).mp hhead
      obtain ⟨hrest, hall⟩ := ih (mapM_eq_ok.mpr ‹_›)
      refine ⟨by rw [List.map_cons, ← hrest], ?_⟩
      exact List.forall_mem_cons.mpr ⟨hP, hall⟩
  · rintro ⟨rfl, hP⟩
    exact mapM_map_self fun b hb => (h _ _).mpr ⟨rfl, hP b hb⟩

/-! ## Section 2: Composition -/

@[simp] theorem runs_nil {s t : σ} : RunsTo step s [] t ↔ s = t := by
  simp [RunsTo, pure, Except.pure]

theorem runs_cons {s t : σ} {e : ε} {rest : List ε} :
    RunsTo step s (e :: rest) t ↔ ∃ m, step s e = .ok m ∧ RunsTo step m rest t := by
  simp only [RunsTo, List.foldlM_cons, bind_eq_ok]

theorem runs_append {s t : σ} {first rest : List ε} :
    RunsTo step s (first ++ rest) t ↔ ∃ m, RunsTo step s first m ∧ RunsTo step m rest t := by
  simp only [RunsTo, List.foldlM_append, bind_eq_ok]

theorem runs_concat {s t : σ} {inputs : List ε} {e : ε} :
    RunsTo step s (inputs ++ [e]) t ↔ ∃ m, RunsTo step s inputs m ∧ step m e = .ok t := by
  simp only [runs_append, runs_cons, runs_nil, exists_eq_right]

/-- If a run cannot take one more input, it is the step at its end that refuses it. -/
theorem step_error_of_runs {s t : σ} {inputs : List ε} {e : ε} {err : κ}
    (hrun : RunsTo step s inputs t) (h : (inputs ++ [e]).foldlM step s = .error err) :
    step t e = .error err := by
  have hinputs : inputs.foldlM step s = .ok t := hrun
  rw [List.foldlM_append, hinputs] at h
  cases hstep : step t e with
  | ok u => simp [bind, Except.bind, hstep, pure, Except.pure] at h
  | error err' =>
    simp only [bind, Except.bind, List.foldlM_cons, hstep] at h
    exact congrArg _ (Except.error.inj h)

/-- A run ends in one state only. -/
theorem runs_unique {s t u : σ} {inputs : List ε}
    (ht : RunsTo step s inputs t) (hu : RunsTo step s inputs u) : t = u := by
  have h : (Except.ok t : Except κ σ) = .ok u := ht.symm.trans hu
  exact Except.ok.inj h

/-! ## Section 3: Invariants -/

/-- What holds at the start and is kept by every accepted step holds after every run. -/
theorem invariant {I : σ → Prop} (hstep : ∀ s e t, I s → step s e = .ok t → I t)
    {s t : σ} {inputs : List ε} (hs : I s) (hrun : RunsTo step s inputs t) : I t := by
  induction inputs generalizing s with
  | nil => exact runs_nil.mp hrun ▸ hs
  | cons e rest ih =>
    obtain ⟨m, hm, hrest⟩ := runs_cons.mp hrun
    exact ih (hstep s e m hs hm) hrest

/-- The invariant rule for a property of the inputs so far and the state they lead to. -/
theorem invariant_history {I : List ε → σ → Prop} {start : σ} (hstart : I [] start)
    (hstep : ∀ past s e t, I past s → step s e = .ok t → I (past ++ [e]) t)
    {t : σ} {inputs : List ε} (hrun : RunsTo step start inputs t) : I inputs t := by
  induction inputs using List.reverseRecOn generalizing t with
  | nil => exact runs_nil.mp hrun ▸ hstart
  | append_singleton past e ih =>
    obtain ⟨m, hm, hlast⟩ := runs_concat.mp hrun
    exact hstep past m e t (ih hm) hlast

/-- What every accepted step relates is related by a run, if the relation composes. `I` is an
invariant that the steps may rely on. -/
theorem related {I : σ → Prop} {R : σ → σ → Prop} (hrefl : ∀ s, R s s)
    (htrans : ∀ s t u, R s t → R t u → R s u)
    (hstep : ∀ s e t, I s → step s e = .ok t → I t ∧ R s t)
    {s t : σ} {inputs : List ε} (hs : I s) (hrun : RunsTo step s inputs t) : R s t := by
  induction inputs generalizing s with
  | nil => exact runs_nil.mp hrun ▸ hrefl s
  | cons e rest ih =>
    obtain ⟨m, hm, hrest⟩ := runs_cons.mp hrun
    obtain ⟨hIm, hRm⟩ := hstep s e m hs hm
    exact htrans s m t hRm (ih hIm hrest)

/-! ## Section 4: Properties of every point of a run -/

/-- `P` holds in every state that the inputs pass through from `s`, the first and last included.
A refused input ends the run. -/
def HoldsAlong (step : σ → ε → Except κ σ) (P : σ → Prop) : σ → List ε → Prop
  | s, [] => P s
  | s, e :: rest => P s ∧ ∀ t, step s e = .ok t → HoldsAlong step P t rest

/-- `C` holds of every accepted step of a run: of the state before it and its input. -/
def StepsMeet (step : σ → ε → Except κ σ) (C : σ → ε → Prop) : σ → List ε → Prop
  | _, [] => True
  | s, e :: rest => ∀ t, step s e = .ok t → C s e ∧ StepsMeet step C t rest

theorem HoldsAlong.head {P : σ → Prop} {s : σ} {inputs : List ε}
    (h : HoldsAlong step P s inputs) : P s := by
  cases inputs with
  | nil => exact h
  | cons e rest => exact h.1

/-- `P` holds along a run exactly when it holds in each state that a part of the run ends in. -/
theorem holdsAlong_iff_forall_prefix {P : σ → Prop} {s : σ} {inputs : List ε} :
    HoldsAlong step P s inputs ↔
      ∀ first rest t, inputs = first ++ rest → RunsTo step s first t → P t := by
  induction inputs generalizing s with
  | nil =>
    constructor
    · intro h first rest t happ hrun
      obtain ⟨rfl, rfl⟩ := List.append_eq_nil_iff.mp happ.symm
      exact runs_nil.mp hrun ▸ h
    · intro h
      exact h [] [] s rfl (runs_nil.mpr rfl)
  | cons e rest ih =>
    constructor
    · rintro ⟨hs, hrest⟩ first tail t happ hrun
      cases first with
      | nil => exact runs_nil.mp hrun ▸ hs
      | cons e' first =>
        obtain ⟨rfl, rfl⟩ := List.cons.inj happ
        obtain ⟨m, hm, hfirst⟩ := runs_cons.mp hrun
        exact ih.mp (hrest m hm) first tail t rfl hfirst
    · intro h
      refine ⟨h [] (e :: rest) s rfl (runs_nil.mpr rfl), fun m hm => ih.mpr ?_⟩
      intro first tail t happ hrun
      exact h (e :: first) tail t (by rw [happ, List.cons_append]) (runs_cons.mpr ⟨m, hm, hrun⟩)

/-- If `C` is exactly what a step from a good state needs to end in a good state, then a run
from a good state stays good exactly when all its steps meet `C`. `I` is an invariant that the
steps may rely on. -/
theorem holdsAlong_iff_stepsMeet {I P : σ → Prop} {C : σ → ε → Prop}
    (hI : ∀ s e t, I s → step s e = .ok t → I t)
    (hC : ∀ s e t, I s → P s → step s e = .ok t → (P t ↔ C s e))
    {s : σ} (hs : I s) (hPs : P s) (inputs : List ε) :
    HoldsAlong step P s inputs ↔ StepsMeet step C s inputs := by
  induction inputs generalizing s with
  | nil => exact iff_of_true hPs trivial
  | cons e rest ih =>
    constructor
    · rintro ⟨_, hrest⟩ t ht
      have hPt : P t := (hrest t ht).head
      exact ⟨(hC s e t hs hPs ht).mp hPt, (ih (hI s e t hs ht) hPt).mp (hrest t ht)⟩
    · intro h
      refine ⟨hPs, fun t ht => ?_⟩
      obtain ⟨hCe, hrest⟩ := h t ht
      have hPt : P t := (hC s e t hs hPs ht).mpr hCe
      exact (ih (hI s e t hs ht) hPt).mpr hrest

end Runs
