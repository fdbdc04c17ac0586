import Mathlib.Data.Finset.Card
import Mathlib.Logic.Relation

/-!
# Worklists

A search that keeps a stack of what it has seen and not yet expanded. It ends on every graph whose
edges lead to finitely many vertices, with cycles or without, and finds what its start leads to.
-/

namespace Worklist

open Relation

universe u

/-- A graph whose edges lead to finitely many vertices. -/
structure Graph (α : Type u) where
  successors : α → List α
  vertices : List α
  closed : ∀ a, ∀ b ∈ successors a, b ∈ vertices

/-- `b` is one step from `a`. -/
def Graph.Edge {α : Type u} (graph : Graph α) (a b : α) : Prop := b ∈ graph.successors a

/-- What is still to be expanded, the top of the stack first, what has been seen, and what of it was
found on the way. -/
structure Search (α : Type u) where
  frontier : List α
  seen : List α
  found : List α

variable {α : Type u} [DecidableEq α]

/-! ## §1 The Search -/

/-- Before the first step the start has been seen, and nothing was found. -/
def Search.start (a : α) : Search α := { frontier := [a], seen := [a], found := [] }

/-- One successor of the vertex that is being expanded. -/
def Search.discover (search : Search α) (b : α) : Search α :=
  if b ∈ search.seen then search
  else { frontier := b :: search.frontier, seen := b :: search.seen, found := b :: search.found }

/-- All successors of the vertex that is being expanded. -/
def Search.discoverAll (search : Search α) (successors : List α) : Search α :=
  successors.foldl Search.discover search

/-- The vertices that can still be discovered, and those that can still be expanded. -/
def Graph.work (graph : Graph α) (search : Search α) : Nat :=
  (graph.vertices.toFinset \ search.seen.toFinset).card + search.frontier.length

/-- A vertex that moves from the undiscovered ones to the stack leaves the work as it is. -/
theorem Graph.work_discover (graph : Graph α) (search : Search α) {b : α}
    (hb : b ∈ graph.vertices) : graph.work (search.discover b) ≤ graph.work search := by
  rw [Search.discover]
  split_ifs with hseen
  · exact le_rfl
  · have hmem : b ∈ graph.vertices.toFinset \ search.seen.toFinset := by simp [hb, hseen]
    have hsub : graph.vertices.toFinset \ (b :: search.seen).toFinset ⊆
        (graph.vertices.toFinset \ search.seen.toFinset).erase b := by
      intro c hc
      simp only [List.toFinset_cons, Finset.mem_sdiff, Finset.mem_insert, not_or] at hc
      simp only [Finset.mem_erase, Finset.mem_sdiff]
      exact ⟨hc.2.1, hc.1, hc.2.2⟩
    have hcard := Finset.card_le_card hsub
    have hpos := Finset.card_pos.mpr ⟨b, hmem⟩
    rw [Finset.card_erase_of_mem hmem] at hcard
    simp only [Graph.work, List.length_cons]
    omega

theorem Graph.work_discoverAll (graph : Graph α) (search : Search α) {successors : List α}
    (h : ∀ b ∈ successors, b ∈ graph.vertices) :
    graph.work (search.discoverAll successors) ≤ graph.work search := by
  induction successors generalizing search with
  | nil => exact le_rfl
  | cons b rest ih =>
    have hrest := ih (search.discover b) fun c hc => h c (List.mem_cons_of_mem b hc)
    exact hrest.trans (graph.work_discover search (h b List.mem_cons_self))

/-- The search from a state on, until nothing is left to expand. -/
def Graph.run (graph : Graph α) (search : Search α) : Search α :=
  match hfrontier : search.frontier with
  | [] => search
  | a :: rest => graph.run ({ search with frontier := rest }.discoverAll (graph.successors a))
termination_by graph.work search
decreasing_by
  have hle := graph.work_discoverAll { search with frontier := rest } (graph.closed a)
  have hlt : graph.work { search with frontier := rest } < graph.work search := by
    simp [Graph.work, hfrontier]
  exact lt_of_le_of_lt hle hlt

/-! ## §2 What One Expansion Does -/

namespace Search

theorem mem_seen_discoverAll (search : Search α) (successors : List α) {c : α} :
    c ∈ (search.discoverAll successors).seen ↔ c ∈ search.seen ∨ c ∈ successors := by
  induction successors generalizing search with
  | nil => simp [discoverAll]
  | cons b rest ih =>
    show c ∈ ((search.discover b).discoverAll rest).seen ↔ _
    rw [ih, discover]
    split_ifs with hseen
    · have : c = b → c ∈ search.seen := fun heq => heq ▸ hseen
      simp only [List.mem_cons]
      tauto
    · simp only [List.mem_cons]
      tauto

/-- What is new on the stack is what has not been seen before. -/
theorem mem_frontier_discoverAll (search : Search α) (successors : List α) {c : α} :
    c ∈ (search.discoverAll successors).frontier ↔
      c ∈ search.frontier ∨ c ∈ successors ∧ c ∉ search.seen := by
  induction successors generalizing search with
  | nil => simp [discoverAll]
  | cons b rest ih =>
    show c ∈ ((search.discover b).discoverAll rest).frontier ↔ _
    rw [ih, discover]
    split_ifs with hseen
    · have : c = b → c ∈ search.seen := fun heq => heq ▸ hseen
      simp only [List.mem_cons]
      tauto
    · have : c = b → c ∉ search.seen := fun heq => heq ▸ hseen
      simp only [List.mem_cons]
      tauto

/-- What is found is what is seen beside the start, each vertex once. -/
structure FoundBeside (a : α) (search : Search α) : Prop where
  seen_iff : ∀ b, b ∈ search.seen ↔ b = a ∨ b ∈ search.found
  start_notMem : a ∉ search.found
  nodup : search.found.Nodup

omit [DecidableEq α] in
theorem FoundBeside.start (a : α) : FoundBeside a (Search.start a) where
  seen_iff b := by simp [Search.start]
  start_notMem := List.not_mem_nil
  nodup := List.nodup_nil

theorem FoundBeside.discover {a : α} {search : Search α} (h : FoundBeside a search) (b : α) :
    FoundBeside a (search.discover b) := by
  rw [Search.discover]
  split_ifs with hseen
  · exact h
  · rw [h.seen_iff, not_or] at hseen
    constructor
    · intro c
      simp only [List.mem_cons, h.seen_iff]
      tauto
    · exact fun hmem => (List.mem_cons.mp hmem).elim (fun heq => hseen.1 heq.symm) h.start_notMem
    · exact List.nodup_cons.mpr ⟨hseen.2, h.nodup⟩

theorem FoundBeside.discoverAll {a : α} {search : Search α} (h : FoundBeside a search)
    (successors : List α) : FoundBeside a (search.discoverAll successors) := by
  induction successors generalizing search with
  | nil => exact h
  | cons b rest ih => exact ih (h.discover b)

end Search

/-! ## §3 The Invariant of the Search -/

/-- A search of `graph` from `a` that is under way. -/
structure Graph.Searching (graph : Graph α) (a : α) (search : Search α) : Prop where
  foundBeside : search.FoundBeside a
  frontier_seen : ∀ b ∈ search.frontier, b ∈ search.seen
  reached : ∀ b ∈ search.seen, ReflTransGen graph.Edge a b
  expanded : ∀ b ∈ search.seen, b ∉ search.frontier → ∀ c, graph.Edge b c → c ∈ search.seen

omit [DecidableEq α] in
theorem Graph.Searching.start (graph : Graph α) (a : α) :
    graph.Searching a (Search.start a) where
  foundBeside := .start a
  frontier_seen b hb := hb
  reached b hb := by
    obtain rfl := List.mem_singleton.mp hb
    exact .refl
  expanded b hb hfrontier := absurd hb hfrontier

/-- One round: the top of the stack is expanded. -/
theorem Graph.Searching.step {graph : Graph α} {a b : α} {search : Search α} {rest : List α}
    (h : graph.Searching a search) (hfrontier : search.frontier = b :: rest) :
    graph.Searching a ({ search with frontier := rest }.discoverAll (graph.successors b)) := by
  have htop : b ∈ search.seen := h.frontier_seen b (hfrontier ▸ List.mem_cons_self)
  have hrest : ∀ c ∈ rest, c ∈ search.seen := fun c hc =>
    h.frontier_seen c (hfrontier ▸ List.mem_cons_of_mem b hc)
  constructor
  · have hbeside : Search.FoundBeside a { search with frontier := rest } := { h.foundBeside with }
    exact hbeside.discoverAll _
  · intro c hc
    rw [Search.mem_seen_discoverAll]
    rcases (Search.mem_frontier_discoverAll _ _).mp hc with hold | hnew
    · exact .inl (hrest c hold)
    · exact .inr hnew.1
  · intro c hc
    rcases (Search.mem_seen_discoverAll _ _).mp hc with hold | hnew
    · exact h.reached c hold
    · exact (h.reached b htop).tail hnew
  · intro c hc hnot d hedge
    rw [Search.mem_frontier_discoverAll, not_or] at hnot
    rw [Search.mem_seen_discoverAll]
    have hseen : c ∈ search.seen := by
      by_contra hunseen
      rcases (Search.mem_seen_discoverAll _ _).mp hc with hold | hnew
      · exact hunseen hold
      · exact hnot.2 ⟨hnew, hunseen⟩
    -- `c` is off the stack: it is the vertex of this round, or it was expanded before.
    by_cases hcb : c = b
    · subst hcb
      exact .inr hedge
    · have hoff : c ∉ search.frontier := by
        rw [hfrontier, List.mem_cons, not_or]
        exact ⟨hcb, hnot.1⟩
      exact .inl (h.expanded c hseen hoff d hedge)

/-- The search ends with an empty stack, and with its invariant. -/
theorem Graph.run_spec {graph : Graph α} {a : α} {search : Search α}
    (h : graph.Searching a search) :
    graph.Searching a (graph.run search) ∧ (graph.run search).frontier = [] := by
  fun_induction Graph.run graph search with
  | case1 search hfrontier => exact ⟨h, hfrontier⟩
  | case2 search b rest hfrontier ih => exact ih (h.step hfrontier)

/-- What a search from `a` finds: everything else that `a` leads to. -/
theorem Graph.mem_found_iff (graph : Graph α) (a b : α) :
    b ∈ (graph.run (.start a)).found ↔ b ≠ a ∧ ReflTransGen graph.Edge a b := by
  obtain ⟨hsearch, hempty⟩ := graph.run_spec (.start graph a)
  have hseen : ∀ c, ReflTransGen graph.Edge a c → c ∈ (graph.run (.start a)).seen := by
    intro c hreached
    induction hreached with
    | refl => exact (hsearch.foundBeside.seen_iff a).mpr (.inl rfl)
    | tail _ hedge ih =>
      refine hsearch.expanded _ ih ?_ _ hedge
      rw [hempty]
      exact List.not_mem_nil
  constructor
  · intro hfound
    have hb : b ∈ (graph.run (.start a)).seen := (hsearch.foundBeside.seen_iff b).mpr (.inr hfound)
    exact ⟨fun heq => hsearch.foundBeside.start_notMem (heq ▸ hfound), hsearch.reached b hb⟩
  · intro hother
    exact ((hsearch.foundBeside.seen_iff b).mp (hseen b hother.2)).resolve_left hother.1

/-- What leads from `a` to elsewhere begins with a step to elsewhere. -/
theorem exists_step {β : Type*} {r : β → β → Prop} {a b : β} (h : TransGen r a b) (hne : b ≠ a) :
    ∃ c, c ≠ a ∧ r a c := by
  induction h with
  | single hstep => exact ⟨_, hne, hstep⟩
  | @tail c d hreached hstep ih =>
    by_cases hc : c = a
    · subst hc
      exact ⟨d, hne, hstep⟩
    · exact ih hc

theorem Graph.nodup_found (graph : Graph α) (a : α) : (graph.run (.start a)).found.Nodup :=
  (graph.run_spec (.start graph a)).1.foundBeside.nodup

end Worklist
