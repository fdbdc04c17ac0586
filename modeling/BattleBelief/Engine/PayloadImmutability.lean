import BattleBelief.Errors
import BattleBelief.Library.Cycles
import Mathlib.Data.Set.Card

/-!
# Deeply Immutable Payloads

A prepared world keeps an opaque payload, and accepts it only if it is immutable all the way down.
The check recurses through a graph of values: on each path it remembers the containers that it has
entered, and refuses to enter one again. It does not remember enum members. A ring of enum members,
each the value of the one before, keeps it going for ever; `immutability_decided_iff` says that
nothing else does.
-/

namespace BattleBelief

open Cycles Relation

/-! ## §1 Graphs of values -/

/-- A value as the check sees it, in the order of its tests, with the values that it contains. -/
inductive PyNode (Id : Type) where
  /-- An instance of `_MUTABLE_OPAQUE_TYPES` -/
  | mutable
  | atom
  | enumMember (value : Id)
  | tuple (items : List Id)
  | frozenset (items : List Id)
  | frozenDataclass (fieldValues : List Id)
  | other
  deriving DecidableEq

/-- What a container that the check enters contains. -/
def PyNode.items {Id : Type} : PyNode Id → Option (List Id)
  | .tuple items => some items
  | .frozenset items => some items
  | .frozenDataclass fieldValues => some fieldValues
  | _ => none

/-- The edges of the graph. -/
def PyNode.contents {Id : Type} : PyNode Id → List Id
  | .enumMember value => [value]
  | node => node.items.getD []

/-- The kinds of immutable values. -/
def PyNode.isPermitted {Id : Type} : PyNode Id → Bool
  | .mutable => false
  | .other => false
  | _ => true

section Heap

variable {Id : Type} (heap : Id → PyNode Id)

def Contains (outer inner : Id) : Prop := inner ∈ (heap outer).contents

/-- All that a value reaches is of a permitted kind, and none of it contains itself. -/
structure DeeplyImmutable (value : Id) : Prop where
  permitted : ∀ inner, ReflTransGen (Contains heap) value inner → (heap inner).isPermitted = true
  acyclic : ∀ inner, ReflTransGen (Contains heap) value inner → ¬TransGen (Contains heap) inner inner

/-! ## §2 The check -/

def notImmutable : PyException :=
  .valueError "prepared world payload must be a deeply immutable adapter value"

def referenceCycle : PyException :=
  .valueError "prepared world payload must not contain reference cycles"

/-- A loop over the contents of a container: the first of them that does not pass ends it. -/
def requireEach (check : Id → Option (Except PyException Unit)) :
    List Id → Option (Except PyException Unit)
  | [] => some (.ok ())
  | item :: rest =>
      match check item with
      | some (.ok ()) => requireEach check rest
      | stopped => stopped

/-- `_require_deeply_immutable_payload`; without a result if it goes deeper than `fuel`. -/
def requireDeeplyImmutablePayload [DecidableEq Id] :
    Nat → Id → List Id → Option (Except PyException Unit)
  | 0, _, _ => none
  | fuel + 1, value, seen =>
      match heap value with
      | .mutable => some (.error notImmutable)
      | .atom => some (.ok ())
      | .enumMember inner => requireDeeplyImmutablePayload fuel inner seen
      | node =>
          if value ∈ seen then some (.error referenceCycle)
          else
            match node.items with
            | some items =>
                requireEach (fun item =>
                  requireDeeplyImmutablePayload fuel item (value :: seen)) items
            | none => some (.error notImmutable)

/-- Taking the value of an enum member, and again, comes to an end. -/
inductive ValueEnds : Id → Prop where
  | here {value : Id} (h : ∀ inner, heap value ≠ .enumMember inner) : ValueEnds value
  | step {value inner : Id} (h : heap value = .enumMember inner) (hends : ValueEnds inner) :
      ValueEnds value

/-- The check comes to a ring of enum members before it finds anything to refuse: on its way it has
entered `depth` containers, and whatever they contain before the one that it takes is immutable. -/
inductive Strays : Nat → Id → Prop where
  | ring {value : Id} (h : ¬ValueEnds heap value) : Strays 0 value
  | enumMember {value inner : Id} {depth : Nat} (h : heap value = .enumMember inner)
      (hstrays : Strays depth inner) : Strays depth value
  | container {value inner : Id} {before after : List Id} {depth : Nat}
      (h : (heap value).items = some (before ++ inner :: after))
      (hbefore : ∀ earlier ∈ before, DeeplyImmutable heap earlier)
      (hstrays : Strays depth inner) : Strays (depth + 1) value

variable {heap} {value inner : Id}

/-! ## §3 What is immutable -/

theorem PyNode.contents_of_items {node : PyNode Id} {items : List Id}
    (h : node.items = some items) : node.contents = items := by
  cases node <;> cases h
  all_goals rfl

theorem PyNode.isPermitted_of_items {node : PyNode Id} {items : List Id}
    (h : node.items = some items) : node.isPermitted = true := by
  cases node <;> cases h
  all_goals rfl

theorem DeeplyImmutable.contents (h : DeeplyImmutable heap value)
    (hinner : Contains heap value inner) : DeeplyImmutable heap inner :=
  ⟨fun deeper hdeeper => h.permitted deeper (.head hinner hdeeper),
    fun deeper hdeeper => h.acyclic deeper (.head hinner hdeeper)⟩

/-- A permitted value is immutable if all that it contains is: it cannot contain itself. -/
theorem DeeplyImmutable.of_contents (hpermitted : (heap value).isPermitted = true)
    (hcontents : ∀ inner, Contains heap value inner → DeeplyImmutable heap inner) :
    DeeplyImmutable heap value := by
  refine ⟨fun deeper hdeeper => ?_, fun deeper hdeeper hcycle => ?_⟩
  · rcases hdeeper.cases_head with rfl | ⟨inner, hinner, hrest⟩
    · exact hpermitted
    · exact (hcontents inner hinner).permitted deeper hrest
  · rcases hdeeper.cases_head with rfl | ⟨inner, hinner, hrest⟩
    · obtain ⟨inner, hinner, hback⟩ := TransGen.head'_iff.mp hcycle
      exact (hcontents inner hinner).acyclic value hback hcycle
    · exact (hcontents inner hinner).acyclic deeper hrest hcycle

/-- A value that contains nothing. -/
structure IsLeaf (heap : Id → PyNode Id) (value : Id) : Prop where
  items : (heap value).items = none
  value : ∀ inner, heap value ≠ .enumMember inner

theorem node_cases (heap : Id → PyNode Id) (value : Id) :
    (∃ items, (heap value).items = some items) ∨ (∃ inner, heap value = .enumMember inner) ∨
      IsLeaf heap value := by
  cases hitems : (heap value).items with
  | some items => exact .inl ⟨items, rfl⟩
  | none =>
    by_cases hmember : ∃ inner, heap value = .enumMember inner
    · exact .inr (.inl hmember)
    · exact .inr (.inr ⟨hitems, fun inner hinner => hmember ⟨inner, hinner⟩⟩)

theorem IsLeaf.not_contains (h : IsLeaf heap value) : ¬Contains heap value inner := by
  rw [Contains]
  cases hnode : heap value with
  | enumMember inner => exact absurd hnode (h.value inner)
  | _ =>
    have hitems := h.items
    rw [hnode] at hitems
    simp [PyNode.contents, hitems]

theorem contains_of_enumMember (h : heap value = .enumMember inner) : Contains heap value inner := by
  rw [Contains, h]
  exact List.mem_singleton_self _

theorem contains_of_items {items : List Id} (h : (heap value).items = some items) :
    Contains heap value inner ↔ inner ∈ items := by
  rw [Contains, PyNode.contents_of_items h]

theorem ValueEnds.of_deeplyImmutable [Finite Id] (h : DeeplyImmutable heap value) :
    ValueEnds heap value := by
  refine induction_below h.acyclic fun outer hcontents => ?_
  by_cases hmember : ∃ inner, heap outer = .enumMember inner
  · obtain ⟨inner, hinner⟩ := hmember
    exact .step hinner (hcontents inner (contains_of_enumMember hinner))
  · exact .here fun inner hinner => hmember ⟨inner, hinner⟩

theorem Strays.not_deeplyImmutable [Finite Id] {depth : Nat} (h : Strays heap depth value) :
    ¬DeeplyImmutable heap value := by
  induction h with
  | ring hring =>
    intro himmutable
    exact hring (.of_deeplyImmutable himmutable)
  | enumMember hvalue _ ih =>
    intro himmutable
    exact ih (himmutable.contents (contains_of_enumMember hvalue))
  | container hitems _ _ ih =>
    intro himmutable
    exact ih (himmutable.contents ((contains_of_items hitems).mpr (by simp)))

/-! ## §4 Strays -/

/-- A check strays only where there is a ring of enum members. -/
theorem Strays.not_ends {depth : Nat} (h : Strays heap depth value) :
    ¬∀ member, ValueEnds heap member := by
  intro hends
  induction h with
  | ring hring => exact hring (hends _)
  | enumMember _ _ ih => exact ih
  | container _ _ _ ih => exact ih

/-- A value that strays does so in one way. -/
theorem Strays.depth_unique [Finite Id] {first second : Nat} (hfirst : Strays heap first value)
    (hsecond : Strays heap second value) : first = second := by
  induction hfirst generalizing second with
  | @ring value hring =>
    -- a ring consists of enum members only
    induction hsecond with
    | ring _ => rfl
    | enumMember hvalue _ ih => exact ih fun hends => hring (.step hvalue hends)
    | container hitems _ _ _ =>
      refine absurd (.here fun inner hinner => ?_) hring
      rw [hinner] at hitems
      cases hitems
  | @enumMember value inner depth hvalue hstrays ih =>
    cases hsecond with
    | ring hring => exact ih (.ring fun hends => hring (.step hvalue hends))
    | enumMember hother hsecond =>
      rw [hvalue] at hother
      cases hother
      exact ih hsecond
    | container hitems _ _ =>
      rw [hvalue] at hitems
      cases hitems
  | @container value inner before after depth hitems hbefore hstrays ih =>
    cases hsecond with
    | ring hring =>
      refine absurd (.here fun inner hinner => ?_) hring
      rw [hinner] at hitems
      cases hitems
    | enumMember hvalue _ =>
      rw [hvalue] at hitems
      cases hitems
    | @container _ other earlier later depth' hothers hearlier hsecond =>
      rw [hitems] at hothers
      have hsplit : before ++ inner :: after = earlier ++ other :: later := Option.some.inj hothers
      -- the first of the contents that is not immutable
      rcases List.append_eq_append_iff.mp hsplit with ⟨between, hother, hrest⟩ | ⟨between, hother, hrest⟩
      · cases between with
        | nil =>
          obtain ⟨rfl, -⟩ := List.cons.inj hrest
          rw [ih hsecond]
        | cons head tail =>
          obtain ⟨rfl, -⟩ := List.cons.inj hrest
          exact absurd (hearlier inner (by rw [hother]; simp)) hstrays.not_deeplyImmutable
      · cases between with
        | nil =>
          obtain ⟨rfl, -⟩ := List.cons.inj hrest
          rw [ih hsecond]
        | cons head tail =>
          obtain ⟨rfl, -⟩ := List.cons.inj hrest
          exact absurd (hbefore other (by rw [hother]; simp)) hsecond.not_deeplyImmutable

/-! ## §5 What the check answers -/

section Loop

variable {check other : Id → Option (Except PyException Unit)} {items : List Id}

theorem requireEach_eq_ok : requireEach check items = some (.ok ()) ↔
    ∀ item ∈ items, check item = some (.ok ()) := by
  induction items with
  | nil => simp [requireEach]
  | cons item rest ih =>
    rw [requireEach, List.forall_mem_cons]
    split
    · next hitem => rw [ih, hitem, eq_self_iff_true, true_and]
    · next hstopped => exact iff_of_false hstopped fun hall => hstopped hall.1

/-- The loop ends if the check of each of the contents does that it comes to. -/
theorem requireEach_ends (h : ∀ before item after, items = before ++ item :: after →
      (∀ earlier ∈ before, check earlier = some (.ok ())) → (check item).isSome) :
    (requireEach check items).isSome := by
  induction items with
  | nil => rfl
  | cons item rest ih =>
    rw [requireEach]
    split
    · next hitem =>
      refine ih fun before deeper after hrest hbefore => h (item :: before) deeper after ?_ ?_
      · rw [hrest, List.cons_append]
      · exact List.forall_mem_cons.mpr ⟨hitem, hbefore⟩
    · exact h [] item rest rfl nofun

/-- The loop does not end if one of the checks does not, and those before it refuse nothing. -/
theorem requireEach_stuck {before after : List Id} {item : Id}
    (hbefore : ∀ earlier ∈ before, ∀ result, check earlier = some result → result = .ok ())
    (hitem : check item = none) : requireEach check (before ++ item :: after) = none := by
  induction before with
  | nil => rw [List.nil_append, requireEach, hitem]
  | cons earlier before ih =>
    obtain ⟨hearlier, hbefore⟩ := List.forall_mem_cons.mp hbefore
    rw [List.cons_append, requireEach]
    cases hcheck : check earlier with
    | none => rfl
    | some result =>
      obtain rfl := hearlier result hcheck
      exact ih hbefore

theorem requireEach_passes {result : Except PyException Unit}
    (h : ∀ item ∈ items, ∀ answer, check item = some answer → answer = .ok ())
    (hresult : requireEach check items = some result) : result = .ok () := by
  induction items with
  | nil => exact (Option.some.inj hresult).symm
  | cons item rest ih =>
    obtain ⟨hitem, hrest⟩ := List.forall_mem_cons.mp h
    rw [requireEach] at hresult
    split at hresult
    · exact ih hrest hresult
    · exact hitem result hresult

theorem requireEach_mono {result : Except PyException Unit}
    (h : ∀ item ∈ items, ∀ result, check item = some result → other item = some result)
    (hcheck : requireEach check items = some result) : requireEach other items = some result := by
  induction items with
  | nil => exact hcheck
  | cons item rest ih =>
    obtain ⟨hitem, hrest⟩ := List.forall_mem_cons.mp h
    rw [requireEach] at hcheck ⊢
    cases hfirst : check item with
    | none =>
      rw [hfirst] at hcheck
      cases hcheck
    | some first =>
      rw [hitem first hfirst]
      rw [hfirst] at hcheck
      cases first with
      | error err => exact hcheck
      | ok _ => exact ih hrest hcheck

end Loop

variable [DecidableEq Id] {seen : List Id} {fuel : Nat}

/-- Values other than atoms and enum members are remembered, or refused. -/
theorem check_of_items {items : List Id} (h : (heap value).items = some items) :
    requireDeeplyImmutablePayload heap (fuel + 1) value seen =
      if value ∈ seen then some (.error referenceCycle)
      else requireEach (fun item => requireDeeplyImmutablePayload heap fuel item (value :: seen))
        items := by
  rw [requireDeeplyImmutablePayload]
  cases hnode : heap value with
  | tuple _ | frozenset _ | frozenDataclass _ =>
    rw [hnode] at h
    cases h
    rfl
  | _ =>
    rw [hnode] at h
    cases h

theorem check_of_enumMember (h : heap value = .enumMember inner) :
    requireDeeplyImmutablePayload heap (fuel + 1) value seen =
      requireDeeplyImmutablePayload heap fuel inner seen := by
  rw [requireDeeplyImmutablePayload, h]

/-- Any other value is checked at once. -/
theorem check_of_leaf (h : IsLeaf heap value) (seen : List Id) :
    ∃ result, (result = .ok () ↔ (heap value).isPermitted = true) ∧
      ∀ fuel, requireDeeplyImmutablePayload heap (fuel + 1) value seen = some result := by
  cases hnode : heap value with
  | mutable => exact ⟨.error notImmutable, by simp [PyNode.isPermitted], fun fuel => by
      rw [requireDeeplyImmutablePayload, hnode]⟩
  | atom => exact ⟨.ok (), by simp [PyNode.isPermitted], fun fuel => by
      rw [requireDeeplyImmutablePayload, hnode]⟩
  | other =>
    refine ⟨.error (if value ∈ seen then referenceCycle else notImmutable), by
      simp [PyNode.isPermitted], fun fuel => ?_⟩
    simp only [requireDeeplyImmutablePayload, hnode]
    split_ifs <;> rfl
  | enumMember inner => exact absurd hnode (h.value inner)
  | tuple _ | frozenset _ | frozenDataclass _ =>
    have hitems := h.items
    rw [hnode] at hitems
    cases hitems

theorem check_sound (h : requireDeeplyImmutablePayload heap fuel value seen = some (.ok ())) :
    DeeplyImmutable heap value := by
  induction fuel generalizing value seen with
  | zero => cases h
  | succ fuel ih =>
    rcases node_cases heap value with ⟨items, hitems⟩ | ⟨inner, hinner⟩ | hleaf
    · rw [check_of_items hitems] at h
      split_ifs at h with hseen
      · cases h
      refine .of_contents (PyNode.isPermitted_of_items hitems) fun inner hinner => ?_
      exact ih (requireEach_eq_ok.mp h inner ((contains_of_items hitems).mp hinner))
    · rw [check_of_enumMember hinner] at h
      refine .of_contents (by rw [hinner]; rfl) fun other hother => ?_
      rw [Contains, hinner] at hother
      obtain rfl := List.mem_singleton.mp hother
      exact ih h
    · obtain ⟨result, hok, hresult⟩ := check_of_leaf hleaf seen
      rw [hresult] at h
      have hpermitted := hok.mp (Option.some.inj h)
      exact .of_contents hpermitted fun inner hinner => absurd hinner hleaf.not_contains

/-- Nothing of an immutable payload is refused: what has been seen on the way to a value contains
it, so the value is not among it. -/
theorem check_complete (h : DeeplyImmutable heap value)
    (hseen : ∀ outer ∈ seen, TransGen (Contains heap) outer value)
    {result : Except PyException Unit}
    (hresult : requireDeeplyImmutablePayload heap fuel value seen = some result) :
    result = .ok () := by
  induction fuel generalizing value seen result with
  | zero => cases hresult
  | succ fuel ih =>
    rcases node_cases heap value with ⟨items, hitems⟩ | ⟨inner, hinner⟩ | hleaf
    · have hfresh : value ∉ seen := fun hmem => h.acyclic value .refl (hseen value hmem)
      rw [check_of_items hitems, if_neg hfresh] at hresult
      refine requireEach_passes (fun item hitem answer hanswer => ?_) hresult
      have hcontains := (contains_of_items hitems).mpr hitem
      refine ih (h.contents hcontains) (List.forall_mem_cons.mpr ⟨.single hcontains, ?_⟩) hanswer
      exact fun outer houter => (hseen outer houter).tail hcontains
    · rw [check_of_enumMember hinner] at hresult
      have hcontains := contains_of_enumMember hinner
      exact ih (h.contents hcontains) (fun outer houter => (hseen outer houter).tail hcontains)
        hresult
    · obtain ⟨other, hok, hother⟩ := check_of_leaf hleaf seen
      rw [hother] at hresult
      rw [← Option.some.inj hresult]
      exact hok.mpr (h.permitted value .refl)

theorem check_mono {result : Except PyException Unit} {more : Nat} (hle : fuel ≤ more)
    (h : requireDeeplyImmutablePayload heap fuel value seen = some result) :
    requireDeeplyImmutablePayload heap more value seen = some result := by
  induction fuel generalizing value seen result more with
  | zero => cases h
  | succ fuel ih =>
    obtain ⟨more, rfl⟩ := Nat.exists_eq_add_of_le' hle
    have hless : fuel ≤ more + fuel := Nat.le_add_left fuel more
    rw [← Nat.add_assoc]
    rcases node_cases heap value with ⟨items, hitems⟩ | ⟨inner, hinner⟩ | hleaf
    · rw [check_of_items hitems] at h ⊢
      split_ifs at h ⊢ with hseen
      · exact h
      · exact requireEach_mono (fun item _ answer hanswer => ih hless hanswer) h
    · rw [check_of_enumMember hinner] at h ⊢
      exact ih hless h
    · obtain ⟨answer, -, hanswer⟩ := check_of_leaf hleaf seen
      rw [hanswer] at h ⊢
      exact h

/-- A check that does not stray ends: every container on a path is one that has not been seen. -/
theorem check_ends [Finite Id] (h : ∀ depth, ¬Strays heap depth value) (seen : List Id) :
    ∃ fuel, (requireDeeplyImmutablePayload heap fuel value seen).isSome := by
  induction hunseen : {other | other ∉ seen}.ncard using Nat.strong_induction_on
    generalizing value seen with
  | _ unseen ih =>
    have hends : ValueEnds heap value := by
      by_contra hring
      exact h 0 (.ring hring)
    induction hends with
    | @step value inner hinner _ ihvalue =>
      obtain ⟨fuel, hfuel⟩ := ihvalue fun depth hstrays => h depth (.enumMember hinner hstrays)
      exact ⟨fuel + 1, by rwa [check_of_enumMember hinner]⟩
    | @here value hvalue =>
      rcases node_cases heap value with ⟨items, hitems⟩ | ⟨inner, hinner⟩ | hleaf
      · by_cases hseen : value ∈ seen
        · exact ⟨1, by rw [check_of_items hitems, if_pos hseen]; rfl⟩
        have hfewer : {other | other ∉ value :: seen}.ncard < unseen := by
          rw [← hunseen]
          refine Set.ncard_lt_ncard ⟨fun other hother hmem => ?_, fun hsub => ?_⟩ (Set.toFinite _)
          · exact hother (List.mem_cons_of_mem value hmem)
          · exact hsub (show value ∈ {other | other ∉ seen} from hseen) List.mem_cons_self
        have hitem : ∀ item, ∃ fuel, (∀ depth, ¬Strays heap depth item) →
            (requireDeeplyImmutablePayload heap fuel item (value :: seen)).isSome := by
          intro item
          by_cases hstays : ∀ depth, ¬Strays heap depth item
          · obtain ⟨fuel, hfuel⟩ := ih _ hfewer hstays (value :: seen) rfl
            exact ⟨fuel, fun _ => hfuel⟩
          · exact ⟨0, fun hother => absurd hother hstays⟩
        choose fuelFor hfuelFor using hitem
        refine ⟨items.toFinset.sup fuelFor + 1, ?_⟩
        rw [check_of_items hitems, if_neg hseen]
        refine requireEach_ends fun before item after hsplit hbefore => ?_
        -- what comes before has been accepted, so the check does not stray here either
        have hstays : ∀ depth, ¬Strays heap depth item := fun depth hstrays =>
          h (depth + 1) (.container (hsplit ▸ hitems) (fun earlier hearlier =>
            check_sound (hbefore earlier hearlier)) hstrays)
        obtain ⟨result, hresult⟩ := Option.isSome_iff_exists.mp (hfuelFor item hstays)
        have hle : fuelFor item ≤ items.toFinset.sup fuelFor :=
          Finset.le_sup (List.mem_toFinset.mpr (by rw [hsplit]; simp))
        exact Option.isSome_iff_exists.mpr ⟨result, check_mono hle hresult⟩
      · exact absurd hinner (hvalue inner)
      · obtain ⟨result, -, hresult⟩ := check_of_leaf hleaf seen
        exact ⟨1, by rw [hresult 0]; rfl⟩

/-- A check that strays does not end. -/
theorem check_stuck [Finite Id] {depth : Nat} (h : Strays heap depth value)
    (hseen : ∀ outer ∈ seen, TransGen (Contains heap) outer value ∧
      ∃ further, depth < further ∧ Strays heap further outer) :
    requireDeeplyImmutablePayload heap fuel value seen = none := by
  induction fuel generalizing value seen depth with
  | zero => rfl
  | succ fuel ih =>
    have hdeeper : ∀ {inner}, Contains heap value inner → ∀ outer ∈ seen,
        TransGen (Contains heap) outer inner :=
      fun hinner outer houter => (hseen outer houter).1.tail hinner
    cases h with
    | ring hring =>
      rcases node_cases heap value with ⟨items, hitems⟩ | ⟨inner, hinner⟩ | hleaf
      · refine absurd (.here fun inner hinner => ?_) hring
        rw [hinner] at hitems
        cases hitems
      · rw [check_of_enumMember hinner]
        refine ih (.ring fun hends => hring (.step hinner hends)) fun outer houter => ?_
        exact ⟨hdeeper (contains_of_enumMember hinner) outer houter, (hseen outer houter).2⟩
      · exact absurd (.here hleaf.value) hring
    | @enumMember _ inner _ hinner hstrays =>
      rw [check_of_enumMember hinner]
      refine ih hstrays fun outer houter => ?_
      exact ⟨hdeeper (contains_of_enumMember hinner) outer houter, (hseen outer houter).2⟩
    | @container _ inner before after depth hitems hbefore hstrays =>
      have hcontains : ∀ {item}, item ∈ before ++ inner :: after → Contains heap value item :=
        fun hitem => (contains_of_items hitems).mpr hitem
      have hfresh : value ∉ seen := by
        intro hmem
        obtain ⟨further, hlt, hother⟩ := (hseen value hmem).2
        exact hlt.ne ((Strays.container hitems hbefore hstrays).depth_unique hother)
      rw [check_of_items hitems, if_neg hfresh]
      refine requireEach_stuck (fun earlier hearlier result hresult => ?_) ?_
      · have hinner := hcontains (List.mem_append_left _ hearlier)
        refine check_complete (hbefore earlier hearlier) ?_ hresult
        exact List.forall_mem_cons.mpr ⟨.single hinner, hdeeper hinner⟩
      · have hinner : Contains heap value inner := hcontains (by simp)
        refine ih hstrays (List.forall_mem_cons.mpr ⟨⟨.single hinner, ?_⟩, ?_⟩)
        · exact ⟨_, Nat.lt_succ_self depth, .container hitems hbefore hstrays⟩
        · intro outer houter
          obtain ⟨further, hlt, hother⟩ := (hseen outer houter).2
          exact ⟨hdeeper hinner outer houter, further, by omega, hother⟩

/-! ## §6 The whole graph -/

/-- **Immutability is decided, up to rings of enum members.** In every finite graph of values the
check of a value ends, and accepts it exactly when all that it reaches is of a permitted kind and no
value that it reaches contains itself, if and only if the check does not stray into a ring of enum
members. -/
theorem immutability_decided_iff [Finite Id] (heap : Id → PyNode Id) (value : Id) :
    (∃ fuel result, requireDeeplyImmutablePayload heap fuel value [] = some result ∧
      (result = .ok () ↔ DeeplyImmutable heap value)) ↔ ¬∃ depth, Strays heap depth value := by
  constructor
  · rintro ⟨fuel, result, hresult, -⟩ ⟨depth, hstrays⟩
    rw [check_stuck hstrays (fun outer houter => by cases houter)] at hresult
    cases hresult
  · intro hnever
    obtain ⟨fuel, hsome⟩ := check_ends (fun depth hstrays => hnever ⟨depth, hstrays⟩) []
    obtain ⟨result, hresult⟩ := Option.isSome_iff_exists.mp hsome
    refine ⟨fuel, result, hresult, ?_, fun himmutable => ?_⟩
    · rintro rfl
      exact check_sound hresult
    · exact check_complete himmutable (fun outer houter => by cases houter) hresult

end Heap

/-- An enum member that is its own value. -/
theorem self_valued_member_unchecked :
    let heap : Fin 1 → PyNode (Fin 1) := fun _ => .enumMember 0
    ¬∃ fuel result, requireDeeplyImmutablePayload heap fuel 0 [] = some result ∧
      (result = .ok () ↔ DeeplyImmutable heap 0) := by
  intro heap
  rintro ⟨fuel, result, hresult, -⟩
  have hnever : ∀ fuel, requireDeeplyImmutablePayload heap fuel 0 [] = none := by
    intro fuel
    induction fuel with
    | zero => rfl
    | succ fuel ih => exact ih
  rw [hnever] at hresult
  cases hresult

/-- A tuple that holds one empty tuple twice, and an atom. -/
def sharingTuple : Fin 3 → PyNode (Fin 3)
  | 0 => .tuple [1, 1, 2]
  | 1 => .tuple []
  | 2 => .atom

theorem sharing_tuple_checked :
    ∃ fuel result, requireDeeplyImmutablePayload sharingTuple fuel 0 [] = some result ∧
      (result = .ok () ↔ DeeplyImmutable sharingTuple 0) := by
  refine (immutability_decided_iff sharingTuple 0).mpr ?_
  rintro ⟨depth, hstrays⟩
  refine hstrays.not_ends fun value => .here fun inner => ?_
  revert value inner
  decide

end BattleBelief
