import BattleBelief.Observation.ReducerSteps
import Mathlib.Data.List.Chain

/-!
# Evidence Timelines

Items, abilities and identities are recorded as lists of intervals, each valid from one event
index until another. Along every run the intervals of a list follow one another in time: none
overlaps its successor, and only the last may still be open. Items and identities leave no gap
either, since nothing but a new interval ever closes an old one.

The invariant is carried as a chain of neighbouring intervals (`Ordered`, `Gapless`), which
appending and closing preserve locally.
-/

namespace BattleBelief

open Runs

/-! ## §1 Neighbouring intervals -/

/-- `iv` was opened no later than `now` and, if closed, lasted for a while before `now`. -/
structure EvidenceInterval.Placed (iv : EvidenceInterval) (now : Int) : Prop where
  source : iv.sourceEventIndex = iv.validFrom
  opened : iv.validFrom ≤ now
  closed : ∀ stop, iv.validUntil = some stop → iv.validFrom < stop ∧ stop ≤ now

/-- `a` ends no later than `b` begins. -/
def Precedes (a b : EvidenceInterval) : Prop :=
  ∃ stop, a.validUntil = some stop ∧ stop ≤ b.validFrom

/-- `a` ends exactly where `b` begins. -/
def Meets (a b : EvidenceInterval) : Prop :=
  a.validUntil = some b.validFrom

/-- Intervals in temporal order, none of them later than `now`. -/
structure Ordered (now : Int) (intervals : List EvidenceInterval) : Prop where
  placed : ∀ iv ∈ intervals, iv.Placed now
  chain : intervals.IsChain Precedes

/-- Ordered intervals without gaps, up to the present. -/
structure Gapless (now : Int) (intervals : List EvidenceInterval) : Prop
    extends Ordered now intervals where
  meets : intervals.IsChain Meets
  current : ∀ last ∈ intervals.getLast?, last.validUntil = none

/-- The interval, closed at `ei` if it was open. -/
def EvidenceInterval.closedAt (ei : Int) (iv : EvidenceInterval) : EvidenceInterval :=
  if iv.validUntil = none then { iv with validUntil := some ei } else iv

theorem closeOpenInterval_eq_map (intervals : List EvidenceInterval) (ei : Int) :
    closeOpenInterval intervals ei = intervals.map (EvidenceInterval.closedAt ei) := rfl

@[simp] theorem EvidenceInterval.validFrom_closedAt (ei : Int) (iv : EvidenceInterval) :
    (iv.closedAt ei).validFrom = iv.validFrom := by
  unfold closedAt
  split_ifs <;> rfl

theorem EvidenceInterval.closedAt_of_closed {ei stop : Int} {iv : EvidenceInterval}
    (h : iv.validUntil = some stop) : iv.closedAt ei = iv := by
  simp [closedAt, h]

theorem EvidenceInterval.validUntil_closedAt (ei : Int) (iv : EvidenceInterval) :
    (iv.closedAt ei).validUntil = some (iv.validUntil.getD ei) := by
  unfold closedAt
  split_ifs with h
  · simp [h]
  · obtain ⟨stop, hstop⟩ := Option.ne_none_iff_exists'.mp h
    simp [hstop]

theorem EvidenceInterval.Placed.later {iv : EvidenceInterval} {now ei : Int}
    (h : iv.Placed now) (hlt : now < ei) : iv.Placed ei where
  source := h.source
  opened := h.opened.trans hlt.le
  closed stop hstop := ⟨(h.closed stop hstop).1, (h.closed stop hstop).2.trans hlt.le⟩

theorem EvidenceInterval.Placed.closing {iv : EvidenceInterval} {now ei : Int}
    (h : iv.Placed now) (hlt : now < ei) : (iv.closedAt ei).Placed ei := by
  cases hstop : iv.validUntil with
  | some stop =>
    rw [EvidenceInterval.closedAt_of_closed hstop]
    exact h.later hlt
  | none =>
    have hclosed : (iv.closedAt ei).validUntil = some ei := by
      rw [EvidenceInterval.validUntil_closedAt, hstop, Option.getD_none]
    have hsource : (iv.closedAt ei).sourceEventIndex = iv.sourceEventIndex := by
      simp [EvidenceInterval.closedAt, hstop]
    refine ⟨?_, ?_, fun stop h' => ?_⟩
    · rw [hsource, EvidenceInterval.validFrom_closedAt, h.source]
    · rw [EvidenceInterval.validFrom_closedAt]
      exact h.opened.trans hlt.le
    · obtain rfl : ei = stop := Option.some.inj (hclosed.symm.trans h')
      rw [EvidenceInterval.validFrom_closedAt]
      exact ⟨h.opened.trans_lt hlt, le_refl ei⟩

/-! ## §2 Closing and opening -/

theorem Ordered.nil (now : Int) : Ordered now [] :=
  ⟨fun _ h => absurd h List.not_mem_nil, .nil⟩

theorem Gapless.nil (now : Int) : Gapless now [] :=
  ⟨.nil now, .nil, fun _ h => by simp at h⟩

theorem Ordered.later {now ei : Int} {intervals : List EvidenceInterval}
    (h : Ordered now intervals) (hlt : now < ei) : Ordered ei intervals :=
  ⟨fun iv hiv => (h.placed iv hiv).later hlt, h.chain⟩

theorem Gapless.later {now ei : Int} {intervals : List EvidenceInterval}
    (h : Gapless now intervals) (hlt : now < ei) : Gapless ei intervals :=
  ⟨h.toOrdered.later hlt, h.meets, h.current⟩

/-- Only the last interval is ever closed: one with a successor has ended already. -/
theorem Precedes.closing {a b : EvidenceInterval} (ei : Int) (h : Precedes a b) :
    Precedes (a.closedAt ei) (b.closedAt ei) := by
  obtain ⟨stop, hstop, hle⟩ := h
  refine ⟨stop, ?_, ?_⟩
  · rw [EvidenceInterval.closedAt_of_closed hstop, hstop]
  · rwa [EvidenceInterval.validFrom_closedAt]

theorem Meets.closing {a b : EvidenceInterval} (ei : Int) (h : Meets a b) :
    Meets (a.closedAt ei) (b.closedAt ei) := by
  unfold Meets at h ⊢
  rw [EvidenceInterval.closedAt_of_closed h, h, EvidenceInterval.validFrom_closedAt]

theorem Ordered.closing {now ei : Int} {intervals : List EvidenceInterval}
    (h : Ordered now intervals) (hlt : now < ei) : Ordered ei (closeOpenInterval intervals ei) := by
  rw [closeOpenInterval_eq_map]
  refine ⟨fun iv hiv => ?_, ?_⟩
  · obtain ⟨old, hold, rfl⟩ := List.mem_map.mp hiv
    exact (h.placed old hold).closing hlt
  · exact List.isChain_map_of_isChain _ (fun _ _ hab => hab.closing ei) h.chain

/-- The interval that `openInterval` appends. -/
def freshInterval (value : Option String) (ei : Int) : EvidenceInterval :=
  { value := value, sourceEventIndex := ei, validFrom := ei, validUntil := none }

theorem placed_fresh (value : Option String) (ei : Int) : (freshInterval value ei).Placed ei :=
  ⟨rfl, le_refl ei, fun _ h => by cases h⟩

theorem getLast?_closeOpenInterval {intervals : List EvidenceInterval} {ei : Int}
    {last : EvidenceInterval} (h : last ∈ (closeOpenInterval intervals ei).getLast?) :
    ∃ old ∈ intervals.getLast?, last = old.closedAt ei := by
  rw [closeOpenInterval_eq_map, List.getLast?_map] at h
  obtain ⟨old, hold, rfl⟩ := Option.map_eq_some_iff.mp h
  exact ⟨old, hold, rfl⟩

/-- Opening an interval closes the open one first, and so keeps the order. -/
theorem Ordered.opening {now ei : Int} {intervals : List EvidenceInterval}
    (h : Ordered now intervals) (hlt : now < ei) (value : Option String) :
    Ordered ei (openInterval intervals value ei) := by
  have hclosed := h.closing hlt
  refine ⟨fun iv hiv => ?_, hclosed.chain.append (.singleton _) fun last hlast next hnext => ?_⟩
  · rcases List.mem_append.mp hiv with hold | hnew
    · exact hclosed.placed iv hold
    · rw [List.mem_singleton.mp hnew]
      exact placed_fresh value ei
  · obtain ⟨old, hold, rfl⟩ := getLast?_closeOpenInterval hlast
    obtain rfl := Option.some.inj hnext
    have hstop := EvidenceInterval.validUntil_closedAt ei old
    have hmem : old.closedAt ei ∈ closeOpenInterval intervals ei := List.mem_of_getLast? hlast
    exact ⟨_, hstop, ((hclosed.placed _ hmem).closed _ hstop).2⟩

/-- A gapless list stays gapless: the interval that is closed is the last one, and it was
open. -/
theorem Gapless.opening {now ei : Int} {intervals : List EvidenceInterval}
    (h : Gapless now intervals) (hlt : now < ei) (value : Option String) :
    Gapless ei (openInterval intervals value ei) := by
  refine ⟨h.toOrdered.opening hlt value, ?_, fun last hlast => ?_⟩
  · refine List.IsChain.append ?_ (.singleton _) fun last hlast next hnext => ?_
    · exact List.isChain_map_of_isChain _ (fun _ _ hab => hab.closing ei) h.meets
    · obtain ⟨old, hold, rfl⟩ := getLast?_closeOpenInterval hlast
      obtain rfl := Option.some.inj hnext
      rw [Meets, EvidenceInterval.validUntil_closedAt, h.current old hold, Option.getD_none]
  · rw [openInterval, List.getLast?_concat] at hlast
    rw [← Option.some.inj hlast]

/-- Leaving the field closes at most a suppressed ability. -/
theorem Ordered.switchOut {now ei : Int} {intervals : List EvidenceInterval}
    (h : Ordered now intervals) (hlt : now < ei) :
    Ordered ei (endAbilitySuppressionOnSwitchOut intervals ei) := by
  unfold endAbilitySuppressionOnSwitchOut
  split
  · split_ifs
    · exact h.closing hlt
    · exact h.later hlt
  · exact h.later hlt

/-! ## §3 The timelines of a pokemon -/

/-- The three interval lists of a pokemon at event index `now`. -/
structure Timelines (now : Int) (pv : PokemonView) : Prop where
  item : Gapless now pv.itemIntervals
  ability : Ordered now pv.abilityIntervals
  identity : Gapless now pv.identityIntervals

theorem Timelines.later {now ei : Int} {pv : PokemonView} (h : Timelines now pv)
    (hlt : now < ei) : Timelines ei pv :=
  ⟨h.item.later hlt, h.ability.later hlt, h.identity.later hlt⟩

/-- Timelines depend on the three interval lists alone. -/
theorem Timelines.congr {now : Int} {pv pv' : PokemonView} (h : Timelines now pv)
    (hitem : pv'.itemIntervals = pv.itemIntervals)
    (hability : pv'.abilityIntervals = pv.abilityIntervals)
    (hidentity : pv'.identityIntervals = pv.identityIntervals) : Timelines now pv' :=
  ⟨hitem ▸ h.item, hability ▸ h.ability, hidentity ▸ h.identity⟩

theorem timelines_invariant : PokemonInvariant Timelines where
  later := Timelines.later
  edit {now ei pv} edit h hlt _ := by
    have hlater := h.later hlt
    cases edit with
    | item value => exact ⟨h.item.opening hlt value, hlater.ability, hlater.identity⟩
    | ability value => exact ⟨hlater.item, h.ability.opening hlt value, hlater.identity⟩
    | identity nickname details hp status fainted =>
      exact ⟨hlater.item, hlater.ability, h.identity.opening hlt (some details)⟩
    | reveal moveId =>
      refine hlater.congr ?_ ?_ ?_ <;> simp only [EntryEdit.apply] <;> split_ifs <;> rfl
    | volatileStart name =>
      refine hlater.congr ?_ ?_ ?_ <;> simp only [EntryEdit.apply] <;> split_ifs <;> rfl
    | form event hp =>
      refine hlater.congr ?_ ?_ ?_ <;> simp only [EntryEdit.apply, changeForm] <;> split <;> rfl
    | _ => exact hlater.congr rfl rfl rfl
  boosts h hlt _ _ := (h.later hlt).congr rfl rfl rfl
  cure h hlt := (h.later hlt).congr rfl rfl rfl
  deactivate {now ei pv} h hlt := by
    unfold BattleBelief.deactivate
    split_ifs
    · exact ⟨h.item.later hlt, h.ability.switchOut hlt, h.identity.later hlt⟩
    · exact h.later hlt
  reenter _ _ _ h := h.congr rfl rfl rfl
  newcomer ei _ _ _ _ _ := ⟨.nil ei, .nil ei, .nil ei⟩

/-! ## §4 What the timelines say -/

/-- A list of evidence intervals read as a timeline: positions are positions in time. -/
structure EvidenceTimeline (now : Int) (intervals : List EvidenceInterval) : Prop where
  /-- An interval begins at the event that is its source, which has been seen. -/
  stamped : ∀ iv ∈ intervals, iv.sourceEventIndex = iv.validFrom ∧ iv.validFrom ≤ now
  /-- Intervals begin one after the other. -/
  increasing : intervals.Pairwise fun a b => a.validFrom < b.validFrom
  /-- A closed interval is not empty. -/
  lasting : ∀ iv ∈ intervals, ∀ stop, iv.validUntil = some stop → iv.validFrom < stop
  /-- A closed interval ends before its successor begins. -/
  disjoint : ∀ n a b stop, intervals[n]? = some a → intervals[n + 1]? = some b →
    a.validUntil = some stop → stop ≤ b.validFrom
  /-- An open interval is the last one, so at most one is open. -/
  openLast : ∀ n iv, intervals[n]? = some iv → iv.validUntil = none → n + 1 = intervals.length

/-- Every interval but the last ends where its successor begins. -/
def WithoutGaps (intervals : List EvidenceInterval) : Prop :=
  ∀ n a b, intervals[n]? = some a → intervals[n + 1]? = some b → a.validUntil = some b.validFrom

/-- Neighbours in a chain are related. -/
theorem rel_of_isChain {α : Type} {R : α → α → Prop} {l : List α} (h : l.IsChain R) {n : Nat}
    {a b : α} (ha : l[n]? = some a) (hb : l[n + 1]? = some b) : R a b := by
  obtain ⟨hn, rfl⟩ := List.getElem?_eq_some_iff.mp hb
  obtain ⟨hn', rfl⟩ := List.getElem?_eq_some_iff.mp ha
  exact List.isChain_iff_getElem.mp h n hn

/-- In an ordered list each interval begins before its successor. -/
theorem Ordered.increasing {now : Int} {intervals : List EvidenceInterval}
    (h : Ordered now intervals) : intervals.Pairwise fun a b => a.validFrom < b.validFrom := by
  have hlt : intervals.IsChain fun a b => a.validFrom < b.validFrom := by
    refine h.chain.imp_of_mem_imp fun a b ha _ hab => ?_
    obtain ⟨stop, hstop, hle⟩ := hab
    exact lt_of_lt_of_le ((h.placed a ha).closed stop hstop).1 hle
  have htrans : Trans (fun a b : EvidenceInterval => a.validFrom < b.validFrom)
      (fun a b : EvidenceInterval => a.validFrom < b.validFrom)
      (fun a b : EvidenceInterval => a.validFrom < b.validFrom) := ⟨fun hab hbc => hab.trans hbc⟩
  exact List.isChain_iff_pairwise.mp hlt

theorem Ordered.evidenceTimeline {now : Int} {intervals : List EvidenceInterval}
    (h : Ordered now intervals) : EvidenceTimeline now intervals where
  stamped iv hiv := ⟨(h.placed iv hiv).source, (h.placed iv hiv).opened⟩
  increasing := h.increasing
  lasting iv hiv stop hstop := ((h.placed iv hiv).closed stop hstop).1
  disjoint n a b stop ha hb hstop := by
    obtain ⟨stop', hstop', hle⟩ := rel_of_isChain h.chain ha hb
    obtain rfl : stop = stop' := Option.some.inj (hstop.symm.trans hstop')
    exact hle
  openLast n iv hn hopen := by
    obtain ⟨hlt, -⟩ := List.getElem?_eq_some_iff.mp hn
    by_contra hlast
    have hnext : n + 1 < intervals.length := by omega
    obtain ⟨stop, hstop, -⟩ := rel_of_isChain h.chain hn (List.getElem?_eq_getElem hnext)
    rw [hopen] at hstop
    cases hstop

theorem Gapless.withoutGaps {now : Int} {intervals : List EvidenceInterval}
    (h : Gapless now intervals) : WithoutGaps intervals :=
  fun _ _ _ ha hb => rel_of_isChain h.meets ha hb

/-- **Evidence timelines.** In every state that a run of accepted events reaches, the item,
ability and identity intervals of every pokemon are timelines, and those of items and
identities have no gaps. -/
theorem evidence_timelines {ourUserId : String} {events : List BattleEvent} {s : ObservedState}
    (hrun : RunsTo reduce (ObservedState.initial ourUserId) events s)
    (i : SideRef) (pv : PokemonView) (hpv : pv ∈ (s.sideAt i).pokemon) :
    (∀ intervals ∈ [pv.itemIntervals, pv.abilityIntervals, pv.identityIntervals],
      EvidenceTimeline s.eventIndex intervals) ∧
      WithoutGaps pv.itemIntervals ∧ WithoutGaps pv.identityIntervals := by
  obtain ⟨-, hall⟩ := timelines_invariant.run hrun
  obtain ⟨hitem, hability, hidentity⟩ := hall i pv hpv
  refine ⟨fun intervals hmem => ?_, hitem.withoutGaps, hidentity.withoutGaps⟩
  simp only [List.mem_cons, List.not_mem_nil, or_false] at hmem
  rcases hmem with rfl | rfl | rfl
  · exact hitem.toOrdered.evidenceTimeline
  · exact hability.evidenceTimeline
  · exact hidentity.toOrdered.evidenceTimeline

/-- A held item that is knocked off. -/
def knockedOff : List BattleEvent :=
  [.pokemonSwitched ⟨0, "p2", 1, "Garchomp", "Garchomp, M", ⟨100, 100, none, false⟩⟩,
    .itemChanged ⟨1, "p2", 1, "Garchomp", some "leftovers", "set", []⟩,
    .itemChanged ⟨2, "p2", 1, "Garchomp", none, "clear", []⟩]

/-- The interval of the lost item ends where the empty one begins. -/
theorem evidence_timelines_knocked_off :
    ∃ s, RunsTo reduce (ObservedState.initial "ash") knockedOff s ∧
      ∃ pv ∈ s.p2.pokemon,
        pv.itemIntervals = [⟨some "leftovers", 1, 1, some 2⟩, ⟨none, 2, 2, none⟩] ∧
          (∀ intervals ∈ [pv.itemIntervals, pv.abilityIntervals, pv.identityIntervals],
            EvidenceTimeline s.eventIndex intervals) ∧
          WithoutGaps pv.itemIntervals ∧ WithoutGaps pv.identityIntervals :=
  ⟨_, rfl, _, List.mem_singleton_self _, rfl,
    @evidence_timelines "ash" knockedOff _ rfl .p2 _ (List.mem_singleton_self _)⟩

end BattleBelief
