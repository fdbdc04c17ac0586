import BattleBelief.Engine.LegalActions
import BattleBelief.Library.Shares
import Mathlib.Algebra.BigOperators.Ring.List
import Mathlib.Data.List.Dedup

/-!
# Chance Accounting

A transition weighs the states that its instructions lead to by their percentages.

- `chance_accounting`: every state that is reached has one successor, whose probability is its exact
  share of the percentages; the accounting itself never fails
-/

namespace BattleBelief

open Outcomes PokeEngineTransitionModel Runs
open Python (Decimal Dict.keys Dict.get? Dict.assign)

/-! ## §1 Percentages -/

theorem toRat_pos {value : Decimal} (h : 0 < value.coefficient) : 0 < value.toRat :=
  mul_pos (by exact_mod_cast h) (zpow_pos (by norm_num) _)

section Percentages

variable {Obj : Type} [Engine Obj] {model : PokeEngineTransitionModel} {instruction : PyValue Obj}

theorem getPercentage_eq_ok {value : PyValue Obj} (h : value ≠ .none) :
    (getPercentage instruction : Except EngineError (PyValue Obj)) = .ok value ↔
      Engine.getattr instruction "percentage" = .ok value := by
  refine tryCatch_eq_ok fun error => ?_
  cases error with
  | attributeError => exact fun heq => h (Except.ok.inj heq).symm
  | _ => rintro ⟨⟩

/-- The percentage of the instruction is a number, finite and positive. -/
def HasPercentage (instruction : PyValue Obj) (percentage : Decimal) : Prop :=
  (∃ value, Engine.getattr instruction "percentage" = .ok (.int value) ∧
    overflowsFloat value = false ∧ 0 < value ∧ percentage = Decimal.ofInt value) ∨
  ∃ text, Engine.getattr instruction "percentage" = .ok (.float text) ∧
    Decimal.ofText text = some percentage ∧ 0 < percentage.coefficient

theorem readPercentage_eq_ok {percentage : Decimal} :
    (model.readPercentage instruction : Except EngineError Decimal) = .ok percentage ↔
      HasPercentage instruction percentage := by
  unfold readPercentage HasPercentage
  rw [bind_eq_ok]
  constructor
  · rintro ⟨value, hvalue, h⟩
    cases value with
    | int value =>
      replace hvalue := (getPercentage_eq_ok (by simp)).mp hvalue
      dsimp only at h
      split_ifs at h with hover hpos
      · exact absurd h raise_ne_ok
      · exact .inl ⟨value, hvalue, by simpa using hover, not_le.mp hpos, (Except.ok.inj h).symm⟩
    | float text =>
      replace hvalue := (getPercentage_eq_ok (by simp)).mp hvalue
      dsimp only at h
      split at h
      · next value hvalueOf =>
        split_ifs at h with hpos
        · exact absurd h raise_ne_ok
        · obtain rfl := Except.ok.inj h
          exact .inr ⟨text, hvalue, hvalueOf, not_le.mp hpos⟩
      · exact absurd h raise_ne_ok
    | _ => exact absurd h raise_ne_ok
  · rintro (⟨value, hvalue, hover, hpos, rfl⟩ | ⟨text, hvalue, hvalueOf, hpos⟩)
    · refine ⟨.int value, (getPercentage_eq_ok (by simp)).mpr hvalue, ?_⟩
      dsimp only
      rw [if_neg (by simp [hover]), if_neg (not_le.mpr hpos)]
      rfl
    · refine ⟨.float text, (getPercentage_eq_ok (by simp)).mpr hvalue, ?_⟩
      simp only [hvalueOf]
      rw [if_neg (not_le.mpr hpos)]
      rfl

theorem HasPercentage.pos {percentage : Decimal} (h : HasPercentage instruction percentage) :
    0 < percentage.toRat := by
  rcases h with ⟨value, -, -, hpos, rfl⟩ | ⟨text, -, -, hpos⟩
  · exact toRat_pos hpos
  · exact toRat_pos hpos

end Percentages

/-! ## §2 What the instructions lead to -/

section Instructions

variable {Obj : Type} [Engine Obj] [Rfc8785] {model : PokeEngineTransitionModel}
  {state : PyValue Obj} {observedDigest : Digest} {priorViewDigests : Digest × Digest}
  {publicHp : PublicHp × PublicHp}

/-- An instruction leads to a frozen state, with a percentage. -/
structure LeadsTo (model : PokeEngineTransitionModel) (state : PyValue Obj) (observedDigest : Digest)
    (priorViewDigests : Digest × Digest) (publicHp : PublicHp × PublicHp) (instruction : PyValue Obj)
    (result : MappedNativeState × Decimal) : Prop where
  percentage : HasPercentage instruction result.2
  mapped : ∃ successorState,
    (model.applyInstructions state instruction : Except EngineError (PyValue Obj)) =
      .ok successorState ∧
    (mapNativeState successorState observedDigest (some priorViewDigests) (some state) publicHp :
      Except EngineError MappedNativeState) = .ok result.1

/-- What an instruction leads to, as a computation. -/
def resultOf (model : PokeEngineTransitionModel) (state : PyValue Obj) (observedDigest : Digest)
    (priorViewDigests : Digest × Digest) (publicHp : PublicHp × PublicHp) (instruction : PyValue Obj) :
    Except EngineError (MappedNativeState × Decimal) := do
  let percentage ← model.readPercentage instruction
  let successorState ← model.applyInstructions state instruction
  let mapped ← mapNativeState successorState observedDigest (some priorViewDigests) (some state) publicHp
  pure (mapped, percentage)

theorem leadsTo_iff {instruction : PyValue Obj} {result : MappedNativeState × Decimal} :
    LeadsTo model state observedDigest priorViewDigests publicHp instruction result ↔
      resultOf model state observedDigest priorViewDigests publicHp instruction = .ok result := by
  obtain ⟨mapped, percentage⟩ := result
  unfold resultOf
  simp only [bind_eq_ok]
  constructor
  · rintro ⟨hpercentage, successorState, hsuccessor, hmapped⟩
    exact ⟨percentage, readPercentage_eq_ok.mpr hpercentage, successorState, hsuccessor, mapped,
      hmapped, rfl⟩
  · rintro ⟨percentage', hpercentage, successorState, hsuccessor, mapped', hmapped, h⟩
    obtain ⟨rfl, rfl⟩ := Prod.mk.inj (Except.ok.inj h)
    exact ⟨readPercentage_eq_ok.mp hpercentage, successorState, hsuccessor, hmapped⟩

theorem forall₂_leadsTo {instructions : List (PyValue Obj)}
    {results : List (MappedNativeState × Decimal)} :
    List.Forall₂ (LeadsTo model state observedDigest priorViewDigests publicHp) instructions results ↔
      instructions.mapM (resultOf model state observedDigest priorViewDigests publicHp) =
        .ok results := by
  have hleads : LeadsTo model state observedDigest priorViewDigests publicHp = fun instruction result =>
      resultOf model state observedDigest priorViewDigests publicHp instruction = .ok result :=
    funext₂ fun _ _ => propext leadsTo_iff
  rw [hleads, mapM_eq_ok]

/-- The states and their weights, gathered from the results one after the other. -/
def gather (results : List (MappedNativeState × Decimal)) : ByState :=
  results.foldl (fun byState result => byState.add result.1 result.2.toRat) []

theorem addSuccessor_eq_ok {instruction : PyValue Obj} {byState next : ByState} :
    (model.addSuccessor state observedDigest priorViewDigests publicHp byState instruction :
      Except EngineError ByState) = .ok next ↔
      ∃ result, LeadsTo model state observedDigest priorViewDigests publicHp instruction result ∧
        next = byState.add result.1 result.2.toRat := by
  unfold addSuccessor
  simp only [leadsTo_iff, resultOf, bind_eq_ok]
  constructor
  · rintro ⟨percentage, hpercentage, successorState, hsuccessor, mapped, hmapped, h⟩
    exact ⟨(mapped, percentage), ⟨percentage, hpercentage, successorState, hsuccessor, mapped, hmapped,
      rfl⟩, (Except.ok.inj h).symm⟩
  · rintro ⟨⟨_, _⟩, ⟨percentage, hpercentage, successorState, hsuccessor, mapped, hmapped, h⟩, rfl⟩
    obtain ⟨rfl, rfl⟩ := Prod.mk.inj (Except.ok.inj h)
    exact ⟨percentage, hpercentage, successorState, hsuccessor, mapped, hmapped, rfl⟩

theorem foldlM_addSuccessor {instructions : List (PyValue Obj)} {byState next : ByState} :
    instructions.foldlM (model.addSuccessor state observedDigest priorViewDigests publicHp :
      ByState → PyValue Obj → Except EngineError ByState) byState = .ok next ↔
      ∃ results, List.Forall₂ (LeadsTo model state observedDigest priorViewDigests publicHp)
          instructions results ∧
        next = results.foldl (fun byState result => byState.add result.1 result.2.toRat) byState := by
  induction instructions generalizing byState with
  | nil =>
    rw [List.foldlM_nil]
    constructor
    · intro h
      exact ⟨[], .nil, (Except.ok.inj h).symm⟩
    · rintro ⟨results, hall, rfl⟩
      cases hall
      rfl
  | cons instruction rest ih =>
    rw [List.foldlM_cons, bind_eq_ok]
    constructor
    · rintro ⟨middle, hmiddle, hrest⟩
      obtain ⟨result, hresult, rfl⟩ := addSuccessor_eq_ok.mp hmiddle
      obtain ⟨results, hall, rfl⟩ := ih.mp hrest
      exact ⟨result :: results, .cons hresult hall, rfl⟩
    · rintro ⟨results, hall, rfl⟩
      cases hall with
      | cons hresult hall =>
        exact ⟨_, addSuccessor_eq_ok.mpr ⟨_, hresult, rfl⟩, ih.mpr ⟨_, hall, rfl⟩⟩

/-- The percentages that the first loop reads are those of the results. -/
theorem mapM_readPercentage {instructions : List (PyValue Obj)}
    {results : List (MappedNativeState × Decimal)}
    (h : List.Forall₂ (LeadsTo model state observedDigest priorViewDigests publicHp) instructions
      results) :
    instructions.mapM (model.readPercentage : PyValue Obj → Except EngineError Decimal) =
      .ok (results.map Prod.snd) := by
  rw [mapM_eq_ok, List.forall₂_map_right_iff]
  exact h.imp fun instruction result hleads => readPercentage_eq_ok.mpr hleads.percentage

/-- The successor states are weighed when every instruction leads to one, and the percentages are
those of all chances. -/
theorem mappedSuccessors_eq_ok {instructions : PyValue Obj} {weights : List (MappedNativeState × ℚ)} :
    (model.mappedSuccessors state instructions observedDigest priorViewDigests publicHp :
      Except EngineError (List (MappedNativeState × ℚ))) = .ok weights ↔
      ∃ list results, instructions = .list list ∧ list ≠ [] ∧
        List.Forall₂ (LeadsTo model state observedDigest priorViewDigests publicHp) list results ∧
        isFullMass (results.map Prod.snd) = true ∧ 0 < (gather results).total ∧
        weights = (gather results).normalize := by
  unfold mappedSuccessors
  constructor
  · intro h
    split at h
    · next first rest =>
      obtain ⟨percentages, hpercentages, h⟩ := bind_eq_ok.mp h
      split_ifs at h with hmass
      · exact absurd h raise_ne_ok
      obtain ⟨byState, hbyState, h⟩ := bind_eq_ok.mp h
      split_ifs at h with htotal
      · exact absurd h raise_ne_ok
      obtain ⟨results, hall, rfl⟩ := foldlM_addSuccessor.mp hbyState
      obtain rfl := Except.ok.inj (hpercentages.symm.trans (mapM_readPercentage hall))
      exact ⟨first :: rest, results, rfl, nofun, hall, by simpa using hmass, not_le.mp htotal,
        (Except.ok.inj h).symm⟩
    · exact absurd h raise_ne_ok
  · rintro ⟨list, results, rfl, hnonempty, hall, hmass, htotal, rfl⟩
    cases list with
    | nil => exact absurd rfl hnonempty
    | cons first rest =>
      refine bind_eq_ok.mpr ⟨_, mapM_readPercentage hall, ?_⟩
      rw [if_neg (by simp [hmass])]
      refine bind_eq_ok.mpr ⟨gather results, foldlM_addSuccessor.mpr ⟨results, hall, rfl⟩, ?_⟩
      rw [if_neg (not_le.mpr htotal)]
      rfl

end Instructions

/-! ## §3 The weights of the states -/

/-- The serialized states of the results, with their weights. -/
def stateWeights (results : List (MappedNativeState × Decimal)) : List (String × ℚ) :=
  results.map fun result => (result.1.nativeState, result.2.toRat)

/-- What the gathered states are: every state once, with a result that led to it and the weight of
all of them. -/
structure Gathered (results : List (MappedNativeState × Decimal)) (byState : ByState) : Prop where
  nodup : (Dict.keys byState).Nodup
  keys : ∀ text, text ∈ Dict.keys byState ↔ text ∈ (stateWeights results).map Prod.fst
  entry : ∀ text mapped weight, Dict.get? byState text = some (mapped, weight) →
    mapped.nativeState = text ∧ mapped ∈ results.map Prod.fst ∧
      weight = Shares.weightOf (stateWeights results) text

theorem Gathered.add {results : List (MappedNativeState × Decimal)} {byState : ByState}
    (h : Gathered results byState) (result : MappedNativeState × Decimal) :
    Gathered (results ++ [result]) (byState.add result.1 result.2.toRat) := by
  obtain ⟨mapped, percentage⟩ := result
  have hconcat : stateWeights (results ++ [(mapped, percentage)]) =
      stateWeights results ++ [(mapped.nativeState, percentage.toRat)] := by
    simp only [stateWeights, List.map_append, List.map_cons, List.map_nil]
  -- a state that is new has no weight yet
  have hadd : byState.add mapped percentage.toRat = Dict.assign byState mapped.nativeState
      (mapped, Shares.weightOf (stateWeights results) mapped.nativeState + percentage.toRat) := by
    unfold ByState.add
    cases hget : Dict.get? byState mapped.nativeState with
    | none =>
      have hnew : mapped.nativeState ∉ (stateWeights results).map Prod.fst := by
        rw [← h.keys, Python.Dict.mem_keys_iff, hget]
        rintro ⟨_, ⟨⟩⟩
      simp only [Shares.weightOf_of_notMem hnew, zero_add]
    | some previous =>
      obtain ⟨-, -, hweight⟩ := h.entry _ previous.1 previous.2 hget
      simp only [hweight]
  show Gathered _ (byState.add mapped percentage.toRat)
  rw [hadd]
  refine ⟨Python.Dict.nodup_keys_assign h.nodup _ _, fun text => ?_, fun text other weight hget => ?_⟩
  · rw [Python.Dict.mem_keys_assign, h.keys, hconcat, List.map_append, List.mem_append, or_comm]
    simp
  · rw [Python.Dict.get?_assign] at hget
    rw [hconcat, Shares.weightOf_concat]
    split_ifs at hget with htext
    · obtain ⟨rfl, rfl⟩ := Prod.mk.inj (Option.some.inj hget)
      subst htext
      exact ⟨rfl, by simp, by rw [if_pos rfl]⟩
    · obtain ⟨hname, hmem, hweight⟩ := h.entry text other weight hget
      refine ⟨hname, ?_, ?_⟩
      · rw [List.map_append]
        exact List.mem_append_left _ hmem
      · rw [if_neg (Ne.symm htext), add_zero, hweight]

theorem gathered_gather (results : List (MappedNativeState × Decimal)) :
    Gathered results (gather results) := by
  induction results using List.reverseRecOn with
  | nil =>
    have hnil : gather [] = [] := rfl
    rw [hnil]
    refine ⟨List.nodup_nil, fun text => ?_, fun text mapped weight hget => ?_⟩
    · simp [stateWeights, Dict.keys]
    · have hnone : Dict.get? ([] : ByState) text = none := rfl
      rw [hnone] at hget
      cases hget
  | append_singleton past result ih =>
    have hgather : gather (past ++ [result]) = (gather past).add result.1 result.2.toRat := by
      simp only [gather, List.foldl_append, List.foldl_cons, List.foldl_nil]
    rw [hgather]
    exact ih.add result

/-- The share of a state: the percentages that lead to it, out of all percentages. -/
def shareOf (results : List (MappedNativeState × Decimal)) (text : String) : ℚ :=
  Shares.weightOf (stateWeights results) text / Shares.total (stateWeights results)

/-- Shares of the states: each state once, with its share, one in all. -/
structure Shared (results : List (MappedNativeState × Decimal))
    (weights : List (MappedNativeState × ℚ)) : Prop where
  states : (weights.map fun entry => entry.1.nativeState).Perm
    (results.map fun result => result.1.nativeState).dedup
  entry : ∀ entry ∈ weights, entry.1 ∈ results.map Prod.fst ∧
    entry.2 = shareOf results entry.1.nativeState ∧ 0 < entry.2
  sum : (weights.map Prod.snd).sum = 1

section Normalizing

variable {results : List (MappedNativeState × Decimal)}

theorem stateWeights_keys :
    (stateWeights results).map Prod.fst = results.map fun result => result.1.nativeState := by
  rw [stateWeights, List.map_map]
  rfl

theorem gather_total : (gather results).total = Shares.total (stateWeights results) := by
  have hgathered := gathered_gather results
  have hweights : (gather results).map (fun entry => entry.2.2) =
      (Dict.keys (gather results)).map (Shares.weightOf (stateWeights results)) := by
    rw [Dict.keys, List.map_map]
    refine List.map_congr_left fun entry hentry => ?_
    exact (hgathered.entry _ _ _ (Python.Dict.get?_of_mem hgathered.nodup hentry)).2.2
  rw [ByState.total, hweights]
  refine Shares.sum_weightOf hgathered.nodup fun item hitem => ?_
  exact (hgathered.keys _).mpr (List.mem_map_of_mem hitem)

/-- Every weighed state is one of the results. -/
theorem mem_normalize {entry : MappedNativeState × ℚ} (h : entry ∈ (gather results).normalize) :
    entry.1 ∈ results.map Prod.fst := by
  have hgathered := gathered_gather results
  unfold ByState.normalize at h
  rw [List.mem_insertionSort, List.mem_map] at h
  obtain ⟨gathered, hmem, rfl⟩ := h
  exact (hgathered.entry _ _ _ (Python.Dict.get?_of_mem hgathered.nodup hmem)).2.1

theorem total_pos (hpos : ∀ result ∈ results, 0 < result.2.toRat) (hnonempty : results ≠ []) :
    0 < Shares.total (stateWeights results) := by
  refine List.sum_pos _ (fun weight hweight => ?_) (by simpa [stateWeights] using hnonempty)
  simp only [stateWeights, List.map_map, List.mem_map] at hweight
  obtain ⟨result, hresult, rfl⟩ := hweight
  exact hpos result hresult

/-- Normalizing makes shares of the weights. -/
theorem normalize_shared (hpos : ∀ result ∈ results, 0 < result.2.toRat) (hnonempty : results ≠ []) :
    Shared results (gather results).normalize := by
  have hgathered := gathered_gather results
  have htotal := total_pos hpos hnonempty
  have hperm : (gather results).normalize.Perm ((gather results).map fun entry =>
      (entry.2.1, entry.2.2 / (gather results).total)) := List.perm_insertionSort _ _
  have hentry : ∀ entry ∈ gather results, entry.2.1.nativeState = entry.1 ∧
      entry.2.1 ∈ results.map Prod.fst ∧
        entry.2.2 = Shares.weightOf (stateWeights results) entry.1 := fun entry hentry =>
    hgathered.entry _ _ _ (Python.Dict.get?_of_mem hgathered.nodup hentry)
  refine ⟨?_, fun entry hmem => ?_, ?_⟩
  · have hkeys : ((gather results).map fun entry =>
        (entry.2.1, entry.2.2 / (gather results).total)).map (fun entry => entry.1.nativeState) =
          Dict.keys (gather results) := by
      rw [List.map_map]
      exact List.map_congr_left fun entry hmem => (hentry entry hmem).1
    refine (hperm.map _).trans ?_
    rw [hkeys, List.perm_ext_iff_of_nodup hgathered.nodup (List.nodup_dedup _)]
    intro text
    rw [hgathered.keys, stateWeights_keys, List.mem_dedup]
  · obtain ⟨gathered, hfound, rfl⟩ := List.mem_map.mp (hperm.mem_iff.mp hmem)
    obtain ⟨hname, horigin, hweight⟩ := hentry gathered hfound
    have hshare : gathered.2.2 / (gather results).total = shareOf results gathered.1 := by
      rw [hweight, gather_total]
      rfl
    refine ⟨horigin, ?_, ?_⟩
    · simp only [hname, hshare]
    · have hkey : gathered.1 ∈ (stateWeights results).map Prod.fst :=
        (hgathered.keys _).mp (List.mem_map_of_mem hfound)
      simp only [hshare]
      refine div_pos (Shares.weightOf_pos (fun item hitem => ?_) hkey) htotal
      obtain ⟨result, hresult, rfl⟩ := List.mem_map.mp hitem
      exact hpos result hresult
  · have hsum : (((gather results).map fun entry =>
        (entry.2.1, entry.2.2 / (gather results).total)).map Prod.snd).sum =
          (gather results).total / (gather results).total := by
      rw [List.map_map, ByState.total, div_eq_mul_inv, ← List.sum_map_mul_right]
      exact congrArg List.sum (List.map_congr_left fun entry _ => div_eq_mul_inv _ _)
    rw [(hperm.map _).sum_eq, hsum, div_self]
    rw [gather_total]
    exact htotal.ne'

end Normalizing

/-! ## §4 Successors -/

section Successors

variable [Rfc8785] {model : PokeEngineTransitionModel} {source : PreparedWorld PokeEngineWorld}
  {capabilities : List CapabilityId} {results : List (MappedNativeState × Decimal)}
  {weights : List (MappedNativeState × ℚ)}

/-- The outcome ids of states at a ply exist and tell the states apart. -/
structure OutcomesTellApart (texts : List String) (ply : Nat) : Prop where
  named : ∀ text ∈ texts, ∃ digest, outcomeId text ply = .ok digest
  apart : ∀ first ∈ texts, ∀ second ∈ texts, ∀ digest,
    outcomeId first ply = .ok digest → outcomeId second ply = .ok digest → first = second

/-- What an outcome says about the results of the instructions: it has one successor for each state,
with the share of the state as its probability, one ply further and under the root of the source. -/
structure Accounts (source : PreparedWorld PokeEngineWorld)
    (results : List (MappedNativeState × Decimal)) (outcome : TransitionOutcome PokeEngineWorld) :
    Prop where
  states : (outcome.successors.map fun successor => successor.world.payload.nativeState).Perm
    (results.map fun result => result.1.nativeState).dedup
  share : ∀ successor ∈ outcome.successors,
    (successor.probabilityNumerator : ℚ) / outcome.probabilityDenominator =
      shareOf results successor.world.payload.nativeState
  positive : ∀ successor ∈ outcome.successors, 0 < successor.probabilityNumerator
  sum : (outcome.successors.map fun successor => successor.probabilityNumerator).sum =
    outcome.probabilityDenominator
  increasing : (outcome.successors.map fun successor => successor.outcomeId.text).Pairwise (· < ·)
  ply : ∀ successor ∈ outcome.successors,
    successor.world.payload.ply = source.payload.ply + 1
  root : ∀ successor ∈ outcome.successors,
    successor.world.rootIdentity = source.rootIdentity ∧
      successor.world.rootActions = source.rootActions

/-- A successor is made of every state with an outcome id and a positive weight. -/
theorem successorOf_ok (hcapabilities : CapabilitiesAgree capabilities
      (some source.rootIdentity.capabilityCatalogDigest))
    {denominator : Nat} (hdenominator : 0 < denominator) {entry : MappedNativeState × ℚ}
    (hdvd : entry.2.den ∣ denominator) (hpos : 0 < entry.2)
    (hid : ∃ digest, outcomeId entry.1.nativeState (source.payload.ply + 1) = .ok digest) :
    ∃ successor, model.successorOf source capabilities denominator entry = .ok successor := by
  obtain ⟨digest, hdigest⟩ := hid
  have hcatalog : ∀ value ∈ source.requiredCapabilities ++ capabilities,
      value.catalogDigest = source.rootIdentity.capabilityCatalogDigest := by
    intro value hvalue
    rcases List.mem_append.mp hvalue with hvalue | hvalue
    · exact source.catalogDigest_eq hvalue
    · exact hcapabilities.2.2 _ rfl value hvalue
  obtain ⟨required, hrequired, hagree⟩ := canonicalCapabilities_ok hcatalog
  have hnumerator : 0 < Shares.numerator entry.2 denominator :=
    Shares.numerator_pos hdvd hdenominator hpos
  unfold successorOf
  simp only [bind_eq_ok]
  exact ⟨_, required, hrequired, _, PreparedWorld.create_ok _ source.canonical hagree, digest, hdigest,
    TransitionSuccessor.create_ok _ _ hnumerator⟩

/-- Where the states have outcome ids, all of them have a successor. -/
theorem successors_ok (hcapabilities : CapabilitiesAgree capabilities
      (some source.rootIdentity.capabilityCatalogDigest)) (hshared : Shared results weights)
    (hids : OutcomesTellApart (results.map fun result => result.1.nativeState)
      (source.payload.ply + 1)) :
    ∃ successors, model.successors source weights capabilities = .ok successors := by
  have hentries : ∀ entry ∈ weights, ∃ successor, model.successorOf source capabilities
      (Shares.commonDenominator (weights.map Prod.snd)) entry = .ok successor := by
    intro entry hentry
    obtain ⟨horigin, -, hpos⟩ := hshared.entry entry hentry
    obtain ⟨result, hresult, heq⟩ := List.mem_map.mp horigin
    refine successorOf_ok hcapabilities (Shares.commonDenominator_pos _)
      (Shares.den_dvd_commonDenominator (List.mem_map_of_mem hentry)) hpos (hids.named _ ?_)
    exact List.mem_map.mpr ⟨result, hresult, congrArg MappedNativeState.nativeState heq⟩
  obtain ⟨result, hresult⟩ := exists_mapM hentries
  exact ⟨_, bind_eq_ok.mpr ⟨result, hresult, rfl⟩⟩

/-- Their successors carry their shares, and are told apart by their ids. -/
theorem successors_account {successors : List (TransitionSuccessor PokeEngineWorld)}
    (h : model.successors source weights capabilities = .ok successors)
    (hshared : Shared results weights)
    (hids : OutcomesTellApart (results.map fun result => result.1.nativeState)
      (source.payload.ply + 1)) :
    (successors.map fun successor => successor.world.payload.nativeState).Perm
      (results.map fun result => result.1.nativeState).dedup ∧
    (successors.map fun successor => successor.probabilityNumerator).sum =
      Shares.commonDenominator (weights.map Prod.snd) ∧
    (successors.map fun successor => successor.outcomeId.text).Pairwise (· < ·) := by
  obtain ⟨result, hresult, hsorted⟩ := bind_eq_ok.mp h
  obtain rfl := Except.ok.inj hsorted
  have hperm := List.perm_insertionSort (fun first second : TransitionSuccessor PokeEngineWorld =>
    first.outcomeId.text ≤ second.outcomeId.text) result
  have hstates : result.map (fun successor => successor.world.payload.nativeState) =
      weights.map fun entry => entry.1.nativeState := by
    refine map_eq_of_mapM hresult fun entry successor hentry => ?_
    obtain ⟨required, -, hpayload, -⟩ := successorOf_eq_ok hentry
    rw [hpayload]
    rfl
  have hnumerators : result.map (fun successor => successor.probabilityNumerator) =
      (weights.map Prod.snd).map fun share =>
        Shares.numerator share (Shares.commonDenominator (weights.map Prod.snd)) := by
    rw [List.map_map]
    refine map_eq_of_mapM hresult fun entry successor hentry => ?_
    obtain ⟨required, -, -, -, -, -, hnumerator⟩ := successorOf_eq_ok hentry
    exact hnumerator
  have hnodup : (result.map fun successor => successor.outcomeId.text).Nodup := by
    have hstatesNodup : (result.map fun successor => successor.world.payload.nativeState).Nodup := by
      rw [hstates]
      exact hshared.states.nodup_iff.mpr (List.nodup_dedup _)
    refine List.Nodup.map_on (fun first hfirst second hsecond htext => ?_)
      (List.Nodup.of_map _ hstatesNodup)
    have hnamed : ∀ successor ∈ result, successor.world.payload.nativeState ∈
        results.map (fun result => result.1.nativeState) ∧
        outcomeId successor.world.payload.nativeState (source.payload.ply + 1) =
          .ok successor.outcomeId := by
      intro successor hmem
      obtain ⟨entry, hentry, hof⟩ := mem_of_mapM hresult hmem
      obtain ⟨required, -, hpayload, -, -, hid, -⟩ := successorOf_eq_ok hof
      obtain ⟨origin, horigin, heq⟩ := List.mem_map.mp (hshared.entry entry hentry).1
      rw [hpayload]
      exact ⟨List.mem_map.mpr ⟨origin, horigin, congrArg MappedNativeState.nativeState heq⟩, hid⟩
    obtain ⟨hmem, hid⟩ := hnamed first hfirst
    obtain ⟨hmem', hid'⟩ := hnamed second hsecond
    have hsame : second.outcomeId = first.outcomeId := Digest.text_injective htext.symm
    rw [hsame] at hid'
    have hstate := hids.apart _ hmem _ hmem' _ hid hid'
    exact List.inj_on_of_nodup_map hstatesNodup hfirst hsecond hstate
  refine ⟨?_, ?_, ?_⟩
  · exact (hperm.map _).trans (hstates ▸ hshared.states)
  · rw [(hperm.map _).sum_eq, hnumerators]
    exact Shares.sum_numerator hshared.sum
  · rw [Python.map_insertionSort]
    exact Python.sorted_strict hnodup

/-- So an outcome is made of them, and it accounts for the results. -/
theorem outcomeOf_ok {successors : List (TransitionSuccessor PokeEngineWorld)}
    (h : model.successors source weights capabilities = .ok successors)
    (hcapabilities : CapabilitiesAgree capabilities
      (some source.rootIdentity.capabilityCatalogDigest))
    (hshared : Shared results weights)
    (hids : OutcomesTellApart (results.map fun result => result.1.nativeState)
      (source.payload.ply + 1)) :
    ∃ outcome, outcomeOf source successors capabilities = .ok outcome ∧
      Accounts source results outcome := by
  obtain ⟨hstates, hsum, hincreasing⟩ := successors_account h hshared hids
  have hdenominator := Shares.commonDenominator_pos (weights.map Prod.snd)
  have hroot : ∀ successor ∈ successors, successor.world.rootIdentity = source.rootIdentity ∧
      successor.world.rootActions = source.rootActions := by
    intro successor hmem
    obtain ⟨entry, -, hentry⟩ := mem_successors h hmem
    obtain ⟨required, -, -, hidentity, hactions, -⟩ := successorOf_eq_ok hentry
    exact ⟨hidentity, hactions⟩
  -- no successors would add up to zero
  have hnonempty : successors ≠ [] := by
    rintro rfl
    rw [List.map_nil, List.sum_nil] at hsum
    omega
  have hagrees : OutcomeAgrees successors
      (successors.map fun successor => successor.probabilityNumerator).sum capabilities := by
    refine ⟨by omega, hincreasing, rfl, fun first hfirst => ?_⟩
    have hfirstRoot := (hroot first (List.mem_of_mem_head? hfirst)).1
    refine ⟨fun successor hmem => ?_, ?_⟩
    · rw [(hroot successor hmem).1, hfirstRoot]
    · rw [hfirstRoot]
      exact hcapabilities
  have hcreate := TransitionOutcome.create_ok Nat.one_pos hnonempty hagrees
  refine ⟨_, bind_eq_ok.mpr ⟨_, hcreate, bind_eq_ok.mpr ⟨(), if_pos hroot, rfl⟩⟩, ?_⟩
  refine
    { states := hstates
      share := fun successor hmem => ?_
      positive := fun successor _ => successor.positive
      sum := rfl
      increasing := hincreasing
      ply := fun successor hmem => ?_
      root := hroot }
  · obtain ⟨entry, hentry, hof⟩ := mem_successors h hmem
    obtain ⟨required, -, hpayload, -, -, -, hnumerator⟩ := successorOf_eq_ok hof
    have hshare := (hshared.entry entry hentry).2.1
    have hdvd := Shares.den_dvd_commonDenominator (List.mem_map_of_mem (f := Prod.snd) hentry)
    have hne : (Shares.commonDenominator (weights.map Prod.snd) : ℚ) ≠ 0 := by
      exact_mod_cast hdenominator.ne'
    rw [hpayload, hnumerator]
    show (Shares.numerator entry.2 _ : ℚ) /
      ((successors.map fun successor => successor.probabilityNumerator).sum : Int) =
        shareOf results entry.1.nativeState
    rw [hsum, Shares.numerator_eq hdvd, Int.cast_natCast, mul_div_cancel_right₀ _ hne, hshare]
  · obtain ⟨entry, -, hof⟩ := mem_successors h hmem
    obtain ⟨required, -, hpayload, -⟩ := successorOf_eq_ok hof
    rw [hpayload]
    rfl

end Successors

/-! ## §5 Transitions -/

section Transitions

variable {Obj : Type} [Engine Obj] [Rfc8785] [Python.UnicodeDatabase]
  {model : PokeEngineTransitionModel} {root world : PreparedWorld PokeEngineWorld}

/-- Transitions name capabilities of the catalog that the root belongs to. -/
theorem Reaches.capabilities_agree (hprepared : IsPrepared model root) (h : Reaches model root world)
    {capabilities : List CapabilityId}
    (hagree : CapabilitiesAgree capabilities (some model.catalog.catalogDigest)) :
    CapabilitiesAgree capabilities (some world.rootIdentity.capabilityCatalogDigest) := by
  obtain ⟨_, _, _, _, _, hroot⟩ := hprepared
  obtain ⟨observed, state, mapped, -, -, hfrom⟩ := prepareBattleRoot_eq_ok hroot
  rw [h.keepsRoot.identity, hfrom.catalog]
  exact hagree

/-- Native states are told apart by their serialized form. Where the outcome ids tell apart the states
that a joint action leads to, the accounting of its transition does not fail; and instructions whose
percentages are those of all chances give one successor to each state that they lead to, with the
percentages that lead to it, out of all percentages, as its probability. -/
theorem chance_accounting (model : PokeEngineTransitionModel)
    (root world : PreparedWorld PokeEngineWorld) (hprepared : IsPrepared model root)
    (hreaches : Reaches model root world) (hforeign : RaisesForeign Obj)
    (p1Action p2Action : SearchAction)
    (hids : ∀ (state : PyValue Obj) p1Binding p2Binding instructions results,
      (model.jointBindings world p1Action p2Action :
        Except EngineError (PyValue Obj × ActionBinding × ActionBinding)) =
          .ok (state, p1Binding, p2Binding) →
      (model.generateInstructions state p1Binding.nativeChoice p2Binding.nativeChoice :
        Except EngineError (PyValue Obj)) = .ok (.list instructions) →
      List.Forall₂ (LeadsTo model state world.payload.observedStateDigest world.payload.viewDigests
        world.payload.publicHp) instructions results →
      OutcomesTellApart (results.map fun result => result.1.nativeState) (world.payload.ply + 1)) :
    ¬FailsWith (model.transition world p1Action p2Action :
      Except EngineError (TransitionOutcome PokeEngineWorld)) .workAccountingInconsistency ∧
    ∀ (state : PyValue Obj) p1Binding p2Binding instructions results,
      (model.jointBindings world p1Action p2Action :
        Except EngineError (PyValue Obj × ActionBinding × ActionBinding)) =
          .ok (state, p1Binding, p2Binding) →
      (model.generateInstructions state p1Binding.nativeChoice p2Binding.nativeChoice :
        Except EngineError (PyValue Obj)) = .ok (.list instructions) →
      instructions ≠ [] →
      List.Forall₂ (LeadsTo model state world.payload.observedStateDigest world.payload.viewDigests
        world.payload.publicHp) instructions results →
      isFullMass (results.map Prod.snd) = true →
      ∃ outcome, (model.transition world p1Action p2Action :
          Except EngineError (TransitionOutcome PokeEngineWorld)) = .ok outcome ∧
        Accounts world results outcome := by
  have hshares : ∀ {state : PyValue Obj} {instructions results}, instructions ≠ [] →
      List.Forall₂ (LeadsTo model state world.payload.observedStateDigest world.payload.viewDigests
        world.payload.publicHp) instructions results →
      0 < (gather results).total ∧ Shared results (gather results).normalize := by
    intro state instructions results hnonempty hall
    have hresults : results ≠ [] := by
      rintro rfl
      cases hall
      exact hnonempty rfl
    have hpos : ∀ result ∈ results, 0 < result.2.toRat := by
      intro result hmem
      obtain ⟨instruction, -, hleads⟩ := exists_of_forall₂ hall hmem
      exact hleads.percentage.pos
    refine ⟨?_, normalize_shared hpos hresults⟩
    rw [gather_total]
    exact total_pos hpos hresults
  constructor
  · refine not_failsWith (transition_avoids hforeign (by decide)
      (jointBindings_avoids hforeign (by decide) (by decide) world p1Action p2Action) ?_)
    intro _ state p1Binding p2Binding instructions weights capabilities successors hjoint hgenerate
      hweights hcapabilities hsuccessors
    obtain ⟨list, results, rfl, hnonempty, hall, -, -, rfl⟩ := mappedSuccessors_eq_ok.mp hweights
    obtain ⟨_, hcapabilities', hagree⟩ := transitionCapabilities_ok model p1Action p2Action
    obtain rfl := Except.ok.inj (hcapabilities.symm.trans hcapabilities')
    obtain ⟨outcome, houtcome, -⟩ := outcomeOf_ok hsuccessors
      (hreaches.capabilities_agree hprepared hagree) (hshares hnonempty hall).2
      (hids state p1Binding p2Binding list results hjoint hgenerate hall)
    exact ⟨outcome, houtcome⟩
  · intro state p1Binding p2Binding instructions results hjoint hgenerate hnonempty hall hmass
    obtain ⟨htotal, hshared⟩ := hshares hnonempty hall
    have htold := hids state p1Binding p2Binding instructions results hjoint hgenerate hall
    obtain ⟨capabilities, hcapabilities, hagree⟩ := transitionCapabilities_ok model p1Action p2Action
    have hagree' := hreaches.capabilities_agree hprepared hagree
    obtain ⟨successors, hsuccessors⟩ : ∃ successors, model.successors world _ capabilities =
        .ok successors := successors_ok hagree' hshared htold
    obtain ⟨outcome, houtcome, haccounts⟩ := outcomeOf_ok hsuccessors hagree' hshared htold
    refine ⟨outcome, transition_eq_ok.mpr ?_, haccounts⟩
    exact ⟨state, p1Binding, p2Binding, hjoint, .list instructions, hgenerate, _,
      mappedSuccessors_eq_ok.mpr ⟨instructions, results, rfl, hnonempty, hall, hmass, htotal, rfl⟩,
      capabilities, hcapabilities, successors, hsuccessors, houtcome⟩

end Transitions

/-- What Tackle may do in the duel. -/
def duelInstructions : List (PyValue Record) :=
  [duelDamage "50.0" 20, duelDamage "25.0" 25, duelDamage "25.0" 25]

/-- It leads to two states, from the root of the duel. -/
theorem duel_results {root : PreparedWorld PokeEngineWorld}
    (hroot : letI := duelEngine
      letI := Python.asciiDatabase
      letI := compactCanonicalizer
      (duelModel.prepareBattleRoot duelObserved duelSafe (duelWorld "leftovers") zeros.text none :
        Except EngineError (PreparedWorld PokeEngineWorld)) = .ok root) :
    letI := duelEngine
    letI := compactCanonicalizer
    ∃ state results, (duelModel.stateFromString root.payload.nativeState :
        Except EngineError (PyValue Record)) = .ok state ∧
      (∀ results', List.Forall₂ (LeadsTo duelModel state root.payload.observedStateDigest
        root.payload.viewDigests root.payload.publicHp) duelInstructions results' ↔
          results' = results) ∧
      stateWeights results =
        [("80/80/leftovers", 50), ("75/75/leftovers", 25), ("75/75/leftovers", 25)] ∧
      isFullMass (results.map Prod.snd) = true := by
  let _ := duelEngine
  let _ := Python.asciiDatabase
  let _ := compactCanonicalizer
  have hsteps : (do
      let observed ← mapObservedRoot duelObserved
      let start ← buildCompleteWorld (duelWorld "leftovers")
      let root ← mapNativeState start observed.digest none none observed.publicHp
      let state ← duelModel.stateFromString root.nativeState
      let results ← duelInstructions.mapM
        (resultOf duelModel state observed.digest root.viewDigests root.publicHp)
      pure (stateWeights results, isFullMass (results.map Prod.snd)) :
        Except EngineError (List (String × ℚ) × Bool)) =
          .ok ([("80/80/leftovers", 50), ("75/75/leftovers", 25), ("75/75/leftovers", 25)], true) := by
    decide +kernel
  obtain ⟨observed, hobserved, hsteps⟩ := bind_eq_ok.mp hsteps
  obtain ⟨start, hstart, hsteps⟩ := bind_eq_ok.mp hsteps
  obtain ⟨frozen, hfrozen, hsteps⟩ := bind_eq_ok.mp hsteps
  obtain ⟨state, hstate, hsteps⟩ := bind_eq_ok.mp hsteps
  obtain ⟨results, hresults, hlast⟩ := bind_eq_ok.mp hsteps
  obtain ⟨hweights, hmass⟩ := Prod.mk.inj (Except.ok.inj hlast)
  -- the root was made by the same steps
  obtain ⟨observed', start', frozen', hobserved', hstart', hfrom⟩ := prepareBattleRoot_eq_ok hroot
  obtain rfl := Except.ok.inj (hobserved'.symm.trans hobserved)
  obtain rfl := Except.ok.inj (hstart'.symm.trans hstart)
  obtain rfl := Except.ok.inj (hfrom.frozen.symm.trans hfrozen)
  rw [hfrom.nativeState, hfrom.observedDigest, hfrom.viewDigests, hfrom.publicHp]
  refine ⟨state, results, hstate, fun results' => ?_, hweights, hmass⟩
  rw [forall₂_leadsTo, hresults, Except.ok.injEq, eq_comm]

/-- The outcome ids of these states differ. -/
theorem duel_ids :
    letI := compactCanonicalizer
    outcomeId "80/80/leftovers" 1 ≠ outcomeId "75/75/leftovers" 1 := by
  decide +kernel

/-- So the transition of the duel gives both states the same chance. -/
theorem duel_accounting :
    letI := duelEngine
    letI := Python.asciiDatabase
    letI := compactCanonicalizer
    ∃ root p1Action p2Action outcome, IsPrepared duelModel root ∧
      (duelModel.transition root p1Action p2Action :
        Except EngineError (TransitionOutcome PokeEngineWorld)) = .ok outcome ∧
      (outcome.successors.map fun successor => successor.world.payload.nativeState).Perm
        ["80/80/leftovers", "75/75/leftovers"] ∧
      ∀ successor ∈ outcome.successors,
        (successor.probabilityNumerator : ℚ) / outcome.probabilityDenominator = 1 / 2 := by
  let _ := duelEngine
  let _ := Python.asciiDatabase
  let _ := compactCanonicalizer
  obtain ⟨root, hroot, hnative, hnatives, hplayer, hply⟩ := duel_prepared (.inl rfl)
  have hprepared : IsPrepared duelModel root := ⟨_, _, _, _, _, hroot⟩
  obtain ⟨state, results, hstate, hresults, hweights, hmass⟩ := duel_results hroot
  have htexts : results.map (fun result => result.1.nativeState) =
      ["80/80/leftovers", "75/75/leftovers", "75/75/leftovers"] := by
    rw [← stateWeights_keys, hweights]
    rfl
  -- the joint action of the only choices
  obtain ⟨p1Binding, hp1⟩ : ∃ binding, root.payload.rootBindings = [binding] := by
    refine List.length_eq_one_iff.mp ?_
    rw [← List.length_map (f := ActionBinding.nativeChoice), hnatives]
    rfl
  have hdeep : (do
      let state ← duelModel.stateFromString "100/100/leftovers"
      let choices ← duelModel.legalChoiceValues state
      let bindings ← duelModel.deepBindings .p2 state choices
      pure bindings.length : Except EngineError Nat) = .ok 1 := by
    decide +kernel
  obtain ⟨parsed, hparsed, hdeep⟩ := bind_eq_ok.mp hdeep
  obtain ⟨choices, hchoices, hdeep⟩ := bind_eq_ok.mp hdeep
  obtain ⟨bindings, hbindings, hlength⟩ := bind_eq_ok.mp hdeep
  obtain ⟨p2Binding, rfl⟩ := List.length_eq_one_iff.mp (Except.ok.inj hlength)
  replace hnative : root.payload.nativeState = "100/100/leftovers" := hnative
  rw [← hnative] at hparsed
  have hjoint : (duelModel.jointBindings root p1Binding.action p2Binding.action :
      Except EngineError (PyValue Record × ActionBinding × ActionBinding)) =
        .ok (parsed, p1Binding, p2Binding) := by
    have hfirst : bindingForAction [p1Binding] p1Binding.action = .ok p1Binding := by
      simp [bindingForAction]
    have hsecond : bindingForAction [p2Binding] p2Binding.action = .ok p2Binding := by
      simp [bindingForAction]
    refine jointBindings_of_mem hparsed hchoices ?_ ?_ hfirst hsecond
    · exact bindings_eq_ok.mpr (by rw [if_pos (PokeEngineWorld.isRootOf_iff.mpr ⟨hply, hplayer.symm⟩), hp1])
    · exact bindings_eq_ok.mpr (by rw [if_neg (by simp [PokeEngineWorld.isRootOf, hplayer]), hbindings])
  have hgenerate : ∀ p1Choice p2Choice, (duelModel.generateInstructions parsed p1Choice p2Choice :
      Except EngineError (PyValue Record)) = .ok (.list duelInstructions) := fun _ _ => rfl
  obtain rfl := Except.ok.inj (hparsed.symm.trans hstate)
  have hids : OutcomesTellApart (results.map fun result => result.1.nativeState) 1 := by
    rw [htexts]
    refine ⟨fun text _ => ⟨_, rfl⟩, fun first hfirst second hsecond digest hid hid' => ?_⟩
    have hmem : ∀ {text}, text ∈ ["80/80/leftovers", "75/75/leftovers", "75/75/leftovers"] →
        text = "80/80/leftovers" ∨ text = "75/75/leftovers" := by
      simp
    rcases hmem hfirst with rfl | rfl <;> rcases hmem hsecond with rfl | rfl
    · rfl
    · exact absurd (hid.trans hid'.symm) duel_ids
    · exact absurd (hid'.trans hid.symm) duel_ids
    · rfl
  have haccounting := chance_accounting duelModel root root hprepared .root duelEngine_raisesForeign
    p1Binding.action p2Binding.action fun state p1Binding' p2Binding' instructions results' hjoint'
      hgenerate' hall => by
    obtain ⟨rfl, -⟩ := Prod.mk.inj (Except.ok.inj (hjoint'.symm.trans hjoint))
    obtain rfl := PyValue.list.inj (Except.ok.inj ((hgenerate _ _).symm.trans hgenerate'))
    obtain rfl := (hresults results').mp hall
    rw [hply]
    exact hids
  obtain ⟨outcome, houtcome, haccounts⟩ := haccounting.2 parsed p1Binding p2Binding duelInstructions
    results hjoint (hgenerate _ _) (by decide) ((hresults results).mpr rfl) hmass
  have hdistinct : ["80/80/leftovers", "75/75/leftovers", "75/75/leftovers"].dedup =
      ["80/80/leftovers", "75/75/leftovers"] := by
    decide +kernel
  have hstates := haccounts.states
  rw [htexts, hdistinct] at hstates
  refine ⟨root, p1Binding.action, p2Binding.action, outcome, hprepared, houtcome, hstates, ?_⟩
  intro successor hmem
  have hstate : successor.world.payload.nativeState ∈ ["80/80/leftovers", "75/75/leftovers"] :=
    hstates.mem_iff.mp (List.mem_map.mpr ⟨successor, hmem, rfl⟩)
  -- half of the percentages for either
  have hshare : ∀ text ∈ ["80/80/leftovers", "75/75/leftovers"], shareOf results text = 1 / 2 := by
    simp only [shareOf, hweights]
    decide +kernel
  rw [haccounts.share successor hmem, hshare _ hstate]

end BattleBelief
