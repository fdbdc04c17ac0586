import BattleBelief.Engine.TransitionModel
import BattleBelief.Library.Runs

/-!
# Capabilities of One Catalog

Every capability that the adapter handles comes from its catalog, and so the checks on capabilities
find nothing to complain about.
-/

namespace BattleBelief

open PokeEngineTransitionModel Runs

/-! ## §1 Canonical capabilities -/

theorem CapabilityCatalog.idFor_eq_ok {catalog : CapabilityCatalog} {value : String}
    {capability : CapabilityId} :
    catalog.idFor value = .ok capability ↔
      value ∈ catalog.definitions ∧ capability = ⟨value, catalog.catalogDigest⟩ := by
  unfold CapabilityCatalog.idFor
  split_ifs with hmem
  · simp [hmem, eq_comm]
  · simp [hmem]

/-- The capabilities of a catalog with given values. -/
theorem CapabilityCatalog.mapM_idFor {catalog : CapabilityCatalog} {values : List String}
    (h : ∀ value ∈ values, value ∈ catalog.definitions) :
    values.mapM catalog.idFor = .ok (values.map fun value => ⟨value, catalog.catalogDigest⟩) := by
  rw [mapM_eq_ok, List.forall₂_map_right_iff, List.forall₂_same]
  intro value hvalue
  exact idFor_eq_ok.mpr ⟨h value hvalue, rfl⟩

/-- Capabilities of one catalog agree when their values are uniquely sorted. -/
theorem CapabilitiesAgree.of_sorted {values : List String} {digest : Digest}
    (h : values.Pairwise (· < ·)) :
    CapabilitiesAgree (values.map fun value => ⟨value, digest⟩) (some digest) := by
  refine ⟨?_, ?_, ?_⟩
  · rwa [List.map_map, show CapabilityId.value ∘ (fun value => ⟨value, digest⟩) = id from rfl,
      List.map_id]
  · intro first hfirst second hsecond
    obtain ⟨_, -, rfl⟩ := List.mem_map.mp hfirst
    obtain ⟨_, -, rfl⟩ := List.mem_map.mp hsecond
    rfl
  · intro other hother value hvalue
    obtain ⟨_, -, rfl⟩ := List.mem_map.mp hvalue
    exact (Option.mem_some_iff.mp hother).symm ▸ rfl

theorem CapabilitiesAgree.weaken {values : List CapabilityId} {digest : Option Digest}
    (h : CapabilitiesAgree values digest) : CapabilitiesAgree values none :=
  ⟨h.1, h.2.1, nofun⟩

/-- Capabilities of one catalog have a canonical form. -/
theorem canonicalCapabilities_ok {values : List CapabilityId} {digest : Digest}
    (h : ∀ value ∈ values, value.catalogDigest = digest) :
    ∃ canonical, canonicalCapabilities values = .ok canonical ∧
      CapabilitiesAgree canonical (some digest) := by
  let pairs := values.map fun value => (value.value, value)
  let sortedKeys := Python.sorted (Python.Dict.keys (Python.Dict.ofPairs pairs))
  have hget : ∀ key ∈ sortedKeys,
      Python.Dict.get? (Python.Dict.ofPairs pairs) key = some ⟨key, digest⟩ := by
    intro key hkey
    refine Python.Dict.get?_ofPairs (f := fun key => ⟨key, digest⟩) ?_
      (Python.Dict.mem_keys_ofPairs.mp (Python.mem_sorted.mp hkey))
    intro item hitem
    obtain ⟨value, hvalue, rfl⟩ := List.mem_map.mp hitem
    rw [← h value hvalue]
  have hcanonical : sortedKeys.filterMap (Python.Dict.get? (Python.Dict.ofPairs pairs)) =
      sortedKeys.map fun key => ⟨key, digest⟩ := by
    rw [List.filterMap_congr hget, List.filterMap_eq_map']
  have hagree : CapabilitiesAgree (sortedKeys.map fun key => ⟨key, digest⟩) (some digest) :=
    .of_sorted (Python.sorted_strict (Python.Dict.nodup_keys_ofPairs pairs))
  refine ⟨_, ?_, hagree⟩
  show (if CapabilitiesAgree (sortedKeys.filterMap _) none then _ else _) = _
  rw [hcanonical, if_pos hagree.weaken]

/-! ## §2 The capabilities of the adapter -/

variable (model : PokeEngineTransitionModel)

/-- The catalog has every capability that the adapter names. -/
theorem PokeEngineTransitionModel.idFor_ok {values : List String}
    (h : ∀ value ∈ values, value ∈ engineCapabilities) :
    ∃ capabilities, values.mapM model.catalog.idFor = .ok capabilities ∧
      ∀ capability ∈ capabilities, capability.catalogDigest = model.catalog.catalogDigest := by
  refine ⟨_, CapabilityCatalog.mapM_idFor fun value hvalue => model.canonical ▸ h value hvalue, ?_⟩
  intro capability hcapability
  obtain ⟨_, -, rfl⟩ := List.mem_map.mp hcapability
  rfl

theorem preflightCapabilities_ok :
    ∃ requirements, model.preflightCapabilities = .ok requirements ∧
      CapabilitiesAgree requirements (some model.catalog.catalogDigest) := by
  obtain ⟨capabilities, hcapabilities, hdigest⟩ :=
    model.idFor_ok fun value (hvalue : value ∈ model.catalog.definitions) => model.canonical ▸ hvalue
  obtain ⟨canonical, hcanonical, hagree⟩ := canonicalCapabilities_ok hdigest
  exact ⟨canonical, bind_eq_ok.mpr ⟨capabilities, hcapabilities, hcanonical⟩, hagree⟩

/-- A transition names capabilities of the catalog, whatever the actions are. -/
theorem transitionCapabilities_ok (p1Action p2Action : SearchAction) :
    ∃ capabilities, model.transitionCapabilities p1Action p2Action = .ok capabilities ∧
      CapabilitiesAgree capabilities (some model.catalog.catalogDigest) := by
  have hnamed : ∀ moves switches teras : Bool, ∀ value ∈
      ["gen9.transition.terminal.detection", "gen9.transition.terminal.value"] ++
      (if moves then ["gen9.transition.chance.damage-roll", "gen9.transition.move.direct-damage",
        "gen9.transition.order.priority", "gen9.transition.order.speed"] else []) ++
      (if switches then ["gen9.transition.switch.active-slot", "gen9.transition.order.speed"]
        else []) ++
      (if teras then ["gen9.transition.terastallization.damage",
        "gen9.transition.terastallization.type-change"] else []),
      value ∈ engineCapabilities := by
    decide +kernel
  have hvalues := hnamed (decide (.move ∈ [p1Action.kind, p2Action.kind]))
    (decide (.switch ∈ [p1Action.kind, p2Action.kind]))
    ([p1Action, p2Action].any fun action =>
      action.requiredCapabilities.any fun capability => capability.value = teraActivation)
  simp only [decide_eq_true_eq] at hvalues
  obtain ⟨capabilities, hcapabilities, hdigest⟩ := model.idFor_ok hvalues
  obtain ⟨canonical, hcanonical, hagree⟩ := canonicalCapabilities_ok hdigest
  exact ⟨canonical, bind_eq_ok.mpr ⟨capabilities, hcapabilities, hcanonical⟩, hagree⟩

/-- The capabilities that a world requires come from the catalog of its root. -/
theorem PreparedWorld.catalogDigest_eq {World : Type} (world : PreparedWorld World)
    {capability : CapabilityId} (h : capability ∈ world.requiredCapabilities) :
    capability.catalogDigest = world.rootIdentity.capabilityCatalogDigest :=
  world.capabilities.2.2 _ rfl capability h

end BattleBelief
