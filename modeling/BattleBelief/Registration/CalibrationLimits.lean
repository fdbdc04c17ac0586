import BattleBelief.Registration.CalibrationSound
import Mathlib.Data.List.Dedup

/-!
# Limits of Calibration

Which specifications bound the wall time. The rows are compared with the limit for the selected
measurement and with the one for the CPU time, so a specification that selects another measurement
than the wall time has evidence with completed rows above the wall limit (`calibration_sound_iff`).
-/

namespace BattleBelief

open Python (Dict.keys Json Number)
open Python.Json (pyEq isIn hashable number?)
open Runs

/-! ## §1 Evidence above the wall limit -/

/-- `value`, where it is a text. -/
def textOf : Json → Option String
  | .str text => some text
  | _ => none

/-- The required measurements that have no limit. -/
def otherNames (required : List Json) : List String :=
  ((required.filterMap textOf).dedup).filter fun name =>
    name ≠ "wall_time_ms" ∧ name ≠ "cpu_time_ms"

/-- A measured row with too much wall time and nothing else. -/
def excessMeasurements (required : List Json) : List (String × Json) :=
  ("wall_time_ms", .int 2001) :: ("cpu_time_ms", .int 0) ::
    (otherNames required).map fun name => (name, .int 0)

def excessRow (required : List Json) (work : Int) : List (String × Json) :=
  [("work_value", .int work), ("status", .str "completed"),
    ("measurements", .obj (excessMeasurements required)), ("error_class", .null)]

theorem mem_keys_excess {required : List Json} {name : String} :
    name ∈ Dict.keys (excessMeasurements required) ↔
      name = "wall_time_ms" ∨ name = "cpu_time_ms" ∨ name ∈ otherNames required := by
  simp [excessMeasurements, Dict.keys]

theorem entry_map {names : List String} {name : String} {value : Json} (h : name ∈ names) :
    entry (names.map fun name => (name, value)) name = value := by
  induction names with
  | nil => cases h
  | cons first rest ih =>
    rw [List.map_cons, entry, Json.get?, Python.Dict.get?_cons]
    by_cases hfirst : first = name
    · rw [if_pos hfirst]
      rfl
    · rw [if_neg hfirst]
      exact ih ((List.mem_cons.mp h).resolve_left fun heq => hfirst heq.symm)

/-- Nothing but the wall time is above zero. -/
theorem entry_excess {required : List Json} {name : String} (hwall : name ≠ "wall_time_ms")
    (h : .str name ∈ required) : entry (excessMeasurements required) name = .int 0 := by
  rw [excessMeasurements, entry, Json.get?, Python.Dict.get?_cons, if_neg hwall.symm,
    Python.Dict.get?_cons]
  by_cases hcpu : "cpu_time_ms" = name
  · rw [if_pos hcpu]
    rfl
  · rw [if_neg hcpu]
    apply entry_map
    simp only [otherNames, List.mem_filter, List.mem_dedup, List.mem_filterMap]
    exact ⟨⟨_, h, rfl⟩, by simpa using ⟨hwall, fun heq => hcpu heq.symm⟩⟩

theorem number_of_limits {limits : List (String × Json)} (h : boundByLimits (.obj limits) = true) :
    number? (entry limits "wall_time_ms") = some (.finite (2000 : Int)) ∧
      number? (entry limits "cpu_time_ms") = some (.finite (2000 : Int)) := by
  obtain ⟨hwall, hcpu⟩ := Bool.and_eq_true_iff.mp h
  exact ⟨Json.pyEq_int.mp hwall, Json.pyEq_int.mp hcpu⟩

theorem isNumeric_of_number {value : Json} (h : number? value = some (.finite (2000 : Int))) :
    isNumeric value = true := by
  cases value with
  | int value => rfl
  | float text => rfl
  | bool value =>
    cases value
    · simp [number?] at h
    · simp [number?] at h
  | _ => cases h

theorem exists_of_isText {value : Json} (h : isText value = true) : ∃ name, value = .str name := by
  cases value with
  | str name => exact ⟨name, rfl⟩
  | _ => cases h

/-- The selected measurement is one of the required ones, and has its name. -/
theorem ReadSpec.selection_named {spec : List (String × Json)} {grid : List Int}
    {required allowed forbidden : List Json} (hspec : ReadSpec spec grid required allowed forbidden)
    (htext : ∀ value ∈ required, isText value = true) :
    ∃ name, entry spec "selection_measurement_id" = .str name ∧ .str name ∈ required := by
  obtain ⟨selected, hselected, hsame⟩ := List.any_eq_true.mp hspec.selected
  obtain ⟨name, rfl⟩ := exists_of_isText (htext selected hselected)
  exact ⟨name, Json.pyEq_str_left.mp hsame, hselected⟩

theorem checkRow_excess {spec limits : List (String × Json)} {grid : List Int}
    {required allowed forbidden : List Json} (hspec : ReadSpec spec grid required allowed forbidden)
    (hlimits : boundByLimits (.obj limits) = true)
    (hselection : entry spec "selection_measurement_id" ≠ .str "wall_time_ms")
    (hwall : .str "wall_time_ms" ∈ allowed) (hcpu : .str "cpu_time_ms" ∈ allowed)
    (htext : ∀ value ∈ required, isText value = true) (work : Int) :
    checkRow (rulesOf spec limits required allowed forbidden) (excessRow required work) =
      .ok (some (.int work)) := by
  obtain ⟨hwallLimit, hcpuLimit⟩ := number_of_limits hlimits
  obtain ⟨selectedName, hsame, hselected⟩ := hspec.selection_named htext
  have hother : selectedName ≠ "wall_time_ms" := by
    rintro rfl
    exact hselection hsame
  have hknown : ∀ name ∈ Dict.keys (excessMeasurements required), .str name ∈ allowed := by
    intro name hname
    rcases mem_keys_excess.mp hname with rfl | rfl | hname
    · exact hwall
    · exact hcpu
    · simp only [otherNames, List.mem_filter, List.mem_dedup, List.mem_filterMap] at hname
      obtain ⟨⟨value, hvalue, hname⟩, -⟩ := hname
      obtain ⟨text, rfl⟩ := exists_of_isText (htext value hvalue)
      cases hname
      exact Json.str_isIn.mp (hspec.covered _ hvalue)
  have hunforbidden : ∀ name ∈ Dict.keys (excessMeasurements required),
      isIn (.str name) forbidden = false := by
    intro name hname
    exact hspec.apart _ (hknown name hname)
  have hcovers : ∀ value ∈ required,
      isIn value ((Dict.keys (excessMeasurements required)).map .str) = true := by
    intro value hvalue
    obtain ⟨name, rfl⟩ := exists_of_isText (htext value hvalue)
    apply Json.str_isIn.mpr
    apply List.mem_map_of_mem
    apply mem_keys_excess.mpr
    by_cases hname : name = "wall_time_ms"
    · exact .inl hname
    · by_cases hcpuName : name = "cpu_time_ms"
      · exact .inr (.inl hcpuName)
      · refine .inr (.inr ?_)
        simp only [otherNames, List.mem_filter, List.mem_dedup, List.mem_filterMap]
        exact ⟨⟨_, hvalue, rfl⟩, by simpa using ⟨hname, hcpuName⟩⟩
  -- the selected measurement is one that is zero, and so is the CPU time
  have hzero : selectedMeasurement (entry spec "selection_measurement_id")
      (excessMeasurements required) = .int 0 := by
    rw [hsame]
    exact entry_excess hother hselected
  have hmeasured : MeasuredRow (rulesOf spec limits required allowed forbidden)
      (excessMeasurements required) true := by
    refine ⟨hcovers, ?_, ?_, ?_⟩
    · show isNumeric (selectedMeasurement (entry spec "selection_measurement_id") _) = true
      rw [hzero]
      rfl
    · intro _
      rfl
    · show (exceeds (selectedMeasurement (entry spec "selection_measurement_id") _)
        (entry limits "wall_time_ms") ||
          (true && exceeds (.int 0) (entry limits "cpu_time_ms"))) = false
      have hnumber : number? (.int 0) = some (.finite (0 : Int)) := rfl
      rw [hzero, exceeds_of_number hnumber hwallLimit, exceeds_of_number hnumber hcpuLimit]
      decide
  unfold checkRow
  refine bind_eq_ok.mpr ⟨(), rejectIf_eq_ok.mpr ?_, ?_⟩
  · rintro ⟨name, hname, hunknown⟩
    exact absurd (hunknown.symm.trans (Json.str_isIn.mpr (hknown name hname))) (by decide)
  refine bind_eq_ok.mpr ⟨(), rejectIf_eq_ok.mpr ?_, ?_⟩
  · rintro ⟨name, hname, hforbidden⟩
    exact absurd (hforbidden.symm.trans (hunforbidden name hname)) (by decide)
  refine bind_eq_ok.mpr ⟨.completed, rfl, ?_⟩
  exact checkMeasured_eq_ok.mpr ⟨hmeasured, rfl⟩

/-! ## §2 Which specifications are sound -/

theorem requireSupplied_eq_ok {environment binding : Option (List (String × Json))} {u : Unit} :
    (do
      rejectIf (environment.isNone = true) "calibration environment manifest is required"
      rejectIf (binding.isNone = true) "calibration implementation binding is required") = .ok u ↔
      environment.isSome = true ∧ binding.isSome = true := by
  rw [bind_eq_ok]
  cases environment <;> cases binding <;> simp

section Canonicalizer

variable [Python.UnicodeDatabase] [Rfc8785]

/-- Nothing but the evidence can fail: the specification is valid, what it comes with names it, and
its values equal some value. -/
structure Usable (spec : List (String × Json))
    (environment binding : Option (List (String × Json))) : Prop where
  valid : validateCalibrationSpec spec = .ok ()
  supplied : pyEq (entry spec "schema_version") (.int 4) = true →
    environment.isSome = true ∧ binding.isSome = true
  digest : ∃ digest, documentDigest spec = .ok digest
  environment : ∀ manifest, environment = some manifest →
    (∃ digest, documentDigest manifest = .ok digest) ∧
      validateEnvironment spec manifest binding = .ok ()
  profile : ∃ value, pyEq value (entry spec "measurement_profile_id") = true
  limits : ∃ value, pyEq value (entry spec "runtime_limits_ms") = true

/-- What accepted evidence passes, once the specification has version 3 or 4. -/
structure Admitted (evidence spec : List (String × Json))
    (environment binding : Option (List (String × Json))) : Prop where
  valid : validateCalibrationSpec spec = .ok ()
  supplied : pyEq (entry spec "schema_version") (.int 4) = true →
    environment.isSome = true ∧ binding.isSome = true
  identities : checkIdentities evidence spec environment binding = .ok ()
  profile : pyEq (entry evidence "measurement_profile_id") (entry spec "measurement_profile_id") =
    true
  selection : pyEq (entry evidence "selection_measurement_id")
    (entry spec "selection_measurement_id") = true
  limits : pyEq (entry evidence "runtime_limits_ms") (entry spec "runtime_limits_ms") = true
  rows : checkRows evidence spec true = .ok ()

theorem validateCalibrationEvidence_eq_ok {evidence spec : List (String × Json)}
    {environment binding : Option (List (String × Json))}
    (hversion : inNumbers (entry spec "schema_version") [3, 4] = .ok true) :
    validateCalibrationEvidence evidence spec environment binding = .ok () ↔
      Admitted evidence spec environment binding := by
  unfold validateCalibrationEvidence
  constructor
  · intro h
    obtain ⟨_, hvalid, h⟩ := bind_eq_ok.mp h
    obtain ⟨_, hsupplied, h⟩ := bind_eq_ok.mp h
    obtain ⟨measuresCpu, hmeasures, h⟩ := bind_eq_ok.mp h
    cases Except.ok.inj (hversion.symm.trans hmeasures)
    obtain ⟨_, hidentities, h⟩ := bind_eq_ok.mp h
    obtain ⟨_, hprofile, h⟩ := bind_eq_ok.mp h
    obtain ⟨_, hselection, h⟩ := bind_eq_ok.mp h
    obtain ⟨_, hlimits, h⟩ := bind_eq_ok.mp h
    obtain ⟨_, -, hrows⟩ := bind_eq_ok.mp h
    have hlimits := checkWhen_eq_ok.mp hlimits rfl
    exact { valid := hvalid
            supplied := fun hfour => requireSupplied_eq_ok.mp (checkWhen_eq_ok.mp hsupplied hfour)
            identities := checkWhen_eq_ok.mp hidentities rfl
            profile := by simpa using hprofile
            selection := by simpa using hselection
            limits := by simpa using hlimits
            rows := hrows }
  · intro h
    refine bind_eq_ok.mpr ⟨(), h.valid, ?_⟩
    refine bind_eq_ok.mpr ⟨(), checkWhen_eq_ok.mpr ?_, ?_⟩
    · intro hfour
      exact requireSupplied_eq_ok.mpr (h.supplied hfour)
    refine bind_eq_ok.mpr ⟨true, hversion, ?_⟩
    refine bind_eq_ok.mpr ⟨(), checkWhen_eq_ok.mpr fun _ => h.identities, ?_⟩
    refine bind_eq_ok.mpr ⟨(), rejectIf_eq_ok.mpr (by simp [h.profile]), ?_⟩
    refine bind_eq_ok.mpr ⟨(), rejectIf_eq_ok.mpr (by simp [h.selection]), ?_⟩
    refine bind_eq_ok.mpr ⟨(), checkWhen_eq_ok.mpr ?_, ?_⟩
    · intro _
      exact rejectIf_eq_ok.mpr (by simp [h.limits])
    refine bind_eq_ok.mpr ⟨(), checkWhen_eq_ok.mpr ?_, h.rows⟩
    intro hfalse
    cases hfalse

/-- What the identities of the evidence must be. -/
structure IdentifiedEvidence (evidence spec : List (String × Json))
    (environment binding : Option (List (String × Json))) : Prop where
  named : ∃ digest, documentDigest spec = .ok digest ∧
    pyEq (entry evidence "calibration_spec_digest") (.str digest) = true
  state : pyEq (entry evidence "actual_calibration_state_digest")
    (entry spec "calibration_state_manifest_digest") = true
  manifest : ∀ manifest, environment = some manifest →
    (∃ digest, documentDigest manifest = .ok digest ∧
      pyEq (entry evidence "actual_environment_digest") (.str digest) = true) ∧
      validateEnvironment spec manifest binding = .ok ()

omit [Python.UnicodeDatabase] in
theorem checkIdentities_eq_ok {evidence spec : List (String × Json)}
    {environment binding : Option (List (String × Json))} :
    checkIdentities evidence spec environment binding = .ok () ↔
      IdentifiedEvidence evidence spec environment binding := by
  unfold checkIdentities
  constructor
  · intro h
    obtain ⟨digest, hdigest, h⟩ := bind_eq_ok.mp h
    obtain ⟨_, hnames, h⟩ := bind_eq_ok.mp h
    obtain ⟨_, hstate, h⟩ := bind_eq_ok.mp h
    refine ⟨⟨digest, hdigest, by simpa using hnames⟩, by simpa using hstate, ?_⟩
    rintro manifest rfl
    obtain ⟨digest, hdigest, h⟩ := bind_eq_ok.mp h
    obtain ⟨_, hnames, h⟩ := bind_eq_ok.mp h
    exact ⟨⟨digest, hdigest, by simpa using hnames⟩, h⟩
  · rintro ⟨⟨digest, hdigest, hnames⟩, hstate, henvironment⟩
    refine bind_eq_ok.mpr ⟨digest, hdigest, ?_⟩
    refine bind_eq_ok.mpr ⟨(), rejectIf_eq_ok.mpr (by simp [hnames]), ?_⟩
    refine bind_eq_ok.mpr ⟨(), rejectIf_eq_ok.mpr (by simp [hstate]), ?_⟩
    cases environment with
    | none => rfl
    | some manifest =>
      obtain ⟨⟨digest, hdigest, hnames⟩, hvalid⟩ := henvironment manifest rfl
      refine bind_eq_ok.mpr ⟨digest, hdigest, ?_⟩
      exact bind_eq_ok.mpr ⟨(), rejectIf_eq_ok.mpr (by simp [hnames]), hvalid⟩

/-- Where evidence is accepted, nothing but evidence could have failed. -/
theorem Admitted.usable {evidence spec : List (String × Json)}
    {environment binding : Option (List (String × Json))}
    (h : Admitted evidence spec environment binding) : Usable spec environment binding := by
  obtain ⟨⟨digest, hdigest, -⟩, -, henvironment⟩ := checkIdentities_eq_ok.mp h.identities
  exact { valid := h.valid, supplied := h.supplied, digest := ⟨digest, hdigest⟩
          environment := fun manifest hmanifest =>
            ⟨(henvironment manifest hmanifest).1.imp fun _ hdigest => hdigest.1,
              (henvironment manifest hmanifest).2⟩
          profile := ⟨_, h.profile⟩, limits := ⟨_, h.limits⟩ }

/-- Evidence whose rows are all above the wall limit. -/
def excessEvidence (spec : List (String × Json)) (required : List Json) (grid : List Int)
    (specDigest environmentDigest : String) (profile limits : Json) : List (String × Json) :=
  [("calibration_spec_digest", .str specDigest),
    ("actual_calibration_state_digest", entry spec "calibration_state_manifest_digest"),
    ("actual_environment_digest", .str environmentDigest), ("measurement_profile_id", profile),
    ("selection_measurement_id", entry spec "selection_measurement_id"),
    ("runtime_limits_ms", limits),
    ("runtime_measurements", .arr ((grid.map (excessRow required)).map .obj)),
    ("selected_work_value", (pyMax (grid.map .int)).getD .null)]

omit [Python.UnicodeDatabase] [Rfc8785] in
theorem readRows_excess {required : List Json} {grid : List Int} :
    readRows (.arr ((grid.map (excessRow required)).map .obj)) =
      .ok (grid.map (excessRow required)) := by
  apply mapM_eq_ok.mpr
  apply List.forall₂_map_left_iff.mpr
  apply List.forall₂_same.mpr
  intro row _
  rfl

omit [Python.UnicodeDatabase] [Rfc8785] in
theorem denote_grid (grid : List Int) : Denote (grid.map .int) grid := by
  apply List.forall₂_map_left_iff.mpr
  apply List.forall₂_same.mpr
  intro number _
  rfl

omit [Python.UnicodeDatabase] [Rfc8785] in
theorem pyEq_pyMax (grid : List Int) :
    pyEq ((pyMax (grid.map .int)).getD .null) ((pyMax (grid.map .int)).getD .null) = true := by
  rcases pyMax_spec (denote_grid grid) with ⟨-, hmax⟩ | ⟨value, hvalue, _, _, hmax, _, _⟩
  · rw [hmax]
    rfl
  · obtain ⟨number, -, rfl⟩ := List.mem_map.mp hvalue
    rw [hmax]
    exact Json.pyEq_int.mpr rfl

omit [Python.UnicodeDatabase] [Rfc8785] in
/-- A digest of a valid document equals itself. -/
theorem pyEq_of_isDigestText {value : Json} (h : isDigestText value = true) :
    pyEq value value = true := by
  cases value with
  | str text => exact Json.pyEq_str.mpr rfl
  | _ => cases h

/-- A specification that does not bound the wall time admits rows above it. -/
theorem exists_unsound {spec : List (String × Json)}
    {environment binding : Option (List (String × Json))}
    (hversion : inNumbers (entry spec "schema_version") [3, 4] = .ok true)
    (husable : Usable spec environment binding) (hbounds : ¬BoundsWallTime spec) :
    ∃ evidence, Admitted evidence spec environment binding ∧ ¬CalibrationSound spec evidence := by
  obtain ⟨grid, required, allowed, forbidden, hspec⟩ := validateCalibrationSpec_spec husable.valid
  obtain ⟨hlimits, hstate⟩ := limits_of_validate hversion husable.valid
  obtain ⟨hrequired, hallowed⟩ := lists_eq hspec.lists
  simp only [BoundsWallTime, not_or, not_not, not_exists, not_and, Bool.not_eq_false] at hbounds
  rw [hrequired, hallowed] at hbounds
  obtain ⟨hselection, hwall, hcpu, htext, hgrid⟩ := hbounds
  obtain ⟨limits, hobject⟩ : ∃ limits, entry spec "runtime_limits_ms" = .obj limits := by
    cases hvalue : entry spec "runtime_limits_ms" with
    | obj limits => exact ⟨limits, rfl⟩
    | _ =>
      rw [hvalue] at hlimits
      cases hlimits
  rw [hobject] at hlimits
  obtain ⟨specDigest, hspecDigest⟩ := husable.digest
  obtain ⟨profile, hprofile⟩ := husable.profile
  obtain ⟨limitsValue, hlimitsValue⟩ := husable.limits
  obtain ⟨environmentDigest, henvironment⟩ : ∃ environmentDigest, ∀ manifest,
      environment = some manifest → documentDigest manifest = .ok environmentDigest := by
    cases environment with
    | none => exact ⟨"", fun manifest h => by cases h⟩
    | some manifest =>
      obtain ⟨digest, hdigest⟩ := (husable.environment manifest rfl).1
      exact ⟨digest, fun _ h => by cases h; exact hdigest⟩
  let evidence := excessEvidence spec required grid specDigest environmentDigest profile limitsValue
  have hrow := checkRow_excess hspec hlimits hselection hwall hcpu htext
  have hpassing : PassingRows evidence spec limits grid required allowed forbidden
      (grid.map (excessRow required)) (grid.map fun work => some (.int work)) := by
    obtain ⟨hwallLimit, hcpuLimit⟩ := number_of_limits hlimits
    refine { bounds := hobject, reads := hspec.grid, mappings := readRows_excess, covered := ?_
             lists := hspec.lists
             numeric := ⟨isNumeric_of_number hwallLimit, isNumeric_of_number hcpuLimit⟩
             checked := ?_, selected := ?_ }
    · rw [List.map_map]
      apply Json.itemsEq_iff.mpr
      rw [List.forall₂_map_left_iff, List.forall₂_map_right_iff, List.forall₂_same]
      intro work _
      exact Json.pyEq_int.mpr rfl
    · rw [List.forall₂_map_left_iff, List.forall₂_map_right_iff, List.forall₂_same]
      intro work _
      exact hrow work
    · have heligible : (grid.map fun work => some (Json.int work)).filterMap id =
          grid.map .int := by simp
      rw [heligible]
      exact pyEq_pyMax grid
  refine ⟨evidence, ?_, ?_⟩
  · exact { valid := husable.valid, supplied := husable.supplied
            identities := checkIdentities_eq_ok.mpr
              { named := ⟨specDigest, hspecDigest, Json.pyEq_str.mpr rfl⟩
                state := pyEq_of_isDigestText hstate
                manifest := fun manifest hmanifest =>
                  ⟨⟨environmentDigest, henvironment manifest hmanifest, Json.pyEq_str.mpr rfl⟩,
                    (husable.environment manifest hmanifest).2⟩ }
            profile := hprofile
            selection := by
              obtain ⟨name, hname, -⟩ := hspec.selection_named htext
              show pyEq (entry spec "selection_measurement_id") _ = true
              rw [hname]
              exact Json.pyEq_str.mpr rfl
            limits := hlimitsValue
            rows := checkRows_eq_ok.mpr ⟨_, _, _, _, _, _, _, hpassing⟩ }
  · intro hsound
    have hread : workGrid spec = grid := by rw [workGrid, hspec.grid]
    obtain ⟨work, hwork⟩ := List.exists_mem_of_ne_nil grid (hread ▸ hgrid)
    have hrows : evidenceRows evidence = grid.map (excessRow required) := by
      rw [evidenceRows, hpassing.mappings]
    have hmem : excessRow required work ∈ evidenceRows evidence := by
      rw [hrows]
      exact List.mem_map_of_mem hwork
    apply (hsound.within _ hmem rfl).1
    refine ⟨excessMeasurements required, limits, rfl, hobject, ?_⟩
    obtain ⟨hwallLimit, -⟩ := number_of_limits hlimits
    exact (exceeds_of_number (show number? (.int 2001) = some (.finite (2001 : Int)) from rfl)
      hwallLimit).trans (by decide)

/-- Calibration evidence of version 3 or 4 is sound exactly where its specification, once it can be
used at all, bounds the wall time. -/
theorem calibration_sound_iff (spec : List (String × Json))
    (environment binding : Option (List (String × Json)))
    (hversion : inNumbers (entry spec "schema_version") [3, 4] = .ok true) :
    (∀ evidence, validateCalibrationEvidence evidence spec environment binding = .ok () →
      CalibrationSound spec evidence) ↔
      (Usable spec environment binding → BoundsWallTime spec) := by
  constructor
  · intro hsound husable
    by_contra hbounds
    obtain ⟨evidence, hadmitted, hunsound⟩ := exists_unsound hversion husable hbounds
    exact hunsound (hsound evidence ((validateCalibrationEvidence_eq_ok hversion).mpr hadmitted))
  · intro hbounds evidence h
    have hadmitted := (validateCalibrationEvidence_eq_ok hversion).mp h
    obtain ⟨_, _, _, _, _, _, _, hpassing⟩ := checkRows_eq_ok.mp hadmitted.rows
    exact hpassing.sound (hbounds hadmitted.usable)

end Canonicalizer

/-! ## §3 Two specifications -/

/-- The specification of the search work, with a measurement for the selection. -/
def searchWorkSpec (selection : String) : List (String × Json) :=
  [("schema_version", .int 3), ("spec_id", .str "m15-search-work-calibration-v1"),
    ("budget_mode", .str "calibrated_grid"), ("calibrated_parameter", .str "per_world_work"),
    ("world_sampling_count", .int 16),
    ("total_work_formula", .str "world_sampling_count_times_per_world_work"),
    ("calibration_state_rule_id", .str "m15-synthetic-calibration-state-v1"),
    ("calibration_state_manifest_digest",
      .str "sha256:3b1a505036594d640ad40ddc029a80bf227df3e6ed302786c4b547f5d07051c4"),
    ("ordered_work_grid", .arr [.int 64, .int 128, .int 256, .int 512]),
    ("selection_rule_id", .str "largest-value-under-runtime-limit-v1"),
    ("measurement_profile_id", .str "m15-runtime-only-v1"),
    ("selection_measurement_id", .str selection),
    ("required_measurement_ids", .arr [.str "wall_time_ms", .str "cpu_time_ms"]),
    ("runtime_limits_ms", .obj [("wall_time_ms", .int 2000), ("cpu_time_ms", .int 2000)]),
    ("allowed_runtime_measurements", .arr [.str "wall_time_ms", .str "cpu_time_ms"]),
    ("forbidden_quality_measurements", .arr [.str "selection_holdout_score"])]

theorem searchWorkSpec_valid : letI := Python.asciiDatabase
    validateCalibrationSpec (searchWorkSpec "cpu_time_ms") = .ok () := by
  let _ := Python.asciiDatabase
  have hok : (validateCalibrationSpec (searchWorkSpec "cpu_time_ms")).isOk = true := by
    decide +kernel
  generalize validateCalibrationSpec _ = result at hok
  cases result with
  | ok _ => rfl
  | error err => cases hok

theorem usable_searchWorkSpec : letI := Python.asciiDatabase; letI := compactCanonicalizer
    Usable (searchWorkSpec "cpu_time_ms") none none := by
  let _ := Python.asciiDatabase
  let _ := compactCanonicalizer
  exact { valid := searchWorkSpec_valid
          supplied := fun h => absurd h (by decide)
          digest := ⟨_, rfl⟩
          environment := fun manifest h => by cases h
          profile := ⟨.str "m15-runtime-only-v1", Json.pyEq_str.mpr rfl⟩
          limits := ⟨entry (searchWorkSpec "cpu_time_ms") "runtime_limits_ms", by decide⟩ }

/-- With the wall time selected, all accepted evidence is sound. -/
theorem calibration_sound_of_wall_time : letI := Python.asciiDatabase; letI := compactCanonicalizer
    entry (searchWorkSpec "wall_time_ms") "selection_measurement_id" = .str "wall_time_ms" ∧
    ∀ evidence, validateCalibrationEvidence evidence (searchWorkSpec "wall_time_ms") none none =
      .ok () → CalibrationSound (searchWorkSpec "wall_time_ms") evidence := by
  let _ := Python.asciiDatabase
  let _ := compactCanonicalizer
  refine ⟨rfl, ?_⟩
  exact (calibration_sound_iff (searchWorkSpec "wall_time_ms") none none rfl).mpr fun _ => .inl rfl

/-- A specification that selects the CPU time has evidence with rows above the wall limit. -/
theorem cpu_selection_unsound : letI := Python.asciiDatabase; letI := compactCanonicalizer
    ¬∀ evidence, validateCalibrationEvidence evidence (searchWorkSpec "cpu_time_ms") none none =
      .ok () → CalibrationSound (searchWorkSpec "cpu_time_ms") evidence := by
  let _ := Python.asciiDatabase
  let _ := compactCanonicalizer
  intro h
  have hunbounded : ¬BoundsWallTime (searchWorkSpec "cpu_time_ms") := by
    rintro (hselection | hwall | hcpu | ⟨value, hvalue, htext⟩ | hgrid)
    · exact absurd hselection (by simp [entry, searchWorkSpec, Json.get?, Python.Dict.get?])
    · apply hwall
      simp [allowedMeasurements, entry, searchWorkSpec, Json.get?, Python.Dict.get?]
    · apply hcpu
      simp [allowedMeasurements, entry, searchWorkSpec, Json.get?, Python.Dict.get?]
    · have hnames : (requiredMeasurements (searchWorkSpec "cpu_time_ms")).all isText = true := by
        decide
      rw [List.all_eq_true.mp hnames value hvalue] at htext
      cases htext
    · cases hgrid
  obtain ⟨evidence, hadmitted, hunsound⟩ := exists_unsound rfl usable_searchWorkSpec hunbounded
  exact hunsound (h evidence ((validateCalibrationEvidence_eq_ok rfl).mpr hadmitted))

end BattleBelief
