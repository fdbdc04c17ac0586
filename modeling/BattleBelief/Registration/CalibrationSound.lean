import BattleBelief.Registration.Calibration

/-!
# Accepted Calibration Evidence

What the rows of accepted evidence report. A completed row stays within the limits for the CPU time
and for the selected measurement, and the greatest completed value is selected.

- `checkRow_spec`: what a row that passes its checks has
- `checkRows_eq_ok`: what the rows of accepted evidence are
- `PassingRows.sound`: such rows are sound where the specification bounds the wall time
-/

namespace BattleBelief

open Python (Dict.keys Json Number)
open Python.Json (pyEq isIn hashable number?)
open Runs

/-! ## §1 Soundness -/

/-- The grid of a specification. -/
def workGrid (spec : List (String × Json)) : List Int :=
  match readGrid (entry spec "ordered_work_grid") with
  | .ok grid => grid
  | .error _ => []

/-- The rows of the evidence. -/
def evidenceRows (evidence : List (String × Json)) : List (List (String × Json)) :=
  match readRows (entry evidence "runtime_measurements") with
  | .ok rows => rows
  | .error _ => []

def isCompleted (row : List (String × Json)) : Bool := pyEq (entry row "status") (.str "completed")

/-- The row reports the measurement, above its limit. -/
def ReportsAbove (spec row : List (String × Json)) (name : String) : Prop :=
  ∃ measurements limits, entry row "measurements" = .obj measurements ∧
    entry spec "runtime_limits_ms" = .obj limits ∧
    exceeds (entry measurements name) (entry limits name) = true

/-- The values of the grid whose rows are completed. -/
def completedWork (spec evidence : List (String × Json)) : List Int :=
  (((workGrid spec).zip (evidenceRows evidence)).filter fun pair => isCompleted pair.2).map Prod.fst

/-- The value is the greatest of these, and `None` where there is none. -/
def IsGreatestOf (values : List Int) (value : Json) : Prop :=
  (values = [] ∧ value = .null) ∨ ∃ greatest ∈ values, (∀ other ∈ values, other ≤ greatest) ∧
    pyEq value (.int greatest) = true

structure CalibrationSound (spec evidence : List (String × Json)) : Prop where
  within : ∀ row ∈ evidenceRows evidence, isCompleted row = true →
    ¬ReportsAbove spec row "wall_time_ms" ∧ ¬ReportsAbove spec row "cpu_time_ms"
  stopped : ∀ row ∈ evidenceRows evidence,
    ReportsAbove spec row "wall_time_ms" ∨ ReportsAbove spec row "cpu_time_ms" →
    isCompleted row = false
  selected : IsGreatestOf (completedWork spec evidence) (entry evidence "selected_work_value")

/-! ## §2 What the greatest value is -/

/-- Two lists of numbers, as values and as integers. -/
def Denote (values : List Json) (numbers : List Int) : Prop :=
  List.Forall₂ (fun (value : Json) (number : Int) => number? value = some (.finite number)) values
    numbers

theorem exceeds_of_number {first second : Json} {number other : Int}
    (hfirst : number? first = some (.finite number))
    (hsecond : number? second = some (.finite other)) :
    exceeds first second = decide (other < number) := by
  simp [exceeds, hfirst, hsecond, Number.lt]

/-- The maximum of a fold is one of the values, and none is greater. -/
theorem foldl_max {best : Json} {greatest : Int} {values : List Json} {numbers : List Int}
    (hbest : number? best = some (.finite greatest)) (h : Denote values numbers) :
    ∃ found ∈ greatest :: numbers, (∀ other ∈ greatest :: numbers, other ≤ found) ∧
      values.foldl (fun best other => if exceeds other best then other else best) best ∈
        best :: values ∧
      number? (values.foldl (fun best other => if exceeds other best then other else best) best) =
        some (.finite found) := by
  induction h generalizing best greatest with
  | nil => exact ⟨greatest, List.mem_singleton_self _, by simp, List.mem_singleton_self _, hbest⟩
  | @cons value number values numbers hvalue _ ih =>
    rw [List.foldl_cons, exceeds_of_number hvalue hbest]
    by_cases hless : greatest < number
    · rw [if_pos (decide_eq_true hless)]
      obtain ⟨found, hfound, hgreatest, hmem, hnumber⟩ := ih hvalue
      refine ⟨found, List.mem_cons_of_mem _ hfound, ?_, List.mem_cons_of_mem _ hmem, hnumber⟩
      intro other hother
      rcases List.mem_cons.mp hother with rfl | hother
      · exact hless.le.trans (hgreatest number List.mem_cons_self)
      · exact hgreatest other hother
    · rw [if_neg (by simpa using hless)]
      obtain ⟨found, hfound, hgreatest, hmem, hnumber⟩ := ih hbest
      refine ⟨found, ?_, ?_, ?_, hnumber⟩
      · rcases List.mem_cons.mp hfound with rfl | hfound
        · exact List.mem_cons_self
        · exact List.mem_cons_of_mem _ (List.mem_cons_of_mem _ hfound)
      · intro other hother
        rcases List.mem_cons.mp hother with rfl | hother
        · exact hgreatest other List.mem_cons_self
        · rcases List.mem_cons.mp hother with rfl | hother
          · exact (not_lt.mp hless).trans (hgreatest greatest List.mem_cons_self)
          · exact hgreatest other (List.mem_cons_of_mem _ hother)
      · rcases List.mem_cons.mp hmem with hsame | hmem
        · rw [hsame]
          exact List.mem_cons_self
        · exact List.mem_cons_of_mem _ (List.mem_cons_of_mem _ hmem)

/-- `max` returns the greatest of its values. -/
theorem pyMax_spec {values : List Json} {numbers : List Int} (h : Denote values numbers) :
    (numbers = [] ∧ pyMax values = none) ∨ ∃ value ∈ values, ∃ greatest ∈ numbers,
      pyMax values = some value ∧ (∀ other ∈ numbers, other ≤ greatest) ∧
      number? value = some (.finite (greatest : ℚ)) := by
  cases h with
  | nil => exact .inl ⟨rfl, rfl⟩
  | cons hvalue hrest =>
    obtain ⟨greatest, hmem, hgreatest, hvalues, hnumber⟩ := foldl_max hvalue hrest
    exact .inr ⟨_, hvalues, greatest, hmem, rfl, hgreatest, hnumber⟩

theorem pyEq_number {value other : Json} {number : Int}
    (hother : number? other = some (.finite (number : ℚ))) (h : pyEq value other = true) :
    pyEq value (.int number) = true :=
  (Json.pyEq_of_number (show number? (.int number) = _ from rfl)).mpr
    ((Json.pyEq_of_number hother).mp h)

/-! ## §3 What accepted rows are -/

theorem readStatus_eq_ok {value : Json} {status : RowStatus} (h : readStatus value = .ok status) :
    pyEq value (.str "completed") = true ↔ status = .completed := by
  unfold readStatus at h
  split_ifs at h with hhash hcompleted hover hfailed hunsupported
  · cases h
    exact iff_of_true hcompleted rfl
  · cases h
    exact iff_of_false hcompleted (by decide)
  · cases h
    exact iff_of_false hcompleted (by decide)
  · cases h
    exact iff_of_false hcompleted (by decide)
  · cases h

/-- A measured row reports what is required, and nothing that it reports is above a limit unless it
is stopped. -/
structure MeasuredRow (rules : RowRules) (measurements : List (String × Json)) (completed : Bool) :
    Prop where
  required : ∀ value ∈ rules.required, isIn value ((Dict.keys measurements).map .str) = true
  selected : isNumeric (selectedMeasurement rules.selection measurements) = true
  cpu : rules.measuresCpu = true → isNumeric (entry measurements "cpu_time_ms") = true
  limits : (exceeds (selectedMeasurement rules.selection measurements) rules.wallLimit ||
    (rules.measuresCpu && exceeds (entry measurements "cpu_time_ms") rules.cpuLimit)) = !completed

theorem checkMeasured_eq_ok {rules : RowRules} {row measurements : List (String × Json)}
    {completed : Bool} {verdict : Option Json} :
    checkMeasured rules row measurements completed = .ok verdict ↔
      MeasuredRow rules measurements completed ∧
        verdict = if completed then some (entry row "work_value") else none := by
  unfold checkMeasured readOverLimit
  constructor
  · intro h
    obtain ⟨_, hrequired, h⟩ := bind_eq_ok.mp h
    obtain ⟨overLimit, hover, h⟩ := bind_eq_ok.mp h
    obtain ⟨_, hcompleted, h⟩ := bind_eq_ok.mp h
    obtain ⟨_, hstopped, h⟩ := bind_eq_ok.mp h
    obtain ⟨_, hselected, hover⟩ := bind_eq_ok.mp hover
    obtain ⟨_, hcpu, hover⟩ := bind_eq_ok.mp hover
    have hover := Except.ok.inj hover
    have hverdict := Except.ok.inj h
    simp only [rejectIf_eq_ok, checkWhen_eq_ok] at hrequired hcompleted hstopped hselected hcpu
    refine ⟨⟨?_, by simpa using hselected, by simpa using hcpu, ?_⟩, hverdict.symm⟩
    · intro value hvalue
      by_contra hmissing
      exact hrequired ⟨value, hvalue, by simpa using hmissing⟩
    · rw [hover]
      cases completed <;> cases overLimit <;> simp_all
  · rintro ⟨⟨hrequired, hselected, hcpu, hlimits⟩, hverdict⟩
    have hcovered : ¬∃ value ∈ rules.required,
        isIn value ((Dict.keys measurements).map .str) = false := by
      rintro ⟨value, hvalue, hmissing⟩
      rw [hrequired value hvalue] at hmissing
      cases hmissing
    apply bind_eq_ok.mpr ⟨(), rejectIf_eq_ok.mpr hcovered, ?_⟩
    apply bind_eq_ok.mpr ⟨!completed, ?_, ?_⟩
    · apply bind_eq_ok.mpr ⟨(), rejectIf_eq_ok.mpr (by simp [hselected]), ?_⟩
      apply bind_eq_ok.mpr ⟨(), checkWhen_eq_ok.mpr ?_, ?_⟩
      · intro hmeasures
        exact rejectIf_eq_ok.mpr (by simp [hcpu hmeasures])
      · exact congrArg Except.ok hlimits
    · apply bind_eq_ok.mpr ⟨(), rejectIf_eq_ok.mpr (by cases completed <;> decide), ?_⟩
      apply bind_eq_ok.mpr ⟨(), rejectIf_eq_ok.mpr (by cases completed <;> decide), ?_⟩
      exact congrArg Except.ok hverdict.symm

/-- What a row that passes its checks has. -/
structure CheckedRow (rules : RowRules) (row : List (String × Json)) (verdict : Option Json) :
    Prop where
  reported : ∃ measurements, entry row "measurements" = .obj measurements ∧
    (∀ name ∈ Dict.keys measurements, isIn (.str name) rules.allowed = true) ∧
    (isCompleted row = true → MeasuredRow rules measurements true)
  verdict : verdict = if isCompleted row then some (entry row "work_value") else none

theorem checkRow_spec {rules : RowRules} {row : List (String × Json)} {verdict : Option Json}
    (h : checkRow rules row = .ok verdict) : CheckedRow rules row verdict := by
  unfold checkRow at h
  split at h
  · rename_i measurements hmeasurements
    obtain ⟨_, hallowed, h⟩ := bind_eq_ok.mp h
    obtain ⟨_, -, h⟩ := bind_eq_ok.mp h
    obtain ⟨status, hstatus, h⟩ := bind_eq_ok.mp h
    have hcompleted : isCompleted row = true ↔ status = .completed := readStatus_eq_ok hstatus
    have hknown : ∀ name ∈ Dict.keys measurements, isIn (.str name) rules.allowed = true := by
      intro name hname
      by_contra hunknown
      exact rejectIf_eq_ok.mp hallowed ⟨name, hname, by simpa using hunknown⟩
    cases status with
    | completed =>
      obtain ⟨hmeasured, hverdict⟩ := checkMeasured_eq_ok.mp h
      have hcompleted : isCompleted row = true := hcompleted.mpr rfl
      refine ⟨⟨measurements, hmeasurements, hknown, fun _ => hmeasured⟩, ?_⟩
      rw [hverdict, hcompleted]
    | overLimit =>
      have hcompleted : isCompleted row = false := by
        simpa using mt hcompleted.mp (by decide)
      obtain ⟨-, hverdict⟩ := checkMeasured_eq_ok.mp h
      refine ⟨⟨measurements, hmeasurements, hknown, ?_⟩, ?_⟩
      · rw [hcompleted]
        intro hfalse
        cases hfalse
      · rw [hverdict, hcompleted]
    | failed | unsupported =>
      have hcompleted : isCompleted row = false := by
        simpa using mt hcompleted.mp (by decide)
      obtain ⟨_, -, hverdict⟩ := bind_eq_ok.mp h
      refine ⟨⟨measurements, hmeasurements, hknown, ?_⟩, ?_⟩
      · rw [hcompleted]
        intro hfalse
        cases hfalse
      · rw [hcompleted]
        exact (Except.ok.inj hverdict).symm
  · cases h

/-! ## §4 What accepted documents are -/

section Database

variable [Python.UnicodeDatabase]

/-- What a valid specification holds of its grid and its measurements. -/
structure ReadSpec (spec : List (String × Json)) (grid : List Int)
    (required allowed forbidden : List Json) : Prop where
  grid : readGrid (entry spec "ordered_work_grid") = .ok grid
  lists : measurementLists spec = .ok (required, allowed, forbidden)
  selected : isIn (entry spec "selection_measurement_id") required = true
  covered : ∀ value ∈ required, isIn value allowed = true
  apart : ∀ value ∈ allowed, isIn value forbidden = false

theorem validateCalibrationSpec_spec {spec : List (String × Json)}
    (h : validateCalibrationSpec spec = .ok ()) :
    ∃ grid required allowed forbidden, ReadSpec spec grid required allowed forbidden := by
  unfold validateCalibrationSpec at h
  obtain ⟨_, -, h⟩ := bind_eq_ok.mp h
  obtain ⟨_, -, h⟩ := bind_eq_ok.mp h
  obtain ⟨_, -, h⟩ := bind_eq_ok.mp h
  obtain ⟨boundsRuntime, -, h⟩ := bind_eq_ok.mp h
  obtain ⟨_, -, h⟩ := bind_eq_ok.mp h
  obtain ⟨_, -, h⟩ := bind_eq_ok.mp h
  obtain ⟨grid, hgrid, h⟩ := bind_eq_ok.mp h
  obtain ⟨_, -, h⟩ := bind_eq_ok.mp h
  obtain ⟨⟨required, allowed, forbidden⟩, hlists, h⟩ := bind_eq_ok.mp h
  obtain ⟨_, hselected, h⟩ := bind_eq_ok.mp h
  obtain ⟨_, -, h⟩ := bind_eq_ok.mp h
  obtain ⟨_, -, h⟩ := bind_eq_ok.mp h
  obtain ⟨_, hcovered, h⟩ := bind_eq_ok.mp h
  obtain ⟨_, -, hoverlap⟩ := bind_eq_ok.mp h
  simp only [rejectIf_eq_ok] at hselected hcovered hoverlap
  push Not at hcovered hoverlap
  exact ⟨grid, required, allowed, forbidden,
    { grid := hgrid, lists := hlists, selected := by simpa using hselected
      covered := fun value hvalue => by simpa using hcovered value hvalue
      apart := fun value hvalue => by simpa using hoverlap value hvalue }⟩

/-- The limits of a valid specification of version 3 or 4 are both 2000. -/
theorem limits_of_validate {spec : List (String × Json)}
    (hversion : inNumbers (entry spec "schema_version") [3, 4] = .ok true)
    (h : validateCalibrationSpec spec = .ok ()) :
    boundByLimits (entry spec "runtime_limits_ms") = true ∧
      isDigestText (entry spec "calibration_state_manifest_digest") = true := by
  unfold validateCalibrationSpec at h
  obtain ⟨_, -, h⟩ := bind_eq_ok.mp h
  obtain ⟨_, -, h⟩ := bind_eq_ok.mp h
  obtain ⟨_, -, h⟩ := bind_eq_ok.mp h
  obtain ⟨boundsRuntime, hbounds, h⟩ := bind_eq_ok.mp h
  cases Except.ok.inj (hversion.symm.trans hbounds)
  obtain ⟨_, hrules, -⟩ := bind_eq_ok.mp h
  have hrules := checkWhen_eq_ok.mp hrules rfl
  unfold validateRuntimeRules at hrules
  obtain ⟨_, -, hrules⟩ := bind_eq_ok.mp hrules
  obtain ⟨_, -, hrules⟩ := bind_eq_ok.mp hrules
  obtain ⟨_, -, hrules⟩ := bind_eq_ok.mp hrules
  obtain ⟨_, -, hrules⟩ := bind_eq_ok.mp hrules
  obtain ⟨_, hlimits, hdigest⟩ := bind_eq_ok.mp hrules
  exact ⟨by simpa using hlimits, by simpa using hdigest⟩

end Database

def rulesOf (spec limits : List (String × Json)) (required allowed forbidden : List Json) :
    RowRules where
  required := required
  allowed := allowed
  forbidden := forbidden
  selection := entry spec "selection_measurement_id"
  wallLimit := entry limits "wall_time_ms"
  cpuLimit := entry limits "cpu_time_ms"
  measuresCpu := true

/-- The rows of the evidence pass, and the right value is selected. -/
structure PassingRows (evidence spec limits : List (String × Json)) (grid : List Int)
    (required allowed forbidden : List Json) (rows : List (List (String × Json)))
    (verdicts : List (Option Json)) : Prop where
  bounds : entry spec "runtime_limits_ms" = .obj limits
  reads : readGrid (entry spec "ordered_work_grid") = .ok grid
  mappings : readRows (entry evidence "runtime_measurements") = .ok rows
  covered : Json.itemsEq (rows.map fun row => entry row "work_value") (grid.map .int) = true
  lists : measurementLists spec = .ok (required, allowed, forbidden)
  numeric : isNumeric (entry limits "wall_time_ms") = true ∧
    isNumeric (entry limits "cpu_time_ms") = true
  checked : List.Forall₂ (fun row verdict =>
    checkRow (rulesOf spec limits required allowed forbidden) row = .ok verdict) rows verdicts
  selected : pyEq (entry evidence "selected_work_value")
    ((pyMax (verdicts.filterMap id)).getD .null) = true

theorem checkRows_eq_ok {evidence spec : List (String × Json)} :
    checkRows evidence spec true = .ok () ↔ ∃ limits grid required allowed forbidden rows verdicts,
      PassingRows evidence spec limits grid required allowed forbidden rows verdicts := by
  constructor
  · intro h
    unfold checkRows at h
    obtain ⟨⟨wallLimit, cpuLimit⟩, hlimits, h⟩ := bind_eq_ok.mp h
    obtain ⟨grid, hgrid, h⟩ := bind_eq_ok.mp h
    obtain ⟨rows, hrows, h⟩ := bind_eq_ok.mp h
    obtain ⟨_, hcovered, h⟩ := bind_eq_ok.mp h
    obtain ⟨⟨required, allowed, forbidden⟩, hlists, h⟩ := bind_eq_ok.mp h
    obtain ⟨_, hnumeric, h⟩ := bind_eq_ok.mp h
    obtain ⟨verdicts, hverdicts, hselected⟩ := bind_eq_ok.mp h
    unfold readLimits at hlimits
    rw [if_pos rfl] at hlimits
    split at hlimits
    · rename_i limits hobject
      cases hlimits
      refine ⟨limits, grid, required, allowed, forbidden, rows, verdicts, ?_⟩
      exact { bounds := hobject, reads := hgrid, mappings := hrows
              covered := by simpa using hcovered, lists := hlists, numeric := by simpa using hnumeric
              checked := mapM_eq_ok.mp hverdicts, selected := by simpa using hselected }
    · cases hlimits
  · rintro ⟨limits, grid, required, allowed, forbidden, rows, verdicts, h⟩
    have hlimits : readLimits spec true =
        .ok (entry limits "wall_time_ms", entry limits "cpu_time_ms") := by
      rw [readLimits, if_pos rfl, h.bounds]
    unfold checkRows
    refine bind_eq_ok.mpr ⟨_, hlimits, ?_⟩
    refine bind_eq_ok.mpr ⟨grid, h.reads, ?_⟩
    refine bind_eq_ok.mpr ⟨rows, h.mappings, ?_⟩
    refine bind_eq_ok.mpr ⟨(), rejectIf_eq_ok.mpr (by simp [h.covered]), ?_⟩
    refine bind_eq_ok.mpr ⟨_, h.lists, ?_⟩
    refine bind_eq_ok.mpr ⟨(), rejectIf_eq_ok.mpr (by simp [h.numeric]), ?_⟩
    refine bind_eq_ok.mpr ⟨verdicts, mapM_eq_ok.mpr h.checked, ?_⟩
    exact rejectIf_eq_ok.mpr (by rw [h.selected]; simp)

/-- What the specification lets a row report. -/
def requiredMeasurements (spec : List (String × Json)) : List Json :=
  match entry spec "required_measurement_ids" with
  | .arr required => required
  | _ => []

def allowedMeasurements (spec : List (String × Json)) : List Json :=
  match entry spec "allowed_runtime_measurements" with
  | .arr allowed => allowed
  | _ => []

/-- The wall time is the selected measurement, or no completed row can report it. -/
def BoundsWallTime (spec : List (String × Json)) : Prop :=
  entry spec "selection_measurement_id" = .str "wall_time_ms" ∨
    .str "wall_time_ms" ∉ allowedMeasurements spec ∨
    .str "cpu_time_ms" ∉ allowedMeasurements spec ∨
    (∃ value ∈ requiredMeasurements spec, isText value = false) ∨ workGrid spec = []

theorem lists_eq {spec : List (String × Json)} {required allowed forbidden : List Json}
    (h : measurementLists spec = .ok (required, allowed, forbidden)) :
    requiredMeasurements spec = required ∧ allowedMeasurements spec = allowed := by
  unfold measurementLists at h
  split at h
  · rename_i hrequired hallowed _
    cases h
    rw [requiredMeasurements, allowedMeasurements, hrequired, hallowed]
    exact ⟨rfl, rfl⟩
  · cases h

theorem entry_of_notMem {document : List (String × Json)} {key : String}
    (h : key ∉ Dict.keys document) : entry document key = .null := by
  rw [entry, Json.get?, Python.Dict.get?_of_notMem h]
  rfl

theorem mem_keys_of_numeric {document : List (String × Json)} {key : String}
    (h : isNumeric (entry document key) = true) : key ∈ Dict.keys document := by
  by_contra hmissing
  rw [entry_of_notMem hmissing] at h
  cases h

/-- A completed row stays within the limits where these bind the wall time. -/
theorem PassingRows.within {evidence spec limits : List (String × Json)} {grid : List Int}
    {required allowed forbidden : List Json} {rows : List (List (String × Json))}
    {verdicts : List (Option Json)}
    (h : PassingRows evidence spec limits grid required allowed forbidden rows verdicts)
    (hbounds : BoundsWallTime spec) {row : List (String × Json)} (hrow : row ∈ rows)
    (hcompleted : isCompleted row = true) :
    ¬ReportsAbove spec row "wall_time_ms" ∧ ¬ReportsAbove spec row "cpu_time_ms" := by
  obtain ⟨verdict, -, hverdict⟩ := exists_of_forall₂ h.checked.flip hrow
  obtain ⟨measurements, hmeasurements, hknown, hmeasured⟩ := (checkRow_spec hverdict).reported
  obtain ⟨hrequired, hselected, hcpu, hlimits⟩ := hmeasured hcompleted
  obtain ⟨hselectedWithin, hcpuWithin⟩ := Bool.or_eq_false_iff.mp hlimits
  have hcpuWithin : exceeds (entry measurements "cpu_time_ms") (entry limits "cpu_time_ms") =
      false := hcpuWithin
  obtain ⟨hrequiredSpec, hallowedSpec⟩ := lists_eq h.lists
  have hnames : ∀ name ∈ Dict.keys measurements, .str name ∈ allowed := by
    intro name hname
    exact Json.str_isIn.mp (hknown name hname)
  have habove : ∀ name, ReportsAbove spec row name →
      exceeds (entry measurements name) (entry limits name) = true := by
    rintro name ⟨measurements', limits', hmeasurements', hlimits', habove⟩
    cases hmeasurements.symm.trans hmeasurements'
    cases h.bounds.symm.trans hlimits'
    exact habove
  refine ⟨?_, ?_⟩
  · intro hreports
    have hwall := habove "wall_time_ms" hreports
    rcases hbounds with hselection | hwallUnknown | hcpuUnknown | ⟨value, hvalue, htext⟩ | hempty
    · -- the selected measurement is the wall time
      have hselectedWithin : exceeds (selectedMeasurement
          (entry spec "selection_measurement_id") measurements) (entry limits "wall_time_ms") =
          false := hselectedWithin
      rw [hselection] at hselectedWithin
      exact absurd (hselectedWithin.symm.trans hwall) (by decide)
    · -- a row that may not report the wall time has none
      have hmissing : "wall_time_ms" ∉ Dict.keys measurements := by
        intro hname
        exact hwallUnknown (hallowedSpec ▸ hnames _ hname)
      rw [entry_of_notMem hmissing] at hwall
      cases hwall
    · -- a completed row must report the CPU time
      exact hcpuUnknown (hallowedSpec ▸ hnames _ (mem_keys_of_numeric (hcpu rfl)))
    · -- a completed row must report what has no name
      have hreported := hrequired value (hrequiredSpec ▸ hvalue)
      obtain ⟨other, hother, heq⟩ := List.any_eq_true.mp hreported
      obtain ⟨name, -, rfl⟩ := List.mem_map.mp hother
      rw [Json.pyEq_str_left.mp heq] at htext
      cases htext
    · -- an empty grid has no rows
      have hgrid : grid = [] := by
        rw [workGrid, h.reads] at hempty
        exact hempty
      have hcovered := (Json.itemsEq_iff.mp h.covered).length_eq
      rw [hgrid, List.length_map, List.map_nil, List.length_nil] at hcovered
      rw [List.length_eq_zero_iff.mp hcovered] at hrow
      cases hrow
  · intro hreports
    exact absurd (hcpuWithin.symm.trans (habove "cpu_time_ms" hreports)) (by decide)

/-- The eligible values are the values of the grid whose rows are completed. -/
theorem denote_eligible {rules : RowRules} {rows : List (List (String × Json))}
    {verdicts : List (Option Json)} {grid : List Int}
    (hchecked : List.Forall₂ (fun row verdict => checkRow rules row = .ok verdict) rows verdicts)
    (hcovered : Json.itemsEq (rows.map fun row => entry row "work_value") (grid.map .int) = true) :
    Denote (verdicts.filterMap id)
      (((grid.zip rows).filter fun pair => isCompleted pair.2).map Prod.fst) := by
  rw [Json.itemsEq_iff, List.forall₂_map_left_iff, List.forall₂_map_right_iff] at hcovered
  induction hchecked generalizing grid with
  | nil =>
    cases hcovered
    exact .nil
  | @cons row verdict rows verdicts hrow _ ih =>
    cases hcovered with
    | @cons _ number _ grid hnumber hrest =>
      have hverdict := (checkRow_spec hrow).verdict
      have hnumber := Json.pyEq_int.mp hnumber
      cases hcompleted : isCompleted row with
      | true =>
        rw [hcompleted, if_pos rfl] at hverdict
        rw [hverdict, List.filterMap_cons, List.zip_cons_cons,
          List.filter_cons_of_pos (by simpa using hcompleted)]
        exact .cons hnumber (ih hrest)
      | false =>
        rw [hcompleted, if_neg (by decide)] at hverdict
        rw [hverdict, List.filterMap_cons, List.zip_cons_cons,
          List.filter_cons_of_neg (by simpa using hcompleted)]
        exact ih hrest

/-- Passing rows are sound where the limits bind the wall time. -/
theorem PassingRows.sound {evidence spec limits : List (String × Json)} {grid : List Int}
    {required allowed forbidden : List Json} {rows : List (List (String × Json))}
    {verdicts : List (Option Json)}
    (h : PassingRows evidence spec limits grid required allowed forbidden rows verdicts)
    (hbounds : BoundsWallTime spec) : CalibrationSound spec evidence := by
  have hrows : evidenceRows evidence = rows := by rw [evidenceRows, h.mappings]
  have hgrid : workGrid spec = grid := by rw [workGrid, h.reads]
  constructor
  · intro row hrow
    rw [hrows] at hrow
    exact h.within hbounds hrow
  · intro row hrow hreports
    rw [hrows] at hrow
    by_contra hcompleted
    have hwithin := h.within hbounds hrow (by simpa using hcompleted)
    exact hreports.elim hwithin.1 hwithin.2
  · have hdenote := denote_eligible h.checked h.covered
    have hselected := h.selected
    rw [completedWork, hgrid, hrows]
    rcases pyMax_spec hdenote with ⟨hnone, hmax⟩ |
      ⟨value, -, greatest, hmem, hmax, hgreatest, hvalue⟩
    · rw [hmax, Option.getD_none] at hselected
      exact .inl ⟨hnone, Json.pyEq_null.mp hselected⟩
    · rw [hmax, Option.getD_some] at hselected
      exact .inr ⟨greatest, hmem, hgreatest, pyEq_number hvalue hselected⟩

end BattleBelief
