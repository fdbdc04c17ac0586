import BattleBelief.Canonicalization
import BattleBelief.Library.PythonEquality
import BattleBelief.Library.Runs

/-!
# Calibration

The validators of calibration specifications and of the evidence that was measured under them. A
specification fixes a grid of work values, the measurements that a row may and must report, one of
them for the selection, and the limits; the evidence has one row for each value of the grid.
-/

namespace BattleBelief

open Python (Dict.keys Json Number)
open Python.Json (pyEq isIn hashable number?)
open Runs

/-! ## §1 Values -/

/-- What the registration validators raise. -/
inductive RegistrationError where
  /-- `RegistrationValidationError` -/
  | validation (text : String)
  /-- A value without a hash, or without an order -/
  | typeError
  | raised (err : PyException)

def invalid {α : Type} (text : String) : Except RegistrationError α := .error (.validation text)

/-- `raise RegistrationValidationError(text)`, where something holds. -/
def rejectIf (c : Prop) [Decidable c] (text : String) : Except RegistrationError Unit :=
  refuseIf c (.validation text)

/-- A check that is made only where something holds. -/
def checkWhen (c : Bool) (check : Except RegistrationError Unit) : Except RegistrationError Unit :=
  if c then check else .ok ()

@[simp] theorem rejectIf_eq_ok {c : Prop} [Decidable c] {text : String} {u : Unit} :
    rejectIf c text = .ok u ↔ ¬c :=
  refuseIf_eq_ok

@[simp] theorem checkWhen_eq_ok {c : Bool} {check : Except RegistrationError Unit} {u : Unit} :
    checkWhen c check = .ok u ↔ (c = true → check = .ok ()) := by
  cases c with
  | true => simp [checkWhen]
  | false => simp [checkWhen]

/-- `document.get(key)`. -/
def entry (document : List (String × Json)) (key : String) : Json :=
  (Json.get? document key).getD .null

/-- `isinstance(value, (int, float)) and not isinstance(value, bool)` -/
def isNumeric : Json → Bool
  | .int _ | .float _ => true
  | _ => false

/-- `first > second`, of two numbers. -/
def exceeds (first second : Json) : Bool :=
  match number? first, number? second with
  | some first, some second => second.lt first
  | _, _ => false

/-- `_DIGEST_RE.fullmatch(str(value))`: the text of no other value is a digest. -/
def isDigestText : Json → Bool
  | .str text => isDigest text
  | _ => false

/-- `value in {...}`, of a set of numbers. -/
def inNumbers (value : Json) (numbers : List Int) : Except RegistrationError Bool :=
  if !hashable value then .error .typeError
  else pure (numbers.any fun number => pyEq value (.int number))

/-- `set(values)`, for its effect. -/
def requireHashable (values : List Json) : Except RegistrationError Unit :=
  refuseIf (!values.all hashable) .typeError

section Digests

variable [Rfc8785]

/-- `manifest_digest(dict(document))`. -/
def documentDigest (document : List (String × Json)) : Except RegistrationError String :=
  (manifestDigest (.obj document)).mapError .raised

end Digests

/-! ## §2 Placeholders -/

/-- What `str.casefold` makes of one character, as far as whole ASCII text goes. -/
def casefoldChar (c : Char) : List Char :=
  if c.toNat = 0xdf || c.toNat = 0x1e9e then ['s', 's']
  else if c.toNat = 0x17f then ['s']
  else if c.toNat = 0xfb00 then ['f', 'f']
  else if c.toNat = 0xfb01 then ['f', 'i']
  else if c.toNat = 0xfb02 then ['f', 'l']
  else if c.toNat = 0xfb03 then ['f', 'f', 'i']
  else if c.toNat = 0xfb04 then ['f', 'f', 'l']
  else if c.toNat = 0xfb05 || c.toNat = 0xfb06 then ['s', 't']
  else Python.lowerChar c

/-- `str.casefold`. -/
def casefold (text : String) : String := String.ofList (text.toList.flatMap casefoldChar)

def placeholders : List String := ["todo", "tbd", "fixme", "placeholder"]

section Database

variable [Python.UnicodeDatabase]

def isPlaceholder (text : String) : Bool := casefold (Python.strip text) ∈ placeholders

mutual

/-- `_reject_placeholders`. -/
def rejectPlaceholders (path : String) : Json → Except RegistrationError Unit
  | .str text => rejectIf (isPlaceholder text) s!"placeholder value at {path}"
  | .obj members => rejectInMembers path members
  | .arr items => rejectInItems path 0 items
  | _ => .ok ()

def rejectInMembers (path : String) : List (String × Json) → Except RegistrationError Unit
  | [] => .ok ()
  | (key, child) :: rest => do
      rejectPlaceholders s!"{path}.{key}" child
      rejectInMembers path rest

def rejectInItems (path : String) (index : Nat) : List Json → Except RegistrationError Unit
  | [] => .ok ()
  | child :: rest => do
      rejectPlaceholders s!"{path}[{index}]" child
      rejectInItems path (index + 1) rest

end

/-- `str(value)` -/
def pyStr : Json → String
  | .str text => text
  | value => Json.repr value

/-! ## §3 Specifications -/

/-- `(limits["wall_time_ms"], limits["cpu_time_ms"])`, with both 2000. -/
def boundByLimits (limits : Json) : Bool :=
  match limits with
  | .obj limits =>
      pyEq (entry limits "wall_time_ms") (.int 2000) &&
        pyEq (entry limits "cpu_time_ms") (.int 2000)
  | _ => false

/-- The checks of a specification of version 3 or 4. -/
def validateRuntimeRules (spec : List (String × Json)) : Except RegistrationError Unit := do
  rejectIf (!pyEq (entry spec "calibrated_parameter") (.str "per_world_work"))
    "calibration parameter must be per_world_work"
  rejectIf (!pyEq (entry spec "world_sampling_count") (.int 16))
    "calibration world count must be 16"
  rejectIf (!pyEq (entry spec "total_work_formula")
      (.str "world_sampling_count_times_per_world_work"))
    "calibration total-work formula is invalid"
  let expectedRule := if pyEq (entry spec "schema_version") (.int 4)
    then "m15-synthetic-calibration-state-v2" else "m15-synthetic-calibration-state-v1"
  rejectIf (!pyEq (entry spec "calibration_state_rule_id") (.str expectedRule))
    "unknown calibration state construction rule"
  rejectIf (!boundByLimits (entry spec "runtime_limits_ms"))
    "M1.5 calibration wall and CPU limits must be 2000 ms"
  rejectIf (!isDigestText (entry spec "calibration_state_manifest_digest"))
    "calibration state manifest digest is invalid"

/-- The checks of the reference environment of version 4. -/
def validateReferenceEnvironment (reference : Json) : Except RegistrationError Unit :=
  match reference with
  | .obj members => do
      rejectIf (!Python.Dict.sameSet (Dict.keys members) ["python", "platform", "runtime_profile"])
        "calibration reference environment is not fully specified"
      rejectIf (!pyEq (entry members "runtime_profile") (.str "offline_m15_calibration"))
        "calibration reference runtime profile is invalid"
  | _ => invalid "calibration reference environment is not fully specified"

/-- `[value]`, of an integer that is no boolean. -/
def gridValue : Json → Except RegistrationError Int
  | .int value => .ok value
  | _ => invalid "calibration work grid must contain integers"

/-- `ordered_work_grid`, as integers. -/
def readGrid (grid : Json) : Except RegistrationError (List Int) :=
  match grid with
  | .arr items => items.mapM gridValue
  | _ => invalid "calibration work grid must contain integers"

/-- The lists of measurements that a specification has. -/
def measurementLists (spec : List (String × Json)) :
    Except RegistrationError (List Json × List Json × List Json) :=
  match entry spec "required_measurement_ids", entry spec "allowed_runtime_measurements",
    entry spec "forbidden_quality_measurements" with
  | .arr required, .arr allowed, .arr forbidden => .ok (required, allowed, forbidden)
  | _, _, _ => invalid "calibration measurement lists are invalid"

/-- `validate_calibration_spec`. -/
def validateCalibrationSpec (spec : List (String × Json)) : Except RegistrationError Unit := do
  rejectPlaceholders "$" (.obj spec)
  rejectIf (!pyEq (entry spec "budget_mode") (.str "calibrated_grid"))
    "calibration budget mode is unsupported; only calibrated_grid is implemented"
  rejectIf (!pyEq (entry spec "selection_rule_id") (.str "largest-value-under-runtime-limit-v1"))
    ("unknown selection_rule_id: " ++ pyStr (entry spec "selection_rule_id"))
  let boundsRuntime ← inNumbers (entry spec "schema_version") [3, 4]
  checkWhen boundsRuntime (validateRuntimeRules spec)
  checkWhen (pyEq (entry spec "schema_version") (.int 4))
    (validateReferenceEnvironment (entry spec "reference_environment_specification"))
  let grid ← readGrid (entry spec "ordered_work_grid")
  rejectIf (∃ pair ∈ grid.zip grid.tail, pair.2 ≤ pair.1)
    "calibration work grid must be strictly increasing"
  let (required, allowed, forbidden) ← measurementLists spec
  rejectIf (!isIn (entry spec "selection_measurement_id") required)
    "selection_measurement_id is not required"
  requireHashable required
  requireHashable allowed
  rejectIf (∃ value ∈ required, isIn value allowed = false)
    "required calibration measurements are not allowed"
  requireHashable forbidden
  rejectIf (∃ value ∈ allowed, isIn value forbidden = true)
    "runtime and quality measurement sets overlap"

/-! ## §4 Environments -/

variable [Rfc8785]

/-- `validate_calibration_environment_manifest`. -/
def validateCalibrationEnvironment (manifest : List (String × Json)) :
    Except RegistrationError Unit :=
  match entry manifest "runtime_environment" with
  | .obj environment => do
      let digest ← documentDigest environment
      rejectIf (!pyEq (entry manifest "runtime_environment_digest") (.str digest))
        "calibration runtime environment digest mismatch"
      checkWhen (pyEq (entry manifest "schema_version") (.int 2)) do
        rejectIf (!isDigestText (entry manifest "implementation_binding_digest"))
          "calibration environment implementation binding digest is invalid"
        rejectIf (!pyEq (entry environment "runtime_profile") (.str "offline_m15_calibration"))
          "calibration runtime profile is invalid"
      rejectIf (!isDigestText (entry manifest "runtime_digest"))
        "calibration runtime digest is invalid"
  | _ => invalid "calibration runtime environment is invalid"

/-- The environment has what the specification refers to. -/
def matchReference (reference actual : Json) : Except RegistrationError Unit :=
  match reference, actual with
  | .obj reference, .obj actual =>
      reference.forM fun item =>
        rejectIf (!pyEq (entry actual item.1) item.2)
          s!"calibration reference environment mismatch: {item.1}"
  | _, _ => invalid "calibration reference environment is invalid"

/-- The environment names the binding, and its runtime is the binding's. -/
def matchBinding (manifest binding : List (String × Json)) : Except RegistrationError Unit := do
  let digest ← documentDigest binding
  rejectIf (!pyEq (entry manifest "implementation_binding_digest") (.str digest))
    "calibration environment implementation binding mismatch"
  rejectIf (!pyEq (entry manifest "runtime_digest") (entry binding "runtime_digest"))
    "calibration environment runtime digest mismatch"

/-- The checks of an environment manifest, once the evidence names it. -/
def validateEnvironment (spec manifest : List (String × Json))
    (binding : Option (List (String × Json))) : Except RegistrationError Unit := do
  validateCalibrationEnvironment manifest
  matchReference (entry spec "reference_environment_specification")
    (entry manifest "runtime_environment")
  match binding with
  | some binding => matchBinding manifest binding
  | none => pure ()

/-! ## §5 Evidence -/

/-- What the rows of the evidence are checked against. -/
structure RowRules where
  required : List Json
  allowed : List Json
  forbidden : List Json
  selection : Json
  wallLimit : Json
  cpuLimit : Json
  /-- The schema version is 3 or 4 -/
  measuresCpu : Bool

/-- `measurements.get(selection_id)`: every key is a text. -/
def selectedMeasurement (selection : Json) (measurements : List (String × Json)) : Json :=
  match selection with
  | .str name => entry measurements name
  | _ => .null

/-- The row is measured above a limit. -/
def readOverLimit (rules : RowRules) (measurements : List (String × Json)) :
    Except RegistrationError Bool := do
  let selected := selectedMeasurement rules.selection measurements
  rejectIf (!isNumeric selected) "selection measurement is not numeric"
  let cpuTime := entry measurements "cpu_time_ms"
  checkWhen rules.measuresCpu (rejectIf (!isNumeric cpuTime) "CPU measurement is not numeric")
  pure (exceeds selected rules.wallLimit ||
    (rules.measuresCpu && exceeds cpuTime rules.cpuLimit))

/-- `status` -/
inductive RowStatus where
  | completed
  | overLimit
  | failed
  | unsupported
  deriving DecidableEq

/-- The status of a row, by its tests for membership. -/
def readStatus (status : Json) : Except RegistrationError RowStatus :=
  if !hashable status then .error .typeError
  else if pyEq status (.str "completed") then .ok .completed
  else if pyEq status (.str "over_limit") then .ok .overLimit
  else if pyEq status (.str "failed") then .ok .failed
  else if pyEq status (.str "unsupported") then .ok .unsupported
  else invalid "unknown calibration row status"

/-- `isinstance(value, str)` -/
def isText : Json → Bool
  | .str _ => true
  | _ => false

/-- A row that was measured: its work value, where it was completed. -/
def checkMeasured (rules : RowRules) (row measurements : List (String × Json)) (completed : Bool) :
    Except RegistrationError (Option Json) := do
  rejectIf (∃ value ∈ rules.required, isIn value ((Dict.keys measurements).map .str) = false)
    "calibration row lacks required measurements"
  let overLimit ← readOverLimit rules measurements
  rejectIf (completed = true ∧ overLimit = true) "completed calibration row is over_limit"
  rejectIf (completed = false ∧ overLimit = false)
    "over_limit calibration row is below runtime limit"
  pure (if completed then some (entry row "work_value") else none)

/-- A row without measurements. -/
def checkUnmeasured (row measurements : List (String × Json)) :
    Except RegistrationError (Option Json) := do
  rejectIf (!measurements.isEmpty || !isText (entry row "error_class"))
    "failed calibration row has inconsistent evidence"
  pure none

/-- One round of the loop over the rows: the work value that becomes eligible. -/
def checkRow (rules : RowRules) (row : List (String × Json)) :
    Except RegistrationError (Option Json) :=
  match entry row "measurements" with
  | .obj measurements => do
      rejectIf (∃ name ∈ Dict.keys measurements, isIn (.str name) rules.allowed = false)
        "calibration has an unknown runtime measurement"
      rejectIf (∃ name ∈ Dict.keys measurements, isIn (.str name) rules.forbidden = true)
        "calibration contains a forbidden quality measurement"
      match ← readStatus (entry row "status") with
      | .completed => checkMeasured rules row measurements true
      | .overLimit => checkMeasured rules row measurements false
      | .failed | .unsupported => checkUnmeasured row measurements
  | _ => invalid "calibration measurements must be an object"

/-- `max(values)`: the first of the greatest. -/
def pyMax : List Json → Option Json
  | [] => none
  | value :: rest =>
      some (rest.foldl (fun best other => if exceeds other best then other else best) value)

def readRow : Json → Except RegistrationError (List (String × Json))
  | .obj row => .ok row
  | _ => invalid "calibration measurement rows are invalid"

/-- The rows of the evidence, as mappings. -/
def readRows (rows : Json) : Except RegistrationError (List (List (String × Json))) :=
  match rows with
  | .arr items => items.mapM readRow
  | _ => invalid "calibration measurements are invalid"

/-- The limits for the selected measurement and for the CPU time. -/
def readLimits (spec : List (String × Json)) (measuresCpu : Bool) :
    Except RegistrationError (Json × Json) :=
  if measuresCpu then
    match entry spec "runtime_limits_ms" with
    | .obj limits => .ok (entry limits "wall_time_ms", entry limits "cpu_time_ms")
    | _ => invalid "calibration runtime limits are invalid"
  else .ok (entry spec "runtime_limit_ms", entry spec "runtime_limit_ms")

/-- The evidence names its specification, its state and its environment. -/
def checkIdentities (evidence spec : List (String × Json))
    (environment binding : Option (List (String × Json))) : Except RegistrationError Unit := do
  let digest ← documentDigest spec
  rejectIf (!pyEq (entry evidence "calibration_spec_digest") (.str digest))
    "calibration specification digest mismatch"
  rejectIf (!pyEq (entry evidence "actual_calibration_state_digest")
      (entry spec "calibration_state_manifest_digest"))
    "calibration state manifest digest mismatch"
  match environment with
  | some manifest => do
      let digest ← documentDigest manifest
      rejectIf (!pyEq (entry evidence "actual_environment_digest") (.str digest))
        "calibration environment digest mismatch"
      validateEnvironment spec manifest binding
  | none => pure ()

/-- The rows cover the grid, and the greatest completed value is selected. -/
def checkRows (evidence spec : List (String × Json)) (measuresCpu : Bool) :
    Except RegistrationError Unit := do
  let (wallLimit, cpuLimit) ← readLimits spec measuresCpu
  let grid ← readGrid (entry spec "ordered_work_grid")
  let rows ← readRows (entry evidence "runtime_measurements")
  rejectIf (Json.itemsEq (rows.map fun row => entry row "work_value") (grid.map .int) = false)
    "calibration measurements do not cover the work grid"
  let (required, allowed, forbidden) ← measurementLists spec
  rejectIf (!isNumeric wallLimit || !isNumeric cpuLimit) "calibration runtime limits are invalid"
  let rules := { required, allowed, forbidden, selection := entry spec "selection_measurement_id",
                 wallLimit, cpuLimit, measuresCpu }
  let verdicts ← rows.mapM (checkRow rules)
  let expected := (pyMax (verdicts.filterMap id)).getD .null
  rejectIf (!pyEq (entry evidence "selected_work_value") expected)
    "selected calibration work value is not reproducible"

/-- `validate_calibration_evidence`. -/
def validateCalibrationEvidence (evidence spec : List (String × Json))
    (environment binding : Option (List (String × Json))) : Except RegistrationError Unit := do
  validateCalibrationSpec spec
  checkWhen (pyEq (entry spec "schema_version") (.int 4)) do
    rejectIf (environment.isNone = true) "calibration environment manifest is required"
    rejectIf (binding.isNone = true) "calibration implementation binding is required"
  let measuresCpu ← inNumbers (entry spec "schema_version") [3, 4]
  checkWhen measuresCpu (checkIdentities evidence spec environment binding)
  rejectIf (!pyEq (entry evidence "measurement_profile_id") (entry spec "measurement_profile_id"))
    "calibration measurement_profile_id mismatch"
  rejectIf (!pyEq (entry evidence "selection_measurement_id")
      (entry spec "selection_measurement_id"))
    "calibration selection_measurement_id mismatch"
  checkWhen measuresCpu (rejectIf
    (!pyEq (entry evidence "runtime_limits_ms") (entry spec "runtime_limits_ms"))
    "calibration runtime limits mismatch")
  checkWhen (!measuresCpu) (rejectIf
    (!pyEq (entry evidence "runtime_limit_ms") (entry spec "runtime_limit_ms"))
    "calibration runtime_limit_ms mismatch")
  checkRows evidence spec measuresCpu

end Database

end BattleBelief
