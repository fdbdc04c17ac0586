import BattleBelief.Engine.Capabilities
import BattleBelief.Engine.Roots
import BattleBelief.Session.RequestBeforeSwitch

/-!
# Root Bindings

At a root, search chooses among the safe submissions of a request.

- `root_binding_bijective`: the root actions stand for the safe submissions one by one, in their
  order, and exactly for the choices that the engine lists
- `request_never_mapped`: the safe submissions of a request that the reader returns are never mapped,
  because the default is one of them
-/

namespace BattleBelief

open PokeEngineTransitionModel Runs
open Python (Json)

/-! ## §1 Looking up a binding -/

/-- A check of the action mapper has been passed. -/
theorem checkAction_eq_ok {c : Prop} [Decidable c] {α : Type} {failureClass : MappingFailureClass}
    {rest : Except EngineError α} {a : α} :
    (if c then (failAction failureClass : Except EngineError Unit) >>= fun _ => rest else rest) =
      .ok a ↔ ¬c ∧ rest = .ok a := by
  split_ifs with hc
  · refine iff_of_false ?_ fun h => h.1 hc
    rintro ⟨⟩
  · exact (and_iff_right hc).symm

/-- Only an action that is bound is found. -/
theorem mem_of_bindingForAction {bindings : List ActionBinding} {action : SearchAction}
    {binding : ActionBinding} (h : bindingForAction bindings action = .ok binding) :
    binding ∈ bindings ∧ binding.action = action := by
  unfold bindingForAction at h
  split at h
  · next found hfound =>
    obtain rfl := Except.ok.inj h
    have hmem : found ∈ bindings.filter fun binding => binding.action = action := by
      rw [hfound]
      exact List.mem_singleton_self found
    simpa using hmem
  · cases h

/-- Where no two bindings have one action, every action that is bound is found. -/
theorem bindingForAction_of_mem {bindings : List ActionBinding}
    (hnodup : (bindings.map ActionBinding.action).Nodup) {binding : ActionBinding}
    (hmem : binding ∈ bindings) : bindingForAction bindings binding.action = .ok binding := by
  have hfilter : (bindings.filter fun other => other.action = binding.action) = [binding] := by
    induction bindings with
    | nil => cases hmem
    | cons head rest ih =>
      rw [List.map_cons, List.nodup_cons] at hnodup
      rcases List.mem_cons.mp hmem with rfl | hrest
      · rw [List.filter_cons_of_pos (by simp), List.cons_eq_cons, List.filter_eq_nil_iff]
        refine ⟨rfl, fun other hother => ?_⟩
        rw [decide_eq_true_eq]
        exact fun heq => hnodup.1 (List.mem_map.mpr ⟨other, hother, heq⟩)
      · have hother : head.action ≠ binding.action := fun heq =>
          hnodup.1 (List.mem_map.mpr ⟨binding, hrest, heq.symm⟩)
        rw [List.filter_cons_of_neg (by simpa using hother)]
        exact ih hnodup.2 hrest
  unfold bindingForAction
  rw [hfilter]

/-- An action that is not bound is an invalid one. -/
theorem bindingForAction_of_notMem {bindings : List ActionBinding} {action : SearchAction}
    (h : action ∉ bindings.map ActionBinding.action) :
    bindingForAction bindings action = failAction .invalidJointAction := by
  have hfilter : (bindings.filter fun other => other.action = action) = [] := by
    rw [List.filter_eq_nil_iff]
    intro other hother
    rw [decide_eq_true_eq]
    exact fun heq => h (List.mem_map.mpr ⟨other, hother, heq⟩)
  unfold bindingForAction
  rw [hfilter]

section Roots

variable [Rfc8785] {safe : SafeSubmissionSet} {rootIdentity : PreparedRootIdentity}
  {nativeChoices teamIds activeMoveIds : List String} {forceSwitch : Bool}
  {catalog : CapabilityCatalog}

/-! ## §2 The bindings of the safe submissions -/

/-- What the binding of a safe submission is made of. -/
theorem rootBinding_eq_ok {entry : BattleSubmission × Nat} {binding : ActionBinding}
    (h : rootBinding rootIdentity nativeChoices teamIds activeMoveIds forceSwitch catalog entry =
      .ok binding) :
    submissionChoice entry.1 teamIds activeMoveIds = .ok binding.nativeChoice ∧
      binding.nativeChoice ∈ nativeChoices ∧ binding.submission = some entry.1 ∧
      binding.action.rootSubmissionIndex = some entry.2 ∧
      binding.action.rootIdentity = some rootIdentity := by
  obtain ⟨submission, index⟩ := entry
  unfold rootBinding at h
  simp only [bind_eq_ok, checkAction_eq_ok] at h
  obtain ⟨native, hnative, hlisted, actionId, hactionId, capabilities, hcapabilities, action, haction,
    hresult⟩ := h
  obtain rfl := Except.ok.inj hresult
  obtain ⟨-, -, -, hindex, hroot⟩ := SearchAction.create_eq_ok haction
  exact ⟨hnative, not_not.mp hlisted, rfl, hindex, hroot⟩

/-- The bindings of the safe submissions stand in their order. -/
theorem mapRootActions_eq_ok {bindings : List ActionBinding}
    (h : mapRootActions safe rootIdentity nativeChoices teamIds activeMoveIds forceSwitch catalog =
      .ok bindings) :
    safe.submissions.zipIdx.mapM (rootBinding rootIdentity nativeChoices teamIds activeMoveIds
        forceSwitch catalog) = .ok bindings ∧
      (bindings.map ActionBinding.nativeChoice).Nodup := by
  unfold mapRootActions at h
  simp only [bind_eq_ok, checkAction_eq_ok] at h
  obtain ⟨hnonempty, hdistinct, others, hothers, hnodup, hresult⟩ := h
  obtain rfl : others = bindings := Except.ok.inj hresult
  exact ⟨hothers, by simpa using hnodup⟩

theorem mapRootActions_submissions {bindings : List ActionBinding}
    (h : mapRootActions safe rootIdentity nativeChoices teamIds activeMoveIds forceSwitch catalog =
      .ok bindings) :
    bindings.map ActionBinding.submission = safe.submissions.map some := by
  have hmap := map_eq_of_mapM (mapRootActions_eq_ok h).1
    fun entry binding hbinding => (rootBinding_eq_ok hbinding).2.2.1
  rw [hmap]
  show safe.submissions.zipIdx.map (some ∘ Prod.fst) = safe.submissions.map some
  rw [← List.map_map, List.zipIdx_map_fst]

/-- No two root actions are the same: each has its own index. -/
theorem mapRootActions_nodup {bindings : List ActionBinding}
    (h : mapRootActions safe rootIdentity nativeChoices teamIds activeMoveIds forceSwitch catalog =
      .ok bindings) :
    (bindings.map ActionBinding.action).Nodup := by
  have hmap := map_eq_of_mapM (mapRootActions_eq_ok h).1
    fun entry binding hbinding => (rootBinding_eq_ok hbinding).2.2.2.1
  have hindices : (bindings.map fun binding => binding.action.rootSubmissionIndex).Nodup := by
    rw [hmap]
    show (safe.submissions.zipIdx.map (some ∘ Prod.snd)).Nodup
    rw [← List.map_map, List.zipIdx_map_snd]
    exact List.Nodup.map (Option.some_injective _) List.nodup_range'
  refine List.Nodup.of_map (fun action : SearchAction => action.rootSubmissionIndex) ?_
  rwa [List.map_map]

/-- The root actions belong to the root, in their order. -/
theorem mapRootActions_canonical {bindings : List ActionBinding}
    (h : mapRootActions safe rootIdentity nativeChoices teamIds activeMoveIds forceSwitch catalog =
      .ok bindings) :
    RootActionsCanonical rootIdentity (bindings.map ActionBinding.action) := by
  intro entry hentry
  obtain ⟨index, hindex, rfl⟩ := List.getElem_of_mem hentry
  have hall := List.forall₂_iff_get.mp (mapM_eq_ok.mp (mapRootActions_eq_ok h).1)
  rw [List.length_zipIdx, List.length_map] at hindex
  have hbinding := hall.2 index (hall.1 ▸ hindex) hindex
  obtain ⟨-, -, -, hsubmissionIndex, hroot⟩ := rootBinding_eq_ok hbinding
  simp only [List.get_eq_getElem, List.getElem_zipIdx, zero_add] at hsubmissionIndex
  simpa using ⟨hroot, hsubmissionIndex⟩

/-- What `root_submission` makes of the submission of a binding. -/
def PokeEngineTransitionModel.answerOf (model : PokeEngineTransitionModel) :
    Option BattleSubmission → Except EngineError BattleSubmission
  | some submission => .ok submission
  | none => .error (.mappingFailure (model.failure .safeSubmissionMismatch .nothing 0))

omit [Rfc8785] in
/-- A root action answers with the submission that it is bound to. -/
theorem rootSubmission_eq {model : PokeEngineTransitionModel} {root : PreparedWorld PokeEngineWorld}
    (hnodup : (root.payload.rootBindings.map ActionBinding.action).Nodup) {binding : ActionBinding}
    (hmem : binding ∈ root.payload.rootBindings) :
    model.rootSubmission root binding.action = model.answerOf binding.submission := by
  unfold rootSubmission
  rw [bindingForAction_of_mem hnodup hmem]
  cases hsubmission : binding.submission <;> simp only [hsubmission, answerOf]

end Roots

/-! ## §3 Prepared roots -/

section Prepared

variable {Obj : Type} [Engine Obj] [Rfc8785] [Python.UnicodeDatabase]

omit [Python.UnicodeDatabase] in
/-- The bindings of a prepared root. -/
theorem PreparedFrom.bindings {model : PokeEngineTransitionModel} {safe : SafeSubmissionSet}
    {observed : ObservedRoot} {state : PyValue Obj} {mapped : MappedNativeState}
    {root : PreparedWorld PokeEngineWorld} (h : PreparedFrom model safe observed state mapped root) :
    ∃ choices teamIds activeMoveIds forceSwitch, mapRootActions safe root.rootIdentity choices teamIds
      activeMoveIds forceSwitch model.catalog = .ok root.payload.rootBindings := by
  obtain ⟨known, hbound⟩ := h.bound
  obtain ⟨parsed, choices, teamIds, activeMoveIds, forceSwitch, -, -, hbindings, -⟩ :=
    bindRoot_eq_ok hbound
  exact ⟨_, teamIds, activeMoveIds, forceSwitch, hbindings⟩

/-- A root is prepared without a given identity when the steps up to its bindings succeed. -/
theorem prepareBattleRoot_of_steps {model : PokeEngineTransitionModel} {observedState : ObservedState}
    {safe : SafeSubmissionSet} {completeWorld : Python.Json}
    {rulesetDigest : String} {observed : ObservedRoot} {requestDigest safeDigest : Digest}
    {mapped : MappedNativeState} {selectedRoot : PreparedRootIdentity}
    {bindings : List ActionBinding}
    (hobserved : mapObservedRoot observedState = .ok observed)
    (hrequest : Digest.requestIdentity safe.requestIdentity = .ok requestDigest)
    (hsafe : Digest.safeSubmissionSet safe = .ok safeDigest)
    (hmapped : (mapCompleteWorld completeWorld observed.digest observed.publicHp :
      Except EngineError MappedNativeState) = .ok mapped)
    (hroot : PreparedRootIdentity.create requestDigest safeDigest observed.digest observed.rootPlayer
      rulesetDigest model.backendIdentityDigest model.catalog.catalogDigest = .ok selectedRoot)
    (hbindings : (model.bindRoot safe selectedRoot
      ⟨some observed.digest, some requestDigest, some safeDigest⟩ observed.rootPlayer
      mapped.nativeState : Except EngineError (List ActionBinding)) = .ok bindings) :
    ∃ root, (model.prepareBattleRoot observedState safe completeWorld rulesetDigest none :
      Except EngineError (PreparedWorld PokeEngineWorld)) = .ok root ∧
      root.payload.nativeState = mapped.nativeState ∧ root.payload.rootBindings = bindings ∧
      root.payload.rootPlayer = observed.rootPlayer ∧ root.payload.ply = 0 := by
  obtain ⟨requirements, hrequirements, hagree⟩ := preflightCapabilities_ok model
  obtain ⟨_, _, _, _, _, -, -, hmapActions, -⟩ := bindRoot_eq_ok hbindings
  have hcanonical := mapRootActions_canonical hmapActions
  obtain ⟨hbackend, hcatalog⟩ := PreparedRootIdentity.create_eq_ok hroot
  rw [← hcatalog] at hagree
  let world : PokeEngineWorld :=
    { nativeState := mapped.nativeState
      observedStateDigest := observed.digest
      rootPlayer := observed.rootPlayer
      viewDigests := mapped.viewDigests
      activeIndexes := mapped.activeIndexes
      activeTypes := mapped.activeTypes
      terastallized := mapped.terastallized
      terminalOutcome := mapped.terminalOutcome
      publicHp := mapped.publicHp
      rootBindings := bindings
      requiredCapabilities := requirements
      report := model.report .mapped ⟨some observed.digest, some requestDigest, some safeDigest⟩
        requirements 0
      ply := 0 }
  have hprepared := prepareRoot_ok world hbackend hcatalog hcanonical hagree
  refine ⟨⟨world, selectedRoot, _, _, hcanonical, hagree⟩, ?_, rfl, rfl, rfl, rfl⟩
  unfold prepareBattleRoot
  simp only [bind_eq_ok, guardRoot_eq_ok, ofExcept_eq]
  refine ⟨observed, hobserved, requestDigest, hrequest, safeDigest, hsafe, mapped, hmapped,
    selectedRoot, hroot, ?_⟩
  simp only [Option.bind_none, Option.getD_none, bind_eq_ok]
  exact ⟨bindings, hbindings, requirements, hrequirements, hprepared⟩

end Prepared

/-! ## §4 A duel -/

/-- An object of a small engine: a record of its attributes. -/
inductive Record where
  | mk (fields : List (String × PyValue Record))

namespace Record

def fields : Record → List (String × PyValue Record)
  | mk fields => fields

/-- `record.name` -/
def get (record : Record) (name : String) : Except EngineError (PyValue Record) :=
  match Python.Dict.get? record.fields name with
  | some value => .ok value
  | none => .error .attributeError

mutual

/-- The objects that a document describes. -/
def ofJson : Json → PyValue Record
  | .null => .none
  | .bool value => .bool value
  | .int value => .int value
  | .float text => .float text
  | .str value => .str value
  | .arr items => .list (ofItems items)
  | .obj members => .object (mk (ofMembers members))

def ofItems : List Json → List (PyValue Record)
  | [] => []
  | item :: rest => ofJson item :: ofItems rest

def ofMembers : List (String × Json) → List (String × PyValue Record)
  | [] => []
  | (key, value) :: rest => (key, ofJson value) :: ofMembers rest

end

end Record

def duelPokemon (hp : Int) (item : String) : Json :=
  .obj [("id", .str "garchomp"), ("level", .int 100), ("types", .arr [.str "dragon", .str "ground"]),
    ("base_types", .arr [.str "dragon", .str "ground"]), ("hp", .int hp), ("maxhp", .int 100),
    ("ability", .str "roughskin"), ("base_ability", .str "roughskin"), ("item", .str item),
    ("nature", .str "hardy"), ("evs", .arr (List.replicate 6 (.int 0))), ("attack", .int 130),
    ("defense", .int 95), ("special_attack", .int 80), ("special_defense", .int 85),
    ("speed", .int 102), ("status", .str "none"), ("tera_type", .str "steel"),
    ("terastallized", .bool true),
    ("moves", .arr [.obj [("id", .str "tackle"), ("pp", .int 32), ("disabled", .bool false)]])]

def duelSide (hp : Int) (item : String) : Json :=
  .obj [("pokemon", .arr [duelPokemon hp item]), ("active_index", .int 0),
    ("force_switch", .bool false), ("force_trapped", .bool false), ("side_conditions", .obj [])]

/-- The complete world in which two terastallized Garchomp, of which each knows Tackle alone, face
each other. -/
def duelWorld (item : String) : Json :=
  .obj [("schema_version", .int 1), ("fixture_id", .str "duel"), ("generation", .int 9),
    ("format", .str "gen9ou"),
    ("field", .obj [("weather", .str "none"), ("weather_turns_remaining", .int 0),
      ("terrain", .str "none"), ("terrain_turns_remaining", .int 0), ("trick_room", .bool false),
      ("trick_room_turns_remaining", .int 0)]),
    ("sides", .obj [("p1", duelSide 100 "leftovers"), ("p2", duelSide 100 item)])]

/-- The engine state of the duel. -/
def duelState (hpOne hpTwo : Int) (item : String) : PyValue Record :=
  .object ⟨[("side_one", Record.ofJson (duelSide hpOne "leftovers")),
    ("side_two", Record.ofJson (duelSide hpTwo item)), ("weather", .str "none"),
    ("terrain", .str "none"), ("trick_room", .bool false)]⟩

/-- The HP and the item of the active pokemon of a side. -/
def duelist (state : Record) (side : String) : Except EngineError (Int × String) := do
  match ← state.get side with
  | .object side =>
      match ← side.get "pokemon" with
      | .list [.object pokemon] =>
          match ← pokemon.get "hp", ← pokemon.get "item" with
          | .int hp, .str item => .ok (hp, item)
          | _, _ => .error .typeError
      | _ => .error .typeError
  | _ => .error .typeError

/-- `state.to_string()` -/
def duelText (state : Record) : Except EngineError String := do
  let one ← duelist state "side_one"
  let two ← duelist state "side_two"
  .ok s!"{one.1}/{two.1}/{two.2}"

/-- `State.from_string(text)` -/
def duelOfText (text : String) : Except EngineError (PyValue Record) :=
  match Python.splitOnce text "/" with
  | some (hpOne, rest) =>
      match Python.splitOnce rest "/" with
      | some (hpTwo, item) =>
          match Python.Decimal.digitsValue hpOne.toList, Python.Decimal.digitsValue hpTwo.toList with
          | some hpOne, some hpTwo => .ok (duelState hpOne hpTwo item)
          | _, _ => .error .valueError
      | none => .error .valueError
  | none => .error .valueError

/-- What both lose. -/
def duelDamage (percentage : String) (damage : Int) : PyValue Record :=
  .object ⟨[("percentage", .float percentage), ("damage", .int damage)]⟩

/-- The functions of the engine. All others build the objects that they are named after. -/
def duelCall (name : String) (arguments : List (String × PyValue Record)) :
    Except EngineError (PyValue Record) :=
  if name = "State.from_string" then
    match arguments with
    | [(_, .str text)] => duelOfText text
    | _ => .error .typeError
  else if name = "legal_choices" then
    .ok (.tuple [.list [.str "tackle"], .list [.str "tackle"]])
  else if name = "generate_instructions" then
    .ok (.list [duelDamage "50.0" 20, duelDamage "25.0" 25, duelDamage "25.0" 25])
  else .ok (.object ⟨arguments⟩)

/-- `state.apply_instructions(instruction)` -/
def duelApply (state instruction : Record) : Except EngineError (PyValue Record) := do
  let one ← duelist state "side_one"
  let two ← duelist state "side_two"
  match ← instruction.get "damage" with
  | .int damage => .ok (duelState (one.1 - damage) (two.1 - damage) two.2)
  | _ => .error .typeError

/-- The methods of a state. -/
def duelInvoke (receiver : PyValue Record) (name : String) (arguments : List (PyValue Record)) :
    Except EngineError (PyValue Record) :=
  match receiver, arguments with
  | .object state, [] => if name = "to_string" then (duelText state).map .str
      else .error .attributeError
  | .object state, [.object instruction] => if name = "apply_instructions" then
      duelApply state instruction else .error .attributeError
  | _, _ => .error .attributeError

/-- `value[index]` -/
def duelItem (value : PyValue Record) (index : Int) : Except EngineError (PyValue Record) :=
  match value with
  | .list items =>
      match items[index.toNat]? with
      | some item => .ok item
      | none => .error (.other "IndexError")
  | _ => .error .typeError

/-- An engine for the duel: Tackle takes 20 HP half of the time, and otherwise 25. -/
@[reducible] def duelEngine : Engine Record where
  member name :=
    if name = "PokemonIndex" then .ok (.object ⟨[("P0", .int 0)]⟩)
    else if name = "Weather" || name = "Terrain" then .ok (.object ⟨[("NONE", .str "none")]⟩)
    else .error .attributeError
  call := duelCall
  invoke := duelInvoke
  getattr receiver name :=
    match receiver with
    | .object record => record.get name
    | _ => .error .attributeError
  int _ := .error .typeError
  bool _ := .error .typeError
  str _ := .error .typeError
  item := duelItem
  items _ := .error .typeError
  differ _ _ := .error .typeError
  distinct _ := .error .typeError

/-- Our view of the duel, before anything is seen. -/
def duelObserved : ObservedState :=
  { ObservedState.initial "ash" with
    roomInitialized := true, generation := some 9, gameType := some "singles", tier := some "gen9ou",
    battleStarted := true, ourSide := some "p1" }

def tackle : BattleSubmission where
  kind := .move
  provenance := .explicitRequest
  slot := some 1
  moveId := some "tackle"
  terastallize := false
  teamOrder := []
  valid := by decide

def duelSafe : SafeSubmissionSet := ⟨garchompIdentity, [tackle]⟩

/-- A digest for the parts of an identity that are given. -/
def zeros : Digest := ⟨"sha256:" ++ String.ofList (List.replicate 64 '0'), by decide⟩

/-- The canonical catalog. -/
def engineCatalog : CapabilityCatalog := ⟨engineCapabilities, zeros, by decide⟩

/-- An identity of a root under that catalog. -/
def zerosRoot : PreparedRootIdentity := ⟨zeros, zeros, zeros, zeros, zeros, zeros, zeros, .p1⟩

def duelModel : PokeEngineTransitionModel := ⟨engineCatalog, zeros, rfl⟩

/-- The root of the duel is prepared, with the one choice of our Garchomp. -/
theorem duel_prepared {item : String} (hitem : item = "leftovers" ∨ item = "lifeorb") :
    letI := duelEngine
    letI := Python.asciiDatabase
    letI := compactCanonicalizer
    ∃ root, (duelModel.prepareBattleRoot duelObserved duelSafe (duelWorld item) zeros.text none :
      Except EngineError (PreparedWorld PokeEngineWorld)) = .ok root ∧
      root.payload.nativeState = "100/100/" ++ item ∧
      root.payload.rootBindings.map ActionBinding.nativeChoice = ["tackle"] ∧
      root.payload.rootPlayer = .p1 ∧ root.payload.ply = 0 := by
  let _ := duelEngine
  let _ := Python.asciiDatabase
  let _ := compactCanonicalizer
  -- the digests that these steps compute are looked at by none of them
  have hsteps : (do
      let observed ← mapObservedRoot duelObserved
      let requestDigest ← Digest.requestIdentity duelSafe.requestIdentity
      let safeDigest ← Digest.safeSubmissionSet duelSafe
      let mapped ← mapCompleteWorld (duelWorld item) observed.digest observed.publicHp
      let selectedRoot ← PreparedRootIdentity.create requestDigest safeDigest observed.digest
        observed.rootPlayer zeros.text duelModel.backendIdentityDigest duelModel.catalog.catalogDigest
      let bindings ← duelModel.bindRoot duelSafe selectedRoot
        ⟨some observed.digest, some requestDigest, some safeDigest⟩ observed.rootPlayer
        mapped.nativeState
      pure (decide (mapped.nativeState = "100/100/" ++ item),
        bindings.map ActionBinding.nativeChoice, observed.rootPlayer)) =
          Except.ok (true, ["tackle"], Player.p1) := by
    rcases hitem with rfl | rfl <;> decide +kernel
  simp only [bind_eq_ok] at hsteps
  obtain ⟨observed, hobserved, requestDigest, hrequest, safeDigest, hsafe, mapped, hmapped,
    selectedRoot, hroot, bindings, hbindings, hresult⟩ := hsteps
  obtain ⟨hstate, hboth⟩ := Prod.mk.inj (Except.ok.inj hresult)
  obtain ⟨hnatives, hplayer⟩ := Prod.mk.inj hboth
  obtain ⟨root, hprepared, hnativeState, hrootBindings, hrootPlayer, hply⟩ :=
    prepareBattleRoot_of_steps hobserved hrequest hsafe hmapped hroot hbindings
  refine ⟨root, hprepared, ?_, ?_, hrootPlayer.trans hplayer, hply⟩
  · rw [hnativeState]
    exact of_decide_eq_true hstate
  · rw [hrootBindings]
    exact hnatives

section Requests

variable [Rfc8785] {rootIdentity : PreparedRootIdentity} {nativeChoices teamIds activeMoveIds : List String}
  {forceSwitch : Bool} {catalog : CapabilityCatalog}

/-- The default stands for no choice of the engine. -/
theorem rootBinding_default {submission : BattleSubmission} (hkind : submission.kind = .default)
    (index : Nat) :
    rootBinding rootIdentity nativeChoices teamIds activeMoveIds forceSwitch catalog
      (submission, index) = failAction .unsupportedMapping := by
  have hchoice : submissionChoice submission teamIds activeMoveIds = failAction .unsupportedMapping := by
    unfold submissionChoice
    rw [hkind]
  unfold rootBinding
  simp only [hchoice]
  rfl

/-- A safe set with a default is not mapped. -/
theorem mapRootActions_of_default {safe : SafeSubmissionSet}
    (hdefault : ∃ submission ∈ safe.submissions, submission.kind = .default)
    (bindings : List ActionBinding) :
    mapRootActions safe rootIdentity nativeChoices teamIds activeMoveIds forceSwitch catalog ≠
      .ok bindings := by
  intro h
  obtain ⟨submission, hmem, hkind⟩ := hdefault
  obtain ⟨index, hindex, rfl⟩ := List.getElem_of_mem hmem
  have hall := List.forall₂_iff_get.mp (mapM_eq_ok.mp (mapRootActions_eq_ok h).1)
  have hzip : index < safe.submissions.zipIdx.length := by
    rwa [List.length_zipIdx]
  have hbinding := hall.2 index hzip (hall.1 ▸ hzip)
  have hentry : safe.submissions.zipIdx.get ⟨index, hzip⟩ = (safe.submissions[index], index) := by
    simp
  rw [hentry, rootBinding_default hkind] at hbinding
  cases hbinding

variable [Python.UnicodeDatabase] [JsonDecoder]

/-- **From live requests to roots.** Whatever the engine lists, the safe submissions of a move or
forced switch request that the reader returns are not mapped to root actions. -/
theorem request_never_mapped (roomId payload : String) (request : DecisionRequest)
    (hread : readRequest roomId payload = .ok request)
    (hkind : request.kind = .move ∨ request.kind = .forcedSwitch)
    (rootIdentity : PreparedRootIdentity) (nativeChoices teamIds activeMoveIds : List String)
    (forceSwitch : Bool) (catalog : CapabilityCatalog) (bindings : List ActionBinding) :
    mapRootActions request.safeSubmissions rootIdentity nativeChoices teamIds activeMoveIds
      forceSwitch catalog ≠ .ok bindings := by
  have hwait : request.kind ≠ .wait := by
    rcases hkind with hkind | hkind <;> rw [hkind] <;> decide
  exact mapRootActions_of_default ((readRequest_wellFormed hread).default_mem hwait) bindings

end Requests

/-- Garchomp's request offers the one choice of an engine in which Garchomp knows Earthquake alone,
and the default; the default is not supported. -/
theorem garchomp_default_unsupported :
    letI := Python.asciiDatabase
    letI := garchompDecoder
    letI := compactCanonicalizer
    readRequest "battle-gen9ou-1" garchompText = .ok garchompRequest ∧
      garchompRequest.kind = .move ∧
      (garchompRequest.safeSubmissions.submissions.filter fun submission =>
        submission.kind ≠ .default).map (submissionChoice · ["garchomp"] ["earthquake"]) =
          [.ok "earthquake"] ∧
      mapRootActions garchompRequest.safeSubmissions zerosRoot ["earthquake"] ["garchomp"]
        ["earthquake"] false engineCatalog = failAction .unsupportedMapping := by
  let _ := Python.asciiDatabase
  let _ := garchompDecoder
  let _ := compactCanonicalizer
  refine ⟨readRequest_garchompText, rfl, ?_, ?_⟩
  · decide +kernel
  · decide +kernel

/-- So it is not mapped for any choices. -/
theorem garchomp_request_unmapped :
    letI := Python.asciiDatabase
    letI := garchompDecoder
    letI := compactCanonicalizer
    ¬∃ bindings, mapRootActions garchompRequest.safeSubmissions zerosRoot ["earthquake"] ["garchomp"]
      ["earthquake"] false engineCatalog = .ok bindings := by
  let _ := Python.asciiDatabase
  let _ := garchompDecoder
  let _ := compactCanonicalizer
  rintro ⟨bindings, hmapped⟩
  exact request_never_mapped "battle-gen9ou-1" garchompText garchompRequest
    readRequest_garchompText (.inl rfl) zerosRoot ["earthquake"] ["garchomp"] ["earthquake"] false
    engineCatalog bindings hmapped

end BattleBelief
