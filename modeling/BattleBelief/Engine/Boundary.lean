import BattleBelief.Engine.RootBinding
import BattleBelief.Engine.TransitionFaults

/-!
# The Boundary of the Engine

The port promises that its methods return or raise a mapping failure, whatever the engine does. An
engine is an environment here: each interaction with it may give any answer and raise any exception.

- `FailsClosed`: a method keeps the promise in a run
- `Site.Contains`: the exceptions that the handlers around a place of the code turn into failures
- `fails_closed_iff`: a run keeps the promise exactly if the code contains all exceptions of the run.
  Deep actions read their side outside of all handlers that would
-/

namespace BattleBelief

open Effects Outcomes PokeEngineTransitionModel

/-! ## §1 Exceptions -/

/-- The text is the value of a failure class. -/
def MappingFailureClass.IsValue (text : String) : Prop :=
  (MappingFailureClass.ofValue text).isSome = true

@[simp] theorem MappingFailureClass.isValue_value (failureClass : MappingFailureClass) :
    MappingFailureClass.IsValue failureClass.value := by
  rw [IsValue, ofValue_value]
  rfl

/-- Not a state mapping error, or one with a failure class. -/
def EngineError.IsStateFault : EngineError → Prop
  | .stateMappingError text => MappingFailureClass.IsValue text
  | _ => True

/-- A mapping failure with these work units. -/
def EngineError.IsFailure (workUnits : Nat) : EngineError → Prop
  | .mappingFailure fault => fault.workUnits = workUnits
  | _ => False

/-- What the handlers around a method's body make a mapping failure with these work units of. -/
def EngineError.IsFault (workUnits : Nat) : EngineError → Prop
  | .mappingFailure fault => fault.workUnits = workUnits
  | .stateMappingError text => MappingFailureClass.IsValue text
  | .actionMappingError text => MappingFailureClass.IsValue text
  | _ => True

/-- The exceptions raised to a place of the code that the handlers around it contain, where `joint`
says that the handlers of `transition` are among them. -/
def Site.Contains (joint : Bool) : Site → EngineError → Prop
  | .guarded, _ => True
  | .nativeState, error | .completeWorld, error => error.IsStateFault
  | .preparedRoot, error => error.IsFault 0
  -- the side of deep actions is read outside the handler of `_deep_bindings`
  | .deepSide, .mappingFailure fault => fault.workUnits = 0
  | .deepSide, .actionMappingError _ => joint = true
  | .deepSide, _ => False
  -- and that handler catches one class only
  | .forceSwitch, .mappingFailure fault => fault.workUnits = 0
  | .forceSwitch, .actionMappingError text => MappingFailureClass.IsValue text
  | .forceSwitch, _ => False
  | .generateInstructions, .mappingFailure fault => fault.workUnits = 1
  | .generateInstructions, _ => True
  | .percentage, error => error.IsFault 1

/-- All of the exceptions are contained. -/
def AllContained (joint : Bool) (raised : List Incident) : Prop :=
  ∀ entry ∈ raised, entry.site.Contains joint entry.error

theorem AllContained.nil (joint : Bool) : AllContained joint [] :=
  fun _ h => by cases h

theorem allContained_append {joint : Bool} {first second : List Incident} :
    AllContained joint (first ++ second) ↔ AllContained joint first ∧ AllContained joint second :=
  List.forall_mem_append

theorem allContained_incidents {joint : Bool} {site : Site} {α : Type} {answer : Except EngineError α} :
    AllContained joint (incidents site answer) ↔
      ∀ error, answer = .error error → site.Contains joint error := by
  cases answer with
  | ok a => exact ⟨fun _ _ h => (by cases h), fun _ => AllContained.nil joint⟩
  | error error =>
    constructor
    · intro h _ heq
      obtain rfl := Except.error.inj heq
      exact h ⟨site, error⟩ List.mem_cons_self
    · intro h entry hentry
      obtain rfl := List.mem_singleton.mp hentry
      exact h error rfl

/-! ## §2 Runs -/

section Runs

variable {World α β : Type} {x : Interacting World α} {f : α → Interacting World β}
  {before after : Surroundings World} {a : α} {error : EngineError}

theorem bind_of_ok (h : x before = (.ok a, after)) : (x >>= f) before = f a after := by
  simp only [bind, ExceptT.bind, ExceptT.mk, StateT.bind, h]
  rfl

theorem bind_of_error (h : x before = (.error error, after)) :
    (x >>= f) before = (.error error, after) := by
  simp only [bind, ExceptT.bind, ExceptT.mk, StateT.bind, h]
  rfl

variable {handler : EngineError → Interacting World α}

theorem tryCatch_of_ok (h : x before = (.ok a, after)) :
    (tryCatch x handler) before = (.ok a, after) := by
  simp only [tryCatch, tryCatchThe, MonadExceptOf.tryCatch, ExceptT.tryCatch, ExceptT.mk, bind,
    StateT.bind, h]
  rfl

theorem tryCatch_of_error (h : x before = (.error error, after)) :
    (tryCatch x handler) before = handler error after := by
  simp only [tryCatch, tryCatchThe, MonadExceptOf.tryCatch, ExceptT.tryCatch, ExceptT.mk, bind,
    StateT.bind, h]

/-- How a computation ends that adds to the record of exceptions: what it raises is `Fine` exactly
if what it adds is contained. The health does not come back. -/
structure Ends (joint : Bool) (Fine : Surroundings World → EngineError → Prop)
    (before : Surroundings World) (outcome : Except EngineError α × Surroundings World) : Prop where
  raised : ∃ new, outcome.2.raised = new ++ before.raised ∧
    (∀ a, outcome.1 = .ok a → AllContained joint new) ∧
    ∀ error, outcome.1 = .error error → (Fine outcome.2 error ↔ AllContained joint new)
  health : before.health = .unhealthy → outcome.2.health = .unhealthy

variable {joint : Bool} {Fine : Surroundings World → EngineError → Prop}

theorem Ends.bind (hx : Ends joint Fine before (x before))
    (hf : ∀ a after, x before = (.ok a, after) → Ends joint Fine after (f a after)) :
    Ends joint Fine before ((x >>= f) before) := by
  obtain ⟨⟨new, hnew, hok, herror⟩, hhealth⟩ := hx
  rcases hrun : x before with ⟨error | a, after⟩
  · rw [bind_of_error hrun]
    rw [hrun] at hnew herror hhealth
    exact ⟨⟨new, hnew, (fun _ heq => by cases heq), fun _ heq => by
      obtain rfl := Except.error.inj heq
      exact herror error rfl⟩, hhealth⟩
  · rw [bind_of_ok hrun]
    obtain ⟨⟨next, hnext, hnextOk, hnextError⟩, hnextHealth⟩ := hf a after hrun
    rw [hrun] at hnew hok hhealth
    have hnewContained : AllContained joint new := hok a rfl
    refine ⟨⟨next ++ new, ?_, fun b hb => ?_, fun error he => ?_⟩, fun h => hnextHealth (hhealth h)⟩
    · rw [hnext, hnew, List.append_assoc]
    · exact allContained_append.mpr ⟨hnextOk b hb, hnewContained⟩
    · rw [hnextError error he, allContained_append, and_iff_left hnewContained]

/-- What a handler does with an exception: it goes on with one that is contained so far, and
raises something that is not fine otherwise. -/
theorem Ends.tryCatch {Inner : EngineError → Prop}
    (hx : Ends joint (fun _ => Inner) before (x before))
    (hfine : ∀ error after, x before = (.error error, after) → Inner error →
      Ends joint Fine after (handler error after))
    (hopen : ∀ error after, x before = (.error error, after) → ¬Inner error →
      ∃ other, ¬Fine after other ∧ handler error = throw other) :
    Ends joint Fine before ((tryCatch x handler) before) := by
  obtain ⟨⟨new, hnew, hok, herror⟩, hhealth⟩ := hx
  rcases hrun : x before with ⟨error | a, after⟩
  · rw [tryCatch_of_error hrun]
    rw [hrun] at hnew herror hhealth
    have hinner : Inner error ↔ AllContained joint new := herror error rfl
    by_cases hcontained : Inner error
    · obtain ⟨⟨next, hnext, hnextOk, hnextError⟩, hnextHealth⟩ :=
        hfine error after hrun hcontained
      have hnewContained := hinner.mp hcontained
      refine ⟨⟨next ++ new, ?_, fun b hb => ?_, fun error he => ?_⟩,
        fun h => hnextHealth (hhealth h)⟩
      · rw [hnext, hnew, List.append_assoc]
      · exact allContained_append.mpr ⟨hnextOk b hb, hnewContained⟩
      · rw [hnextError error he, allContained_append, and_iff_left hnewContained]
    · obtain ⟨other, hother, hthrow⟩ := hopen error after hrun hcontained
      rw [hthrow]
      refine ⟨⟨new, hnew, (fun _ heq => by cases heq), fun _ heq => ?_⟩, hhealth⟩
      obtain rfl := Except.error.inj heq
      exact iff_of_false hother (fun h => hcontained (hinner.mpr h))
  · rw [tryCatch_of_ok hrun]
    rw [hrun] at hnew hok hhealth
    exact ⟨⟨new, hnew, hok, fun _ heq => by cases heq⟩, hhealth⟩

end Runs

/-! ## §3 Code that tells -/

section Telling

variable {World : Type} {joint : Bool} {Fine Inner : EngineError → Prop} {α β : Type}

/-- The computation does not call `generate_instructions`, and its exceptions tell whether those of
the engine were contained. -/
def Tells (World : Type) (joint : Bool) (Fine : EngineError → Prop) (α : Type)
    (x : Interacting World α) : Prop :=
  ∀ before, Ends joint (fun _ => Fine) before (x before) ∧
    (x before).2.generated = before.generated

theorem Tells.pure (a : α) : Tells World joint Fine α (Pure.pure a) := by
  intro before
  refine ⟨⟨⟨[], rfl, fun _ _ => .nil joint, fun _ heq => ?_⟩, id⟩, rfl⟩
  cases heq

theorem Tells.throw {error : EngineError} (h : Fine error) :
    Tells World joint Fine α (throw error) := by
  intro before
  refine ⟨⟨⟨[], rfl, fun _ heq => (by cases heq), fun _ heq => ?_⟩, id⟩, rfl⟩
  obtain rfl := Except.error.inj heq
  exact iff_of_true h (.nil joint)

theorem Tells.bind {x : Interacting World α} {f : α → Interacting World β}
    (hx : Tells World joint Fine α x) (hf : ∀ a, Tells World joint Fine β (f a)) :
    Tells World joint Fine β (x >>= f) := by
  intro before
  obtain ⟨hends, hgenerated⟩ := hx before
  refine ⟨hends.bind fun a after _ => (hf a after).1, ?_⟩
  rcases hrun : x before with ⟨error | a, after⟩
  · rw [bind_of_error hrun, ← hgenerated, hrun]
  · rw [bind_of_ok hrun, (hf a after).2, ← hgenerated, hrun]

theorem tells_compositional : Compositional (Tells World joint Fine) :=
  ⟨Tells.pure, Tells.bind⟩

theorem Tells.tryCatch (Inner : EngineError → Prop) {x : Interacting World α} {handler : EngineError → Interacting World α}
    (hx : Tells World joint Inner α x)
    (hfine : ∀ error, Inner error → Tells World joint Fine α (handler error))
    (hopen : ∀ error, ¬Inner error → ∃ other, ¬Fine other ∧ handler error = MonadExcept.throw other) :
    Tells World joint Fine α (MonadExcept.tryCatch x handler) := by
  intro before
  obtain ⟨hends, hgenerated⟩ := hx before
  refine ⟨hends.tryCatch (fun error after _ h => (hfine error h after).1)
    fun error _ _ h => hopen error h, ?_⟩
  · rcases hrun : x before with ⟨error | a, after⟩
    · rw [tryCatch_of_error hrun]
      rw [hrun] at hgenerated
      by_cases h : Inner error
      · rw [(hfine error h after).2, hgenerated]
      · obtain ⟨other, -, hthrow⟩ := hopen error h
        rw [hthrow]
        exact hgenerated
    · rw [tryCatch_of_ok hrun]
      rw [hrun] at hgenerated
      exact hgenerated

/-- The same, for handlers that all exceptions are fine for. -/
theorem Tells.handle {x : Interacting World α} {handler : EngineError → Interacting World α}
    (hx : Tells World joint (fun _ => True) α x)
    (hhandler : ∀ error, Tells World joint Fine α (handler error)) :
    Tells World joint Fine α (MonadExcept.tryCatch x handler) :=
  hx.tryCatch _ (fun error _ => hhandler error) fun _ h => absurd trivial h

theorem Tells.congr {x : Interacting World α} (hx : Tells World joint Inner α x)
    (h : ∀ error, Inner error ↔ Fine error) : Tells World joint Fine α x := by
  obtain rfl : Inner = Fine := funext fun error => propext (h error)
  exact hx

theorem interact_ends (site : Site) (h : ∀ error, Fine error ↔ site.Contains joint error)
    (question : World → Except EngineError α × World) (before : Surroundings World) :
    Ends joint (fun _ => Fine) before (interact site question before) := by
  refine ⟨⟨incidents site (question before.world).1, rfl, fun a ha => ?_, fun error he => ?_⟩, id⟩
  · refine allContained_incidents.mpr fun error he => ?_
    rw [show (question before.world).1 = .ok a from ha] at he
    cases he
  · rw [allContained_incidents]
    have hanswer : (question before.world).1 = .error error := he
    rw [hanswer]
    exact ⟨fun hfine _ heq => Except.error.inj heq ▸ (h error).mp hfine,
      fun hall => (h error).mpr (hall error rfl)⟩

theorem interact_tells (site : Site) (hsite : site ≠ .generateInstructions)
    (h : ∀ error, Fine error ↔ site.Contains joint error)
    (question : World → Except EngineError α × World) :
    Tells World joint Fine α (interact site question) := by
  intro before
  refine ⟨interact_ends site h question before, ?_⟩
  show (before.generated || decide (site = .generateInstructions)) = before.generated
  rw [decide_eq_false hsite, Bool.or_false]

/-- A check that refuses, before the rest of the code. -/
theorem Tells.check {c : Prop} [Decidable c] {refusal : Interacting World Unit}
    {rest : Unit → Interacting World α} (hrefusal : Tells World joint Fine Unit refusal)
    (hrest : ∀ u, Tells World joint Fine α (rest u)) :
    Tells World joint Fine α (if c then refusal >>= rest else rest ()) := by
  split_ifs
  · exact hrefusal.bind hrest
  · exact hrest ()

theorem markUnhealthy_tells {Obj : Type} [NativeEnvironment Obj World] :
    Tells World joint Fine Unit
      (NativeModule.markUnhealthy : Interacting World Unit) := by
  intro before
  refine ⟨⟨⟨[], rfl, fun _ _ => .nil joint, fun _ heq => ?_⟩, fun _ => rfl⟩, rfl⟩
  cases heq

end Telling

/-! ## §4 The mapper of states -/

section States

variable {World Obj : Type} [NativeEnvironment Obj World] {joint : Bool}
  {Fine : EngineError → Prop} {α : Type}

/-- Reads at a place of the code, where fine is what that place contains. -/
theorem tells_reads {site : Site} {Own : EngineError → Prop} (hsite : site ≠ .generateInstructions)
    (h : ∀ error, Fine error ↔ site.Contains joint error) (hown : ∀ error, Own error → Fine error) :
    Reads (Tells World joint Fine) site Own where
  toCompositional := tells_compositional
  throw herror := .throw (hown _ herror)
  invoke _ _ _ := interact_tells site hsite h _
  getattr _ _ := interact_tells site hsite h _
  int _ := interact_tells site hsite h _
  bool _ := interact_tells site hsite h _
  str _ := interact_tells site hsite h _
  item _ _ := interact_tells site hsite h _
  items _ := interact_tells site hsite h _
  differ _ _ := interact_tells site hsite h _

omit [NativeEnvironment Obj World] in
/-- A refusal of the mapper. -/
theorem failState_tells (hstate : ∀ failureClass : MappingFailureClass,
    Fine (.stateMappingError failureClass.value)) (failureClass : MappingFailureClass) :
    Tells World joint Fine α (failState failureClass) :=
  .throw (hstate failureClass)

/-- Whatever is raised while a state is frozen, the mapper raises state mapping errors. -/
theorem mapNativeState_tells [Rfc8785] (hstate : ∀ text,
      Fine (.stateMappingError text) ↔ MappingFailureClass.IsValue text)
    (state : PyValue Obj) (observedDigest : Digest) (priorViewDigests : Option (Digest × Digest))
    (sourceState : Option (PyValue Obj)) (publicHp : PublicHp × PublicHp) :
    Tells World joint Fine MappedNativeState
      (mapNativeState state observedDigest priorViewDigests sourceState publicHp) := by
  have hreads : Reads (Tells World joint EngineError.IsStateFault) .nativeState FreezeFault := by
    refine tells_reads (by decide) (fun _ => Iff.rfl) fun error herror => ?_
    cases herror with
    | malformed | inconsistent => exact MappingFailureClass.isValue_value _
    | value | arithmetic => exact trivial
  have hfreeze := hreads.freezeNativeState state observedDigest priorViewDigests sourceState publicHp
  refine hfreeze.tryCatch _ (fun error herror => ?_) fun error herror => ?_
  · cases error with
    | stateMappingError text => exact .throw ((hstate text).mpr herror)
    | _ => exact failState_tells (fun _ => (hstate _).mpr (MappingFailureClass.isValue_value _)) _
  · cases error with
    | stateMappingError text =>
      exact ⟨.stateMappingError text, fun hfine => herror ((hstate text).mp hfine), rfl⟩
    | _ => exact absurd trivial herror

section Documents

variable (hstate : ∀ failureClass : MappingFailureClass, Fine (.stateMappingError failureClass.value))

include hstate

omit [NativeEnvironment Obj World] in
theorem exactKeys_tells (value : Python.Json) (required optional : List String) :
    Tells World joint Fine _ (exactKeys value required optional) := by
  unfold exactKeys
  split
  · split_ifs
    · exact failState_tells hstate _
    · exact failState_tells hstate _
    · exact .pure _
  · exact failState_tells hstate _

omit [NativeEnvironment Obj World] in
theorem integer_tells (value : Python.Json) (minimum : Int) :
    Tells World joint Fine Int (integer value minimum) := by
  unfold integer
  split
  · split_ifs
    · exact failState_tells hstate _
    · exact .pure _
  · exact failState_tells hstate _

omit [NativeEnvironment Obj World] in
theorem boolean_tells (value : Python.Json) : Tells World joint Fine Bool (boolean value) := by
  unfold boolean
  split
  · exact .pure _
  · exact failState_tells hstate _

omit [NativeEnvironment Obj World] in
theorem token_tells (value : Python.Json) : Tells World joint Fine String (token value) := by
  unfold token
  split
  · split_ifs
    · exact failState_tells hstate _
    · exact .pure _
  · exact failState_tells hstate _

omit [NativeEnvironment Obj World] in
theorem sequence_tells (value : Python.Json) (least most : Nat) :
    Tells World joint Fine _ (sequence value least most) := by
  unfold sequence
  split
  · split_ifs
    · exact .pure _
    · exact failState_tells hstate _
  · exact failState_tells hstate _

omit [NativeEnvironment Obj World] in
theorem pair_tells (value : Python.Json) :
    Tells World joint Fine (PyValue Obj) (pair value) := by
  refine (sequence_tells hstate value 2 2).bind fun items => ?_
  refine (tells_compositional.mapM fun item _ => token_tells hstate item).bind fun tokens => ?_
  exact .pure _

omit [NativeEnvironment Obj World] in
theorem evs_tells (value : Python.Json) : Tells World joint Fine (PyValue Obj) (evs value) := by
  refine (sequence_tells hstate value 6 6).bind fun items => ?_
  refine (tells_compositional.mapM fun item _ => integer_tells hstate item 0).bind fun values => ?_
  exact Tells.check (failState_tells hstate _) fun _ => .pure _

end Documents

/-- The mapper's own errors have failure classes. -/
theorem isStateFault_value (failureClass : MappingFailureClass) :
    (EngineError.stateMappingError failureClass.value).IsStateFault :=
  MappingFailureClass.isValue_value failureClass

omit [NativeEnvironment Obj World] in
theorem completeWorld_tells (question : World → Except EngineError α × World) :
    Tells World joint EngineError.IsStateFault α (interact .completeWorld question) :=
  interact_tells .completeWorld (by decide) (fun _ => Iff.rfl) question

omit [NativeEnvironment Obj World] in
theorem guarded_tells (question : World → Except EngineError α × World) :
    Tells World joint (fun _ => True) α (interact .guarded question) :=
  interact_tells .guarded (by decide) (fun _ => Iff.rfl) question

omit [NativeEnvironment Obj World] in
theorem preparedRoot_tells (question : World → Except EngineError α × World) :
    Tells World joint (EngineError.IsFault 0) α (interact .preparedRoot question) :=
  interact_tells .preparedRoot (by decide) (fun _ => Iff.rfl) question

theorem mapMove_tells (value : Python.Json) :
    Tells World joint EngineError.IsStateFault (PyValue Obj) (mapMove value) := by
  refine (exactKeys_tells isStateFault_value _ _ _).bind fun move => ?_
  refine (token_tells isStateFault_value _).bind fun id => ?_
  refine (integer_tells isStateFault_value _ _).bind fun pp => ?_
  refine (boolean_tells isStateFault_value _).bind fun disabled => ?_
  exact completeWorld_tells _

theorem distinctCount_tells (values : List (PyValue Obj)) :
    Tells World joint EngineError.IsStateFault Nat (distinctCount .completeWorld values) := by
  unfold distinctCount
  split
  · exact .pure _
  · exact completeWorld_tells _

/-- The constructor of a pokemon has a handler for everything. -/
theorem mapPokemon_tells (value : Python.Json) :
    Tells World joint EngineError.IsStateFault (PyValue Obj) (mapPokemon value) := by
  have hall : ∀ failureClass : MappingFailureClass,
      (fun _ : EngineError => True) (.stateMappingError failureClass.value) := fun _ => trivial
  refine (exactKeys_tells isStateFault_value _ _ _).bind fun document => ?_
  refine (sequence_tells isStateFault_value _ _ _).bind fun rawMoves => ?_
  refine (tells_compositional.mapM fun move _ => mapMove_tells move).bind fun moves => ?_
  refine (tells_compositional.mapM fun move _ => completeWorld_tells _).bind fun ids => ?_
  refine (distinctCount_tells ids).bind fun count => ?_
  refine Tells.check (failState_tells isStateFault_value _) fun _ => ?_
  refine (integer_tells isStateFault_value _ _).bind fun hp => ?_
  refine (integer_tells isStateFault_value _ _).bind fun maxhp => ?_
  refine Tells.check (failState_tells isStateFault_value _) fun _ => ?_
  refine Tells.handle ?_ fun _ => failState_tells isStateFault_value _
  refine (token_tells hall _).bind fun id => ?_
  refine (integer_tells hall _ _).bind fun level => ?_
  refine (pair_tells hall _).bind fun types => ?_
  refine (pair_tells hall _).bind fun baseTypes => ?_
  refine (token_tells hall _).bind fun ability => ?_
  refine (token_tells hall _).bind fun baseAbility => ?_
  refine (token_tells hall _).bind fun item => ?_
  refine (token_tells hall _).bind fun nature => ?_
  refine (evs_tells hall _).bind fun evs => ?_
  refine (integer_tells hall _ _).bind fun attack => ?_
  refine (integer_tells hall _ _).bind fun defense => ?_
  refine (integer_tells hall _ _).bind fun specialAttack => ?_
  refine (integer_tells hall _ _).bind fun specialDefense => ?_
  refine (integer_tells hall _ _).bind fun speed => ?_
  refine (token_tells hall _).bind fun status => ?_
  refine (token_tells hall _).bind fun teraType => ?_
  refine (boolean_tells hall _).bind fun terastallized => ?_
  exact guarded_tells _

/-- So has the constructor of a side. -/
theorem mapSide_tells (value : Python.Json) :
    Tells World joint EngineError.IsStateFault (PyValue Obj) (mapSide value) := by
  have hall : ∀ failureClass : MappingFailureClass,
      (fun _ : EngineError => True) (.stateMappingError failureClass.value) := fun _ => trivial
  refine (exactKeys_tells isStateFault_value _ _ _).bind fun document => ?_
  refine (sequence_tells isStateFault_value _ _ _).bind fun rawPokemon => ?_
  refine (tells_compositional.mapM fun pokemon _ => mapPokemon_tells pokemon).bind fun pokemon => ?_
  refine (integer_tells isStateFault_value _ _).bind fun activeIndex => ?_
  refine Tells.check (failState_tells isStateFault_value _) fun _ => ?_
  refine (exactKeys_tells isStateFault_value _ _ _).bind fun conditions => ?_
  refine (tells_compositional.mapM fun entry _ => ?_).bind fun counts => ?_
  · exact (integer_tells isStateFault_value _ _).bind fun count => .pure _
  refine Tells.handle ?_ fun _ => failState_tells isStateFault_value _
  refine (guarded_tells _).bind fun indexes => ?_
  refine (guarded_tells _).bind fun index => ?_
  refine (boolean_tells hall _).bind fun forceSwitch => ?_
  refine (boolean_tells hall _).bind fun forceTrapped => ?_
  refine (guarded_tells _).bind fun sideConditions => ?_
  exact guarded_tells _

/-- What the mapper raises is handled with its failure class. -/
theorem isFault_value (workUnits : Nat) (failureClass : MappingFailureClass) :
    (EngineError.stateMappingError failureClass.value).IsFault workUnits :=
  MappingFailureClass.isValue_value failureClass

theorem namedMember_tells (group : String) (value : Python.Json) :
    Tells World joint (EngineError.IsFault 0) (PyValue Obj) (namedMember group value) := by
  refine (preparedRoot_tells _).bind fun members => ?_
  refine (token_tells (isFault_value 0) value).bind fun name => ?_
  exact preparedRoot_tells _

theorem buildCompleteWorld_tells (document : Python.Json) :
    Tells World joint (EngineError.IsFault 0) (PyValue Obj) (buildCompleteWorld document) := by
  refine (exactKeys_tells (isFault_value 0) _ _ _).bind fun world => ?_
  refine Tells.check (failState_tells (isFault_value 0) _) fun _ => ?_
  refine (token_tells (isFault_value 0) _).bind fun _ => ?_
  refine (exactKeys_tells (isFault_value 0) _ _ _).bind fun fieldDocument => ?_
  refine (exactKeys_tells (isFault_value 0) _ _ _).bind fun sides => ?_
  refine Tells.bind (Tells.tryCatch (EngineError.IsFault 0) ?_ (fun error herror => ?_)
    fun error herror => ?_) fun conditions => ?_
  · refine (namedMember_tells _ _).bind fun weather => ?_
    exact (namedMember_tells _ _).bind fun terrain => .pure _
  · cases error with
    | attributeError | typeError => exact failState_tells (isFault_value 0) _
    | _ => exact .throw herror
  · cases error with
    | attributeError | typeError => exact absurd trivial herror
    | _ => exact ⟨_, herror, rfl⟩
  refine Tells.tryCatch EngineError.IsStateFault ?_ (fun error herror => ?_)
    fun error herror => ?_
  · refine (mapSide_tells _).bind fun sideOne => ?_
    refine (mapSide_tells _).bind fun sideTwo => ?_
    refine (integer_tells isStateFault_value _ _).bind fun weatherTurns => ?_
    refine (integer_tells isStateFault_value _ _).bind fun terrainTurns => ?_
    refine (boolean_tells isStateFault_value _).bind fun trickRoom => ?_
    refine (integer_tells isStateFault_value _ _).bind fun trickRoomTurns => ?_
    exact completeWorld_tells _
  · cases error with
    | stateMappingError text => exact .throw herror
    | _ => exact failState_tells (isFault_value 0) _
  · cases error with
    | stateMappingError text => exact ⟨.stateMappingError text, herror, rfl⟩
    | _ => exact absurd trivial herror

theorem mapCompleteWorld_tells [Rfc8785] (document : Python.Json) (observedDigest : Digest)
    (publicHp : PublicHp × PublicHp) :
    Tells World joint (EngineError.IsFault 0) MappedNativeState
      (mapCompleteWorld document observedDigest publicHp) := by
  refine (buildCompleteWorld_tells document).bind fun state => ?_
  exact mapNativeState_tells (fun _ => Iff.rfl) state observedDigest none none publicHp

end States

/-! ## §5 The methods -/

section Methods

variable {World Obj : Type} [NativeEnvironment Obj World] {joint : Bool}
  {Fine : EngineError → Prop} {α : Type} {model : PokeEngineTransitionModel} {workUnits : Nat}

/-- Failures with these work units are fine. -/
def FailuresFine (Fine : EngineError → Prop) (workUnits : Nat) : Prop :=
  ∀ fault : PokeEngineMappingFailure, fault.workUnits = workUnits → Fine (.mappingFailure fault)

theorem failuresFine_isFailure : FailuresFine (EngineError.IsFailure workUnits) workUnits :=
  fun _ h => h

theorem failuresFine_isFault : FailuresFine (EngineError.IsFault workUnits) workUnits :=
  fun _ h => h

theorem failuresFine_deepSide : FailuresFine (Site.Contains joint .deepSide) 0 :=
  fun _ h => h

theorem failuresFine_forceSwitch : FailuresFine (Site.Contains joint .forceSwitch) 0 :=
  fun _ h => h

section Raising

variable (hfailure : FailuresFine Fine workUnits)

include hfailure

omit [NativeEnvironment Obj World] in
theorem raise_tells (failureClass : MappingFailureClass) (known : KnownDigests) :
    Tells World joint Fine α (model.raise failureClass known workUnits) :=
  .throw (hfailure _ rfl)

theorem raiseUnhealthy_tells (failureClass : MappingFailureClass) (known : KnownDigests) :
    Tells World joint Fine α (model.raiseUnhealthy failureClass known workUnits) :=
  markUnhealthy_tells.bind fun _ => raise_tells hfailure failureClass known

omit [NativeEnvironment Obj World] in
theorem raiseFailure_tells {text : String} (h : MappingFailureClass.IsValue text)
    (known : KnownDigests) : Tells World joint Fine α (model.raiseFailure text known workUnits) := by
  obtain ⟨failureClass, hclass⟩ := Option.isSome_iff_exists.mp h
  unfold raiseFailure
  rw [hclass]
  exact raise_tells hfailure failureClass known

end Raising

omit [NativeEnvironment Obj World] in
/-- A text that is no failure class makes a `ValueError`. -/
theorem raiseFailure_eq_throw {text : String} (h : ¬MappingFailureClass.IsValue text)
    (known : KnownDigests) :
    (model.raiseFailure text known workUnits : Interacting World α) =
      throw EngineError.valueError := by
  have hnone : MappingFailureClass.ofValue text = none := by
    rw [MappingFailureClass.IsValue, Bool.not_eq_true, Option.isSome_eq_false_iff,
      Option.isNone_iff_eq_none] at h
    exact h
  unfold raiseFailure
  rw [hnone]

theorem stateFromString_tells (hfailure : FailuresFine Fine 0) (value : String) :
    Tells World joint Fine (PyValue Obj) (model.stateFromString value) :=
  (guarded_tells _).handle fun _ => raiseUnhealthy_tells hfailure _ _

theorem legalChoiceValues_tells (hfailure : FailuresFine Fine 0) (state : PyValue Obj) :
    Tells World joint Fine _ (model.legalChoiceValues state) := by
  refine ((guarded_tells _).handle fun _ => raiseUnhealthy_tells hfailure _ _).bind fun result => ?_
  split
  · exact .pure _
  · exact raise_tells hfailure _ _

/-- Plain code that raises nothing but what is fine. -/
theorem ofExcept_tells {x : Except EngineError α} (hx : RaisesOnly Fine x) :
    Tells World joint Fine α (MonadExcept.ofExcept x) := by
  cases x with
  | ok a => exact .pure a
  | error error => exact .throw (hx.of_error rfl)

variable [Rfc8785]

/-- The documents of deep actions have digests: `rfc8785.dumps` takes texts. -/
def DigestsChoices : Prop :=
  ∀ kind native, native.toList.all Python.isAscii = true →
    ∃ digest, Digest.manifest (nativeActionDocument kind native) = .ok digest

section Deep

variable (hdigests : DigestsChoices)

include hdigests

/-- Deep actions contain what is raised to their side by `transition` only, as far as it is an
action mapping error. -/
theorem deepBindings_tells (player : Player) (state : PyValue Obj)
    (choices : List String × List String) :
    Tells World joint (Site.Contains joint .deepSide) (List ActionBinding)
      (model.deepBindings player state choices) := by
  refine Tells.bind (interact_tells .deepSide (by decide) (fun _ => Iff.rfl) _) fun side => ?_
  refine Tells.tryCatch (Site.Contains joint .forceSwitch) ?_ (fun error herror => ?_)
    fun error herror => ?_
  · have hreads : Reads (Tells World joint (Site.Contains joint .forceSwitch)) .forceSwitch
        (Site.Contains joint .forceSwitch) :=
      tells_reads (by decide) (fun _ => Iff.rfl) fun _ h => h
    refine (hreads.getattr side "force_switch").bind fun value => ?_
    refine (hreads.toBool value).bind fun forceSwitch => ?_
    refine ofExcept_tells (mapNativeActions_raisesOnly.mono fun error herror => ?_)
    cases herror with
    | known own => exact MappingFailureClass.isValue_value _
    | value listed ascii undigested =>
      obtain ⟨digest, hdigest⟩ := hdigests _ _ ascii
      rw [hdigest] at undigested
      cases undigested
  · cases error with
    | mappingFailure fault => exact .throw herror
    | actionMappingError text => exact raiseFailure_tells failuresFine_deepSide herror _
    | _ => exact herror.elim
  · cases error with
    | actionMappingError text => exact ⟨.valueError, id, raiseFailure_eq_throw herror _⟩
    | _ =>
      refine ⟨_, ?_, rfl⟩
      exact herror

theorem bindings_tells (world : PreparedWorld PokeEngineWorld) (player : Player)
    (state : PyValue Obj) (choices : List String × List String) :
    Tells World joint (Site.Contains joint .deepSide) (List ActionBinding)
      (model.bindings world player state choices) := by
  unfold bindings
  split_ifs
  · exact .pure _
  · exact deepBindings_tells hdigests player state choices

theorem legalActions_tells (world : PreparedWorld PokeEngineWorld) (player : Player) :
    Tells World false (EngineError.IsFailure 0) (List SearchAction)
      (model.legalActions world player) := by
  have hside : ∀ error, Site.Contains false .deepSide error ↔ error.IsFailure 0 := by
    intro error
    cases error with
    | actionMappingError text => exact iff_of_false Bool.false_ne_true id
    | _ => exact Iff.rfl
  unfold legalActions
  split_ifs
  · exact .pure _
  · refine (stateFromString_tells failuresFine_isFailure _).bind fun state => ?_
    refine (legalChoiceValues_tells failuresFine_isFailure state).bind fun choices => ?_
    refine ((deepBindings_tells hdigests player state choices).congr hside).bind fun bindings => ?_
    exact .pure _

/-- The handler around the joint action takes the action mapping errors. -/
theorem jointBindings_tells (world : PreparedWorld PokeEngineWorld)
    (p1Action p2Action : SearchAction) :
    Tells World true (EngineError.IsFailure 0) (PyValue Obj × ActionBinding × ActionBinding)
      (model.jointBindings world p1Action p2Action) := by
  have hbinding : ∀ bindings action, Tells World true (Site.Contains true .deepSide) ActionBinding
      (MonadExcept.ofExcept (bindingForAction bindings action)) := by
    intro bindings action
    refine ofExcept_tells ⟨fun _ => trivial, fun {error} herror => ?_⟩
    unfold bindingForAction at herror
    split at herror
    · cases herror
    · obtain rfl := Except.error.inj herror
      exact rfl
  refine Tells.tryCatch (Site.Contains true .deepSide) ?_ (fun error herror => ?_)
    fun error herror => ?_
  · refine (stateFromString_tells failuresFine_deepSide _).bind fun state => ?_
    refine (legalChoiceValues_tells failuresFine_deepSide state).bind fun choices => ?_
    refine (bindings_tells hdigests world .p1 state choices).bind fun p1Bindings => ?_
    refine (hbinding p1Bindings p1Action).bind fun p1Binding => ?_
    refine (bindings_tells hdigests world .p2 state choices).bind fun p2Bindings => ?_
    exact (hbinding p2Bindings p2Action).bind fun p2Binding => .pure _
  · cases error with
    | mappingFailure fault => exact .throw herror
    | actionMappingError text => exact raise_tells failuresFine_isFailure _ _
    | _ => exact herror.elim
  · cases error with
    | actionMappingError text => exact absurd rfl herror
    | _ =>
      refine ⟨_, ?_, rfl⟩
      exact herror

end Deep

section Roots

omit [NativeEnvironment Obj World] [Rfc8785] in
/-- The handlers around the body of `prepare_battle_root`. -/
theorem guardRoot_tells (known : KnownDigests) {body : Interacting World α} [NativeEnvironment Obj World]
    (hbody : Tells World joint (EngineError.IsFault 0) α body) :
    Tells World joint (EngineError.IsFailure 0) α (model.guardRoot known body) := by
  refine hbody.tryCatch _ (fun error herror => ?_) fun error herror => ?_
  · cases error with
    | mappingFailure fault => exact .throw herror
    | stateMappingError text => exact raiseFailure_tells failuresFine_isFailure herror _
    | actionMappingError text => exact raiseFailure_tells failuresFine_isFailure herror _
    | typeError => exact raise_tells failuresFine_isFailure _ _
    | valueError => exact raise_tells failuresFine_isFailure _ _
    | _ => exact raiseUnhealthy_tells failuresFine_isFailure _ _
  · cases error with
    | mappingFailure fault => exact ⟨.mappingFailure fault, herror, rfl⟩
    | stateMappingError text => exact ⟨.valueError, id, raiseFailure_eq_throw herror _⟩
    | actionMappingError text => exact ⟨.valueError, id, raiseFailure_eq_throw herror _⟩
    | _ => exact absurd trivial herror

omit [Rfc8785] in
/-- The mapper of actions raises failure classes. -/
theorem failAction_isFault (failureClass : MappingFailureClass) :
    RaisesOnly (EngineError.IsFault workUnits) (failAction failureClass : Except EngineError α) :=
  .error (MappingFailureClass.isValue_value failureClass)

theorem manifest_isFault (document : Python.Json) :
    RaisesOnly (EngineError.IsFault workUnits) (Digest.manifest document) := by
  refine (Digest.manifest_raisesOnly document).mono fun error herror => ?_
  rw [herror]
  exact trivial

theorem mapObservedRoot_isFault [Python.UnicodeDatabase] (state : ObservedState) :
    RaisesOnly (EngineError.IsFault 0) (mapObservedRoot state) := by
  unfold mapObservedRoot
  split_ifs
  · exact .error (MappingFailureClass.isValue_value _)
  · split
    · exact .error (MappingFailureClass.isValue_value _)
    · exact (manifest_isFault _).bind fun _ _ => .ok trivial

theorem requestIdentity_isFault (identity : RequestIdentity) :
    RaisesOnly (EngineError.IsFault 0) (Digest.requestIdentity identity) := by
  unfold Digest.requestIdentity
  split
  · exact manifest_isFault _
  · exact .error trivial

theorem safeSubmissionSet_isFault (safe : SafeSubmissionSet) :
    RaisesOnly (EngineError.IsFault 0) (Digest.safeSubmissionSet safe) := by
  unfold Digest.safeSubmissionSet
  split
  · exact manifest_isFault _
  · exact .error trivial

omit [Rfc8785] in
theorem submissionChoice_isFault (submission : BattleSubmission) (teamIds activeMoveIds : List String) :
    RaisesOnly (EngineError.IsFault 0) (submissionChoice submission teamIds activeMoveIds) := by
  unfold submissionChoice
  split
  · split
    · split
      · exact .ok
      · exact failAction_isFault _
    · exact failAction_isFault _
  · split
    · exact .ok
    · exact failAction_isFault _
  · exact failAction_isFault _

variable {catalog : CapabilityCatalog}

omit [Rfc8785] in
theorem catalogCapabilities_isFault (values : List String) :
    RaisesOnly (EngineError.IsFault 0) (catalogCapabilities catalog values) := by
  unfold catalogCapabilities
  split
  · exact .ok
  · exact failAction_isFault _

theorem mapRootActions_isFault {safe : SafeSubmissionSet} {rootIdentity : PreparedRootIdentity}
    {nativeChoices teamIds activeMoveIds : List String} {forceSwitch : Bool} :
    RaisesOnly (EngineError.IsFault 0) (mapRootActions safe rootIdentity nativeChoices teamIds
      activeMoveIds forceSwitch catalog) := by
  have hbinding : ∀ entry, RaisesOnly (EngineError.IsFault 0) (rootBinding rootIdentity nativeChoices
      teamIds activeMoveIds forceSwitch catalog entry) := by
    intro entry
    refine (submissionChoice_isFault _ _ _).bind fun native _ => ?_
    refine RaisesOnly.check (failAction_isFault _) fun _ => ?_
    refine RaisesOnly.bind ?_ fun actionId _ => ?_
    · exact (manifest_isFault _).bind fun digest _ => manifest_isFault _
    refine (catalogCapabilities_isFault _).bind fun capabilities _ => ?_
    refine RaisesOnly.bind ?_ fun action _ => .ok trivial
    unfold SearchAction.create
    split
    · exact .ok
    · exact .error trivial
  unfold mapRootActions
  refine RaisesOnly.check (failAction_isFault _) fun _ => ?_
  refine RaisesOnly.check (failAction_isFault _) fun _ => ?_
  refine RaisesOnly.bind ?_ fun bindings _ => ?_
  · exact (raisesOnly_compositional _).mapM fun entry _ => hbinding entry
  exact RaisesOnly.check (failAction_isFault _) fun _ => .ok trivial

omit [Rfc8785] in
theorem lowerIds_tells (values : List (PyValue Obj)) :
    Tells World joint (EngineError.IsFault 0) (List String) (lowerIds values) := by
  have hreads : Reads (Tells World joint (EngineError.IsFault 0)) .preparedRoot
      (EngineError.IsFault 0) :=
    tells_reads (by decide) (fun _ => Iff.rfl) fun _ h => h
  refine tells_compositional.mapM fun value _ => ?_
  refine (hreads.getattr value "id").bind fun id => ?_
  exact (hreads.toStr id).bind fun text => .pure _

theorem bindRoot_tells (safe : SafeSubmissionSet) (selectedRoot : PreparedRootIdentity)
    (known : KnownDigests) (rootPlayer : Player) (nativeState : String) :
    Tells World joint (EngineError.IsFault 0) (List ActionBinding)
      (model.bindRoot safe selectedRoot known rootPlayer nativeState) := by
  have hreads : Reads (Tells World joint (EngineError.IsFault 0)) .preparedRoot
      (EngineError.IsFault 0) :=
    tells_reads (by decide) (fun _ => Iff.rfl) fun _ h => h
  refine (stateFromString_tells failuresFine_isFault _).bind fun state => ?_
  refine (legalChoiceValues_tells failuresFine_isFault state).bind fun choices => ?_
  refine (hreads.getattr state _).bind fun side => ?_
  refine (hreads.getattr side "pokemon").bind fun value => ?_
  refine (hreads.toItems value).bind fun members => ?_
  refine (lowerIds_tells members).bind fun teamIds => ?_
  refine (hreads.getattr side "pokemon").bind fun team => ?_
  refine (hreads.getattr side "active_index").bind fun value => ?_
  refine (hreads.toInt value).bind fun activeIndex => ?_
  refine (hreads.item team activeIndex).bind fun active => ?_
  refine (hreads.getattr active "moves").bind fun value => ?_
  refine (hreads.toItems value).bind fun moves => ?_
  refine (lowerIds_tells moves).bind fun activeMoveIds => ?_
  refine (hreads.getattr side "force_switch").bind fun value => ?_
  refine (hreads.toBool value).bind fun forceSwitch => ?_
  refine (ofExcept_tells mapRootActions_isFault).bind fun rootBindings => ?_
  -- both sides as sets
  exact Tells.check (raise_tells failuresFine_isFault _ _) fun _ => .pure _

omit [NativeEnvironment Obj World] [Rfc8785] in
theorem prepareRoot_tells (world : PokeEngineWorld) (rootIdentity : PreparedRootIdentity)
    (rootActions : List SearchAction) :
    Tells World joint (EngineError.IsFault 0) (PreparedWorld PokeEngineWorld)
      (model.prepareRoot world rootIdentity rootActions) := by
  unfold prepareRoot
  refine Tells.check (raise_tells failuresFine_isFault _ _) fun _ => ?_
  refine Tells.check (raise_tells failuresFine_isFault _ _) fun _ => ?_
  split
  · exact .pure _
  · exact raise_tells failuresFine_isFault _ _

theorem prepareBattleRoot_tells [Python.UnicodeDatabase] (observedState : ObservedState)
    (safe : SafeSubmissionSet) (completeWorld : Python.Json) (rulesetDigest : String)
    (rootIdentity : Option PreparedRootIdentity) :
    Tells World joint (EngineError.IsFailure 0) (PreparedWorld PokeEngineWorld)
      (model.prepareBattleRoot observedState safe completeWorld rulesetDigest rootIdentity) := by
  refine (guardRoot_tells _ (ofExcept_tells (mapObservedRoot_isFault observedState))).bind
    fun observed => ?_
  refine (guardRoot_tells _ (ofExcept_tells (requestIdentity_isFault _))).bind
    fun requestDigest => ?_
  refine (guardRoot_tells _ (ofExcept_tells (safeSubmissionSet_isFault safe))).bind
    fun safeDigest => ?_
  refine guardRoot_tells _ ?_
  refine (mapCompleteWorld_tells _ _ _).bind fun mapped => ?_
  refine Tells.bind (ofExcept_tells ?_) fun expectedRoot => ?_
  · unfold PreparedRootIdentity.create
    split
    · exact (manifest_isFault _).bind fun digest _ => .ok trivial
    · exact .error trivial
  have hbind : ∀ known selectedRoot, Tells World joint (EngineError.IsFault 0)
      (PreparedWorld PokeEngineWorld) (do
        let rootBindings ← model.bindRoot safe selectedRoot known observed.rootPlayer
          mapped.nativeState
        let requirements ← MonadExcept.ofExcept model.preflightCapabilities
        model.prepareRoot
          { nativeState := mapped.nativeState
            observedStateDigest := observed.digest
            rootPlayer := observed.rootPlayer
            viewDigests := mapped.viewDigests
            activeIndexes := mapped.activeIndexes
            activeTypes := mapped.activeTypes
            terastallized := mapped.terastallized
            terminalOutcome := mapped.terminalOutcome
            publicHp := mapped.publicHp
            rootBindings := rootBindings
            requiredCapabilities := requirements
            report := model.report .mapped known requirements 0
            ply := 0 } selectedRoot (rootBindings.map ActionBinding.action)) := by
    intro known selectedRoot
    refine (bindRoot_tells _ _ _ _ _).bind fun rootBindings => ?_
    refine Tells.bind (ofExcept_tells ?_) fun requirements => prepareRoot_tells _ _ _
    obtain ⟨capabilities, hcapabilities, -⟩ := preflightCapabilities_ok model
    rw [hcapabilities]
    exact .ok
  split
  · exact (raise_tells failuresFine_isFault _ _).bind fun _ => hbind _ _
  · exact hbind _ _

end Roots

section Transitions

/-- Weighing successors, within the handlers of `transition`. -/
theorem tells_weighs :
    Weighs model (Tells World true (EngineError.IsFault 1)) where
  toCompositional := tells_compositional
  throw hfault := by
    refine .throw ?_
    cases hfault with
    | chance | malformed => exact rfl
    | arithmetic => exact trivial
  getPercentage instruction := by
    refine Tells.tryCatch (EngineError.IsFault 1)
      (interact_tells .percentage (by decide) (fun _ => Iff.rfl) _) (fun error herror => ?_)
      fun error herror => ?_
    · cases error with
      | attributeError => exact .pure _
      | _ => exact .throw herror
    · cases error with
      | attributeError => exact absurd trivial herror
      | _ =>
        refine ⟨_, ?_, rfl⟩
        exact herror
  applyInstructions state instruction :=
    (guarded_tells _).handle fun _ => raiseUnhealthy_tells failuresFine_isFault _ _
  mapNativeState := mapNativeState_tells fun _ => Iff.rfl

omit [Rfc8785] in
theorem guardTransition_tells {body : Interacting World α}
    (hbody : Tells World joint (EngineError.IsFault 1) α body) :
    Tells World joint (EngineError.IsFailure 1) α (model.guardTransition body) := by
  refine hbody.tryCatch _ (fun error herror => ?_) fun error herror => ?_
  · cases error with
    | mappingFailure fault => exact .throw herror
    | stateMappingError text => exact raiseFailure_tells failuresFine_isFailure herror _
    | actionMappingError text => exact raiseFailure_tells failuresFine_isFailure herror _
    | arithmeticError | typeError | valueError => exact raise_tells failuresFine_isFailure _ _
    | _ => exact raiseUnhealthy_tells failuresFine_isFailure _ _
  · cases error with
    | mappingFailure fault => exact ⟨.mappingFailure fault, herror, rfl⟩
    | stateMappingError text => exact ⟨.valueError, id, raiseFailure_eq_throw herror _⟩
    | actionMappingError text => exact ⟨.valueError, id, raiseFailure_eq_throw herror _⟩
    | _ => exact absurd trivial herror

/-- The work that is done, by whether `generate_instructions` has been called. -/
def workDone (generated : Bool) : Nat := if generated then 1 else 0

/-- A failure with the work that is done when it is raised. -/
def IsAccounted (after : Surroundings World) (error : EngineError) : Prop :=
  error.IsFailure (workDone after.generated)

omit [NativeEnvironment Obj World] [Rfc8785] in
theorem Tells.accounted {x : Interacting World α} {before : Surroundings World}
    (hx : Tells World joint (EngineError.IsFailure workUnits) α x)
    (hwork : workUnits = workDone before.generated) :
    Ends joint IsAccounted before (x before) := by
  obtain ⟨⟨⟨new, hnew, hok, herror⟩, hhealth⟩, hgenerated⟩ := hx before
  refine ⟨⟨new, hnew, hok, fun error he => ?_⟩, hhealth⟩
  rw [IsAccounted, hgenerated, ← hwork]
  exact herror error he

omit [Rfc8785] in
/-- The call itself: from here on the work counts. -/
theorem generateInstructions_accounted (model : PokeEngineTransitionModel) (state : PyValue Obj)
    (p1Choice p2Choice : String) (before : Surroundings World) :
    Ends true IsAccounted before
        ((model.generateInstructions state p1Choice p2Choice : Interacting World _) before) ∧
      ∀ instructions after, (model.generateInstructions state p1Choice p2Choice :
        Interacting World (PyValue Obj)) before = (.ok instructions, after) →
          after.generated = true := by
  have hcalled : ∀ answer after, (NativeModule.call .generateInstructions "generate_instructions"
      [("state", state), ("p1_choice", .str p1Choice), ("p2_choice", .str p2Choice)] :
        Interacting World (PyValue Obj)) before = (answer, after) → after.generated = true := by
    intro answer after h
    exact (congrArg (fun outcome => outcome.2.generated) h).symm.trans (Bool.or_true _)
  constructor
  · refine Ends.tryCatch (interact_ends .generateInstructions (fun _ => Iff.rfl) _ before)
      (fun error after hrun herror => ?_) fun error after hrun herror => ?_
    · have hwork : 1 = workDone after.generated := by
        rw [hcalled _ _ hrun]
        rfl
      cases error with
      | mappingFailure fault =>
        have hthrow : Tells World true (EngineError.IsFailure 1) (PyValue Obj)
            (throw (EngineError.mappingFailure fault)) := .throw herror
        exact hthrow.accounted hwork
      | _ => exact (raiseUnhealthy_tells failuresFine_isFailure _ _).accounted hwork
    · cases error with
      | mappingFailure fault =>
        refine ⟨.mappingFailure fault, ?_, rfl⟩
        rw [IsAccounted, hcalled _ _ hrun]
        exact herror
      | _ => exact absurd trivial herror
  · intro instructions after h
    rcases hrun : (NativeModule.call .generateInstructions "generate_instructions"
      [("state", state), ("p1_choice", .str p1Choice), ("p2_choice", .str p2Choice)] :
        Interacting World (PyValue Obj)) before with ⟨error | answer, called⟩
    · -- the handler raises something
      unfold generateInstructions at h
      rw [tryCatch_of_error hrun] at h
      cases error <;> cases h
    · unfold generateInstructions at h
      rw [tryCatch_of_ok hrun] at h
      obtain ⟨-, rfl⟩ := Prod.mk.inj h
      exact hcalled _ _ hrun

/-- A transition: the joint action, the call, and what follows it. -/
theorem transition_accounted (hdigests : DigestsChoices) (world : PreparedWorld PokeEngineWorld)
    (p1Action p2Action : SearchAction) {before : Surroundings World}
    (hbefore : before.generated = false) :
    Ends true IsAccounted before
      ((model.transition world p1Action p2Action : Interacting World _) before) := by
  have hjoint : Tells World true (EngineError.IsFailure 0) _
      (model.jointBindings world p1Action p2Action) :=
    jointBindings_tells hdigests world p1Action p2Action
  have hwork : 0 = workDone before.generated := by
    rw [hbefore]
    rfl
  refine (hjoint.accounted hwork).bind fun joint bound _ => ?_
  obtain ⟨state, p1Binding, p2Binding⟩ := joint
  obtain ⟨hcall, hcalled⟩ := generateInstructions_accounted model state
    p1Binding.nativeChoice p2Binding.nativeChoice bound
  refine hcall.bind fun instructions called hrun => ?_
  refine (guardTransition_tells ?_).accounted ?_
  · refine (tells_weighs.mappedSuccessors state instructions _ _ _).bind fun weights => ?_
    refine Tells.bind (ofExcept_tells ?_) fun capabilities => ?_
    · obtain ⟨capabilities, hcapabilities, -⟩ := transitionCapabilities_ok model p1Action p2Action
      rw [hcapabilities]
      exact .ok
    refine Tells.bind (ofExcept_tells ?_) fun successors => ?_
    · refine (successors_raisesOnly weights capabilities).mono fun error herror => ?_
      rw [herror]
      exact trivial
    split
    · exact .pure _
    · exact raise_tells failuresFine_isFault _ _
  · rw [hcalled instructions called hrun]
    rfl

end Transitions

end Methods

/-! ## §6 Failing closed -/

/-- A method returns or raises a mapping failure whose report agrees with it, with one work unit
exactly if `generate_instructions` has been called, and leaves an unhealthy backend unhealthy. -/
structure FailsClosed {World α : Type} (method : Interacting World α)
    (before : Surroundings World) : Prop where
  failure : ∀ error, (method before).1 = .error error →
    ∃ fault, error = .mappingFailure fault ∧
      fault.report.failureClass = some fault.failureClass ∧
      fault.report.workUnits = fault.workUnits ∧
      fault.workUnits = if (method before).2.generated then 1 else 0
  health : before.health = .unhealthy → (method before).2.health = .unhealthy

/-- From fresh surroundings, the record of the run tells whether it fails closed. -/
theorem Ends.failsClosed_iff {World α : Type} {joint : Bool} {method : Interacting World α}
    {world : World} {health : EngineBackendHealth}
    (h : Ends joint IsAccounted (.fresh world health) (method (.fresh world health))) :
    FailsClosed method (.fresh world health) ↔
      AllContained joint (method (.fresh world health)).2.raised := by
  obtain ⟨⟨new, hnew, hok, herror⟩, hhealth⟩ := h
  have hraised : (method (.fresh world health)).2.raised = new := by
    rw [hnew]
    exact List.append_nil new
  rw [hraised]
  constructor
  · intro hclosed
    cases hresult : (method (.fresh world health)).1 with
    | ok a => exact hok a hresult
    | error error =>
      obtain ⟨fault, rfl, -, -, hwork⟩ := hclosed.failure error hresult
      exact (herror _ hresult).mp hwork
  · intro hcontained
    refine ⟨fun error hresult => ?_, hhealth⟩
    have hfailure := (herror error hresult).mpr hcontained
    cases error with
    | mappingFailure fault =>
      exact ⟨fault, rfl, fault.accounting.1, fault.accounting.2, hfailure⟩
    | _ => exact hfailure.elim

/-- An engine that fails wherever it is asked. -/
@[reducible] def crashedEngine : NativeEnvironment Unit Unit where
  member _ world := (.error (.other "RuntimeError"), world)
  call _ _ world := (.error (.other "RuntimeError"), world)
  invoke _ _ _ world := (.error (.other "RuntimeError"), world)
  getattr _ _ world := (.error (.other "RuntimeError"), world)
  int _ world := (.error (.other "RuntimeError"), world)
  bool _ world := (.error (.other "RuntimeError"), world)
  str _ world := (.error (.other "RuntimeError"), world)
  item _ _ world := (.error (.other "RuntimeError"), world)
  items _ world := (.error (.other "RuntimeError"), world)
  differ _ _ world := (.error (.other "RuntimeError"), world)
  distinct _ world := (.error (.other "RuntimeError"), world)

/-- The documents of choices have digests where every value has bytes. -/
theorem compactCanonicalizer_digestsChoices :
    letI := compactCanonicalizer
    DigestsChoices := by
  let _ := compactCanonicalizer
  intro kind native _
  unfold Digest.manifest
  split
  · exact ⟨_, rfl⟩
  · next error herror => cases herror

/-- An engine that knows states and choices, whose states have no sides. -/
@[reducible] def sidelessEngine : NativeEnvironment Unit Unit :=
  { crashedEngine with
    call := fun name _ world =>
      if name = "State.from_string" then (.ok (.object ()), world)
      else (.ok (.tuple [.list [.str "tackle"], .list [.str "tackle"]]), world) }

end BattleBelief
