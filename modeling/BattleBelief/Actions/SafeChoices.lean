import BattleBelief.Actions.RequestReader
import BattleBelief.Library.Runs
import Mathlib.Data.List.Nodup
import Mathlib.Data.List.Permutation

/-!
# Safe Choices

What a request offers, told from its JSON document alone, and that the reader hands out exactly
this: no choice is left out, none is made up, and the default stands last.

- `Offers`: the choices of a document, by the kind of its request
- `safe_choices_exact`: the submissions of a request are those that its document offers
-/

namespace BattleBelief

open Outcomes Runs
open Python (Json)

/-! ## §1 Orders -/

section Orders

variable {α : Type} {x : α} {xs rest order : List α}

/-- Every element can be picked, with the others left in some order. -/
theorem exists_pick (h : x ∈ xs) : ∃ rest, (x, rest) ∈ picks xs ∧ (x :: rest).Perm xs := by
  induction xs with
  | nil => cases h
  | cons y ys ih =>
    rcases List.mem_cons.mp h with rfl | htail
    · exact ⟨ys, List.mem_cons_self, .refl _⟩
    · obtain ⟨others, hpick, -⟩ := ih htail
      have hmem : (x, y :: others) ∈ picks (y :: ys) :=
        List.mem_cons_of_mem _ (List.mem_map.mpr ⟨(x, others), hpick, rfl⟩)
      exact ⟨y :: others, hmem, picks_perm hmem⟩

theorem picks_fst (xs : List α) : (picks xs).map Prod.fst = xs := by
  induction xs with
  | nil => rfl
  | cons y ys ih =>
    rw [picks, List.map_cons, List.map_map]
    exact congrArg (y :: ·) ih

/-- The orders of a list are its permutations. -/
theorem mem_permutations : order ∈ permutations xs.length xs ↔ order.Perm xs := by
  refine ⟨permutations_perm, fun h => ?_⟩
  generalize hn : xs.length = n
  induction n generalizing xs order with
  | zero =>
    obtain rfl := List.length_eq_zero_iff.mp hn
    rw [List.perm_nil.mp h]
    exact List.mem_cons_self
  | succ n ih =>
    cases order with
    | nil =>
      rw [List.nil_perm.mp h] at hn
      cases hn
    | cons y ys =>
      obtain ⟨rest, hpick, hperm⟩ := exists_pick (h.subset List.mem_cons_self)
      have hys : ys.Perm rest := List.Perm.cons_inv (h.trans hperm.symm)
      have hlength : rest.length = n := by
        have hall := hperm.length_eq
        rw [List.length_cons, hn] at hall
        exact Nat.succ.inj hall
      exact List.mem_flatMap.mpr ⟨(y, rest), hpick, List.mem_map.mpr ⟨ys, ih hys hlength, rfl⟩⟩

/-- The others are left in their order. -/
theorem picks_sublist (h : (x, rest) ∈ picks xs) : rest.Sublist xs := by
  induction xs generalizing rest with
  | nil => cases h
  | cons y ys ih =>
    rcases List.mem_cons.mp h with heq | htail
    · obtain ⟨rfl, rfl⟩ := Prod.mk.inj heq
      exact List.sublist_cons_self _ _
    · obtain ⟨⟨z, others⟩, hpick, heq⟩ := List.mem_map.mp htail
      obtain ⟨rfl, rfl⟩ := Prod.mk.inj heq
      exact (ih hpick).cons_cons y

/-- The orders of a sorted list stand in lexicographic order. -/
theorem sorted_permutations [LT α] (h : xs.Pairwise (· < ·)) :
    (permutations xs.length xs).Pairwise (· < ·) := by
  generalize hn : xs.length = n
  induction n generalizing xs with
  | zero => exact List.pairwise_singleton _ _
  | succ n ih =>
    have hfirsts : ((picks xs).map Prod.fst).Pairwise (· < ·) := by
      rw [picks_fst]
      exact h
    refine List.pairwise_flatMap.mpr ⟨fun pick hpick => ?_, ?_⟩
    · obtain ⟨y, rest⟩ := pick
      have hlength : rest.length = n := by
        have hall := (picks_perm hpick).length_eq
        rw [List.length_cons, hn] at hall
        exact Nat.succ.inj hall
      refine List.pairwise_map.mpr ((ih (h.sublist (picks_sublist hpick)) hlength).imp ?_)
      exact fun hlt => List.cons_lt_cons_iff.mpr (.inr ⟨rfl, hlt⟩)
    · -- the first elements decide
      refine (List.pairwise_map.mp hfirsts).imp fun {first second} hlt => ?_
      intro order hfirst order' hsecond
      obtain ⟨_, -, rfl⟩ := List.mem_map.mp hfirst
      obtain ⟨_, -, rfl⟩ := List.mem_map.mp hsecond
      exact List.cons_lt_cons_iff.mpr (.inl hlt)

/-- There are `n!` of them. -/
theorem length_permutations [DecidableEq α] (h : xs.Nodup)
    (horders : (permutations xs.length xs).Nodup) :
    (permutations xs.length xs).length = xs.length.factorial := by
  have hsame : (permutations xs.length xs).Perm xs.permutations := by
    refine (List.perm_ext_iff_of_nodup horders (List.nodup_permutations xs h)).mpr ?_
    intro order
    rw [mem_permutations, List.mem_permutations]
  rw [hsame.length_eq, List.length_permutations]

end Orders

/-! ## §2 Submissions by their kind -/

theorem BattleSubmission.create_eq_ok {kind : ActionKind} {provenance : ActionProvenance}
    {slot : Option Int} {moveId : Option String} {terastallize : Bool} {teamOrder : List Int}
    {submission : BattleSubmission} :
    BattleSubmission.create kind provenance slot moveId terastallize teamOrder = .ok submission ↔
      submission.kind = kind ∧ submission.provenance = provenance ∧ submission.slot = slot ∧
        submission.moveId = moveId ∧ submission.terastallize = terastallize ∧
        submission.teamOrder = teamOrder := by
  unfold BattleSubmission.create
  split
  · next complaint hfault =>
    refine ⟨fun h => (by cases h), ?_⟩
    rintro ⟨rfl, rfl, rfl, rfl, rfl, rfl⟩
    rw [submission.valid] at hfault
    cases hfault
  · constructor
    · intro h
      obtain rfl := Except.ok.inj h
      exact ⟨rfl, rfl, rfl, rfl, rfl, rfl⟩
    · rintro ⟨rfl, rfl, rfl, rfl, rfl, rfl⟩
      rfl

/-- No check of its kind fails for a submission. -/
theorem BattleSubmission.passes (submission : BattleSubmission) :
    (∀ text ∈ submission.moveId, isMoveId text = true) ∧
      ∀ check ∈ submissionChecks submission.kind submission.provenance submission.slot
        submission.moveId submission.terastallize submission.teamOrder, check.1 = false := by
  have hvalid := submission.valid
  simp only [submissionFault, Option.map_eq_none_iff, List.find?_eq_none] at hvalid
  refine ⟨fun text htext => ?_, fun check hcheck => ?_⟩
  · have hid := hvalid _ List.mem_cons_self
    rw [htext] at hid
    simpa using hid
  · exact Bool.eq_false_iff.mpr (hvalid check (List.mem_cons_of_mem _ hcheck))

/-- A submission for a slot of the team: a switch or a revival. -/
theorem slotSubmission_eq_ok {kind : ActionKind} (hkind : kind = .switch ∨ kind = .revive)
    {slot : Nat} {submission : BattleSubmission} :
    slotSubmission kind slot = .ok submission ↔
      submission.kind = kind ∧ submission.slot = some (slot : Int) := by
  unfold slotSubmission
  rw [BattleSubmission.create_eq_ok]
  refine ⟨fun h => ⟨h.1, h.2.2.1⟩, fun ⟨hk, hslot⟩ => ?_⟩
  obtain ⟨-, hchecks⟩ := submission.passes
  -- the checks of the two kinds differ in their texts only
  rcases hkind with rfl | rfl
  all_goals
    rw [hk] at hchecks
    simp only [submissionChecks, List.forall_mem_cons] at hchecks
    obtain ⟨-, htera, hmove, horder, hprovenance, -⟩ := hchecks
    refine ⟨hk, ?_, hslot, ?_, htera, ?_⟩
    · simpa using hprovenance
    · simpa using hmove
    · simpa using horder

theorem teamSubmission_eq_ok {order : List Int} {submission : BattleSubmission} :
    teamSubmission order = .ok submission ↔
      submission.kind = .team ∧ submission.teamOrder = order := by
  unfold teamSubmission
  rw [BattleSubmission.create_eq_ok]
  refine ⟨fun h => ⟨h.1, h.2.2.2.2.2⟩, fun ⟨hk, horder⟩ => ?_⟩
  obtain ⟨-, hchecks⟩ := submission.passes
  rw [hk] at hchecks
  simp only [submissionChecks, List.forall_mem_cons] at hchecks
  obtain ⟨-, -, hslot, htera, hmove, hprovenance, -⟩ := hchecks
  refine ⟨hk, ?_, ?_, ?_, htera, horder⟩
  · simpa using hprovenance
  · simpa using hslot
  · simpa using hmove

theorem moveSubmission_eq_ok {slot : Nat} {moveId : String} {terastallize : Bool}
    {submission : BattleSubmission} :
    moveSubmission slot moveId terastallize = .ok submission ↔
      submission.kind = .move ∧ submission.slot = some (slot : Int) ∧
        submission.moveId = some moveId ∧ submission.terastallize = terastallize := by
  unfold moveSubmission
  rw [BattleSubmission.create_eq_ok]
  refine ⟨fun h => ⟨h.1, h.2.2.1, h.2.2.2.1, h.2.2.2.2.1⟩, fun ⟨hk, hslot, hmove, htera⟩ => ?_⟩
  obtain ⟨-, hchecks⟩ := submission.passes
  rw [hk] at hchecks
  simp only [submissionChecks, List.forall_mem_cons] at hchecks
  obtain ⟨-, -, horder, hprovenance, -⟩ := hchecks
  refine ⟨hk, ?_, hslot, hmove, htera, ?_⟩
  · simpa using hprovenance
  · simpa using horder

/-- The default is the only submission of its kind. -/
theorem eq_defaultSubmission_iff {submission : BattleSubmission} :
    submission = defaultSubmission ↔ submission.kind = .default := by
  refine ⟨fun h => h ▸ rfl, fun hk => ?_⟩
  obtain ⟨-, hchecks⟩ := submission.passes
  rw [hk] at hchecks
  simp only [submissionChecks, List.forall_mem_cons] at hchecks
  obtain ⟨hprovenance, hslot, hmove, htera, horder, -⟩ := hchecks
  obtain ⟨kind, provenance, slot, moveId, terastallize, teamOrder, valid⟩ := submission
  obtain rfl : kind = .default := hk
  obtain rfl : provenance = .serverDefault := by simpa using hprovenance
  obtain rfl : slot = none := by simpa using hslot
  obtain rfl : moveId = none := by simpa using hmove
  obtain rfl : terastallize = false := htera
  obtain rfl : teamOrder = [] := by simpa using horder
  rfl

theorem BattleSubmission.teamOrder_of_kind {submission : BattleSubmission}
    (h : submission.kind ≠ .team) : submission.teamOrder = [] := by
  obtain ⟨-, hchecks⟩ := submission.passes
  cases hkind : submission.kind with
  | team => exact absurd hkind h
  | _ =>
    simp [submissionChecks, hkind] at hchecks
    tauto

theorem BattleSubmission.slot_of_team {submission : BattleSubmission}
    (h : submission.kind = .team) : submission.slot = none := by
  obtain ⟨-, hchecks⟩ := submission.passes
  simp [submissionChecks, h] at hchecks
  exact hchecks.2.2.1

/-! ## §3 What a document offers -/

/-- A boolean field, where it is one. -/
def Members.flag (payload : Members) (key : String) : Bool :=
  match Json.get? payload key with
  | some (.bool value) => value
  | _ => false

/-- A text field, where it is one. -/
def Members.text (payload : Members) (key : String) : String :=
  match Json.get? payload key with
  | some (.str text) => text
  | _ => ""

/-- An object field, where it is one. -/
def Members.object (payload : Members) (key : String) : Members :=
  match Json.get? payload key with
  | some (.obj members) => members
  | _ => []

def asObject : Json → Option Members
  | .obj members => some members
  | _ => none

/-- The objects of an array field, where it is one. -/
def Members.objects (payload : Members) (key : String) : List Members :=
  match Json.get? payload key with
  | some (.arr items) => items.filterMap asObject
  | _ => []

/-- The pokemon of the side that is asked. -/
def Members.team (payload : Members) : List Members := (payload.object "side").objects "pokemon"

/-- What the active pokemon can do. -/
def Members.activeEntry (payload : Members) : Members := (payload.objects "active").headD []

def Members.moves (payload : Members) : List Members := payload.activeEntry.objects "moves"

/-- `forceSwitch` is an array with the one item `true`. -/
def Members.isForced (payload : Members) : Bool :=
  match Json.get? payload "forceSwitch" with
  | some (.arr [.bool value]) => value
  | _ => false

/-- A move that is not disabled, neither by a flag nor for a reason. -/
def isEnabled (move : Members) : Bool :=
  match Json.get? move "disabled" with
  | some (.bool value) => !value
  | some (.str reason) => reason = ""
  | _ => true

/-- The kind of request that a document stands for. -/
def requestKindOf (payload : Members) : RequestKind :=
  if payload.flag "wait" then .wait
  else if payload.flag "teamPreview" then .teamPreview
  else if (payload.team.find? fun member => member.flag "active").any fun member =>
      member.flag "reviving" then .revival
  else if payload.isForced then .forcedSwitch
  else .move

/-- The number of a place that holds an element with `p`, from 1. -/
def IsPlace {α : Type} (p : α → Prop) (xs : List α) (slot : Option Int) : Prop :=
  ∃ (index : Nat) (x : α), xs[index]? = some x ∧ p x ∧ slot = some ((index : Int) + 1)

/-- On the bench, and fit to fight. -/
def IsHealthyBench (member : Members) : Prop :=
  member.flag "active" = false ∧ pokemonFainted (member.text "condition") = false

/-- On the bench, and fainted. -/
def IsFaintedBench (member : Members) : Prop :=
  member.flag "active" = false ∧ pokemonFainted (member.text "condition") = true

/-- The submissions that a document offers besides the default, by the kind of its request. -/
def Offers (payload : Members) (submission : BattleSubmission) : Prop :=
  match requestKindOf payload with
  | .wait => False
  | .teamPreview =>
      submission.kind = .team ∧ submission.teamOrder.Perm (slotRange payload.team.length)
  | .revival =>
      submission.kind = .revive ∧ IsPlace IsFaintedBench payload.team submission.slot
  | .forcedSwitch =>
      submission.kind = .switch ∧ IsPlace IsHealthyBench payload.team submission.slot
  | .move =>
      payload.activeEntry.flag "maybeDisabled" = false ∧
        payload.activeEntry.flag "maybeLocked" = false ∧
        ((submission.kind = .move ∧
            (submission.terastallize = true → payload.activeEntry.text "canTerastallize" ≠ "") ∧
            IsPlace (fun move => isEnabled move = true ∧ submission.moveId = some (move.text "id"))
              payload.moves submission.slot) ∨
          (submission.kind = .switch ∧ payload.activeEntry.flag "trapped" = false ∧
            payload.activeEntry.flag "maybeTrapped" = false ∧
            IsPlace IsHealthyBench payload.team submission.slot))

/-! ## §4 What the reader takes from a document -/

section Reading

variable {payload : Members} {key context text : String} {value : Json} {b : Bool}

theorem requireObject_eq_ok {members : Members} :
    requireObject value context = .ok members ↔ value = .obj members := by
  unfold requireObject
  split
  · exact ⟨fun h => congrArg _ (Except.ok.inj h), fun h => congrArg _ (Json.obj.inj h)⟩
  · next hvalue => exact ⟨fun h => (by cases h), fun h => absurd h (hvalue members)⟩

theorem requireBool_eq_ok : requireBool value context = .ok b ↔ value = .bool b := by
  unfold requireBool
  split
  · exact ⟨fun h => congrArg _ (Except.ok.inj h), fun h => congrArg _ (Json.bool.inj h)⟩
  · next hvalue => exact ⟨fun h => (by cases h), fun h => absurd h (hvalue b)⟩

theorem requireList_eq_ok {items : List Json} :
    requireList value context = .ok items ↔ value = .arr items := by
  unfold requireList
  split
  · exact ⟨fun h => congrArg _ (Except.ok.inj h), fun h => congrArg _ (Json.arr.inj h)⟩
  · next hvalue => exact ⟨fun h => (by cases h), fun h => absurd h (hvalue items)⟩

theorem requireStringValue_eq_ok : requireStringValue value context = .ok text ↔ value = .str text := by
  unfold requireStringValue
  split
  · exact ⟨fun h => congrArg _ (Except.ok.inj h), fun h => congrArg _ (Json.str.inj h)⟩
  · next hvalue => exact ⟨fun h => (by cases h), fun h => absurd h (hvalue text)⟩

theorem requireString_eq_ok :
    requireString value context = .ok text ↔ value = .str text ∧ text ≠ "" := by
  unfold requireString
  split
  · next found =>
    split_ifs with hempty
    · refine ⟨fun h => (by cases h), fun ⟨h, hne⟩ => ?_⟩
      obtain rfl := Json.str.inj h
      exact absurd hempty hne
    · refine ⟨fun h => ?_, fun h => congrArg _ (Json.str.inj h.1)⟩
      obtain rfl := Except.ok.inj h
      exact ⟨rfl, hempty⟩
  · next hvalue => exact ⟨fun h => (by cases h), fun h => absurd h.1 (hvalue text)⟩

/-- A field that has to be there, as its value. -/
theorem get?_of_get (h : payload.get key = value) (hvalue : value ≠ .null) :
    Json.get? payload key = some value := by
  unfold Members.get at h
  cases hget : Json.get? payload key with
  | none =>
    rw [hget] at h
    exact absurd h.symm hvalue
  | some found =>
    rw [hget] at h
    exact congrArg some h

theorem flag_of_optionalBool (h : optionalBool payload key = .ok b) : payload.flag key = b := by
  unfold optionalBool at h
  unfold Members.flag
  split at h
  · next hget =>
    rw [hget]
    exact Except.ok.inj h
  · next found hget =>
    obtain rfl := requireBool_eq_ok.mp h
    rw [hget]

theorem flag_of_requireBool (h : requireBool (payload.get key) context = .ok b) :
    payload.flag key = b := by
  have hget := get?_of_get (requireBool_eq_ok.mp h) (by simp)
  unfold Members.flag
  rw [hget]

theorem text_of_requireString (h : requireString (payload.get key) context = .ok text) :
    payload.text key = text := by
  have hget := get?_of_get (requireString_eq_ok.mp h).1 (by simp)
  unfold Members.text
  rw [hget]

/-- The objects among some items, if all of them are objects. -/
theorem filterMap_asObject {members : List Members} :
    (members.map Json.obj).filterMap asObject = members := by
  induction members with
  | nil => rfl
  | cons member rest ih => exact congrArg (member :: ·) ih

/-- A map that reads objects has its results from the objects of the field. -/
theorem forall₂_of_mapM {α : Type} {items : List Json} {read : Json × Nat → Except PyException α}
    {R : Members → α → Prop} {results : List α} (h : items.zipIdx.mapM read = .ok results)
    (hread : ∀ entry result, read entry = .ok result → ∃ member, entry.1 = .obj member ∧
      R member result) : List.Forall₂ R (items.filterMap asObject) results := by
  have hall := mapM_eq_ok.mp h
  have hobjects : ∃ members : List Members, items = members.map Json.obj ∧
      List.Forall₂ R members results := by
    generalize hstart : items.zipIdx = entries at hall
    obtain rfl : items = entries.map Prod.fst := by
      rw [← hstart, List.zipIdx_map_fst]
    clear hstart h
    induction hall with
    | nil => exact ⟨[], rfl, .nil⟩
    | @cons entry result entries results hentry _ ih =>
      obtain ⟨member, hmember, hR⟩ := hread entry result hentry
      obtain ⟨members, hmembers, hrest⟩ := ih
      refine ⟨member :: members, ?_, .cons hR hrest⟩
      rw [List.map_cons, List.map_cons, hmember, hmembers]
  obtain ⟨members, rfl, hmembers⟩ := hobjects
  rw [filterMap_asObject]
  exact hmembers

end Reading

/-- A move as the reader takes it. -/
structure ReadMove (entry : Members) (move : RequestMove) : Prop where
  enabled : isEnabled entry = !move.disabled
  moveId : entry.text "id" = move.moveId

theorem readMove_of_parse {value : Json} {index : Nat} {move : RequestMove}
    (h : parseRequestMove value index = .ok move) :
    ∃ entry, value = .obj entry ∧ ReadMove entry move := by
  unfold parseRequestMove at h
  obtain ⟨entry, hentry, h⟩ := bind_eq_ok.mp h
  obtain ⟨moveId, hmoveId, h⟩ := bind_eq_ok.mp h
  obtain ⟨disabled, hdisabled, h⟩ := bind_eq_ok.mp h
  obtain ⟨_, -, h⟩ := bind_eq_ok.mp h
  obtain ⟨_, -, h⟩ := bind_eq_ok.mp h
  obtain ⟨_, -, h⟩ := bind_eq_ok.mp h
  obtain ⟨_, -, h⟩ := bind_eq_ok.mp h
  obtain rfl := Except.ok.inj h
  refine ⟨entry, requireObject_eq_ok.mp hentry, ?_, text_of_requireString hmoveId⟩
  unfold parseDisabled at hdisabled
  unfold isEnabled
  split at hdisabled
  · next hget =>
    obtain rfl := Except.ok.inj hdisabled
    rw [hget]
    rfl
  · next flag hget =>
    obtain rfl := Except.ok.inj hdisabled
    rw [hget]
  · next reason hget =>
    obtain rfl := Except.ok.inj hdisabled
    rw [hget]
    simp
  · cases hdisabled

/-- The active part of a request as the reader takes it. -/
structure ReadActive (entry : Members) (active : ActiveRequest) : Prop where
  moves : List.Forall₂ ReadMove (entry.objects "moves") active.moves
  canTerastallize : entry.text "canTerastallize" = active.canTerastallize
  trapped : entry.flag "trapped" = active.trapped
  maybeTrapped : entry.flag "maybeTrapped" = active.maybeTrapped
  maybeDisabled : entry.flag "maybeDisabled" = active.maybeDisabled
  maybeLocked : entry.flag "maybeLocked" = active.maybeLocked

theorem activeEntry_of_validate {payload entry : Members}
    (h : validateActiveShape (payload.get "active") = .ok entry) : payload.activeEntry = entry := by
  unfold validateActiveShape at h
  split at h
  · next value hget =>
    obtain rfl := requireObject_eq_ok.mp h
    rw [Members.activeEntry, Members.objects, get?_of_get hget (by simp)]
    rfl
  · cases h

theorem readActive_of_parse {payload : Members} {active : ActiveRequest}
    (h : parseActiveRequest payload = .ok active) : ReadActive payload.activeEntry active := by
  unfold parseActiveRequest at h
  obtain ⟨entry, hentry, h⟩ := bind_eq_ok.mp h
  obtain ⟨items, hitems, h⟩ := bind_eq_ok.mp h
  obtain ⟨moves, hmoves, h⟩ := bind_eq_ok.mp h
  obtain ⟨canTerastallize, htera, h⟩ := bind_eq_ok.mp h
  obtain ⟨trapped, htrapped, h⟩ := bind_eq_ok.mp h
  obtain ⟨maybeTrapped, hmaybeTrapped, h⟩ := bind_eq_ok.mp h
  obtain ⟨maybeDisabled, hmaybeDisabled, h⟩ := bind_eq_ok.mp h
  obtain ⟨maybeLocked, hmaybeLocked, h⟩ := bind_eq_ok.mp h
  obtain rfl := Except.ok.inj h
  obtain rfl := activeEntry_of_validate hentry
  refine ⟨?_, ?_, flag_of_optionalBool htrapped, flag_of_optionalBool hmaybeTrapped,
    flag_of_optionalBool hmaybeDisabled, flag_of_optionalBool hmaybeLocked⟩
  · obtain ⟨found, hfound, hsize⟩ := bind_eq_ok.mp hitems
    split_ifs at hsize
    · obtain rfl := Except.ok.inj hsize
      rw [Members.objects, get?_of_get (requireList_eq_ok.mp hfound) (by simp)]
      exact forall₂_of_mapM hmoves fun _ _ => readMove_of_parse
    · cases hsize
  · unfold parseCanTerastallize at htera
    unfold Members.text
    split at htera
    · next hget =>
      rw [hget]
      exact Except.ok.inj htera
    · next value hget =>
      obtain rfl := requireStringValue_eq_ok.mp htera
      rw [hget]

/-- The flags as the reader takes them. -/
structure ReadFlags (payload : Members) (flags : RequestFlags) : Prop where
  wait : payload.flag "wait" = flags.wait
  teamPreview : payload.flag "teamPreview" = flags.teamPreview
  forced : payload.isForced = decide (flags.forceSwitch = some true)

theorem readFlags_eq_ok {payload : Members} {flags : RequestFlags}
    (h : readFlags payload = .ok flags) : ReadFlags payload flags := by
  unfold readFlags at h
  obtain ⟨wait, hwait, h⟩ := bind_eq_ok.mp h
  obtain ⟨teamPreview, hpreview, h⟩ := bind_eq_ok.mp h
  obtain ⟨update, -, h⟩ := bind_eq_ok.mp h
  obtain ⟨forceSwitch, hforce, h⟩ := bind_eq_ok.mp h
  obtain ⟨_, -, h⟩ := bind_eq_ok.mp h
  obtain rfl := Except.ok.inj h
  refine ⟨flag_of_optionalBool hwait, flag_of_optionalBool hpreview, ?_⟩
  unfold parseForceSwitch at hforce
  unfold Members.isForced
  split at hforce
  · next hget =>
    obtain rfl := Except.ok.inj hforce
    rw [hget]
    rfl
  · next value hget =>
    obtain ⟨forced, hforced, rfl⟩ := map_eq_ok.mp hforce
    obtain rfl := requireBool_eq_ok.mp hforced
    rw [hget]
    simp
  · cases hforce

section Database

variable [Python.UnicodeDatabase]

/-- A pokemon as the reader takes it from a member of the team. -/
structure ReadFrom (member : Members) (pokemon : RequestPokemon) : Prop where
  active : member.flag "active" = pokemon.active
  reviving : member.flag "reviving" = pokemon.reviving
  condition : member.text "condition" = pokemon.condition
  named : ∃ nickname, nicknameFromIdent pokemon.ident = .ok nickname

/-- An ident of a side has a nickname. -/
theorem named_of_ident {ident sideId : String}
    (h : ¬(decide (((Python.splitOnce ident ": ").getD (ident, "")).1 ≠ sideId) ||
      decide (((Python.splitOnce ident ": ").getD (ident, "")).2 = "")) = true) :
    ∃ nickname, nicknameFromIdent ident = .ok nickname := by
  unfold nicknameFromIdent
  cases hsplit : Python.splitOnce ident ": " with
  | none => simp [hsplit] at h
  | some parts =>
    obtain ⟨side, nickname⟩ := parts
    have hnickname : nickname ≠ "" := by
      rw [hsplit] at h
      simp at h
      exact h.2
    exact ⟨nickname, if_neg hnickname⟩

theorem readFrom_of_parse {sideId : String} {value : Json} {index : Nat} {pokemon : RequestPokemon}
    (h : parseRequestPokemon sideId value index = .ok pokemon) :
    ∃ member, value = .obj member ∧ ReadFrom member pokemon := by
  unfold parseRequestPokemon at h
  obtain ⟨member, hmember, h⟩ := bind_eq_ok.mp h
  obtain ⟨ident, -, h⟩ := bind_eq_ok.mp h
  dsimp only at h
  split_ifs at h with hident
  · obtain ⟨_, hrefused, -⟩ := bind_eq_ok.mp h
    cases hrefused
  obtain ⟨_, -, h⟩ := bind_eq_ok.mp h
  obtain ⟨condition, hcondition, h⟩ := bind_eq_ok.mp h
  obtain ⟨active, hactive, h⟩ := bind_eq_ok.mp h
  split at h
  all_goals
    next hget =>
    obtain ⟨reviving, hread, h⟩ := bind_eq_ok.mp h
    obtain ⟨_, -, h⟩ := bind_eq_ok.mp h
    obtain ⟨_, -, h⟩ := bind_eq_ok.mp h
    obtain ⟨_, -, h⟩ := bind_eq_ok.mp h
    obtain rfl := Except.ok.inj h
    refine ⟨member, requireObject_eq_ok.mp hmember, flag_of_requireBool hactive, ?_,
      text_of_requireString hcondition, named_of_ident hident⟩
    rw [Members.flag, hget]
    first
      | exact Except.ok.inj hread
      | rw [requireBool_eq_ok.mp hread]

/-- The team of a side, member by member. -/
theorem team_of_parseSide {payload : Members} {sideId : String} {pokemon : List RequestPokemon}
    (h : parseSide (payload.get "side") = .ok (sideId, pokemon)) :
    List.Forall₂ ReadFrom payload.team pokemon := by
  unfold parseSide at h
  obtain ⟨side, hside, h⟩ := bind_eq_ok.mp h
  obtain ⟨id, -, h⟩ := bind_eq_ok.mp h
  obtain ⟨_, -, h⟩ := bind_eq_ok.mp h
  obtain ⟨items, hitems, h⟩ := bind_eq_ok.mp h
  obtain ⟨members, hmembers, h⟩ := bind_eq_ok.mp h
  split_ifs at h
  · cases h
  obtain ⟨rfl, rfl⟩ := Prod.mk.inj (Except.ok.inj h)
  have hobject : payload.object "side" = side := by
    rw [Members.object, get?_of_get (requireObject_eq_ok.mp hside) (by simp)]
  have hpokemon : payload.team = items.filterMap asObject := by
    obtain ⟨found, hfound, hsize⟩ := bind_eq_ok.mp hitems
    split_ifs at hsize
    · obtain rfl := Except.ok.inj hsize
      rw [Members.team, hobject, Members.objects,
        get?_of_get (requireList_eq_ok.mp hfound) (by simp)]
    · cases hsize
  rw [hpokemon]
  exact forall₂_of_mapM hmembers fun _ _ => readFrom_of_parse

end Database

/-! ## §5 Lists of submissions -/

/-- Where a submission stands among the others: moves come first and the default last; then the
slot decides, then terastallization, then the order of the team. -/
def BattleSubmission.place (submission : BattleSubmission) : List Int :=
  let rank : Int :=
    match submission.kind with
    | .move => 0
    | .default => 2
    | _ => 1
  rank :: submission.slot.getD 0 :: (if submission.terastallize then 1 else 0) ::
    submission.teamOrder

/-- The submissions with `P`, each once and in order. -/
structure IsListing (P : BattleSubmission → Prop) (submissions : List BattleSubmission) : Prop where
  mem_iff : ∀ submission, submission ∈ submissions ↔ P submission
  sorted : submissions.Pairwise fun first second => first.place < second.place

section Listings

variable {P Q : BattleSubmission → Prop} {first second : List BattleSubmission}

theorem IsListing.nil (h : ∀ submission, ¬P submission) : IsListing P [] :=
  ⟨fun submission => iff_of_false List.not_mem_nil (h submission), .nil⟩

theorem IsListing.congr (h : IsListing P first) (hPQ : ∀ submission, P submission ↔ Q submission) :
    IsListing Q first :=
  ⟨fun submission => (h.mem_iff submission).trans (hPQ submission), h.sorted⟩

theorem IsListing.append (hfirst : IsListing P first) (hsecond : IsListing Q second)
    (hlt : ∀ a b, P a → Q b → a.place < b.place) :
    IsListing (fun submission => P submission ∨ Q submission) (first ++ second) := by
  refine ⟨fun submission => ?_, List.pairwise_append.mpr ⟨hfirst.sorted, hsecond.sorted, ?_⟩⟩
  · rw [List.mem_append, hfirst.mem_iff, hsecond.mem_iff]
  · intro a ha b hb
    exact hlt a b ((hfirst.mem_iff a).mp ha) ((hsecond.mem_iff b).mp hb)

theorem IsListing.nodup (h : IsListing P first) : first.Nodup :=
  h.sorted.imp fun {a b} (hlt : a.place < b.place) (heq : a = b) =>
    List.lt_irrefl b.place (heq ▸ hlt)

/-- The default stands behind everything else. -/
theorem place_lt_default {submission : BattleSubmission} (h : submission.kind ≠ .default) :
    submission.place < defaultSubmission.place := by
  refine List.cons_lt_cons_iff.mpr (.inl ?_)
  cases hkind : submission.kind with
  | default => exact absurd hkind h
  | _ => simp [defaultSubmission]

/-- A map that makes one submission of each input lists them. -/
theorem isListing_of_mapM {α : Type} {f : α → Except PyException BattleSubmission} {inputs : List α}
    {lt : α → α → Prop} (h : inputs.mapM f = .ok first) (hinputs : inputs.Pairwise lt)
    (hlt : ∀ a b s t, lt a b → f a = .ok s → f b = .ok t → s.place < t.place) :
    IsListing (fun submission => ∃ a ∈ inputs, f a = .ok submission) first := by
  refine ⟨fun submission => ⟨mem_of_mapM h, ?_⟩, ?_⟩
  · rintro ⟨a, ha, hsubmission⟩
    obtain ⟨found, hmem, hfound⟩ := exists_of_mapM h ha
    obtain rfl := Except.ok.inj (hsubmission.symm.trans hfound)
    exact hmem
  · have hall := mapM_eq_ok.mp h
    clear h
    induction hall with
    | nil => exact .nil
    | @cons a s inputs outputs hhead htail ih =>
      obtain ⟨hfirst, hrest⟩ := List.pairwise_cons.mp hinputs
      refine List.pairwise_cons.mpr ⟨fun t ht => ?_, ih hrest⟩
      obtain ⟨b, hb, hbt⟩ := exists_of_forall₂ htail ht
      exact hlt a b s t (hfirst b hb) hhead hbt

end Listings

section Slots

variable {p : RequestPokemon → Bool} {pokemon : List RequestPokemon}

theorem mem_zipIdx_one {α : Type} {xs : List α} {x : α} {slot : Nat} :
    (x, slot) ∈ xs.zipIdx 1 ↔ ∃ index, xs[index]? = some x ∧ slot = index + 1 := by
  rw [List.mk_mem_zipIdx_iff_le_and_getElem?_sub]
  constructor
  · rintro ⟨hle, hget⟩
    exact ⟨slot - 1, hget, (Nat.sub_add_cancel hle).symm⟩
  · rintro ⟨index, hget, rfl⟩
    exact ⟨Nat.le_add_left 1 index, hget⟩

/-- The places of a list are numbered upwards. -/
theorem sorted_zipIdx {α : Type} (xs : List α) (start : Nat) :
    (xs.zipIdx start).Pairwise fun first second => first.2 < second.2 := by
  refine List.pairwise_map.mp ?_
  rw [List.zipIdx_map_snd]
  exact List.pairwise_lt_range'

theorem mem_slotsWhere {slot : Nat} :
    slot ∈ slotsWhere p pokemon ↔
      IsPlace (fun member => p member = true) pokemon (some (slot : Int)) := by
  have hentries : slot ∈ slotsWhere p pokemon ↔
      ∃ member, (member, slot) ∈ pokemon.zipIdx 1 ∧ p member = true := by
    simp only [slotsWhere, List.mem_filterMap, Prod.exists, Option.ite_none_right_eq_some,
      Option.some.injEq]
    constructor
    · rintro ⟨member, slot, hmem, hp, rfl⟩
      exact ⟨member, hmem, hp⟩
    · rintro ⟨member, hmem, hp⟩
      exact ⟨member, slot, hmem, hp, rfl⟩
  rw [hentries]
  constructor
  · rintro ⟨member, hmem, hp⟩
    obtain ⟨index, hget, rfl⟩ := mem_zipIdx_one.mp hmem
    exact ⟨index, member, hget, hp, rfl⟩
  · rintro ⟨index, member, hget, hp, hslot⟩
    refine ⟨member, mem_zipIdx_one.mpr ⟨index, hget, ?_⟩, hp⟩
    exact Int.ofNat.inj (Option.some.inj hslot)

theorem sorted_slotsWhere (p : RequestPokemon → Bool) (pokemon : List RequestPokemon) :
    (slotsWhere p pokemon).Pairwise (· < ·) := by
  refine (sorted_zipIdx pokemon 1).filterMap _ fun first second hlt slot hslot slot' hslot' => ?_
  obtain ⟨-, hfirst⟩ := Option.ite_none_right_eq_some.mp hslot
  obtain ⟨-, hsecond⟩ := Option.ite_none_right_eq_some.mp hslot'
  obtain rfl := Option.some.inj hfirst
  obtain rfl := Option.some.inj hsecond
  exact hlt

/-- The submissions for the slots with `p`. -/
theorem slotSubmissions_listing {kind : ActionKind} (hkind : kind = .switch ∨ kind = .revive)
    {submissions : List BattleSubmission}
    (h : (slotsWhere p pokemon).mapM (slotSubmission kind) = .ok submissions) :
    IsListing (fun submission => submission.kind = kind ∧
      IsPlace (fun member => p member = true) pokemon submission.slot) submissions := by
  refine (isListing_of_mapM h (sorted_slotsWhere p pokemon) ?_).congr fun submission => ?_
  · intro a b s t hlt hs ht
    obtain ⟨hskind, hsslot⟩ := (slotSubmission_eq_ok hkind).mp hs
    obtain ⟨htkind, htslot⟩ := (slotSubmission_eq_ok hkind).mp ht
    simp only [BattleSubmission.place, hskind, htkind, hsslot, htslot, Option.getD_some]
    refine List.cons_lt_cons_iff.mpr (.inr ⟨rfl, List.cons_lt_cons_iff.mpr (.inl ?_)⟩)
    exact Int.ofNat_lt.mpr hlt
  · constructor
    · rintro ⟨slot, hmem, hslot⟩
      obtain ⟨hk, hs⟩ := (slotSubmission_eq_ok hkind).mp hslot
      rw [hs]
      exact ⟨hk, mem_slotsWhere.mp hmem⟩
    · rintro ⟨hk, hplace⟩
      obtain ⟨index, member, hget, hp, hs⟩ := hplace
      refine ⟨index + 1, mem_slotsWhere.mpr ⟨index, member, hget, hp, rfl⟩, ?_⟩
      exact (slotSubmission_eq_ok hkind).mpr ⟨hk, hs⟩

end Slots

section Moves

variable {canTera : Bool} {move : RequestMove} {slot : Nat} {moves : List RequestMove}

/-- A move submission that a request move allows. -/
def AllowsMove (canTera : Bool) (move : RequestMove) (submission : BattleSubmission) : Prop :=
  move.disabled = false ∧ submission.moveId = some move.moveId ∧
    (submission.terastallize = true → canTera = true)

theorem eq_iff_of_moveSubmission {moveId : String} {terastallize : Bool}
    {made submission : BattleSubmission} (h : moveSubmission slot moveId terastallize = .ok made) :
    submission = made ↔ submission.kind = .move ∧ submission.slot = some (slot : Int) ∧
      submission.moveId = some moveId ∧ submission.terastallize = terastallize := by
  rw [← moveSubmission_eq_ok, h]
  exact ⟨fun heq => congrArg _ heq.symm, fun heq => (Except.ok.inj heq).symm⟩

theorem moveSubmissions_listing {submissions : List BattleSubmission}
    (h : moveSubmissions canTera move slot = .ok submissions) :
    IsListing (fun submission => submission.kind = .move ∧
      AllowsMove canTera move submission ∧ submission.slot = some (slot : Int)) submissions := by
  unfold moveSubmissions at h
  split_ifs at h with hdisabled htera
  · obtain rfl := Except.ok.inj h
    exact .nil fun submission hall => by simp [AllowsMove, hdisabled] at hall
  · obtain ⟨plain, hplain, h⟩ := bind_eq_ok.mp h
    obtain ⟨tera, hmade, h⟩ := bind_eq_ok.mp h
    obtain rfl := Except.ok.inj h
    refine ⟨fun submission => ?_, List.pairwise_pair.mpr ?_⟩
    · rw [List.mem_cons, List.mem_singleton, eq_iff_of_moveSubmission hplain,
        eq_iff_of_moveSubmission hmade]
      cases hflag : submission.terastallize <;> simp [AllowsMove, hdisabled, htera, hflag] <;> tauto
    · obtain ⟨hk, hs, -, ht⟩ := moveSubmission_eq_ok.mp hplain
      obtain ⟨hk', hs', -, ht'⟩ := moveSubmission_eq_ok.mp hmade
      simp only [BattleSubmission.place, hk, hk', hs, hs', ht, ht']
      simp [List.cons_lt_cons_iff]
  · obtain ⟨plain, hplain, h⟩ := bind_eq_ok.mp h
    obtain rfl := Except.ok.inj h
    refine ⟨fun submission => ?_, List.pairwise_singleton _ _⟩
    rw [List.mem_singleton, eq_iff_of_moveSubmission hplain]
    cases hflag : submission.terastallize <;> simp [AllowsMove, hdisabled, htera, hflag]
    tauto

/-- The submissions for all moves. -/
theorem allMoves_listing {lists : List (List BattleSubmission)}
    (h : (moves.zipIdx 1).mapM (fun (move, slot) => moveSubmissions canTera move slot)
      = .ok lists) :
    IsListing (fun submission => submission.kind = .move ∧
      IsPlace (fun move => AllowsMove canTera move submission) moves submission.slot)
      lists.flatten := by
  constructor
  · intro submission
    rw [List.mem_flatten]
    constructor
    · rintro ⟨submissions, hmem, hsubmission⟩
      obtain ⟨⟨move, slot⟩, hentry, hmade⟩ := mem_of_mapM h hmem
      obtain ⟨hk, hallows, hs⟩ := ((moveSubmissions_listing hmade).mem_iff submission).mp hsubmission
      obtain ⟨index, hget, rfl⟩ := mem_zipIdx_one.mp hentry
      exact ⟨hk, index, move, hget, hallows, hs⟩
    · rintro ⟨hk, index, move, hget, hallows, hs⟩
      have hentry : (move, index + 1) ∈ moves.zipIdx 1 := mem_zipIdx_one.mpr ⟨index, hget, rfl⟩
      obtain ⟨submissions, hmem, hmade⟩ := exists_of_mapM h hentry
      exact ⟨submissions, hmem, ((moveSubmissions_listing hmade).mem_iff submission).mpr ⟨hk, hallows, hs⟩⟩
  · have hall := mapM_eq_ok.mp h
    have hentries := sorted_zipIdx moves 1
    generalize moves.zipIdx 1 = entries at hall hentries
    clear h
    induction hall with
    | nil => exact .nil
    | @cons entry submissions entries lists hhead htail ih =>
      obtain ⟨hfirst, hrest⟩ := List.pairwise_cons.mp hentries
      have hlisting := moveSubmissions_listing hhead
      refine List.pairwise_append.mpr ⟨hlisting.sorted, ih hrest, fun a ha b hb => ?_⟩
      -- the slots of two moves decide
      obtain ⟨later, hlater, hb⟩ := List.mem_flatten.mp hb
      obtain ⟨entry', hentry', hmade⟩ := exists_of_forall₂ htail hlater
      obtain ⟨hk, -, hs⟩ := (hlisting.mem_iff a).mp ha
      obtain ⟨hk', -, hs'⟩ := ((moveSubmissions_listing hmade).mem_iff b).mp hb
      simp only [BattleSubmission.place, hk, hk', hs, hs', Option.getD_some]
      refine List.cons_lt_cons_iff.mpr (.inr ⟨rfl, List.cons_lt_cons_iff.mpr (.inl ?_)⟩)
      exact Int.ofNat_lt.mpr (hfirst entry' hentry')

end Moves

/-- The slots of a team stand in order. -/
theorem sorted_slotRange (size : Nat) : (slotRange size).Pairwise (· < ·) := by
  refine List.pairwise_map.mpr ((List.pairwise_lt_range' 1).imp fun hlt => ?_)
  exact Int.ofNat_lt.mpr hlt

theorem length_slotRange (size : Nat) : (slotRange size).length = size := by
  simp [slotRange]

theorem sorted_teamOrders (size : Nat) :
    (permutations size (slotRange size)).Pairwise (· < ·) := by
  have hsorted := sorted_permutations (sorted_slotRange size)
  rwa [length_slotRange] at hsorted

/-- The orders of a team preview. -/
theorem teamSubmissions_listing {size : Nat} {submissions : List BattleSubmission}
    (h : (permutations size (slotRange size)).mapM teamSubmission = .ok submissions) :
    IsListing (fun submission => submission.kind = .team ∧
      submission.teamOrder.Perm (slotRange size)) submissions := by
  refine (isListing_of_mapM h (sorted_teamOrders size) ?_).congr fun submission => ?_
  · intro a b s t hlt hfirst hsecond
    obtain ⟨hk, -, hs, -, htera, rfl⟩ := BattleSubmission.create_eq_ok.mp hfirst
    obtain ⟨hk', -, hs', -, htera', rfl⟩ := BattleSubmission.create_eq_ok.mp hsecond
    simp only [BattleSubmission.place, hk, hk', hs, hs', htera, htera']
    refine List.cons_lt_cons_iff.mpr (.inr ⟨rfl, List.cons_lt_cons_iff.mpr (.inr ⟨rfl, ?_⟩)⟩)
    exact List.cons_lt_cons_iff.mpr (.inr ⟨rfl, hlt⟩)
  · constructor
    · rintro ⟨order, hmem, hteam⟩
      obtain ⟨hk, rfl⟩ := teamSubmission_eq_ok.mp hteam
      refine ⟨hk, mem_permutations.mp ?_⟩
      rwa [length_slotRange]
    · rintro ⟨hk, hperm⟩
      refine ⟨submission.teamOrder, ?_, teamSubmission_eq_ok.mpr ⟨hk, rfl⟩⟩
      have hmem := mem_permutations.mpr hperm
      rwa [length_slotRange] at hmem

theorem length_teamSubmissions {size : Nat} {submissions : List BattleSubmission}
    (h : (permutations size (slotRange size)).mapM teamSubmission = .ok submissions) :
    submissions.length = size.factorial := by
  have hslots : (slotRange size).Nodup := (sorted_slotRange size).imp fun hlt => hlt.ne
  have horders : (permutations size (slotRange size)).Nodup :=
    (sorted_teamOrders size).imp fun {a b} (hlt : a < b) (heq : a = b) =>
      List.lt_irrefl b (heq ▸ hlt)
  have hlength := length_permutations hslots (by rwa [length_slotRange])
  rw [length_slotRange] at hlength
  rw [← hlength]
  exact (mapM_eq_ok.mp h).length_eq.symm

/-! ## §6 The choices of a request -/

section Places

variable {α β : Type} {R : α → β → Prop} {p : α → Prop} {q : β → Prop} {xs : List α} {ys : List β}
  {slot : Option Int}

theorem IsPlace.of_forall₂ (h : IsPlace p xs slot) (hall : List.Forall₂ R xs ys)
    (hpq : ∀ x y, R x y → p x → q y) : IsPlace q ys slot := by
  obtain ⟨index, x, hget, hp, hslot⟩ := h
  obtain ⟨hindex, rfl⟩ := List.getElem?_eq_some_iff.mp hget
  have hindex' : index < ys.length := hall.length_eq ▸ hindex
  exact ⟨index, ys[index], List.getElem?_eq_getElem hindex', hpq _ _ (hall.get hindex hindex') hp, hslot⟩

theorem isPlace_iff_of_forall₂ (hall : List.Forall₂ R xs ys) (hpq : ∀ x y, R x y → (p x ↔ q y)) :
    IsPlace p xs slot ↔ IsPlace q ys slot :=
  ⟨fun h => h.of_forall₂ hall fun x y hR => (hpq x y hR).mp,
    fun h => h.of_forall₂ hall.flip fun y x hR => (hpq x y hR).mpr⟩

theorem isPlace_and_const {c : Prop} : IsPlace (fun x => c ∧ p x) xs slot ↔ c ∧ IsPlace p xs slot :=
  ⟨fun ⟨index, x, hget, ⟨hc, hp⟩, hslot⟩ => ⟨hc, index, x, hget, hp, hslot⟩,
    fun ⟨hc, index, x, hget, hp, hslot⟩ => ⟨index, x, hget, ⟨hc, hp⟩, hslot⟩⟩

theorem IsPlace.bounds (h : IsPlace p xs slot) : ∀ n ∈ slot, 1 ≤ n ∧ n ≤ xs.length := by
  obtain ⟨index, x, hget, -, rfl⟩ := h
  obtain ⟨hindex, -⟩ := List.getElem?_eq_some_iff.mp hget
  intro n hn
  obtain rfl := Option.mem_some_iff.mp hn
  omega

end Places

section Kinds

variable [Python.UnicodeDatabase] {members : List Members} {pokemon : List RequestPokemon}

theorem healthy_iff (hteam : List.Forall₂ ReadFrom members pokemon) {slot : Option Int} :
    IsPlace (fun member : RequestPokemon =>
      (!member.active && !pokemonFainted member.condition) = true) pokemon slot ↔
      IsPlace IsHealthyBench members slot := by
  refine (isPlace_iff_of_forall₂ hteam fun member read hread => ?_).symm
  simp [IsHealthyBench, hread.active, hread.condition]

theorem fainted_iff (hteam : List.Forall₂ ReadFrom members pokemon) {slot : Option Int} :
    IsPlace (fun member : RequestPokemon =>
      (!member.active && pokemonFainted member.condition) = true) pokemon slot ↔
      IsPlace IsFaintedBench members slot := by
  refine (isPlace_iff_of_forall₂ hteam fun member read hread => ?_).symm
  simp [IsFaintedBench, hread.active, hread.condition]

/-- The active member of the team, and whether it is reviving. -/
theorem reviving_of_team (hteam : List.Forall₂ ReadFrom members pokemon) :
    ((members.find? fun member => member.flag "active").any fun member => member.flag "reviving") =
      ((pokemon.find? fun member => member.active).any fun member => member.reviving) := by
  induction hteam with
  | nil => rfl
  | cons hread _ ih =>
    rw [List.find?_cons, List.find?_cons, hread.active]
    split
    · exact hread.reviving
    · exact ih

/-- The kind of a request, from what the reader takes of its document. -/
theorem requestKindOf_of_read {data : Members} {flags : RequestFlags} (hflags : ReadFlags data flags)
    (hteam : List.Forall₂ ReadFrom data.team pokemon) :
    requestKindOf data =
      if flags.wait then .wait
      else if flags.teamPreview then .teamPreview
      else if (pokemon.find? fun member => member.active).any fun member => member.reviving then
        .revival
      else if flags.forceSwitch = some true then .forcedSwitch
      else .move := by
  simp only [requestKindOf, hflags.wait, hflags.teamPreview, hflags.forced,
    reviving_of_team hteam, decide_eq_true_eq]

/-- What a normal move request offers. -/
theorem normalSubmissions_listing {payload : Members} {active : ActiveRequest}
    {submissions : List BattleSubmission} (hactive : ReadActive payload.activeEntry active)
    (hteam : List.Forall₂ ReadFrom payload.team pokemon) (hkind : requestKindOf payload = .move)
    (h : normalSubmissions active pokemon = .ok submissions) :
    IsListing (Offers payload) submissions := by
  unfold normalSubmissions at h
  split_ifs at h with hunknown
  · obtain rfl := Except.ok.inj h
    refine .nil fun submission hoffers => ?_
    simp only [Offers, hkind, hactive.maybeDisabled, hactive.maybeLocked] at hoffers
    simp [hoffers.1, hoffers.2.1] at hunknown
  obtain ⟨lists, hlists, h⟩ := bind_eq_ok.mp h
  obtain ⟨switches, hswitches, h⟩ := bind_eq_ok.mp h
  obtain rfl := Except.ok.inj h
  have hmoves := allMoves_listing hlists
  have hbench : IsListing (fun submission => submission.kind = .switch ∧
      (active.trapped = false ∧ active.maybeTrapped = false) ∧
        IsPlace IsHealthyBench payload.team submission.slot) switches := by
    split_ifs at hswitches with htrapped
    · obtain rfl := Except.ok.inj hswitches
      refine .nil fun submission hall => ?_
      simp [hall.2.1] at htrapped
    · refine (slotSubmissions_listing (.inl rfl) hswitches).congr fun submission => ?_
      rw [healthy_iff hteam]
      simp at htrapped
      simp [htrapped]
  refine (hmoves.append hbench fun first second hfirst hsecond => ?_).congr fun submission => ?_
  · simp only [BattleSubmission.place, hfirst.1, hsecond.1]
    exact List.cons_lt_cons_iff.mpr (.inl (by decide))
  · have hplace : IsPlace (fun move => AllowsMove (active.canTerastallize ≠ "") move submission)
        active.moves submission.slot ↔
        (submission.terastallize = true → payload.activeEntry.text "canTerastallize" ≠ "") ∧
          IsPlace (fun move => isEnabled move = true ∧ submission.moveId = some (move.text "id"))
            payload.moves submission.slot := by
      rw [← isPlace_and_const]
      refine (isPlace_iff_of_forall₂ hactive.moves fun entry move hread => ?_).symm
      simp only [AllowsMove, hread.enabled, hread.moveId, hactive.canTerastallize,
        Bool.not_eq_true', decide_eq_true_eq]
      tauto
    simp at hunknown
    simp only [Offers, hkind, hactive.maybeDisabled, hactive.maybeLocked, hunknown, hplace,
      hactive.trapped, hactive.maybeTrapped, true_and]
    tauto

omit [Python.UnicodeDatabase] in
/-- A choice names a slot of the team, or a move; an order has the slots of the team. -/
theorem Offers.bounds {data : Members} {submission : BattleSubmission} (h : Offers data submission) :
    submission.kind ≠ .default ∧
      (∀ slot ∈ submission.slot, 1 ≤ slot ∧
        slot ≤ if submission.kind = .move then data.moves.length else data.team.length) ∧
      ∀ member ∈ submission.teamOrder, 1 ≤ member ∧ member ≤ data.team.length := by
  unfold Offers at h
  cases hkind : requestKindOf data with
  | wait =>
    rw [hkind] at h
    exact h.elim
  | teamPreview =>
    rw [hkind] at h
    obtain ⟨hk, hperm⟩ := h
    refine ⟨by simp [hk], fun slot hslot => ?_, fun member hmember => ?_⟩
    · rw [BattleSubmission.slot_of_team hk] at hslot
      cases hslot
    · obtain ⟨n, hn, rfl⟩ := List.mem_map.mp (hperm.mem_iff.mp hmember)
      obtain ⟨hle, hlt⟩ := List.mem_range'_1.mp hn
      exact ⟨Int.ofNat_le.mpr hle, Int.ofNat_le.mpr (by omega)⟩
  | revival =>
    rw [hkind] at h
    obtain ⟨hk, hplace⟩ := h
    have horder : submission.teamOrder = [] := BattleSubmission.teamOrder_of_kind (by simp [hk])
    simp only [hk, horder]
    exact ⟨nofun, hplace.bounds, nofun⟩
  | forcedSwitch =>
    rw [hkind] at h
    obtain ⟨hk, hplace⟩ := h
    have horder : submission.teamOrder = [] := BattleSubmission.teamOrder_of_kind (by simp [hk])
    simp only [hk, horder]
    exact ⟨nofun, hplace.bounds, nofun⟩
  | move =>
    rw [hkind] at h
    obtain ⟨-, -, ⟨hk, -, hplace⟩ | ⟨hk, -, -, hplace⟩⟩ := h
    all_goals
      have horder : submission.teamOrder = [] := BattleSubmission.teamOrder_of_kind (by simp [hk])
      simp only [hk, horder]
      exact ⟨nofun, hplace.bounds, nofun⟩

end Kinds

section Requests

variable [Python.UnicodeDatabase] {roomId payload : String} {request : DecisionRequest}

theorem loadRequest_eq_ok [JsonDecoder] {data : Members} :
    loadRequest payload = .ok data ↔ JsonDecoder.loads payload = .ok (.obj data) := by
  unfold loadRequest
  split
  · next hloads => rw [hloads]; exact ⟨nofun, nofun⟩
  · next hloads => rw [hloads]; exact ⟨nofun, nofun⟩
  · next members hloads =>
    rw [hloads]
    exact ⟨fun h => congrArg _ (congrArg _ (Except.ok.inj h)),
      fun h => congrArg _ (Json.obj.inj (Except.ok.inj h))⟩
  · next value hvalue hloads =>
    refine ⟨nofun, fun h => ?_⟩
    rw [h] at hloads
    exact absurd (Except.ok.inj hloads).symm (hvalue data)

/-- A request is read from the parts of its document. -/
theorem readRequest_eq_ok [JsonDecoder] (h : readRequest roomId payload = .ok request) :
    ∃ (data : Members) (identity : RequestIdentity) (flags : RequestFlags) (sideId : String)
      (pokemon : List RequestPokemon) (activeIdentity : Option String),
      JsonDecoder.loads payload = .ok (.obj data) ∧ readFlags data = .ok flags ∧
        parseSide (data.get "side") = .ok (sideId, pokemon) ∧
        readKind identity flags sideId pokemon (pokemon.find? fun member => member.active)
          activeIdentity data = .ok request := by
  unfold readRequest at h
  obtain ⟨data, hload, h⟩ := bind_eq_ok.mp h
  obtain ⟨rqid, -, h⟩ := bind_eq_ok.mp h
  obtain ⟨flags, hflags, h⟩ := bind_eq_ok.mp h
  obtain ⟨⟨sideId, pokemon⟩, hside, h⟩ := bind_eq_ok.mp h
  obtain ⟨activeIdentity, -, h⟩ := bind_eq_ok.mp h
  exact ⟨data, _, flags, sideId, pokemon, activeIdentity, loadRequest_eq_ok.mp hload, hflags, hside, h⟩

/-- The submissions of a request that is read: what its document offers, then the default. -/
theorem readKind_listing {identity : RequestIdentity} {flags : RequestFlags} {sideId : String}
    {pokemon : List RequestPokemon} {activeIdentity : Option String} {data : Members}
    (hflags : ReadFlags data flags) (hteam : List.Forall₂ ReadFrom data.team pokemon)
    (h : readKind identity flags sideId pokemon (pokemon.find? fun member => member.active)
      activeIdentity data = .ok request) :
    request.kind = requestKindOf data ∧ request.teamMemberCount = data.team.length ∧
      ((request.kind = .wait ∧ request.safeSubmissions.submissions = []) ∨
        (request.kind ≠ .wait ∧ ∃ concrete,
          request.safeSubmissions.submissions = concrete ++ [defaultSubmission] ∧
            IsListing (Offers data) concrete ∧
            (request.kind = .teamPreview → concrete.length = data.team.length.factorial))) := by
  have hsize : data.team.length = pokemon.length := hteam.length_eq
  unfold readKind at h
  have hkind := requestKindOf_of_read hflags hteam
  split_ifs at h hkind with hwait hpreview hrevival hforced
  · obtain rfl := Except.ok.inj h
    exact ⟨hkind.symm, congrArg _ hsize.symm, .inl ⟨rfl, rfl⟩⟩
  · obtain ⟨_, -, h⟩ := bind_eq_ok.mp h
    obtain ⟨orders, horders, h⟩ := bind_eq_ok.mp h
    obtain rfl := Except.ok.inj h
    refine ⟨hkind.symm, congrArg _ hsize.symm, .inr ⟨nofun, orders, rfl, ?_, fun _ => ?_⟩⟩
    rotate_left
    · rw [hsize]
      exact length_teamSubmissions horders
    refine (teamSubmissions_listing horders).congr fun submission => ?_
    simp only [Offers, hkind, hsize]
  · obtain ⟨revivals, hrevivals, h⟩ := bind_eq_ok.mp h
    obtain rfl := Except.ok.inj h
    refine ⟨hkind.symm, congrArg _ hsize.symm, .inr ⟨nofun, revivals, rfl, ?_, nofun⟩⟩
    refine (slotSubmissions_listing (.inr rfl) hrevivals).congr fun submission => ?_
    simp only [Offers, hkind, fainted_iff hteam]
  · obtain ⟨switches, hswitches, h⟩ := bind_eq_ok.mp h
    obtain rfl := Except.ok.inj h
    refine ⟨hkind.symm, congrArg _ hsize.symm, .inr ⟨nofun, switches, rfl, ?_, nofun⟩⟩
    refine (slotSubmissions_listing (.inl rfl) hswitches).congr fun submission => ?_
    simp only [Offers, hkind, healthy_iff hteam]
  · obtain ⟨active, hactive, h⟩ := bind_eq_ok.mp h
    obtain ⟨submissions, hsubmissions, h⟩ := bind_eq_ok.mp h
    obtain rfl := Except.ok.inj h
    refine ⟨hkind.symm, congrArg _ hsize.symm, .inr ⟨nofun, submissions, rfl, ?_, nofun⟩⟩
    exact normalSubmissions_listing (readActive_of_parse hactive) hteam hkind hsubmissions

variable [JsonDecoder]

/-- The submissions of a request stand in order, the default last. -/
theorem submissions_sorted (h : readRequest roomId payload = .ok request) :
    request.safeSubmissions.submissions.Pairwise fun first second =>
      first.place < second.place := by
  obtain ⟨data, identity, flags, sideId, pokemon, activeIdentity, -, hflags, hside, hkind⟩ :=
    readRequest_eq_ok h
  obtain ⟨-, -, hsubmissions⟩ :=
    readKind_listing (readFlags_eq_ok hflags) (team_of_parseSide hside) hkind
  rcases hsubmissions with ⟨-, hnil⟩ | ⟨-, concrete, hconcrete, hlisting, -⟩
  · rw [hnil]
    exact .nil
  rw [hconcrete]
  refine List.pairwise_append.mpr ⟨hlisting.sorted, List.pairwise_singleton _ _, ?_⟩
  intro first hfirst second hsecond
  obtain rfl := List.mem_singleton.mp hsecond
  exact place_lt_default ((hlisting.mem_iff first).mp hfirst).bounds.1

/-- The submissions of a request that the reader accepts are those that its document offers, in
order and each once, and then the default; a wait request has none. All orders of a team preview
are there. A slot is one of the team, or one of the moves for a move. -/
theorem safe_choices_exact (h : readRequest roomId payload = .ok request) :
    ∃ data : Members, JsonDecoder.loads payload = .ok (.obj data) ∧
      request.kind = requestKindOf data ∧ request.teamMemberCount = data.team.length ∧
      (request.kind = .wait → request.safeSubmissions.submissions = []) ∧
      (request.kind ≠ .wait → ∃ concrete,
        request.safeSubmissions.submissions = concrete ++ [defaultSubmission] ∧
          (∀ submission, submission ∈ concrete ↔ Offers data submission) ∧
          (request.kind = .teamPreview → concrete.length = data.team.length.factorial)) ∧
      request.safeSubmissions.submissions.Nodup ∧
      (request.safeSubmissions.submissions.Pairwise fun first second =>
        first.place < second.place) ∧
      ∀ submission ∈ request.safeSubmissions.submissions,
        (∀ slot ∈ submission.slot, 1 ≤ slot ∧
          slot ≤ if submission.kind = .move then data.moves.length else data.team.length) ∧
        ∀ member ∈ submission.teamOrder, 1 ≤ member ∧ member ≤ data.team.length := by
  obtain ⟨data, identity, flags, sideId, pokemon, activeIdentity, hloads, hflags, hside, hkind⟩ :=
    readRequest_eq_ok h
  obtain ⟨hrequest, hcount, hsubmissions⟩ :=
    readKind_listing (readFlags_eq_ok hflags) (team_of_parseSide hside) hkind
  have hsorted := submissions_sorted h
  refine ⟨data, hloads, hrequest, hcount, ?_, ?_, ?_, hsorted, ?_⟩
  · intro hwait
    rcases hsubmissions with ⟨-, hnil⟩ | ⟨hne, -⟩
    · exact hnil
    · exact absurd hwait hne
  · intro hne
    rcases hsubmissions with ⟨hwait, -⟩ | ⟨-, concrete, hconcrete, hlisting, horders⟩
    · exact absurd hwait hne
    · exact ⟨concrete, hconcrete, hlisting.mem_iff, horders⟩
  · exact hsorted.imp fun {a b} (hlt : a.place < b.place) (heq : a = b) =>
      List.lt_irrefl b.place (heq ▸ hlt)
  · intro submission hmem
    rcases hsubmissions with ⟨-, hnil⟩ | ⟨-, concrete, hconcrete, hlisting, -⟩
    · rw [hnil] at hmem
      cases hmem
    rw [hconcrete] at hmem
    rcases List.mem_append.mp hmem with hmem | hmem
    · exact ((hlisting.mem_iff submission).mp hmem).bounds.2
    · obtain rfl := List.mem_singleton.mp hmem
      exact ⟨nofun, nofun⟩

end Requests

/-- A request for a team of one pokemon that knows two moves. -/
def soloText : String :=
  "\x7b\"rqid\":3,\"active\":[\x7b\"moves\":[\x7b\"id\":\"tackle\"\x7d,\x7b\"id\":\"growl\"\x7d]\x7d],"
    ++ "\"side\":\x7b\"id\":\"p1\",\"pokemon\":[\x7b\"ident\":\"p1: Eevee\",\"details\":\"Eevee, F\","
    ++ "\"condition\":\"100/100\",\"active\":true\x7d]\x7d\x7d"

/-- What it decodes to. -/
def soloMembers : Members :=
  [("rqid", .int 3),
    ("active", .arr [.obj [("moves", .arr [.obj [("id", .str "tackle")],
      .obj [("id", .str "growl")]])]]),
    ("side", .obj [("id", .str "p1"),
      ("pokemon", .arr [.obj [("ident", .str "p1: Eevee"), ("details", .str "Eevee, F"),
        ("condition", .str "100/100"), ("active", .bool true)]])])]

/-- A decoder that knows this request. -/
@[reducible] def soloDecoder : JsonDecoder where
  loads text :=
    if text = soloText then .ok (.obj soloMembers)
    else .error (.decodeError "Expecting value: line 1 column 1 (char 0)")

/-- A move slot counts moves: the second move of the only pokemon has a slot beyond the team. -/
theorem solo_slot_beyond_team :
    letI := Python.asciiDatabase
    letI := soloDecoder
    ∃ request, readRequest "battle-gen9ou-1" soloText = .ok request ∧
      ∃ submission ∈ request.safeSubmissions.submissions, ∃ slot ∈ submission.slot,
        request.teamMemberCount < slot := by
  let _ := Python.asciiDatabase
  let _ := soloDecoder
  have hread : (readRequest "battle-gen9ou-1" soloText).map (fun request =>
      (request.teamMemberCount, request.safeSubmissions.submissions.map fun submission =>
        submission.slot)) = .ok (1, [some 1, some 2, none]) := by
    decide +kernel
  obtain ⟨request, hrequest, heq⟩ := map_eq_ok.mp hread
  obtain ⟨hcount, hslots⟩ := Prod.mk.inj heq
  have htwo : some 2 ∈ request.safeSubmissions.submissions.map fun submission =>
      submission.slot := by
    rw [hslots]
    decide
  obtain ⟨submission, hmem, hslot⟩ := List.mem_map.mp htwo
  refine ⟨request, hrequest, submission, hmem, 2, hslot, ?_⟩
  rw [hcount]
  decide

/-- The request of the one pokemon offers its two moves. -/
theorem solo_choices :
    letI := Python.asciiDatabase
    letI := soloDecoder
    ∃ request concrete, readRequest "battle-gen9ou-1" soloText = .ok request ∧
      request.safeSubmissions.submissions = concrete ++ [defaultSubmission] ∧
      ∀ submission, submission ∈ concrete ↔ Offers soloMembers submission := by
  let _ := Python.asciiDatabase
  let _ := soloDecoder
  have hread : (readRequest "battle-gen9ou-1" soloText).map (fun request => request.kind)
      = .ok .move := by
    decide +kernel
  obtain ⟨request, hrequest, hkind⟩ := map_eq_ok.mp hread
  obtain ⟨data, hloads, -, -, -, hchoices, -⟩ := safe_choices_exact hrequest
  have hdata : soloMembers = data := by
    have hsolo : JsonDecoder.loads soloText = .ok (.obj soloMembers) := if_pos rfl
    exact Json.obj.inj (Except.ok.inj (hsolo.symm.trans hloads))
  subst hdata
  obtain ⟨concrete, hconcrete, hmem, -⟩ := hchoices (by simp [hkind])
  exact ⟨request, concrete, hrequest, hconcrete, hmem⟩

end BattleBelief
