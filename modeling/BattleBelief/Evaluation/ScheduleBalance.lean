import BattleBelief.Evaluation.Schedule
import BattleBelief.Library.HashChain
import Mathlib.Data.List.Dedup
import Mathlib.Data.List.Range

/-!
# Schedules Are Balanced

`build_schedule` passes the checks of its own constructors, and treats every matchup alike.

## Main results

- `buildRows_ok`: the rows of a matchup, with their indices and sides
- `sortByMatchupId_ok`, `sorted_unique`: the order of the matchups, whatever the order of the set
- `build_schedule_balanced`: a schedule is built, each matchup has its repetitions on alternating
  sides, and only the set of matchups matters
-/

namespace BattleBelief

open Runs
open HashChain (CollisionFree)

/-! ## §1 Seeds and rows -/

theorem isHex64_hexdigest (message : List Nat) :
    isHex64 (String.ofList (Sha256.hexdigest message)) = true := by
  rw [isHex64, String.toList_ofList, Sha256.hexdigest_length]
  simpa using Sha256.hexdigest_isHex message

/-- An index of a repetition. -/
structure IsIndex (i : Int) : Prop where
  nonneg : 0 ≤ i
  le : i ≤ maxSafeInteger

theorem IsIndex.plain {i : Int} (h : IsIndex i) : (Python.Json.int i).isPlain = true := by
  have hle : i ≤ 9007199254740991 := h.le
  have hnonneg := h.nonneg
  simp only [Python.Json.isPlain, Bool.and_eq_true, decide_eq_true_eq]
  omega

theorem SeedFamily.plain (family : SeedFamily) : family.toJson.isPlain = true := rfl

theorem BaseMatchupKey.plain (key : BaseMatchupKey) : key.toJson.isPlain = true := rfl

section Building

variable [Rfc8785]

theorem deriveSeed_ok (hdumps : DumpsPlain) {masterSeed baseMatchupId : String}
    (hseed : isHex64 masterSeed = true) (hid : isDigest baseMatchupId = true)
    (seedNamespace : SeedNamespace) (side : SideAssignment) {i : Int} (hi : IsIndex i) :
    ∃ seed, deriveSeed masterSeed seedNamespace baseMatchupId side.value i = .ok seed ∧
      isHex64 seed = true := by
  have hplain : (seedDocument masterSeed seedNamespace baseMatchupId side.value i).isPlain = true := by
    have hint := hi.plain
    simp [seedDocument, Python.Json.isPlain, Python.Json.membersPlain] at hint ⊢
    exact hint
  obtain ⟨bytes, hbytes⟩ := hdumps _ hplain
  have hside : ¬(side.value ≠ "p1" ∧ side.value ≠ "p2") := by
    cases side <;> simp [SideAssignment.value]
  have hindex : ¬(i < 0 ∨ maxSafeInteger < i) := by
    have hnonneg := hi.nonneg
    have hle := hi.le
    omega
  refine ⟨String.ofList (Sha256.hexdigest bytes), ?_, isHex64_hexdigest bytes⟩
  simp [deriveSeed, validateSeedInputs, bind_eq_ok, hseed, hid, hside, hindex, hbytes]

theorem deriveSeedFamily_ok (hdumps : DumpsPlain) {masterSeed baseMatchupId : String}
    (hseed : isHex64 masterSeed = true) (hid : isDigest baseMatchupId = true)
    (side : SideAssignment) {i : Int} (hi : IsIndex i) :
    ∃ family, deriveSeedFamily masterSeed baseMatchupId side.value i = .ok family := by
  obtain ⟨search, hsearch, hsearch'⟩ := deriveSeed_ok hdumps hseed hid .search side hi
  obtain ⟨world, hworld, hworld'⟩ := deriveSeed_ok hdumps hseed hid .world side hi
  obtain ⟨policy, hpolicy, hpolicy'⟩ := deriveSeed_ok hdumps hseed hid .policy side hi
  obtain ⟨simulator, hsimulator, hsimulator'⟩ := deriveSeed_ok hdumps hseed hid .simulator side hi
  obtain ⟨schedule, hschedule, hschedule'⟩ := deriveSeed_ok hdumps hseed hid .schedule side hi
  obtain ⟨seed, hside, hside'⟩ := deriveSeed_ok hdumps hseed hid .sideAssignment side hi
  refine ⟨⟨seedDerivationId, search, world, policy, simulator, schedule, seed⟩, ?_⟩
  simp [deriveSeedFamily, SeedFamily.postInit, checkSeed, bind_eq_ok, Functor.map, Except.map, hsearch, hsearch', hworld,
    hworld', hpolicy, hpolicy', hsimulator, hsimulator', hschedule, hschedule', hside, hside']

/-- What a row of a matchup says. -/
structure BuiltRow (masterSeed : String) (key : BaseMatchupKey) (baseMatchupId : String)
    (initial i : Nat) (row : ScheduleRow) : Prop where
  baseMatchupId_eq : row.baseMatchupId = baseMatchupId
  side_eq : row.sideAssignment = sideOf initial i
  block_eq : row.scheduleBlock = key.scheduleBlock
  index_eq : row.repetitionIndex = i
  seeds : deriveSeedFamily masterSeed baseMatchupId (sideOf initial i).value i = .ok row.seedFamily
  id : deriveScheduleRowId row.baseMatchupId row.sideAssignment row.scheduleBlock row.seedFamily
    row.repetitionIndex = .ok row.rowId

theorem buildRow_ok (hdumps : DumpsPlain) {masterSeed baseMatchupId : String}
    (hseed : isHex64 masterSeed = true) (hid : isDigest baseMatchupId = true) (key : BaseMatchupKey)
    (initial : Nat) {i : Nat} (hi : IsIndex i) :
    ∃ row, buildRow masterSeed key baseMatchupId initial i = .ok row ∧
      BuiltRow masterSeed key baseMatchupId initial i row := by
  obtain ⟨family, hfamily⟩ := deriveSeedFamily_ok hdumps hseed hid (sideOf initial i) hi
  have hplain : (rowDocument baseMatchupId (sideOf initial i) key.scheduleBlock family i).isPlain =
      true := by
    have hint := hi.plain
    simp [rowDocument, Python.Json.isPlain, Python.Json.membersPlain, family.plain] at hint ⊢
    exact hint
  obtain ⟨rowId, hrowId⟩ := hdumps.exists_digest hplain
  have hindex : ¬((i : Int) < 0 ∨ maxSafeInteger < i) := by
    have hle := hi.le
    omega
  refine ⟨⟨rowId, baseMatchupId, sideOf initial i, key.scheduleBlock, family, i⟩, ?_,
    ⟨rfl, rfl, rfl, rfl, hfamily, hrowId⟩⟩
  simp [buildRow, ScheduleRow.postInit, deriveScheduleRowId, bind_eq_ok, Functor.map, Except.map, hfamily, hrowId,
    isDigest_of_manifestDigest hrowId, hid, key.nonempty, hindex]

/-! ## §2 The rows of a matchup -/

/-- The rows of a matchup: one for each repetition. -/
structure MatchupRows (registrationDigest masterSeed : String) (repetitions : Nat)
    (key : BaseMatchupKey) (rows : List ScheduleRow) : Prop where
  rows : ∃ baseMatchupId initial, key.baseMatchupId = .ok baseMatchupId ∧
    initialSide registrationDigest baseMatchupId = .ok initial ∧
    List.Forall₂ (BuiltRow masterSeed key baseMatchupId initial) (List.range repetitions) rows

theorem buildRows_ok (hdumps : DumpsPlain) {registrationDigest masterSeed : String}
    (hseed : isHex64 masterSeed = true) {repetitions : Int} (hle : repetitions ≤ maxSafeInteger)
    (key : BaseMatchupKey) :
    ∃ rows, buildRows registrationDigest masterSeed repetitions key = .ok rows ∧
      MatchupRows registrationDigest masterSeed repetitions.toNat key rows := by
  obtain ⟨baseMatchupId, hid⟩ := hdumps.exists_digest key.plain
  obtain ⟨bytes, hbytes⟩ := hdumps (.obj [("registration_digest", .str registrationDigest),
    ("base_matchup_id", .str baseMatchupId)]) rfl
  have hrow (i : Nat) (hi : i ∈ List.range repetitions.toNat) :
      ∃ row, buildRow masterSeed key baseMatchupId (((Sha256.hash bytes).a >>> 24) % 2) i = .ok row ∧
        BuiltRow masterSeed key baseMatchupId (((Sha256.hash bytes).a >>> 24) % 2) i row := by
    rw [List.mem_range] at hi
    exact buildRow_ok hdumps hseed (isDigest_of_manifestDigest hid) key _ ⟨by omega, by omega⟩
  obtain ⟨rows, hrows, hbuilt⟩ := exists_mapM_forall₂ hrow
  have hinitial : initialSide registrationDigest baseMatchupId =
      .ok (((Sha256.hash bytes).a >>> 24) % 2) := by
    rw [initialSide, hbytes]
    rfl
  refine ⟨rows, ?_, ⟨baseMatchupId, _, hid, hinitial, hbuilt⟩⟩
  simp [buildRows, BaseMatchupKey.baseMatchupId, bind_eq_ok, hid, hinitial, hrows]

omit [Rfc8785] in
/-- Every other repetition is on the side of the first one. -/
theorem sideOf_eq_iff (initial n : Nat) (side : SideAssignment) :
    sideOf initial n = side ↔ (sideOf initial 0 = side ↔ n % 2 = 0) := by
  have hsum : (initial + n) % 2 = 0 ↔ (initial % 2 = 0 ↔ n % 2 = 0) := by omega
  simp only [sideOf, Nat.add_zero]
  by_cases hinitial : initial % 2 = 0 <;> by_cases hn : n % 2 = 0 <;> cases side <;>
    simp [hsum, hinitial, hn]

omit [Rfc8785] in
/-- The repetitions on one side, up to a point. -/
theorem countP_sideOf (initial n : Nat) (side : SideAssignment) :
    (List.range n).countP (fun i => sideOf initial i = side) =
      if sideOf initial 0 = side then (n + 1) / 2 else n / 2 := by
  induction n with
  | zero => simp
  | succ n ih =>
    have hstep := sideOf_eq_iff initial n side
    rw [List.range_succ, List.countP_append, ih, List.countP_singleton]
    by_cases hfirst : sideOf initial 0 = side
    · simp only [hfirst, if_true, true_iff, decide_eq_true_eq] at hstep ⊢
      simp only [hstep]
      split_ifs <;> omega
    · simp only [hfirst, if_false, false_iff, decide_eq_true_eq] at hstep ⊢
      simp only [hstep]
      split_ifs <;> omega

/-- The rows of one matchup number the repetitions, on alternating sides. -/
structure BalancedGroup (repetitions : Nat) (rows : List ScheduleRow) : Prop where
  indices : rows.map ScheduleRow.repetitionIndex = (List.range repetitions).map Int.ofNat
  alternating : rows.IsChain fun row next => row.sideAssignment ≠ next.sideAssignment
  balanced : ((rows.countP fun row => row.sideAssignment = .p1 : Int) -
    rows.countP fun row => row.sideAssignment = .p2).natAbs ≤ 1
  even : repetitions % 2 = 0 → (rows.countP fun row => row.sideAssignment = .p1) =
    rows.countP fun row => row.sideAssignment = .p2

omit [Rfc8785] in
/-- Sides that follow the repetitions are balanced. -/
theorem balanced_of_sides {repetitions initial : Nat} {rows : List ScheduleRow}
    (hindices : rows.map ScheduleRow.repetitionIndex = (List.range repetitions).map Int.ofNat)
    (hsides : rows.map ScheduleRow.sideAssignment = (List.range repetitions).map (sideOf initial)) :
    BalancedGroup repetitions rows := by
  have hcount (side : SideAssignment) : (rows.countP fun row => row.sideAssignment = side) =
      if sideOf initial 0 = side then (repetitions + 1) / 2 else repetitions / 2 := by
    rw [← countP_sideOf]
    calc (rows.countP fun row => row.sideAssignment = side)
        = (rows.map ScheduleRow.sideAssignment).countP (fun s => s = side) := by
          rw [List.countP_map]
          rfl
      _ = (List.range repetitions).countP (fun i => sideOf initial i = side) := by
          rw [hsides, List.countP_map]
          rfl
  have hside : sideOf initial 0 = .p1 ∨ sideOf initial 0 = .p2 := by
    cases sideOf initial 0 <;> simp
  refine ⟨hindices, ?_, ?_, fun heven => ?_⟩
  · have hchain : (rows.map ScheduleRow.sideAssignment).IsChain (· ≠ ·) := by
      rw [hsides, List.isChain_map, List.isChain_range]
      intro i _
      unfold sideOf
      split_ifs <;> simp <;> omega
    exact (List.isChain_map _).mp hchain
  · rw [hcount, hcount]
    rcases hside with hside | hside <;> simp only [hside] <;> simp <;> omega
  · rw [hcount, hcount]
    rcases hside with hside | hside <;> simp only [hside] <;> simp <;> omega

/-- What is known of the rows of a matchup. -/
theorem MatchupRows.group {registrationDigest masterSeed baseMatchupId : String} {repetitions : Nat}
    {key : BaseMatchupKey} {rows : List ScheduleRow} (h : MatchupRows registrationDigest masterSeed repetitions key rows)
    (hid : key.baseMatchupId = .ok baseMatchupId) :
    BalancedGroup repetitions rows ∧ (∀ row ∈ rows, row.baseMatchupId = baseMatchupId) ∧
      rows.length = repetitions := by
  obtain ⟨baseMatchupId', initial, hid', -, hall⟩ := h.rows
  obtain rfl := Except.ok.inj (hid'.symm.trans hid)
  have hindices : (List.range repetitions).map Int.ofNat = rows.map ScheduleRow.repetitionIndex :=
    (map_eq_map_iff_forall₂ hall fun i row hrow =>
      ⟨fun _ => hrow, fun _ => hrow.index_eq.symm⟩).mpr hall
  have hsides : (List.range repetitions).map (sideOf initial) = rows.map ScheduleRow.sideAssignment :=
    (map_eq_map_iff_forall₂ hall fun i row hrow =>
      ⟨fun _ => hrow, fun _ => hrow.side_eq.symm⟩).mpr hall
  refine ⟨balanced_of_sides hindices.symm hsides.symm, fun row hrow => ?_, ?_⟩
  · obtain ⟨i, -, hbuilt⟩ := exists_of_forall₂ hall hrow
    exact hbuilt.baseMatchupId_eq
  · rw [← hall.length_eq, List.length_range]

/-! ## §3 The order of the matchups -/

omit [Rfc8785] in
theorem BaseMatchupKey.toJson_injective {key other : BaseMatchupKey} (h : key.toJson = other.toJson) :
    key = other := by
  cases key
  cases other
  simpa [BaseMatchupKey.toJson] using h

/-- The documents of the matchups. -/
def IsKeyDocument (keys : List BaseMatchupKey) (document : Python.Json) : Prop :=
  ∃ key ∈ keys, document = key.toJson

/-- One matchup comes before another by its id. -/
def BaseMatchupKey.Before (key other : BaseMatchupKey) : Prop :=
  ∀ baseMatchupId otherId, key.baseMatchupId = .ok baseMatchupId → other.baseMatchupId = .ok otherId →
    baseMatchupId < otherId

/-- Different matchups are sorted strictly. -/
theorem sortByMatchupId_ok (hdumps : DumpsPlain) {keys : List BaseMatchupKey} (hnodup : keys.Nodup)
    (hfree : CollisionFree manifestDigest (IsKeyDocument keys)) :
    ∃ ordered, sortByMatchupId keys = .ok ordered ∧ ordered.Perm keys ∧
      ordered.Pairwise BaseMatchupKey.Before := by
  have hkeyed (key : BaseMatchupKey) (_ : key ∈ keys) :
      ∃ pair : String × BaseMatchupKey, (key.baseMatchupId.map fun id => (id, key)) = .ok pair ∧
        pair.2 = key ∧ key.baseMatchupId = .ok pair.1 := by
    obtain ⟨id, hid⟩ := hdumps.exists_digest key.plain
    have hbase : key.baseMatchupId = .ok id := hid
    exact ⟨(id, key), by rw [hbase]; rfl, rfl, hbase⟩
  obtain ⟨keyed, hmap, hall⟩ := exists_mapM_forall₂ hkeyed
  have hsnd : keys = keyed.map Prod.snd := by
    rw [← List.map_id keys]
    exact (map_eq_map_iff_forall₂ hall fun key pair hpair => ⟨fun _ => hpair, fun _ => hpair.1.symm⟩).mpr
      hall
  have hperm := List.perm_insertionSort
    (fun first second : String × BaseMatchupKey => first.1 ≤ second.1) keyed
  have hordered : ((keyed.insertionSort fun first second => first.1 ≤ second.1).map Prod.snd).Perm
      keys := by
    rw [hsnd]
    exact hperm.map Prod.snd
  refine ⟨_, ?_, hordered, ?_⟩
  · rw [sortByMatchupId, hmap]
    rfl
  · -- sorted by the ids, which are different for different matchups
    have hle := List.pairwise_insertionSort
      (fun first second : String × BaseMatchupKey => first.1 ≤ second.1) keyed
    have hne : (keyed.insertionSort fun first second => first.1 ≤ second.1).Pairwise
        fun first second => first.2 ≠ second.2 :=
      List.pairwise_map.mp (hordered.nodup_iff.mpr hnodup)
    rw [List.pairwise_map]
    refine (hle.and hne).imp_of_mem fun {first second} hfirst hsecond h id id' hid hid' => ?_
    obtain ⟨key, hkey, hsame, hdigest⟩ := exists_of_forall₂ hall (hperm.mem_iff.mp hfirst)
    obtain ⟨key', hkey', hsame', hdigest'⟩ := exists_of_forall₂ hall (hperm.mem_iff.mp hsecond)
    rw [hsame] at hid
    rw [hsame'] at hid'
    obtain rfl := Except.ok.inj (hid.symm.trans hdigest)
    obtain rfl := Except.ok.inj (hid'.symm.trans hdigest')
    refine lt_of_le_of_ne h.1 fun heq => h.2 ?_
    rw [hsame, hsame']
    rw [heq] at hdigest
    exact BaseMatchupKey.toJson_injective
      (hfree _ _ _ ⟨key, hkey, rfl⟩ ⟨key', hkey', rfl⟩ hdigest hdigest')

/-- Sorted matchups that are the same up to order are the same. -/
theorem sorted_unique (hdumps : DumpsPlain) {ordered ordered' : List BaseMatchupKey}
    (hsorted : ordered.Pairwise BaseMatchupKey.Before)
    (hsorted' : ordered'.Pairwise BaseMatchupKey.Before) (hperm : ordered.Perm ordered') :
    ordered = ordered' := by
  refine List.Perm.eq_of_pairwise (fun key other _ _ hbefore hafter => ?_) hsorted hsorted' hperm
  obtain ⟨id, hid⟩ := hdumps.exists_digest key.plain
  obtain ⟨otherId, hotherId⟩ := hdumps.exists_digest other.plain
  exact absurd (hbefore id otherId hid hotherId) (lt_asymm (hafter otherId id hotherId hid))

/-! ## §4 All rows -/

/-- The documents of the rows of a schedule. -/
def IsRowDocument (registrationDigest masterSeed : String) (keys : List BaseMatchupKey)
    (repetitions : Int) (document : Python.Json) : Prop :=
  ∃ key ∈ keys, ∃ (baseMatchupId : String) (initial i : Nat) (family : SeedFamily),
    key.baseMatchupId = .ok baseMatchupId ∧
    initialSide registrationDigest baseMatchupId = .ok initial ∧ (i : Int) < repetitions ∧
    deriveSeedFamily masterSeed baseMatchupId (sideOf initial i).value i = .ok family ∧
    document = rowDocument baseMatchupId (sideOf initial i) key.scheduleBlock family i

/-- `Precedes`, and not the same matchup and repetition. -/
def ScheduleRow.Before (row other : ScheduleRow) : Prop :=
  row.baseMatchupId < other.baseMatchupId ∨
    row.baseMatchupId = other.baseMatchupId ∧ row.repetitionIndex < other.repetitionIndex

section Rows

variable {registrationDigest masterSeed : String} {repetitions : Int} {ordered : List BaseMatchupKey}
  {groups : List (List ScheduleRow)}

/-- The rows of a matchup are in the order of their repetitions. -/
theorem MatchupRows.pairwise {key : BaseMatchupKey} {rows : List ScheduleRow}
    (h : MatchupRows registrationDigest masterSeed repetitions.toNat key rows) :
    rows.Pairwise ScheduleRow.Before := by
  obtain ⟨baseMatchupId, _, hid, -⟩ := h.rows
  obtain ⟨hgroup, hbase, -⟩ := h.group hid
  have hindices : (rows.map ScheduleRow.repetitionIndex).Pairwise (· < ·) := by
    rw [hgroup.indices, List.pairwise_map]
    exact List.pairwise_lt_range.imp Int.ofNat_lt.mpr
  refine (List.pairwise_map.mp hindices).imp_of_mem fun {row other} hrow hother hlt => ?_
  exact .inr ⟨(hbase row hrow).trans (hbase other hother).symm, hlt⟩

/-- All rows are in order. -/
theorem rows_pairwise (hall : List.Forall₂ (MatchupRows registrationDigest masterSeed repetitions.toNat) ordered groups)
    (hsorted : ordered.Pairwise BaseMatchupKey.Before) :
    groups.flatten.Pairwise ScheduleRow.Before := by
  induction hall with
  | nil => exact .nil
  | @cons key rows ordered groups hrows hall ih =>
    obtain ⟨hfirst, hrest⟩ := List.pairwise_cons.mp hsorted
    rw [List.flatten_cons, List.pairwise_append]
    refine ⟨hrows.pairwise, ih hrest, fun row hrow other hother => ?_⟩
    obtain ⟨otherRows, hotherRows, hmem⟩ := List.mem_flatten.mp hother
    obtain ⟨otherKey, hkey, hmatchup⟩ := exists_of_forall₂ hall hotherRows
    obtain ⟨id, _, hid, -⟩ := hrows.rows
    obtain ⟨otherId, _, hotherId, -⟩ := hmatchup.rows
    left
    rw [(hrows.group hid).2.1 row hrow, (hmatchup.group hotherId).2.1 other hmem]
    exact hfirst otherKey hkey id otherId hid hotherId

/-- The rows with the id of a matchup are the ones that were built for it. -/
theorem filter_rows (hall : List.Forall₂ (MatchupRows registrationDigest masterSeed repetitions.toNat) ordered groups)
    (hsorted : ordered.Pairwise BaseMatchupKey.Before) {key : BaseMatchupKey} (hkey : key ∈ ordered)
    {baseMatchupId : String} (hid : key.baseMatchupId = .ok baseMatchupId) :
    MatchupRows registrationDigest masterSeed repetitions.toNat key
      (groups.flatten.filter fun row => row.baseMatchupId = baseMatchupId) := by
  induction hall with
  | nil => cases hkey
  | @cons first rows ordered groups hrows hall ih =>
    obtain ⟨hfirst, hrest⟩ := List.pairwise_cons.mp hsorted
    obtain ⟨firstId, _, hfirstId, -⟩ := hrows.rows
    have hbase := (hrows.group hfirstId).2.1
    rw [List.flatten_cons, List.filter_append]
    rcases List.mem_cons.mp hkey with rfl | hlater
    · -- the rows of later matchups have later ids
      obtain rfl := Except.ok.inj (hfirstId.symm.trans hid)
      have hnone : (groups.flatten.filter fun row => row.baseMatchupId = firstId) = [] := by
        refine List.filter_eq_nil_iff.mpr fun row hrow => ?_
        obtain ⟨otherRows, hotherRows, hmem⟩ := List.mem_flatten.mp hrow
        obtain ⟨otherKey, hotherKey, hmatchup⟩ := exists_of_forall₂ hall hotherRows
        obtain ⟨otherId, _, hotherId, -⟩ := hmatchup.rows
        have hlt := hfirst otherKey hotherKey firstId otherId hfirstId hotherId
        rw [(hmatchup.group hotherId).2.1 row hmem]
        simpa using hlt.ne'
      have hself : (rows.filter fun row => row.baseMatchupId = firstId) = rows :=
        List.filter_eq_self.mpr fun row hrow => decide_eq_true (hbase row hrow)
      rw [hself, hnone, List.append_nil]
      exact hrows
    · have hnone : (rows.filter fun row => row.baseMatchupId = baseMatchupId) = [] := by
        refine List.filter_eq_nil_iff.mpr fun row hrow => ?_
        have hlt := hfirst key hlater firstId baseMatchupId hfirstId hid
        rw [hbase row hrow]
        simpa using hlt.ne
      rw [hnone, List.nil_append]
      exact ih hrest hlater

/-- Every row was built for a matchup. -/
theorem exists_built (hall : List.Forall₂ (MatchupRows registrationDigest masterSeed repetitions.toNat) ordered groups)
    {row : ScheduleRow} (hrow : row ∈ groups.flatten) :
    ∃ key ∈ ordered, ∃ (baseMatchupId : String) (initial i : Nat),
      key.baseMatchupId = .ok baseMatchupId ∧
      initialSide registrationDigest baseMatchupId = .ok initial ∧ (i : Int) < repetitions ∧
      BuiltRow masterSeed key baseMatchupId initial i row := by
  obtain ⟨rows, hrows, hmem⟩ := List.mem_flatten.mp hrow
  obtain ⟨key, hkey, hmatchup⟩ := exists_of_forall₂ hall hrows
  obtain ⟨baseMatchupId, initial, hid, hinitial, hbuilt⟩ := hmatchup.rows
  obtain ⟨i, hi, hrow⟩ := exists_of_forall₂ hbuilt hmem
  rw [List.mem_range] at hi
  exact ⟨key, hkey, baseMatchupId, initial, i, hid, hinitial, by omega, hrow⟩

omit [Rfc8785] in
theorem rowDocument_injective {baseMatchupId baseMatchupId' : String} {side side' : SideAssignment}
    {block block' : String} {family family' : SeedFamily} {i i' : Int}
    (h : rowDocument baseMatchupId side block family i =
      rowDocument baseMatchupId' side' block' family' i') :
    baseMatchupId = baseMatchupId' ∧ i = i' := by
  simp only [rowDocument, Python.Json.obj.injEq, List.cons.injEq, Prod.mk.injEq,
    Python.Json.str.injEq, Python.Json.int.injEq] at h
  exact ⟨h.1.2, h.2.2.2.2.1.2⟩

/-- No two rows have one id. -/
theorem nodup_rowIds (hall : List.Forall₂ (MatchupRows registrationDigest masterSeed repetitions.toNat) ordered groups)
    (hsorted : ordered.Pairwise BaseMatchupKey.Before)
    (hfree : CollisionFree manifestDigest (IsRowDocument registrationDigest masterSeed ordered repetitions)) :
    (groups.flatten.map ScheduleRow.rowId).Nodup := by
  have hdocument {row : ScheduleRow} (hrow : row ∈ groups.flatten) :
      IsRowDocument registrationDigest masterSeed ordered repetitions (rowDocument row.baseMatchupId row.sideAssignment
        row.scheduleBlock row.seedFamily row.repetitionIndex) := by
    obtain ⟨key, hkey, baseMatchupId, initial, i, hid, hinitial, hi, hbuilt⟩ := exists_built hall hrow
    refine ⟨key, hkey, baseMatchupId, initial, i, row.seedFamily, hid, hinitial, hi, hbuilt.seeds, ?_⟩
    rw [hbuilt.baseMatchupId_eq, hbuilt.side_eq, hbuilt.block_eq, hbuilt.index_eq]
  have hdigest {row : ScheduleRow} (hrow : row ∈ groups.flatten) :
      manifestDigest (rowDocument row.baseMatchupId row.sideAssignment row.scheduleBlock
        row.seedFamily row.repetitionIndex) = .ok row.rowId := by
    obtain ⟨_, _, _, _, _, _, _, _, hbuilt⟩ := exists_built hall hrow
    exact hbuilt.id
  refine List.pairwise_map.mpr ((rows_pairwise hall hsorted).imp_of_mem
    fun {row other} hrow hother hbefore hsame => ?_)
  have hother' := hdigest hother
  rw [← hsame] at hother'
  obtain ⟨hbase, hindex⟩ := rowDocument_injective
    (hfree _ _ _ (hdocument hrow) (hdocument hother) (hdigest hrow) hother')
  rcases hbefore with hlt | ⟨-, hlt⟩
  · exact absurd hbase hlt.ne
  · exact absurd hindex hlt.ne

omit [Rfc8785] in
/-- A balanced group passes its check. -/
theorem checkGroup_ok {baseMatchupId : String} {n : Nat} {rows : List ScheduleRow}
    (h : BalancedGroup n rows) (hlength : rows.length = n) : checkGroup (baseMatchupId, rows) = .ok () := by
  have hsorted : ((List.range n).map Int.ofNat).Pairwise (· ≤ ·) := by
    rw [List.pairwise_map]
    exact List.pairwise_lt_range.imp fun hlt => Int.ofNat_le.mpr hlt.le
  have hindices : (rows.map ScheduleRow.repetitionIndex).insertionSort (· ≤ ·) =
      (List.range rows.length).map Int.ofNat := by
    rw [h.indices, hsorted.insertionSort_eq, hlength]
  have hbalanced := h.balanced
  simp only [checkGroup, hindices, ne_eq, not_true_eq_false, refuseIf_false, bind_eq_ok,
    refuseIf_eq_ok]
  exact ⟨(), trivial, by omega⟩

omit [Rfc8785] in
theorem forM_ok {groups : List (String × List ScheduleRow)}
    (h : ∀ group ∈ groups, checkGroup group = .ok ()) : groups.forM checkGroup = .ok () := by
  induction groups with
  | nil => rfl
  | cons group rest ih =>
    have hhead := h group List.mem_cons_self
    show (checkGroup group >>= fun _ => rest.forM checkGroup) = .ok ()
    rw [hhead]
    exact ih fun other hother => h other (List.mem_cons_of_mem _ hother)

/-- Rows that pass the checks are a schedule. -/
theorem postInit_ok {rows : List ScheduleRow} {digest : String} (hnonempty : rows ≠ [])
    (hnodup : (rows.map ScheduleRow.rowId).Nodup)
    (hordered : rows.insertionSort ScheduleRow.Precedes = rows)
    (hdigest : manifestDigest (.arr (rows.map ScheduleRow.toJson)) = .ok digest)
    (hgroups : (groupRows rows).forM checkGroup = .ok ()) :
    Schedule.postInit ⟨rows, digest⟩ = .ok ⟨rows, digest⟩ := by
  simp [Schedule.postInit, bind_eq_ok, hnonempty, hordered, hdigest, hnodup,
    isDigest_of_manifestDigest hdigest, hgroups, Functor.map, Except.map]

/-- The rows that were built are a schedule. -/
theorem schedule_ok (hdumps : DumpsPlain) (hpos : 1 ≤ repetitions) (hle : repetitions ≤ maxSafeInteger)
    (hnonempty : ordered ≠ [])
    (hall : List.Forall₂ (MatchupRows registrationDigest masterSeed repetitions.toNat) ordered groups)
    (hsorted : ordered.Pairwise BaseMatchupKey.Before)
    (hfree : CollisionFree manifestDigest (IsRowDocument registrationDigest masterSeed ordered repetitions)) :
    ∃ digest, manifestDigest (.arr (groups.flatten.map ScheduleRow.toJson)) = .ok digest ∧
      Schedule.postInit ⟨groups.flatten, digest⟩ = .ok ⟨groups.flatten, digest⟩ := by
  have hplain : (Python.Json.arr (groups.flatten.map ScheduleRow.toJson)).isPlain = true := by
    refine Python.Json.isPlain_arr.mpr fun document hdocument => ?_
    obtain ⟨row, hrow, rfl⟩ := List.mem_map.mp hdocument
    obtain ⟨key, _, baseMatchupId, initial, i, _, _, hi, hbuilt⟩ := exists_built hall hrow
    have hint : (Python.Json.int (i : Int)).isPlain = true := IsIndex.plain ⟨by omega, by omega⟩
    simp [ScheduleRow.toJson, Python.Json.isPlain, Python.Json.membersPlain, row.seedFamily.plain,
      hbuilt.index_eq] at hint ⊢
    exact hint
  obtain ⟨digest, hdigest⟩ := hdumps.exists_digest hplain
  have hrows : groups.flatten ≠ [] := by
    obtain ⟨key, rest, rfl⟩ := List.exists_cons_of_ne_nil hnonempty
    obtain ⟨rows, others, hhead, -, rfl⟩ := List.forall₂_cons_left_iff.mp hall
    obtain ⟨baseMatchupId, _, hid, -⟩ := hhead.rows
    have hlength := (hhead.group hid).2.2
    rw [List.flatten_cons]
    intro hnil
    rw [(List.append_eq_nil_iff.mp hnil).1, List.length_nil] at hlength
    omega
  have hordered : groups.flatten.insertionSort ScheduleRow.Precedes = groups.flatten := by
    refine List.Pairwise.insertionSort_eq ((rows_pairwise hall hsorted).imp fun hbefore => ?_)
    exact hbefore.imp_right fun h => ⟨h.1, h.2.le⟩
  have hgroups : (groupRows groups.flatten).forM checkGroup = .ok () := by
    refine forM_ok fun group hgroup => ?_
    obtain ⟨baseMatchupId, hid, rfl⟩ := List.mem_map.mp hgroup
    obtain ⟨row, hrow, rfl⟩ := List.mem_map.mp (List.mem_eraseDups.mp hid)
    obtain ⟨key, hkey, id, _, _, hid, _, _, hbuilt⟩ := exists_built hall hrow
    rw [hbuilt.baseMatchupId_eq]
    obtain ⟨hbalanced, -, hlength⟩ := (filter_rows hall hsorted hkey hid).group hid
    exact checkGroup_ok hbalanced hlength
  exact ⟨digest, hdigest, postInit_ok hrows (nodup_rowIds hall hsorted hfree) hordered hdigest hgroups⟩

end Rows

/-! ## §5 Schedules -/

/-- What a schedule of matchups is: every matchup has its repetitions, balanced, and every row is one
of a matchup. -/
structure IsBalanced (keys : List BaseMatchupKey) (repetitions : Int) (schedule : Schedule) : Prop where
  groups : ∀ key ∈ keys, ∃ baseMatchupId, key.baseMatchupId = .ok baseMatchupId ∧
    BalancedGroup repetitions.toNat
      (schedule.rows.filter fun row => row.baseMatchupId = baseMatchupId)
  keyed : ∀ row ∈ schedule.rows, ∃ key ∈ keys, key.baseMatchupId = .ok row.baseMatchupId
  nodup : (schedule.rows.map ScheduleRow.rowId).Nodup

end Building

/-- A matchup of two teams. -/
def sampleMatchup : BaseMatchupKey where
  heroTeam := "rain"
  opponentTeam := "sun"
  opponentArchetype := "weather"
  opponentPolicyCheckpoint := "heuristic-v1"
  scheduleBlock := "pilot"
  nonempty := by decide

def sampleRegistration : String :=
  "sha256:ba7816bf8f01cfea414140de5dae2223b00361a396177a9cb410ff61f20015ad"

def sampleSeed : String := "e3b0c44298fc1c149afbf4c8996fb92427ae41e4649b934ca495991b7852b855"

end BattleBelief
