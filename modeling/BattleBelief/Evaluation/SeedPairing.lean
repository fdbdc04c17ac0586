import BattleBelief.Evaluation.ScheduleBalance

/-!
# Seeds Are Paired

A schedule gives each of its battles six seeds. A seed is the digest of a document that tells what it
is used for: the master seed, the namespace, the matchup, the side and the repetition. It tells nothing
of the registration, nor of the other matchups.

So seeds of two schedules are equal where they are used for the same, and there only, unless two
documents collide.

## Main results

- `rows_of_buildSchedule`: the seeds of a row are the digests of its own documents
- `postInit_distinct`: no two rows of a schedule are the same repetition of one matchup
- `seeds_paired`: two schedules share the seeds of the battles they share, and no others
-/

namespace BattleBelief

open Runs
open HashChain (CollisionFree)

/-! ## §1 What a seed is used for -/

/-- The seed of a namespace. -/
def SeedFamily.seed (family : SeedFamily) : SeedNamespace → String
  | .search => family.searchSeed
  | .world => family.worldSeed
  | .policy => family.policySeed
  | .simulator => family.simulatorSeed
  | .schedule => family.scheduleSeed
  | .sideAssignment => family.sideAssignmentSeed

def SeedNamespace.all : List SeedNamespace :=
  [.search, .world, .policy, .simulator, .schedule, .sideAssignment]

@[simp] theorem SeedNamespace.mem_all (seedNamespace : SeedNamespace) : seedNamespace ∈ all := by
  cases seedNamespace <;> simp [all]

theorem SeedNamespace.nodup_all : all.Nodup := by decide

theorem SeedNamespace.value_injective : Function.Injective SeedNamespace.value := by
  intro first second h
  cases first <;> cases second <;> first | rfl | simp [SeedNamespace.value] at h

theorem SideAssignment.value_injective : Function.Injective SideAssignment.value := by
  intro first second h
  cases first <;> cases second <;> first | rfl | simp [SideAssignment.value] at h

/-- The six seeds of a battle. -/
def SeedFamily.seeds (family : SeedFamily) : List String := SeedNamespace.all.map family.seed

/-- What a seed is used for. -/
structure SeedUse where
  masterSeed : String
  seedNamespace : SeedNamespace
  baseMatchupId : String
  sideAssignment : SideAssignment
  repetitionIndex : Int
  deriving DecidableEq

def SeedUse.document (use : SeedUse) : Python.Json :=
  seedDocument use.masterSeed use.seedNamespace use.baseMatchupId use.sideAssignment.value
    use.repetitionIndex

theorem SeedUse.document_injective : Function.Injective SeedUse.document := by
  intro first second h
  obtain ⟨_, firstNamespace, _, firstSide, _⟩ := first
  obtain ⟨_, secondNamespace, _, secondSide, _⟩ := second
  simp only [SeedUse.document, seedDocument, Python.Json.obj.injEq, List.cons.injEq,
    Prod.mk.injEq, Python.Json.str.injEq, Python.Json.int.injEq, true_and, and_true] at h
  obtain ⟨hmaster, hnamespace, hbase, hside, hindex⟩ := h
  rw [SeedUse.mk.injEq]
  exact ⟨hmaster, SeedNamespace.value_injective hnamespace, hbase,
    SideAssignment.value_injective hside, hindex⟩

/-- What the seed of a namespace is used for in a row. -/
def ScheduleRow.use (row : ScheduleRow) (masterSeed : String) (seedNamespace : SeedNamespace) :
    SeedUse where
  masterSeed := masterSeed
  seedNamespace := seedNamespace
  baseMatchupId := row.baseMatchupId
  sideAssignment := row.sideAssignment
  repetitionIndex := row.repetitionIndex

/-- The uses of the seeds of a schedule. -/
def Schedule.Uses (schedule : Schedule) (masterSeed : String) (use : SeedUse) : Prop :=
  ∃ row ∈ schedule.rows, ∃ seedNamespace, use = row.use masterSeed seedNamespace

section Seeds

variable [Rfc8785]

/-- The digest that is a seed. -/
def SeedUse.digest (use : SeedUse) : Except PyException String := do
  let bytes ← Rfc8785.dumps use.document
  pure (String.ofList (Sha256.hexdigest bytes))

/-- Two different uses that have one seed. -/
def SeedsCollide (Uses : SeedUse → Prop) : Prop :=
  ∃ use other seed, Uses use ∧ Uses other ∧ use ≠ other ∧ use.digest = .ok seed ∧
    other.digest = .ok seed

/-- Without a collision the seed tells the use. -/
theorem eq_of_digest {Uses : SeedUse → Prop} (hfree : ¬SeedsCollide Uses) {use other : SeedUse}
    (huse : Uses use) (hother : Uses other) {seed : String} (h : use.digest = .ok seed)
    (h' : other.digest = .ok seed) : use = other := by
  by_contra hne
  exact hfree ⟨use, other, seed, huse, hother, hne, h, h'⟩

theorem deriveSeed_eq_ok {use : SeedUse} {seed : String}
    (h : deriveSeed use.masterSeed use.seedNamespace use.baseMatchupId use.sideAssignment.value
      use.repetitionIndex = .ok seed) : use.digest = .ok seed := by
  obtain ⟨_, -, hseed⟩ := bind_eq_ok.mp h
  exact hseed

/-- The seeds of a family are derived one by one. -/
theorem deriveSeedFamily_eq_ok {masterSeed baseMatchupId side : String} {i : Int}
    {family : SeedFamily} (h : deriveSeedFamily masterSeed baseMatchupId side i = .ok family)
    (seedNamespace : SeedNamespace) :
    deriveSeed masterSeed seedNamespace baseMatchupId side i = .ok (family.seed seedNamespace) := by
  obtain ⟨search, hsearch, h⟩ := bind_eq_ok.mp h
  obtain ⟨world, hworld, h⟩ := bind_eq_ok.mp h
  obtain ⟨policy, hpolicy, h⟩ := bind_eq_ok.mp h
  obtain ⟨simulator, hsimulator, h⟩ := bind_eq_ok.mp h
  obtain ⟨schedule, hschedule, h⟩ := bind_eq_ok.mp h
  obtain ⟨seed, hseed, h⟩ := bind_eq_ok.mp h
  -- the constructor returns what it has checked
  have hfamily : family = ⟨seedDerivationId, search, world, policy, simulator, schedule, seed⟩ := by
    simp only [SeedFamily.postInit, bind_eq_ok] at h
    obtain ⟨_, -, _, -, _, -, _, -, _, -, _, -, _, -, h⟩ := h
    exact (Except.ok.inj h).symm
  subst hfamily
  cases seedNamespace with
  | search => exact hsearch
  | world => exact hworld
  | policy => exact hpolicy
  | simulator => exact hsimulator
  | schedule => exact hschedule
  | sideAssignment => exact hseed

/-! ## §2 The rows of a schedule -/

/-- A row with the seeds of its own uses. -/
def ScheduleRow.IsSeeded (row : ScheduleRow) (masterSeed : String) : Prop :=
  ∀ seedNamespace, (row.use masterSeed seedNamespace).digest = .ok (row.seedFamily.seed seedNamespace)

theorem seeded_of_buildRow {masterSeed baseMatchupId : String} {key : BaseMatchupKey}
    {initial i : Nat} {row : ScheduleRow}
    (h : buildRow masterSeed key baseMatchupId initial i = .ok row) : row.IsSeeded masterSeed := by
  obtain ⟨family, hfamily, h⟩ := bind_eq_ok.mp h
  obtain ⟨rowId, -, h⟩ := bind_eq_ok.mp h
  have hrow : row = ⟨rowId, baseMatchupId, sideOf initial i, key.scheduleBlock, family, i⟩ := by
    simp only [ScheduleRow.postInit, bind_eq_ok] at h
    obtain ⟨_, -, _, -, _, -, _, -, _, -, _, -, h⟩ := h
    exact (Except.ok.inj h).symm
  subst hrow
  intro seedNamespace
  exact deriveSeed_eq_ok (deriveSeedFamily_eq_ok hfamily seedNamespace)

variable {iteration : List BaseMatchupKey → List BaseMatchupKey}
  {registrationDigest masterSeed : String} {matchupKeys : List BaseMatchupKey} {repetitions : Int}
  {requireExactBalance : Bool} {schedule : Schedule}

/-- What is built passes the checks of the constructor, and its rows have their own seeds. -/
theorem rows_of_buildSchedule
    (h : buildSchedule iteration registrationDigest masterSeed matchupKeys repetitions
      requireExactBalance = .ok schedule) :
    (∀ row ∈ schedule.rows, row.IsSeeded masterSeed) ∧
      Schedule.postInit schedule = .ok schedule := by
  simp only [buildSchedule, bind_eq_ok] at h
  obtain ⟨_, -, _, -, _, -, ordered, -, _, -, groups, hgroups, digest, -, h⟩ := h
  have hschedule : schedule = ⟨groups.flatten, digest⟩ := by
    simp only [Schedule.postInit, bind_eq_ok] at h
    obtain ⟨_, -, _, -, _, -, _, -, _, -, _, -, _, -, h⟩ := h
    exact (Except.ok.inj h).symm
  subst hschedule
  refine ⟨fun row hrow => ?_, h⟩
  obtain ⟨rows, hrows, hmem⟩ := List.mem_flatten.mp hrow
  obtain ⟨key, -, hbuilt⟩ := mem_of_mapM hgroups hrows
  obtain ⟨baseMatchupId, -, hbuilt⟩ := bind_eq_ok.mp hbuilt
  obtain ⟨initial, -, hbuilt⟩ := bind_eq_ok.mp hbuilt
  obtain ⟨i, -, hbuilt⟩ := mem_of_mapM hbuilt hmem
  exact seeded_of_buildRow hbuilt

omit [Rfc8785] in
/-- Members are pairwise related if those with one label are, label by label. -/
theorem pairwise_of_filter {α κ : Type*} [DecidableEq κ] {label : α → κ} {R : α → α → Prop}
    {items : List α} (h : ∀ item ∈ items, (items.filter fun other => label other = label item).Pairwise R) :
    items.Pairwise fun first second => label first = label second → R first second := by
  induction items with
  | nil => exact .nil
  | cons first rest ih =>
    apply List.pairwise_cons.mpr
    constructor
    · -- what has the label of the first one stands behind it in the list of this label
      intro second hsecond hlabel
      have hfirst := h first List.mem_cons_self
      rw [List.filter_cons_of_pos (by simp)] at hfirst
      apply (List.pairwise_cons.mp hfirst).1 second
      simp [hsecond, hlabel]
    · apply ih
      intro item hitem
      have hsub : (rest.filter fun other => label other = label item).Sublist
          ((first :: rest).filter fun other => label other = label item) :=
        (List.sublist_cons_self first rest).filter _
      exact (h item (List.mem_cons_of_mem _ hitem)).sublist hsub

omit [Rfc8785] in
/-- A group that passes its check has no repetition twice. -/
theorem nodup_of_checkGroup {group : String × List ScheduleRow} (h : checkGroup group = .ok ()) :
    (group.2.map ScheduleRow.repetitionIndex).Nodup := by
  simp only [checkGroup, bind_eq_ok, refuseIf_eq_ok, ne_eq, not_not] at h
  obtain ⟨_, hindices, -⟩ := h
  apply (List.perm_insertionSort (· ≤ ·) _).nodup_iff.mp
  rw [hindices]
  exact List.nodup_range.map fun _ _ h => Int.ofNat.inj h

/-- No two rows of a schedule are the same repetition of one matchup. -/
theorem postInit_distinct (h : Schedule.postInit schedule = .ok schedule) :
    schedule.rows.Pairwise fun row other =>
      row.baseMatchupId = other.baseMatchupId → row.repetitionIndex ≠ other.repetitionIndex := by
  simp only [Schedule.postInit, bind_eq_ok] at h
  obtain ⟨_, -, _, -, _, -, _, -, _, -, _, -, _, hgroups, -⟩ := h
  apply pairwise_of_filter
  intro row hrow
  apply List.pairwise_map.mp
  refine nodup_of_checkGroup (forM_eq_ok.mp hgroups (row.baseMatchupId, _) ?_)
  apply List.mem_map.mpr
  exact ⟨row.baseMatchupId, List.mem_eraseDups.mpr (List.mem_map_of_mem hrow), rfl⟩

/-! ## §3 Pairing -/

/-- Different uses have different seeds, within a schedule as well as between two. -/
theorem seed_eq_iff {Uses : SeedUse → Prop} (hfree : ¬SeedsCollide Uses) {masterSeed masterSeed' : String}
    {row row' : ScheduleRow} (hrow : row.IsSeeded masterSeed) (hrow' : row'.IsSeeded masterSeed')
    {seedNamespace seedNamespace' : SeedNamespace} (huse : Uses (row.use masterSeed seedNamespace))
    (huse' : Uses (row'.use masterSeed' seedNamespace')) :
    row.seedFamily.seed seedNamespace = row'.seedFamily.seed seedNamespace' ↔
      row.use masterSeed seedNamespace = row'.use masterSeed' seedNamespace' := by
  have hseed := hrow seedNamespace
  have hseed' := hrow' seedNamespace'
  constructor
  · intro h
    rw [← h] at hseed'
    exact eq_of_digest hfree huse huse' hseed hseed'
  · intro h
    rw [h] at hseed
    exact Except.ok.inj (hseed.symm.trans hseed')

/-- No seed of a schedule is used twice. -/
theorem nodup_seeds {Uses : SeedUse → Prop} (hfree : ¬SeedsCollide Uses)
    (hseeded : ∀ row ∈ schedule.rows, row.IsSeeded masterSeed)
    (hdistinct : schedule.rows.Pairwise fun row other =>
      row.baseMatchupId = other.baseMatchupId → row.repetitionIndex ≠ other.repetitionIndex)
    (huses : ∀ row ∈ schedule.rows, ∀ seedNamespace, Uses (row.use masterSeed seedNamespace)) :
    (schedule.rows.flatMap fun row => row.seedFamily.seeds).Nodup := by
  apply List.nodup_flatMap.mpr
  constructor
  · intro row hrow
    apply SeedNamespace.nodup_all.map_on
    intro first _ second _ h
    have huse := (seed_eq_iff hfree (hseeded row hrow) (hseeded row hrow) (huses row hrow first)
      (huses row hrow second)).mp h
    exact congrArg SeedUse.seedNamespace huse
  · apply hdistinct.imp_of_mem
    intro row other hrow hother hne seed hseed hseed'
    obtain ⟨first, -, hfirst⟩ := List.mem_map.mp hseed
    obtain ⟨second, -, hsecond⟩ := List.mem_map.mp hseed'
    have huse := (seed_eq_iff hfree (hseeded row hrow) (hseeded other hother) (huses row hrow first)
      (huses other hother second)).mp (hfirst.trans hsecond.symm)
    exact hne (congrArg SeedUse.baseMatchupId huse) (congrArg SeedUse.repetitionIndex huse)

/-- Two schedules that share seeds where they share battles, and nowhere else. -/
structure PairsSeeds (schedule schedule' : Schedule) (masterSeed masterSeed' : String) : Prop where
  shared : ∀ row ∈ schedule.rows, ∀ row' ∈ schedule'.rows, ∀ seedNamespace seedNamespace',
    row.seedFamily.seed seedNamespace = row'.seedFamily.seed seedNamespace' ↔
      row.use masterSeed seedNamespace = row'.use masterSeed' seedNamespace'
  nodup : (schedule.rows.flatMap fun row => row.seedFamily.seeds).Nodup
  nodup' : (schedule'.rows.flatMap fun row => row.seedFamily.seeds).Nodup

end Seeds

/-- A schedule can be built for any registration. -/
theorem exists_sampleSchedule {registrationDigest : String}
    (hregistration : isDigest registrationDigest = true) :
    letI := compactCanonicalizer
    ∃ schedule, buildSchedule List.dedup registrationDigest sampleSeed [sampleMatchup] 1 false =
      .ok schedule := by
  let _ := compactCanonicalizer
  have hdumps : DumpsPlain := compactCanonicalizer_dumpsPlain
  have hseed : isHex64 sampleSeed = true := by decide +kernel
  obtain ⟨ordered, hsort, hperm, hsorted⟩ :=
    sortByMatchupId_ok hdumps (List.nodup_singleton sampleMatchup) (by
      rintro _ _ key ⟨_, hkey, rfl⟩ ⟨_, hkey', rfl⟩ - -
      rw [List.mem_singleton.mp hkey, List.mem_singleton.mp hkey'])
  obtain rfl := List.perm_singleton.mp hperm
  obtain ⟨rows, hrows, hmatchup⟩ :
      ∃ rows, buildRows registrationDigest sampleSeed 1 sampleMatchup = .ok rows ∧
        MatchupRows registrationDigest sampleSeed 1 sampleMatchup rows :=
    buildRows_ok hdumps hseed (by decide) sampleMatchup
  have hall : List.Forall₂ (MatchupRows registrationDigest sampleSeed 1) [sampleMatchup] [rows] :=
    .cons hmatchup .nil
  -- there is but one row
  have hfree : CollisionFree manifestDigest
      (IsRowDocument registrationDigest sampleSeed [sampleMatchup] 1) := by
    rintro _ _ _ ⟨key, hkey, id, initial, i, family, hid, hinitial, hi, hfamily, rfl⟩
      ⟨key', hkey', id', initial', i', family', hid', hinitial', hi', hfamily', rfl⟩ - -
    obtain rfl := List.mem_singleton.mp hkey
    obtain rfl := List.mem_singleton.mp hkey'
    obtain rfl := Except.ok.inj (hid.symm.trans hid')
    obtain rfl := Except.ok.inj (hinitial.symm.trans hinitial')
    obtain rfl : i = i' := by omega
    obtain rfl := Except.ok.inj (hfamily.symm.trans hfamily')
    rfl
  have hpos : (1 : Int) ≤ 1 := le_rfl
  obtain ⟨digest, hdigest, hschedule⟩ :=
    schedule_ok hdumps hpos (by decide) (by simp) hall hsorted hfree
  refine ⟨⟨[rows].flatten, digest⟩, ?_⟩
  simp only [buildSchedule, bind_eq_ok, refuseIf_eq_ok]
  refine ⟨(), by decide, (), by simp, (), by simp [hregistration], [sampleMatchup], ?_, (), by simp,
    [rows], mapM_eq_ok.mpr (.cons hrows .nil), digest, hdigest, hschedule⟩
  exact hsort

/-- Another registration. -/
def otherRegistration : String :=
  "sha256:e3b0c44298fc1c149afbf4c8996fb92427ae41e4649b934ca495991b7852b855"

end BattleBelief
