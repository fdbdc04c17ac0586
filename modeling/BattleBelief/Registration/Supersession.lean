import BattleBelief.Library.Cycles
import BattleBelief.Library.PythonDict
import Mathlib.Data.List.Pairwise

/-!
# Supersession

Every artifact may name the digest of the one that it supersedes. The validator follows these
digests from every artifact on, and reports a cycle when it comes back to an artifact of the same
walk; what a walk has passed through is settled, and no later walk goes there again.
`supersession_cycles` says that each cycle is reported once.
-/

namespace BattleBelief

open Cycles Relation
open Python (Dict.get? Dict.keys Dict.assign Dict.ofPairs)

/-! ## §1 The supersession map -/

/-- What the supersession checks read of an artifact. -/
structure RegistrationArtifact where
  /-- `path.relative_to(repository_root)` -/
  path : String
  kind : String
  /-- `manifest_digest(dict(value))` -/
  digest : String
  /-- `artifact_identity(value, kind)` -/
  identity : Option String
  /-- Where it is an integer -/
  artifactVersion : Option Int
  /-- Where it is a text or `None` -/
  supersedesDigest : Option (Option String)

structure SupersessionRecord where
  supersession : List (String × String)
  supersessionChildren : List (String × List String)
  errors : List String

def SupersessionRecord.report (record : SupersessionRecord) (artifact : RegistrationArtifact)
    (problem : String) : SupersessionRecord :=
  { record with errors := record.errors ++ [s!"{artifact.path}: {problem}"] }

/-- One round of the loop that fills the supersession map. -/
def recordSupersession (byDigest : List (String × RegistrationArtifact))
    (record : SupersessionRecord) (artifact : RegistrationArtifact) : SupersessionRecord :=
  match artifact.artifactVersion, artifact.supersedesDigest with
  | some version, some none =>
      if version ≠ 1 then record.report artifact "first artifact version must be 1" else record
  | some version, some (some predecessor) =>
      if predecessor = artifact.digest then record.report artifact "artifact supersedes itself"
      else
        match Dict.get? byDigest predecessor with
        | none => record.report artifact "superseded artifact is unresolved"
        | some previous =>
            let record :=
              if previous.kind ≠ artifact.kind ∨ previous.identity ≠ artifact.identity then
                record.report artifact "superseded artifact identity mismatch"
              else record
            let record :=
              if previous.artifactVersion.all fun earlier => earlier ≥ version then
                record.report artifact "artifact version does not advance"
              else record
            let children :=
              (Dict.get? record.supersessionChildren predecessor).getD [] ++ [artifact.digest]
            let record := { record with
              supersession := Dict.assign record.supersession artifact.digest predecessor
              supersessionChildren := Dict.assign record.supersessionChildren predecessor children }
            if children.length > 1 then
              record.report artifact "superseded artifact has multiple successors"
            else record
  | _, _ => record

/-! ## §2 The detection loop -/

section Loop

variable (supersession : List (String × String))

/-- The inner loop: what it has visited in the end, and the digest of the cycle that it reports;
without a result if it takes `fuel` rounds or more. -/
def followSupersession (settled : List String) :
    Nat → List String → String → Option (List String × Option String)
  | 0, _, _ => none
  | fuel + 1, visited, current =>
      match Dict.get? supersession current with
      | none => some (visited, none)
      | some predecessor =>
          if current ∈ settled then some (visited, none)
          else if current ∈ visited then some (visited, some current)
          else followSupersession settled fuel (current :: visited) predecessor

/-- The outer loop over the remaining digests: the digests of the cycles that it reports. -/
def supersessionCyclesFrom (fuel : Nat) (settled : List String) :
    List String → Option (List String)
  | [] => some []
  | digest :: rest => do
      let (visited, cycle) ← followSupersession supersession settled fuel [] digest
      let later ← supersessionCyclesFrom fuel (visited ++ settled) rest
      pure (cycle.toList ++ later)

/-- The digests of the cycles that the loop reports. -/
def supersessionCycles (fuel : Nat) : Option (List String) :=
  supersessionCyclesFrom supersession fuel [] (Dict.keys supersession)

end Loop

/-- The text of the error for the cycle of a digest. -/
def cycleError (byDigest : List (String × RegistrationArtifact)) (digest : String) : String :=
  let location := ((Dict.get? byDigest digest).map fun artifact => artifact.path).getD digest
  s!"{location}: artifact supersession cycle detected"

/-- The errors of the supersession checks. -/
def supersessionErrors (artifacts : List RegistrationArtifact) (fuel : Nat) :
    Option (List String) :=
  let byDigest := Dict.ofPairs (artifacts.map fun artifact => (artifact.digest, artifact))
  let record := artifacts.foldl (recordSupersession byDigest) ⟨[], [], []⟩
  (supersessionCycles record.supersession fuel).map fun cycles =>
    record.errors ++ cycles.map (cycleError byDigest)

/-! ## §3 One walk -/

section Walks

variable {supersession : List (String × String)} {settled visited : List String}
  {start current digest : String} {cycle : Option String} {fuel : Nat}

/-- The edges of the map. -/
def Supersedes (supersession : List (String × String)) (digest predecessor : String) : Prop :=
  Dict.get? supersession digest = some predecessor

theorem supersedes_unique : Relator.RightUnique (Supersedes supersession) :=
  fun _ _ _ hfirst hsecond => Option.some.inj (hfirst.symm.trans hsecond)

theorem exists_predecessor (h : TransGen (Supersedes supersession) digest digest) :
    ∃ predecessor, Supersedes supersession digest predecessor := by
  obtain ⟨predecessor, hstep, -⟩ := TransGen.head'_iff.mp h
  exact ⟨predecessor, hstep⟩

theorem mem_keys_of_supersedes {predecessor : String}
    (h : Supersedes supersession digest predecessor) : digest ∈ Dict.keys supersession :=
  Python.Dict.mem_keys_iff.mpr ⟨predecessor, h⟩

/-- What has been settled leads to what has been settled, or out of the map. -/
def Closed (supersession : List (String × String)) (settled : List String) : Prop :=
  ∀ digest ∈ settled, ∀ predecessor, Supersedes supersession digest predecessor →
    predecessor ∈ settled ∨ Dict.get? supersession predecessor = none

theorem closed_nil (supersession : List (String × String)) : Closed supersession [] := nofun

/-- A cycle with a settled digest is settled. -/
theorem Closed.mem (h : Closed supersession settled) (hsettled : digest ∈ settled)
    (hcycle : TransGen (Supersedes supersession) digest digest) {other : String}
    (hreaches : ReflTransGen (Supersedes supersession) digest other) : other ∈ settled := by
  refine mem_of_onCycle (s := {member | member ∈ settled}) supersedes_unique ?_ hsettled hcycle
    hreaches
  intro member hmember predecessor hstep hback
  rcases h member hmember predecessor hstep with hmem | hnone
  · exact hmem
  · obtain ⟨further, hfurther⟩ := exists_predecessor hback
    rw [Supersedes, hnone] at hfurther
    cases hfurther

/-- What holds before each round of a walk from `start`. -/
structure Walking (supersession : List (String × String)) (settled : List String) (start : String)
    (visited : List String) (current : String) : Prop where
  starts : start = current ∨ start ∈ visited
  keys : ∀ digest ∈ visited, digest ∈ Dict.keys supersession
  nodup : visited.Nodup
  apart : ∀ digest ∈ visited, digest ∉ settled
  leads : ∀ digest ∈ visited, ∀ predecessor, Supersedes supersession digest predecessor →
    predecessor = current ∨ predecessor ∈ visited
  reaches : ∀ digest ∈ visited, TransGen (Supersedes supersession) digest current

/-- What a walk from `start` has done in the end. -/
structure Walked (supersession : List (String × String)) (settled : List String) (start : String)
    (visited : List String) (cycle : Option String) : Prop where
  starts : start ∈ visited ++ settled ∨ Dict.get? supersession start = none
  apart : ∀ digest ∈ visited, digest ∉ settled
  closed : Closed supersession (visited ++ settled)
  found : ∀ digest ∈ cycle, digest ∈ visited ∧ TransGen (Supersedes supersession) digest digest
  complete : ∀ digest ∈ visited, TransGen (Supersedes supersession) digest digest →
    ∃ reported ∈ cycle, ReflTransGen (Supersedes supersession) digest reported

theorem Walking.step (h : Walking supersession settled start visited current) {predecessor : String}
    (hstep : Supersedes supersession current predecessor) (hunsettled : current ∉ settled)
    (hfresh : current ∉ visited) :
    Walking supersession settled start (current :: visited) predecessor where
  starts := by
    rcases h.starts with rfl | hmem
    · exact .inr List.mem_cons_self
    · exact .inr (List.mem_cons_of_mem current hmem)
  keys := List.forall_mem_cons.mpr ⟨mem_keys_of_supersedes hstep, h.keys⟩
  nodup := List.nodup_cons.mpr ⟨hfresh, h.nodup⟩
  apart := List.forall_mem_cons.mpr ⟨hunsettled, h.apart⟩
  leads := by
    refine List.forall_mem_cons.mpr ⟨fun other hother => ?_, fun digest hdigest other hother => ?_⟩
    · exact .inl (supersedes_unique hother hstep)
    · rcases h.leads digest hdigest other hother with rfl | hmem
      · exact .inr List.mem_cons_self
      · exact .inr (List.mem_cons_of_mem current hmem)
  reaches := by
    refine List.forall_mem_cons.mpr ⟨.single hstep, fun digest hdigest => ?_⟩
    exact (h.reaches digest hdigest).tail hstep

/-- A walk that leaves the map or meets what is settled has met no cycle. -/
theorem Walking.stop (h : Walking supersession settled start visited current)
    (hclosed : Closed supersession settled)
    (hend : Dict.get? supersession current = none ∨ current ∈ settled) :
    Walked supersession settled start visited none where
  starts := by
    rcases h.starts with rfl | hmem
    · exact hend.symm.imp_left (List.mem_append_right visited)
    · exact .inl (List.mem_append_left settled hmem)
  apart := h.apart
  closed := by
    intro digest hdigest predecessor hstep
    rcases List.mem_append.mp hdigest with hmem | hmem
    · rcases h.leads digest hmem predecessor hstep with rfl | hvisited
      · exact hend.symm.imp_left (List.mem_append_right visited)
      · exact .inl (List.mem_append_left settled hvisited)
    · exact (hclosed digest hmem predecessor hstep).imp_left (List.mem_append_right visited)
  found := nofun
  complete := by
    intro digest hdigest hcycle
    have hreaches := (h.reaches digest hdigest).to_reflTransGen
    have hback := onCycle_of_reaches supersedes_unique hcycle hreaches
    rcases hend with hnone | hsettled
    · obtain ⟨predecessor, hstep⟩ := exists_predecessor hback
      rw [Supersedes, hnone] at hstep
      cases hstep
    · have hmem := hclosed.mem hsettled hback (reaches_back supersedes_unique hcycle hreaches)
      exact absurd hmem (h.apart digest hdigest)

/-- A walk that comes back to what it has visited has met the cycle of it. -/
theorem Walking.close (h : Walking supersession settled start visited current)
    (hclosed : Closed supersession settled) (hmem : current ∈ visited) :
    Walked supersession settled start visited (some current) where
  starts := by
    rcases h.starts with rfl | hstart
    · exact .inl (List.mem_append_left settled hmem)
    · exact .inl (List.mem_append_left settled hstart)
  apart := h.apart
  closed := by
    intro digest hdigest predecessor hstep
    rcases List.mem_append.mp hdigest with hvisited | hsettled
    · rcases h.leads digest hvisited predecessor hstep with rfl | hother
      · exact .inl (List.mem_append_left settled hmem)
      · exact .inl (List.mem_append_left settled hother)
    · exact (hclosed digest hsettled predecessor hstep).imp_left (List.mem_append_right visited)
  found := by
    rintro digest hdigest
    obtain rfl := Option.some.inj hdigest
    exact ⟨hmem, h.reaches current hmem⟩
  complete := fun digest hdigest _ =>
    ⟨current, rfl, (h.reaches digest hdigest).to_reflTransGen⟩

/-- A walk comes to its end before it has visited more digests than the map has. -/
theorem Walking.ends (h : Walking supersession settled start visited current)
    (hclosed : Closed supersession settled) (hfuel : supersession.length < visited.length + fuel) :
    ∃ final cycle, followSupersession supersession settled fuel visited current =
      some (final, cycle) ∧ Walked supersession settled start final cycle := by
  induction fuel generalizing visited current with
  | zero =>
    have hle : visited.length ≤ supersession.length := by
      have hsubset := (List.subperm_of_subset h.nodup h.keys).length_le
      rwa [Dict.keys, List.length_map] at hsubset
    omega
  | succ fuel ih =>
    rw [followSupersession]
    cases hget : Dict.get? supersession current with
    | none => exact ⟨visited, none, rfl, h.stop hclosed (.inl hget)⟩
    | some predecessor =>
      simp only
      split_ifs with hsettled hvisited
      · exact ⟨visited, none, rfl, h.stop hclosed (.inr hsettled)⟩
      · exact ⟨visited, some current, rfl, h.close hclosed hvisited⟩
      · refine ih (h.step hget hsettled hvisited) ?_
        rw [List.length_cons]
        omega

theorem walking_start (start : String) : Walking supersession settled start [] start :=
  ⟨.inl rfl, nofun, List.nodup_nil, nofun, nofun, nofun⟩

/-! ## §4 All walks -/

/-- Two digests of one cycle. -/
def SameCycle (supersession : List (String × String)) (first second : String) : Prop :=
  ReflTransGen (Supersedes supersession) first second ∧
    ReflTransGen (Supersedes supersession) second first

/-- The loop reports cycles that have not been settled, none of them twice, and misses none that
meets one of its digests. -/
structure Reports (supersession : List (String × String)) (settled digests reported : List String) :
    Prop where
  found : ∀ digest ∈ reported, digest ∉ settled ∧ TransGen (Supersedes supersession) digest digest
  once : reported.Pairwise fun first second => ¬SameCycle supersession first second
  complete : ∀ digest ∈ digests, TransGen (Supersedes supersession) digest digest →
    digest ∈ settled ∨ ∃ other ∈ reported, ReflTransGen (Supersedes supersession) digest other

theorem supersessionCyclesFrom_reports (hfuel : supersession.length < fuel) (digests : List String)
    (hclosed : Closed supersession settled) :
    ∃ reported, supersessionCyclesFrom supersession fuel settled digests = some reported ∧
      Reports supersession settled digests reported := by
  induction digests generalizing settled with
  | nil => exact ⟨[], rfl, nofun, .nil, nofun⟩
  | cons digest rest ih =>
    obtain ⟨visited, cycle, hwalk, hwalked⟩ :=
      (walking_start digest).ends hclosed (by rwa [List.length_nil, Nat.zero_add])
    obtain ⟨later, hlater, hreports⟩ := ih hwalked.closed
    refine ⟨cycle.toList ++ later, ?_, ?_, ?_, ?_⟩
    · rw [supersessionCyclesFrom, hwalk]
      simp only [Option.bind_eq_bind, Option.bind_some, hlater]
      rfl
    · intro other hother
      rcases List.mem_append.mp hother with hmem | hmem
      · obtain ⟨hvisited, hcycle⟩ := hwalked.found other (Option.mem_toList.mp hmem)
        exact ⟨hwalked.apart other hvisited, hcycle⟩
      · obtain ⟨hunsettled, hcycle⟩ := hreports.found other hmem
        exact ⟨fun hsettled => hunsettled (List.mem_append_right visited hsettled), hcycle⟩
    · refine List.pairwise_append.mpr ⟨?_, hreports.once, fun first hfirst second hsecond hsame => ?_⟩
      · cases cycle with
        | none => exact .nil
        | some first => exact List.pairwise_singleton _ first
      -- what this walk has settled is reported by no later one
      · obtain ⟨hvisited, hcycle⟩ := hwalked.found first (Option.mem_toList.mp hfirst)
        have hsettled := hwalked.closed.mem (List.mem_append_left settled hvisited) hcycle hsame.1
        exact (hreports.found second hsecond).1 hsettled
    · have hvisits : ∀ other ∈ visited, TransGen (Supersedes supersession) other other →
          ∃ reported ∈ cycle.toList ++ later,
            ReflTransGen (Supersedes supersession) other reported := by
        intro other hother hcycle
        obtain ⟨reported, hreported, hreaches⟩ := hwalked.complete other hother hcycle
        exact ⟨reported, List.mem_append_left later (Option.mem_toList.mpr hreported), hreaches⟩
      refine List.forall_mem_cons.mpr ⟨fun hcycle => ?_, fun other hother hcycle => ?_⟩
      · rcases hwalked.starts with hmem | hnone
        · exact (List.mem_append.mp hmem).symm.imp_right fun hvisited =>
            hvisits digest hvisited hcycle
        · obtain ⟨predecessor, hstep⟩ := exists_predecessor hcycle
          rw [Supersedes, hnone] at hstep
          cases hstep
      · rcases hreports.complete other hother hcycle with hmem | ⟨reported, hreported, hreaches⟩
        · exact (List.mem_append.mp hmem).symm.imp_right fun hvisited =>
            hvisits other hvisited hcycle
        · exact .inr ⟨reported, List.mem_append_right cycle.toList hreported, hreaches⟩

/-- **Each cycle is reported once.** For every supersession map the detection loop ends, after fewer
rounds of each walk than the map has digests and one more. It reports each digest once, and of each
cycle of the map exactly one digest; and whatever it reports lies on a cycle, so that it reports
nothing if there is none. -/
theorem supersession_cycles (supersession : List (String × String)) (fuel : Nat)
    (hfuel : supersession.length < fuel) :
    ∃ reported, supersessionCycles supersession fuel = some reported ∧ reported.Nodup ∧
      (∀ digest ∈ reported, ∃ cycle, IsCycle (Supersedes supersession) cycle ∧ digest ∈ cycle) ∧
      ∀ cycle, IsCycle (Supersedes supersession) cycle →
        ∃! digest, digest ∈ reported ∧ digest ∈ cycle := by
  obtain ⟨reported, hreported, hreports⟩ := supersessionCyclesFrom_reports hfuel
    (Dict.keys supersession) (closed_nil supersession)
  refine ⟨reported, hreported, ?_, fun digest hdigest => ?_, fun cycle hcycle => ?_⟩
  · refine hreports.once.imp fun hapart hsame => hapart ?_
    rw [hsame]
    exact ⟨.refl, .refl⟩
  · exact ⟨_, ⟨digest, (hreports.found digest hdigest).2, rfl⟩, .refl⟩
  · obtain ⟨start, hstart, hcycleEq⟩ := hcycle
    obtain ⟨predecessor, hstep⟩ := exists_predecessor hstart
    obtain ⟨digest, hdigest, hreaches⟩ := (hreports.complete start (mem_keys_of_supersedes hstep)
      hstart).resolve_left List.not_mem_nil
    refine ⟨digest, ⟨hdigest, hcycleEq ▸ hreaches⟩, ?_⟩
    rintro other ⟨hother, hmem⟩
    rw [hcycleEq] at hmem
    by_contra hne
    have hsymm : Std.Symm fun first second => ¬SameCycle supersession first second :=
      ⟨fun _ _ hnot hsame => hnot hsame.symm⟩
    have hapart := hreports.once.forall hother hdigest hne
    refine hapart ⟨?_, ?_⟩
    · exact (reaches_back supersedes_unique hstart hmem).trans hreaches
    · exact (reaches_back supersedes_unique hstart hreaches).trans hmem

/-- Two chains lead into one cycle. -/
theorem chains_into_cycle :
    let supersession := [("a", "b"), ("c", "b"), ("b", "d"), ("d", "b")]
    ∃ reported, supersessionCycles supersession 5 = some reported ∧ reported.Nodup ∧
      (∀ digest ∈ reported, ∃ cycle, IsCycle (Supersedes supersession) cycle ∧ digest ∈ cycle) ∧
      ∀ cycle, IsCycle (Supersedes supersession) cycle →
        ∃! digest, digest ∈ reported ∧ digest ∈ cycle :=
  supersession_cycles [("a", "b"), ("c", "b"), ("b", "d"), ("d", "b")] 5 (by decide)

end Walks

/-! ## §5 The checks -/

theorem length_recordSupersession (byDigest : List (String × RegistrationArtifact))
    (record : SupersessionRecord) (artifact : RegistrationArtifact) :
    (recordSupersession byDigest record artifact).supersession.length ≤
      record.supersession.length + 1 := by
  have hassign : ∀ (dict : List (String × String)) key value,
      (Dict.assign dict key value).length ≤ dict.length + 1 := by
    intro dict key value
    induction dict with
    | nil => exact le_refl _
    | cons item rest ih =>
      rw [Dict.assign]
      split_ifs
      · exact Nat.le_succ _
      · exact Nat.succ_le_succ ih
  unfold recordSupersession
  split
  · split_ifs <;> exact Nat.le_succ _
  · split_ifs
    · exact Nat.le_succ _
    · split
      · exact Nat.le_succ _
      · dsimp only
        split_ifs <;> exact hassign record.supersession artifact.digest _
  · exact Nat.le_succ _

/-- The supersession checks of a repository end. -/
theorem supersessionErrors_ends (artifacts : List RegistrationArtifact) :
    ∃ errors, supersessionErrors artifacts (artifacts.length + 1) = some errors := by
  have hlength : ∀ byDigest (record : SupersessionRecord),
      (artifacts.foldl (recordSupersession byDigest) record).supersession.length ≤
        record.supersession.length + artifacts.length := by
    intro byDigest record
    induction artifacts generalizing record with
    | nil => exact le_refl _
    | cons artifact rest ih =>
      have hstep := length_recordSupersession byDigest record artifact
      have hrest := ih (recordSupersession byDigest record artifact)
      rw [List.foldl_cons, List.length_cons]
      omega
  have hfuel := Nat.lt_succ_of_le (hlength (Dict.ofPairs (artifacts.map fun artifact =>
    (artifact.digest, artifact))) ⟨[], [], []⟩)
  rw [List.length_nil, Nat.zero_add] at hfuel
  obtain ⟨reported, hreported, -⟩ := supersessionCyclesFrom_reports hfuel (Dict.keys _)
    (closed_nil _)
  rw [supersessionErrors, supersessionCycles, hreported]
  exact ⟨_, rfl⟩

end BattleBelief
