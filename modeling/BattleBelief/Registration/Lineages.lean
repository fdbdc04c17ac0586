import BattleBelief.Registration.Supersession
import Mathlib.Data.Set.Finite.List
import Mathlib.Order.WellFounded

/-!
# Lineages

The supersession checks pass exactly when the artifacts of a repository form lineages: from every
artifact the digests lead back, over artifacts of the same kind and identity with ever smaller
versions, to one that supersedes nothing, and no two artifacts supersede the same one.

- `recorded_spec`: what the loop over the artifacts has recorded
- `lineages_exact`: the checks pass exactly on lineages
-/

namespace BattleBelief

open Cycles Relation
open Python (Dict.get? Dict.keys Dict.assign Dict.ofPairs)

/-! ## §1 Lineages -/

/-- The artifacts by their digests, of which the last one with a digest counts. -/
def artifactsByDigest (artifacts : List RegistrationArtifact) : List (String × RegistrationArtifact) :=
  Dict.ofPairs (artifacts.map fun artifact => (artifact.digest, artifact))

/-- The digest that an artifact with a version supersedes. -/
def RegistrationArtifact.predecessor (artifact : RegistrationArtifact) : Option String :=
  artifact.artifactVersion.bind fun _ => artifact.supersedesDigest.join

section Lineages

variable (byDigest : List (String × RegistrationArtifact))

/-- An artifact that supersedes nothing. Where it says so itself, it is the first version. -/
structure Begins (artifact : RegistrationArtifact) : Prop where
  alone : artifact.predecessor = none
  version : ∀ version, artifact.artifactVersion = some version →
    artifact.supersedesDigest = some none → version = 1

/-- An artifact that goes on from another one. -/
structure Succeeds (artifact previous : RegistrationArtifact) : Prop where
  supersedes : ∃ predecessor, artifact.predecessor = some predecessor ∧
    predecessor ≠ artifact.digest ∧ Dict.get? byDigest predecessor = some previous
  kind : previous.kind = artifact.kind
  identity : previous.identity = artifact.identity
  version : ∃ earlier version, previous.artifactVersion = some earlier ∧
    artifact.artifactVersion = some version ∧ earlier < version

/-- An artifact with those that it goes back to, the oldest one last. -/
inductive Lineage : RegistrationArtifact → List RegistrationArtifact → Prop
  | first {artifact : RegistrationArtifact} (h : Begins artifact) : Lineage artifact [artifact]
  | next {artifact previous : RegistrationArtifact} {rest : List RegistrationArtifact}
      (h : Succeeds byDigest artifact previous) (hrest : Lineage previous rest) :
      Lineage artifact (artifact :: rest)

/-- What the checks ask of an artifact alone. -/
def Placed (artifact : RegistrationArtifact) : Prop :=
  Begins artifact ∨ ∃ previous, Succeeds byDigest artifact previous

theorem Lineage.placed {artifact : RegistrationArtifact} {line : List RegistrationArtifact}
    (h : Lineage byDigest artifact line) : Placed byDigest artifact := by
  cases h with
  | first h => exact .inl h
  | next h _ => exact .inr ⟨_, h⟩

end Lineages

/-! ## §2 One round -/

section Rounds

variable {byDigest : List (String × RegistrationArtifact)} {record : SupersessionRecord}
  {artifact : RegistrationArtifact}

/-- The predecessor that is entered in the map: another digest, of an artifact that is there. -/
def linkOf (byDigest : List (String × RegistrationArtifact)) (artifact : RegistrationArtifact) :
    Option String :=
  artifact.predecessor.filter fun predecessor =>
    predecessor ≠ artifact.digest && (Dict.get? byDigest predecessor).isSome

/-- An artifact that goes on from another one is linked to it. -/
theorem Placed.link (h : Placed byDigest artifact) :
    linkOf byDigest artifact = artifact.predecessor := by
  rcases h with hbegins | ⟨previous, hadvances⟩
  · rw [linkOf, hbegins.alone]
    rfl
  · obtain ⟨predecessor, hpredecessor, hother, hfound⟩ := hadvances.supersedes
    simp [linkOf, hpredecessor, hother, hfound]

/-- What a round makes of the record. -/
structure Round (byDigest : List (String × RegistrationArtifact)) (record : SupersessionRecord)
    (artifact : RegistrationArtifact) (after : SupersessionRecord) : Prop where
  /-- The map has the link of the artifact, if it has one. -/
  supersession : after.supersession = (linkOf byDigest artifact).elim record.supersession
    fun predecessor => Dict.assign record.supersession artifact.digest predecessor
  children : ∀ predecessor, (Dict.get? after.supersessionChildren predecessor).getD [] =
    (Dict.get? record.supersessionChildren predecessor).getD [] ++
      if linkOf byDigest artifact = some predecessor then [artifact.digest] else []
  clean : after.errors = [] ↔ record.errors = [] ∧ Placed byDigest artifact ∧
    ∀ predecessor, linkOf byDigest artifact = some predecessor →
      (Dict.get? record.supersessionChildren predecessor).getD [] = []

theorem placed_of_begins (h : artifact.predecessor = none) :
    Placed byDigest artifact ↔ Begins artifact := by
  constructor
  · rintro (hbegins | ⟨previous, hadvances⟩)
    · exact hbegins
    · obtain ⟨predecessor, hpredecessor, -⟩ := hadvances.supersedes
      rw [h] at hpredecessor
      cases hpredecessor
  · exact .inl

/-- What goes on has a predecessor that is there. -/
theorem Placed.resolves (h : Placed byDigest artifact) {predecessor : String}
    (hpredecessor : artifact.predecessor = some predecessor) :
    predecessor ≠ artifact.digest ∧ ∃ previous, Dict.get? byDigest predecessor = some previous := by
  rcases h with hbegins | ⟨previous, hadvances⟩
  · have hnone := hbegins.alone
    rw [hpredecessor] at hnone
    cases hnone
  · obtain ⟨other, hother, hne, hprevious⟩ := hadvances.supersedes
    obtain rfl := Option.some.inj (hpredecessor.symm.trans hother)
    exact ⟨hne, previous, hprevious⟩

/-- An artifact whose predecessor is there goes on from this one or from none. -/
theorem placed_iff {predecessor : String} {previous : RegistrationArtifact} {version : Int}
    (hversion : artifact.artifactVersion = some version)
    (hpredecessor : artifact.predecessor = some predecessor) (hother : predecessor ≠ artifact.digest)
    (hfound : Dict.get? byDigest predecessor = some previous) :
    Placed byDigest artifact ↔ (previous.kind = artifact.kind ∧ previous.identity = artifact.identity) ∧
      ∃ earlier, previous.artifactVersion = some earlier ∧ earlier < version := by
  constructor
  · rintro (hbegins | ⟨other, hadvances⟩)
    · have hnone := hbegins.alone
      rw [hpredecessor] at hnone
      cases hnone
    · obtain ⟨named, hnamed, -, hother'⟩ := hadvances.supersedes
      obtain rfl := Option.some.inj (hpredecessor.symm.trans hnamed)
      obtain rfl := Option.some.inj (hfound.symm.trans hother')
      obtain ⟨earlier, version', hearlier, hversion', hlt⟩ := hadvances.version
      obtain rfl := Option.some.inj (hversion.symm.trans hversion')
      exact ⟨⟨hadvances.kind, hadvances.identity⟩, earlier, hearlier, hlt⟩
  · rintro ⟨⟨hkind, hidentity⟩, earlier, hearlier, hlt⟩
    exact .inr ⟨previous, ⟨predecessor, hpredecessor, hother, hfound⟩, hkind, hidentity, earlier,
      version, hearlier, hversion, hlt⟩

section Reports

variable {c : Prop} [Decidable c] {problem : String}

@[simp] theorem supersession_reportIf :
    (if c then record.report artifact problem else record).supersession = record.supersession := by
  split_ifs <;> rfl

@[simp] theorem supersessionChildren_reportIf :
    (if c then record.report artifact problem else record).supersessionChildren =
      record.supersessionChildren := by
  split_ifs <;> rfl

theorem errors_reportIf :
    (if c then record.report artifact problem else record).errors = [] ↔ record.errors = [] ∧ ¬c := by
  split_ifs with hc
  · simp [SupersessionRecord.report, hc]
  · simp [hc]

end Reports

/-- A record that only a problem has been added to, for an artifact that is out of place. -/
theorem Round.reported (hlink : linkOf byDigest artifact = none) (hplaced : ¬Placed byDigest artifact)
    (problem : String) : Round byDigest record artifact (record.report artifact problem) where
  supersession := by rw [hlink]; rfl
  children predecessor := by simp [hlink, SupersessionRecord.report]
  clean := by simp [SupersessionRecord.report, hplaced]

/-- A record that stays, for an artifact that begins a lineage. -/
theorem Round.begun (h : Begins artifact) : Round byDigest record artifact record := by
  have hplaced : Placed byDigest artifact := .inl h
  have hlink : linkOf byDigest artifact = none := hplaced.link.trans h.alone
  refine ⟨by rw [hlink]; rfl, fun predecessor => by simp [hlink], ?_⟩
  simp [hplaced, hlink]

/-- One round of the loop. -/
theorem recordSupersession_round (byDigest : List (String × RegistrationArtifact))
    (record : SupersessionRecord) (artifact : RegistrationArtifact) :
    Round byDigest record artifact (recordSupersession byDigest record artifact) := by
  cases hversion : artifact.artifactVersion with
  | none =>
    have hbegins : Begins artifact := by
      refine ⟨by simp [RegistrationArtifact.predecessor, hversion], fun version heq => ?_⟩
      rw [hversion] at heq
      cases heq
    simpa [recordSupersession, hversion] using Round.begun hbegins
  | some version =>
    cases hsupersedes : artifact.supersedesDigest with
    | none =>
      have hbegins : Begins artifact := by
        refine ⟨by simp [RegistrationArtifact.predecessor, hversion, hsupersedes], fun _ _ heq => ?_⟩
        rw [hsupersedes] at heq
        cases heq
      simpa [recordSupersession, hversion, hsupersedes] using Round.begun hbegins
    | some named =>
      cases named with
      | none =>
        have halone : artifact.predecessor = none := by
          simp [RegistrationArtifact.predecessor, hversion, hsupersedes]
        by_cases hfirst : version = 1
        · have hbegins : Begins artifact := ⟨halone, fun other heq _ => by
            rw [← Option.some.inj (hversion.symm.trans heq), hfirst]⟩
          simpa [recordSupersession, hversion, hsupersedes, hfirst] using Round.begun hbegins
        · have hplaced : ¬Placed byDigest artifact := by
            rw [placed_of_begins halone]
            exact fun hbegins => hfirst (hbegins.version version hversion hsupersedes)
          have hlink : linkOf byDigest artifact = none := by simp [linkOf, halone]
          simpa [recordSupersession, hversion, hsupersedes, hfirst] using
            Round.reported hlink hplaced "first artifact version must be 1"
      | some predecessor =>
        have hpredecessor : artifact.predecessor = some predecessor := by
          simp [RegistrationArtifact.predecessor, hversion, hsupersedes]
        by_cases hself : predecessor = artifact.digest
        · have hplaced : ¬Placed byDigest artifact :=
            fun hplaced => (hplaced.resolves hpredecessor).1 hself
          have hlink : linkOf byDigest artifact = none := by simp [linkOf, hpredecessor, hself]
          simpa [recordSupersession, hversion, hsupersedes, hself] using
            Round.reported hlink hplaced "artifact supersedes itself"
        · cases hfound : Dict.get? byDigest predecessor with
          | none =>
            have hplaced : ¬Placed byDigest artifact := by
              intro hplaced
              obtain ⟨-, previous, hprevious⟩ := hplaced.resolves hpredecessor
              rw [hfound] at hprevious
              cases hprevious
            have hlink : linkOf byDigest artifact = none := by simp [linkOf, hpredecessor, hfound]
            simpa [recordSupersession, hversion, hsupersedes, hself, hfound] using
              Round.reported hlink hplaced "superseded artifact is unresolved"
          | some previous =>
            have hlink : linkOf byDigest artifact = some predecessor := by
              simp [linkOf, hpredecessor, hself, hfound]
            have hplaced := placed_iff hversion hpredecessor hself hfound
            have hadvances : (∃ earlier, previous.artifactVersion = some earlier ∧ earlier < version) ↔
                ¬(previous.artifactVersion.all fun earlier => earlier ≥ version) = true := by
              cases previous.artifactVersion <;> simp
            simp only [recordSupersession, hversion, hsupersedes, hself, hfound, if_false]
            refine ⟨?_, fun other => ?_, ?_⟩
            · simp [hlink]
            · simp only [supersessionChildren_reportIf, Python.Dict.get?_assign, hlink,
                Option.some.injEq, eq_comm (a := predecessor)]
              split_ifs with heq
              · simp [heq]
              · simp
            · simp only [errors_reportIf, supersessionChildren_reportIf, hplaced, hadvances, hlink,
                Option.some.injEq, forall_eq', List.length_append, List.length_singleton, not_lt]
              constructor
              · rintro ⟨⟨⟨hclean, hsame⟩, hversions⟩, hcount⟩
                exact ⟨hclean, ⟨by simpa using hsame, hversions⟩, List.eq_nil_of_length_eq_zero (by omega)⟩
              · rintro ⟨hclean, ⟨hsame, hversions⟩, hcount⟩
                exact ⟨⟨⟨hclean, by simpa using hsame⟩, hversions⟩, by simp [hcount]⟩

end Rounds

/-! ## §3 All rounds -/

section Recordings

variable {byDigest : List (String × RegistrationArtifact)} {artifacts : List RegistrationArtifact}

/-- What the loop has recorded of the artifacts. -/
structure RecordsAll (byDigest : List (String × RegistrationArtifact))
    (artifacts : List RegistrationArtifact) (record : SupersessionRecord) : Prop where
  size : record.supersession.length ≤ artifacts.length
  edges : ∀ digest predecessor, Supersedes record.supersession digest predecessor →
    ∃ artifact ∈ artifacts, artifact.digest = digest ∧ linkOf byDigest artifact = some predecessor
  children : ∀ predecessor, (Dict.get? record.supersessionChildren predecessor).getD [] =
    (artifacts.filter fun artifact => linkOf byDigest artifact = some predecessor).map
      fun artifact => artifact.digest
  clean : record.errors = [] ↔ (∀ artifact ∈ artifacts, Placed byDigest artifact) ∧
    (artifacts.filterMap (linkOf byDigest)).Nodup

/-- What the loop makes of any artifacts. -/
theorem recorded_spec (byDigest : List (String × RegistrationArtifact))
    (artifacts : List RegistrationArtifact) :
    RecordsAll byDigest artifacts (artifacts.foldl (recordSupersession byDigest) ⟨[], [], []⟩) := by
  induction artifacts using List.reverseRecOn with
  | nil => exact ⟨le_refl _, fun _ _ h => (by cases h), fun _ => rfl, by simp⟩
  | append_singleton past artifact ih =>
    have hround := recordSupersession_round byDigest
      (past.foldl (recordSupersession byDigest) ⟨[], [], []⟩) artifact
    have hlength := length_recordSupersession byDigest
      (past.foldl (recordSupersession byDigest) ⟨[], [], []⟩) artifact
    rw [List.foldl_append]
    refine ⟨?_, fun digest predecessor hedge => ?_, fun predecessor => ?_, ?_⟩
    · have hsize := ih.size
      rw [List.length_append, List.length_singleton]
      exact hlength.trans (by omega)
    · have hold : Supersedes (past.foldl (recordSupersession byDigest) ⟨[], [], []⟩).supersession
          digest predecessor → ∃ other ∈ past ++ [artifact], other.digest = digest ∧
            linkOf byDigest other = some predecessor := by
        intro hpast
        obtain ⟨other, hother, hlinked⟩ := ih.edges digest predecessor hpast
        exact ⟨other, List.mem_append_left _ hother, hlinked⟩
      rw [List.foldl_cons, List.foldl_nil, Supersedes, hround.supersession] at hedge
      cases hlink : linkOf byDigest artifact with
      | none =>
        rw [hlink] at hedge
        exact hold hedge
      | some named =>
        rw [hlink, Option.elim_some, Python.Dict.get?_assign] at hedge
        split_ifs at hedge with hdigest
        · obtain rfl := Option.some.inj hedge
          exact ⟨artifact, by simp, hdigest.symm, hlink⟩
        · exact hold hedge
    · rw [List.foldl_cons, List.foldl_nil, hround.children, ih.children]
      by_cases hlink : linkOf byDigest artifact = some predecessor
      · simp [hlink]
      · simp [hlink]
    · rw [List.foldl_cons, List.foldl_nil, hround.clean, ih.clean]
      simp only [ih.children, List.map_eq_nil_iff, List.filter_eq_nil_iff, decide_eq_true_eq]
      rw [List.filterMap_append, List.nodup_append, List.forall_mem_append]
      cases hlink : linkOf byDigest artifact with
      | none => simp [hlink]; tauto
      | some named =>
        have hapart : (∀ a ∈ past, ¬linkOf byDigest a = some named) ↔
            ∀ other, ∀ a ∈ past, linkOf byDigest a = some other → ¬other = named :=
          ⟨fun h other a ha hother heq => h a ha (heq ▸ hother), fun h a ha hother =>
            h named a ha hother rfl⟩
        simp [hlink, hapart]
        tauto

/-- What is found under a digest is one of the artifacts with it. -/
theorem mem_of_artifactsByDigest {digest : String} {artifact : RegistrationArtifact}
    (h : Dict.get? (artifactsByDigest artifacts) digest = some artifact) :
    artifact ∈ artifacts ∧ artifact.digest = digest := by
  have hall : ∀ digest artifact, Dict.get? (artifactsByDigest artifacts) digest = some artifact →
      artifact ∈ artifacts ∧ artifact.digest = digest := by
    apply Python.Dict.ofPairs_invariant (I := fun dict => ∀ digest artifact,
      Dict.get? dict digest = some artifact → artifact ∈ artifacts ∧ artifact.digest = digest)
    · intro digest artifact hget
      cases hget
    · intro dict hdict item hitem digest artifact hget
      rw [Python.Dict.get?_assign] at hget
      split_ifs at hget with heq
      · obtain ⟨other, hother, rfl⟩ := List.mem_map.mp hitem
        obtain rfl := Option.some.inj hget
        exact ⟨hother, heq.symm⟩
      · exact hdict digest artifact hget
  exact hall digest artifact h

/-- The artifact has a smaller version. -/
def IsOlder (artifact other : RegistrationArtifact) : Prop :=
  ∃ earlier version, artifact.artifactVersion = some earlier ∧
    other.artifactVersion = some version ∧ earlier < version

theorem IsOlder.trans {first second third : RegistrationArtifact} (h : IsOlder first second)
    (h' : IsOlder second third) : IsOlder first third := by
  obtain ⟨earlier, middle, hearlier, hmiddle, hlt⟩ := h
  obtain ⟨middle', version, hmiddle', hversion, hlt'⟩ := h'
  obtain rfl := Option.some.inj (hmiddle.symm.trans hmiddle')
  exact ⟨earlier, version, hearlier, hversion, hlt.trans hlt'⟩

theorem IsOlder.irrefl (artifact : RegistrationArtifact) : ¬IsOlder artifact artifact := by
  rintro ⟨earlier, version, hearlier, hversion, hlt⟩
  obtain rfl := Option.some.inj (hearlier.symm.trans hversion)
  exact lt_irrefl _ hlt

/-- Among finitely many artifacts the older ones run out. -/
theorem isOlder_wellFounded (artifacts : List RegistrationArtifact) :
    WellFounded fun first second : {artifact // artifact ∈ artifacts} => IsOlder first second := by
  have : Finite {artifact // artifact ∈ artifacts} := (List.finite_toSet artifacts).to_subtype
  have : IsTrans {artifact // artifact ∈ artifacts} fun first second => IsOlder first second :=
    ⟨fun _ _ _ => IsOlder.trans⟩
  have : Std.Irrefl fun first second : {artifact // artifact ∈ artifacts} => IsOlder first second :=
    ⟨fun _ => IsOlder.irrefl _⟩
  exact Finite.wellFounded_of_trans_of_irrefl _

/-- Artifacts that are all in place have lineages. -/
theorem exists_lineage
    (hplaced : ∀ artifact ∈ artifacts, Placed (artifactsByDigest artifacts) artifact) :
    ∀ artifact ∈ artifacts, ∃ line, Lineage (artifactsByDigest artifacts) artifact line := by
  intro artifact hartifact
  -- by induction on the version, which is smaller before
  induction hmember : (⟨artifact, hartifact⟩ : {artifact // artifact ∈ artifacts}) using
    (isOlder_wellFounded artifacts).induction generalizing artifact with
  | _ member ih =>
    subst hmember
    rcases hplaced artifact hartifact with hbegins | ⟨previous, hadvances⟩
    · exact ⟨_, .first hbegins⟩
    · obtain ⟨predecessor, -, -, hfound⟩ := hadvances.supersedes
      have hprevious := (mem_of_artifactsByDigest hfound).1
      obtain ⟨line, hline⟩ := ih ⟨previous, hprevious⟩ hadvances.version previous hprevious rfl
      exact ⟨_, .next hadvances hline⟩

/-! ## §4 The checks -/

/-- Where equal digests are of equal versions, the map of placed artifacts leads to smaller versions
only, and so has no cycles. -/
theorem older_of_supersedes {record : SupersessionRecord}
    (hrecorded : RecordsAll (artifactsByDigest artifacts) artifacts record)
    (hplaced : ∀ artifact ∈ artifacts, Placed (artifactsByDigest artifacts) artifact)
    (hversions : ∀ first ∈ artifacts, ∀ second ∈ artifacts, first.digest = second.digest →
      first.artifactVersion = second.artifactVersion) {digest predecessor : String}
    (h : TransGen (Supersedes record.supersession) digest predecessor) :
    ∃ first ∈ artifacts, first.digest = digest ∧ ∃ second ∈ artifacts,
      second.digest = predecessor ∧ IsOlder second first := by
  have hstep : ∀ digest predecessor, Supersedes record.supersession digest predecessor →
      ∃ first ∈ artifacts, first.digest = digest ∧ ∃ second ∈ artifacts,
        second.digest = predecessor ∧ IsOlder second first := by
    intro digest predecessor hedge
    obtain ⟨artifact, hartifact, hdigest, hlink⟩ := hrecorded.edges digest predecessor hedge
    have hnamed := (hplaced artifact hartifact).link.symm.trans hlink
    rcases hplaced artifact hartifact with hbegins | ⟨previous, hadvances⟩
    · rw [hbegins.alone] at hnamed
      cases hnamed
    · obtain ⟨other, hother, -, hfound⟩ := hadvances.supersedes
      obtain rfl := Option.some.inj (hnamed.symm.trans hother)
      obtain ⟨hprevious, hpredecessor⟩ := mem_of_artifactsByDigest hfound
      exact ⟨artifact, hartifact, hdigest, previous, hprevious, hpredecessor, hadvances.version⟩
  induction h with
  | single hedge => exact hstep digest _ hedge
  | tail _ hedge ih =>
    obtain ⟨first, hfirst, hdigest, second, hsecond, hmiddle, holder⟩ := ih
    obtain ⟨middle, hmem, hsame, third, hthird, hlast, holder'⟩ := hstep _ _ hedge
    obtain ⟨earlier, version, hearlier, hversion, hlt⟩ := holder'
    have heq := hversions middle hmem second hsecond (hsame.trans hmiddle.symm)
    have hnext : IsOlder third second := ⟨earlier, version, hearlier, heq ▸ hversion, hlt⟩
    exact ⟨first, hfirst, hdigest, third, hthird, hlast, hnext.trans holder⟩

/-- **Lineages.** The supersession checks pass exactly when every artifact has a lineage, and no two
of them supersede the same artifact. Equal digests are taken to be of equal versions. -/
theorem lineages_exact (artifacts : List RegistrationArtifact)
    (hversions : ∀ first ∈ artifacts, ∀ second ∈ artifacts, first.digest = second.digest →
      first.artifactVersion = second.artifactVersion) :
    supersessionErrors artifacts (artifacts.length + 1) = some [] ↔
      (∀ artifact ∈ artifacts, ∃ line, Lineage (artifactsByDigest artifacts) artifact line) ∧
        (artifacts.filterMap RegistrationArtifact.predecessor).Nodup := by
  have hrecorded := recorded_spec (artifactsByDigest artifacts) artifacts
  have hplaced : (∀ artifact ∈ artifacts, ∃ line,
      Lineage (artifactsByDigest artifacts) artifact line) ↔
        ∀ artifact ∈ artifacts, Placed (artifactsByDigest artifacts) artifact := by
    constructor
    · intro h artifact hartifact
      obtain ⟨line, hline⟩ := h artifact hartifact
      exact hline.placed
    · exact exists_lineage
  obtain ⟨reported, hreported, hreports⟩ := supersessionCyclesFrom_reports
    (Nat.lt_succ_of_le hrecorded.size) (Dict.keys (artifacts.foldl (recordSupersession
      (artifactsByDigest artifacts)) ⟨[], [], []⟩).supersession) (closed_nil _)
  have herrors : supersessionErrors artifacts (artifacts.length + 1) =
      some ((artifacts.foldl (recordSupersession (artifactsByDigest artifacts)) ⟨[], [], []⟩).errors ++
        reported.map (cycleError (artifactsByDigest artifacts))) :=
    congrArg (Option.map fun cycles : List String =>
      (artifacts.foldl (recordSupersession (artifactsByDigest artifacts)) ⟨[], [], []⟩).errors ++
        cycles.map (cycleError (artifactsByDigest artifacts))) hreported
  have hlinks : (∀ artifact ∈ artifacts, Placed (artifactsByDigest artifacts) artifact) →
      artifacts.filterMap (linkOf (artifactsByDigest artifacts)) =
        artifacts.filterMap RegistrationArtifact.predecessor := fun h =>
    List.filterMap_congr fun artifact hartifact => (h artifact hartifact).link
  rw [herrors, hplaced, Option.some.injEq, List.append_eq_nil_iff, hrecorded.clean,
    List.map_eq_nil_iff]
  constructor
  · rintro ⟨⟨hall, hnodup⟩, -⟩
    exact ⟨hall, hlinks hall ▸ hnodup⟩
  · rintro ⟨hall, hnodup⟩
    refine ⟨⟨hall, (hlinks hall).symm ▸ hnodup⟩, List.eq_nil_iff_forall_not_mem.mpr fun digest hmem => ?_⟩
    obtain ⟨-, hcycle⟩ := hreports.found digest hmem
    obtain ⟨first, hfirst, hdigest, second, hsecond, hsame, earlier, version, hearlier, hversion,
      hlt⟩ := older_of_supersedes hrecorded hall hversions hcycle
    have heq := hversions first hfirst second hsecond (hdigest.trans hsame.symm)
    obtain rfl := Option.some.inj (hearlier.symm.trans (heq.symm.trans hversion))
    exact lt_irrefl _ hlt

/-- A registration and its revision. -/
def revisedRegistrations : List RegistrationArtifact :=
  [⟨"registrations/m15/v1.json", "registration", "sha256:1", some "m15", some 1, some none⟩,
    ⟨"registrations/m15/v2.json", "registration", "sha256:2", some "m15", some 2,
      some (some "sha256:1")⟩]

theorem revisedRegistrations_lineages :
    (∀ artifact ∈ revisedRegistrations, ∃ line,
        Lineage (artifactsByDigest revisedRegistrations) artifact line) ∧
      (revisedRegistrations.filterMap RegistrationArtifact.predecessor).Nodup := by
  have hpass : supersessionErrors revisedRegistrations 3 = some [] := by decide
  exact (lineages_exact revisedRegistrations (by decide)).mp hpass

end Recordings

end BattleBelief
