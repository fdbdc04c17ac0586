import BattleBelief.Protocol.Coverage

/-!
# Layers of Side Conditions

The layer caps are keyed by normalized condition ids, and the recorded conditions by whatever
text the wire gives: a display name, or the name of the move behind it. The count that the state
records for a condition follows the wire for as long as every line about a recorded condition
spells it as it was recorded, and repeats a start only where the cap is found under that
spelling. `layers_follow_iff` says that it follows the wire exactly in these runs.
-/

namespace BattleBelief

open Runs

/-! ## §1 Conditions and their counts -/

/-- The id of the condition that a text names, with or without the `move: ` in front. -/
def conditionId (text : String) : String :=
  toId (if Python.startsWith text "move: " then Python.dropChars text 6 else text)

/-- The cap of a condition: three layers of spikes, two of toxic spikes, one of all others. -/
def conditionCap (id : String) : Int :=
  if id = "spikes" then 3 else if id = "toxicspikes" then 2 else 1

/-- The cap that the reducer finds for a text. -/
def tableCap (text : String) : Int := (Python.Dict.get? layerCaps text).getD defaultLayerCap

theorem one_le_tableCap (text : String) : 1 ≤ tableCap text := by
  have hcap : ∀ cap ∈ (Python.Dict.get? layerCaps text), 1 ≤ cap := by
    intro cap hmem
    obtain ⟨item, hitem, rfl⟩ := Option.map_eq_some_iff.mp hmem
    have hmem := List.mem_of_find?_eq_some hitem
    simp only [layerCaps, List.mem_cons, List.not_mem_nil, or_false] at hmem
    rcases hmem with rfl | rfl <;> decide
  unfold tableCap
  cases hget : Python.Dict.get? layerCaps text with
  | none => decide
  | some cap => exact hcap cap hget

theorem one_le_conditionCap (id : String) : 1 ≤ conditionCap id := by
  unfold conditionCap
  split_ifs <;> decide

/-- A text is either its condition's key in the table, or its cap is the default one. -/
theorem tableCap_cases (text : String) :
    tableCap text = conditionCap (conditionId text) ∨ tableCap text = 1 := by
  by_cases hspikes : text = "spikes"
  · subst hspikes
    exact .inl (by decide)
  · by_cases htoxic : text = "toxicspikes"
    · subst htoxic
      exact .inl (by decide)
    · refine .inr ?_
      simp [tableCap, Python.Dict.get?, layerCaps, Ne.symm hspikes, Ne.symm htoxic,
        defaultLayerCap]

/-- The count after one more start: what the reducer records against what the wire gives. -/
theorem min_tableCap_iff (text : String) {starts : Nat} (hstarts : starts ≠ 0) :
    min (min (starts : Int) (conditionCap (conditionId text)) + 1) (tableCap text) =
        min ((starts + 1 : Nat) : Int) (conditionCap (conditionId text)) ↔
      tableCap text = conditionCap (conditionId text) := by
  have hcap := one_le_conditionCap (conditionId text)
  rcases tableCap_cases text with htable | htable
  · rw [htable]
    omega
  · rw [htable]
    omega

/-- The layer counts recorded for a condition, one for each spelling. -/
def counts (conditions : List (String × Int)) (id : String) : List Int :=
  (conditions.filter fun entry => conditionId entry.1 = id).map Prod.snd

/-- The count that the wire gives a condition after `starts` starts. -/
def wireCount (id : String) (starts : Nat) : List Int :=
  if starts = 0 then [] else [min (starts : Int) (conditionCap id)]

theorem counts_perm {conditions conditions' : List (String × Int)}
    (h : conditions.Perm conditions') (id : String) :
    (counts conditions id).Perm (counts conditions' id) :=
  (h.filter _).map _

theorem counts_cons (entry : String × Int) (conditions : List (String × Int)) (id : String) :
    counts (entry :: conditions) id =
      if conditionId entry.1 = id then entry.2 :: counts conditions id
      else counts conditions id := by
  unfold counts
  by_cases h : conditionId entry.1 = id
  · simp [h]
  · simp [h]

theorem counts_eq_nil {conditions : List (String × Int)} {id : String} :
    counts conditions id = [] ↔ ∀ entry ∈ conditions, conditionId entry.1 ≠ id := by
  simp [counts, List.filter_eq_nil_iff]

/-- The wire gives a condition at most one count, so that the order of counts does not matter. -/
theorem wireCount_perm {id : String} {starts : Nat} {values values' : List Int}
    (h : values.Perm values') : values = wireCount id starts ↔ values' = wireCount id starts := by
  unfold wireCount
  split_ifs
  · exact ⟨fun hv => List.perm_nil.mp (hv ▸ h.symm), fun hv => List.perm_nil.mp (hv ▸ h)⟩
  · exact ⟨fun hv => List.perm_singleton.mp (hv ▸ h.symm),
      fun hv => List.perm_singleton.mp (hv ▸ h)⟩

/-! ## §2 Lines about side conditions -/

variable [Python.UnicodeDatabase]

/-- A line that starts or ends a condition of the side at `i`. -/
structure SideLine (i : SideRef) where
  payload : String
  wireType : (splitPayload payload).1 ∈ ["-sidestart", "-sideend"]
  fields : 2 ≤ (splitPayload payload).2.length
  side : parseSideIdent (arg (splitPayload payload).2 0) = .ok i.id

namespace SideLine

variable {i : SideRef} (line : SideLine i)

/-- Whether the line starts a condition. -/
def starts : Bool := (splitPayload line.payload).1 = "-sidestart"

/-- The text that names the condition. -/
def text : String := arg (splitPayload line.payload).2 1

/-- The event that the line is parsed into. -/
def event (ei : Int) : BattleEvent :=
  .sideConditionChanged
    { eventIndex := ei, sideId := i.id, condition := line.text
      action := if line.starts then "start" else "end" }

theorem parseField_eq {wireType : String} {args : List String}
    (hwire : wireType ∈ ["-sidestart", "-sideend"]) (hfields : 2 ≤ args.length)
    (hside : parseSideIdent (arg args 0) = .ok i.id) (ei : Int) :
    parseField wireType args ei =
      .ok (.sideConditionChanged
        { eventIndex := ei, sideId := i.id, condition := arg args 1
          action := if wireType = "-sidestart" then "start" else "end" }) := by
  have hne : wireType ≠ "-weather" ∧ wireType ∉ ["-fieldstart", "-fieldend"] := by
    simp only [List.mem_cons, List.not_mem_nil, or_false] at hwire
    rcases hwire with rfl | rfl <;> decide
  unfold parseField
  rw [if_neg hne.1, if_neg hne.2, if_pos hwire, requireArgs, if_neg (not_lt.mpr hfields), hside]
  rfl

theorem parse_eq (ei : Int) (roomId : Option String) :
    parseBattleLine line.payload ei roomId = .ok (line.event ei) := by
  obtain ⟨payload, hwire, hfields, hside⟩ := line
  have hfield := parseField_eq hwire hfields hside ei
  have hdispatch : parseBattleFields payload (splitPayload payload).1 (splitPayload payload).2 ei
      roomId = parseField (splitPayload payload).1 (splitPayload payload).2 ei := by
    generalize (splitPayload payload).1 = wireType at hwire
    simp only [List.mem_cons, List.not_mem_nil, or_false] at hwire
    rcases hwire with rfl | rfl <;> rfl
  unfold parseBattleLine
  rw [hdispatch, hfield]
  simp [event, text, starts]

end SideLine

/-- The conditions after a line. -/
def SideLine.update {i : SideRef} (line : SideLine i) (conditions : List (String × Int)) :
    List (String × Int) :=
  updateSideCondition conditions line.text (if line.starts then "start" else "end")

/-- A line about a side condition is always accepted, and rewrites the side's conditions. -/
theorem feedLine_sideLine {i : SideRef} (line : SideLine i) (roomId : String) {s : ObservedState}
    (hsided : s.WellSided) :
    ∃ s', feedLine roomId s line.payload = .ok s' ∧ s'.WellSided ∧
      (s'.sideAt i).sideConditions = line.update (s.sideAt i).sideConditions := by
  have hlt : s.eventIndex < (line.event (s.eventIndex + 1)).eventIndex := by
    simp only [SideLine.event, BattleEvent.eventIndex]
    omega
  have hsided' : ObservedState.WellSided { s with eventIndex := s.eventIndex + 1 } := by
    intro j
    cases j
    · exact hsided .p1
    · exact hsided .p2
  have hside : ObservedState.sideAt { s with eventIndex := s.eventIndex + 1 } i = s.sideAt i := by
    cases i <;> rfl
  have hreduce : reduce s (line.event (s.eventIndex + 1)) =
      .ok (ObservedState.putSide { s with eventIndex := s.eventIndex + 1 }
        { s.sideAt i with sideConditions := line.update (s.sideAt i).sideConditions } i) := by
    rw [reduce, if_neg (not_le.mpr hlt)]
    simp only [SideLine.event, reduceEvent, BattleEvent.eventIndex]
    rw [side_id, hside]
    exact updateSide_of_id (hsided i)
  refine ⟨_, ?_, (reduce_step hsided hreduce).2.2.1, by rw [ObservedState.sideAt_putSide_self]⟩
  rw [feedLine, reduceLine, line.parse_eq]
  exact hreduce

/-! ## §3 Following the wire -/

/-- The starts of a condition since its last end. -/
def startsSinceEnd {i : SideRef} (id : String) : List (SideLine i) → Nat
  | [] => 0
  | line :: earlier =>
      if conditionId line.text = id then
        if line.starts then startsSinceEnd id earlier + 1 else 0
      else startsSinceEnd id earlier

/-- Every condition is recorded once, with the count the wire gives it, or not at all if that is
zero. `past` are the lines so far, the latest first. -/
def FollowsWire {i : SideRef} (conditions : List (String × Int)) (past : List (SideLine i)) :
    Prop :=
  ∀ id, counts conditions id = wireCount id (startsSinceEnd id past)

/-- If the condition of the line is recorded, it is recorded as the line spells it, and a further
start finds the condition's own cap under this spelling. -/
def SpelledAsRecorded {i : SideRef} (conditions : List (String × Int)) (line : SideLine i) :
    Prop :=
  ∀ entry ∈ conditions, conditionId entry.1 = conditionId line.text →
    entry.1 = line.text ∧ (line.starts → tableCap line.text = conditionCap (conditionId line.text))

/-! ## §4 One line -/

section Line

variable {i : SideRef} (line : SideLine i) {conditions : List (String × Int)}

/-- What a line does to the recorded conditions, up to their order: its text is not recorded and
is added or not, or it is recorded and gets a new count or goes. -/
theorem update_cases (hnodup : (Python.Dict.keys conditions).Nodup) :
    (line.text ∉ Python.Dict.keys conditions ∧
      (line.update conditions).Perm
        (if line.starts then (line.text, 1) :: conditions else conditions)) ∨
      ∃ old rest, conditions.Perm ((line.text, old) :: rest) ∧
        line.text ∉ Python.Dict.keys rest ∧
        (line.update conditions).Perm
          (if line.starts then (line.text, min (old + 1) (tableCap line.text)) :: rest
          else rest) := by
  have hdict := Python.Dict.ofPairs_of_nodup hnodup
  by_cases hmem : line.text ∈ Python.Dict.keys conditions
  · right
    obtain ⟨old, rest, hperm, hrest, hget, hpop, hassign⟩ := Python.Dict.split_at hnodup hmem
    refine ⟨old, rest, hperm, hrest, ?_⟩
    unfold SideLine.update updateSideCondition
    cases hstarts : line.starts with
    | true =>
      simp only [if_true, hdict, true_or, hget, Option.getD_some]
      exact (Python.Dict.perm_sortedItems _).trans (hassign _)
    | false =>
      simp only [Bool.false_eq_true, if_false, hdict, hpop]
      exact Python.Dict.perm_sortedItems _
  · left
    refine ⟨hmem, ?_⟩
    unfold SideLine.update updateSideCondition
    cases hstarts : line.starts with
    | true =>
      have hone : min ((0 : Int) + 1) (tableCap line.text) = 1 :=
        min_eq_left (one_le_tableCap line.text)
      simp only [if_true, hdict, true_or, Python.Dict.get?_of_notMem hmem, Option.getD_none]
      refine (Python.Dict.perm_sortedItems _).trans ?_
      rw [Python.Dict.assign_of_notMem _ hmem]
      change List.Perm (conditions ++ [(line.text, min (0 + 1) (tableCap line.text))]) _
      rw [hone]
      exact List.perm_append_singleton _ _
    | false =>
      simp only [Bool.false_eq_true, if_false, hdict, Python.Dict.pop_of_notMem hmem]
      exact Python.Dict.perm_sortedItems _

/-- Lines keep the recorded texts distinct. -/
theorem nodup_keys_update (hnodup : (Python.Dict.keys conditions).Nodup) :
    (Python.Dict.keys (line.update conditions)).Nodup := by
  rcases update_cases line hnodup with ⟨hmem, hperm⟩ | ⟨old, rest, hconditions, hrest, hperm⟩
  · refine (hperm.map Prod.fst).nodup_iff.mpr ?_
    split_ifs
    · exact List.nodup_cons.mpr ⟨hmem, hnodup⟩
    · exact hnodup
  · have hold := (hconditions.map Prod.fst).nodup_iff.mp hnodup
    refine (hperm.map Prod.fst).nodup_iff.mpr ?_
    split_ifs
    · exact List.nodup_cons.mpr ⟨hrest, (List.nodup_cons.mp hold).2⟩
    · exact (List.nodup_cons.mp hold).2

/-- A line leaves the counts of other conditions alone. -/
theorem counts_update_of_ne (hnodup : (Python.Dict.keys conditions).Nodup) {id : String}
    (hne : conditionId line.text ≠ id) :
    (counts (line.update conditions) id).Perm (counts conditions id) := by
  rcases update_cases line hnodup with ⟨hmem, hperm⟩ | ⟨old, rest, hconditions, hrest, hperm⟩
  · refine (counts_perm hperm id).trans ?_
    split_ifs
    · rw [counts_cons, if_neg hne]
    · exact .refl _
  · refine (counts_perm hperm id).trans ((?_ : List.Perm _ _).trans
      (counts_perm hconditions id).symm)
    rw [counts_cons (line.text, old), if_neg hne]
    split_ifs
    · rw [counts_cons, if_neg hne]
    · exact .refl _

/-- The condition of a line follows the wire across the line exactly when it is spelled as
recorded. -/
theorem counts_update_iff {past : List (SideLine i)}
    (hnodup : (Python.Dict.keys conditions).Nodup) (hfollows : FollowsWire conditions past) :
    counts (line.update conditions) (conditionId line.text) =
        wireCount (conditionId line.text) (startsSinceEnd (conditionId line.text) (line :: past)) ↔
      SpelledAsRecorded conditions line := by
  have hcounts := hfollows (conditionId line.text)
  rw [startsSinceEnd, if_pos rfl]
  generalize startsSinceEnd (conditionId line.text) past = starts at hcounts ⊢
  rcases update_cases line hnodup with ⟨hmem, hperm⟩ | ⟨old, rest, hconditions, hrest, hperm⟩
  · rw [wireCount_perm (counts_perm hperm _)]
    by_cases hnone : counts conditions (conditionId line.text) = []
    · -- the condition is not recorded at all
      have hzero : starts = 0 := by
        by_contra hne
        rw [hnone, wireCount, if_neg hne] at hcounts
        cases hcounts
      refine iff_of_true ?_ fun entry hentry heq =>
        absurd heq (counts_eq_nil.mp hnone entry hentry)
      subst hzero
      split_ifs
      · have hcap := one_le_conditionCap (conditionId line.text)
        rw [counts_cons, if_pos rfl, hnone, wireCount, if_neg (by omega)]
        simp [hcap]
      · rw [hnone]
        rfl
    · -- it is recorded under another spelling
      have hpos : starts ≠ 0 := by
        rintro rfl
        exact hnone hcounts
      refine iff_of_false ?_ fun hspelled => ?_
      · split_ifs
        · rw [counts_cons, if_pos rfl, hcounts, wireCount, wireCount, if_neg hpos,
            if_neg (by omega)]
          simp
        · exact hnone
      · obtain ⟨entry, hentry, heq⟩ : ∃ entry ∈ conditions,
            conditionId entry.1 = conditionId line.text := by
          by_contra hall
          exact hnone (counts_eq_nil.mpr fun entry hentry heq => hall ⟨entry, hentry, heq⟩)
        exact hmem ((hspelled entry hentry heq).1 ▸ List.mem_map_of_mem hentry)
  · -- it is recorded under the text of the line
    have hrecorded := counts_perm hconditions (conditionId line.text)
    rw [counts_cons, if_pos rfl] at hrecorded
    have hsplit := (wireCount_perm hrecorded).mp hcounts
    have hpos : starts ≠ 0 := by
      rintro rfl
      cases hsplit
    rw [wireCount, if_neg hpos, List.cons.injEq] at hsplit
    obtain ⟨hold, hnone⟩ : old = _ ∧ _ := hsplit
    rw [wireCount_perm (counts_perm hperm _)]
    have hspelled : SpelledAsRecorded conditions line ↔
        (line.starts → tableCap line.text = conditionCap (conditionId line.text)) := by
      constructor
      · intro h
        exact (h (line.text, old) (hconditions.mem_iff.mpr List.mem_cons_self) rfl).2
      · intro h entry hentry heq
        rcases List.mem_cons.mp (hconditions.mem_iff.mp hentry) with rfl | hmem
        · exact ⟨rfl, h⟩
        · exact absurd heq (counts_eq_nil.mp hnone entry hmem)
    rw [hspelled]
    cases hstarts : line.starts with
    | true =>
      rw [if_pos rfl, if_pos rfl, counts_cons, if_pos rfl, hnone, wireCount,
        if_neg (Nat.succ_ne_zero starts), List.cons.injEq]
      rw [hold, and_iff_left rfl, min_tableCap_iff line.text hpos]
      exact ⟨fun h _ => h, fun h => h rfl⟩
    | false =>
      rw [if_neg Bool.false_ne_true, if_neg Bool.false_ne_true, hnone]
      exact iff_of_true rfl nofun

/-- A line keeps the counts with the wire exactly when it spells its condition as recorded. -/
theorem followsWire_update {past : List (SideLine i)}
    (hnodup : (Python.Dict.keys conditions).Nodup) (hfollows : FollowsWire conditions past) :
    FollowsWire (line.update conditions) (line :: past) ↔ SpelledAsRecorded conditions line := by
  rw [← counts_update_iff line hnodup hfollows]
  refine ⟨fun h => h _, fun h id => ?_⟩
  by_cases hid : conditionId line.text = id
  · subst hid
    exact h
  · rw [startsSinceEnd, if_neg hid, wireCount_perm (counts_update_of_ne line hnodup hid)]
    exact hfollows id

end Line

/-! ## §5 Along a run -/

/-- One line of the run, with the lines so far. -/
def followLine {i : SideRef} (roomId : String) (run : ObservedState × List (SideLine i))
    (line : SideLine i) : Except PyException (ObservedState × List (SideLine i)) :=
  (feedLine roomId run.1 line.payload).map fun s => (s, line :: run.2)

/-- **Layers follow the wire.** Along a sequence of lines that start and end conditions of one
side, the recorded counts are those of the wire exactly when every line spells its condition as
recorded. -/
theorem layers_follow_iff (roomId ourUserId : String) (i : SideRef) (lines : List (SideLine i)) :
    HoldsAlong (followLine roomId)
        (fun run => FollowsWire (run.1.sideAt i).sideConditions run.2)
        (ObservedState.initial ourUserId, []) lines ↔
      StepsMeet (followLine roomId)
        (fun run line => SpelledAsRecorded (run.1.sideAt i).sideConditions line)
        (ObservedState.initial ourUserId, []) lines := by
  have hfed : ∀ (run run' : ObservedState × List (SideLine i)) (line : SideLine i),
      run.1.WellSided → followLine roomId run line = .ok run' →
      run'.1.WellSided ∧ run'.2 = line :: run.2 ∧
        (run'.1.sideAt i).sideConditions = line.update (run.1.sideAt i).sideConditions := by
    intro run run' line hsided h
    obtain ⟨s', hs', hsided', hconditions⟩ := feedLine_sideLine line roomId hsided
    rw [followLine, hs'] at h
    obtain rfl := Except.ok.inj h
    exact ⟨hsided', rfl, hconditions⟩
  refine holdsAlong_iff_stepsMeet
    (I := fun run : ObservedState × List (SideLine i) => run.1.WellSided ∧
      (Python.Dict.keys (run.1.sideAt i).sideConditions).Nodup) ?_ ?_ ?_ ?_ lines
  · rintro run line run' ⟨hsided, hnodup⟩ h
    obtain ⟨hsided', -, hconditions⟩ := hfed run run' line hsided h
    exact ⟨hsided', hconditions ▸ nodup_keys_update line hnodup⟩
  · rintro run line run' ⟨hsided, hnodup⟩ hfollows h
    obtain ⟨-, hpast, hconditions⟩ := hfed run run' line hsided h
    rw [hpast, hconditions]
    exact followsWire_update line hnodup hfollows
  · exact ⟨ObservedState.wellSided_initial ourUserId, by cases i <;> exact .nil⟩
  · intro id
    cases i <;> rfl

omit [Python.UnicodeDatabase] in
/-- A layer of spikes, under the name the wire gives them. -/
def spikesLine : @SideLine Python.asciiDatabase .p1 :=
  @SideLine.mk Python.asciiDatabase .p1 "|-sidestart|p1: Ash|Spikes" (by decide) (by decide)
    (by decide)

omit [Python.UnicodeDatabase] in
/-- Two layers of spikes are recorded as one. -/
theorem layers_not_followed :
    letI := Python.asciiDatabase
    (∃ run, RunsTo (followLine "battle-1") (ObservedState.initial "ash", [])
        [spikesLine, spikesLine] run ∧
      run.1.p1.sideConditions = [("Spikes", 1)] ∧ startsSinceEnd "spikes" run.2 = 2) ∧
      ¬HoldsAlong (followLine "battle-1")
        (fun run => FollowsWire (run.1.sideAt .p1).sideConditions run.2)
        (ObservedState.initial "ash", []) [spikesLine, spikesLine] := by
  have hresult : ([spikesLine, spikesLine].foldlM (@followLine Python.asciiDatabase .p1 "battle-1")
      (ObservedState.initial "ash", [])).map
        (fun run => (run.1.p1.sideConditions,
          @startsSinceEnd Python.asciiDatabase .p1 "spikes" run.2)) =
      .ok ([("Spikes", 1)], 2) := by
    decide +kernel
  obtain ⟨run, hrun, hvalues⟩ := map_eq_ok.mp hresult
  obtain ⟨hconditions, hstarts⟩ := Prod.mk.inj hvalues
  refine ⟨⟨run, hrun, hconditions, hstarts⟩, fun h => ?_⟩
  have hfollows := holdsAlong_iff_forall_prefix.mp h [spikesLine, spikesLine] [] run
    (List.append_nil _).symm hrun "spikes"
  rw [ObservedState.sideAt_p1, hconditions, hstarts] at hfollows
  exact absurd hfollows (by decide)

end BattleBelief
