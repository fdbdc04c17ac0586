import BattleBelief.Observation.EventFrame

/-!
# The Algebra of Boosts

What the events that move boosts around do when they happen twice.

## Main results

- `swapStats_swapStats`, `copyStats_copyStats`: the same for the loops over the listed stats
- `reduceBoostsSwapped_twice` and the lemmas after it: the branches of the reducer
- `boost_algebra`: the laws, in every state that a run reaches
-/

namespace BattleBelief

open Runs

/-! ## §1 The loops over stats -/

section Loops

variable {stats : List String} {src tgt src' tgt' values : List Int} {idx k : Nat}

theorem boostAt_set (boosts : List Int) (value : Int) (hidx : idx < boosts.length) :
    boostAt (boosts.set idx value) k = if idx = k then value else boostAt boosts k := by
  simp only [boostAt, List.getD_eq_getElem?_getD, List.getElem?_set]
  split
  · rename_i heq
    simp
  · rfl

/-- Writing back the boost that stands there changes nothing. -/
theorem set_boostAt (boosts : List Int) (idx : Nat) :
    boosts.set idx (boostAt boosts idx) = boosts := by
  by_cases hidx : idx < boosts.length
  · rw [boostAt, List.getD_eq_getElem?_getD, List.getElem?_eq_getElem hidx]
    exact List.set_getElem_self hidx
  · exact List.set_eq_of_length_le (Nat.le_of_not_lt hidx)

/-- One stat of two boost lists exchanged. -/
def swapAt (idx : Nat) (boosts : List Int × List Int) : List Int × List Int :=
  (boosts.1.set idx (boostAt boosts.2 idx), boosts.2.set idx (boostAt boosts.1 idx))

theorem swapStats_cons (stat : String) (boosts : List Int × List Int)
    (hidx : statIndex stat = .ok idx) :
    swapStats (stat :: stats) boosts.1 boosts.2 =
      swapStats stats (swapAt idx boosts).1 (swapAt idx boosts).2 := by
  rw [swapStats, hidx]
  rfl

theorem swapAt_swapAt {boosts : List Int × List Int} (hsrc : idx < boosts.1.length)
    (htgt : idx < boosts.2.length) : swapAt idx (swapAt idx boosts) = boosts := by
  simp only [swapAt, boostAt_set _ _ hsrc, boostAt_set _ _ htgt, if_true, List.set_set, set_boostAt]

theorem swapAt_comm {boosts : List Int × List Int} (hsrc : idx < boosts.1.length)
    (htgt : idx < boosts.2.length) (hsrc' : k < boosts.1.length) (htgt' : k < boosts.2.length) :
    swapAt idx (swapAt k boosts) = swapAt k (swapAt idx boosts) := by
  by_cases heq : idx = k
  · rw [heq]
  · simp only [swapAt, boostAt_set _ _ hsrc, boostAt_set _ _ htgt, boostAt_set _ _ hsrc',
      boostAt_set _ _ htgt', if_neg heq, if_neg (Ne.symm heq)]
    rw [List.set_comm _ _ heq, List.set_comm _ _ heq]

/-- Exchanging a stat before or after the listed ones is the same. -/
theorem swapStats_swapAt {boosts : List Int × List Int} (hsrc : boosts.1.length = 7)
    (htgt : boosts.2.length = 7) (hidx : idx < 7) :
    swapStats stats (swapAt idx boosts).1 (swapAt idx boosts).2 =
      (swapStats stats boosts.1 boosts.2).map (swapAt idx) := by
  induction stats generalizing boosts with
  | nil => rfl
  | cons stat stats ih =>
    cases hstat : statIndex stat with
    | error err =>
      simp only [swapStats, hstat]
      rfl
    | ok k =>
      have hk : k < 7 := statIndex_lt hstat
      have hcomm : swapAt k (swapAt idx boosts) = swapAt idx (swapAt k boosts) :=
        swapAt_comm (by omega) (by omega) (by omega) (by omega)
      rw [swapStats_cons _ _ hstat, swapStats_cons _ _ hstat, hcomm]
      exact ih (by simp [swapAt, hsrc]) (by simp [swapAt, htgt])

theorem swapStats_length (h : swapStats stats src tgt = .ok (src', tgt')) :
    src'.length = src.length ∧ tgt'.length = tgt.length := by
  induction stats generalizing src tgt with
  | nil =>
    cases h
    exact ⟨rfl, rfl⟩
  | cons stat stats ih =>
    obtain ⟨idx, -, h⟩ := bind_eq_ok.mp h
    obtain ⟨hsrc, htgt⟩ := ih h
    exact ⟨hsrc.trans List.length_set, htgt.trans List.length_set⟩

/-- Exchanging the listed stats twice changes nothing, whichever they are. -/
theorem swapStats_swapStats (hsrc : src.length = 7) (htgt : tgt.length = 7)
    (h : swapStats stats src tgt = .ok (src', tgt')) : swapStats stats src' tgt' = .ok (src, tgt) := by
  induction stats generalizing src tgt with
  | nil =>
    cases h
    rfl
  | cons stat stats ih =>
    cases hstat : statIndex stat with
    | error err =>
      rw [swapStats, hstat] at h
      cases h
    | ok idx =>
      have hidx : idx < 7 := statIndex_lt hstat
      have hbound : idx < src.length ∧ idx < tgt.length := by omega
      have hswapped := (swapStats_cons stat (src, tgt) hstat).symm.trans h
      -- the later stats exchanged back, what is left is the first one, exchanged
      have hback := ih (by simp [swapAt, hsrc]) (by simp [swapAt, htgt]) hswapped
      obtain ⟨hsrc', htgt'⟩ := swapStats_length h
      rw [swapStats_cons stat (src', tgt') hstat,
        swapStats_swapAt (hsrc'.trans hsrc) (htgt'.trans htgt) hidx, hback]
      exact congrArg Except.ok (swapAt_swapAt hbound.1 hbound.2)

/-- A pokemon that exchanges boosts with itself keeps them. -/
theorem swapStats_self (h : swapStats stats src src = .ok (src', tgt')) : src' = src ∧ tgt' = src := by
  induction stats with
  | nil =>
    cases h
    exact ⟨rfl, rfl⟩
  | cons stat stats ih =>
    obtain ⟨idx, -, h⟩ := bind_eq_ok.mp h
    rw [set_boostAt] at h
    exact ih h

/-- An exchange keeps the sum of each stat. -/
theorem swapStats_sum (hsrc : src.length = 7) (htgt : tgt.length = 7)
    (h : swapStats stats src tgt = .ok (src', tgt')) (k : Nat) :
    boostAt src' k + boostAt tgt' k = boostAt src k + boostAt tgt k := by
  induction stats generalizing src tgt with
  | nil =>
    cases h
    rfl
  | cons stat stats ih =>
    obtain ⟨idx, hidx, h⟩ := bind_eq_ok.mp h
    have hlt : idx < 7 := statIndex_lt hidx
    rw [ih (List.length_set.trans hsrc) (List.length_set.trans htgt) h,
      boostAt_set _ _ (by omega), boostAt_set _ _ (by omega)]
    split
    · rename_i heq
      rw [heq, Int.add_comm]
    · rfl

/-- What has been copied stays as it is under further copies from the same boosts. -/
theorem set_copyStats (hset : tgt.set k (boostAt src k) = tgt)
    (h : copyStats src stats tgt = .ok values) : values.set k (boostAt src k) = values := by
  induction stats generalizing tgt with
  | nil =>
    cases h
    exact hset
  | cons stat stats ih =>
    obtain ⟨idx, -, h⟩ := bind_eq_ok.mp h
    refine ih ?_ h
    by_cases heq : idx = k
    · rw [heq, List.set_set]
    · rw [List.set_comm _ _ heq, hset]

/-- Copying twice is copying once. -/
theorem copyStats_copyStats (h : copyStats src stats tgt = .ok values) :
    copyStats src stats values = .ok values := by
  induction stats generalizing tgt with
  | nil => rfl
  | cons stat stats ih =>
    obtain ⟨idx, hidx, h⟩ := bind_eq_ok.mp h
    have hcopied : values.set idx (boostAt src idx) = values :=
      set_copyStats (List.set_set ..) h
    rw [copyStats, hidx]
    show copyStats src stats (values.set idx (boostAt src idx)) = .ok values
    rw [hcopied]
    exact ih h

/-- A pokemon that copies its own boosts keeps them. -/
theorem copyStats_self (h : copyStats src stats src = .ok values) : values = src := by
  induction stats with
  | nil =>
    cases h
    rfl
  | cons stat stats ih =>
    obtain ⟨idx, -, h⟩ := bind_eq_ok.mp h
    rw [set_boostAt] at h
    exact ih h

end Loops

/-! ## §2 Active pokemon with other boosts -/

/-- The active pokemon is the first one of the roster that is active. -/
theorem findActive_eq_some_iff {side : SideView} {entry : RosterEntry} :
    findActive side = some entry ↔
      side.pokemon[entry.position]? = some entry.view ∧ entry.view.active = true ∧
        ∀ n < entry.position, ∀ pv, side.pokemon[n]? = some pv → pv.active = false := by
  have hentry {n : Nat} (hn : n < (entries side.pokemon).length) :
      (entries side.pokemon)[n].position = n ∧
        side.pokemon[n]? = some (entries side.pokemon)[n].view := by
    have hn' : n < side.pokemon.length := by simpa [entries] using hn
    simp [entries, hn']
  have hlength : (entries side.pokemon).length = side.pokemon.length := by simp [entries]
  rw [findActive, List.find?_eq_some_iff_getElem]
  constructor
  · rintro ⟨hactive, n, hn, rfl, hbefore⟩
    obtain ⟨hposition, hview⟩ := hentry hn
    refine ⟨by rw [hposition, hview], hactive, fun k hk pv hpv => ?_⟩
    rw [hposition] at hk
    obtain ⟨-, hviewBefore⟩ := hentry (hk.trans hn)
    have hinactive := hbefore k hk
    rw [hpv] at hviewBefore
    rw [Option.some.inj hviewBefore]
    simpa using hinactive
  · rintro ⟨hget, hactive, hbefore⟩
    obtain ⟨hlt, -⟩ := List.getElem?_eq_some_iff.mp hget
    have hn : entry.position < (entries side.pokemon).length := by rwa [hlength]
    obtain ⟨hposition, hview⟩ := hentry hn
    have hsame : (entries side.pokemon)[entry.position] = entry := by
      have hviews := Option.some.inj (hview.symm.trans hget)
      calc (entries side.pokemon)[entry.position]
          = ⟨(entries side.pokemon)[entry.position].position,
              (entries side.pokemon)[entry.position].view⟩ := rfl
        _ = entry := by rw [hposition, hviews]
    refine ⟨hactive, entry.position, hn, hsame, fun k hk => ?_⟩
    obtain ⟨-, hviewBefore⟩ := hentry (hk.trans hn)
    simpa using hbefore k hk _ hviewBefore

/-- A roster entry with other boosts. -/
def RosterEntry.withBoosts (entry : RosterEntry) (values : List Int) : RosterEntry :=
  ⟨entry.position, { entry.view with boosts := values }⟩

/-- The state with other boosts of a pokemon of the side at `i`. -/
def ObservedState.withBoosts (s : ObservedState) (i : SideRef) (entry : RosterEntry)
    (values : List Int) : ObservedState :=
  s.putSide (replacePokemon (s.sideAt i) entry { entry.view with boosts := values }) i

section States

variable {s s' t : ObservedState} {i j : SideRef} {entry other : RosterEntry} {values later : List Int}

theorem ObservedState.WellSided.withBoosts (h : s.WellSided) (i : SideRef) (entry : RosterEntry)
    (values : List Int) : (s.withBoosts i entry values).WellSided :=
  h.putSide (h i)

/-- The active pokemon stays active. -/
theorem findActive_withBoosts_self (h : findActive (s.sideAt i) = some entry) (values : List Int) :
    findActive ((s.withBoosts i entry values).sideAt i) = some (entry.withBoosts values) := by
  obtain ⟨hget, hactive, hbefore⟩ := findActive_eq_some_iff.mp h
  obtain ⟨hlt, -⟩ := List.getElem?_eq_some_iff.mp hget
  rw [ObservedState.withBoosts, ObservedState.sideAt_putSide_self, findActive_eq_some_iff]
  refine ⟨?_, hactive, fun n hn pv hpv => ?_⟩
  · show ((s.sideAt i).pokemon.set entry.position _)[entry.position]? = _
    rw [List.getElem?_set_self hlt]
    rfl
  · apply hbefore n hn pv
    have hne : entry.position ≠ n := Nat.ne_of_gt hn
    have hset : ((s.sideAt i).pokemon.set entry.position _)[n]? = some pv := hpv
    rwa [List.getElem?_set_ne hne] at hset

theorem findActive_withBoosts_of_ne (hij : j ≠ i) (entry : RosterEntry) (values : List Int) :
    findActive ((s.withBoosts i entry values).sideAt j) = findActive (s.sideAt j) := by
  rw [ObservedState.withBoosts, ObservedState.sideAt_putSide_of_ne _ _ hij]

/-- The boosts written last stay. -/
theorem withBoosts_withBoosts (s : ObservedState) (i : SideRef) (entry : RosterEntry)
    (values later : List Int) :
    (s.withBoosts i entry values).withBoosts i (entry.withBoosts values) later =
      s.withBoosts i entry later := by
  cases i <;>
    simp only [ObservedState.withBoosts, ObservedState.putSide, ObservedState.sideAt, replacePokemon,
      RosterEntry.withBoosts, List.set_set]

theorem withBoosts_self (h : findActive (s.sideAt i) = some entry) :
    s.withBoosts i entry entry.view.boosts = s :=
  putSide_replace_self h

theorem withBoosts_comm (hij : i ≠ j) (entry other : RosterEntry) (values later : List Int) :
    (s.withBoosts i entry values).withBoosts j other later =
      (s.withBoosts j other later).withBoosts i entry values := by
  cases i <;> cases j <;> first | rfl | exact absurd rfl hij

theorem withBoosts_stamp (s : ObservedState) (i : SideRef) (entry : RosterEntry) (values : List Int)
    (ei : Int) : { s.withBoosts i entry values with eventIndex := ei } =
      ObservedState.withBoosts { s with eventIndex := ei } i entry values := by
  cases i <;> rfl

theorem updateSide_withBoosts (hsided : s.WellSided) (i : SideRef) (entry : RosterEntry)
    (values : List Int) :
    updateSide s (replacePokemon (s.sideAt i) entry { entry.view with boosts := values }) =
      .ok (s.withBoosts i entry values) :=
  updateSide_replacePokemon hsided i entry _

/-- An active pokemon answers to its nickname. -/
theorem requireActive_of_find (h : findActive (s.sideAt i) = some entry) (context : String) :
    requireActive (s.sideAt i) entry.view.nickname context = .ok entry := by
  rw [requireActive, h]
  exact if_pos rfl

/-! ## §3 The branches of the reducer -/

/-- Two pokemon of different sides exchange boosts; one pokemon with itself keeps them. -/
theorem reduceBoostsSwapped_eq_ok_iff {event : BoostsSwapped} (hsided : s.WellSided) :
    reduceBoostsSwapped s event = .ok s' ↔
      ∃ i j src tgt values later, event.sideId = SideRef.id i ∧ event.targetSideId = SideRef.id j ∧
        findActive (s.sideAt i) = some src ∧ findActive (s.sideAt j) = some tgt ∧
        src.view.nickname = event.nickname ∧ tgt.view.nickname = event.targetNickname ∧
        swapStats event.stats src.view.boosts tgt.view.boosts = .ok (values, later) ∧
        s' = if i = j then s else (s.withBoosts i src values).withBoosts j tgt later := by
  constructor
  · intro h
    simp only [reduceBoostsSwapped, bind_eq_ok] at h
    obtain ⟨srcSide, hsrcSide, tgtSide, htgtSide, src, hsrc, tgt, htgt, ⟨values, later⟩, hswap,
      hbody⟩ := h
    obtain ⟨i, hi, rfl⟩ := side_eq_ok hsrcSide
    obtain ⟨j, hj, rfl⟩ := side_eq_ok htgtSide
    obtain ⟨hfindSrc, hnameSrc⟩ := requireActive_eq_ok hsrc
    obtain ⟨hfindTgt, hnameTgt⟩ := requireActive_eq_ok htgt
    refine ⟨i, j, src, tgt, values, later, hi, hj, hfindSrc, hfindTgt, hnameSrc, hnameTgt, hswap, ?_⟩
    split at hbody
    · rename_i hsame
      obtain rfl : i = j := SideRef.id_injective (by rw [← hi, ← hj, hsame])
      rw [hfindSrc] at hfindTgt
      cases hfindTgt
      obtain ⟨rfl, -⟩ := swapStats_self hswap
      rw [swapOnOneSide, updateSide_withBoosts hsided, withBoosts_self hfindSrc] at hbody
      cases hbody
      rw [if_pos rfl]
    · rename_i hdiffer
      have hij : i ≠ j := fun heq => hdiffer (by rw [hi, hj, heq])
      simp only [updateSide_withBoosts hsided, Except.ok.injEq, bind_eq_ok, hj, side_id] at hbody
      obtain ⟨middle, rfl, side, rfl, hput⟩ := hbody
      have hside : (s.withBoosts i src values).sideAt j = s.sideAt j :=
        ObservedState.sideAt_putSide_of_ne _ _ hij.symm
      rw [updateSide_withBoosts (hsided.withBoosts i src values)] at hput
      cases hput
      rw [if_neg hij]
  · rintro ⟨i, j, src, tgt, values, later, hi, hj, hsrc, htgt, hnameSrc, hnameTgt, hswap, rfl⟩
    simp only [reduceBoostsSwapped, hi, hj, side_id, ← hnameSrc, ← hnameTgt, bind_eq_ok,
      Except.ok.injEq, exists_eq_left']
    refine ⟨src, requireActive_of_find hsrc _, tgt, requireActive_of_find htgt _, (values, later),
      hswap, ?_⟩
    by_cases hij : i = j
    · subst hij
      rw [hsrc] at htgt
      cases htgt
      obtain ⟨rfl, -⟩ := swapStats_self hswap
      rw [if_pos rfl, if_pos rfl, swapOnOneSide, updateSide_withBoosts hsided,
        withBoosts_self hsrc]
    · rw [if_neg (fun heq => hij (SideRef.id_injective heq)), if_neg hij]
      refine bind_eq_ok.mpr ⟨_, updateSide_withBoosts hsided i src values, ?_⟩
      exact updateSide_withBoosts (hsided.withBoosts i src values) j tgt later

/-- The active pokemon has its boosts turned around. -/
theorem reduceBoostsInverted_eq_ok_iff {event : BoostsInverted} (hsided : s.WellSided) :
    reduceEvent s (.boostsInverted event) = .ok s' ↔
      ∃ i entry, event.sideId = SideRef.id i ∧ findActive (s.sideAt i) = some entry ∧
        entry.view.nickname = event.nickname ∧
        s' = s.withBoosts i entry (entry.view.boosts.map fun b => -b) := by
  simp only [reduceEvent]
  constructor
  · intro h
    obtain ⟨i, entry, updated, hi, hfind, hname, hupdate, rfl⟩ := updateActive_eq_ok hsided h
    cases hupdate
    exact ⟨i, entry, hi, hfind, hname, rfl⟩
  · rintro ⟨i, entry, hi, hfind, hname, rfl⟩
    simp only [updateActive, hi, side_id, ← hname, bind_eq_ok, Except.ok.injEq, exists_eq_left']
    exact ⟨entry, requireActive_of_find hfind _, updateSide_withBoosts hsided i entry _⟩

/-- The active pokemon of a side has boosts of the other's, or of its own, copied over its own. -/
theorem reduceBoostsCopied_eq_ok_iff {event : BoostsCopied} (hsided : s.WellSided) :
    reduceBoostsCopied s event = .ok s' ↔
      ∃ j i src tgt values, event.sourceSideId = SideRef.id j ∧ event.sideId = SideRef.id i ∧
        findActive (s.sideAt j) = some src ∧ findActive (s.sideAt i) = some tgt ∧
        src.view.nickname = event.sourceNickname ∧ tgt.view.nickname = event.nickname ∧
        copyStats src.view.boosts event.stats tgt.view.boosts = .ok values ∧
        s' = s.withBoosts i tgt values := by
  constructor
  · intro h
    simp only [reduceBoostsCopied, bind_eq_ok] at h
    obtain ⟨srcSide, hsrcSide, tgtSide, htgtSide, src, hsrc, tgt, htgt, values, hcopy, hput⟩ := h
    obtain ⟨j, hj, rfl⟩ := side_eq_ok hsrcSide
    obtain ⟨i, hi, rfl⟩ := side_eq_ok htgtSide
    obtain ⟨hfindSrc, hnameSrc⟩ := requireActive_eq_ok hsrc
    obtain ⟨hfindTgt, hnameTgt⟩ := requireActive_eq_ok htgt
    rw [updateSide_withBoosts hsided] at hput
    cases hput
    exact ⟨j, i, src, tgt, values, hj, hi, hfindSrc, hfindTgt, hnameSrc, hnameTgt, hcopy, rfl⟩
  · rintro ⟨j, i, src, tgt, values, hj, hi, hsrc, htgt, hnameSrc, hnameTgt, hcopy, rfl⟩
    simp only [reduceBoostsCopied, hi, hj, side_id, ← hnameSrc, ← hnameTgt, bind_eq_ok,
      Except.ok.injEq, exists_eq_left']
    exact ⟨src, requireActive_of_find hsrc _, tgt, requireActive_of_find htgt _, values, hcopy,
      updateSide_withBoosts hsided i tgt values⟩

/-! ## §4 The branches twice -/

theorem length_boosts (hs : SoundState s) (h : findActive (s.sideAt i) = some entry) :
    entry.view.boosts.length = 7 :=
  (hs.boosts i entry.view (List.mem_of_getElem? (findActive_eq_some h).1)).1

theorem reduceBoostsSwapped_twice {event : BoostsSwapped} (hs : SoundState s)
    (h : reduceBoostsSwapped s event = .ok s') (ei : Int) :
    reduceBoostsSwapped { s' with eventIndex := ei } { event with eventIndex := ei } =
      .ok { s with eventIndex := ei } := by
  obtain ⟨i, j, src, tgt, values, later, hi, hj, hsrc, htgt, hnameSrc, hnameTgt, hswap, rfl⟩ :=
    (reduceBoostsSwapped_eq_ok_iff hs.sided).mp h
  have hsided := wellSided_stamp hs.sided ei
  have hback := swapStats_swapStats (length_boosts hs hsrc) (length_boosts hs htgt) hswap
  have hsrc' : findActive (ObservedState.sideAt { s with eventIndex := ei } i) = some src := by
    rwa [sideAt_stamp]
  have htgt' : findActive (ObservedState.sideAt { s with eventIndex := ei } j) = some tgt := by
    rwa [sideAt_stamp]
  by_cases hij : i = j
  · rw [if_pos hij, reduceBoostsSwapped_eq_ok_iff hsided]
    exact ⟨i, j, src, tgt, values, later, hi, hj, hsrc', htgt', hnameSrc, hnameTgt, hswap,
      (if_pos hij).symm⟩
  · rw [if_neg hij, withBoosts_stamp, withBoosts_stamp,
      reduceBoostsSwapped_eq_ok_iff ((hsided.withBoosts _ _ _).withBoosts _ _ _)]
    refine ⟨i, j, src.withBoosts values, tgt.withBoosts later, src.view.boosts, tgt.view.boosts, hi,
      hj, ?_, ?_, hnameSrc, hnameTgt, hback, ?_⟩
    · rw [findActive_withBoosts_of_ne hij]
      exact findActive_withBoosts_self hsrc' values
    · apply findActive_withBoosts_self
      rw [findActive_withBoosts_of_ne (Ne.symm hij)]
      exact htgt'
    · -- both writes are undone, the later one first
      rw [if_neg hij, withBoosts_comm hij, withBoosts_withBoosts, withBoosts_comm (Ne.symm hij),
        withBoosts_withBoosts, withBoosts_self hsrc', withBoosts_self htgt']

theorem reduceBoostsInverted_twice {event : BoostsInverted} (hs : SoundState s)
    (h : reduceEvent s (.boostsInverted event) = .ok s') (ei : Int) :
    reduceEvent { s' with eventIndex := ei } (.boostsInverted { event with eventIndex := ei }) =
      .ok { s with eventIndex := ei } := by
  obtain ⟨i, entry, hi, hfind, hname, rfl⟩ := (reduceBoostsInverted_eq_ok_iff hs.sided).mp h
  have hsided := wellSided_stamp hs.sided ei
  have hfind' : findActive (ObservedState.sideAt { s with eventIndex := ei } i) = some entry := by
    rwa [sideAt_stamp]
  rw [withBoosts_stamp, reduceBoostsInverted_eq_ok_iff (hsided.withBoosts _ _ _)]
  refine ⟨i, _, hi, findActive_withBoosts_self hfind' _, hname, ?_⟩
  have hback : (entry.view.boosts.map fun b => -b).map (fun b => -b) = entry.view.boosts := by
    simp [Function.comp_def]
  rw [withBoosts_withBoosts, RosterEntry.withBoosts, hback, withBoosts_self hfind']

theorem reduceBoostsCopied_twice {event : BoostsCopied} (hs : SoundState s)
    (h : reduceBoostsCopied s event = .ok s') (ei : Int) :
    reduceBoostsCopied { s' with eventIndex := ei } { event with eventIndex := ei } =
      .ok { s' with eventIndex := ei } := by
  obtain ⟨j, i, src, tgt, values, hj, hi, hsrc, htgt, hnameSrc, hnameTgt, hcopy, rfl⟩ :=
    (reduceBoostsCopied_eq_ok_iff hs.sided).mp h
  have hsided := wellSided_stamp hs.sided ei
  have hsrc' : findActive (ObservedState.sideAt { s with eventIndex := ei } j) = some src := by
    rwa [sideAt_stamp]
  have htgt' : findActive (ObservedState.sideAt { s with eventIndex := ei } i) = some tgt := by
    rwa [sideAt_stamp]
  have hfind := findActive_withBoosts_self htgt' values
  rw [withBoosts_stamp, reduceBoostsCopied_eq_ok_iff (hsided.withBoosts _ _ _)]
  by_cases hij : i = j
  · -- a pokemon that copies its own boosts has kept them
    subst hij
    rw [hsrc] at htgt
    cases htgt
    obtain rfl := copyStats_self hcopy
    exact ⟨i, i, _, _, src.view.boosts, hj, hi, hfind, hfind, hnameSrc, hnameTgt, hcopy,
      (withBoosts_withBoosts ..).symm⟩
  · refine ⟨j, i, src, _, values, hj, hi, ?_, hfind, hnameSrc, hnameTgt, copyStats_copyStats hcopy,
      (withBoosts_withBoosts ..).symm⟩
    rw [findActive_withBoosts_of_ne (Ne.symm hij)]
    exact hsrc'

/-- A boost of the active pokemon of the side at `i`. -/
def ObservedState.activeBoost (s : ObservedState) (i : SideRef) (idx : Nat) : Int :=
  match findActive (s.sideAt i) with
  | none => 0
  | some entry => boostAt entry.view.boosts idx

theorem activeBoost_of_find (h : findActive (s.sideAt i) = some entry) (idx : Nat) :
    s.activeBoost i idx = boostAt entry.view.boosts idx := by
  rw [ObservedState.activeBoost, h]

/-- The boosts of the two pokemon of a swap have the sums that they had. -/
theorem reduceBoostsSwapped_sum {event : BoostsSwapped} (hs : SoundState s)
    (h : reduceBoostsSwapped s event = .ok s') :
    ∃ i j, event.sideId = SideRef.id i ∧ event.targetSideId = SideRef.id j ∧ ∀ idx,
      s'.activeBoost i idx + s'.activeBoost j idx = s.activeBoost i idx + s.activeBoost j idx := by
  obtain ⟨i, j, src, tgt, values, later, hi, hj, hsrc, htgt, -, -, hswap, rfl⟩ :=
    (reduceBoostsSwapped_eq_ok_iff hs.sided).mp h
  refine ⟨i, j, hi, hj, fun idx => ?_⟩
  by_cases hij : i = j
  · rw [if_pos hij]
  · have hsrc' : findActive (((s.withBoosts i src values).withBoosts j tgt later).sideAt i) =
        some (src.withBoosts values) := by
      rw [findActive_withBoosts_of_ne hij]
      exact findActive_withBoosts_self hsrc values
    have htgt' : findActive (((s.withBoosts i src values).withBoosts j tgt later).sideAt j) =
        some (tgt.withBoosts later) := by
      apply findActive_withBoosts_self
      rw [findActive_withBoosts_of_ne (Ne.symm hij)]
      exact htgt
    rw [if_neg hij, activeBoost_of_find hsrc', activeBoost_of_find htgt', activeBoost_of_find hsrc,
      activeBoost_of_find htgt]
    exact swapStats_sum (length_boosts hs hsrc) (length_boosts hs htgt) hswap idx

end States

/-! ## §5 The laws -/

/-- What an event does is undone, or done again, by the same event at a later index. -/
theorem reduce_twice {s s' t : ObservedState} {event again : BattleEvent} (hsided : s.WellSided)
    (h : reduce s event = .ok s') (hlater : event.eventIndex < again.eventIndex)
    (hagain : reduceEvent { s' with eventIndex := again.eventIndex } again = .ok t) :
    reduce s' again = .ok t := by
  obtain ⟨-, hindex, -⟩ := reduce_step hsided h
  exact reduce_eq_ok.mpr ⟨by rwa [hindex], hagain⟩

/-- In every state that a run reaches: boosts swapped twice are as before, whatever the stats and
whether or not the two pokemon are one, and a swap keeps the sums of the two; boosts inverted twice
and side conditions swapped twice are as before; boosts copied twice are boosts copied once. In
all of these the rest of the state is as before, up to the event index. -/
theorem boost_algebra (ourUserId : String) (events : List BattleEvent) (s : ObservedState)
    (hrun : RunsTo reduce (ObservedState.initial ourUserId) events s) :
    (∀ (event : BoostsSwapped) (s' : ObservedState) (later : Int),
      reduce s (.boostsSwapped event) = .ok s' → event.eventIndex < later →
        reduce s' (.boostsSwapped { event with eventIndex := later }) =
          .ok { s with eventIndex := later }) ∧
    (∀ (event : BoostsSwapped) (s' : ObservedState), reduce s (.boostsSwapped event) = .ok s' →
      ∃ i j, event.sideId = SideRef.id i ∧ event.targetSideId = SideRef.id j ∧ ∀ idx,
        s'.activeBoost i idx + s'.activeBoost j idx = s.activeBoost i idx + s.activeBoost j idx) ∧
    (∀ (event : BoostsInverted) (s' : ObservedState) (later : Int),
      reduce s (.boostsInverted event) = .ok s' → event.eventIndex < later →
        reduce s' (.boostsInverted { event with eventIndex := later }) =
          .ok { s with eventIndex := later }) ∧
    (∀ (event : SideConditionsSwapped) (s' : ObservedState) (later : Int),
      reduce s (.sideConditionsSwapped event) = .ok s' → event.eventIndex < later →
        reduce s' (.sideConditionsSwapped { event with eventIndex := later }) =
          .ok { s with eventIndex := later }) ∧
    (∀ (event : BoostsCopied) (s' : ObservedState) (later : Int),
      reduce s (.boostsCopied event) = .ok s' → event.eventIndex < later →
        reduce s' (.boostsCopied { event with eventIndex := later }) =
          .ok { s' with eventIndex := later }) := by
  have hs := soundState_run hrun
  have hsound (ei : Int) : SoundState { s with eventIndex := ei } :=
    ⟨wellSided_stamp hs.sided ei, fun i => by rw [sideAt_stamp]; exact hs.boosts i⟩
  refine ⟨fun event s' later h hlater => ?_, fun event s' h => ?_, fun event s' later h hlater => ?_,
    fun event s' later h hlater => ?_, fun event s' later h hlater => ?_⟩
  · exact reduce_twice hs.sided h hlater
      (reduceBoostsSwapped_twice (hsound _) (reduce_eq_ok.mp h).2 later)
  · obtain ⟨i, j, hi, hj, hsum⟩ := reduceBoostsSwapped_sum (hsound _) (reduce_eq_ok.mp h).2
    refine ⟨i, j, hi, hj, fun idx => ?_⟩
    rw [hsum idx]
    simp only [ObservedState.activeBoost, sideAt_stamp]
  · exact reduce_twice hs.sided h hlater
      (reduceBoostsInverted_twice (hsound _) (reduce_eq_ok.mp h).2 later)
  · have hback : reduceEvent { s' with eventIndex := later }
        (.sideConditionsSwapped { event with eventIndex := later }) =
          .ok { s with eventIndex := later } := by
      obtain ⟨-, hevent⟩ := reduce_eq_ok.mp h
      cases hevent
      rfl
    exact reduce_twice hs.sided h hlater hback
  · exact reduce_twice hs.sided h hlater
      (reduceBoostsCopied_twice (hsound _) (reduce_eq_ok.mp h).2 later)

/-- Scizor, with a sharply raised attack, and Garchomp, with a lowered speed. -/
def scizorAgainstGarchomp : List BattleEvent :=
  [.pokemonSwitched ⟨0, "p1", 1, "Scizor", "Scizor, F", ⟨100, 100, none, false⟩⟩,
    .pokemonSwitched ⟨1, "p2", 1, "Garchomp", "Garchomp, M", ⟨100, 100, none, false⟩⟩,
    .boostChanged ⟨2, "p1", 1, "Scizor", "atk", .delta, 2⟩,
    .boostChanged ⟨3, "p2", 1, "Garchomp", "spe", .delta, -1⟩]

/-- They exchange attack and speed, and exchange them again. -/
theorem scizor_swaps_back :
    ∃ s s', RunsTo reduce (ObservedState.initial "ash") scizorAgainstGarchomp s ∧
      reduce s (.boostsSwapped ⟨4, "p1", 1, "Scizor", "p2", 1, "Garchomp", ["atk", "spe"]⟩) = .ok s' ∧
      s'.p1.pokemon.map (fun pv => pv.boosts) = [[0, 0, 0, 0, -1, 0, 0]] ∧
      reduce s' (.boostsSwapped ⟨7, "p1", 1, "Scizor", "p2", 1, "Garchomp", ["atk", "spe"]⟩) =
        .ok { s with eventIndex := 7 } :=
  ⟨_, _, rfl, rfl, rfl,
    (boost_algebra "ash" scizorAgainstGarchomp _ rfl).1
      ⟨4, "p1", 1, "Scizor", "p2", 1, "Garchomp", ["atk", "spe"]⟩ _ 7 rfl (by decide)⟩

end BattleBelief
