import BattleBelief.Engine.RootBinding

/-!
# Public HP

The opponent's HP is public as a share, rounded to percent or to pixels. How the ends of the scale
come out is a fact about rounding, and it is stated here for exact quotients: the functions of the
state mapper, over any way to compute a share.

- `publicTransitionDelta_eq_by`: with floats, these are the functions of the state mapper
- `public_hp_separates`: which HP are public as nothing or as all, and which changes from and to the
  ends show
-/

namespace BattleBelief

open Runs
open Python (Dict.get?)

/-! ## §1 The functions, over a share -/

/-- `round((hp / maxhp) * denominator)`, unless it raises. -/
abbrev Share := Int → Int → Int → Option Int

/-- The denominator of a public HP value that is not exact. -/
def PublicHp.denominator (publicHp : PublicHp) : Int :=
  if publicHp.1 = .pixel then publicHp.2 else 100

section Mapper

variable {Obj : Type} {m : Type → Type} [Monad m] [MonadExceptOf EngineError m] [NativeModule Obj m]

/-- `publicHpValue`, over a share. -/
def publicHpValueBy (share : Share) (own : Bool) (publicHp : PublicHp) (hp maxhp : Int) :
    m PublicHpValue :=
  if own || publicHp.1 = .exact then pure (.exact hp maxhp)
  else
    match share hp maxhp publicHp.denominator with
    | some value => pure (.share value)
    | none => throw EngineError.arithmeticError

/-- `publicActive`, over a share. -/
def publicActiveBy (share : Share) (side : PyValue Obj) (own : Bool) (publicHp : PublicHp) :
    m (PublicActive Obj) := do
  let index ← readInt side "active_index"
  let active ← readPokemon side index
  let hp ← readInt active "hp"
  let maxhp ← readInt active "maxhp"
  let hpValue ← publicHpValueBy share own publicHp hp maxhp
  let id ← read active "id"
  let status ← read active "status"
  let types ← effectiveTypes active
  let terastallized ← readBool active "terastallized"
  let teraType ← readTeraType active
  pure ⟨index, id, hpValue, status, types, terastallized, teraType⟩

/-- `sideDelta`, over a share. -/
def sideDeltaBy (share : Share) (sideId player : Player) (source target : PyValue Obj)
    (publicHp : PublicHp) : m (List (String × PyValue Obj)) := do
  let before ← publicActiveBy share source (sideId = player) publicHp
  let after ← publicActiveBy share target (sideId = player) publicHp
  let changed ← changedActive before after publicHp.1
  pure (changedEntry (!changed.isEmpty) sideId.value (.dict changed))

/-- `publicTransitionDelta`, over a share. -/
def publicTransitionDeltaBy (share : Share) (source target : PyValue Obj) (player : Player)
    (publicHp : PublicHp × PublicHp) : m (PyValue Obj) := do
  let sourceOne ← read source "side_one"
  let targetOne ← read target "side_one"
  let sourceTwo ← read source "side_two"
  let targetTwo ← read target "side_two"
  let deltaOne ← sideDeltaBy share .p1 player sourceOne targetOne publicHp.1
  let deltaTwo ← sideDeltaBy share .p2 player sourceTwo targetTwo publicHp.2
  let sideDeltas := deltaOne ++ deltaTwo
  let weather ← fieldDelta source target "weather"
  let terrain ← fieldDelta source target "terrain"
  let trickRoom ← fieldDelta source target "trick_room"
  pure (.dict (changedEntry (!sideDeltas.isEmpty) "sides" (.dict sideDeltas) ++ weather ++ terrain ++
    trickRoom))

/-- With floats these are the functions of the state mapper. -/
theorem publicTransitionDelta_eq_by :
    (publicTransitionDelta : PyValue Obj → PyValue Obj → Player → PublicHp × PublicHp →
      m (PyValue Obj)) = publicTransitionDeltaBy Python.Float.scaledQuotient := rfl

end Mapper

/-! ## §2 Rounding at the ends -/

/-- The share of an exact quotient. -/
def exactShare (hp maxhp denominator : Int) : Option Int :=
  if maxhp = 0 then none
  else some (Python.Float.roundHalfEven ((hp / maxhp : ℚ) * denominator))

/-- Public in percent, or in pixels of which there are two at least. -/
def PublicHp.IsCoarse (publicHp : PublicHp) : Prop :=
  publicHp.1 = .percent ∨ publicHp.1 = .pixel ∧ 2 ≤ publicHp.2

theorem PublicHp.IsCoarse.two_le {publicHp : PublicHp} (h : publicHp.IsCoarse) :
    2 ≤ publicHp.denominator := by
  unfold PublicHp.denominator
  rcases h with h | ⟨h, hmaximum⟩
  · rw [if_neg (by rw [h]; decide)]
    decide
  · rwa [if_pos h]

theorem PublicHp.IsCoarse.not_exact {publicHp : PublicHp} (h : publicHp.IsCoarse) :
    publicHp.1 ≠ .exact := by
  rcases h with h | ⟨h, -⟩ <;> rw [h] <;> decide

variable {hp maxhp denominator : Int}

/-- A share is rounded down to nothing up to half a unit. -/
theorem exactShare_eq_zero (hhp : 0 ≤ hp) (hpos : 1 ≤ maxhp) (hdenominator : 0 ≤ denominator) :
    exactShare hp maxhp denominator = some 0 ↔ 2 * hp * denominator ≤ maxhp := by
  have hmaxhp : (0 : ℚ) < maxhp := by exact_mod_cast hpos
  have hshare : ((hp / maxhp : ℚ) * denominator) = (hp * denominator : ℚ) / maxhp := by ring
  have hnonneg : (0 : ℚ) ≤ (hp * denominator : ℚ) / maxhp := by
    have hproduct : (0 : ℚ) ≤ hp * denominator := by exact_mod_cast mul_nonneg hhp hdenominator
    exact div_nonneg hproduct hmaxhp.le
  have hhalf : (hp * denominator : ℚ) / maxhp ≤ 1 / 2 ↔ 2 * hp * denominator ≤ maxhp := by
    rw [div_le_iff₀ hmaxhp]
    constructor
    · intro h
      have htwice : (2 * hp * denominator : ℚ) ≤ maxhp := by linarith
      exact_mod_cast htwice
    · intro h
      have htwice : (2 * hp * denominator : ℚ) ≤ maxhp := by exact_mod_cast h
      linarith
  rw [exactShare, if_neg (by omega), Option.some.injEq, Python.Float.roundHalfEven_eq_iff, hshare,
    ← hhalf]
  simp only [Int.cast_zero, sub_zero, abs_of_nonneg hnonneg]
  constructor
  · rintro (h | ⟨h, -⟩)
    · exact h.le
    · exact h.le
  · intro h
    exact h.lt_or_eq.imp_right fun heq => ⟨heq, rfl⟩

/-- A share is rounded up to all from half a unit below, or from more if that one is odd. -/
theorem exactShare_eq_denominator (hle : hp ≤ maxhp) (hpos : 1 ≤ maxhp)
    (hdenominator : 0 ≤ denominator) :
    exactShare hp maxhp denominator = some denominator ↔
      2 * (maxhp - hp) * denominator < maxhp ∨
        2 * (maxhp - hp) * denominator = maxhp ∧ denominator % 2 = 0 := by
  have hmaxhp : (0 : ℚ) < maxhp := by exact_mod_cast hpos
  have hdistance : |(hp / maxhp : ℚ) * denominator - denominator| =
      ((maxhp - hp) * denominator : ℚ) / maxhp := by
    have hproduct : (0 : ℚ) ≤ (maxhp - hp) * denominator := by
      exact_mod_cast mul_nonneg (sub_nonneg.mpr hle) hdenominator
    have hneg : (hp / maxhp : ℚ) * denominator - denominator =
        -(((maxhp - hp) * denominator : ℚ) / maxhp) := by
      field_simp
      ring
    rw [hneg, abs_neg, abs_of_nonneg (div_nonneg hproduct hmaxhp.le)]
  have hlt : ((maxhp - hp) * denominator : ℚ) / maxhp < 1 / 2 ↔
      2 * (maxhp - hp) * denominator < maxhp := by
    rw [div_lt_iff₀ hmaxhp]
    constructor
    · intro h
      have htwice : (2 * (maxhp - hp) * denominator : ℚ) < maxhp := by linarith
      exact_mod_cast htwice
    · intro h
      have htwice : (2 * (maxhp - hp) * denominator : ℚ) < maxhp := by exact_mod_cast h
      linarith
  have heq : ((maxhp - hp) * denominator : ℚ) / maxhp = 1 / 2 ↔
      2 * (maxhp - hp) * denominator = maxhp := by
    rw [div_eq_iff hmaxhp.ne']
    constructor
    · intro h
      have htwice : (2 * (maxhp - hp) * denominator : ℚ) = maxhp := by linarith
      exact_mod_cast htwice
    · intro h
      have htwice : (2 * (maxhp - hp) * denominator : ℚ) = maxhp := by exact_mod_cast h
      linarith
  rw [exactShare, if_neg (by omega), Option.some.injEq, Python.Float.roundHalfEven_eq_iff, hdistance,
    hlt, heq]

/-! ## §3 What a transition shows -/

section Deltas

variable {Obj : Type}

/-- The HP entry of what has changed of a side. -/
def changedHp : Option (PyValue Obj) → Option (PyValue Obj)
  | some (.dict changed) => Dict.get? changed "hp"
  | _ => none

/-- The HP entry of a delta for the side of a player. -/
def shownHp (delta : PyValue Obj) (player : Player) : Option (PyValue Obj) :=
  match delta with
  | .dict entries =>
      match Dict.get? entries "sides" with
      | some (.dict sides) => changedHp (Dict.get? sides player.value)
      | _ => none
  | _ => none

theorem get?_changedEntry (changed : Bool) (key other : String) (value : PyValue Obj) :
    Dict.get? (changedEntry changed other value) key =
      if changed = true ∧ other = key then some value else none := by
  unfold changedEntry
  cases changed with
  | false => rfl
  | true =>
    by_cases heq : other = key
    · simp [Dict.get?, heq]
    · simp [Dict.get?, heq]

/-- The entry of the sides is the first one of a delta. -/
theorem shownHp_dict (sides : List (String × PyValue Obj)) {rest : List (String × PyValue Obj)}
    (hrest : Dict.get? rest "sides" = none) (player : Player) :
    shownHp (.dict (changedEntry (!sides.isEmpty) "sides" (.dict sides) ++ rest)) player =
      changedHp (Dict.get? sides player.value) := by
  rw [shownHp, Python.Dict.get?_append, get?_changedEntry, hrest, Option.or_none]
  cases sides with
  | nil => rfl
  | cons entry sides => rfl

variable [Engine Obj]

/-- The HP and the maximum of the active pokemon of a side. -/
def activeHp (side : PyValue Obj) : Except EngineError (Int × Int) := do
  let index ← readInt side "active_index"
  let active ← readPokemon side index
  let hp ← readInt active "hp"
  let maxhp ← readInt active "maxhp"
  pure (hp, maxhp)

/-- The side of a player. -/
def readSide (state : PyValue Obj) (player : Player) : Except EngineError (PyValue Obj) :=
  read state (player.pick ("side_one", "side_two"))

variable {share : Share} {own : Bool} {publicHp : PublicHp} {side : PyValue Obj}

/-- What is public of an active pokemon has its public HP. -/
theorem publicActiveBy_hp {active : PublicActive Obj}
    (h : (publicActiveBy share side own publicHp : Except EngineError _) = .ok active) :
    ∃ hp maxhp, activeHp side = .ok (hp, maxhp) ∧
      (publicHpValueBy share own publicHp hp maxhp : Except EngineError _) = .ok active.hp := by
  unfold publicActiveBy at h
  obtain ⟨index, hindex, h⟩ := bind_eq_ok.mp h
  obtain ⟨pokemon, hpokemon, h⟩ := bind_eq_ok.mp h
  obtain ⟨hp, hhp, h⟩ := bind_eq_ok.mp h
  obtain ⟨maxhp, hmaxhp, h⟩ := bind_eq_ok.mp h
  obtain ⟨value, hvalue, h⟩ := bind_eq_ok.mp h
  refine ⟨hp, maxhp, ?_, ?_⟩
  · simp only [activeHp, hindex, hpokemon, hhp, hmaxhp, bind, Except.bind]
    rfl
  · rw [hvalue]
    obtain ⟨id, -, h⟩ := bind_eq_ok.mp h
    obtain ⟨status, -, h⟩ := bind_eq_ok.mp h
    obtain ⟨types, -, h⟩ := bind_eq_ok.mp h
    obtain ⟨terastallized, -, h⟩ := bind_eq_ok.mp h
    obtain ⟨teraType, -, h⟩ := bind_eq_ok.mp h
    cases h
    rfl

/-- What changes of an active pokemon has an HP entry exactly if its public HP does. -/
theorem changedActive_hp {before after : PublicActive Obj} {precision : HpPrecision}
    {changed : List (String × PyValue Obj)}
    (h : (changedActive before after precision : Except EngineError _) = .ok changed) :
    (Dict.get? changed "hp").isSome ↔ before.hp ≠ after.hp := by
  unfold changedActive at h
  obtain ⟨id, -, h⟩ := bind_eq_ok.mp h
  obtain ⟨status, -, h⟩ := bind_eq_ok.mp h
  obtain ⟨teraType, -, h⟩ := bind_eq_ok.mp h
  cases h
  simp only [Python.Dict.get?_append, get?_changedEntry]
  by_cases heq : before.hp = after.hp
  · simp [heq]
  · simp [heq]

/-- What changes of a side has an HP entry exactly if its public HP does, and is about that side
alone. -/
theorem sideDeltaBy_hp {sideId player : Player} {source target : PyValue Obj}
    {entries : List (String × PyValue Obj)}
    (h : (sideDeltaBy share sideId player source target publicHp : Except EngineError _) =
      .ok entries) :
    (∀ key, key ≠ sideId.value → Dict.get? entries key = none) ∧
    ∃ before after : PublicActive Obj,
      (publicActiveBy share source (sideId = player) publicHp : Except EngineError _) = .ok before ∧
      (publicActiveBy share target (sideId = player) publicHp : Except EngineError _) = .ok after ∧
      ((changedHp (Dict.get? entries sideId.value)).isSome ↔ before.hp ≠ after.hp) := by
  unfold sideDeltaBy at h
  obtain ⟨before, hbefore, h⟩ := bind_eq_ok.mp h
  obtain ⟨after, hafter, h⟩ := bind_eq_ok.mp h
  obtain ⟨changed, hchanged, h⟩ := bind_eq_ok.mp h
  cases h
  refine ⟨fun key hkey => ?_, before, after, hbefore, hafter, ?_⟩
  · rw [get?_changedEntry, if_neg fun h => hkey h.2.symm]
  · rw [get?_changedEntry, ← changedActive_hp hchanged]
    cases changed with
    | nil => exact Iff.rfl
    | cons entry rest =>
      rw [if_pos ⟨rfl, rfl⟩]
      exact Iff.rfl

theorem fieldDelta_other {source target : PyValue Obj} {name key : String}
    {entries : List (String × PyValue Obj)}
    (h : (fieldDelta source target name : Except EngineError _) = .ok entries) (hkey : name ≠ key) :
    Dict.get? entries key = none := by
  unfold fieldDelta at h
  obtain ⟨before, -, h⟩ := bind_eq_ok.mp h
  obtain ⟨after, -, h⟩ := bind_eq_ok.mp h
  obtain ⟨changed, -, h⟩ := bind_eq_ok.mp h
  cases h
  rw [get?_changedEntry, if_neg fun h => hkey h.2]

/-- A delta shows the HP of a side exactly if its public HP changes. -/
theorem shownHp_isSome {source target delta : PyValue Obj} {player : Player}
    {precisions : PublicHp × PublicHp}
    (h : (publicTransitionDeltaBy share source target player precisions : Except EngineError _) =
      .ok delta) (shown : Player) :
    ∃ (sourceSide targetSide : PyValue Obj) (before after : PublicActive Obj),
      readSide source shown = .ok sourceSide ∧ readSide target shown = .ok targetSide ∧
      (publicActiveBy share sourceSide (shown = player) (shown.pick precisions) :
        Except EngineError _) = .ok before ∧
      (publicActiveBy share targetSide (shown = player) (shown.pick precisions) :
        Except EngineError _) = .ok after ∧
      ((shownHp delta shown).isSome ↔ before.hp ≠ after.hp) := by
  unfold publicTransitionDeltaBy at h
  obtain ⟨sourceOne, hsourceOne, h⟩ := bind_eq_ok.mp h
  obtain ⟨targetOne, htargetOne, h⟩ := bind_eq_ok.mp h
  obtain ⟨sourceTwo, hsourceTwo, h⟩ := bind_eq_ok.mp h
  obtain ⟨targetTwo, htargetTwo, h⟩ := bind_eq_ok.mp h
  obtain ⟨deltaOne, hdeltaOne, h⟩ := bind_eq_ok.mp h
  obtain ⟨deltaTwo, hdeltaTwo, h⟩ := bind_eq_ok.mp h
  obtain ⟨weather, hweather, h⟩ := bind_eq_ok.mp h
  obtain ⟨terrain, hterrain, h⟩ := bind_eq_ok.mp h
  obtain ⟨trickRoom, htrickRoom, h⟩ := bind_eq_ok.mp h
  cases h
  have hfield : Dict.get? (weather ++ (terrain ++ trickRoom)) "sides" = none := by
    simp only [Python.Dict.get?_append, fieldDelta_other hweather (by decide : "weather" ≠ "sides"),
      fieldDelta_other hterrain (by decide : "terrain" ≠ "sides"),
      fieldDelta_other htrickRoom (by decide : "trick_room" ≠ "sides"), Option.or_none]
  obtain ⟨honlyOne, beforeOne, afterOne, hbeforeOne, hafterOne, hone⟩ := sideDeltaBy_hp hdeltaOne
  obtain ⟨honlyTwo, beforeTwo, afterTwo, hbeforeTwo, hafterTwo, htwo⟩ := sideDeltaBy_hp hdeltaTwo
  rw [List.append_assoc, List.append_assoc, shownHp_dict _ hfield, Python.Dict.get?_append]
  cases shown with
  | p1 =>
    rw [honlyTwo Player.p1.value (by decide), Option.or_none]
    exact ⟨sourceOne, targetOne, beforeOne, afterOne, hsourceOne, htargetOne, hbeforeOne, hafterOne,
      hone⟩
  | p2 =>
    rw [honlyOne Player.p2.value (by decide), Option.none_or]
    exact ⟨sourceTwo, targetTwo, beforeTwo, afterTwo, hsourceTwo, htargetTwo, hbeforeTwo, hafterTwo,
      htwo⟩

/-! ## §4 The ends of the scale -/

/-- HP that a pokemon can have. -/
structure IsHp (hp maxhp : Int) : Prop where
  nonneg : 0 ≤ hp
  le : hp ≤ maxhp
  pos : 1 ≤ maxhp

/-- The opponent's HP is public as a share. -/
theorem publicHpValueBy_exactShare (hcoarse : publicHp.IsCoarse) (hp : Int) {maxhp : Int}
    (hmaxhp : 1 ≤ maxhp) :
    ∃ value, exactShare hp maxhp publicHp.denominator = some value ∧
      (publicHpValueBy exactShare false publicHp hp maxhp : Except EngineError _) =
        .ok (.share value) := by
  have hnonzero : maxhp ≠ 0 := by omega
  refine ⟨_, if_neg hnonzero, ?_⟩
  have hexact : (false || decide (publicHp.1 = .exact)) = false := by
    simp [hcoarse.not_exact]
  rw [publicHpValueBy, hexact, exactShare, if_neg hnonzero]
  rfl

/-- What a delta shows of the opponent's HP, from the HP before and after. -/
theorem shownHp_exactShare {source target delta sourceSide targetSide : PyValue Obj}
    {player opponent : Player} {precisions : PublicHp × PublicHp} {hp maxhp hp' maxhp' value value' : Int}
    (hopponent : opponent ≠ player) (hcoarse : (opponent.pick precisions).IsCoarse)
    (hdelta : (publicTransitionDeltaBy exactShare source target player precisions :
      Except EngineError _) = .ok delta)
    (hsource : readSide source opponent = .ok sourceSide)
    (htarget : readSide target opponent = .ok targetSide)
    (hbefore : activeHp sourceSide = .ok (hp, maxhp))
    (hafter : activeHp targetSide = .ok (hp', maxhp'))
    (hvalue : exactShare hp maxhp (opponent.pick precisions).denominator = some value)
    (hvalue' : exactShare hp' maxhp' (opponent.pick precisions).denominator = some value') :
    (shownHp delta opponent).isSome ↔ value ≠ value' := by
  obtain ⟨side, side', before, after, hside, hside', hactive, hactive', hshown⟩ :=
    shownHp_isSome hdelta opponent
  rw [hsource] at hside
  rw [htarget] at hside'
  cases hside
  cases hside'
  have hforeign : decide (opponent = player) = false := decide_eq_false hopponent
  rw [hforeign] at hactive hactive'
  obtain ⟨h, m, hread, hpublic⟩ := publicActiveBy_hp hactive
  obtain ⟨h', m', hread', hpublic'⟩ := publicActiveBy_hp hactive'
  rw [hbefore] at hread
  rw [hafter] at hread'
  cases hread
  cases hread'
  have hexact : (false || decide ((opponent.pick precisions).1 = .exact)) = false := by
    simp [hcoarse.not_exact]
  rw [publicHpValueBy, hexact, hvalue] at hpublic
  rw [publicHpValueBy, hexact, hvalue'] at hpublic'
  have hhp : PublicHpValue.share value = before.hp := Except.ok.inj hpublic
  have hhp' : PublicHpValue.share value' = after.hp := Except.ok.inj hpublic'
  rw [hshown, ← hhp, ← hhp', Ne, PublicHpValue.share.injEq]

/-- With exact quotients: public HP in percent, or in two pixels or more, is nothing up to half a
unit of HP, and is all from half a unit below, or from more if that one is odd. So it shows that the
opponent's active pokemon faints exactly if it had more than half a unit left, and that it is damaged
from full HP exactly if what it has left is not rounded up to all. -/
theorem public_hp_separates (publicHp : PublicHp) (hcoarse : publicHp.IsCoarse) :
    (∀ hp maxhp, IsHp hp maxhp → ∃ value,
      (publicHpValueBy exactShare false publicHp hp maxhp : Except EngineError _) =
        .ok (.share value) ∧
      (value = 0 ↔ 2 * hp * publicHp.denominator ≤ maxhp) ∧
      (value = publicHp.denominator ↔ 2 * (maxhp - hp) * publicHp.denominator < maxhp ∨
        2 * (maxhp - hp) * publicHp.denominator = maxhp ∧ publicHp.denominator % 2 = 0)) ∧
    ∀ (source target delta sourceSide targetSide : PyValue Obj) (player opponent : Player)
      (precisions : PublicHp × PublicHp) (hp maxhp hp' maxhp' : Int),
      opponent ≠ player → opponent.pick precisions = publicHp →
      (publicTransitionDeltaBy exactShare source target player precisions :
        Except EngineError _) = .ok delta →
      readSide source opponent = .ok sourceSide → readSide target opponent = .ok targetSide →
      activeHp sourceSide = .ok (hp, maxhp) → activeHp targetSide = .ok (hp', maxhp') →
      IsHp hp maxhp → IsHp hp' maxhp' →
      (0 < hp → hp' = 0 →
        ((shownHp delta opponent).isSome ↔ maxhp < 2 * hp * publicHp.denominator)) ∧
      (hp = maxhp → hp' < maxhp' →
        ((shownHp delta opponent).isSome ↔
          maxhp' < 2 * (maxhp' - hp') * publicHp.denominator ∨
            2 * (maxhp' - hp') * publicHp.denominator = maxhp' ∧ publicHp.denominator % 2 ≠ 0)) := by
  have htwo := hcoarse.two_le
  have hdenominator : 0 ≤ publicHp.denominator := by omega
  refine ⟨fun hp maxhp hhp => ?_, ?_⟩
  · obtain ⟨value, hshare, hvalue⟩ := publicHpValueBy_exactShare hcoarse hp hhp.pos
    refine ⟨value, hvalue, ?_, ?_⟩
    · rw [← exactShare_eq_zero hhp.nonneg hhp.pos hdenominator, hshare, Option.some.injEq]
    · rw [← exactShare_eq_denominator hhp.le hhp.pos hdenominator, hshare, Option.some.injEq]
  · rintro source target delta sourceSide targetSide player opponent precisions hp maxhp hp' maxhp'
      hopponent rfl hdelta hsource htarget hbefore hafter hhp hhp'
    obtain ⟨value, hshare, -⟩ := publicHpValueBy_exactShare hcoarse hp hhp.pos
    obtain ⟨value', hshare', -⟩ := publicHpValueBy_exactShare hcoarse hp' hhp'.pos
    have hshown := shownHp_exactShare hopponent hcoarse hdelta hsource htarget hbefore hafter hshare
      hshare'
    have hzero := exactShare_eq_zero hhp.nonneg hhp.pos hdenominator
    have hzero' := exactShare_eq_zero hhp'.nonneg hhp'.pos hdenominator
    have hall := exactShare_eq_denominator hhp.le hhp.pos hdenominator
    have hall' := exactShare_eq_denominator hhp'.le hhp'.pos hdenominator
    rw [hshare, Option.some.injEq] at hzero hall
    rw [hshare', Option.some.injEq] at hzero' hall'
    constructor
    · -- nothing is left, which is public as nothing
      intro _ hfainted
      have hnothing : value' = 0 := hzero'.mpr (by rw [hfainted]; simpa using hhp'.pos.trans' (by decide))
      rw [hshown, hnothing, Ne, hzero, not_le]
    · -- all was left, which is public as all
      intro hfull hdamaged
      have hwhole : value = (opponent.pick precisions).denominator := hall.mpr (by
        left
        rw [hfull, Int.sub_self]
        have hpos := hhp.pos
        omega)
      rw [hshown, hwhole, ne_comm, Ne, hall', not_or, not_lt, not_and_or, ← Ne]
      omega

end Deltas

/-- One of 300 HP is public as nothing. -/
theorem one_of_three_hundred_hidden :
    ¬∀ publicHp : PublicHp, publicHp.IsCoarse → ∀ hp maxhp, IsHp hp maxhp → ∀ value,
      (publicHpValueBy exactShare false publicHp hp maxhp : Except EngineError _) =
        .ok (.share value) → (value = 0 ↔ hp = 0) := by
  intro h
  have hvalue := h percentHp (.inl rfl) 1 300 ⟨by decide, by decide, by decide⟩ 0 (by decide +kernel)
  exact absurd (hvalue.mp rfl) (by decide)

/-- Of a Garchomp with 100 HP that faints, the delta shows the HP to the opponent, in 48 pixels. -/
theorem duel_faint_shown :
    letI := duelEngine
    ∃ delta : PyValue Record,
      (publicTransitionDeltaBy exactShare (duelState 100 100 "leftovers")
        (duelState 100 0 "leftovers") .p1 ((.exact, 100), (.pixel, 48)) : Except EngineError _) =
          .ok delta ∧
      ((shownHp delta .p2).isSome ↔ (100 : Int) < 2 * 100 * 48) := by
  let _ := duelEngine
  have hruns : ((publicTransitionDeltaBy exactShare (duelState 100 100 "leftovers")
      (duelState 100 0 "leftovers") .p1 ((.exact, 100), (.pixel, 48)) : Except EngineError _).map
        fun _ => ()) = .ok () := by decide +kernel
  obtain ⟨delta, hdelta, -⟩ := map_eq_ok.mp hruns
  refine ⟨delta, hdelta, ?_⟩
  exact ((public_hp_separates (.pixel, 48) (.inr ⟨rfl, by decide⟩)).2 (duelState 100 100 "leftovers")
    (duelState 100 0 "leftovers") delta (Record.ofJson (duelSide 100 "leftovers"))
    (Record.ofJson (duelSide 0 "leftovers")) .p1 .p2 ((.exact, 100), (.pixel, 48)) 100 100 0 100
    (by decide) rfl hdelta rfl rfl (by decide +kernel) (by decide +kernel)
    ⟨by decide, by decide, by decide⟩ ⟨by decide, by decide, by decide⟩).1 (by decide) rfl

end BattleBelief
