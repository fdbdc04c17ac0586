import BattleBelief.Library.Runs
import BattleBelief.Records.PublicProjection

/-!
# What the Projection of a State Keeps Private

A decision record holds a projection of the observed state without nicknames and user names. Two
states that differ in these alone are meant to have the same projection.

They have, but for one thing: of an annotation the projection keeps the side and slot of the pokemon
it names, and takes whatever stands before the first `: ` for these. A nickname can stand there too,
and a blank one can make the position vanish. `projection_private_iff` says exactly when that shows.
-/

namespace BattleBelief

open Python (Json)
open Runs

/-! ## §1 Private differences -/

/-- Annotations that are the same but for a nickname: that of the pokemon an identifier names, or
that of the wisher. -/
inductive SameButNickname : String → String → Prop where
  | same ( annotation : String) : SameButNickname annotation annotation
  | target (label position : String) (hlabel : ']' ∉ label.toList) (nickname nickname' : String) :
      SameButNickname ("[" ++ label ++ "]" ++ " " ++ position ++ ": " ++ nickname)
        ("[" ++ label ++ "]" ++ " " ++ position ++ ": " ++ nickname')
  | wisher (nickname nickname' : String) :
      SameButNickname ("[wisher] " ++ nickname) ("[wisher] " ++ nickname')

/-- Pokemon that differ in nickname, switch identity and the nickname that a transform target is
known by. -/
structure SamePokemon (a b : PokemonView) : Prop where
  identityIntervals : a.identityIntervals = b.identityIntervals
  previewDetails : a.previewDetails = b.previewDetails
  currentDetails : a.currentDetails = b.currentDetails
  active : a.active = b.active
  hp : a.hp = b.hp
  status : a.status = b.status
  fainted : a.fainted = b.fainted
  revealedMoves : a.revealedMoves = b.revealedMoves
  itemIntervals : a.itemIntervals = b.itemIntervals
  abilityIntervals : a.abilityIntervals = b.abilityIntervals
  teraType : a.teraType = b.teraType
  boosts : a.boosts = b.boosts
  volatiles : a.volatiles = b.volatiles
  recharging : a.recharging = b.recharging
  transformed : a.transformTarget.isSome = b.transformTarget.isSome

/-- Sides that differ in the user id and display name of the player and in private parts of their
pokemon. -/
structure SameSide (a b : SideView) : Prop where
  sideId : a.sideId = b.sideId
  teamSize : a.teamSize = b.teamSize
  previewRoster : a.previewRoster = b.previewRoster
  activeSlot : a.activeSlot = b.activeSlot
  pokemon : List.Forall₂ SamePokemon a.pokemon b.pokemon
  sideConditions : a.sideConditions = b.sideConditions

/-- Evidence that differs in nicknames: its own, that of a transform target, and those in its
annotations. -/
structure SameEvidence (a b : VisibleEvidence) : Prop where
  eventIndex : a.eventIndex = b.eventIndex
  kind : a.kind = b.kind
  sideId : a.sideId = b.sideId
  slot : a.slot = b.slot
  effect : a.kind ≠ "transform" → a.effect = b.effect
  annotations : List.Forall₂ SameButNickname a.annotations b.annotations

/-- States that differ in private identifier text only. Our user id and the winner's name are among
that text. -/
structure DifferPrivately (s t : ObservedState) : Prop where
  eventIndex : s.eventIndex = t.eventIndex
  roomInitialized : s.roomInitialized = t.roomInitialized
  generation : s.generation = t.generation
  gameType : s.gameType = t.gameType
  tier : s.tier = t.tier
  rated : s.rated = t.rated
  rules : s.rules = t.rules
  turn : s.turn = t.turn
  battleStarted : s.battleStarted = t.battleStarted
  teamPreviewStarted : s.teamPreviewStarted = t.teamPreviewStarted
  tied : s.tied = t.tied
  ourSide : s.ourSide = t.ourSide
  p1 : SameSide s.p1 t.p1
  p2 : SameSide s.p2 t.p2
  weather : s.weather = t.weather
  fieldConditions : s.fieldConditions = t.fieldConditions
  visibleEvidence : List.Forall₂ SameEvidence s.visibleEvidence t.visibleEvidence
  ignoredDisplayCount : s.ignoredDisplayCount = t.ignoredDisplayCount

/-! ## §2 Sides and pokemon -/

theorem projectPokemon_eq {a b : PokemonView} (h : SamePokemon a b) :
    projectPokemon a = projectPokemon b := by
  unfold projectPokemon
  rw [h.identityIntervals, h.previewDetails, h.currentDetails, h.active, h.hp, h.status,
    h.fainted, h.revealedMoves, h.itemIntervals, h.abilityIntervals, h.teraType, h.boosts,
    h.volatiles, h.recharging, h.transformed]

theorem projectSide_eq {a b : SideView} (h : SameSide a b) : projectSide a = projectSide b := by
  have hpokemon : a.pokemon.map projectPokemon = b.pokemon.map projectPokemon :=
    (map_eq_map_iff_forall₂ h.pokemon (C := SamePokemon) fun a b hab =>
      iff_of_true (projectPokemon_eq hab) hab).mpr h.pokemon
  unfold projectSide
  rw [h.sideId, h.teamSize, h.previewRoster, h.activeSlot, hpokemon, h.sideConditions]

/-! ## §3 Annotations -/

/-- What stands behind the label of an annotation, without the blanks around it. -/
def behindLabel ( annotation : String) : Option String :=
  match annotation.toList with
  | '[' :: rest =>
      (Python.splitOnce (String.ofList rest) "]").map fun parts => Python.strip parts.2
  | _ => none

/-- The annotation names a position: behind the label it starts with the position and a colon. -/
def PointsTo (position annotation : String) : Prop :=
  (behindLabel annotation).any (fun text => Python.startsWith text (position ++ ": ")) = true

instance (position annotation : String) : Decidable (PointsTo position annotation) :=
  inferInstanceAs (Decidable (_ = true))

/-- Both annotations name the same position, or neither names one. -/
def PointAlike (a b : String) : Prop :=
  ∀ position ∈ ["p1a", "p2a"], (PointsTo position a ↔ PointsTo position b)

instance (a b : String) : Decidable (PointAlike a b) :=
  inferInstanceAs (Decidable (∀ position ∈ ["p1a", "p2a"], _))

theorem splitOnce_eq_some_iff {position text : String} (hposition : position ∈ ["p1a", "p2a"]) :
    (∃ rest, Python.splitOnce text ": " = some (position, rest)) ↔
      (position ++ ": ").toList <+: text.toList := by
  constructor
  · rintro ⟨rest, h⟩
    obtain ⟨⟨before, after⟩, hparts, heq⟩ := Option.map_eq_some_iff.mp h
    have htext := Python.append_of_partitionChars hparts
    rw [← (Prod.mk.inj heq).1]
    refine ⟨after, ?_⟩
    rw [List.reverse_nil, List.nil_append] at htext
    simp [htext]
  · rintro ⟨after, htext⟩
    refine ⟨String.ofList after, ?_⟩
    simp only [List.mem_cons, List.not_mem_nil, or_false] at hposition
    rw [Python.splitOnce, ← htext]
    rcases hposition with rfl | rfl <;> rfl

/-- The target of an annotation is the position that its text starts with. -/
theorem annotationTarget_eq (text : String) : annotationTarget text =
    if "p1a: ".toList <+: text.toList then [("side_id", .str "p1"), ("slot", .int 1)]
    else if "p2a: ".toList <+: text.toList then [("side_id", .str "p2"), ("slot", .int 1)]
    else [] := by
  have h1 : (∃ rest, Python.splitOnce text ": " = some ("p1a", rest)) ↔
      ("p1a" ++ ": ").toList <+: text.toList := splitOnce_eq_some_iff (by simp)
  have h2 : (∃ rest, Python.splitOnce text ": " = some ("p2a", rest)) ↔
      ("p2a" ++ ": ").toList <+: text.toList := splitOnce_eq_some_iff (by simp)
  have hp1 : "p1a: ".toList <+: text.toList ↔
      ∃ rest, Python.splitOnce text ": " = some ("p1a", rest) := h1.symm
  have hp2 : "p2a: ".toList <+: text.toList ↔
      ∃ rest, Python.splitOnce text ": " = some ("p2a", rest) := h2.symm
  unfold annotationTarget
  cases hparts : Python.splitOnce text ": " with
  | none =>
    rw [hparts] at hp1 hp2
    have hno1 : ¬"p1a: ".toList <+: text.toList := by
      rw [hp1]
      rintro ⟨_, hsome⟩
      cases hsome
    have hno2 : ¬"p2a: ".toList <+: text.toList := by
      rw [hp2]
      rintro ⟨_, hsome⟩
      cases hsome
    rw [if_neg hno1, if_neg hno2]
  | some parts =>
    obtain ⟨position, rest⟩ := parts
    rw [hparts] at hp1 hp2
    have hpos1 : "p1a: ".toList <+: text.toList ↔ position = "p1a" := by
      rw [hp1]
      simp
    have hpos2 : "p2a: ".toList <+: text.toList ↔ position = "p2a" := by
      rw [hp2]
      simp
    dsimp only
    rw [if_congr hpos1 rfl (if_congr hpos2 rfl rfl)]

/-- No text starts with both positions. -/
theorem not_both_positions (text : List Char) :
    ¬("p1a: ".toList <+: text ∧ "p2a: ".toList <+: text) := by
  rintro ⟨⟨rest, rfl⟩, h⟩
  simp at h

theorem annotationTarget_eq_iff {text text' : String} :
    annotationTarget text = annotationTarget text' ↔ ∀ position ∈ ["p1a", "p2a"],
      ((position ++ ": ").toList <+: text.toList ↔
        (position ++ ": ").toList <+: text'.toList) := by
  have hboth := not_both_positions text.toList
  have hboth' := not_both_positions text'.toList
  rw [annotationTarget_eq, annotationTarget_eq, List.forall_mem_cons, List.forall_mem_singleton,
    show "p1a" ++ ": " = "p1a: " from rfl, show "p2a" ++ ": " = "p2a: " from rfl]
  split_ifs <;> simp_all

/-- An annotation with a label is projected to its type and its target. -/
theorem projectAnnotation_label {label : String} (hlabel : ']' ∉ label.toList) (rest : String) :
    projectAnnotation ("[" ++ label ++ "]" ++ rest) =
      .obj (("type", .str (if toShowdownId label ∈ annotationTypes then toShowdownId label
        else "unknown")) :: annotationTarget (Python.strip rest)) ∧
    behindLabel ("[" ++ label ++ "]" ++ rest) = some (Python.strip rest) := by
  have hchars : ("[" ++ label ++ "]" ++ rest).toList =
      '[' :: (label.toList ++ ']' :: rest.toList) := by
    simp
  have hsplit : Python.splitOnce (String.ofList (label.toList ++ ']' :: rest.toList)) "]" =
      some (label, rest) := by
    rw [Python.splitOnce, show "]".toList = [']'] from rfl, String.toList_ofList,
      Python.partitionChars_append hlabel]
    simp only [Option.map_some, List.reverse_nil, List.nil_append, String.ofList_toList]
  constructor
  · simp only [ projectAnnotation, hchars, hsplit]
  · simp only [behindLabel, hchars, hsplit, Option.map_some]

/-- Behind one label, annotations have the same projection exactly when they point alike. -/
theorem projectAnnotation_eq_iff {label : String} (hlabel : ']' ∉ label.toList)
    (rest rest' : String) :
    projectAnnotation ("[" ++ label ++ "]" ++ rest) =
        projectAnnotation ("[" ++ label ++ "]" ++ rest') ↔
      PointAlike ("[" ++ label ++ "]" ++ rest) ("[" ++ label ++ "]" ++ rest') := by
  obtain ⟨hproject, hbehind⟩ := projectAnnotation_label hlabel rest
  obtain ⟨hproject', hbehind'⟩ := projectAnnotation_label hlabel rest'
  rw [hproject, hproject', Json.obj.injEq, List.cons.injEq, and_iff_right rfl,
    annotationTarget_eq_iff]
  unfold PointAlike PointsTo
  simp only [hbehind, hbehind', Option.any_some, Python.startsWith, List.isPrefixOf_iff_prefix]

theorem projectAnnotation_eq_iff_of_same {a b : String} (h : SameButNickname a b) :
    projectAnnotation a = projectAnnotation b ↔ PointAlike a b := by
  cases h with
  | same annotation => exact iff_of_true rfl fun position _ => Iff.rfl
  | target label position hlabel nickname nickname' =>
    have htext : ∀ name, "[" ++ label ++ "]" ++ " " ++ position ++ ": " ++ name =
        "[" ++ label ++ "]" ++ (" " ++ position ++ ": " ++ name) := by
      intro name
      simp only [String.append_assoc]
    rw [htext, htext]
    exact projectAnnotation_eq_iff hlabel _ _
  | wisher nickname nickname' =>
    have htext : ∀ name, "[wisher] " ++ name = "[" ++ "wisher" ++ "]" ++ (" " ++ name) := by
      intro name
      rw [← String.append_assoc]
      rfl
    rw [htext, htext]
    exact projectAnnotation_eq_iff (by decide) _ _

/-! ## §4 Evidence and states -/

/-- Corresponding annotations of two states point alike. -/
def NamesPointAlike (s t : ObservedState) : Prop :=
  List.Forall₂ (fun a b => List.Forall₂ PointAlike a.annotations b.annotations)
    s.visibleEvidence t.visibleEvidence

section Database

variable [Python.UnicodeDatabase]

/-- The effect of a transformation is its target, and is not projected. -/
theorem projectEffect_eq {a b : VisibleEvidence} (h : SameEvidence a b) :
    projectEffect a = projectEffect b := by
  by_cases htransform : a.kind = "transform"
  · have htransform' : b.kind = "transform" := h.kind ▸ htransform
    simp [projectEffect, htransform, htransform']
  · unfold projectEffect
    rw [h.effect htransform, h.kind]

/-- Evidence has the same projection exactly when its annotations point alike. -/
theorem projectVisibleEvidence_eq_iff {a b : VisibleEvidence} (h : SameEvidence a b) :
    projectVisibleEvidence a = projectVisibleEvidence b ↔
      List.Forall₂ PointAlike a.annotations b.annotations := by
  have hannotations : a.annotations.map projectAnnotation = b.annotations.map projectAnnotation ↔
      List.Forall₂ PointAlike a.annotations b.annotations :=
    map_eq_map_iff_forall₂ h.annotations fun _ _ hab => projectAnnotation_eq_iff_of_same hab
  have hempty : a.annotations.isEmpty = b.annotations.isEmpty := by
    rw [Bool.eq_iff_iff, List.isEmpty_iff_length_eq_zero, List.isEmpty_iff_length_eq_zero,
      h.annotations.length_eq]
  unfold projectVisibleEvidence
  rw [h.eventIndex, h.kind, h.sideId, h.slot, projectEffect_eq h, hempty, ← hannotations]
  by_cases hnone : b.annotations.isEmpty = true
  · have hb := List.isEmpty_iff.mp hnone
    have ha := List.isEmpty_iff.mp (hempty.trans hnone)
    rw [ha, hb]
    exact iff_of_true rfl rfl
  · rw [if_neg hnone, if_neg hnone, Json.obj.injEq, List.append_right_inj]
    simp

theorem projectObservedState_eq_iff {s t : ObservedState} (h : DifferPrivately s t)
    (hwinner : winnerProjection s = winnerProjection t) :
    projectObservedState s = projectObservedState t ↔ NamesPointAlike s t := by
  have hevidence : s.visibleEvidence.map projectVisibleEvidence =
      t.visibleEvidence.map projectVisibleEvidence ↔ NamesPointAlike s t :=
    map_eq_map_iff_forall₂ h.visibleEvidence fun _ _ hab => projectVisibleEvidence_eq_iff hab
  unfold projectObservedState
  rw [h.eventIndex, h.roomInitialized, h.generation, h.gameType, h.tier, h.rated, h.rules, h.turn,
    h.battleStarted, h.teamPreviewStarted, hwinner, h.tied, h.ourSide, projectSide_eq h.p1,
    projectSide_eq h.p2, h.weather, h.fieldConditions, h.ignoredDisplayCount, ← hevidence]
  simp

variable [Rfc8785]

/-- **Projection noninterference.** Let two states differ in private identifier text only, with the
winner on the same side. They have the same projection, and with it the same digest, exactly when no
pair of corresponding annotations differs in the position that it seems to name. -/
theorem projection_private_iff {s t : ObservedState} (h : DifferPrivately s t)
    (hwinner : winnerProjection s = winnerProjection t) :
    (projectObservedState s = projectObservedState t ∧
      observedStateDigest s = observedStateDigest t) ↔ NamesPointAlike s t := by
  rw [← projectObservedState_eq_iff h hwinner]
  constructor
  · rintro ⟨hdocument, -⟩
    exact hdocument
  · intro hdocument
    refine ⟨hdocument, ?_⟩
    unfold observedStateDigest
    rw [hdocument]

end Database

/-- A state that has seen one move, with an annotation. -/
def annotated ( annotation : String) : ObservedState :=
  { ObservedState.initial "ash" with
    visibleEvidence := [⟨1, "move", some "p1", some 1, some "Ditto", some "wish", [ annotation]⟩] }

theorem differPrivately_annotated {a b : String} (h : SameButNickname a b) :
    DifferPrivately (annotated a) (annotated b) where
  eventIndex := rfl
  roomInitialized := rfl
  generation := rfl
  gameType := rfl
  tier := rfl
  rated := rfl
  rules := rfl
  turn := rfl
  battleStarted := rfl
  teamPreviewStarted := rfl
  tied := rfl
  ourSide := rfl
  p1 := ⟨rfl, rfl, rfl, rfl, .nil, rfl⟩
  p2 := ⟨rfl, rfl, rfl, rfl, .nil, rfl⟩
  weather := rfl
  fieldConditions := rfl
  visibleEvidence := .cons ⟨rfl, rfl, rfl, rfl, fun _ => rfl, .cons h .nil⟩ .nil
  ignoredDisplayCount := rfl

/-- The name of a target does not show. -/
theorem projection_private_target :
    letI := Python.asciiDatabase
    projectObservedState (annotated "[of] p2a: Sol") =
      projectObservedState (annotated "[of] p2a: Luna") := by
  let _ := Python.asciiDatabase
  let _ : Rfc8785 := ⟨fun value => .ok (Python.encodeUtf8 value.dumps)⟩
  have hdiffer : DifferPrivately (annotated "[of] p2a: Sol") (annotated "[of] p2a: Luna") :=
    differPrivately_annotated (.target "of" "p2a" (by decide) "Sol" "Luna")
  have halike : NamesPointAlike (annotated "[of] p2a: Sol") (annotated "[of] p2a: Luna") :=
    .cons (.cons (by decide +kernel) .nil) .nil
  exact ((projection_private_iff hdiffer rfl).mpr halike).1

/-- The name of a wisher does, if it looks like a position. -/
theorem projection_not_private :
    letI := Python.asciiDatabase
    DifferPrivately (annotated "[wisher] p2a: Sol") (annotated "[wisher] Sol") ∧
      winnerProjection (annotated "[wisher] p2a: Sol") =
        winnerProjection (annotated "[wisher] Sol") ∧
      projectObservedState (annotated "[wisher] p2a: Sol") ≠
        projectObservedState (annotated "[wisher] Sol") := by
  let _ := Python.asciiDatabase
  have hdiffer : DifferPrivately (annotated "[wisher] p2a: Sol") (annotated "[wisher] Sol") :=
    differPrivately_annotated (.wisher "p2a: Sol" "Sol")
  refine ⟨hdiffer, rfl, fun heq => ?_⟩
  have halike := (projectObservedState_eq_iff hdiffer rfl).mp heq
  -- one move with one annotation on either side
  cases halike with
  | cons hannotations _ =>
    cases hannotations with
    | cons hpoint _ => exact absurd hpoint (by decide +kernel)

end BattleBelief
