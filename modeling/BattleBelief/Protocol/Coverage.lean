import BattleBelief.Protocol.Parser
import BattleBelief.Observation.Faults
import BattleBelief.Observation.ReducerSteps

/-!
# Coverage and Error Classification of the Battle Line Pipeline

Classifier, parser and reducer each have a table of what they handle. The tables agree: a line
that is labelled a battle event is parsed by some handler, and every event that a handler returns
has a branch in the reducer (`coverage`).

The errors of the pipeline do not all belong to the protocol. The parser checks the shape of HP
and boost fields and leaves their values to lookups inside the reducer, where nothing converts a
`ValueError`; `pipeline_classified_iff` says for which lines that matters.
-/

namespace BattleBelief

open Runs Outcomes

variable [Python.UnicodeDatabase]

/-! ## §1 What fields raise -/

def IsMalformed (err : PyException) : Prop := ∃ text, err = .malformedProtocolMessage text

def IsTimerOrForfeit (err : PyException) : Prop := ∃ text, err = .timerOrForfeit text

def IsUnknown (err : PyException) : Prop := ∃ wireType, err = .unknownProtocolEvent wireType

theorem requireArgs_raises (args : List String) (count : Nat) (wireType : String) :
    RaisesOnly IsMalformed (requireArgs args count wireType) :=
  .ite (fun _ => .error ⟨_, rfl⟩) fun _ => .ok trivial

theorem intField_raises (text message : String) :
    RaisesOnly IsMalformed (intField text message) := by
  unfold intField
  split
  · exact .ok
  · exact .error ⟨_, rfl⟩

theorem parsePosition_raises (ident position : String) :
    RaisesOnly IsMalformed (parsePosition ident position) := by
  unfold parsePosition
  split
  · refine .ite (fun _ => .error ⟨_, rfl⟩) fun _ => ?_
    exact .ite (fun _ => .ite (fun _ => .ok trivial) fun _ => .error ⟨_, rfl⟩)
      fun _ => .ok trivial
  · exact .error ⟨_, rfl⟩

theorem parsePokemonIdent_raises (ident : String) :
    RaisesOnly IsMalformed (parsePokemonIdent ident) := by
  unfold parsePokemonIdent
  split
  · exact .error ⟨_, rfl⟩
  · refine (parsePosition_raises _ _).bind fun position _ => ?_
    exact .ite (fun _ => .error ⟨_, rfl⟩) fun _ => .pure trivial

omit [Python.UnicodeDatabase] in
theorem requireSlot_raises (slot : Option Int) (message : String) :
    RaisesOnly IsMalformed (requireSlot slot message) := by
  cases slot with
  | some slot => exact .ok
  | none => exact .error ⟨_, rfl⟩

theorem parseActiveIdent_raises (ident wireType : String) :
    RaisesOnly IsMalformed (parseActiveIdent ident wireType) := by
  refine (parsePokemonIdent_raises ident).bind fun parts _ => ?_
  exact (requireSlot_raises _ _).bind fun _ _ => .pure trivial

theorem parseSideIdent_raises (ident : String) :
    RaisesOnly IsMalformed (parseSideIdent ident) := by
  unfold parseSideIdent
  generalize Python.strip _ = sideId
  exact .ite (fun _ => .ok trivial) fun _ => .error ⟨_, rfl⟩

theorem parseHpNumbers_raises (hpStr hpPart : String) :
    RaisesOnly IsMalformed (parseHpNumbers hpStr hpPart) := by
  unfold parseHpNumbers
  split
  · refine (intField_raises _ _).bind fun _ _ => ?_
    exact (intField_raises _ _).bind fun _ _ => .pure trivial
  · exact (intField_raises _ _).bind fun _ _ => .pure trivial

theorem parseHpToken_raises (hpStr : String) : RaisesOnly IsMalformed (parseHpToken hpStr) := by
  refine (parseHpNumbers_raises _ _).bind fun numbers _ => ?_
  exact .ite (fun _ => .error ⟨_, rfl⟩) fun _ => .pure trivial

theorem parseTarget_raises (fields : List String) :
    RaisesOnly IsMalformed (parseTarget fields) := by
  cases fields with
  | nil => exact .ok
  | cons field rest =>
    refine .ite (fun _ => ?_) fun _ => .ok trivial
    exact (parsePokemonIdent_raises field).bind fun _ _ => .pure trivial

/-! ## §2 What handlers return and raise -/

/-- An event of a known class with the given index. -/
def Carries (ei : Int) (event : BattleEvent) : Prop := event.eventIndex = ei ∧ event.Known

/-- A malformed message, or a wire type that is not in the handler's group. -/
def HandlerError (group : List String) (wireType : String) (err : PyException) : Prop :=
  IsMalformed err ∨ err = .unknownProtocolEvent wireType ∧ wireType ∉ group

/-- A handler returns an event with the index it is given, and refuses only other groups. -/
def Handles (group : List String) (wireType : String) (ei : Int)
    (x : Except PyException BattleEvent) : Prop :=
  Satisfies (Carries ei) (HandlerError group wireType) x

section Handlers

omit [Python.UnicodeDatabase]

variable {group : List String} {wireType : String} {ei : Int}

/-- A handler that reads a field and goes on. -/
theorem Handles.field {α : Type} {x : Except PyException α}
    {f : α → Except PyException BattleEvent} (hx : RaisesOnly IsMalformed x)
    (hf : ∀ a, Handles group wireType ei (f a)) : Handles group wireType ei (x >>= f) :=
  (hx.mono fun _ h => .inl h).bind fun a _ => hf a

theorem Handles.event {event : BattleEvent} (hindex : event.eventIndex = ei)
    (hknown : event.Known) : Handles group wireType ei (.ok event) :=
  .ok ⟨hindex, hknown⟩

theorem Handles.refuse (h : wireType ∉ group) :
    Handles group wireType ei (.error (.unknownProtocolEvent wireType)) :=
  .error (.inr ⟨rfl, h⟩)

theorem Handles.ite {c : Prop} [Decidable c] {x y : Except PyException BattleEvent}
    (hx : c → Handles group wireType ei x) (hy : ¬c → Handles group wireType ei y) :
    Handles group wireType ei (if c then x else y) :=
  Satisfies.ite hx hy

end Handlers

variable (wireType : String) (args : List String) (ei : Int)

theorem parseMetadata_handles :
    Handles metadataTypes wireType ei (parseMetadata wireType args ei) := by
  refine .ite (fun _ => ?_) fun hplayer => .ite (fun _ => ?_) fun hteamsize =>
    .ite (fun _ => ?_) fun hgametype => .ite (fun _ => ?_) fun hgen => .ite (fun _ => ?_)
      fun htier => .ite (fun _ => ?_) fun hrated => .ite (fun _ => ?_) fun hrule => .refuse ?_
  · exact .field (requireArgs_raises _ _ _) fun _ => .event rfl nofun
  · exact .field (requireArgs_raises _ _ _) fun _ =>
      .field (intField_raises _ _) fun _ => .event rfl nofun
  · exact .field (requireArgs_raises _ _ _) fun _ => .event rfl nofun
  · exact .field (requireArgs_raises _ _ _) fun _ =>
      .field (intField_raises _ _) fun _ => .event rfl nofun
  · exact .field (requireArgs_raises _ _ _) fun _ => .event rfl nofun
  · exact .event rfl nofun
  · exact .field (requireArgs_raises _ _ _) fun _ => .event rfl nofun
  · simp [metadataTypes, *]

theorem parsePreview_handles :
    Handles previewTypes wireType ei (parsePreview wireType args ei) := by
  refine .ite (fun _ => ?_) fun hclearpoke => .ite (fun _ => ?_) fun hpoke =>
    .ite (fun _ => ?_) fun hteampreview => .refuse ?_
  · exact .event rfl nofun
  · exact .field (requireArgs_raises _ _ _) fun _ => .event rfl nofun
  · exact .event rfl nofun
  · simp [previewTypes, *]

theorem parseProgress_handles :
    Handles progressTypes wireType ei (parseProgress wireType args ei) := by
  refine .ite (fun _ => ?_) fun hstart => .ite (fun _ => ?_) fun hturn =>
    .ite (fun _ => ?_) fun hwin => .ite (fun _ => ?_) fun htie => .refuse ?_
  · exact .event rfl nofun
  · exact .field (requireArgs_raises _ _ _) fun _ =>
      .field (intField_raises _ _) fun _ => .event rfl nofun
  · exact .field (requireArgs_raises _ _ _) fun _ => .event rfl nofun
  · exact .event rfl nofun
  · simp [progressTypes, *]

theorem parsePokemonIdentity_handles :
    Handles pokemonIdentityTypes wireType ei (parsePokemonIdentity wireType args ei) := by
  refine .ite (fun _ => ?_) fun hswitch => .ite (fun _ => ?_) fun hfaint =>
    .ite (fun _ => ?_) fun hcant => .ite (fun _ => ?_) fun hdetails => .ite (fun _ => ?_)
      fun hreplace => .ite (fun _ => ?_) fun hmove => .refuse ?_
  · exact .field (requireArgs_raises _ _ _) fun _ =>
      .field (parseActiveIdent_raises _ _) fun _ => .field (parseHpToken_raises _) fun _ =>
        .ite (fun _ => .event rfl nofun) fun _ => .event rfl nofun
  · exact .field (requireArgs_raises _ _ _) fun _ =>
      .field (parseActiveIdent_raises _ _) fun _ => .event rfl nofun
  · exact .field (requireArgs_raises _ _ _) fun _ =>
      .field (parseActiveIdent_raises _ _) fun _ => .event rfl nofun
  · exact .field (requireArgs_raises _ _ _) fun _ =>
      .field (parseActiveIdent_raises _ _) fun _ => .field (parseHpToken_raises _) fun _ =>
        .event rfl nofun
  · exact .field (requireArgs_raises _ _ _) fun _ =>
      .field (parseActiveIdent_raises _ _) fun _ => .field (parseHpToken_raises _) fun _ =>
        .event rfl nofun
  · exact .field (requireArgs_raises _ _ _) fun _ =>
      .field (parseActiveIdent_raises _ _) fun _ => .field (parseTarget_raises _) fun _ =>
        .event rfl nofun
  · simp only [List.mem_cons, List.not_mem_nil, or_false] at hswitch
    simp [pokemonIdentityTypes, *]

theorem parseHealth_handles : Handles healthTypes wireType ei (parseHealth wireType args ei) :=
  .field (requireArgs_raises _ _ _) fun _ => .field (parsePokemonIdent_raises _) fun _ =>
    .field (parseHpToken_raises _) fun _ => .event rfl nofun

theorem parseStatus_handles : Handles statusTypes wireType ei (parseStatus wireType args ei) := by
  refine .ite (fun _ => ?_) fun _ => ?_
  · exact .field (requireArgs_raises _ _ _) fun _ =>
      .field (parsePokemonIdent_raises _) fun _ => .event rfl nofun
  · exact .field (requireArgs_raises _ _ _) fun _ =>
      .field (parseActiveIdent_raises _ _) fun _ => .event rfl nofun

theorem parseBoost_handles : Handles boostTypes wireType ei (parseBoost wireType args ei) := by
  refine .ite (fun _ => ?_) fun hchange => .ite (fun _ => ?_) fun hswap =>
    .ite (fun _ => ?_) fun hclearAll => .ite (fun _ => ?_) fun hclear => .ite (fun _ => ?_)
      fun hinvert => .refuse ?_
  · exact .field (requireArgs_raises _ _ _) fun _ =>
      .field (parseActiveIdent_raises _ _) fun _ => .field (intField_raises _ _) fun _ =>
        .event rfl nofun
  · exact .field (requireArgs_raises _ _ _) fun _ =>
      .field (parsePokemonIdent_raises _) fun _ => .field (parsePokemonIdent_raises _) fun _ =>
        .field (requireSlot_raises _ _) fun _ => .field (requireSlot_raises _ _) fun _ =>
          .ite (fun _ => .event rfl nofun) fun _ => .event rfl nofun
  · exact .event rfl nofun
  · exact .field (requireArgs_raises _ _ _) fun _ =>
      .field (parseActiveIdent_raises _ _) fun _ => .event rfl nofun
  · exact .field (requireArgs_raises _ _ _) fun _ =>
      .field (parseActiveIdent_raises _ _) fun _ => .event rfl nofun
  · simp only [List.mem_cons, List.not_mem_nil, or_false, not_or] at hchange hswap hclear
    simp [boostTypes, *]

omit [Python.UnicodeDatabase] in
theorem eventIndex_weatherChange (weatherName : String) (rest : List String) :
    (weatherChange weatherName rest ei).eventIndex = ei := by
  unfold weatherChange
  split_ifs <;> rfl

theorem parseField_handles : Handles fieldTypes wireType ei (parseField wireType args ei) := by
  refine .ite (fun _ => ?_) fun hweather => .ite (fun _ => ?_) fun hfield =>
    .ite (fun _ => ?_) fun hside => .ite (fun _ => ?_) fun hswap => .refuse ?_
  · exact .field (requireArgs_raises _ _ _) fun _ =>
      .event (eventIndex_weatherChange _ _ _) nofun
  · exact .field (requireArgs_raises _ _ _) fun _ => .event rfl nofun
  · exact .field (requireArgs_raises _ _ _) fun _ =>
      .field (parseSideIdent_raises _) fun _ => .event rfl nofun
  · exact .event rfl nofun
  · simp only [List.mem_cons, List.not_mem_nil, or_false, not_or] at hfield hside
    simp [fieldTypes, *]

theorem parseVolatile_handles :
    Handles volatileTypes wireType ei (parseVolatile wireType args ei) := by
  refine .ite (fun _ => ?_) fun _ => ?_
  · exact .field (requireArgs_raises _ _ _) fun _ =>
      .field (parseActiveIdent_raises _ _) fun _ => .event rfl nofun
  · exact .field (requireArgs_raises _ _ _) fun _ =>
      .field (parseActiveIdent_raises _ _) fun _ => .event rfl nofun

theorem parseItemAbility_handles :
    Handles itemAbilityTypes wireType ei (parseItemAbility wireType args ei) :=
  .field (requireArgs_raises _ _ _) fun _ => .field (parseActiveIdent_raises _ _) fun _ =>
    .ite (fun _ => .event rfl nofun) fun _ => .event rfl nofun

theorem parseFormTera_handles :
    Handles formTeraTypes wireType ei (parseFormTera wireType args ei) := by
  refine .ite (fun _ => ?_) fun htransform => .ite (fun _ => ?_) fun hform =>
    .ite (fun _ => ?_) fun htera => .refuse ?_
  · exact .field (requireArgs_raises _ _ _) fun _ =>
      .field (parsePokemonIdent_raises _) fun _ => .field (parsePokemonIdent_raises _) fun _ =>
        .field (requireSlot_raises _ _) fun _ => .field (requireSlot_raises _ _) fun _ =>
          .event rfl nofun
  · exact .field (requireArgs_raises _ _ _) fun _ =>
      .field (parseActiveIdent_raises _ _) fun _ => .field (parseHpToken_raises _) fun _ =>
        .event rfl nofun
  · exact .field (requireArgs_raises _ _ _) fun _ =>
      .field (parseActiveIdent_raises _ _) fun _ => .event rfl nofun
  · simp [formTeraTypes, *]

theorem parseEvidence_handles :
    Handles evidenceTypes wireType ei (parseEvidence wireType args ei) :=
  .field (parseTarget_raises _) fun _ => .event rfl nofun

/-! ## §3 The dispatch -/

/-- What the parser raises on a line that is labelled a battle event. -/
def LineError (err : PyException) : Prop := IsMalformed err ∨ IsTimerOrForfeit err

omit [Python.UnicodeDatabase] in
/-- On a wire type of its group a handler raises malformed messages only. -/
theorem Handles.of_mem {group : List String} {x : Except PyException BattleEvent}
    (h : Handles group wireType ei x) (hmem : wireType ∈ group) :
    Satisfies (Carries ei) LineError x := by
  refine Satisfies.mono h (fun _ hcarries => hcarries) fun err herr => ?_
  rcases herr with hmalformed | ⟨-, hnot⟩
  · exact .inl hmalformed
  · exact absurd hmem hnot

theorem parseInit_outcome (roomId : Option String) :
    Satisfies (Carries ei) LineError (parseInit args roomId ei) := by
  refine .ite (fun _ => .error (.inl ⟨_, rfl⟩)) fun _ => ?_
  cases roomId with
  | none => exact .error (.inl ⟨_, rfl⟩)
  | some roomId => exact .ok ⟨rfl, nofun⟩

omit [Python.UnicodeDatabase] in
/-- The lines that only display something refuse the wire types of no group. -/
theorem parseDisplay_outcome :
    Satisfies (Carries ei) (fun err => LineError err ∨
      err = .unknownProtocolEvent wireType ∧ wireType ∉ ignoredDisplayTypes)
      (parseDisplay wireType args ei) := by
  refine .ite (fun _ => .error (.inl (.inr ⟨_, rfl⟩))) fun _ => ?_
  exact .ite (fun _ => .ok ⟨rfl, nofun⟩) fun hnot => .error (.inr ⟨rfl, hnot⟩)

omit [Python.UnicodeDatabase] in
/-- A battle event's wire type belongs to one of the parser's groups. -/
theorem group_of_battleEventType : ∀ wireType ∈ battleEventTypes,
    wireType = "init" ∨ wireType ∈ metadataTypes ∨ wireType ∈ previewTypes ∨
      wireType ∈ progressTypes ∨ wireType ∈ pokemonIdentityTypes ∨ wireType ∈ healthTypes ∨
      wireType ∈ statusTypes ∨ wireType ∈ boostTypes ∨ wireType ∈ fieldTypes ∨
      wireType ∈ volatileTypes ∨ wireType ∈ itemAbilityTypes ∨ wireType ∈ formTeraTypes ∨
      wireType ∈ evidenceTypes ∨ wireType ∈ ignoredDisplayTypes := by
  decide

/-- The dispatch refuses a line as unknown only if its wire type is in no group. -/
theorem parseBattleFields_outcome (payload : String) (roomId : Option String) :
    Satisfies (Carries ei) (fun err => LineError err ∨
      err = .unknownProtocolEvent wireType ∧ wireType ∉ battleEventTypes ∧ payload ≠ "|")
      (parseBattleFields payload wireType args ei roomId) := by
  have hline : ∀ {x : Except PyException BattleEvent}, Satisfies (Carries ei) LineError x →
      Satisfies (Carries ei) (fun err => LineError err ∨
        err = .unknownProtocolEvent wireType ∧ wireType ∉ battleEventTypes ∧ payload ≠ "|") x :=
    fun h => h.mono (fun _ hcarries => hcarries) fun _ herr => .inl herr
  refine .ite (fun _ => hline (parseInit_outcome args ei roomId)) fun hinit => ?_
  refine .ite (fun h => hline ((parseMetadata_handles _ _ _).of_mem _ _ h)) fun hmetadata => ?_
  refine .ite (fun h => hline ((parsePreview_handles _ _ _).of_mem _ _ h)) fun hpreview => ?_
  refine .ite (fun h => hline ((parseProgress_handles _ _ _).of_mem _ _ h)) fun hprogress => ?_
  refine .ite (fun h => hline ((parsePokemonIdentity_handles _ _ _).of_mem _ _ h))
    fun hidentity => ?_
  refine .ite (fun h => hline ((parseHealth_handles _ _ _).of_mem _ _ h)) fun hhealth => ?_
  refine .ite (fun h => hline ((parseStatus_handles _ _ _).of_mem _ _ h)) fun hstatus => ?_
  refine .ite (fun h => hline ((parseBoost_handles _ _ _).of_mem _ _ h)) fun hboost => ?_
  refine .ite (fun h => hline ((parseField_handles _ _ _).of_mem _ _ h)) fun hfield => ?_
  refine .ite (fun h => hline ((parseVolatile_handles _ _ _).of_mem _ _ h)) fun hvolatile => ?_
  refine .ite (fun h => hline ((parseItemAbility_handles _ _ _).of_mem _ _ h)) fun hitem => ?_
  refine .ite (fun h => hline ((parseFormTera_handles _ _ _).of_mem _ _ h)) fun hform => ?_
  refine .ite (fun h => hline ((parseEvidence_handles _ _ _).of_mem _ _ h)) fun hevidence => ?_
  refine .ite (fun _ => .ok ⟨rfl, nofun⟩) fun hspacer => ?_
  refine (parseDisplay_outcome wireType args ei).mono (fun _ hcarries => hcarries) fun err herr => ?_
  rcases herr with herr | ⟨rfl, hignored⟩
  · exact .inl herr
  · refine .inr ⟨rfl, fun hmem => ?_, hspacer⟩
    have hgroup := group_of_battleEventType wireType hmem
    simp only [hinit, hmetadata, hpreview, hprogress, hidentity, hhealth, hstatus, hboost, hfield,
      hvolatile, hitem, hform, hevidence, hignored, or_false] at hgroup

/-- A line that the parser refuses as unknown is not labelled a battle event. -/
theorem parseBattleLine_outcome (payload : String) (roomId : Option String) :
    Satisfies (Carries ei) (fun err => LineError err ∨
      IsUnknown err ∧ classifyRoomPayload payload ≠ .battleEvent)
      (parseBattleLine payload ei roomId) := by
  have hfields := parseBattleFields_outcome (splitPayload payload).1 (splitPayload payload).2 ei
    payload roomId
  unfold parseBattleLine
  split
  · next text htext =>
    rcases hfields.of_error htext with (⟨_, h⟩ | ⟨_, h⟩) | ⟨h, -⟩ <;> cases h
  · refine hfields.mono (fun _ hcarries => hcarries) fun err herr => ?_
    rcases herr with herr | ⟨rfl, hnot, hspacer⟩
    · exact .inl herr
    · refine .inr ⟨⟨_, rfl⟩, fun hkind => ?_⟩
      rcases wireType_of_battleEvent hkind with rfl | hmem
      · exact hspacer rfl
      · exact hnot hmem

/-- A timer line is parsed into evidence. -/
theorem parseInactiveLine_outcome (payload : String) :
    Satisfies (Carries ei) (fun err => LineError err ∨ IsUnknown err)
      (parseInactiveLine payload ei) := by
  refine .ite (fun _ => .ok ⟨rfl, nofun⟩) fun _ => .ite (fun _ => ?_) fun _ => ?_
  · exact .ite (fun _ => .error (.inl (.inr ⟨_, rfl⟩))) fun _ => .ok ⟨rfl, nofun⟩
  · exact .error (.inr ⟨_, rfl⟩)

/-! ## §4 Coverage -/

omit [Python.UnicodeDatabase] in
/-- The reducer never refuses a known event for its class. -/
theorem reduce_ne_unhandled {event : BattleEvent} (hknown : event.Known) (s : ObservedState)
    (className : String) :
    reduce s event ≠ .error (.reducerInvariantError (.unhandledEvent className)) := by
  intro h
  unfold reduce at h
  split_ifs at h with hindex
  · cases h
  rcases (reduceEvent_raises _ hknown).of_error h with ⟨fault, hfault, hne⟩ | ⟨⟨text, htext⟩, -⟩
  · cases hfault
    exact hne className rfl
  · cases htext

omit [Python.UnicodeDatabase] in
theorem eventIndex_of_reduce {s s' : ObservedState} {event : BattleEvent}
    (h : reduce s event = .ok s') : s'.eventIndex = event.eventIndex :=
  (reduceEvent_keepsFrame event s' (reduce_eq_ok.mp h).2).1

/-- The events that the two line parsers can return for the index `ei`. -/
def Parsed (ei : Int) (event : BattleEvent) : Prop :=
  (∃ payload roomId, parseBattleLine payload ei roomId = .ok event) ∨
    ∃ payload, parseInactiveLine payload ei = .ok event

theorem Parsed.carries {ei : Int} {event : BattleEvent} (h : Parsed ei event) :
    Carries ei event := by
  rcases h with ⟨payload, roomId, h⟩ | ⟨payload, h⟩
  · exact (parseBattleLine_outcome ei payload roomId).of_ok h
  · exact (parseInactiveLine_outcome ei payload).of_ok h

/-- **Coverage.** A line labelled a battle event is parsed into an event with the given index, or
is refused as malformed or as a forfeit, and never as unknown; and every event that a parser
returns is handled by the reducer, which leaves the event's index in the state. -/
theorem coverage (payload : String) (ei : Int) (roomId : String)
    (hkind : classifyRoomPayload payload = .battleEvent) :
    Satisfies (fun event => event.eventIndex = ei) LineError
        (parseBattleLine payload ei (some roomId)) ∧
      ∀ ei event, Parsed ei event → ∀ s : ObservedState,
        (∀ className,
          reduce s event ≠ .error (.reducerInvariantError (.unhandledEvent className))) ∧
        ∀ s', reduce s event = .ok s' → s'.eventIndex = ei := by
  refine ⟨?_, fun ei event hparsed s => ?_⟩
  · refine (parseBattleLine_outcome ei payload (some roomId)).mono (fun _ h => h.1) fun err herr => ?_
    rcases herr with herr | ⟨-, hnot⟩
    · exact herr
    · exact absurd hkind hnot
  · obtain ⟨hindex, hknown⟩ := hparsed.carries
    exact ⟨reduce_ne_unhandled hknown s, fun s' h => hindex ▸ eventIndex_of_reduce h⟩

omit [Python.UnicodeDatabase] in
/-- A line in a tag of the last group that the dispatch tries. -/
theorem coverage_message :
    letI := Python.asciiDatabase
    classifyRoomPayload "|-message|Ash forfeited." = .battleEvent ∧
      Satisfies (fun event => event.eventIndex = 7) LineError
        (parseBattleLine "|-message|Ash forfeited." 7 (some "battle-1")) :=
  let _ := Python.asciiDatabase
  ⟨by decide, (coverage "|-message|Ash forfeited." 7 "battle-1" (by decide)).1⟩

example : classifyRoomPayload "|-boost|p2a: Garchomp|luck|1" = .battleEvent := by decide +kernel

/-! ## §5 Error classification -/

/-- The errors that a line of the battle may end in: those of the protocol, and the reducer's. -/
def Classified (err : PyException) : Prop :=
  IsMalformed err ∨ IsUnknown err ∨ IsTimerOrForfeit err ∨
    ∃ fault, err = .reducerInvariantError fault

/-- The pipeline for one battle event line: parse it and reduce the event. -/
def reduceLine (s : ObservedState) (payload : String) (ei : Int) (roomId : Option String) :
    Except PyException ObservedState := do
  let event ← parseBattleLine payload ei roomId
  reduce s event

/-- **Error classification.** The pipeline ends in a new state or in a classified error exactly
when the line does not parse to an event whose HP numbers or boost stats are outside the domain
of the lookups that the reducer makes for it. -/
theorem pipeline_classified_iff (s : ObservedState) (payload : String) (ei : Int)
    (roomId : Option String) :
    RaisesOnly Classified (reduceLine s payload ei roomId) ↔
      ∀ event, parseBattleLine payload ei roomId = .ok event → s.eventIndex < ei →
        ¬OutsideDomain s event := by
  have hline := parseBattleLine_outcome ei payload roomId
  constructor
  · intro h event hparse hlt houtside
    have hreach : ObservedState.eventIndex s < event.eventIndex := by
      rwa [(hline.of_ok hparse).1]
    have hdomain : OutsideDomain { s with eventIndex := event.eventIndex } event := by
      cases event <;> exact houtside
    obtain ⟨text, htext⟩ := reduceEvent_valueError hdomain
    have hresult : reduceLine s payload ei roomId = .error (.valueError text) := by
      simp only [reduceLine, hparse, bind, Except.bind, reduce]
      rw [if_neg (not_le.mpr hreach), htext]
    rcases h.of_error hresult with ⟨_, h⟩ | ⟨_, h⟩ | ⟨_, h⟩ | ⟨_, h⟩ <;> cases h
  · intro h
    have hparse : RaisesOnly Classified (parseBattleLine payload ei roomId) := by
      refine hline.mono (fun _ _ => trivial) fun err herr => ?_
      rcases herr with (hmalformed | htimer) | ⟨hunknown, -⟩
      · exact .inl hmalformed
      · exact .inr (.inr (.inl htimer))
      · exact .inr (.inl hunknown)
    refine hparse.bind fun event hevent => ?_
    obtain ⟨hindex, hknown⟩ := hline.of_ok hevent
    refine .ite (fun _ => .error (.inr (.inr (.inr ⟨_, rfl⟩)))) fun hlt => ?_
    refine (reduceEvent_raises _ hknown).mono fun err herr => ?_
    rcases herr with ⟨fault, rfl, -⟩ | ⟨-, houtside⟩
    · exact .inr (.inr (.inr ⟨fault, rfl⟩))
    · have hdomain : OutsideDomain s event := by
        cases event <;> exact houtside
      exact absurd hdomain (h event hevent (hindex ▸ not_le.mp hlt))

/-- The pipeline as the session uses it: every line gets the next index. -/
def feedLine (roomId : String) (s : ObservedState) (payload : String) :
    Except PyException ObservedState :=
  reduceLine s payload (s.eventIndex + 1) (some roomId)

/-- A battle in which a pokemon of the opponent has been sent out. -/
def sentOut : List String := ["|init|battle", "|switch|p2a: Garchomp|Garchomp, M|100/100"]

omit [Python.UnicodeDatabase] in
/-- The pipeline lets a bare `ValueError` through: for an HP field without a maximum, and for a
boost of a stat that does not exist. -/
theorem pipeline_not_classified :
    letI := Python.asciiDatabase
    ∃ s, RunsTo (feedLine "battle-1") (ObservedState.initial "ash") sentOut s ∧
      classifyRoomPayload "|-damage|p2a: Garchomp|50" = .battleEvent ∧
      feedLine "battle-1" s "|-damage|p2a: Garchomp|50" =
        .error (.valueError "invalid HP observation") ∧
      ¬RaisesOnly Classified (feedLine "battle-1" s "|-damage|p2a: Garchomp|50") ∧
      classifyRoomPayload "|-boost|p2a: Garchomp|luck|1" = .battleEvent ∧
      feedLine "battle-1" s "|-boost|p2a: Garchomp|luck|1" =
        .error (.valueError "tuple.index(x): x not in tuple") := by
  let _ := Python.asciiDatabase
  have hrun : ∃ s, RunsTo (feedLine "battle-1") (ObservedState.initial "ash") sentOut s :=
    ⟨_, rfl⟩
  obtain ⟨s, hs⟩ := hrun
  have hdamage : feedLine "battle-1" s "|-damage|p2a: Garchomp|50" =
      .error (.valueError "invalid HP observation") :=
    step_error_of_runs hs (by decide +kernel)
  have hboost : feedLine "battle-1" s "|-boost|p2a: Garchomp|luck|1" =
      .error (.valueError "tuple.index(x): x not in tuple") :=
    step_error_of_runs hs (by decide +kernel)
  refine ⟨s, hs, by decide, hdamage, fun h => ?_, by decide, hboost⟩
  rcases h.of_error hdamage with ⟨_, h⟩ | ⟨_, h⟩ | ⟨_, h⟩ | ⟨_, h⟩ <;> cases h

end BattleBelief
