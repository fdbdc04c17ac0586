import BattleBelief.Protocol.Classifier
import BattleBelief.Domain.ObservedState

/-!
# The Battle Line Parser

`parseBattleLine` turns one payload that the classifier labelled a battle event into a canonical
event. The wire types come in groups, each with its own handler.

A field read by `arg` is there once `requireArgs` has checked the number of fields.
-/

namespace BattleBelief

variable [Python.UnicodeDatabase]

/-! ## §1 Fields -/

/-- `_to_id`: Showdown's `toID`. -/
def toId (text : String) : String :=
  String.ofList ((Python.lower text).toList.filter fun c => Python.isAscii c && c.isAlphanum)

/-- `args[idx]`. -/
def arg (args : List String) (idx : Nat) : String := args.getD idx ""

/-- `_require`. -/
def requireArgs (args : List String) (count : Nat) (wireType : String) :
    Except PyException Unit :=
  if args.length < count then
    .error (.malformedProtocolMessage
      s!"{wireType}: expected at least {count} fields, got {Python.reprList args}")
  else .ok ()

/-- `int(text)`, with `message` for the case that it raises. -/
def intField (text message : String) : Except PyException Int :=
  match Python.int text with
  | some n => .ok n
  | none => .error (.malformedProtocolMessage message)

/-- `_looks_like_pokemon_ident`. -/
def looksLikePokemonIdent (text : String) : Bool :=
  match text.toList with
  | 'p' :: c :: rest =>
      Python.isDigitChar c &&
        (Python.contains text ": " ||
          (!Python.isDigit (String.ofList rest) && Python.contains text ":"))
  | _ => false

def invalidIdent (ident : String) : PyException :=
  .malformedProtocolMessage s!"invalid pokemon identifier: {Python.repr ident}"

/-- The side and the slot that the position part of an identifier names. -/
def parsePosition (ident position : String) : Except PyException (String × Option Int) :=
  match position.toList with
  | 'p' :: c :: rest =>
      if !Python.isDigitChar c then .error (invalidIdent ident)
      else
        let last := (c :: rest).getLast (List.cons_ne_nil c rest)
        if Python.isAlphaChar last then
          if last = 'a' then .ok (String.ofList ('p' :: (c :: rest).dropLast), some 1)
          else
            .error (.malformedProtocolMessage
              s!"unsupported (non-singles) position: {Python.repr ident}")
        else .ok (position, none)
  | _ => .error (invalidIdent ident)

/-- `_parse_pokemon_ident`: side, slot and nickname. -/
def parsePokemonIdent (ident : String) : Except PyException (String × Option Int × String) :=
  match Python.splitOnce ident ": " with
  | none => .error (invalidIdent ident)
  | some (position, nickname) => do
      let (sideId, slot) ← parsePosition ident position
      if nickname = "" then .error (invalidIdent ident) else pure (sideId, slot, nickname)

/-- A slot that has to be there. -/
def requireSlot (slot : Option Int) (message : String) : Except PyException Int :=
  match slot with
  | some slot => .ok slot
  | none => .error (.malformedProtocolMessage message)

/-- The identifier of an active pokemon: side, slot and nickname. -/
def parseActiveIdent (ident wireType : String) : Except PyException (String × Int × String) := do
  let (sideId, slot, nickname) ← parsePokemonIdent ident
  let slot ← requireSlot slot s!"{wireType}: requires an active-slot identifier"
  pure (sideId, slot, nickname)

/-- `_parse_side_ident`. -/
def parseSideIdent (ident : String) : Except PyException String :=
  let sideId := Python.strip (((Python.splitOnce ident ":").map Prod.fst).getD ident)
  if sideId ∈ ["p1", "p2"] then .ok sideId
  else
    .error (.malformedProtocolMessage s!"invalid side identifier: {Python.repr ident}")

/-- The two numbers of an HP field; a field without a slash has no maximum. -/
def parseHpNumbers (hpStr hpPart : String) : Except PyException (Int × Int) :=
  match Python.splitOnce hpPart "/" with
  | some (currentStr, maximumStr) => do
      let current ← intField currentStr s!"invalid hp numbers: {Python.repr hpStr}"
      let maximum ← intField maximumStr s!"invalid hp numbers: {Python.repr hpStr}"
      pure (current, maximum)
  | none => do
      let current ← intField hpPart s!"invalid hp value: {Python.repr hpStr}"
      pure (current, 0)

/-- `_parse_hp_token`. -/
def parseHpToken (hpStr : String) : Except PyException HpToken := do
  let segments := Python.splitOnce hpStr " "
  let hpPart := (segments.map Prod.fst).getD hpStr
  let trailer := segments.map Prod.snd
  let (current, maximum) ← parseHpNumbers hpStr hpPart
  if current < 0 ∨ maximum < 0 then
    .error (.malformedProtocolMessage s!"invalid hp value: {Python.repr hpStr}")
  else
    pure
      { current := current
        maximum := maximum
        status := if trailer = some "fnt" then none else trailer
        fainted := trailer = some "fnt" }

def boostStatAliases : List (String × String) := [("accuracy", "acc"), ("evasion", "eva")]

/-- `_normalize_boost_stat`. -/
def normalizeBoostStat (stat : String) : String := (boostStatAliases.lookup stat).getD stat

/-- `_sorted_annotations`. -/
def sortedAnnotations (parts : List String) : List String :=
  Python.sorted (parts.filter fun part => Python.startsWith part "[")

/-! ## §2 Handlers by group -/

def parseMetadata (wireType : String) (args : List String) (ei : Int) :
    Except PyException BattleEvent :=
  if wireType = "player" then do
    requireArgs args 2 wireType
    let username := arg args 1
    pure (.playerDeclared
      { eventIndex := ei, sideId := arg args 0, userId := toId username, displayName := username })
  else if wireType = "teamsize" then do
    requireArgs args 2 wireType
    let size ← intField (arg args 1) s!"teamsize: invalid size {Python.repr (arg args 1)}"
    pure (.teamSizeDeclared { eventIndex := ei, sideId := arg args 0, size := size })
  else if wireType = "gametype" then do
    requireArgs args 1 wireType
    pure (.gameTypeDeclared { eventIndex := ei, gameType := arg args 0 })
  else if wireType = "gen" then do
    requireArgs args 1 wireType
    let generation ← intField (arg args 0) s!"gen: invalid generation {Python.repr (arg args 0)}"
    pure (.generationDeclared { eventIndex := ei, generation := generation })
  else if wireType = "tier" then do
    requireArgs args 1 wireType
    pure (.tierDeclared { eventIndex := ei, tier := Python.join "|" args })
  else if wireType = "rated" then
    .ok (.battleRated { eventIndex := ei, rated := true })
  else if wireType = "rule" then do
    requireArgs args 1 wireType
    pure (.ruleDeclared { eventIndex := ei, rule := Python.join "|" args })
  else .error (.unknownProtocolEvent wireType)

def parsePreview (wireType : String) (args : List String) (ei : Int) :
    Except PyException BattleEvent :=
  if wireType = "clearpoke" then .ok (.previewCleared { eventIndex := ei })
  else if wireType = "poke" then do
    requireArgs args 2 wireType
    pure (.previewPokemonDeclared
      { eventIndex := ei, sideId := arg args 0, details := arg args 1
        hasItem := args[2]? = some "item" })
  else if wireType = "teampreview" then .ok (.teamPreviewStarted { eventIndex := ei })
  else .error (.unknownProtocolEvent wireType)

def parseProgress (wireType : String) (args : List String) (ei : Int) :
    Except PyException BattleEvent :=
  if wireType = "start" then .ok (.battleStarted { eventIndex := ei })
  else if wireType = "turn" then do
    requireArgs args 1 wireType
    let turn ← intField (arg args 0) s!"turn: invalid turn {Python.repr (arg args 0)}"
    pure (.turnStarted { eventIndex := ei, turn := turn })
  else if wireType = "win" then do
    requireArgs args 1 wireType
    pure (.battleWon { eventIndex := ei, winner := arg args 0 })
  else if wireType = "tie" then .ok (.battleTied { eventIndex := ei })
  else .error (.unknownProtocolEvent wireType)

/-- The pokemon that the fields begin with, if they do, and the fields after it. -/
def parseTarget : List String →
    Except PyException (Option String × Option Int × Option String × List String)
  | [] => .ok (none, none, none, [])
  | field :: rest =>
      if looksLikePokemonIdent field then do
        let (sideId, slot, nickname) ← parsePokemonIdent field
        pure (some sideId, slot, some nickname, rest)
      else .ok (none, none, none, field :: rest)

def parsePokemonIdentity (wireType : String) (args : List String) (ei : Int) :
    Except PyException BattleEvent :=
  if wireType ∈ ["switch", "drag"] then do
    requireArgs args 3 wireType
    let (sideId, slot, nickname) ← parseActiveIdent (arg args 0) wireType
    let hp ← parseHpToken (arg args 2)
    if wireType = "switch" then
      pure (.pokemonSwitched
        { eventIndex := ei, sideId := sideId, slot := slot, nickname := nickname
          details := arg args 1, hp := hp })
    else
      pure (.pokemonDragged
        { eventIndex := ei, sideId := sideId, slot := slot, nickname := nickname
          details := arg args 1, hp := hp })
  else if wireType = "faint" then do
    requireArgs args 1 wireType
    let (sideId, slot, nickname) ← parseActiveIdent (arg args 0) "faint"
    pure (.pokemonFainted
      { eventIndex := ei, sideId := sideId, slot := slot, nickname := nickname })
  else if wireType = "cant" then do
    requireArgs args 2 wireType
    let (sideId, slot, nickname) ← parseActiveIdent (arg args 0) "cant"
    pure (.movePrevented
      { eventIndex := ei, sideId := sideId, slot := slot, nickname := nickname
        reason := arg args 1
        moveId := if arg args 2 = "" then none else some (toId (arg args 2)) })
  else if wireType = "detailschange" then do
    requireArgs args 3 wireType
    let (sideId, slot, nickname) ← parseActiveIdent (arg args 0) "detailschange"
    let hp ← parseHpToken (arg args 2)
    pure (.formChanged
      { eventIndex := ei, sideId := sideId, slot := slot, nickname := nickname
        kind := .persistentDetails, value := arg args 1, hp := hp })
  else if wireType = "replace" then do
    requireArgs args 3 wireType
    let (sideId, slot, nickname) ← parseActiveIdent (arg args 0) "replace"
    let hp ← parseHpToken (arg args 2)
    pure (.identityChanged
      { eventIndex := ei, sideId := sideId, slot := slot, nickname := nickname
        details := arg args 1, hp := hp })
  else if wireType = "move" then do
    requireArgs args 2 wireType
    let (sideId, slot, nickname) ← parseActiveIdent (arg args 0) "move"
    let (targetSideId, targetSlot, targetNickname, rest) ← parseTarget (args.drop 2)
    pure (.moveUsed
      { eventIndex := ei, sideId := sideId, slot := slot, nickname := nickname
        moveId := toId (arg args 1)
        targetSideId := targetSideId, targetSlot := targetSlot, targetNickname := targetNickname
        annotations := sortedAnnotations rest })
  else .error (.unknownProtocolEvent wireType)

def parseHealth (wireType : String) (args : List String) (ei : Int) :
    Except PyException BattleEvent := do
  requireArgs args 2 wireType
  let (sideId, slot, nickname) ← parsePokemonIdent (arg args 0)
  let hp ← parseHpToken (arg args 1)
  pure (.healthChanged
    { eventIndex := ei, sideId := sideId, slot := slot, nickname := nickname, hp := hp
      annotations := sortedAnnotations (args.drop 2) })

def parseStatus (wireType : String) (args : List String) (ei : Int) :
    Except PyException BattleEvent :=
  if wireType = "-cureteam" then do
    requireArgs args 1 wireType
    let (sideId, _, _) ← parsePokemonIdent (arg args 0)
    pure (.teamStatusCured { eventIndex := ei, sideId := sideId })
  else do
    requireArgs args 1 wireType
    let (sideId, slot, nickname) ← parseActiveIdent (arg args 0) wireType
    pure (.statusChanged
      { eventIndex := ei, sideId := sideId, slot := slot, nickname := nickname
        status := if wireType = "-curestatus" then none else args[1]?
        annotations := sortedAnnotations (args.drop 2) })

/-- The stats a swap or copy names; all of them if it names none. -/
def parseStats (statsArg : String) : List String :=
  if statsArg = "" then boostStats
  else ((Python.split statsArg ",").filter fun s => s != "").map normalizeBoostStat

/-- The mode and amount of a boost line of the given magnitude. -/
def boostChange (wireType : String) (magnitude : Int) : BoostChangeMode × Int :=
  if wireType = "-setboost" then (.set, magnitude)
  else if wireType = "-boost" then (.delta, magnitude)
  else (.delta, -magnitude)

/-- The scope that a boost-clearing wire type stands for. -/
def clearScope (wireType : String) : String :=
  if wireType = "-clearboost" then "all"
  else if wireType = "-clearpositiveboost" then "positive"
  else "negative"

def parseBoost (wireType : String) (args : List String) (ei : Int) :
    Except PyException BattleEvent :=
  if wireType ∈ ["-boost", "-unboost", "-setboost"] then do
    requireArgs args 3 wireType
    let (sideId, slot, nickname) ← parseActiveIdent (arg args 0) wireType
    let magnitude ← intField (arg args 2)
      s!"{wireType}: invalid amount {Python.repr (arg args 2)}"
    let change := boostChange wireType magnitude
    pure (.boostChanged
      { eventIndex := ei, sideId := sideId, slot := slot, nickname := nickname
        stat := normalizeBoostStat (arg args 1), mode := change.1, amount := change.2 })
  else if wireType ∈ ["-swapboost", "-copyboost"] then do
    requireArgs args 2 wireType
    let (firstSide, firstSlot, firstNick) ← parsePokemonIdent (arg args 0)
    let (secondSide, secondSlot, secondNick) ← parsePokemonIdent (arg args 1)
    let firstSlot ← requireSlot firstSlot s!"{wireType}: requires active-slot identifiers"
    let secondSlot ← requireSlot secondSlot s!"{wireType}: requires active-slot identifiers"
    let stats := parseStats (arg args 2)
    if wireType = "-swapboost" then
      pure (.boostsSwapped
        { eventIndex := ei, sideId := firstSide, slot := firstSlot, nickname := firstNick
          targetSideId := secondSide, targetSlot := secondSlot, targetNickname := secondNick
          stats := stats })
    else
      -- the first pokemon receives, the second is the source
      pure (.boostsCopied
        { eventIndex := ei, sideId := firstSide, slot := firstSlot, nickname := firstNick
          sourceSideId := secondSide, sourceSlot := secondSlot, sourceNickname := secondNick
          stats := stats })
  else if wireType = "-clearallboost" then
    .ok (.boostsCleared
      { eventIndex := ei, sideId := none, slot := none, nickname := none, scope := "all"
        targetWhole := .inl ⟨rfl, rfl, rfl⟩, globalScope := fun _ => rfl })
  else if wireType ∈ ["-clearboost", "-clearpositiveboost", "-clearnegativeboost"] then do
    requireArgs args 1 wireType
    let (sideId, slot, nickname) ← parseActiveIdent (arg args 0) wireType
    pure (.boostsCleared
      { eventIndex := ei, sideId := some sideId, slot := some slot, nickname := some nickname
        scope := clearScope wireType
        targetWhole := .inr ⟨rfl, rfl, rfl⟩, globalScope := nofun })
  else if wireType = "-invertboost" then do
    requireArgs args 1 wireType
    let (sideId, slot, nickname) ← parseActiveIdent (arg args 0) "-invertboost"
    pure (.boostsInverted
      { eventIndex := ei, sideId := sideId, slot := slot, nickname := nickname })
  else .error (.unknownProtocolEvent wireType)

/-- The weather a weather line reports. -/
def weatherChange (weatherName : String) (rest : List String) (ei : Int) : WeatherChanged :=
  if Python.lower weatherName = "none" then
    { eventIndex := ei, weather := none, action := "end" }
  else
    { eventIndex := ei, weather := some weatherName
      action := if "[upkeep]" ∈ rest then "upkeep" else "start" }

def parseField (wireType : String) (args : List String) (ei : Int) :
    Except PyException BattleEvent :=
  if wireType = "-weather" then do
    requireArgs args 1 wireType
    pure (.weatherChanged (weatherChange (arg args 0) (args.drop 1) ei))
  else if wireType ∈ ["-fieldstart", "-fieldend"] then do
    requireArgs args 1 wireType
    pure (.fieldConditionChanged
      { eventIndex := ei, condition := arg args 0
        action := if wireType = "-fieldstart" then "start" else "end"
        annotations := sortedAnnotations (args.drop 1) })
  else if wireType ∈ ["-sidestart", "-sideend"] then do
    requireArgs args 2 wireType
    let sideId ← parseSideIdent (arg args 0)
    pure (.sideConditionChanged
      { eventIndex := ei, sideId := sideId, condition := arg args 1
        action := if wireType = "-sidestart" then "start" else "end" })
  else if wireType = "-swapsideconditions" then .ok (.sideConditionsSwapped { eventIndex := ei })
  else .error (.unknownProtocolEvent wireType)

def parseVolatile (wireType : String) (args : List String) (ei : Int) :
    Except PyException BattleEvent :=
  if wireType = "-mustrecharge" then do
    requireArgs args 1 wireType
    let (sideId, slot, nickname) ← parseActiveIdent (arg args 0) "-mustrecharge"
    pure (.rechargeChanged
      { eventIndex := ei, sideId := sideId, slot := slot, nickname := nickname
        recharging := true })
  else do
    requireArgs args 2 wireType
    let (sideId, slot, nickname) ← parseActiveIdent (arg args 0) wireType
    pure (.volatileChanged
      { eventIndex := ei, sideId := sideId, slot := slot, nickname := nickname
        volatileName := arg args 1
        action := if wireType = "-end" then "end" else "start"
        annotations := sortedAnnotations (args.drop 2) })

def parseItemAbility (wireType : String) (args : List String) (ei : Int) :
    Except PyException BattleEvent := do
  requireArgs args 1 wireType
  let (sideId, slot, nickname) ← parseActiveIdent (arg args 0) wireType
  let isSet : Bool := wireType ∈ ["-item", "-ability"]
  let action := if isSet then "set" else "end"
  let rest := args.drop 1
  let value := if isSet then rest.head?.map toId else none
  let annotations := sortedAnnotations (if isSet then rest.drop 1 else rest)
  if wireType ∈ ["-item", "-enditem"] then
    pure (.itemChanged
      { eventIndex := ei, sideId := sideId, slot := slot, nickname := nickname
        item := value, action := action, annotations := annotations })
  else
    pure (.abilityChanged
      { eventIndex := ei, sideId := sideId, slot := slot, nickname := nickname
        ability := value, action := action, annotations := annotations })

def parseFormTera (wireType : String) (args : List String) (ei : Int) :
    Except PyException BattleEvent :=
  if wireType = "-transform" then do
    requireArgs args 2 wireType
    let (sideId, slot, nickname) ← parsePokemonIdent (arg args 0)
    let (targetSideId, targetSlot, targetNickname) ← parsePokemonIdent (arg args 1)
    let slot ← requireSlot slot "-transform: requires active-slot identifiers"
    let targetSlot ← requireSlot targetSlot "-transform: requires active-slot identifiers"
    pure (.pokemonTransformed
      { eventIndex := ei, sideId := sideId, slot := slot, nickname := nickname
        targetSideId := targetSideId, targetSlot := targetSlot
        targetNickname := targetNickname })
  else if wireType = "-formechange" then do
    requireArgs args 3 wireType
    let (sideId, slot, nickname) ← parseActiveIdent (arg args 0) "-formechange"
    let hp ← parseHpToken (arg args 2)
    pure (.formChanged
      { eventIndex := ei, sideId := sideId, slot := slot, nickname := nickname
        kind := .temporarySpecies, value := arg args 1, hp := hp })
  else if wireType = "-terastallize" then do
    requireArgs args 2 wireType
    let (sideId, slot, nickname) ← parseActiveIdent (arg args 0) "-terastallize"
    pure (.terastallized
      { eventIndex := ei, sideId := sideId, slot := slot, nickname := nickname
        teraType := arg args 1 })
  else .error (.unknownProtocolEvent wireType)

/-- The effect at the head of the remaining fields, and the fields after it. -/
def parseEffect : List String → Option String × List String
  | [] => (none, [])
  | field :: rest =>
      if Python.startsWith field "[" then (none, field :: rest) else (some field, rest)

def parseEvidence (wireType : String) (args : List String) (ei : Int) :
    Except PyException BattleEvent := do
  let (sideId, slot, nickname, remaining) ← parseTarget args
  let effect := parseEffect remaining
  pure (.visibleEvidence
    { eventIndex := ei, kind := Python.dropChars wireType 1
      sideId := sideId, slot := slot, nickname := nickname, effect := effect.1
      annotations := sortedAnnotations effect.2 })

/-! ## §3 Dispatch -/

def metadataTypes : List String :=
  ["player", "teamsize", "gametype", "gen", "tier", "rated", "rule"]

def previewTypes : List String := ["clearpoke", "poke", "teampreview"]

def progressTypes : List String := ["start", "turn", "win", "tie"]

def pokemonIdentityTypes : List String :=
  ["move", "switch", "drag", "faint", "cant", "detailschange", "replace"]

def healthTypes : List String := ["-damage", "-heal", "-sethp"]

def statusTypes : List String := ["-status", "-curestatus", "-cureteam"]

def boostTypes : List String :=
  ["-boost", "-unboost", "-setboost", "-swapboost", "-copyboost", "-clearboost",
    "-clearallboost", "-clearpositiveboost", "-clearnegativeboost", "-invertboost"]

def fieldTypes : List String :=
  ["-weather", "-fieldstart", "-fieldend", "-sidestart", "-sideend", "-swapsideconditions"]

def volatileTypes : List String :=
  ["-start", "-end", "-singleturn", "-singlemove", "-mustrecharge"]

def itemAbilityTypes : List String := ["-item", "-enditem", "-ability", "-endability"]

def formTeraTypes : List String := ["-transform", "-formechange", "-terastallize"]

def parseInit (args : List String) (roomId : Option String) (ei : Int) :
    Except PyException BattleEvent :=
  if args ≠ ["battle"] then
    .error (.malformedProtocolMessage s!"unsupported init room type: {Python.reprList args}")
  else
    match roomId with
    | none => .error (.malformedProtocolMessage "init requires room_id from RoomLine context")
    | some roomId => .ok (.battleInit { eventIndex := ei, roomId := roomId })

/-- A message that tells of a forfeit or a timeout. -/
def tellsForfeit (message : String) : Bool :=
  let lowered := Python.lower message
  Python.endsWith lowered " lost due to inactivity." || Python.endsWith lowered " forfeited." ||
    lowered = "all players are inactive."

/-- The lines that only display something. -/
def parseDisplay (wireType : String) (args : List String) (ei : Int) :
    Except PyException BattleEvent :=
  let message := Python.join "|" args
  if wireType = "-message" && tellsForfeit message then .error (.timerOrForfeit message)
  else if wireType ∈ ignoredDisplayTypes then
    .ok (.ignoredDisplayEvent { eventIndex := ei, kind := wireType })
  else .error (.unknownProtocolEvent wireType)

/-- The body of `parse_battle_line`, once the payload is split. -/
def parseBattleFields (payload wireType : String) (args : List String) (ei : Int)
    (roomId : Option String) : Except PyException BattleEvent :=
  if wireType = "init" then parseInit args roomId ei
  else if wireType ∈ metadataTypes then parseMetadata wireType args ei
  else if wireType ∈ previewTypes then parsePreview wireType args ei
  else if wireType ∈ progressTypes then parseProgress wireType args ei
  else if wireType ∈ pokemonIdentityTypes then parsePokemonIdentity wireType args ei
  else if wireType ∈ healthTypes then parseHealth wireType args ei
  else if wireType ∈ statusTypes then parseStatus wireType args ei
  else if wireType ∈ boostTypes then parseBoost wireType args ei
  else if wireType ∈ fieldTypes then parseField wireType args ei
  else if wireType ∈ volatileTypes then parseVolatile wireType args ei
  else if wireType ∈ itemAbilityTypes then parseItemAbility wireType args ei
  else if wireType ∈ formTeraTypes then parseFormTera wireType args ei
  else if wireType ∈ evidenceTypes then parseEvidence wireType args ei
  else if payload = "|" then .ok (.ignoredDisplayEvent { eventIndex := ei, kind := "spacer" })
  else parseDisplay wireType args ei

/-- `parse_battle_line`: a `ValueError` from a handler becomes a malformed message. -/
def parseBattleLine (payload : String) (ei : Int) (roomId : Option String) :
    Except PyException BattleEvent :=
  match parseBattleFields payload (splitPayload payload).1 (splitPayload payload).2 ei roomId with
  | .error (.valueError text) =>
      .error (.malformedProtocolMessage
        s!"malformed battle line {Python.repr payload}: {text}")
  | result => result

/-- The evidence that a timer line leaves. -/
def timerEvidence (kind message : String) (ei : Int) : BattleEvent :=
  .visibleEvidence
    { eventIndex := ei, kind := kind, sideId := none, slot := none, nickname := none
      effect := if message = "" then none else some message, annotations := [] }

/-- `parse_inactive_line`. -/
def parseInactiveLine (payload : String) (ei : Int) : Except PyException BattleEvent :=
  let wireType := (splitPayload payload).1
  let message := Python.join "|" (splitPayload payload).2
  if wireType = "inactiveoff" then .ok (timerEvidence "timer_warning_cleared" message ei)
  else if wireType = "inactive" then
    let lowered := Python.lower message
    if Python.contains lowered "forfeit" || Python.contains lowered "lost due to inactivity" then
      .error (.timerOrForfeit message)
    else .ok (timerEvidence "timer_warning" message ei)
  else
    .error (.unknownProtocolEvent s!"not an inactive line: {Python.repr wireType}")

end BattleBelief
