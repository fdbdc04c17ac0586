import BattleBelief.Library.PythonText

/-!
# Wire Types and the Room Payload Classifier

A payload line of a battle room looks like `|type|field|field|…`. The classifier reads the type
alone, and decides which component handles the line.
-/

namespace BattleBelief

/-! ## §1 Wire types -/

/-- Every wire type that maps to a core event; classifier and parser share it. -/
def battleEventTypes : List String :=
  [ -- metadata
    "init", "player", "teamsize", "gametype", "gen", "tier", "rated", "rule",
    -- preview
    "clearpoke", "poke", "teampreview",
    -- progress
    "start", "turn", "win", "tie",
    -- pokemon identity
    "move", "switch", "drag", "faint", "cant", "detailschange", "replace",
    -- health
    "-damage", "-heal", "-sethp",
    -- status
    "-status", "-curestatus", "-cureteam",
    -- boosts
    "-boost", "-unboost", "-setboost", "-swapboost", "-copyboost", "-clearboost",
    "-clearallboost", "-clearpositiveboost", "-clearnegativeboost", "-invertboost",
    -- field / side
    "-weather", "-fieldstart", "-fieldend", "-sidestart", "-sideend", "-swapsideconditions",
    -- volatile / recharge
    "-start", "-end", "-singleturn", "-singlemove", "-mustrecharge",
    -- item / ability
    "-item", "-enditem", "-ability", "-endability",
    -- transform / form / tera
    "-transform", "-formechange", "-terastallize",
    -- evidence
    "-crit", "-supereffective", "-resisted", "-immune", "-miss", "-fail", "-activate", "-block",
    "-notarget", "-nothing", "-hitcount", "-prepare", "-fieldactivate",
    -- ignored display
    "upkeep", "t:", "-anim", "-hint", "-center", "-combine", "-waiting", "message", "-message"]

def evidenceTypes : List String :=
  ["-crit", "-supereffective", "-resisted", "-immune", "-miss", "-fail", "-activate", "-block",
    "-notarget", "-nothing", "-hitcount", "-prepare", "-fieldactivate"]

def ignoredDisplayTypes : List String :=
  ["upkeep", "t:", "-anim", "-hint", "-center", "-combine", "-waiting", "message", "-message"]

def roomControlTypes : List String :=
  ["title", "users", "join", "j", "J", "leave", "l", "L", "name", "n", "N", "chat", "c", "c:",
    ":", "html", "uhtml", "uhtmlchange", "notify", "battle", "b", "B"]

/-! ## §2 Classification -/

inductive RoomPayloadKind where
  | battleEvent
  | decisionRequest
  | battleError
  | timerMessage
  | roomControlOrChat
  | unknown
  deriving DecidableEq, Repr

/-- The type field of a payload, and the fields after it. -/
def splitPayload (payload : String) : String × List String :=
  let parts := Python.split payload "|"
  (parts.getD 1 "", parts.drop 2)

/-- What a payload that begins with `|type|` has as its type. -/
theorem wireType_of_startsWith {payload wireType : String} (h : '|' ∉ wireType.toList)
    (hstart : Python.startsWith payload ("|" ++ wireType ++ "|") = true) :
    (splitPayload payload).1 = wireType := by
  obtain ⟨rest, hrest⟩ := List.isPrefixOf_iff_prefix.mp hstart
  have htext : payload.toList = [] ++ '|' :: (wireType.toList ++ '|' :: rest) := by
    rw [← hrest]
    simp
  have hparts : Python.split payload "|" =
      "" :: wireType :: (Python.splitChars ['|'] 0 [] rest).map String.ofList := by
    have hsep : "|".toList = ['|'] := rfl
    rw [Python.split, hsep, htext, Python.splitChars_singleton (by simp),
      Python.splitChars_singleton h]
    simp
  rw [splitPayload, hparts]
  rfl

/-- `classify_room_payload`. -/
def classifyRoomPayload (payload : String) : RoomPayloadKind :=
  if payload = "|" then .battleEvent
  else if !Python.startsWith payload "|" || Python.startsWith payload "||" then
    .roomControlOrChat
  else
    let wireType := (splitPayload payload).1
    if wireType = "request" then .decisionRequest
    else if wireType = "error" then .battleError
    else if wireType ∈ ["inactive", "inactiveoff"] then .timerMessage
    else if wireType ∈ battleEventTypes then .battleEvent
    else if wireType ∈ roomControlTypes then .roomControlOrChat
    else .unknown

/-- What is labelled a battle event is the spacer, or has a battle event's wire type. -/
theorem wireType_of_battleEvent {payload : String}
    (h : classifyRoomPayload payload = .battleEvent) :
    payload = "|" ∨ (splitPayload payload).1 ∈ battleEventTypes := by
  simp only [classifyRoomPayload] at h
  split_ifs at h
  · exact .inl ‹_›
  · exact .inr ‹_›

end BattleBelief
