import BattleBelief.Canonicalization
import BattleBelief.Library.Delimiters

/-!
# The Simulator's Protocol

The strict, bounded codec for what the simulator writes to its standard output. The stream is a
sequence of frames, each with two line feeds behind it, and arrives in chunks of any size.

`unicodedata`, the parser behind `json.loads` and the canonicalizer are parameters. The hooks that
the parser is given are part of the source.
-/

namespace BattleBelief.Oracle

open Delimiters
open Python (Json)

/-! ## §1 Failures and messages -/

/-- `OracleFailureClass`. -/
inductive OracleFailureClass where
  | nodeNotFound
  | nodeVersionNotApproved
  | sourceMissing
  | sourceCommitMismatch
  | sourceDirty
  | licenseMismatch
  | lockfileMismatch
  | npmVersionMismatch
  | buildFailed
  | buildOutputMissing
  | startTimeout
  | writeTimeout
  | responseTimeout
  | fixtureTimeout
  | malformedOutput
  | protocolDesynchronization
  | rulesetRejected
  | processCrash
  | unexpectedExitCode
  | shutdownFailed
  | orphanedChildProcess
  | externalNetworkAttempt
  | inputTooLarge
  | outputTooLarge
  | toolInputInvalid
  deriving DecidableEq, Repr

/-- What the decoder raises: a classified failure, or an exception that it does not handle. -/
inductive DecoderError where
  | oracleProtocolError (failureClass : OracleFailureClass) (message : String)
  | raised (error : PyException)
  deriving DecidableEq

inductive PlayerSide where
  | p1
  | p2
  deriving DecidableEq, Repr

def PlayerSide.value : PlayerSide → String
  | .p1 => "p1"
  | .p2 => "p2"

/-- The side with this name, if it is among `_PLAYER_SIDES`. -/
def PlayerSide.ofValue (text : String) : Option PlayerSide :=
  if text = "p1" then some .p1 else if text = "p2" then some .p2 else none

inductive ProtocolMessage where
  | updateMessage (lines : List String)
  /-- `requestJson` is canonical -/
  | sideUpdateMessage (side : PlayerSide) (lines : List String) (requestJson : List Nat)
  | sideErrorMessage (side : PlayerSide) (line : String)
  | endMessage (logJson : List Nat)
  deriving DecidableEq, Repr

def malformedOutput {α : Type} (message : String) : Except DecoderError α :=
  .error (.oracleProtocolError .malformedOutput message)

def desynchronized {α : Type} (message : String) : Except DecoderError α :=
  .error (.oracleProtocolError .protocolDesynchronization message)

def outputTooLarge {α : Type} (message : String) : Except DecoderError α :=
  .error (.oracleProtocolError .outputTooLarge message)

/-! ## §2 JSON payloads -/

/-- What `json.loads` asks its caller about. -/
structure JsonHooks where
  objectPairs : List (String × Json) → Except PyException Json
  parseConstant : String → Except PyException Json
  parseFloat : String → Except PyException Json

/-- The `json` module and the numbers that it reads. A subclass of `ValueError`, such as
`JSONDecodeError`, counts as `valueError`. -/
class JsonModule where
  loads : JsonHooks → String → Except PyException Json
  /-- `repr(float(text))` -/
  float : String → String

/-- `_reject_duplicate_keys`, from a dict that has some of the pairs already. -/
def rejectDuplicateKeys (result : List (String × Json)) :
    List (String × Json) → Except PyException Json
  | [] => .ok (.obj result)
  | (key, value) :: rest =>
      if Json.hasKey result key then .error (.valueError "duplicate JSON key")
      else rejectDuplicateKeys (result ++ [(key, value)]) rest

/-- `_reject_nonfinite`. -/
def rejectNonfinite (_value : String) : Except PyException Json :=
  .error (.valueError "non-finite JSON number")

section Json

variable [JsonModule]

/-- `_parse_finite_float`. -/
def parseFiniteFloat (value : String) : Except PyException Json :=
  let parsed := JsonModule.float value
  if parsed ∈ ["inf", "-inf", "nan"] then .error (.valueError "non-finite JSON number")
  else .ok (.float parsed)

def strictHooks : JsonHooks where
  objectPairs := rejectDuplicateKeys []
  parseConstant := rejectNonfinite
  parseFloat := parseFiniteFloat

end Json

section NormalForms

variable [Python.NormalForms]

mutual

/-- `_is_nfc_json`. -/
def isNfcJson : Json → Bool
  | .str value => Python.NormalForms.isNfc value
  | .arr items => areNfcItems items
  | .obj members => areNfcMembers members
  | _ => true

def areNfcItems : List Json → Bool
  | [] => true
  | item :: rest => isNfcJson item && areNfcItems rest

def areNfcMembers : List (String × Json) → Bool
  | [] => true
  | (key, value) :: rest => Python.NormalForms.isNfc key && isNfcJson value && areNfcMembers rest

end

variable [JsonModule] [Rfc8785]

/-- `except (TypeError, ValueError, json.JSONDecodeError)`. -/
def isTypeOrValueError : PyException → Bool
  | .valueError _ => true
  | .other className _ => className = "TypeError"
  | _ => false

/-- The body of the `try` of `_load_json`. -/
def readJson (payload : String) : Except PyException Json := do
  let value ← JsonModule.loads strictHooks payload
  if !isNfcJson value then .error (.valueError "JSON strings must be NFC normalized")
  else
    let _ ← Rfc8785.dumps value
    pure value

/-- `_load_json`. -/
def loadJson (payload : String) : Except DecoderError Json :=
  match readJson payload with
  | .ok value => .ok value
  | .error err =>
      if isTypeOrValueError err then malformedOutput "simulator message contains invalid JSON"
      else .error (.raised err)

/-- `_canonical_json`. -/
def canonicalJson (payload : String) (allowNull : Bool) : Except DecoderError (List Nat) := do
  let value ← loadJson payload
  match value with
  | .null =>
      if allowNull then .ok (Python.encodeUtf8 "null".toList)
      else desynchronized "simulator JSON payload has an unexpected top-level shape"
  | .obj _ => (Rfc8785.dumps value).mapError .raised
  | _ => desynchronized "simulator JSON payload has an unexpected top-level shape"

/-! ## §3 Frames -/

omit [Python.NormalForms] [JsonModule] [Rfc8785] in
/-- `_validate_protocol_lines`. -/
def validateProtocolLines (lines : List String) : Except DecoderError Unit :=
  if lines = [] || lines.any fun line => !Python.startsWith line "|" then
    desynchronized "simulator message contains an invalid protocol line"
  else if lines.any fun line => Python.startsWith line "|error|" then
    .error (.oracleProtocolError .rulesetRejected "simulator emitted a protocol error")
  else .ok ()

/-- `^\|t:\|[0-9]+$` -/
def isTimestampLine (line : String) : Bool :=
  let digits := line.toList.drop 4
  Python.startsWith line "|t:|" && digits ≠ [] && digits.all fun c => '0' ≤ c && c ≤ '9'

/-- `_semantic_lines`. -/
def semanticLines (lines : List String) : List String :=
  lines.filter fun line => !isTimestampLine line

/-- `_decode_update`. -/
def decodeUpdate (lines : List String) : Except DecoderError ProtocolMessage := do
  validateProtocolLines lines
  pure (.updateMessage (semanticLines lines))

/-- `_decode_sideupdate`. -/
def decodeSideupdate : List String → Except DecoderError ProtocolMessage
  | [player, line] =>
      match PlayerSide.ofValue player with
      | none => desynchronized "sideupdate has an invalid player or message shape"
      | some side =>
          if Python.startsWith line "|error|" && 7 < line.toList.length then
            .ok (.sideErrorMessage side line)
          else if !Python.startsWith line "|request|" then
            desynchronized "sideupdate must contain exactly one request line"
          else do
            let requestJson ← canonicalJson (Python.dropChars line 9) true
            match Python.decodeUtf8 requestJson with
            | none => .error (.raised (.valueError "canonical JSON is not valid UTF-8"))
            | some text => pure (.sideUpdateMessage side ["|request|" ++ text] requestJson)
  | _ => desynchronized "sideupdate has an invalid player or message shape"

/-- `_decode_end`. -/
def decodeEnd : List String → Except DecoderError ProtocolMessage
  | [line] => (canonicalJson line false).map .endMessage
  | _ => desynchronized "end message has an invalid shape"

/-! ## §4 The decoder -/

structure ShowdownProtocolDecoder where
  maxFrameBytes : Int
  maxBufferBytes : Int
  buffer : List Nat
  started : Bool
  ended : Bool
  finished : Bool
  failed : Bool
  deriving DecidableEq

/-- An exception on its way out of a method, and the decoder as it leaves it. -/
structure Halted where
  error : DecoderError
  decoder : ShowdownProtocolDecoder
  deriving DecidableEq

namespace ShowdownProtocolDecoder

/-- `__init__`. -/
def create (maxFrameBytes maxBufferBytes : Int) : Except PyException ShowdownProtocolDecoder :=
  if maxFrameBytes ≤ 0 || maxBufferBytes ≤ 0 then
    .error (.valueError "protocol limits must be positive")
  else
    .ok { maxFrameBytes, maxBufferBytes, buffer := [], started := false, ended := false,
          finished := false, failed := false }

variable (decoder : ShowdownProtocolDecoder)

/-- `_decode_frame`. -/
def decodeFrame (frame : List Nat) :
    Except DecoderError (ProtocolMessage × ShowdownProtocolDecoder) :=
  if frame = [] then desynchronized "simulator emitted an empty frame"
  else
    match Python.decodeUtf8 frame with
    | none => malformedOutput "simulator output is not valid UTF-8"
    | some text =>
        if Python.contains text "\r" || Python.contains text (String.ofList [Char.ofNat 0]) ||
            !Python.NormalForms.isNfc text then
          malformedOutput "simulator output contains a forbidden character or normalization"
        else
          let lines := Python.split text "\n"
          if decoder.ended then
            desynchronized "simulator emitted output after the terminal end message"
          else
            match lines.head? with
            | some "update" => do
                let message ← decodeUpdate lines.tail
                pure (message, { decoder with started := true })
            | some "sideupdate" => do
                let message ← decodeSideupdate lines.tail
                match message with
                | .sideUpdateMessage .. =>
                    if !decoder.started then
                      desynchronized "simulator emitted a request before battle initialization"
                    else pure (message, decoder)
                | _ => pure (message, decoder)
            | some "end" =>
                if !decoder.started then
                  desynchronized "simulator ended before battle initialization"
                else do
                  let message ← decodeEnd lines.tail
                  pure (message, { decoder with ended := true })
            | _ => desynchronized "simulator emitted an unknown frame kind"

/-- `b"\n\n"` -/
def delimiter : List Nat := [10, 10]

/-- The loop of `feed`. Every round takes a delimiter out of the buffer, so that there are fewer
rounds than bytes. -/
def drain : Nat → ShowdownProtocolDecoder →
    Except Halted (List ProtocolMessage × ShowdownProtocolDecoder)
  | 0, decoder => .ok ([], decoder)
  | rounds + 1, decoder =>
      match cut delimiter decoder.buffer with
      | none => .ok ([], decoder)
      | some (frame, rest) =>
          let decoder := { decoder with buffer := rest }
          if (frame.length : Int) > decoder.maxFrameBytes then
            (outputTooLarge "simulator frame exceeds the configured byte limit").mapError
              (⟨·, decoder⟩)
          else do
            let (message, decoder) ← (decoder.decodeFrame frame).mapError (⟨·, decoder⟩)
            let (messages, decoder) ← drain rounds decoder
            pure (message :: messages, decoder)

/-- The body of the `try` of `feed`. -/
def consume (chunk : List Nat) : Except Halted (List ProtocolMessage × ShowdownProtocolDecoder) := do
  let decoder := { decoder with buffer := decoder.buffer ++ chunk }
  let (messages, decoder) ← drain decoder.buffer.length decoder
  if (decoder.buffer.length : Int) > min decoder.maxFrameBytes decoder.maxBufferBytes then
    (outputTooLarge "simulator buffer exceeds the configured byte limit").mapError (⟨·, decoder⟩)
  else pure (messages, decoder)

/-- `except OracleProtocolError` of `feed`. -/
def markFailed (halted : Halted) : Halted :=
  match halted.error with
  | .oracleProtocolError _ _ => { halted with decoder := { halted.decoder with failed := true } }
  | .raised _ => halted

def feed (chunk : List Nat) : Except Halted (List ProtocolMessage × ShowdownProtocolDecoder) :=
  if decoder.failed then
    (desynchronized "simulator output arrived after a terminal decoder failure").mapError
      (⟨·, decoder⟩)
  else if decoder.finished then
    (desynchronized "simulator output arrived after decoder finish").mapError (⟨·, decoder⟩)
  else (decoder.consume chunk).mapError markFailed

def finish : Except Halted ShowdownProtocolDecoder :=
  if decoder.finished then .ok decoder
  else if decoder.failed then
    (desynchronized "simulator decoder cannot finish after a terminal failure").mapError
      (⟨·, decoder⟩)
  else
    let decoder := { decoder with finished := true }
    if decoder.buffer ≠ [] then
      if (Python.decodeUtf8 decoder.buffer).isNone then
        (malformedOutput "simulator output is not valid UTF-8").mapError (⟨·, decoder⟩)
      else
        (desynchronized "simulator output ended inside a frame").mapError (⟨·, decoder⟩)
    else if !decoder.ended then
      (desynchronized "simulator output ended before the terminal end message").mapError
        (⟨·, decoder⟩)
    else .ok decoder

/-! ## §5 Streams -/

/-- Feeds the chunks one after another. -/
def feedAll : ShowdownProtocolDecoder → List (List Nat) →
    Except Halted (List ProtocolMessage × ShowdownProtocolDecoder)
  | decoder, [] => .ok ([], decoder)
  | decoder, chunk :: rest => do
      let (messages, decoder) ← decoder.feed chunk
      let (later, decoder) ← feedAll decoder rest
      pure (messages ++ later, decoder)

/-- Feeds the chunks and finishes. -/
def decodeStream (chunks : List (List Nat)) : Except Halted (List ProtocolMessage) := do
  let (messages, decoder) ← feedAll decoder chunks
  let _ ← decoder.finish
  pure messages

end ShowdownProtocolDecoder

end NormalForms

end BattleBelief.Oracle
