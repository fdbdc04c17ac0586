import BattleBelief.Errors

/-!
# The Frame Decoder

`decodeFrame` splits one raw WebSocket frame into lines, each with the room that it is for. A
marker line `>room` sets the room of the lines after it; a line before any marker is global.
-/

namespace BattleBelief

structure RoomLine where
  roomId : Option String
  payload : String
  deriving DecidableEq, Repr

/-- What the socket delivers. -/
inductive Frame where
  | text (frame : String)
  | binary (frame : List UInt8)
  deriving DecidableEq, Repr

/-- The line without the carriage return that ends it. -/
def stripReturn (rawLine : String) : String :=
  if Python.endsWith rawLine "\r" then String.ofList rawLine.toList.dropLast else rawLine

/-- The lines of a frame from a point on where `currentRoom` is the room. -/
def decodeLines (currentRoom : Option String) : List String → Except PyException (List RoomLine)
  | [] => .ok []
  | rawLine :: rest =>
      let line := stripReturn rawLine
      if line = "" then decodeLines currentRoom rest
      else if Python.startsWith line ">" then
        let roomId := Python.dropChars line 1
        if roomId = "" then .error (.malformedProtocolMessage "empty room marker")
        else decodeLines (some roomId) rest
      else (decodeLines currentRoom rest).map (⟨currentRoom, line⟩ :: ·)

/-- `decode_frame`. -/
def decodeFrame : Frame → Except PyException (List RoomLine)
  | .binary _ => .error (.malformedProtocolMessage "frame must be text, not binary")
  | .text frame => if frame = "" then .ok [] else decodeLines none (Python.split frame "\n")

end BattleBelief
