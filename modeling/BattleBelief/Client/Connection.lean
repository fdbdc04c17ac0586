import BattleBelief.Library.Runs
import BattleBelief.Protocol.FrameDecoder
import BattleBelief.Protocol.Parser

/-!
# The Showdown Connection

One authenticated WebSocket connection. `authenticate` reads frames until the server confirms the
login, and keeps the lines of these frames that are not about the login; the stream of lines has
the kept lines first and then the lines of the frames that follow.

The socket is the list of the frames that it delivers, and the exception that it raises after them.

## Main results

- `authenticate_keeps`: what is kept is what the consumed frames hold, less lines about the login
- `lines_keep`: the stream has the lines of all frames in order, less global lines about the login
-/

namespace BattleBelief

open Runs

/-! ## §1 Lines about the login -/

inductive LoginControl where
  | challstr
  | updateuser
  | nametaken
  deriving DecidableEq, Repr

/-- `_login_control_kind`. -/
def loginControlKind (payload : String) : Option LoginControl :=
  if Python.startsWith payload "|challstr|" then some .challstr
  else if Python.startsWith payload "|updateuser|" then some .updateuser
  else if Python.startsWith payload "|nametaken|" || payload = "|nametaken" then some .nametaken
  else none

/-- `_parse_challstr`. -/
def parseChallstr (payload : String) : Except PyException String :=
  match Python.splitMax "|" 2 payload with
  | ["", "challstr", challstr] =>
      if challstr = "" then .error (.disconnect "Showdown challenge string was malformed")
      else .ok challstr
  | _ => .error (.disconnect "Showdown challenge string was malformed")

/-- `_is_valid_updateuser`. -/
def isValidUpdateuser (payload expectedUsername : String) : Bool :=
  match Python.split payload "|" with
  | "" :: "updateuser" :: username :: named :: _ =>
      named = "1" && toId username = toId expectedUsername
  | _ => false

/-- A line that the queue leaves out. -/
def isLoginLine (line : RoomLine) : Bool :=
  line.roomId.isNone && (loginControlKind line.payload).isSome

/-! ## §2 Authentication -/

/-- The account, and what is outside the connection but for the frames. -/
structure Client where
  username : String
  /-- The assertion provider, on a challenge string -/
  assertion : String → Except PyException String
  /-- `socket.send`, after the messages of earlier calls -/
  send : List String → String → Except PyException Unit

structure Authentication where
  pending : List RoomLine
  loginSent : Bool
  /-- The messages sent, newest first -/
  sent : List String

def Authentication.initial : Authentication where
  pending := []
  loginSent := false
  sent := []

namespace Authentication

variable (client : Client) (auth : Authentication)

def keep (line : RoomLine) : Authentication := { auth with pending := auth.pending ++ [line] }

/-- The answer to a challenge string. -/
def login (payload : String) : Except PyException Authentication :=
  if auth.loginSent then .error (.disconnect "Showdown sent a duplicate challenge string")
  else do
    let challstr ← parseChallstr payload
    let assertion ← client.assertion challstr
    let message := s!"|/trn {client.username},0,{assertion}"
    client.send auth.sent message
    pure { auth with loginSent := true, sent := message :: auth.sent }

/-- The loop of `_authenticate` over the lines of one frame. The lines after the one that confirms
the login are left, if it is among them. -/
def readLines : Authentication → List RoomLine →
    Except PyException (Authentication × Option (List RoomLine))
  | auth, [] => .ok (auth, none)
  | auth, line :: rest =>
      if line.roomId.isSome then readLines (auth.keep line) rest
      else
        match loginControlKind line.payload with
        | some .nametaken => .error (.disconnect "Showdown username was rejected")
        | some .challstr => do
            let auth ← auth.login client line.payload
            readLines auth rest
        | some .updateuser =>
            if auth.loginSent && isValidUpdateuser line.payload client.username then
              .ok (auth, some rest)
            else readLines (if auth.loginSent then auth else auth.keep line) rest
        | none => readLines (auth.keep line) rest

end Authentication

/-- `_queue_non_login_lines`. -/
def nonLoginLines (lines : List RoomLine) : List RoomLine :=
  lines.filter fun line => !isLoginLine line

/-- An authenticated connection: the queued lines, and the frames that are still to come. -/
structure Authenticated where
  queuedLines : List RoomLine
  frames : List Frame
  deriving DecidableEq

/-- `_authenticate`, on a socket that raises `ending` after `frames`. -/
def authenticate (client : Client) (ending : PyException) :
    Authentication → List Frame → Except PyException Authenticated
  | _, [] => .error ending
  | auth, frame :: frames => do
      let lines ← decodeFrame frame
      let (auth, remaining) ← auth.readLines client lines
      match remaining with
      | none => authenticate client ending auth frames
      | some remaining =>
          pure ⟨nonLoginLines auth.pending ++ nonLoginLines remaining, frames⟩

/-! ## §3 The stream of lines -/

/-- The lines of the frames before the first malformed one, and the exception that it raises; on
a socket that raises `ending` after `frames`. -/
def frameLines (ending : PyException) : List Frame → List RoomLine × PyException
  | [] => ([], ending)
  | frame :: frames =>
      match decodeFrame frame with
      | .error err => ([], err)
      | .ok lines =>
          let (later, err) := frameLines ending frames
          (lines ++ later, err)

/-- `_line_stream`: what it yields, and the exception that ends it. -/
def Authenticated.lines (connection : Authenticated) (ending : PyException) :
    List RoomLine × PyException :=
  let (later, err) := frameLines ending connection.frames
  (connection.queuedLines ++ later, err)

/-! ## §4 What the stream keeps -/

variable {client : Client} {ending : PyException} {auth after : Authentication}

@[simp] theorem nonLoginLines_append (first rest : List RoomLine) :
    nonLoginLines (first ++ rest) = nonLoginLines first ++ nonLoginLines rest :=
  List.filter_append ..

theorem login_pending {payload : String} (h : auth.login client payload = .ok after) :
    after.pending = auth.pending := by
  unfold Authentication.login at h
  split_ifs at h
  obtain ⟨_, _, h⟩ := bind_eq_ok.mp h
  obtain ⟨_, _, h⟩ := bind_eq_ok.mp h
  obtain ⟨_, _, h⟩ := bind_eq_ok.mp h
  cases h
  rfl

/-- A line that is kept is kept at the end. -/
theorem keep_lines (line : RoomLine) (rest : List RoomLine) :
    nonLoginLines (auth.keep line).pending ++ nonLoginLines rest =
      nonLoginLines auth.pending ++ nonLoginLines (line :: rest) := by
  have hcons : line :: rest = [line] ++ rest := rfl
  rw [Authentication.keep, nonLoginLines_append, hcons, nonLoginLines_append, List.append_assoc]

/-- A line about the login may be left out. -/
theorem skip_lines {line : RoomLine} (hlogin : isLoginLine line = true) (rest : List RoomLine) :
    nonLoginLines (line :: rest) = nonLoginLines rest := by
  rw [nonLoginLines, List.filter_cons_of_neg (by simp [hlogin])]
  rfl

/-- The lines of a frame are kept, or left for the queue. -/
theorem readLines_keeps {lines : List RoomLine} {remaining : Option (List RoomLine)}
    (h : auth.readLines client lines = .ok (after, remaining)) :
    nonLoginLines after.pending ++ nonLoginLines (remaining.getD []) =
      nonLoginLines auth.pending ++ nonLoginLines lines := by
  induction lines generalizing auth with
  | nil =>
    cases h
    rfl
  | cons line rest ih =>
    unfold Authentication.readLines at h
    by_cases hroom : line.roomId.isSome = true
    · rw [if_pos hroom] at h
      rw [ih h, keep_lines]
    · rw [if_neg hroom] at h
      have hglobal : line.roomId.isNone = true := by simpa using hroom
      split at h
      · cases h
      · rename_i hkind
        obtain ⟨loggedIn, hlogin, h⟩ := bind_eq_ok.mp h
        rw [ih h, login_pending hlogin, skip_lines (by simp [isLoginLine, hglobal, hkind])]
      · rename_i hkind
        have hlogin : isLoginLine line = true := by simp [isLoginLine, hglobal, hkind]
        have hskip := skip_lines hlogin rest
        split_ifs at h with hvalid hsent
        · cases h
          rw [hskip]
          rfl
        · rw [ih h, hskip]
        · rw [ih h, keep_lines]
      · rw [ih h, keep_lines]

/-- Authentication keeps what the frames hold that it reads, less lines about the login. -/
theorem authenticate_keeps {frames : List Frame} {connected : Authenticated}
    (h : authenticate client ending auth frames = .ok connected) :
    ∃ used, (∀ other, frameLines other frames =
        (used ++ (frameLines other connected.frames).1, (frameLines other connected.frames).2)) ∧
      connected.queuedLines = nonLoginLines auth.pending ++ nonLoginLines used := by
  induction frames generalizing auth with
  | nil => cases h
  | cons frame frames ih =>
    obtain ⟨lines, hlines, h⟩ := bind_eq_ok.mp h
    obtain ⟨⟨after, remaining⟩, hread, h⟩ := bind_eq_ok.mp h
    have hkeeps := readLines_keeps hread
    cases remaining with
    | some remaining =>
      cases h
      refine ⟨lines, fun other => ?_, hkeeps⟩
      simp only [frameLines, hlines]
    | none =>
      obtain ⟨used, hused, hqueued⟩ := ih h
      refine ⟨lines ++ used, fun other => ?_, ?_⟩
      · simp only [frameLines, hlines, hused other, List.append_assoc]
      · have hpending : nonLoginLines after.pending =
            nonLoginLines auth.pending ++ nonLoginLines lines := by
          rw [← hkeeps, Option.getD_none]
          exact (List.append_nil _).symm
        rw [hqueued, hpending, nonLoginLines_append, List.append_assoc]

/-- The stream has the lines of all frames in order; of those that authentication has read it
leaves out the lines about the login. -/
theorem lines_keep {frames : List Frame} {connected : Authenticated}
    (h : authenticate client ending .initial frames = .ok connected) :
    ∃ early late, (frameLines ending frames).1 = early ++ late ∧
      connected.lines ending = (nonLoginLines early ++ late, (frameLines ending frames).2) := by
  obtain ⟨used, hused, hqueued⟩ := authenticate_keeps h
  refine ⟨used, (frameLines ending connected.frames).1, ?_, ?_⟩
  · rw [hused ending]
  · rw [hused ending, Authenticated.lines, hqueued]
    rfl

end BattleBelief
