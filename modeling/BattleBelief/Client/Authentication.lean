import BattleBelief.Client.Connection

/-!
# The Login of a Connection

`authenticate` reads frames until a line confirms the login. Where in the lines that happens, what is
sent on the way, and which of the lines the stream has.

## Main results

- `readLines_append`: lines are read one part after the other
- `Login.of_authenticate`: an authenticated connection has answered one challenge string, and the
  line that confirms the login is among the lines of the last frame that it has used
- `authentication_loses_no_lines`: the stream has all lines but global ones about the login
-/

namespace BattleBelief

open Runs

variable {client : Client} {ending : PyException} {auth after : Authentication}

/-! ## §1 Lines in parts -/

/-- Lines are read one part after the other. -/
theorem readLines_append (first rest : List RoomLine) :
    auth.readLines client (first ++ rest) =
      match auth.readLines client first with
      | .error err => .error err
      | .ok (after, some remaining) => .ok (after, some (remaining ++ rest))
      | .ok (after, none) => after.readLines client rest := by
  induction first generalizing auth with
  | nil => rfl
  | cons line first ih =>
    simp only [List.cons_append, Authentication.readLines]
    split
    · apply ih
    · split
      · rfl
      · -- a challenge string: the answer may fail
        cases auth.login client line.payload with
        | error err => rfl
        | ok loggedIn => exact ih
      · split
        · rfl
        · apply ih
      · apply ih

/-- Lines that do not confirm the login are read before the lines after them. -/
theorem readLines_append_of_none {first : List RoomLine} (rest : List RoomLine)
    (h : auth.readLines client first = .ok (after, none)) :
    auth.readLines client (first ++ rest) = after.readLines client rest := by
  rw [readLines_append, h]

/-- What is read was read part by part. -/
theorem exists_readLines_of_append {first rest : List RoomLine}
    (h : auth.readLines client (first ++ rest) = .ok (after, none)) :
    ∃ middle, auth.readLines client first = .ok (middle, none) ∧
      middle.readLines client rest = .ok (after, none) := by
  rw [readLines_append] at h
  split at h
  · cases h
  · cases h
  · rename_i middle hfirst
    exact ⟨middle, hfirst, h⟩

/-! ## §2 What a login says -/

/-- A challenge string that the client answers with a message. -/
structure Client.Answers (client : Client) (line : RoomLine) (message : String) : Prop where
  global : line.roomId = none
  kind : loginControlKind line.payload = some .challstr
  text : ∃ challstr assertion, parseChallstr line.payload = .ok challstr ∧
    client.assertion challstr = .ok assertion ∧
    message = s!"|/trn {client.username},0,{assertion}"
  sends : client.send [] message = .ok ()

/-- A line that confirms the login. -/
structure Client.Confirmed (client : Client) (line : RoomLine) : Prop where
  global : line.roomId = none
  kind : loginControlKind line.payload = some .updateuser
  named : isValidUpdateuser line.payload client.username = true

/-- What has been sent while `lines` were read: nothing up to `challenge`, and after it the one
message that answers it. -/
structure SendsOnce (client : Client) (lines before : List RoomLine) (challenge : RoomLine)
    (message : String) : Prop where
  answers : client.Answers challenge message
  comes : before ++ [challenge] <+: lines
  sent : ∀ read, read <+: lines → ∃ middle : Authentication,
    Authentication.initial.readLines client read = .ok (middle, none) ∧
      middle.sent = if read.length ≤ before.length then [] else [message]

/-- A line that does not confirm the login is an answered challenge string, or nothing is sent. -/
theorem readLine_sends {line : RoomLine}
    (h : auth.readLines client [line] = .ok (after, none)) :
    (after.loginSent = auth.loginSent ∧ after.sent = auth.sent) ∨
      (auth.loginSent = false ∧ after.loginSent = true ∧ ∃ message,
        after.sent = message :: auth.sent ∧ (auth.sent = [] → client.Answers line message)) := by
  simp only [Authentication.readLines] at h
  split at h
  · cases h
    exact .inl ⟨rfl, rfl⟩
  · rename_i hroom
    split at h
    · cases h
    · rename_i hkind
      obtain ⟨loggedIn, hlogin, h⟩ := bind_eq_ok.mp h
      cases h
      unfold Authentication.login at hlogin
      split at hlogin
      · cases hlogin
      · rename_i hfresh
        obtain ⟨challstr, hchallstr, hlogin⟩ := bind_eq_ok.mp hlogin
        obtain ⟨assertion, hassertion, hlogin⟩ := bind_eq_ok.mp hlogin
        obtain ⟨_, hsend, hlogin⟩ := bind_eq_ok.mp hlogin
        cases hlogin
        right
        refine ⟨by simpa using hfresh, rfl, _, rfl, fun hnone => ?_⟩
        rw [hnone] at hsend
        exact ⟨by simpa using hroom, hkind, ⟨challstr, assertion, hchallstr, hassertion, rfl⟩, hsend⟩
    · split at h
      · cases h
      · cases h
        split
        · exact .inl ⟨rfl, rfl⟩
        · exact .inl ⟨rfl, rfl⟩
    · cases h
      exact .inl ⟨rfl, rfl⟩

/-- Nothing has been sent, or the login has been. -/
theorem sent_of_readLines {lines : List RoomLine}
    (h : Authentication.initial.readLines client lines = .ok (after, none)) :
    (after.loginSent = false ∧ ∀ read, read <+: lines → ∃ middle : Authentication,
      Authentication.initial.readLines client read = .ok (middle, none) ∧ middle.sent = []) ∨
    (after.loginSent = true ∧ ∃ before challenge message,
      SendsOnce client lines before challenge message) := by
  induction lines using List.reverseRecOn generalizing after with
  | nil =>
    cases h
    left
    refine ⟨rfl, fun read hread => ⟨.initial, ?_, rfl⟩⟩
    rw [List.prefix_nil.mp hread]
    rfl
  | append_singleton lines line ih =>
    obtain ⟨middle, hlines, hline⟩ := exists_readLines_of_append h
    rcases ih hlines with ⟨hfresh, hnone⟩ | ⟨hsent, before, challenge, message, honce⟩
    · obtain ⟨same, hsame, hmiddle⟩ := hnone lines List.prefix_rfl
      obtain rfl : same = middle := by
        rw [hlines] at hsame
        cases hsame
        rfl
      rcases readLine_sends hline with ⟨hlogin, hsent⟩ | ⟨-, hlogin, message, hsent, hanswers⟩
      · left
        refine ⟨hlogin.trans hfresh, fun read hread => ?_⟩
        rcases List.prefix_concat_iff.mp hread with rfl | hread
        · exact ⟨after, h, hsent.trans hmiddle⟩
        · exact hnone read hread
      · right
        refine ⟨hlogin, lines, line, message, hanswers hmiddle, List.prefix_rfl, fun read hread => ?_⟩
        rcases List.prefix_concat_iff.mp hread with rfl | hread
        · refine ⟨after, h, ?_⟩
          rw [if_neg (by simp), hsent, hmiddle]
        · rw [if_pos hread.length_le]
          exact hnone read hread
    · -- the login has been sent, so this line is not another challenge string
      right
      rcases readLine_sends hline with ⟨hlogin, hsame⟩ | ⟨hfresh, -⟩
      · refine ⟨hlogin.trans hsent, before, challenge, message, honce.answers,
          honce.comes.trans (List.prefix_append ..), fun read hread => ?_⟩
        rcases List.prefix_concat_iff.mp hread with rfl | hread
        · obtain ⟨same, hread, hmiddle⟩ := honce.sent lines List.prefix_rfl
          rw [hlines] at hread
          cases hread
          have hlonger : ¬lines.length ≤ before.length := by
            have hcomes := honce.comes.length_le
            simp only [List.length_append, List.length_singleton] at hcomes
            omega
          rw [if_neg hlonger] at hmiddle
          refine ⟨after, h, ?_⟩
          rw [if_neg (by rw [List.length_append]; omega), hsame, hmiddle]
        · exact honce.sent read hread
      · rw [hsent] at hfresh
        cases hfresh

/-- The line that confirms the login is read after the login has been sent. -/
theorem confirmed_of_readLines {lines remaining : List RoomLine}
    (h : auth.readLines client lines = .ok (after, some remaining)) :
    ∃ early confirmation, lines = early ++ confirmation :: remaining ∧
      client.Confirmed confirmation ∧ auth.readLines client early = .ok (after, none) ∧
      after.loginSent = true := by
  induction lines generalizing auth with
  | nil => cases h
  | cons line rest ih =>
    -- a line that is read leaves the rest as it is
    have hread {middle : Authentication} (hline : auth.readLines client [line] = .ok (middle, none))
        (hrest : middle.readLines client rest = .ok (after, some remaining)) :
        ∃ early confirmation, line :: rest = early ++ confirmation :: remaining ∧
          client.Confirmed confirmation ∧ auth.readLines client early = .ok (after, none) ∧
          after.loginSent = true := by
      obtain ⟨early, confirmation, rfl, hconfirmed, hearly, hsent⟩ := ih hrest
      refine ⟨line :: early, confirmation, rfl, hconfirmed, ?_, hsent⟩
      exact (readLines_append_of_none early hline).trans hearly
    unfold Authentication.readLines at h
    by_cases hroom : line.roomId.isSome = true
    · rw [if_pos hroom] at h
      exact hread (by simp [Authentication.readLines, hroom]) h
    · rw [if_neg hroom] at h
      split at h
      · cases h
      · rename_i hkind
        obtain ⟨loggedIn, hlogin, h⟩ := bind_eq_ok.mp h
        have hline : auth.readLines client [line] = .ok (loggedIn, none) := by
          simp only [Authentication.readLines, if_neg hroom, hkind, hlogin]
          rfl
        exact hread hline h
      · rename_i hkind
        split at h
        · rename_i hvalid
          cases h
          obtain ⟨hsent, hnamed⟩ := by simpa using hvalid
          exact ⟨[], line, rfl, ⟨by simpa using hroom, hkind, hnamed⟩, rfl, hsent⟩
        · rename_i hvalid
          refine hread ?_ h
          simp only [Authentication.readLines, if_neg hroom, hkind, if_neg hvalid]
      · rename_i hkind
        refine hread ?_ h
        simp only [Authentication.readLines, if_neg hroom, hkind]

/-! ## §3 Authenticated connections -/

/-- How a connection was authenticated on `frames`: it has used `used` and `last`, whose lines up to
the one that confirms the login are `early`. -/
structure Login (client : Client) (frames : List Frame) (connected : Authenticated)
    (used : List Frame) (last : Frame) (early : List RoomLine) (confirmation : RoomLine)
    (remaining : List RoomLine) : Prop where
  frames_eq : frames = used ++ last :: connected.frames
  /-- The lines up to the confirmation are those of the used frames and the first of the last one. -/
  decoded : ∃ usedLines lastLines, used.mapM decodeFrame = .ok usedLines ∧
    decodeFrame last = .ok (lastLines ++ confirmation :: remaining) ∧
    early = usedLines.flatten ++ lastLines
  confirmed : client.Confirmed confirmation
  /-- One message is sent, in answer to a challenge string among these lines. -/
  sends : ∃ before challenge message, SendsOnce client early before challenge message
  queued : connected.queuedLines = nonLoginLines (early ++ confirmation :: remaining)

/-- Frames are read one after the other, up to the one with the line that confirms the login. -/
theorem readLines_of_authenticate {frames : List Frame} {connected : Authenticated}
    (h : authenticate client ending auth frames = .ok connected) :
    ∃ used last usedLines lastLines middle final remaining,
      frames = used ++ last :: connected.frames ∧ used.mapM decodeFrame = .ok usedLines ∧
      decodeFrame last = .ok lastLines ∧
      auth.readLines client usedLines.flatten = .ok (middle, none) ∧
      middle.readLines client lastLines = .ok (final, some remaining) ∧
      connected.queuedLines = nonLoginLines final.pending ++ nonLoginLines remaining := by
  induction frames generalizing auth with
  | nil => cases h
  | cons frame frames ih =>
    obtain ⟨lines, hlines, h⟩ := bind_eq_ok.mp h
    obtain ⟨⟨after, remaining⟩, hread, h⟩ := bind_eq_ok.mp h
    cases remaining with
    | some remaining =>
      cases h
      exact ⟨[], frame, [], lines, auth, after, remaining, rfl, rfl, hlines, rfl, hread, rfl⟩
    | none =>
      obtain ⟨used, last, usedLines, lastLines, middle, final, remaining, rfl, hused, hlast, hmiddle,
        hfinal, hqueued⟩ := ih h
      refine ⟨frame :: used, last, lines :: usedLines, lastLines, middle, final, remaining, rfl, ?_,
        hlast, ?_, hfinal, hqueued⟩
      · rw [List.mapM_cons, hlines, hused]
        rfl
      · rw [List.flatten_cons, readLines_append_of_none _ hread, hmiddle]

/-- An authenticated connection was logged in. -/
theorem Login.of_authenticate {frames : List Frame} {connected : Authenticated}
    (h : authenticate client ending .initial frames = .ok connected) :
    ∃ used last early confirmation remaining,
      Login client frames connected used last early confirmation remaining := by
  obtain ⟨used, last, usedLines, lastLines, middle, final, remaining, hframes, hused, hlast, hmiddle,
    hfinal, hqueued⟩ := readLines_of_authenticate h
  obtain ⟨lastEarly, confirmation, rfl, hconfirmed, hearly, hsent⟩ := confirmed_of_readLines hfinal
  have hread : Authentication.initial.readLines client (usedLines.flatten ++ lastEarly) =
      .ok (final, none) := (readLines_append_of_none _ hmiddle).trans hearly
  have hcompletes : Authentication.initial.readLines client
      (usedLines.flatten ++ (lastEarly ++ confirmation :: remaining)) = .ok (final, some remaining) :=
    (readLines_append_of_none _ hmiddle).trans hfinal
  refine ⟨used, last, usedLines.flatten ++ lastEarly, confirmation, remaining, hframes,
    ⟨usedLines, lastEarly, hused, hlast, rfl⟩, hconfirmed, ?_, ?_⟩
  · rcases sent_of_readLines hread with ⟨hfresh, -⟩ | ⟨-, honce⟩
    · rw [hsent] at hfresh
      cases hfresh
    · exact honce
  · have hkeeps := readLines_keeps hcompletes
    rw [hqueued, List.append_assoc]
    exact hkeeps

/-- The lines of frames that decode come before the lines of the frames after them. -/
theorem frameLines_append {first rest : List Frame} {lines : List (List RoomLine)}
    (h : first.mapM decodeFrame = .ok lines) :
    frameLines ending (first ++ rest) =
      (lines.flatten ++ (frameLines ending rest).1, (frameLines ending rest).2) := by
  induction first generalizing lines with
  | nil =>
    cases h
    rfl
  | cons frame first ih =>
    rw [List.mapM_cons] at h
    obtain ⟨head, hhead, h⟩ := bind_eq_ok.mp h
    obtain ⟨tail, htail, h⟩ := bind_eq_ok.mp h
    cases h
    simp only [List.cons_append, frameLines, hhead, ih htail, List.flatten_cons, List.append_assoc]

theorem Login.frameLines_eq {frames : List Frame} {connected : Authenticated} {used : List Frame}
    {last : Frame} {early : List RoomLine} {confirmation : RoomLine} {remaining : List RoomLine}
    (h : Login client frames connected used last early confirmation remaining) :
    frameLines ending frames = (early ++ confirmation :: remaining ++
      (frameLines ending connected.frames).1, (frameLines ending connected.frames).2) := by
  obtain ⟨usedLines, lastLines, hused, hlast, hearly⟩ := h.decoded
  rw [h.frames_eq, frameLines_append hused, hearly]
  simp only [frameLines, hlast, List.append_assoc, List.cons_append]

theorem roomLines_nonLoginLines (lines : List RoomLine) :
    (nonLoginLines lines).filter (·.roomId.isSome) = lines.filter (·.roomId.isSome) := by
  rw [nonLoginLines, List.filter_filter]
  refine List.filter_congr fun line _ => ?_
  cases hroom : line.roomId with
  | none => rfl
  | some roomId => simp [isLoginLine, hroom]

/-- The stream of an authenticated connection has the lines of all frames in order, but for the
global lines about the login in the frames up to the one that completes it; it has every room line.
While the frames are read, one message is sent, in answer to a challenge string. -/
theorem authentication_loses_no_lines (client : Client) (ending : PyException) (frames : List Frame)
    (connected : Authenticated)
    (h : authenticate client ending .initial frames = .ok connected) :
    ∃ used last early confirmation remaining,
      Login client frames connected used last early confirmation remaining ∧
      frameLines ending frames = (early ++ confirmation :: remaining ++
        (frameLines ending connected.frames).1, (frameLines ending connected.frames).2) ∧
      connected.lines ending = (nonLoginLines (early ++ confirmation :: remaining) ++
        (frameLines ending connected.frames).1, (frameLines ending frames).2) ∧
      (connected.lines ending).1.filter (·.roomId.isSome) =
        (frameLines ending frames).1.filter (·.roomId.isSome) := by
  obtain ⟨used, last, early, confirmation, remaining, hlogin⟩ := Login.of_authenticate h
  have hframes : frameLines ending frames = _ := hlogin.frameLines_eq
  have hlines : connected.lines ending = (nonLoginLines (early ++ confirmation :: remaining) ++
      (frameLines ending connected.frames).1, (frameLines ending frames).2) := by
    rw [hframes, Authenticated.lines, hlogin.queued]
  refine ⟨used, last, early, confirmation, remaining, hlogin, hframes, hlines, ?_⟩
  rw [hlines, hframes, List.filter_append, List.filter_append, roomLines_nonLoginLines]

/-! ## §4 Two logins -/

/-- An account whose assertions and messages succeed. -/
def annClient : Client where
  username := "Ann"
  assertion _ := .ok "signed"
  send _ _ := .ok ()

/-- A login on two frames, with a battle that goes on. -/
def annFrames : List Frame :=
  [.text "|updateuser| Guest 7|0|1\n|challstr|4|abc\n>battle-gen9ou-1\n|win|Bob",
   .text "|popup|hello\n|updateuser| Ann|1|1\n|updatesearch|{}", .text "|updateuser| Ann|1|2"]

def annConnected : Authenticated where
  queuedLines := [⟨some "battle-gen9ou-1", "|win|Bob"⟩, ⟨none, "|popup|hello"⟩,
    ⟨none, "|updatesearch|{}"⟩]
  frames := [.text "|updateuser| Ann|1|2"]

theorem annFrames_authenticate :
    authenticate annClient (.disconnect "closed") .initial annFrames = .ok annConnected := by
  decide +kernel

theorem ann_loses_no_lines :
    authenticate annClient (.disconnect "closed") .initial annFrames = .ok annConnected ∧
    ∃ used last early confirmation remaining,
      Login annClient annFrames annConnected used last early confirmation remaining ∧
      frameLines (.disconnect "closed") annFrames = (early ++ confirmation :: remaining ++
        (frameLines (.disconnect "closed") annConnected.frames).1,
        (frameLines (.disconnect "closed") annConnected.frames).2) ∧
      annConnected.lines (.disconnect "closed") =
        (nonLoginLines (early ++ confirmation :: remaining) ++
          (frameLines (.disconnect "closed") annConnected.frames).1,
          (frameLines (.disconnect "closed") annFrames).2) ∧
      (annConnected.lines (.disconnect "closed")).1.filter (·.roomId.isSome) =
        (frameLines (.disconnect "closed") annFrames).1.filter (·.roomId.isSome) :=
  ⟨annFrames_authenticate, authentication_loses_no_lines annClient (.disconnect "closed") annFrames
    annConnected annFrames_authenticate⟩

/-- A global line that begins like one about the login. -/
def beginsLikeLogin (line : RoomLine) : Bool :=
  line.roomId.isNone && (Python.startsWith line.payload "|challstr" ||
    Python.startsWith line.payload "|updateuser" || Python.startsWith line.payload "|nametaken")

/-- A login on a frame with a line that only begins like one about it. -/
def annoyingFrame : Frame :=
  .text "|nametakenaway\n|challstr|4|abc\n|updateuser| Ann|1|1"

/-- A line is left out by its message type, not by how it begins. -/
theorem nametakenaway_kept :
    ¬∀ (client : Client) (ending : PyException) (frames : List Frame) (connected : Authenticated),
      authenticate client ending .initial frames = .ok connected →
      ∃ used usedLines, frames = used ++ connected.frames ∧ used.mapM decodeFrame = .ok usedLines ∧
        (connected.lines ending).1 = usedLines.flatten.filter (fun line => !beginsLikeLogin line) ++
          (frameLines ending connected.frames).1 := by
  intro h
  obtain ⟨used, usedLines, hframes, hused, hlines⟩ := h annClient (.disconnect "closed")
    [annoyingFrame] ⟨[⟨none, "|nametakenaway"⟩], []⟩ (by decide +kernel)
  obtain rfl : used = [annoyingFrame] := by simpa using hframes.symm
  have hdecoded : [annoyingFrame].mapM decodeFrame = .ok [[⟨none, "|nametakenaway"⟩,
      ⟨none, "|challstr|4|abc"⟩, ⟨none, "|updateuser| Ann|1|1"⟩]] := by decide +kernel
  rw [hdecoded] at hused
  cases hused
  exact absurd hlines (by decide +kernel)

end BattleBelief
