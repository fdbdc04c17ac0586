import BattleBelief.Library.Outcomes
import BattleBelief.Library.Runs
import BattleBelief.Oracle.ProtocolDecoder

/-!
# Chunking

What the decoder makes of a stream, whatever the chunks that it arrives in:

- `feedAll_eq_ok`: the messages are those of the frames of the whole stream
- `chunking_invariant_iff`: the chunks matter for exactly the streams that can be decoded and have
  a frame which, with the first half of its delimiter, does not fit into the buffer
-/

namespace BattleBelief.Oracle

open Delimiters Runs ShowdownProtocolDecoder

/-- What is returned does not depend on how errors are dressed. -/
theorem mapError_eq_ok {κ κ' α : Type} {x : Except κ α} {f : κ → κ'} {a : α} :
    x.mapError f = .ok a ↔ x = .ok a := by
  cases x with
  | ok b => simp only [Except.mapError, Except.ok.injEq]
  | error err => exact iff_of_false nofun nofun

section Decoder

variable [Python.NormalForms] [JsonModule] [Rfc8785] {d t u : ShowdownProtocolDecoder}
  {frame chunk stream rest : List Nat} {frames frames' chunks : List (List Nat)}
  {message : ProtocolMessage} {messages messages' : List ProtocolMessage}

/-! ## §1 One frame -/

/-- What a decoded frame does to the decoder. -/
inductive FrameStep (d : ShowdownProtocolDecoder) : ProtocolMessage → ShowdownProtocolDecoder → Prop where
  | update (lines : List String) : FrameStep d (.updateMessage lines) { d with started := true }
  | request (side : PlayerSide) (lines : List String) (requestJson : List Nat)
      (hstarted : d.started = true) : FrameStep d (.sideUpdateMessage side lines requestJson) d
  | choiceError (side : PlayerSide) (line : String) : FrameStep d (.sideErrorMessage side line) d
  | endMessage (logJson : List Nat) (hstarted : d.started = true) :
      FrameStep d (.endMessage logJson) { d with ended := true }

omit [Python.NormalForms] [JsonModule] [Rfc8785] in
theorem decodeUpdate_eq_ok {lines : List String} (h : decodeUpdate lines = .ok message) :
    message = .updateMessage (semanticLines lines) := by
  obtain ⟨-, -, h⟩ := bind_eq_ok.mp h
  exact (Except.ok.inj h).symm

theorem decodeSideupdate_eq_ok {lines : List String} (h : decodeSideupdate lines = .ok message) :
    (∃ side lines requestJson, message = .sideUpdateMessage side lines requestJson) ∨
      ∃ side line, message = .sideErrorMessage side line := by
  unfold decodeSideupdate at h
  split at h
  · next player line =>
    split at h
    · cases h
    · next side _ =>
      split_ifs at h
      · exact .inr ⟨side, line, (Except.ok.inj h).symm⟩
      · cases h
      · obtain ⟨requestJson, -, h⟩ := bind_eq_ok.mp h
        split at h
        · cases h
        · exact .inl ⟨side, _, requestJson, (Except.ok.inj h).symm⟩
  · cases h

theorem decodeEnd_eq_ok {lines : List String} (h : decodeEnd lines = .ok message) :
    ∃ logJson, message = .endMessage logJson := by
  unfold decodeEnd at h
  split at h
  · obtain ⟨logJson, -, h⟩ := map_eq_ok.mp h
    exact ⟨logJson, h.symm⟩
  · cases h

/-- A frame that is decoded comes before the end, and takes one of these steps. -/
theorem decodeFrame_step (h : d.decodeFrame frame = .ok (message, t)) :
    d.ended = false ∧ FrameStep d message t := by
  unfold decodeFrame at h
  split at h
  · cases h
  split at h
  · cases h
  split at h
  · cases h
  simp only at h
  split at h
  · cases h
  next hended =>
  refine ⟨by simpa using hended, ?_⟩
  split at h
  · obtain ⟨update, hupdate, h⟩ := bind_eq_ok.mp h
    obtain rfl := decodeUpdate_eq_ok hupdate
    cases h
    exact .update _
  · obtain ⟨side, hside, h⟩ := bind_eq_ok.mp h
    rcases decodeSideupdate_eq_ok hside with ⟨side, lines, requestJson, rfl⟩ | ⟨side, line, rfl⟩
    · simp only at h
      split_ifs at h with hstarted
      · cases h
      · cases h
        exact .request side lines requestJson (by simpa using hstarted)
    · cases h
      exact .choiceError side line
  · split at h
    · cases h
    next hstarted =>
    obtain ⟨last, hlast, h⟩ := bind_eq_ok.mp h
    obtain ⟨logJson, rfl⟩ := decodeEnd_eq_ok hlast
    cases h
    exact .endMessage logJson (by simpa using hstarted)
  · cases h

/-- A frame is decoded without regard to what else is in the buffer. -/
theorem decodeFrame_withBuffer (h : d.decodeFrame frame = .ok (message, t)) (buffer : List Nat) :
    ({ d with buffer := buffer } : ShowdownProtocolDecoder).decodeFrame frame =
      .ok (message, { t with buffer := buffer }) := by
  unfold decodeFrame at h ⊢
  split at h
  · cases h
  next hempty =>
  rw [if_neg hempty]
  split at h
  · cases h
  simp only
  split at h
  · cases h
  next hforbidden =>
  rw [if_neg hforbidden]
  simp only at h ⊢
  split at h
  · cases h
  next hended =>
  rw [if_neg hended]
  split at h
  · obtain ⟨update, hupdate, h⟩ := bind_eq_ok.mp h
    cases h
    simp only [hupdate, bind, Except.bind, pure, Except.pure]
  · obtain ⟨side, hside, h⟩ := bind_eq_ok.mp h
    simp only [hside, bind, Except.bind]
    rcases decodeSideupdate_eq_ok hside with ⟨side, lines, requestJson, rfl⟩ | ⟨side, line, rfl⟩
    · simp only at h ⊢
      split_ifs at h ⊢ with hstarted
      · cases h
      · obtain ⟨rfl, rfl⟩ := Prod.mk.inj (Except.ok.inj h)
        rfl
    · cases h
      rfl
  · split at h
    · cases h
    next hstarted =>
    obtain ⟨last, hlast, h⟩ := bind_eq_ok.mp h
    cases h
    simp only [hlast, bind, Except.bind, pure, Except.pure]
    rw [if_neg hstarted]
  · cases h

/-- The limits, and what only `feed` and `finish` write. -/
structure SameSetup (d t : ShowdownProtocolDecoder) : Prop where
  buffer : t.buffer = d.buffer
  maxFrameBytes : t.maxFrameBytes = d.maxFrameBytes
  maxBufferBytes : t.maxBufferBytes = d.maxBufferBytes
  finished : t.finished = d.finished
  failed : t.failed = d.failed

omit [Python.NormalForms] [JsonModule] [Rfc8785] in
theorem SameSetup.trans (h : SameSetup d t) (h' : SameSetup t u) : SameSetup d u :=
  ⟨h'.buffer.trans h.buffer, h'.maxFrameBytes.trans h.maxFrameBytes,
    h'.maxBufferBytes.trans h.maxBufferBytes, h'.finished.trans h.finished,
    h'.failed.trans h.failed⟩

omit [Python.NormalForms] [JsonModule] [Rfc8785] in
theorem FrameStep.sameSetup (h : FrameStep d message t) : SameSetup d t := by
  cases h <;> exact ⟨rfl, rfl, rfl, rfl, rfl⟩

/-! ## §2 Frames in order -/

/-- Frames within the limit that are decoded one after another. -/
inductive DecodesTo : ShowdownProtocolDecoder → List (List Nat) → List ProtocolMessage →
    ShowdownProtocolDecoder → Prop where
  | nil (d : ShowdownProtocolDecoder) : DecodesTo d [] [] d
  | cons {d t u : ShowdownProtocolDecoder} {frame : List Nat} {frames : List (List Nat)}
      {message : ProtocolMessage} {messages : List ProtocolMessage}
      (hlimit : (frame.length : Int) ≤ d.maxFrameBytes)
      (hframe : d.decodeFrame frame = .ok (message, t)) (hrest : DecodesTo t frames messages u) :
      DecodesTo d (frame :: frames) (message :: messages) u

theorem DecodesTo.sameSetup (h : DecodesTo d frames messages t) : SameSetup d t := by
  induction h with
  | nil d => exact ⟨rfl, rfl, rfl, rfl, rfl⟩
  | cons hlimit hframe hrest ih => exact (decodeFrame_step hframe).2.sameSetup.trans ih

theorem DecodesTo.withBuffer (h : DecodesTo d frames messages t) (buffer : List Nat) :
    DecodesTo { d with buffer := buffer } frames messages { t with buffer := buffer } := by
  induction h with
  | nil d => exact .nil _
  | cons hlimit hframe hrest ih => exact .cons hlimit (decodeFrame_withBuffer hframe buffer) ih

theorem DecodesTo.unique (h : DecodesTo d frames messages t)
    (h' : DecodesTo d frames messages' u) : messages = messages' ∧ t = u := by
  induction h generalizing messages' u with
  | nil d =>
    cases h'
    exact ⟨rfl, rfl⟩
  | cons hlimit hframe hrest ih =>
    cases h' with
    | cons hlimit' hframe' hrest' =>
      obtain ⟨rfl, rfl⟩ := Prod.mk.inj (Except.ok.inj (hframe.symm.trans hframe'))
      obtain ⟨rfl, rfl⟩ := ih hrest'
      exact ⟨rfl, rfl⟩

theorem decodesTo_append :
    DecodesTo d (frames ++ frames') messages u ↔ ∃ earlier later t, messages = earlier ++ later ∧
      DecodesTo d frames earlier t ∧ DecodesTo t frames' later u := by
  induction frames generalizing d messages with
  | nil =>
    constructor
    · intro h
      exact ⟨[], messages, d, rfl, .nil d, h⟩
    · rintro ⟨earlier, later, t, rfl, hnil, h⟩
      cases hnil
      exact h
  | cons frame frames ih =>
    constructor
    · intro h
      cases h with
      | cons hlimit hframe hrest =>
        obtain ⟨earlier, later, t, rfl, hfirst, hsecond⟩ := ih.mp hrest
        exact ⟨_ :: earlier, later, t, rfl, .cons hlimit hframe hfirst, hsecond⟩
    · rintro ⟨earlier, later, t, rfl, hfirst, hsecond⟩
      cases hfirst with
      | cons hlimit hframe hrest =>
        exact .cons hlimit hframe (ih.mpr ⟨_, later, t, rfl, hrest, hsecond⟩)

/-! ## §3 Chunks -/

/-- The frames of what is in the buffer are decoded in order, and the rest stays in the buffer. -/
inductive Consumes (d : ShowdownProtocolDecoder) (text : List Nat) :
    List ProtocolMessage → ShowdownProtocolDecoder → Prop where
  | intro {frames : List (List Nat)} {rest : List Nat} {messages : List ProtocolMessage}
      {u : ShowdownProtocolDecoder} (hcuts : Cuts delimiter text frames rest)
      (hdecodes : DecodesTo d frames messages u) :
      Consumes d text messages { u with buffer := rest }

/-- Without a delimiter nothing is decoded. -/
theorem consumes_of_none (hnone : cut delimiter d.buffer = none) :
    Consumes d d.buffer messages t ↔ messages = [] ∧ t = d := by
  constructor
  · rintro ⟨hcuts, hdecodes⟩
    obtain ⟨rfl, rfl⟩ := hcuts.unique (.rest hnone)
    cases hdecodes
    exact ⟨rfl, rfl⟩
  · rintro ⟨rfl, rfl⟩
    exact .intro (.rest hnone) (.nil t)

/-- The first frame, then the others. -/
theorem consumes_of_cut (hcut : cut delimiter d.buffer = some (frame, rest)) :
    Consumes d d.buffer messages u ↔ (frame.length : Int) ≤ d.maxFrameBytes ∧
      ∃ message later t, ({ d with buffer := rest } : ShowdownProtocolDecoder).decodeFrame frame =
        .ok (message, t) ∧ Consumes t t.buffer later u ∧ messages = message :: later := by
  constructor
  · rintro ⟨hcuts, hdecodes⟩
    cases hcuts with
    | rest hnone =>
      rw [hnone] at hcut
      cases hcut
    | piece hfirst hafter =>
      obtain ⟨rfl, rfl⟩ := Prod.mk.inj (Option.some.inj (hcut.symm.trans hfirst))
      cases hdecodes with
      | cons hlimit hframe hrest =>
        have hlater := Consumes.intro hafter (hrest.withBuffer rest)
        exact ⟨hlimit, _, _, _, decodeFrame_withBuffer hframe rest, hlater, rfl⟩
  · rintro ⟨hlimit, message, later, t, hframe, ⟨hcuts, hdecodes⟩, rfl⟩
    have hbuffer : t.buffer = rest := (decodeFrame_step hframe).2.sameSetup.buffer
    rw [hbuffer] at hcuts
    have hback := decodeFrame_withBuffer hframe d.buffer
    have hall := Consumes.intro (.piece hcut hcuts)
      (.cons hlimit hback (hdecodes.withBuffer d.buffer))
    exact hall

/-- The loop returns once it has decoded all the frames in the buffer. -/
theorem drain_eq_ok {rounds : Nat} (hrounds : d.buffer.length ≤ rounds) :
    drain rounds d = .ok (messages, t) ↔ Consumes d d.buffer messages t := by
  induction rounds generalizing d messages with
  | zero =>
    have hempty : d.buffer = [] := List.length_eq_zero_iff.mp (Nat.le_zero.mp hrounds)
    rw [consumes_of_none (by rw [hempty]; rfl), drain, Except.ok.injEq, Prod.mk.injEq]
    exact and_congr eq_comm eq_comm
  | succ rounds ih =>
    cases hcut : cut delimiter d.buffer with
    | none =>
      simp only [drain, hcut, Except.ok.injEq, Prod.mk.injEq, consumes_of_none hcut]
      exact and_congr eq_comm eq_comm
    | some parts =>
      obtain ⟨frame, rest⟩ := parts
      have hlength := congrArg List.length (append_of_cut hcut)
      simp only [List.length_append, delimiter, List.length_cons, List.length_nil] at hlength
      rw [consumes_of_cut hcut]
      simp only [drain, hcut]
      split_ifs with hlimit
      · exact iff_of_false nofun fun h => absurd h.1 (not_le.mpr hlimit)
      constructor
      · intro h
        obtain ⟨⟨message, next⟩, hframe, h⟩ := bind_eq_ok.mp h
        obtain ⟨⟨later, last⟩, hlater, h⟩ := bind_eq_ok.mp h
        have hframe := mapError_eq_ok.mp hframe
        have hbuffer : next.buffer = rest := (decodeFrame_step hframe).2.sameSetup.buffer
        cases h
        exact ⟨not_lt.mp hlimit, message, later, next, hframe,
          (ih (by rw [hbuffer]; omega)).mp hlater, rfl⟩
      · rintro ⟨-, message, later, next, hframe, hconsumes, rfl⟩
        have hbuffer : next.buffer = rest := (decodeFrame_step hframe).2.sameSetup.buffer
        refine bind_eq_ok.mpr ⟨_, mapError_eq_ok.mpr hframe, ?_⟩
        exact bind_eq_ok.mpr ⟨_, (ih (by rw [hbuffer]; omega)).mpr hconsumes, rfl⟩

omit [Python.NormalForms] [JsonModule] [Rfc8785] in
theorem delimiter_ne_nil : delimiter ≠ [] := by decide

theorem Consumes.sameLimits (h : Consumes d stream messages t) :
    t.maxFrameBytes = d.maxFrameBytes ∧ t.maxBufferBytes = d.maxBufferBytes ∧
      t.finished = d.finished ∧ t.failed = d.failed := by
  obtain ⟨hcuts, hdecodes⟩ := h
  have hsame := hdecodes.sameSetup
  exact ⟨hsame.maxFrameBytes, hsame.maxBufferBytes, hsame.finished, hsame.failed⟩

theorem consumes_withBuffer (buffer : List Nat) :
    Consumes { d with buffer := buffer } stream messages t ↔ Consumes d stream messages t := by
  constructor
  · rintro ⟨hcuts, hdecodes⟩
    have hback := Consumes.intro hcuts (hdecodes.withBuffer d.buffer)
    exact hback
  · rintro ⟨hcuts, hdecodes⟩
    have hmoved := Consumes.intro hcuts (hdecodes.withBuffer buffer)
    exact hmoved

/-- Frames are consumed as they arrive, the rest in the buffer before what comes next. -/
theorem consumes_append {more : List Nat} :
    Consumes d (stream ++ more) messages u ↔ ∃ earlier later t, Consumes d stream earlier t ∧
      Consumes t (t.buffer ++ more) later u ∧ messages = earlier ++ later := by
  constructor
  · rintro ⟨hcuts, hdecodes⟩
    obtain ⟨first, left, hfirst⟩ := exists_cuts delimiter_ne_nil stream
    obtain ⟨second, last, hsecond⟩ := exists_cuts delimiter_ne_nil (left ++ more)
    obtain ⟨rfl, rfl⟩ := hcuts.unique (hfirst.append hsecond)
    obtain ⟨earlier, later, t, rfl, hearlier, hlater⟩ := decodesTo_append.mp hdecodes
    have hmoved := Consumes.intro hsecond (hlater.withBuffer left)
    exact ⟨earlier, later, _, .intro hfirst hearlier, hmoved, rfl⟩
  · rintro ⟨earlier, later, t, hfirst, hsecond, rfl⟩
    cases hfirst with
    | @intro frames left _ v hcuts hdecodes =>
      cases hsecond with
      | intro hmore hlater =>
        have hback := hlater.withBuffer v.buffer
        have hall := Consumes.intro (hcuts.append hmore)
          (decodesTo_append.mpr ⟨earlier, later, v, rfl, hdecodes, hback⟩)
        exact hall

/-! ## §3 Chunks -/

/-- Neither failed nor finished. -/
structure Running (d : ShowdownProtocolDecoder) : Prop where
  failed : d.failed = false
  finished : d.finished = false

def bufferLimit (d : ShowdownProtocolDecoder) : Int := min d.maxFrameBytes d.maxBufferBytes

theorem feed_eq_ok (h : Running d) :
    d.feed chunk = .ok (messages, t) ↔ Consumes d (d.buffer ++ chunk) messages t ∧
      (t.buffer.length : Int) ≤ bufferLimit d := by
  rw [feed, if_neg (by simp [h.failed]), if_neg (by simp [h.finished]), mapError_eq_ok]
  have hdrain : ∀ earlier u, drain (d.buffer ++ chunk).length
      { d with buffer := d.buffer ++ chunk } = .ok (earlier, u) ↔
        Consumes d (d.buffer ++ chunk) earlier u := by
    intro earlier u
    rw [← consumes_withBuffer (d.buffer ++ chunk)]
    exact drain_eq_ok (le_refl _)
  unfold consume
  simp only
  constructor
  · intro h
    obtain ⟨⟨earlier, u⟩, hconsumes, h⟩ := bind_eq_ok.mp h
    have hconsumes := (hdrain earlier u).mp hconsumes
    obtain ⟨hframe, hbuffer, -, -⟩ := hconsumes.sameLimits
    split_ifs at h with hlimit
    · cases h
    · cases h
      rw [hframe, hbuffer] at hlimit
      exact ⟨hconsumes, not_lt.mp hlimit⟩
  · rintro ⟨hconsumes, hlimit⟩
    obtain ⟨hframe, hbuffer, -, -⟩ := hconsumes.sameLimits
    refine bind_eq_ok.mpr ⟨_, (hdrain messages t).mpr hconsumes, ?_⟩
    simp only [hframe, hbuffer]
    exact if_neg (not_lt.mpr hlimit)

/-- After each of the chunks, what is left in the buffer fits into it. -/
def Fits (limit : Int) : List Nat → List (List Nat) → Prop
  | _, [] => True
  | buffer, chunk :: chunks => ∀ frames left, Cuts delimiter (buffer ++ chunk) frames left →
      (left.length : Int) ≤ limit ∧ Fits limit left chunks

theorem Consumes.cut_buffer (h : Consumes d stream messages t) :
    cut delimiter t.buffer = none := by
  obtain ⟨hcuts, -⟩ := h
  exact hcuts.cut_rest

/-- The messages of the chunks are those of the stream that they make up. -/
theorem feedAll_eq_ok (h : Running d) (hnone : cut delimiter d.buffer = none) :
    feedAll d chunks = .ok (messages, t) ↔ Consumes d (d.buffer ++ chunks.flatten) messages t ∧
      Fits (bufferLimit d) d.buffer chunks := by
  induction chunks generalizing d messages with
  | nil =>
    rw [List.flatten_nil, List.append_nil, consumes_of_none hnone, feedAll, Except.ok.injEq,
      Prod.mk.injEq]
    simp only [Fits, and_true]
    exact and_congr eq_comm eq_comm
  | cons chunk chunks ih =>
    rw [List.flatten_cons, ← List.append_assoc, consumes_append, feedAll]
    have hnext : ∀ {earlier next}, Consumes d (d.buffer ++ chunk) earlier next →
        Running next ∧ bufferLimit next = bufferLimit d ∧ ∃ frames,
          Cuts delimiter (d.buffer ++ chunk) frames next.buffer := by
      intro earlier next hconsumes
      obtain ⟨hframe, hbuffer, hfinished, hfailed⟩ := hconsumes.sameLimits
      refine ⟨⟨hfailed.trans h.failed, hfinished.trans h.finished⟩, ?_, ?_⟩
      · rw [bufferLimit, hframe, hbuffer]
        rfl
      · obtain ⟨hcuts, -⟩ := hconsumes
        exact ⟨_, hcuts⟩
    constructor
    · intro hfeed
      obtain ⟨⟨earlier, next⟩, hfirst, hfeed⟩ := bind_eq_ok.mp hfeed
      obtain ⟨⟨later, last⟩, hlater, hfeed⟩ := bind_eq_ok.mp hfeed
      cases hfeed
      obtain ⟨hconsumes, hfits⟩ := (feed_eq_ok h).mp hfirst
      obtain ⟨hrunning, hlimit, frames, hcuts⟩ := hnext hconsumes
      obtain ⟨hrest, hfitsLater⟩ := (ih hrunning hconsumes.cut_buffer).mp hlater
      refine ⟨⟨earlier, later, next, hconsumes, hrest, rfl⟩, fun frames' left hleft => ?_⟩
      obtain ⟨-, rfl⟩ := hleft.unique hcuts
      exact ⟨hfits, hlimit ▸ hfitsLater⟩
    · rintro ⟨⟨earlier, later, next, hconsumes, hrest, rfl⟩, hfits⟩
      obtain ⟨hrunning, hlimit, frames, hcuts⟩ := hnext hconsumes
      obtain ⟨hleft, hfitsLater⟩ := hfits frames next.buffer hcuts
      refine bind_eq_ok.mpr ⟨_, (feed_eq_ok h).mpr ⟨hconsumes, hleft⟩, ?_⟩
      refine bind_eq_ok.mpr ⟨(later, t), ?_, rfl⟩
      exact (ih hrunning hconsumes.cut_buffer).mpr ⟨hrest, hlimit.symm ▸ hfitsLater⟩

/-! ## §4 Streams -/

omit [Python.NormalForms] [JsonModule] [Rfc8785] in
theorem create_eq_ok {maxFrameBytes maxBufferBytes : Int} :
    create maxFrameBytes maxBufferBytes = .ok d ↔ 0 < maxFrameBytes ∧ 0 < maxBufferBytes ∧
      d = ⟨maxFrameBytes, maxBufferBytes, [], false, false, false, false⟩ := by
  unfold create
  split_ifs with h
  · refine iff_of_false nofun fun hpos => ?_
    simp only [Bool.or_eq_true, decide_eq_true_eq] at h
    omega
  · simp only [Bool.or_eq_true, decide_eq_true_eq, not_or, not_le] at h
    rw [Except.ok.injEq, eq_comm]
    exact ⟨fun heq => ⟨h.1, h.2, heq⟩, fun heq => heq.2.2⟩

omit [Python.NormalForms] [JsonModule] [Rfc8785] in
theorem finish_eq_ok (h : Running d) :
    d.finish = .ok t ↔ d.buffer = [] ∧ d.ended = true ∧ t = { d with finished := true } := by
  rw [finish, if_neg (by simp [h.finished]), if_neg (by simp [h.failed])]
  simp only
  split_ifs with hbuffer hutf8 hended
  · exact iff_of_false nofun fun hall => hbuffer hall.1
  · exact iff_of_false nofun fun hall => hbuffer hall.1
  · exact iff_of_false nofun fun hall => by simp [hall.2.1] at hended
  · rw [Except.ok.injEq]
    refine ⟨fun heq => ⟨not_not.mp hbuffer, by simpa using hended, heq.symm⟩, fun hall => ?_⟩
    exact hall.2.2.symm

/-- The stream is a sequence of frames within the limit, each with its delimiter, that are decoded
in order up to the terminal message. -/
structure WellFramed (d : ShowdownProtocolDecoder) (stream : List Nat) (frames : List (List Nat))
    (messages : List ProtocolMessage) : Prop where
  cuts : Cuts delimiter stream frames []
  decodes : ∃ t, DecodesTo d frames messages t ∧ t.ended = true

theorem WellFramed.unique (h : WellFramed d stream frames messages)
    (h' : WellFramed d stream frames' messages') : frames = frames' ∧ messages = messages' := by
  obtain ⟨rfl, -⟩ := h.cuts.unique h'.cuts
  obtain ⟨t, hdecodes, -⟩ := h.decodes
  obtain ⟨u, hdecodes', -⟩ := h'.decodes
  exact ⟨rfl, (hdecodes.unique hdecodes').1⟩

/-- The chunks are decoded exactly if their stream can be and what is left after each chunk fits
into the buffer. -/
theorem decodeStream_eq_ok (h : Running d) (hempty : d.buffer = []) :
    d.decodeStream chunks = .ok messages ↔
      (∃ frames, WellFramed d chunks.flatten frames messages) ∧ Fits (bufferLimit d) [] chunks := by
  have hall : ∀ {messages t}, feedAll d chunks = .ok (messages, t) ↔
      Consumes d (d.buffer ++ chunks.flatten) messages t ∧
        Fits (bufferLimit d) d.buffer chunks :=
    feedAll_eq_ok h (by rw [hempty]; rfl)
  rw [hempty, List.nil_append] at hall
  unfold decodeStream
  constructor
  · intro hstream
    obtain ⟨⟨earlier, u⟩, hfeed, hstream⟩ := bind_eq_ok.mp hstream
    obtain ⟨last, hfinish, hstream⟩ := bind_eq_ok.mp hstream
    cases hstream
    obtain ⟨hconsumes, hfits⟩ := hall.mp hfeed
    obtain ⟨-, -, hfinished, hfailed⟩ := hconsumes.sameLimits
    obtain ⟨hbuffer, hended, -⟩ :=
      (finish_eq_ok ⟨hfailed.trans h.failed, hfinished.trans h.finished⟩).mp hfinish
    cases hconsumes with
    | @intro frames rest _ v hcuts hdecodes =>
      obtain rfl : rest = [] := hbuffer
      exact ⟨⟨frames, hcuts, v, hdecodes, hended⟩, hfits⟩
  · rintro ⟨⟨frames, hcuts, t, hdecodes, hended⟩, hfits⟩
    have hconsumes := Consumes.intro hcuts hdecodes
    obtain ⟨-, -, hfinished, hfailed⟩ := hconsumes.sameLimits
    refine bind_eq_ok.mpr ⟨_, hall.mpr ⟨hconsumes, hfits⟩, ?_⟩
    refine bind_eq_ok.mpr ⟨_, (finish_eq_ok ?_).mpr ⟨rfl, hended, rfl⟩, rfl⟩
    exact ⟨hfailed.trans h.failed, hfinished.trans h.finished⟩

omit [Python.NormalForms] [JsonModule] [Rfc8785] in
/-- Where every frame fits with one more byte, all chunks do. -/
theorem fits_of_short {limit : Int} (hpos : 0 ≤ limit) {buffer : List Nat}
    (hcuts : Cuts delimiter (buffer ++ chunks.flatten) frames [])
    (hshort : ∀ frame ∈ frames, (frame.length : Int) < limit) : Fits limit buffer chunks := by
  induction chunks generalizing buffer frames with
  | nil => trivial
  | cons chunk chunks ih =>
    intro earlier left hleft
    rw [List.flatten_cons, ← List.append_assoc] at hcuts
    constructor
    · by_cases hnil : left = []
      · rw [hnil]
        exact hpos
      · obtain ⟨frame, hmem, hlength⟩ := hleft.length_rest_lt delimiter_ne_nil hcuts hnil
        have hframe := hshort frame hmem
        simp only [delimiter, List.length_cons, List.length_nil] at hlength
        omega
    · obtain ⟨later, last, hlater⟩ := exists_cuts delimiter_ne_nil (left ++ chunks.flatten)
      obtain ⟨rfl, rfl⟩ := hcuts.unique (hleft.append hlater)
      exact ih hlater fun frame hmem => hshort frame (List.mem_append_right _ hmem)

/-- **Chunking.** For a decoder with any limits that its constructor accepts, all the ways to cut a
stream into chunks give the same messages, or all fail, exactly if the stream cannot be decoded, or
each of its frames is shorter than both limits. -/
theorem chunking_invariant_iff {maxFrameBytes maxBufferBytes : Int}
    (h : create maxFrameBytes maxBufferBytes = .ok d) (stream : List Nat) :
    (∀ chunks chunks', chunks.flatten = stream → chunks'.flatten = stream → ∀ messages,
        d.decodeStream chunks = .ok messages ↔ d.decodeStream chunks' = .ok messages) ↔
      ∀ frames messages, WellFramed d stream frames messages →
        ∀ frame ∈ frames, (frame.length : Int) < min maxFrameBytes maxBufferBytes := by
  obtain ⟨hframe, hbuffer, hd⟩ := create_eq_ok.mp h
  have hrunning : Running d := by
    rw [hd]
    exact ⟨rfl, rfl⟩
  have hempty : d.buffer = [] := by rw [hd]
  have hlimit : bufferLimit d = min maxFrameBytes maxBufferBytes := by
    rw [hd]
    rfl
  constructor
  · intro hsame frames messages hstream frame hmem
    -- cut the stream between the two line feeds behind the frame
    have hcuts : Cuts ([10] ++ [10]) stream frames [] := hstream.cuts
    obtain ⟨front, more, earlier, rfl, hfront⟩ := hcuts.exists_prefix hmem
    have hwhole : d.decodeStream [front ++ more] = .ok messages := by
      refine (decodeStream_eq_ok hrunning hempty).mpr ⟨⟨frames, ?_⟩, fun pieces left hleft => ?_⟩
      · rw [List.flatten_singleton]
        exact hstream
      · obtain ⟨-, rfl⟩ := hleft.unique hstream.cuts
        exact ⟨by rw [hlimit, List.length_nil]; omega, trivial⟩
    have hsplit := (hsame [front ++ more] [front, more] List.flatten_singleton (by simp)
      messages).mp hwhole
    obtain ⟨-, hfits⟩ := (decodeStream_eq_ok hrunning hempty).mp hsplit
    have hleft := (hfits earlier _ hfront).1
    rw [hlimit, List.length_append, List.length_singleton] at hleft
    push_cast at hleft
    omega
  · intro hshort
    have hdecodes : ∀ chunks, chunks.flatten = stream → ∀ messages,
        d.decodeStream chunks = .ok messages ↔ ∃ frames, WellFramed d stream frames messages := by
      rintro chunks rfl messages
      rw [decodeStream_eq_ok hrunning hempty, hlimit]
      refine and_iff_left_of_imp ?_
      rintro ⟨frames, hstream⟩
      exact fits_of_short (by omega) hstream.cuts (hshort frames messages hstream)
    intro chunks chunks' hchunks hchunks' messages
    rw [hdecodes chunks hchunks, hdecodes chunks' hchunks']

end Decoder

/-! ## §5 A frame at its limit -/

/-- A parser that knows the empty object. -/
@[reducible] def emptyObjectJson : JsonModule where
  loads hooks text :=
    if text = "\x7b\x7d" then hooks.objectPairs []
    else .error (.valueError "Expecting value: line 1 column 1 (char 0)")
  float text := text

def utf8 (text : String) : List Nat := Python.encodeUtf8 text.toList

/-- An update of nine bytes. -/
def nineBytes : List Nat := utf8 "update\n|x"

def emptyEnd : List Nat := utf8 "end\n\x7b\x7d"

/-- The shortest battle that there is. -/
def shortStream : List Nat := nineBytes ++ delimiter ++ emptyEnd ++ delimiter

def shortMessages : List ProtocolMessage := [.updateMessage ["|x"], .endMessage (utf8 "\x7b\x7d")]

def decoderWithLimit (limit : Int) : ShowdownProtocolDecoder :=
  ⟨limit, limit, [], false, false, false, false⟩

/-- With limits of nine bytes, the update is decoded if its delimiter comes along with it, and
refused if only half of the delimiter does. -/
theorem split_delimiter_refused :
    letI := Python.plainForms
    letI := emptyObjectJson
    letI := compactCanonicalizer
    create 9 9 = .ok (decoderWithLimit 9) ∧
      (decoderWithLimit 9).decodeStream [shortStream] = .ok shortMessages ∧
      (shortStream.take 10 ++ shortStream.drop 10 = shortStream) ∧
      ∀ messages, (decoderWithLimit 9).decodeStream [shortStream.take 10, shortStream.drop 10] ≠
        .ok messages := by
  let _ := Python.plainForms
  let _ := emptyObjectJson
  let _ := compactCanonicalizer
  refine ⟨rfl, by decide +kernel, by decide +kernel, fun messages h => ?_⟩
  have herror : ((decoderWithLimit 9).decodeStream
      [shortStream.take 10, shortStream.drop 10]).isOk = false := by decide +kernel
  rw [h] at herror
  cases herror

theorem shortStream_cuts : Cuts delimiter shortStream [nineBytes, emptyEnd] [] := by
  have hfirst : cut delimiter shortStream = some (nineBytes, emptyEnd ++ delimiter) := by
    decide +kernel
  have hsecond : cut delimiter (emptyEnd ++ delimiter) = some (emptyEnd, []) := by decide +kernel
  exact .piece hfirst (.piece hsecond (.rest rfl))

/-- With limits of ten bytes the chunks do not matter. -/
theorem shortStream_chunks :
    letI := Python.plainForms
    letI := emptyObjectJson
    letI := compactCanonicalizer
    ¬∃ chunks, chunks.flatten = shortStream ∧
      (decoderWithLimit 10).decodeStream chunks ≠ .ok shortMessages := by
  let _ := Python.plainForms
  let _ := emptyObjectJson
  let _ := compactCanonicalizer
  rintro ⟨chunks, hchunks, hother⟩
  apply hother
  have hcreate : create 10 10 = .ok (decoderWithLimit 10) := rfl
  have hsame := (chunking_invariant_iff hcreate shortStream).mpr fun frames messages hstream => ?_
  · refine (hsame [shortStream] chunks List.flatten_singleton hchunks shortMessages).mp ?_
    decide +kernel
  · obtain ⟨rfl, -⟩ := hstream.cuts.unique shortStream_cuts
    decide +kernel

end BattleBelief.Oracle
