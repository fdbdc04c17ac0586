import BattleBelief.Oracle.Chunking

/-!
# The Stream Protocol

What the decoder guarantees about a whole stream, and about any sequence of calls:

- `StartsBefore`, `EndsOnce`: the order of the messages
- `stream_protocol`: the messages, the bytes they come from, and what follows a failure
-/

namespace BattleBelief.Oracle

open Delimiters Outcomes Runs ShowdownProtocolDecoder

/-! ## §1 Messages in order -/

def ProtocolMessage.isEnd : ProtocolMessage → Bool
  | .endMessage _ => true
  | _ => false

/-- The messages that need a battle that has started. -/
def ProtocolMessage.needsStart : ProtocolMessage → Bool
  | .sideUpdateMessage .. => true
  | .endMessage _ => true
  | _ => false

/-- An update comes before every request and before the end. -/
def StartsBefore (messages : List ProtocolMessage) : Prop :=
  ∀ earlier message later, messages = earlier ++ message :: later → message.needsStart = true →
    ∃ lines, .updateMessage lines ∈ earlier

/-- There is one end message, and it is the last message. -/
def EndsOnce (messages : List ProtocolMessage) : Prop :=
  ∃ earlier logJson, messages = earlier ++ [.endMessage logJson] ∧
    ∀ message ∈ earlier, message.isEnd = false

section Decoder

variable [Python.NormalForms] [JsonModule] [Rfc8785] {d t u : ShowdownProtocolDecoder}
  {frame chunk stream : List Nat} {frames chunks : List (List Nat)}
  {message : ProtocolMessage} {messages : List ProtocolMessage}

/-- The flags tell what has been decoded so far. -/
structure Tracks (d : ShowdownProtocolDecoder) (seen : List ProtocolMessage) : Prop where
  started : d.started = true → ∃ lines, .updateMessage lines ∈ seen
  running : d.ended = false → ∀ message ∈ seen, message.isEnd = false
  ended : d.ended = true → EndsOnce seen
  ordered : StartsBefore seen

omit [Python.NormalForms] [JsonModule] [Rfc8785] in
theorem StartsBefore.concat {seen : List ProtocolMessage} (h : StartsBefore seen)
    (hlast : message.needsStart = true → ∃ lines, .updateMessage lines ∈ seen) :
    StartsBefore (seen ++ [message]) := by
  intro earlier other later heq hneeds
  rcases List.eq_nil_or_concat later with rfl | ⟨front, last, rfl⟩
  · obtain ⟨rfl, hsame⟩ := List.append_inj' heq rfl
    obtain rfl := (List.cons.inj hsame).1
    exact hlast hneeds
  · have hsplit : seen ++ [message] = (earlier ++ other :: front) ++ [last] := by
      rw [heq]
      simp
    obtain ⟨rfl, -⟩ := List.append_inj' hsplit rfl
    exact h earlier other front rfl hneeds

/-- The step lemma: one more frame. -/
theorem Tracks.step {seen : List ProtocolMessage} (h : Tracks d seen)
    (hframe : d.decodeFrame frame = .ok (message, t)) : Tracks t (seen ++ [message]) := by
  obtain ⟨hrunning, hstep⟩ := decodeFrame_step hframe
  have hseen := h.running hrunning
  have hnone : ∀ {message : ProtocolMessage}, message.isEnd = false →
      ∀ other ∈ seen ++ [message], other.isEnd = false := by
    intro message hmessage other hmem
    rcases List.mem_append.mp hmem with hold | hnew
    · exact hseen other hold
    · rw [List.mem_singleton.mp hnew]
      exact hmessage
  cases hstep with
  | update lines =>
    refine ⟨fun _ => ⟨lines, by simp⟩, fun _ => hnone rfl, fun hended => ?_, h.ordered.concat nofun⟩
    rw [hrunning] at hended
    cases hended
  | request side lines requestJson hstarted =>
    refine ⟨fun _ => ?_, fun _ => hnone rfl, fun hended => ?_,
      h.ordered.concat fun _ => h.started hstarted⟩
    · obtain ⟨lines, hmem⟩ := h.started hstarted
      exact ⟨lines, List.mem_append_left _ hmem⟩
    · rw [hrunning] at hended
      cases hended
  | choiceError side line =>
    refine ⟨fun hstarted => ?_, fun _ => hnone rfl, fun hended => ?_, h.ordered.concat nofun⟩
    · obtain ⟨lines, hmem⟩ := h.started hstarted
      exact ⟨lines, List.mem_append_left _ hmem⟩
    · rw [hrunning] at hended
      cases hended
  | endMessage logJson hstarted =>
    refine ⟨fun _ => ?_, nofun, fun _ => ⟨seen, logJson, rfl, hseen⟩,
      h.ordered.concat fun _ => h.started hstarted⟩
    obtain ⟨lines, hmem⟩ := h.started hstarted
    exact ⟨lines, List.mem_append_left _ hmem⟩

/-- The run lemma: all the frames. -/
theorem Tracks.run {seen : List ProtocolMessage} (h : Tracks d seen)
    (hdecodes : DecodesTo d frames messages t) : Tracks t (seen ++ messages) := by
  induction hdecodes generalizing seen with
  | nil d =>
    rw [List.append_nil]
    exact h
  | cons hlimit hframe hrest ih =>
    have hnext := ih (h.step hframe)
    rw [List.append_assoc] at hnext
    exact hnext

/-! ## §2 Calls -/

inductive Call where
  | feed (chunk : List Nat)
  | finish

/-- The decoder after a call, whether it returned or raised. -/
def ShowdownProtocolDecoder.after (d : ShowdownProtocolDecoder) : Call → ShowdownProtocolDecoder
  | .feed chunk =>
      match d.feed chunk with
      | .ok (_, t) => t
      | .error halted => halted.decoder
  | .finish =>
      match d.finish with
      | .ok t => t
      | .error halted => halted.decoder

def ShowdownProtocolDecoder.afterAll (d : ShowdownProtocolDecoder) (calls : List Call) :
    ShowdownProtocolDecoder :=
  calls.foldl after d

/-- The call raises. -/
def Fails (d : ShowdownProtocolDecoder) : Call → Prop
  | .feed chunk => ∃ halted, d.feed chunk = .error halted
  | .finish => ∃ halted, d.finish = .error halted

/-- `t` has the flags of `d` that only `feed` and `finish` write. -/
def SameFlags (d t : ShowdownProtocolDecoder) : Prop :=
  t.finished = d.finished ∧ t.failed = d.failed

theorem drain_sameFlags (rounds : Nat) (d : ShowdownProtocolDecoder) :
    Satisfies (fun result => SameFlags d result.2) (fun halted => SameFlags d halted.decoder)
      (drain rounds d) := by
  induction rounds generalizing d with
  | zero => exact .ok ⟨rfl, rfl⟩
  | succ rounds ih =>
    unfold drain
    split
    · exact .ok ⟨rfl, rfl⟩
    next frame rest hcut =>
    simp only
    refine .ite (fun _ => .error ⟨rfl, rfl⟩) fun _ => ?_
    cases hframe : ({ d with buffer := rest } : ShowdownProtocolDecoder).decodeFrame frame with
    | error err => exact .error ⟨rfl, rfl⟩
    | ok result =>
      obtain ⟨message, t⟩ := result
      have hsame := (decodeFrame_step hframe).2.sameSetup
      have hflags : SameFlags d t := ⟨hsame.finished, hsame.failed⟩
      have hlater := (ih t).mono (fun _ h => (⟨h.1.trans hflags.1, h.2.trans hflags.2⟩ : SameFlags d _))
        fun _ h => (⟨h.1.trans hflags.1, h.2.trans hflags.2⟩ : SameFlags d _)
      exact hlater.bind fun result hresult => .pure hresult

theorem consume_sameFlags (d : ShowdownProtocolDecoder) (chunk : List Nat) :
    Satisfies (fun result => SameFlags d result.2) (fun halted => SameFlags d halted.decoder)
      (d.consume chunk) := by
  unfold consume
  refine (drain_sameFlags _ { d with buffer := d.buffer ++ chunk }).bind fun result hresult => ?_
  exact .ite (fun _ => .error hresult) fun _ => .pure hresult

/-- A feed leaves `finished` alone, and fails for good if it raises a classified failure. -/
theorem feed_flags (d : ShowdownProtocolDecoder) (chunk : List Nat) :
    Satisfies (fun result => SameFlags d result.2)
      (fun halted => halted.decoder.finished = d.finished ∧
        (d.failed = true → halted.decoder.failed = true) ∧
        ∀ failureClass message, halted.error = .oracleProtocolError failureClass message →
          d.finished = false → halted.decoder.failed = true) (d.feed chunk) := by
  unfold feed
  refine .ite (fun hfailed => .error ⟨rfl, id, fun _ _ _ _ => hfailed⟩) fun hnot => ?_
  refine .ite (fun hfinished => .error ⟨rfl, id, fun _ _ _ hopen => ?_⟩) fun _ => ?_
  · rw [hfinished] at hopen
    cases hopen
  have hconsume := consume_sameFlags d chunk
  cases hresult : d.consume chunk with
  | ok result => exact .ok (hconsume.of_ok hresult)
  | error halted =>
    have hflags := hconsume.of_error hresult
    obtain ⟨error, t⟩ := halted
    cases error with
    | oracleProtocolError failureClass message =>
      exact .error ⟨hflags.1, fun _ => rfl, fun _ _ _ _ => rfl⟩
    | raised error => exact .error ⟨hflags.1, fun hfailed => absurd hfailed hnot, nofun⟩

/-- A finish raises and keeps the decoder if that has failed, and else closes it. -/
theorem finish_flags (d : ShowdownProtocolDecoder) :
    (d.finished = false → d.failed = true → ∃ error, d.finish = .error ⟨error, d⟩) ∧
      ((d.after .finish).finished = true ∨ d.failed = true ∧ d.after .finish = d) := by
  cases hfinished : d.finished with
  | true =>
    have hfinish : d.finish = .ok d := by rw [finish, if_pos hfinished]
    refine ⟨fun h => (by cases h), .inl ?_⟩
    simp only [after, hfinish, hfinished]
  | false =>
    cases hfailed : d.failed with
    | true =>
      have hfinish : d.finish = .error ⟨.oracleProtocolError .protocolDesynchronization
          "simulator decoder cannot finish after a terminal failure", d⟩ := by
        rw [finish, if_neg (by simp [hfinished]), if_pos hfailed]
        rfl
      refine ⟨fun _ _ => ⟨_, hfinish⟩, .inr ⟨rfl, ?_⟩⟩
      simp only [after, hfinish]
    | false =>
      refine ⟨fun _ h => (by cases h), .inl ?_⟩
      simp only [after, finish]
      rw [if_neg (by simp [hfinished]), if_neg (by simp [hfailed])]
      split_ifs <;> rfl

/-! ## §3 After a failure -/

/-- A failure without a finish before it. -/
structure Ruined (d : ShowdownProtocolDecoder) : Prop where
  failed : d.failed = true
  finished : d.finished = false

theorem Ruined.call (h : Ruined d) (call : Call) : Fails d call ∧ Ruined (d.after call) := by
  cases call with
  | feed chunk =>
    have hfeed : d.feed chunk = .error ⟨.oracleProtocolError .protocolDesynchronization
        "simulator output arrived after a terminal decoder failure", d⟩ := by
      rw [feed, if_pos h.failed]
      rfl
    refine ⟨⟨_, hfeed⟩, ?_⟩
    simp only [after, hfeed]
    exact h
  | finish =>
    obtain ⟨error, hfinish⟩ := (finish_flags d).1 h.finished h.failed
    refine ⟨⟨_, hfinish⟩, ?_⟩
    simp only [after, hfinish]
    exact h

theorem Ruined.calls (h : Ruined d) (calls : List Call) : Ruined (d.afterAll calls) := by
  induction calls generalizing d with
  | nil => exact h
  | cons call calls ih => exact ih (h.call call).2

/-- Finished, or failed before. -/
def Shut (d : ShowdownProtocolDecoder) : Prop := d.finished = true ∨ d.failed = true

theorem Shut.feed (h : Shut d) (chunk : List Nat) : Fails d (.feed chunk) := by
  show ∃ halted, d.feed chunk = .error halted
  unfold ShowdownProtocolDecoder.feed
  split_ifs with hfailed hfinished
  · exact ⟨_, rfl⟩
  · exact ⟨_, rfl⟩
  · rcases h with h | h
    · exact absurd h hfinished
    · exact absurd h hfailed

theorem after_feed_flags (d : ShowdownProtocolDecoder) (chunk : List Nat) :
    (d.after (.feed chunk)).finished = d.finished ∧
      (d.failed = true → (d.after (.feed chunk)).failed = true) := by
  have hflags := feed_flags d chunk
  simp only [after]
  cases hfeed : d.feed chunk with
  | ok result =>
    obtain ⟨hfinished, hfailed⟩ := hflags.of_ok hfeed
    exact ⟨hfinished, hfailed.trans⟩
  | error halted =>
    obtain ⟨hfinished, hfailed, -⟩ := hflags.of_error hfeed
    exact ⟨hfinished, hfailed⟩

theorem Shut.call (h : Shut d) (call : Call) : Shut (d.after call) := by
  cases call with
  | feed chunk =>
    obtain ⟨hfinished, hfailed⟩ := after_feed_flags d chunk
    exact h.imp hfinished.trans hfailed
  | finish =>
    rcases (finish_flags d).2 with hfinished | ⟨hfailed, hsame⟩
    · exact .inl hfinished
    · rw [hsame]
      exact h

theorem afterAll_finished {calls : List Call} (hcalls : Call.finish ∉ calls) :
    (d.afterAll calls).finished = d.finished := by
  induction calls generalizing d with
  | nil => rfl
  | cons call calls ih =>
    rw [List.mem_cons, not_or] at hcalls
    have hrest := ih (d := d.after call) hcalls.2
    cases call with
    | feed chunk => exact hrest.trans (after_feed_flags d chunk).1
    | finish => exact absurd rfl hcalls.1

theorem afterAll_shut {calls : List Call} (h : Shut d ∨ Call.finish ∈ calls) :
    Shut (d.afterAll calls) := by
  induction calls generalizing d with
  | nil =>
    rcases h with h | h
    · exact h
    · cases h
  | cons call calls ih =>
    refine ih ?_
    rcases h with h | h
    · exact .inl (h.call call)
    · rcases List.mem_cons.mp h with rfl | hlater
      · rcases (finish_flags d).2 with hfinished | ⟨hfailed, hsame⟩
        · exact .inl (.inl hfinished)
        · rw [hsame]
          exact .inl (.inr hfailed)
      · exact .inr hlater

/-! ## §4 The protocol -/

/-- **The stream protocol.** When all the chunks of a stream are fed and the decoder finishes, there
is one end message, the last of all, and an update comes before it and before every request; and the
bytes are the frames that the messages were decoded from, each once and with its delimiter. After a
feed that has raised a classified failure, with no finish before it, every later call raises, and
after a finish every feed does. -/
theorem stream_protocol {maxFrameBytes maxBufferBytes : Int}
    (h : create maxFrameBytes maxBufferBytes = .ok d) :
    (∀ chunks messages, d.decodeStream chunks = .ok messages →
      EndsOnce messages ∧ StartsBefore messages ∧ ∃ frames t, DecodesTo d frames messages t ∧
        chunks.flatten = frames.flatMap (· ++ delimiter)) ∧
      ∀ calls,
        (Call.finish ∉ calls → ∀ chunk failureClass message t,
          (d.afterAll calls).feed chunk =
            .error ⟨.oracleProtocolError failureClass message, t⟩ →
          ∀ later call, Fails (t.afterAll later) call) ∧
          (Call.finish ∈ calls → ∀ chunk, Fails (d.afterAll calls) (.feed chunk)) := by
  obtain ⟨-, -, hd⟩ := create_eq_ok.mp h
  have hrunning : Running d := by
    rw [hd]
    exact ⟨rfl, rfl⟩
  have hfresh : Tracks d [] := by
    rw [hd]
    exact ⟨nofun, fun _ => nofun, nofun, fun earlier message later heq => by simp at heq⟩
  refine ⟨fun chunks messages hstream => ?_, fun calls => ⟨?_, ?_⟩⟩
  · have hempty : d.buffer = [] := by rw [hd]
    obtain ⟨⟨frames, hcuts, t, hdecodes, hended⟩, -⟩ :=
      (decodeStream_eq_ok hrunning hempty).mp hstream
    have htracks := hfresh.run hdecodes
    refine ⟨htracks.ended hended, htracks.ordered, frames, t, hdecodes, ?_⟩
    rw [hcuts.text_eq, List.append_nil]
  · intro hcalls chunk failureClass message t hfeed later call
    have hopen : (d.afterAll calls).finished = false :=
      (afterAll_finished hcalls).trans hrunning.finished
    obtain ⟨hfinished, -, hfailed⟩ := (feed_flags (d.afterAll calls) chunk).of_error hfeed
    have hruined : Ruined t := ⟨hfailed failureClass message rfl hopen, hfinished.trans hopen⟩
    exact ((hruined.calls later).call call).1
  · intro hcalls chunk
    exact (afterAll_shut (.inr hcalls)).feed chunk

end Decoder

/-- The shortest battle with all that holds of it. -/
theorem shortStream_protocol :
    letI := Python.plainForms
    letI := emptyObjectJson
    letI := compactCanonicalizer
    EndsOnce shortMessages ∧ StartsBefore shortMessages ∧
      ∀ chunk, Fails ((decoderWithLimit 9).afterAll [.feed shortStream, .finish]) (.feed chunk) := by
  let _ := Python.plainForms
  let _ := emptyObjectJson
  let _ := compactCanonicalizer
  have hcreate : create 9 9 = .ok (decoderWithLimit 9) := rfl
  have hstream : (decoderWithLimit 9).decodeStream [shortStream] = .ok shortMessages := by
    decide +kernel
  obtain ⟨hstreams, hcalls⟩ := stream_protocol hcreate
  obtain ⟨hends, hstarts, -⟩ := hstreams [shortStream] shortMessages hstream
  exact ⟨hends, hstarts, (hcalls [.feed shortStream, .finish]).2 (by simp)⟩

/-- Once the decoder has finished, a feed fails and yet a finish returns. -/
theorem finish_after_failed_feed :
    letI := Python.plainForms
    letI := emptyObjectJson
    letI := compactCanonicalizer
    create 9 9 = .ok (decoderWithLimit 9) ∧
      ∃ finished, (decoderWithLimit 9).afterAll [.feed shortStream, .finish] = finished ∧
        Fails finished (.feed []) ∧ ¬Fails (finished.after (.feed [])) .finish := by
  let _ := Python.plainForms
  let _ := emptyObjectJson
  let _ := compactCanonicalizer
  refine ⟨rfl, ⟨9, 9, [], true, true, true, false⟩, by decide +kernel, ⟨_, rfl⟩, ?_⟩
  rintro ⟨halted, hfinish⟩
  cases hfinish

end BattleBelief.Oracle
