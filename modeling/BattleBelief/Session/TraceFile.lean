import BattleBelief.Library.Delimiters
import BattleBelief.Records.EnvelopeBytes
import BattleBelief.Session.RecordCardinality
import BattleBelief.Session.SinkFailures

/-!
# Trace Files

`JsonlDecisionTrace` writes the canonical envelope of each record, and a line feed behind it, to a
binary stream. The stream may take only a part of a line, and may raise at any time.

Whatever the stream does, the lines that it has are the envelopes of the records that the session
takes for recorded, in order. A session that knows of no failure has written all of its records.
After a failure there may be one more line, or a part of one: the record that the session lost.

- `emit_ok`, `emit_contents`: what one record adds
- `traceAfter_holds`: what the records of a log add up to
- `trace_file_framed`: the lines of the file of a session
-/

namespace BattleBelief

open Delimiters

/-! ## §1 The stream -/

/-- What a stream does with some bytes: how many of them it takes, and what it raises then. The number
is what `write` returns, where `None` counts as none. -/
structure Written where
  count : Nat
  raised : Option PyException

/-- A binary stream. What it does may depend on the lines that it has been handed before, newest
first. -/
structure BinaryStream where
  write : List (List Nat) → List Nat → Written
  flush : List (List Nat) → Except PyException Unit
  close : List (List Nat) → Except PyException Unit

/-- What the stream has taken once these lines, newest first, have been handed to it. -/
def BinaryStream.contents (stream : BinaryStream) : List (List Nat) → List Nat
  | [] => []
  | line :: earlier => stream.contents earlier ++ line.take (stream.write earlier line).count

/-! ## §2 The sink -/

structure JsonlDecisionTrace where
  stream : BinaryStream
  retainRecords : Bool
  /-- The lines handed to the stream, newest first -/
  lines : List (List Nat)
  records : List DecisionRecord

namespace JsonlDecisionTrace

/-- The sink that `__init__` makes. -/
def create (stream : BinaryStream) (retainRecords : Bool) : JsonlDecisionTrace :=
  ⟨stream, retainRecords, [], []⟩

variable (trace : JsonlDecisionTrace)

/-- Writes a line and flushes the stream. -/
def writeLine (line : List Nat) : Except PyException Unit :=
  let written := trace.stream.write trace.lines line
  match written.raised with
  | some err => .error err
  | none =>
      if written.count ≠ line.length then .error (.other "OSError" none)
      else trace.stream.flush (line :: trace.lines)

/-- The sink once the line has been handed to the stream. -/
def handed (line : List Nat) : JsonlDecisionTrace := { trace with lines := line :: trace.lines }

/-- Keeps a record, where records are kept. -/
def retain (record : DecisionRecord) : JsonlDecisionTrace :=
  if trace.retainRecords then { trace with records := trace.records ++ [record] } else trace

variable [Rfc8785]

def emit (record : DecisionRecord) : Except PyException Unit × JsonlDecisionTrace :=
  match record.canonicalEnvelopeBytes with
  | .error err => (.error err, trace)
  | .ok bytes =>
      let line := bytes ++ [lineFeed]
      match trace.writeLine line with
      | .error err => (.error err, trace.handed line)
      | .ok () => (.ok (), (trace.handed line).retain record)

/-- The sink after these records. -/
def emitAll (records : List DecisionRecord) : JsonlDecisionTrace :=
  records.foldl (fun trace record => (trace.emit record).2) trace

def flush : Except PyException Unit := trace.stream.flush trace.lines

def close : Except PyException Unit := trace.stream.close trace.lines

/-- How a new trace answers to a record, once it has been handed the earlier ones, newest first. -/
def answer (stream : BinaryStream) (retainRecords : Bool) (handed : List DecisionRecord)
    (record : DecisionRecord) : Except PyException Unit :=
  (((create stream retainRecords).emitAll handed.reverse).emit record).1

end JsonlDecisionTrace

/-! ## §3 One record -/

section Records

variable [Rfc8785]

namespace JsonlDecisionTrace

variable {trace : JsonlDecisionTrace} {record : DecisionRecord} {bytes : List Nat}

/-- What the stream of the trace has taken. -/
def contents (trace : JsonlDecisionTrace) : List Nat := trace.stream.contents trace.lines

omit [Rfc8785] in
@[simp] theorem contents_retain : (trace.retain record).contents = trace.contents := by
  unfold retain
  split_ifs <;> rfl

omit [Rfc8785] in
@[simp] theorem retainRecords_retain : (trace.retain record).retainRecords = trace.retainRecords := by
  unfold retain
  split_ifs <;> rfl

omit [Rfc8785] in
theorem records_retain (h : trace.retainRecords = true) :
    (trace.retain record).records = trace.records ++ [record] := by
  rw [retain, if_pos h]

omit [Rfc8785] in
/-- A line is acknowledged only if all of it has been taken. -/
theorem count_of_writeLine {line : List Nat} (h : trace.writeLine line = .ok ()) :
    (trace.stream.write trace.lines line).count = line.length := by
  unfold writeLine at h
  simp only at h
  split at h
  · cases h
  · split_ifs at h with hcount
    exact not_not.mp hcount

/-- A sink keeps records or does not, for all of its life. -/
theorem emit_retainRecords : (trace.emit record).2.retainRecords = trace.retainRecords := by
  unfold emit
  split
  · rfl
  · simp only
    split
    · rfl
    · exact retainRecords_retain

/-- The line of an acknowledged record is complete, and the record is kept where records are. -/
theorem emit_ok (h : (trace.emit record).1 = .ok ()) :
    ∃ bytes, record.canonicalEnvelopeBytes = .ok bytes ∧
      (trace.emit record).2.contents = trace.contents ++ (bytes ++ [lineFeed]) ∧
      (trace.retainRecords = true → (trace.emit record).2.records = trace.records ++ [record]) := by
  unfold emit at h ⊢
  cases hbytes : record.canonicalEnvelopeBytes with
  | error err =>
    rw [hbytes] at h
    cases h
  | ok bytes =>
    simp only [hbytes] at h ⊢
    cases hwritten : trace.writeLine (bytes ++ [lineFeed]) with
    | error err =>
      rw [hwritten] at h
      cases h
    | ok _ =>
      refine ⟨bytes, rfl, ?_, fun hretain => records_retain hretain⟩
      simp only [contents_retain]
      show trace.contents ++ (bytes ++ [lineFeed]).take
        (trace.stream.write trace.lines (bytes ++ [lineFeed])).count = _
      rw [count_of_writeLine hwritten, List.take_length]

/-- A record that is not acknowledged leaves a part of its line, and is not kept. -/
theorem emit_error {error : PyException} (hbytes : record.canonicalEnvelopeBytes = .ok bytes)
    (h : (trace.emit record).1 = .error error) :
    ∃ part, (trace.emit record).2.contents = trace.contents ++ part ∧
      part <+: bytes ++ [lineFeed] ∧ (trace.emit record).2.records = trace.records := by
  unfold emit at h ⊢
  simp only [hbytes] at h ⊢
  cases hwritten : trace.writeLine (bytes ++ [lineFeed]) with
  | error err => exact ⟨_, rfl, List.take_prefix _ _, rfl⟩
  | ok _ =>
    rw [hwritten] at h
    cases h

theorem emitAll_concat (records : List DecisionRecord) :
    trace.emitAll (records ++ [record]) = ((trace.emitAll records).emit record).2 := by
  simp [emitAll]

end JsonlDecisionTrace

/-! ## §4 The records of a session -/

section Logs

open JsonlDecisionTrace

variable {env : Environment} {stream : BinaryStream} {retainRecords : Bool} {log : List SessionEntry}

/-- The trace over the stream once the records of a log have been handed to it. -/
def traceAfter (stream : BinaryStream) (retainRecords : Bool) (log : List SessionEntry) :
    JsonlDecisionTrace :=
  (create stream retainRecords).emitAll (records log).reverse

theorem traceAfter_emit (record : DecisionRecord) :
    traceAfter stream retainRecords (.emit record :: log) =
      ((traceAfter stream retainRecords log).emit record).2 := by
  have hrecords : (records (.emit record :: log)).reverse = (records log).reverse ++ [record] :=
    List.reverse_cons
  rw [traceAfter, hrecords, emitAll_concat]
  rfl

/-- The session writes to a new trace over the stream, and to nothing else. -/
def WritesTo (env : Environment) (stream : BinaryStream) (retainRecords : Bool) : Prop :=
  env.emit = answer stream retainRecords

/-- The trace has the envelopes of these records, newest first, each on its line, and `part` behind
the lines. -/
structure Holds (trace : JsonlDecisionTrace) (kept : List DecisionRecord)
    (envelopes : List (List Nat)) (part : List Nat) : Prop where
  written : (kept.reverse.mapM fun record => record.canonicalEnvelopeBytes) = .ok envelopes
  contents : trace.contents = envelopes.flatMap (· ++ [lineFeed]) ++ part
  retained : trace.retainRecords = true → trace.records = kept.reverse

variable {trace : JsonlDecisionTrace} {kept : List DecisionRecord} {envelopes : List (List Nat)}
  {record : DecisionRecord} {bytes : List Nat}

/-- A record that is acknowledged is a new line. -/
theorem Holds.acknowledged (h : Holds trace kept envelopes []) (hok : (trace.emit record).1 = .ok ()) :
    ∃ bytes, Holds (trace.emit record).2 (record :: kept) (envelopes ++ [bytes]) [] := by
  obtain ⟨bytes, hbytes, hcontents, hrecords⟩ := emit_ok hok
  refine ⟨bytes, ?_, ?_, fun hretain => ?_⟩
  · simp [h.written, hbytes, bind, Except.bind, pure, Except.pure]
  · rw [hcontents, h.contents]
    simp
  · rw [emit_retainRecords] at hretain
    rw [hrecords hretain, h.retained hretain, List.reverse_cons]

/-- Of a record that is not acknowledged there is a part at most. -/
theorem Holds.refused {error : PyException} (h : Holds trace kept envelopes [])
    (hbytes : record.canonicalEnvelopeBytes = .ok bytes)
    (hraised : (trace.emit record).1 = .error error) :
    ∃ part, part <+: bytes ++ [lineFeed] ∧ Holds (trace.emit record).2 kept envelopes part := by
  obtain ⟨part, hcontents, hpart, hrecords⟩ := emit_error hbytes hraised
  refine ⟨part, hpart, h.written, by rw [hcontents, h.contents, List.append_nil], fun hretain => ?_⟩
  rw [emit_retainRecords] at hretain
  rw [hrecords, h.retained hretain]

/-- The part behind the lines is there for a record that the sink raised on. -/
def Leaves (env : Environment) (log : List SessionEntry) (part : List Nat) : Prop :=
  ¬SinkRaised env log ∧ takenRecords env log = records log ∧ part = [] ∨
    SinkRaised env log ∧ ∃ lost bytes, records log = lost :: takenRecords env log ∧
      lost.canonicalEnvelopeBytes = .ok bytes ∧ part <+: bytes ++ [lineFeed]

/-- What is true of a log remains true if something else than a record is added. -/
theorem Leaves.cons {entry : SessionEntry} {part : List Nat} (h : Leaves env log part)
    (hentry : ∀ record, entry ≠ .emit record)
    (hrecords : records (entry :: log) = records log)
    (htaken : takenRecords env (entry :: log) = takenRecords env log) :
    Leaves env (entry :: log) part := by
  unfold Leaves
  rwa [sinkRaised_cons_of_not_emit hentry, hrecords, htaken]

/-- The envelopes of the records that the sink took are on their lines. -/
theorem traceAfter_holds (hwrites : WritesTo env stream retainRecords) (hdumps : DumpsPlain)
    (hinline : DumpsInline)
    (hsilent : ∀ entry past, entry :: past <:+ log → SinkRaised env past →
      entry.isHandover = false) :
    ∃ envelopes part, Leaves env log part ∧
      Holds (traceAfter stream retainRecords log) (takenRecords env log) envelopes part := by
  induction log with
  | nil =>
    refine ⟨[], [], .inl ⟨?_, rfl, rfl⟩, rfl, rfl, fun _ => rfl⟩
    rintro ⟨record, past, hsuffix, -⟩
    cases List.eq_nil_of_suffix_nil hsuffix
  | cons entry past ih =>
    obtain ⟨envelopes, part, hleaves, hholds⟩ := ih fun other older hsuffix => hsilent other older
      (hsuffix.trans (List.suffix_cons entry past))
    cases entry with
    | emit record =>
      -- the sink cannot have raised before, or this record would not be here
      have hfirst : ¬SinkRaised env past := by
        intro hraised
        cases hsilent (.emit record) past (List.suffix_refl _) hraised
      obtain ⟨-, hkept, rfl⟩ := hleaves.resolve_right fun hraised => hfirst hraised.1
      have hanswer : env.emit (records past) record =
          ((traceAfter stream retainRecords past).emit record).1 := by
        rw [hwrites]
        rfl
      cases hemit : env.emit (records past) record with
      | ok _ =>
        obtain ⟨bytes, hnext⟩ := hholds.acknowledged (hanswer.symm.trans hemit)
        have htaken : takenRecords env (.emit record :: past) = record :: takenRecords env past := by
          simp only [takenRecords, hemit]
        refine ⟨envelopes ++ [bytes], [], .inl ⟨?_, ?_, rfl⟩, ?_⟩
        · rw [sinkRaised_cons]
          rintro (hraised | ⟨other, heq, error, herror⟩)
          · exact hfirst hraised
          · obtain rfl := SessionEntry.emit.inj heq
            rw [hemit] at herror
            cases herror
        · rw [htaken, hkept]
          rfl
        · rw [traceAfter_emit, htaken]
          exact hnext
      | error error =>
        obtain ⟨bytes, hbytes, -⟩ := record.exists_envelopeBytes hdumps hinline
        obtain ⟨part, hpart, hnext⟩ := hholds.refused hbytes (hanswer.symm.trans hemit)
        have htaken : takenRecords env (.emit record :: past) = takenRecords env past := by
          simp only [takenRecords, hemit]
        refine ⟨envelopes, part, .inr ⟨?_, record, bytes, ?_, hbytes, hpart⟩, ?_⟩
        · exact sinkRaised_cons.mpr (.inr ⟨record, rfl, error, hemit⟩)
        · rw [htaken, hkept]
          rfl
        · rw [traceAfter_emit, htaken]
          exact hnext
    | freshRequest request => exact ⟨envelopes, part, hleaves.cons (by simp) rfl rfl, hholds⟩
    | sendRoom attempt => exact ⟨envelopes, part, hleaves.cons (by simp) rfl rfl, hholds⟩
    | battleEnd => exact ⟨envelopes, part, hleaves.cons (by simp) rfl rfl, hholds⟩
    | abort error => exact ⟨envelopes, part, hleaves.cons (by simp) rfl rfl, hholds⟩

/-! ## §5 The file -/

/-- No envelope has a line feed. -/
theorem Holds.inline {part : List Nat} (h : Holds trace kept envelopes part) (hdumps : DumpsPlain)
    (hinline : DumpsInline) : ∀ envelope ∈ envelopes, lineFeed ∉ envelope := by
  intro envelope henvelope
  obtain ⟨record, -, hbytes⟩ := Runs.mem_of_mapM h.written henvelope
  obtain ⟨bytes, hmade, hfree⟩ := record.exists_envelopeBytes hdumps hinline
  obtain rfl := Except.ok.inj (hmade.symm.trans hbytes)
  exact hfree

/-- The file of a session: its lines are the envelopes of the records that the sink took. A session
without a trace error has lost none. Otherwise its last record is on the last line, or a beginning of
it is behind the lines. -/
structure Framed (env : Environment) (s : BattleSession) (trace : JsonlDecisionTrace)
    (envelopes complete : List (List Nat)) (rest : List Nat) : Prop where
  written : ((takenRecords env s.log).reverse.mapM fun record => record.canonicalEnvelopeBytes) =
    .ok envelopes
  cuts : Cuts [lineFeed] trace.contents complete rest
  whole : s.traceError = none →
    takenRecords env s.log = records s.log ∧ complete = envelopes ∧ rest = []
  broken : s.traceError.isSome → ∃ lost bytes, records s.log = lost :: takenRecords env s.log ∧
    lost.canonicalEnvelopeBytes = .ok bytes ∧
    (complete = envelopes ++ [bytes] ∧ rest = [] ∨ complete = envelopes ∧ rest <+: bytes)
  retained : trace.retainRecords = true → trace.records = (takenRecords env s.log).reverse

variable [Python.UnicodeDatabase] [JsonDecoder]

/-- **Framing.** The records of a session are in the file of its trace in order, one to a line,
whatever the stream does. -/
theorem trace_file_framed (hdumps : DumpsPlain) (hinline : DumpsInline) (env : Environment)
    (hwrites : WritesTo env stream retainRecords) (state : ObservedState) (lines : List RoomLine)
    (ending : Option PyException) :
    let s := (BattleSession.initial state).run env lines ending
    ∃ envelopes complete rest,
      Framed env s (traceAfter stream retainRecords s.log) envelopes complete rest := by
  intro s
  have hsettled : Settled env s :=
    run_settled (settled_initial env state) (orderly_initial env state) lines ending
  have htraced : s.traceError.isSome ↔ SinkRaised env s.log :=
    run_traceError_iff env state lines ending
  obtain ⟨envelopes, part, hleaves, hholds⟩ :=
    traceAfter_holds hwrites hdumps hinline hsettled.silent
  have hfree := hholds.inline hdumps hinline
  rcases hleaves with ⟨hquiet, hkept, rfl⟩ | ⟨hraised, lost, bytes, hlost, hbytes, hpart⟩
  · have hnone : ¬s.traceError.isSome := fun hsome => hquiet (htraced.mp hsome)
    refine ⟨envelopes, envelopes ++ [], [], hholds.written, ?_, ?_, ?_, hholds.retained⟩
    · rw [hholds.contents]
      exact cuts_terminated_append hfree (.rest rfl)
    · intro _
      exact ⟨hkept, List.append_nil _, rfl⟩
    · intro hsome
      exact absurd hsome hnone
  · have hsome := htraced.mpr hraised
    have hnotNone : s.traceError ≠ none := Option.isSome_iff_ne_none.mp hsome
    obtain ⟨made, hmade, hline⟩ := lost.exists_envelopeBytes hdumps hinline
    obtain rfl := Except.ok.inj (hmade.symm.trans hbytes)
    -- the last line is there, or a part of it
    rcases cuts_of_prefix hline hpart with hcuts | ⟨hcuts, hwithin⟩
    · refine ⟨envelopes, envelopes ++ [made], [], hholds.written, ?_, ?_, ?_, hholds.retained⟩
      · rw [hholds.contents]
        exact cuts_terminated_append hfree hcuts
      · exact fun hnone => absurd hnone hnotNone
      · intro _
        exact ⟨lost, made, hlost, hbytes, .inl ⟨rfl, rfl⟩⟩
    · refine ⟨envelopes, envelopes ++ [], part, hholds.written, ?_, ?_, ?_, hholds.retained⟩
      · rw [hholds.contents]
        exact cuts_terminated_append hfree hcuts
      · exact fun hnone => absurd hnone hnotNone
      · intro _
        exact ⟨lost, made, hlost, hbytes, .inr ⟨List.append_nil _, hwithin⟩⟩

end Logs

end Records

/-- A stream that takes the first line, and ten bytes of the second. -/
def fragileStream : BinaryStream where
  write earlier line :=
    if earlier.isEmpty then ⟨line.length, none⟩ else ⟨10, some (.other "OSError" none)⟩
  flush _ := .ok ()
  close _ := .ok ()

/-- The measurement run with a trace over this stream. -/
def tracedEnvironment : letI := compactCanonicalizer; Environment :=
  letI := compactCanonicalizer
  { measuredEnvironment with emit := JsonlDecisionTrace.answer fragileStream true }

/-- The session that answers Garchomp's request writes to this stream. -/
theorem garchomp_trace_framed :
    letI := Python.asciiDatabase
    letI := garchompDecoder
    letI := compactCanonicalizer
    let s := (BattleSession.initial (ObservedState.initial "ash")).run tracedEnvironment
      (metadata ++ [garchompLine, garchompEnters]) none
    ∃ envelopes complete rest,
      Framed tracedEnvironment s (traceAfter fragileStream true s.log) envelopes complete rest := by
  let _ := Python.asciiDatabase
  let _ := garchompDecoder
  let _ := compactCanonicalizer
  have hwrites : WritesTo tracedEnvironment fragileStream true := rfl
  exact trace_file_framed compactCanonicalizer_dumpsPlain compactCanonicalizer_dumpsInline
    tracedEnvironment hwrites (ObservedState.initial "ash") _ none

end BattleBelief
