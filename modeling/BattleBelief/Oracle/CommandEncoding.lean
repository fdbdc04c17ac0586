import BattleBelief.Library.Utf8
import BattleBelief.Oracle.Fixture

/-!
# Command Encoding

`encode_commands` writes each command as UTF-8 with a line feed behind it, within two byte limits.
What the simulator reads line by line are the commands, whatever characters they have:
`command_encoding_round_trip`.
-/

namespace BattleBelief.Oracle

/-! ## §1 The encoder under any limits -/

section Commands

variable [Python.NormalForms]

/-- The loop of `encode_commands`, after commands of `totalBytes` bytes. -/
def encodeFromWithin (maxCommandBytes maxTotalBytes : Int) (totalBytes : Nat) :
    List String → Except DecoderError (List Nat)
  | [] => .ok []
  | command :: rest =>
      if !isCommand command then desynchronized "simulator command has an invalid shape"
      else
        -- a `String` has no lone surrogates, and so the strict encoding raises nothing
        let encoded := Python.encodeUtf8 command.toList
        if encoded.length > maxCommandBytes then
          .error (.oracleProtocolError .inputTooLarge
            "simulator command exceeds the configured byte limit")
        else
          let totalBytes := totalBytes + encoded.length + 1
          if totalBytes > maxTotalBytes then
            .error (.oracleProtocolError .inputTooLarge
              "simulator input exceeds the configured byte limit")
          else do
            let later ← encodeFromWithin maxCommandBytes maxTotalBytes totalBytes rest
            pure (encoded ++ 10 :: later)

/-- `encode_commands`. -/
def encodeCommandsWithin (maxCommandBytes maxTotalBytes : Int) (commands : List String) :
    Except DecoderError (List Nat) :=
  if maxCommandBytes ≤ 0 ∨ maxTotalBytes ≤ 0 then
    .error (.raised (.valueError "command limits must be positive"))
  else if commands = [] then desynchronized "simulator command list must not be empty"
  else encodeFromWithin maxCommandBytes maxTotalBytes 0 commands

/-- Without limits of its own a call has the default ones. -/
theorem encodeCommandsWithin_default (commands : List String) :
    encodeCommandsWithin defaultMaxCommandBytes defaultMaxInputBytes commands =
      encodeCommands commands := by
  have hloop : ∀ totalBytes,
      encodeFromWithin defaultMaxCommandBytes defaultMaxInputBytes totalBytes commands =
        encodeFrom totalBytes commands := by
    induction commands with
    | nil => exact fun _ => rfl
    | cons command rest ih =>
      intro totalBytes
      simp only [encodeFromWithin, encodeFrom, ih, gt_iff_lt, Int.ofNat_lt]
  have hpositive : ¬((defaultMaxCommandBytes : Int) ≤ 0 ∨ (defaultMaxInputBytes : Int) ≤ 0) := by
    decide
  rw [encodeCommandsWithin, if_neg hpositive, hloop, encodeCommands]

/-! ## §2 One command -/

/-- What the encoder accepts of one command, after commands of `totalBytes` bytes. -/
structure Encodable (maxCommandBytes maxTotalBytes : Int) (totalBytes : Nat) (command : String) :
    Prop where
  shape : isCommand command = true
  bytes : (Python.encodeUtf8 command.toList).length ≤ maxCommandBytes
  total : (totalBytes + (Python.encodeUtf8 command.toList).length + 1 : Nat) ≤ maxTotalBytes

variable {maxCommandBytes maxTotalBytes : Int} {totalBytes : Nat} {command : String}
  {commands first second : List String} {bytes : List Nat}

/-- A command and its line feed. -/
def commandLine (command : String) : List Nat := Python.encodeUtf8 command.toList ++ [10]

/-- The loop accepts a command and then the others behind it. -/
theorem encodeFromWithin_cons : encodeFromWithin maxCommandBytes maxTotalBytes totalBytes
      (command :: commands) = .ok bytes ↔
    Encodable maxCommandBytes maxTotalBytes totalBytes command ∧
      ∃ later, encodeFromWithin maxCommandBytes maxTotalBytes
        (totalBytes + (commandLine command).length) commands = .ok later ∧
          bytes = commandLine command ++ later := by
  have hlength : totalBytes + (commandLine command).length =
      totalBytes + (Python.encodeUtf8 command.toList).length + 1 := by
    rw [commandLine, List.length_append, List.length_singleton, Nat.add_assoc]
  rw [hlength, encodeFromWithin]
  dsimp only
  split_ifs with hshape hcommand htotal
  · refine iff_of_false (fun h => by cases h) fun h => ?_
    rw [h.1.shape] at hshape
    cases hshape
  · exact iff_of_false (fun h => by cases h) fun h => absurd h.1.bytes (not_le.mpr hcommand)
  · exact iff_of_false (fun h => by cases h) fun h => absurd h.1.total (not_le.mpr htotal)
  · have hencodable : Encodable maxCommandBytes maxTotalBytes totalBytes command :=
      ⟨by simpa using hshape, not_lt.mp hcommand, not_lt.mp htotal⟩
    rw [Runs.bind_eq_ok]
    constructor
    · rintro ⟨later, hlater, hbytes⟩
      refine ⟨hencodable, later, hlater, ?_⟩
      rw [← Except.ok.inj hbytes, commandLine, List.append_assoc, List.singleton_append]
    · rintro ⟨-, later, hlater, rfl⟩
      refine ⟨later, hlater, ?_⟩
      rw [commandLine, List.append_assoc, List.singleton_append]
      rfl

example : letI := Python.plainForms
    (encodeFromWithin 64 64 0 [">p1 move 1"]).isOk = true := by decide +kernel

/-- The output is the commands, each with its line feed. -/
theorem bytes_of_encodeFromWithin (h : encodeFromWithin maxCommandBytes maxTotalBytes totalBytes
    commands = .ok bytes) : bytes = commands.flatMap commandLine := by
  induction commands generalizing totalBytes bytes with
  | nil => exact (Except.ok.inj h).symm
  | cons command rest ih =>
    obtain ⟨-, later, hlater, rfl⟩ := encodeFromWithin_cons.mp h
    rw [List.flatMap_cons, ih hlater]

theorem length_of_encodeFromWithin (hnonempty : commands ≠ [])
    (h : encodeFromWithin maxCommandBytes maxTotalBytes totalBytes commands = .ok bytes) :
    (totalBytes + bytes.length : Nat) ≤ maxTotalBytes := by
  induction commands generalizing totalBytes bytes with
  | nil => exact absurd rfl hnonempty
  | cons command rest ih =>
    obtain ⟨hencodable, later, hlater, rfl⟩ := encodeFromWithin_cons.mp h
    rw [List.length_append, ← Nat.add_assoc]
    by_cases hrest : rest = []
    · subst hrest
      obtain rfl := Except.ok.inj hlater
      rw [List.length_nil, Nat.add_zero, commandLine, List.length_append, List.length_singleton,
        ← Nat.add_assoc]
      exact hencodable.total
    · exact ih hrest hlater

/-- With fewer bytes before them, commands are still accepted. -/
theorem encodeFromWithin_mono {fewer : Nat} (hle : fewer ≤ totalBytes)
    (h : encodeFromWithin maxCommandBytes maxTotalBytes totalBytes commands = .ok bytes) :
    encodeFromWithin maxCommandBytes maxTotalBytes fewer commands = .ok bytes := by
  induction commands generalizing totalBytes fewer bytes with
  | nil => exact h
  | cons command rest ih =>
    obtain ⟨hencodable, later, hlater, rfl⟩ := encodeFromWithin_cons.mp h
    refine encodeFromWithin_cons.mpr ⟨⟨hencodable.shape, hencodable.bytes, ?_⟩, later, ?_, rfl⟩
    · have htotal := hencodable.total
      omega
    · exact ih (Nat.add_le_add_right hle _) hlater

/-- Both parts of what is accepted are accepted. -/
theorem encodeFromWithin_append (h : encodeFromWithin maxCommandBytes maxTotalBytes totalBytes
    (first ++ second) = .ok bytes) :
    ∃ before after, encodeFromWithin maxCommandBytes maxTotalBytes totalBytes first = .ok before ∧
      encodeFromWithin maxCommandBytes maxTotalBytes (totalBytes + before.length) second =
        .ok after ∧ bytes = before ++ after := by
  induction first generalizing totalBytes bytes with
  | nil => exact ⟨[], bytes, rfl, h, rfl⟩
  | cons command rest ih =>
    rw [List.cons_append] at h
    obtain ⟨hencodable, later, hlater, rfl⟩ := encodeFromWithin_cons.mp h
    obtain ⟨before, after, hbefore, hafter, rfl⟩ := ih hlater
    refine ⟨commandLine command ++ before, after, ?_, ?_, (List.append_assoc _ _ _).symm⟩
    · exact encodeFromWithin_cons.mpr ⟨hencodable, before, hbefore, rfl⟩
    · rwa [List.length_append, ← Nat.add_assoc]

/-! ## §3 Reading the output -/

/-- A command has no line feed. -/
theorem lineFeed_not_mem (h : isCommand command = true) : '\n' ∉ command.toList := by
  intro hmem
  have hcontains : Python.contains command "\n" = true := by
    obtain ⟨before, after, hsplit⟩ := List.append_of_mem hmem
    rw [Python.contains, List.any_eq_true]
    refine ⟨'\n' :: after, (List.mem_tails _ _).mpr ⟨before, hsplit.symm⟩, ?_⟩
    rfl
  simp [isCommand, hcontains] at h

theorem isCommand_of_encodeFromWithin (h : encodeFromWithin maxCommandBytes maxTotalBytes totalBytes
    commands = .ok bytes) : ∀ command ∈ commands, isCommand command = true := by
  induction commands generalizing totalBytes bytes with
  | nil => exact fun _ hmem => absurd hmem List.not_mem_nil
  | cons command rest ih =>
    obtain ⟨hencodable, later, hlater, -⟩ := encodeFromWithin_cons.mp h
    exact List.forall_mem_cons.mpr ⟨hencodable.shape, ih hlater⟩

/-- The output splits at its line feeds into the encoded commands, and nothing behind the last. -/
theorem splitOn_commandLines (h : ∀ command ∈ commands, isCommand command = true) :
    (commands.flatMap commandLine).splitOn 10 =
      commands.map (fun command => Python.encodeUtf8 command.toList) ++ [[]] := by
  induction commands with
  | nil => rfl
  | cons command rest ih =>
    obtain ⟨hcommand, hrest⟩ := List.forall_mem_cons.mp h
    have hfree : 10 ∉ Python.encodeUtf8 command.toList := fun hmem =>
      lineFeed_not_mem hcommand (Python.mem_of_mem_encodeUtf8 hmem (by decide))
    rw [List.flatMap_cons, commandLine, List.append_assoc, List.singleton_append,
      List.splitOn_append_cons_self_of_not_mem hfree, ih hrest, List.map_cons, List.cons_append]

theorem encodeCommandsWithin_eq_ok :
    encodeCommandsWithin maxCommandBytes maxTotalBytes commands = .ok bytes ↔
      (0 < maxCommandBytes ∧ 0 < maxTotalBytes) ∧ commands ≠ [] ∧
        encodeFromWithin maxCommandBytes maxTotalBytes 0 commands = .ok bytes := by
  rw [encodeCommandsWithin]
  split_ifs with hlimits hempty
  · refine iff_of_false (fun h => by cases h) fun h => ?_
    omega
  · exact iff_of_false (fun h => by cases h) fun h => h.2.1 hempty
  · have hpositive : 0 < maxCommandBytes ∧ 0 < maxTotalBytes := by omega
    exact ⟨fun h => ⟨hpositive, hempty, h⟩, fun h => h.2.2⟩

/-- What a part of a list of commands contributes to the output: its own encoding. The encoder
refuses an empty list, and an empty part contributes nothing. -/
def Contributes (maxCommandBytes maxTotalBytes : Int) (part : List String) (bytes : List Nat) :
    Prop :=
  encodeCommandsWithin maxCommandBytes maxTotalBytes part = .ok bytes ∨ part = [] ∧ bytes = []

theorem contributes_of_encodeFromWithin (hlimits : 0 < maxCommandBytes ∧ 0 < maxTotalBytes)
    (h : encodeFromWithin maxCommandBytes maxTotalBytes totalBytes commands = .ok bytes) :
    Contributes maxCommandBytes maxTotalBytes commands bytes := by
  by_cases hempty : commands = []
  · subst hempty
    exact .inr ⟨rfl, (Except.ok.inj h).symm⟩
  · have hfirst := encodeFromWithin_mono (Nat.zero_le totalBytes) h
    exact .inl (encodeCommandsWithin_eq_ok.mpr ⟨hlimits, hempty, hfirst⟩)

/-- **Commands are read back.** Whenever the encoder accepts commands, under whatever limits, its
output splits at the line feeds into the commands in their order, decoded as UTF-8, with nothing
behind the last line feed; it is no longer than the limit, and ends with a line feed. The output for
two lists of commands, one behind the other, is the one output behind the other. -/
theorem command_encoding_round_trip (maxCommandBytes maxTotalBytes : Int) (commands : List String)
    (bytes : List Nat)
    (h : encodeCommandsWithin maxCommandBytes maxTotalBytes commands = .ok bytes) :
    ((bytes.splitOn 10).dropLast.map Python.decodeUtf8 = commands.map some ∧
      (bytes.splitOn 10).getLast? = some []) ∧
      bytes.getLast? = some 10 ∧ bytes.length ≤ maxTotalBytes ∧
      ∀ first second, first ++ second = commands →
        ∃ before after, bytes = before ++ after ∧
          Contributes maxCommandBytes maxTotalBytes first before ∧
          Contributes maxCommandBytes maxTotalBytes second after := by
  obtain ⟨hlimits, hnonempty, hloop⟩ := encodeCommandsWithin_eq_ok.mp h
  have hbytes := bytes_of_encodeFromWithin hloop
  have hsplit := splitOn_commandLines (isCommand_of_encodeFromWithin hloop)
  rw [← hbytes] at hsplit
  refine ⟨⟨?_, ?_⟩, ?_, ?_, ?_⟩
  · rw [hsplit, List.dropLast_concat, List.map_map]
    refine List.map_congr_left fun command _ => ?_
    exact (Python.decodeUtf8_encodeUtf8 command.toList).trans
      (congrArg some String.ofList_toList)
  · rw [hsplit, List.getLast?_concat]
  · obtain ⟨before, command, rfl⟩ := (List.eq_nil_or_concat commands).resolve_left hnonempty
    rw [hbytes, List.concat_eq_append, List.flatMap_append, List.flatMap_singleton, commandLine,
      ← List.append_assoc, List.getLast?_concat]
  · have hlength := length_of_encodeFromWithin hnonempty hloop
    rwa [Nat.zero_add] at hlength
  · rintro first second rfl
    obtain ⟨before, after, hbefore, hafter, rfl⟩ := encodeFromWithin_append hloop
    exact ⟨before, after, rfl, contributes_of_encodeFromWithin hlimits hbefore,
      contributes_of_encodeFromWithin hlimits hafter⟩

end Commands

/-- The choices of both players, within limits of 64 bytes. -/
theorem choices_read_back :
    letI := Python.plainForms
    let commands := [">p1 move 1", ">p2 default"]
    ∃ bytes, encodeCommandsWithin 64 64 commands = .ok bytes ∧
      (bytes.splitOn 10).dropLast.map Python.decodeUtf8 = commands.map some := by
  let _ := Python.plainForms
  intro commands
  have hencoded : encodeCommandsWithin 64 64 commands =
      .ok (Python.encodeUtf8 ">p1 move 1\n>p2 default\n".toList) := by
    unfold commands
    decide +kernel
  exact ⟨_, hencoded, (command_encoding_round_trip 64 64 commands _ hencoded).1.1⟩

end BattleBelief.Oracle
