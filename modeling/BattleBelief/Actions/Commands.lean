import BattleBelief.Actions.SafeChoices
import Mathlib.Tactic.IntervalCases

/-!
# Commands

The command of a submission names less than the submission: no move id, and a revival as if it
were a switch. Within one request nothing is lost all the same, since the command tells where the
submission stands among the others.
-/

namespace BattleBelief

open Runs

/-! ## §1 The characters of a command -/

/-- The digit of a slot. -/
def slotDigit (n : Int) : Char := Char.ofNat (48 + n.toNat)

/-- A slot that a submission may name. -/
def IsSlot (n : Int) : Prop := 1 ≤ n ∧ n ≤ 6

theorem toString_slot {n : Int} (h : IsSlot n) : (toString n).toList = [slotDigit n] := by
  obtain ⟨hle, hge⟩ := h
  interval_cases n <;> rfl

/-- The slot of a digit. -/
def digitSlot (c : Char) : Int := (c.toNat : Int) - 48

theorem digitSlot_slotDigit {n : Int} (h : IsSlot n) : digitSlot (slotDigit n) = n := by
  obtain ⟨hle, hge⟩ := h
  interval_cases n <;> rfl

theorem slotDigit_inj {n m : Int} (hn : IsSlot n) (hm : IsSlot m) (h : slotDigit n = slotDigit m) :
    n = m := by
  rw [← digitSlot_slotDigit hn, h, digitSlot_slotDigit hm]

theorem map_digitSlot {order : List Int} (h : ∀ n ∈ order, IsSlot n) :
    (order.map slotDigit).map digitSlot = order := by
  rw [List.map_map]
  exact (List.map_congr_left fun n hn => digitSlot_slotDigit (h n hn)).trans (List.map_id _)

/-- The word that a command starts with. -/
def commandWord : ActionKind → List Char
  | .default => ['d', 'e', 'f', 'a', 'u', 'l', 't']
  | .move => ['m', 'o', 'v', 'e', ' ']
  | .switch | .revive => ['s', 'w', 'i', 't', 'c', 'h', ' ']
  | .team => ['t', 'e', 'a', 'm', ' ']

/-- The slots that a submission names. -/
def BattleSubmission.slots (submission : BattleSubmission) : List Int :=
  submission.slot.toList ++ submission.teamOrder

/-- What a command ends with. -/
def commandTail (submission : BattleSubmission) : List Char :=
  if submission.terastallize then " terastallize".toList else []

/-- The characters of a command: its word, a digit for each slot, and its tail. -/
def commandChars (submission : BattleSubmission) : List Char :=
  commandWord submission.kind ++ submission.slots.map slotDigit ++ commandTail submission

/-- Moves, switches and revivals name one slot. -/
theorem BattleSubmission.slot_eq_some {submission : BattleSubmission}
    (h : submission.kind = .move ∨ submission.kind = .switch ∨ submission.kind = .revive) :
    ∃ n, submission.slot = some n ∧ IsSlot n := by
  obtain ⟨-, hchecks⟩ := submission.passes
  have hwithin : slotWithin submission.slot 4 = true ∨ slotWithin submission.slot 6 = true := by
    rcases h with h | h | h
    all_goals
      simp [submissionChecks, h] at hchecks
      tauto
  cases hslot : submission.slot with
  | none => simp [slotWithin, hslot] at hwithin
  | some n =>
    refine ⟨n, rfl, ?_⟩
    simp [slotWithin, hslot] at hwithin
    unfold IsSlot
    omega

/-- A team order names slots. -/
theorem BattleSubmission.teamOrder_slots (submission : BattleSubmission) :
    ∀ n ∈ submission.teamOrder, IsSlot n := by
  intro n hn
  by_cases hk : submission.kind = .team
  · obtain ⟨-, hchecks⟩ := submission.passes
    simp [submissionChecks, hk] at hchecks
    exact hchecks.2.1.2 n hn
  · rw [teamOrder_of_kind hk] at hn
    cases hn

/-- Only a move can terastallize. -/
theorem BattleSubmission.terastallize_of_kind {submission : BattleSubmission}
    (h : submission.kind ≠ .move) : submission.terastallize = false := by
  obtain ⟨-, hchecks⟩ := submission.passes
  cases hkind : submission.kind with
  | move => exact absurd hkind h
  | _ =>
    simp [submissionChecks, hkind] at hchecks
    tauto

/-- The digits of a team order. -/
theorem toList_join_slots {order : List Int} (h : ∀ n ∈ order, IsSlot n) :
    (String.join (order.map toString)).toList = order.map slotDigit := by
  induction order with
  | nil => rfl
  | cons n rest ih =>
    obtain ⟨hn, hrest⟩ := List.forall_mem_cons.mp h
    rw [List.map_cons, List.map_cons, String.join_cons, String.toList_append, toString_slot hn,
      ih hrest]
    rfl

/-- A word and a slot. -/
theorem toList_word_slot (word : String) {n : Int} (h : IsSlot n) :
    (word ++ toString n).toList = word.toList ++ [slotDigit n] := by
  rw [String.toList_append, toString_slot h]

/-- Moves, switches and revivals have one slot and no order. -/
theorem BattleSubmission.slots_eq_singleton (submission : BattleSubmission)
    (h : submission.kind = .move ∨ submission.kind = .switch ∨ submission.kind = .revive) :
    ∃ n, submission.slot = some n ∧ submission.slots = [n] ∧ IsSlot n := by
  obtain ⟨n, hslot, hn⟩ := submission.slot_eq_some h
  have horder : submission.teamOrder = [] :=
    teamOrder_of_kind (by rcases h with h | h | h <;> simp [h])
  refine ⟨n, hslot, ?_, hn⟩
  rw [slots, hslot, horder]
  rfl

/-- A team submission has its order. -/
theorem BattleSubmission.slots_of_team {submission : BattleSubmission}
    (h : submission.kind = .team) : submission.slots = submission.teamOrder := by
  rw [slots, slot_of_team h]
  rfl

theorem commandTail_of_kind {submission : BattleSubmission} (h : submission.kind ≠ .move) :
    commandTail submission = [] := by
  rw [commandTail, BattleSubmission.terastallize_of_kind h]
  rfl

theorem encode_chars (submission : BattleSubmission) :
    ∃ text, encodeSubmission submission = .ok text ∧ text.toList = commandChars submission := by
  unfold encodeSubmission commandChars
  cases hkind : submission.kind with
  | default =>
    obtain rfl := eq_defaultSubmission_iff.mpr hkind
    exact ⟨_, rfl, rfl⟩
  | team =>
    refine ⟨_, rfl, ?_⟩
    rw [String.toList_append, toList_join_slots submission.teamOrder_slots,
      BattleSubmission.slots_of_team hkind, commandTail_of_kind (by simp [hkind]), List.append_nil]
    rfl
  | move =>
    obtain ⟨n, hslot, hslots, hn⟩ := BattleSubmission.slots_eq_singleton _ (.inl hkind)
    rw [hslot, hslots]
    unfold commandTail
    cases submission.terastallize with
    | true =>
      refine ⟨"move " ++ toString n ++ " terastallize", rfl, ?_⟩
      rw [String.toList_append, toList_word_slot "move " hn]
      rfl
    | false => exact ⟨"move " ++ toString n, rfl, toList_word_slot "move " hn⟩
  | switch =>
    obtain ⟨n, hslot, hslots, hn⟩ := BattleSubmission.slots_eq_singleton _ (.inr (.inl hkind))
    rw [hslot, hslots, commandTail_of_kind (by simp [hkind])]
    exact ⟨"switch " ++ toString n, rfl, toList_word_slot "switch " hn⟩
  | revive =>
    obtain ⟨n, hslot, hslots, hn⟩ := BattleSubmission.slots_eq_singleton _ (.inr (.inr hkind))
    rw [hslot, hslots, commandTail_of_kind (by simp [hkind])]
    exact ⟨"switch " ++ toString n, rfl, toList_word_slot "switch " hn⟩

/-! ## §2 What a command tells -/

/-- The first letter tells the kind, but for a switch and a revival. -/
theorem kind_of_commandWord {kind kind' : ActionKind}
    (h : (commandWord kind).head? = (commandWord kind').head?) :
    kind = kind' ∨
      (kind = .switch ∨ kind = .revive) ∧ (kind' = .switch ∨ kind' = .revive) := by
  revert h
  cases kind <;> cases kind' <;> decide

theorem head_commandChars (submission : BattleSubmission) :
    (commandChars submission).head? = (commandWord submission.kind).head? := by
  unfold commandChars commandWord
  cases submission.kind <;> rfl

theorem BattleSubmission.slots_valid (submission : BattleSubmission) :
    ∀ n ∈ submission.slots, IsSlot n := by
  intro n hn
  cases hkind : submission.kind with
  | default =>
    obtain rfl := eq_defaultSubmission_iff.mpr hkind
    cases hn
  | team =>
    rw [slots_of_team hkind] at hn
    exact submission.teamOrder_slots n hn
  | _ =>
    obtain ⟨m, -, hslots, hm⟩ := submission.slots_eq_singleton (by simp [hkind])
    rw [hslots] at hn
    exact List.mem_singleton.mp hn ▸ hm

/-- Submissions that are no moves have the slots that their commands name. -/
theorem slots_of_commandChars {first second : BattleSubmission}
    (hword : commandWord first.kind = commandWord second.kind)
    (hfirst : first.kind ≠ .move) (hsecond : second.kind ≠ .move)
    (h : commandChars first = commandChars second) : first.slots = second.slots := by
  unfold commandChars at h
  rw [commandTail_of_kind hfirst, commandTail_of_kind hsecond, List.append_nil, List.append_nil,
    hword] at h
  rw [← map_digitSlot first.slots_valid, List.append_cancel_left h,
    map_digitSlot second.slots_valid]

theorem place_of_bench {submission : BattleSubmission}
    (h : submission.kind = .switch ∨ submission.kind = .revive) :
    submission.place = 1 :: (submission.slots ++ [0]) := by
  obtain ⟨n, hslot, hslots, -⟩ := submission.slots_eq_singleton (.inr h)
  have htera : submission.terastallize = false :=
    BattleSubmission.terastallize_of_kind (by rcases h with h | h <;> simp [h])
  have horder : submission.teamOrder = [] :=
    BattleSubmission.teamOrder_of_kind (by rcases h with h | h <;> simp [h])
  rcases h with h | h <;> simp [BattleSubmission.place, h, hslot, hslots, htera, horder]

theorem place_of_team {submission : BattleSubmission} (h : submission.kind = .team) :
    submission.place = 1 :: 0 :: 0 :: submission.slots := by
  have htera : submission.terastallize = false :=
    BattleSubmission.terastallize_of_kind (by simp [h])
  simp [BattleSubmission.place, h, BattleSubmission.slot_of_team h,
    BattleSubmission.slots_of_team h, htera]

/-- The command of a move names its slot, and ends with the suffix for terastallization alone. -/
theorem place_of_moveChars {first second : BattleSubmission} (hfirst : first.kind = .move)
    (hsecond : second.kind = .move) (h : commandChars first = commandChars second) :
    first.place = second.place := by
  obtain ⟨n, hslot, hslots, hn⟩ := first.slots_eq_singleton (.inl hfirst)
  obtain ⟨m, hslot', hslots', hm⟩ := second.slots_eq_singleton (.inl hsecond)
  unfold commandChars at h
  rw [hfirst, hsecond, hslots, hslots'] at h
  obtain ⟨hdigits, htails⟩ := List.append_inj h rfl
  obtain rfl : n = m := slotDigit_inj hn hm (List.singleton_inj.mp (List.append_cancel_left hdigits))
  have htera : first.terastallize = second.terastallize := by
    unfold commandTail at htails
    revert htails
    cases first.terastallize <;> cases second.terastallize <;> decide
  have horder : first.teamOrder = second.teamOrder := by
    rw [BattleSubmission.teamOrder_of_kind (by simp [hfirst]),
      BattleSubmission.teamOrder_of_kind (by simp [hsecond])]
  simp only [BattleSubmission.place, hfirst, hsecond, hslot, hslot', htera, horder]

/-- The command of a submission tells its place. -/
theorem place_of_commandChars {first second : BattleSubmission}
    (h : commandChars first = commandChars second) : first.place = second.place := by
  have hheads : (commandWord first.kind).head? = (commandWord second.kind).head? := by
    rw [← head_commandChars, ← head_commandChars, h]
  have hbench : (first.kind = .switch ∨ first.kind = .revive) →
      (second.kind = .switch ∨ second.kind = .revive) → first.place = second.place := by
    intro hfirst hsecond
    have hword : commandWord first.kind = commandWord second.kind := by
      rcases hfirst with hfirst | hfirst <;> rcases hsecond with hsecond | hsecond <;>
        rw [hfirst, hsecond] <;> rfl
    rw [place_of_bench hfirst, place_of_bench hsecond, slots_of_commandChars hword ?_ ?_ h]
    · rcases hfirst with hfirst | hfirst <;> simp [hfirst]
    · rcases hsecond with hsecond | hsecond <;> simp [hsecond]
  rcases kind_of_commandWord hheads with hsame | ⟨hfirst, hsecond⟩
  swap
  · exact hbench hfirst hsecond
  cases hkind : first.kind with
  | default =>
    have hkind' : second.kind = .default := hsame ▸ hkind
    rw [eq_defaultSubmission_iff.mpr hkind, eq_defaultSubmission_iff.mpr hkind']
  | move => exact place_of_moveChars hkind (hsame ▸ hkind) h
  | team =>
    have hkind' : second.kind = .team := hsame ▸ hkind
    have hslots := slots_of_commandChars (congrArg commandWord hsame) (by simp [hkind])
      (by simp [hkind']) h
    rw [place_of_team hkind, place_of_team hkind', hslots]
  | switch => exact hbench (.inl hkind) (.inl (hsame ▸ hkind))
  | revive => exact hbench (.inr hkind) (.inr (hsame ▸ hkind))

/-! ## §3 The commands of a request -/

/-- The characters at which `str.splitlines` breaks a line. -/
def isLineBreak (c : Char) : Bool :=
  c.toNat ∈ [0xa, 0xb, 0xc, 0xd, 0x1c, 0x1d, 0x1e, 0x85, 0x2028, 0x2029]

/-- A character that may stand inside a choice: it ends neither the choice nor the line. -/
def isInert (c : Char) : Bool := c ≠ '|' && c ≠ ',' && !isLineBreak c

theorem slotDigit_inert {n : Int} (h : IsSlot n) : isInert (slotDigit n) = true := by
  obtain ⟨hle, hge⟩ := h
  interval_cases n <;> decide

theorem commandChars_inert (submission : BattleSubmission) :
    ∀ c ∈ commandChars submission, isInert c = true := by
  have hword : ∀ kind : ActionKind, (commandWord kind).all isInert = true := by
    intro kind
    cases kind <;> decide
  have htail : (commandTail submission).all isInert = true := by
    unfold commandTail
    split_ifs
    · decide
    · rfl
  refine List.forall_mem_append.mpr ⟨List.forall_mem_append.mpr ⟨?_, fun c hc => ?_⟩, ?_⟩
  · exact List.all_eq_true.mp (hword submission.kind)
  · obtain ⟨n, hn, rfl⟩ := List.mem_map.mp hc
    exact slotDigit_inert (submission.slots_valid n hn)
  · exact List.all_eq_true.mp htail

section Commands

variable [Python.UnicodeDatabase] [JsonDecoder] {roomId payload : String} {request : DecisionRequest}

/-- No two submissions of a request have one place. -/
theorem places_nodup (h : readRequest roomId payload = .ok request) :
    (request.safeSubmissions.submissions.map BattleSubmission.place).Nodup := by
  have hsorted := submissions_sorted h
  exact List.pairwise_map.mpr (hsorted.imp fun {a b} (hlt : a.place < b.place) heq =>
    List.lt_irrefl b.place (heq ▸ hlt))

/-- Every submission of a request has a command of its own, and no command can be taken for more
than one choice or more than one line. -/
theorem commands_injective (h : readRequest roomId payload = .ok request) :
    (∀ submission ∈ request.safeSubmissions.submissions, ∃ text,
      encodeSubmission submission = .ok text ∧
        ∀ c ∈ text.toList, c ≠ '|' ∧ c ≠ ',' ∧ isLineBreak c = false) ∧
      ∀ first ∈ request.safeSubmissions.submissions,
        ∀ second ∈ request.safeSubmissions.submissions,
          encodeSubmission first = encodeSubmission second → first = second := by
  refine ⟨fun submission _ => ?_, fun first hfirst second hsecond heq => ?_⟩
  · obtain ⟨text, htext, hchars⟩ := encode_chars submission
    refine ⟨text, htext, fun c hc => ?_⟩
    rw [hchars] at hc
    simpa [isInert, and_assoc] using commandChars_inert submission c hc
  · obtain ⟨text, htext, hchars⟩ := encode_chars first
    obtain ⟨text', htext', hchars'⟩ := encode_chars second
    obtain rfl := Except.ok.inj ((htext.symm.trans heq).trans htext')
    have hplace := place_of_commandChars (hchars.symm.trans hchars')
    -- submissions at one place of the list are one
    have hplaces := places_nodup h
    exact List.inj_on_of_nodup_map hplaces hfirst hsecond hplace

end Commands

/-- The two moves of the only pokemon have two commands. -/
theorem solo_commands :
    letI := Python.asciiDatabase
    letI := soloDecoder
    ∃ request, readRequest "battle-gen9ou-1" soloText = .ok request ∧
      ∀ first ∈ request.safeSubmissions.submissions,
        ∀ second ∈ request.safeSubmissions.submissions,
          encodeSubmission first = encodeSubmission second → first = second := by
  let _ := Python.asciiDatabase
  let _ := soloDecoder
  have hread : (readRequest "battle-gen9ou-1" soloText).map (fun request => request.kind)
      = .ok .move := by
    decide +kernel
  obtain ⟨request, hrequest, -⟩ := map_eq_ok.mp hread
  exact ⟨request, hrequest, (commands_injective hrequest).2⟩

end BattleBelief
