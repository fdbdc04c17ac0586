import BattleBelief.Oracle.ChildCleanup

/-!
# The Cleanup Ladders

Whether a runner that has launched a child leaves it behind. The log only grows, so that a child
whose exit has been observed, or that has been terminated by force, stays `Contained`; each ladder is
followed down to where it first is.

- `finishOrphanCheck_ok`: a normal return needs a last orphan check without a child left
- `shutdown_contained`: what each ladder needs to get to a forced termination
- `cleans_up_iff`: the environments in which each runner keeps its promise, exactly
-/

namespace BattleBelief.Oracle.ChildCleanup

/-! ## §1 Logs -/

@[simp] theorem observed_append (log more : List Event) :
    observed (log ++ more) = (observed log || observed more) := List.any_append

@[simp] theorem forced_append (log more : List Event) :
    forced (log ++ more) = (forced log || forced more) := List.any_append

@[simp] theorem observed_waited (exited : Bool) : observed [.waited exited] = exited := by
  cases exited <;> rfl

@[simp] theorem observed_terminated (force : Bool) (reply : Reply) :
    observed [.terminated force reply] = false := rfl

@[simp] theorem observed_orphanCheck (verdict : Verdict) : observed [.orphanCheck verdict] = false :=
  rfl

@[simp] theorem forced_terminated (force : Bool) (reply : Reply) :
    forced [.terminated force reply] = force := Bool.or_false force

@[simp] theorem forced_waited (exited : Bool) : forced [.waited exited] = false := rfl

@[simp] theorem forced_orphanCheck (verdict : Verdict) : forced [.orphanCheck verdict] = false := rfl

@[simp] theorem lastOrphanCheck_append (log : List Event) (verdict : Verdict) :
    lastOrphanCheck (log ++ [.orphanCheck verdict]) = some verdict := by
  simp [lastOrphanCheck]

/-- The child's exit has been observed, or it has been terminated by force. -/
def Contained (log : List Event) : Prop := observed log = true ∨ forced log = true

theorem observed_of_extends {log more : List Event} (hextends : log <+: more)
    (h : observed log = true) : observed more = true := by
  obtain ⟨rest, rfl⟩ := hextends
  simp [h]

theorem Contained.of_extends {log more : List Event} (h : Contained log) (hextends : log <+: more) :
    Contained more := by
  obtain ⟨rest, rfl⟩ := hextends
  rcases h with h | h
  · exact .inl (by simp [h])
  · exact .inr (by simp [h])

/-- A child that has been launched is contained at the end, and a normal return comes after its exit
and after an orphan check that finds nothing left. -/
structure CleansUp {α κ : Type} (outcome : Except κ α × List Event) : Prop where
  contained : .launched ∈ outcome.2 → Contained outcome.2
  settled : ∀ result, outcome.1 = .ok result →
    observed outcome.2 = true ∧ lastOrphanCheck outcome.2 = some .noneLeft

variable {env : Environment} {log : List Event}

/-- After a wait the exit has been observed if the wait says so. -/
theorem waitForExit_spec {exited : Bool} {after : List Event}
    (h : waitForExit env log = (exited, after)) :
    log <+: after ∧ observed after = exited ∧ forced after = forced log := by
  obtain ⟨rfl, rfl⟩ := Prod.mk.inj h
  refine ⟨List.prefix_append _ _, ?_, by simp⟩
  rw [observed_append, observed_waited, ← Bool.or_assoc, Bool.or_self]

theorem terminate_spec {force succeeded : Bool} {after : List Event}
    (h : terminate env force log = (succeeded, after)) :
    log <+: after ∧ observed after = observed log ∧ forced after = (forced log || force) := by
  obtain ⟨-, rfl⟩ := Prod.mk.inj h
  exact ⟨List.prefix_append _ _, by simp, by simp⟩

theorem verifyOrphans_spec {verdict : Verdict} {after : List Event}
    (h : verifyOrphans env log = (verdict, after)) :
    log <+: after ∧ lastOrphanCheck after = some verdict := by
  obtain ⟨rfl, rfl⟩ := Prod.mk.inj h
  exact ⟨List.prefix_append _ _, lastOrphanCheck_append _ _⟩

/-- Closing the child's input does not raise. -/
abbrev ClosesQuietly (env : Environment) (stdin : Bool) : Prop :=
  ¬(stdin = true ∧ env.closeInput = .raised)

/-! ## §2 The Ladder of the Process Runner -/

namespace ShowdownProcessRunner

theorem settle_ok {cleanupFailed orphaned forced result : Bool}
    (h : settle env cleanupFailed orphaned forced = .ok result) :
    cleanupFailed = false ∧ orphaned = false := by
  simp only [settle] at h
  split at h
  case isTrue => cases h
  case isFalse hcleanup =>
    split at h
    case isTrue => cases h
    case isFalse horphaned => simp_all

theorem finishOrphanCheck_extends (env : Environment) (cleanupFailed forced : Bool)
    (log : List Event) :
    log <+: (finishOrphanCheck env cleanupFailed forced log).2 := by
  unfold finishOrphanCheck
  cases hfirst : verifyOrphans env log with | mk verdict after =>
  have hextends := (verifyOrphans_spec hfirst).1
  simp only
  split
  · cases hterminate : terminate env true after with | mk contained terminated =>
    cases hwait : waitForExit env terminated with | mk exited waited =>
    cases hlast : verifyOrphans env waited with | mk last final =>
    exact hextends.trans ((terminate_spec hterminate).1.trans ((waitForExit_spec hwait).1.trans
      (verifyOrphans_spec hlast).1))
  · exact hextends

/-- A normal return needs a cleanup without failures and a last orphan check without a child left. -/
theorem finishOrphanCheck_ok {cleanupFailed forced result : Bool}
    (h : (finishOrphanCheck env cleanupFailed forced log).1 = .ok result) :
    cleanupFailed = false ∧
      lastOrphanCheck (finishOrphanCheck env cleanupFailed forced log).2 = some .noneLeft := by
  unfold finishOrphanCheck at h ⊢
  cases hfirst : verifyOrphans env log with | mk verdict after =>
  simp only [hfirst] at h ⊢
  split at h
  case isTrue hleft =>
    rw [if_pos hleft]
    cases hterminate : terminate env true after with | mk contained terminated =>
    cases hwait : waitForExit env terminated with | mk exited waited =>
    cases hlast : verifyOrphans env waited with | mk last final =>
    simp only [hterminate, hwait, hlast] at h ⊢
    obtain ⟨hcleanup, hverdict⟩ := settle_ok h
    simp only [Bool.or_eq_false_iff, decide_eq_false_iff_not] at hcleanup hverdict
    refine ⟨hcleanup.1.1.1.1, ?_⟩
    rw [(verifyOrphans_spec hlast).2]
    cases last with
    | noneLeft => rfl
    | childLeft => exact absurd rfl hverdict
    | raised => exact absurd rfl hcleanup.2
  case isFalse hnone =>
    rw [if_neg hnone]
    obtain ⟨hcleanup, _⟩ := settle_ok h
    rw [Bool.or_eq_false_iff] at hcleanup
    refine ⟨hcleanup.1, ?_⟩
    rw [(verifyOrphans_spec hfirst).2]
    cases verdict with
    | noneLeft => rfl
    | childLeft => exact absurd (.inl rfl) hnone
    | raised => exact absurd (.inr rfl) hnone

/-- The forced termination is attempted, and a normal return needs the exit. -/
theorem terminateByForce_contained (env : Environment) (cleanupFailed : Bool) (log : List Event) :
    log <+: (terminateByForce env cleanupFailed log).2 ∧
      Contained (terminateByForce env cleanupFailed log).2 := by
  unfold terminateByForce
  cases hterminate : terminate env true log with | mk succeeded terminated =>
  cases hwait : waitForExit env terminated with | mk exited waited =>
  simp only [hwait]
  obtain ⟨hstart, _, hforced⟩ := terminate_spec hterminate
  have hextends := (waitForExit_spec hwait).1.trans
    (finishOrphanCheck_extends env (cleanupFailed || !succeeded || !exited) true waited)
  refine ⟨hstart.trans hextends, Contained.of_extends (.inr ?_) hextends⟩
  rw [hforced, Bool.or_true]

theorem terminateByForce_ok {cleanupFailed result : Bool}
    (h : (terminateByForce env cleanupFailed log).1 = .ok result) :
    observed (terminateByForce env cleanupFailed log).2 = true ∧
      lastOrphanCheck (terminateByForce env cleanupFailed log).2 = some .noneLeft := by
  unfold terminateByForce at h ⊢
  cases hterminate : terminate env true log with | mk succeeded terminated =>
  cases hwait : waitForExit env terminated with | mk exited waited =>
  simp only [hterminate, hwait] at h ⊢
  obtain ⟨hcleanup, hlast⟩ := finishOrphanCheck_ok h
  simp only [Bool.or_eq_false_iff, Bool.not_eq_false'] at hcleanup
  refine ⟨observed_of_extends (finishOrphanCheck_extends _ _ _ _) ?_, hlast⟩
  rw [(waitForExit_spec hwait).2.1]
  exact hcleanup.2

theorem shutdown_unclosed {stdin : Bool} (h : stdin = true ∧ env.closeInput = .raised) :
    shutdown env stdin log = (.error .unexpected, log) := by
  rw [shutdown, if_pos h]

/-- Once the input is closed, every way down the ladder contains the child. -/
theorem shutdown_contained {stdin : Bool} (h : ClosesQuietly env stdin) :
    log <+: (shutdown env stdin log).2 ∧ Contained (shutdown env stdin log).2 := by
  rw [shutdown, if_neg h]
  cases hwait : waitForExit env log with | mk exited waited =>
  obtain ⟨hstart, hobserved, _⟩ := waitForExit_spec hwait
  cases exited with
  | true =>
    have hextends := finishOrphanCheck_extends env false false waited
    exact ⟨hstart.trans hextends, Contained.of_extends (.inl hobserved) hextends⟩
  | false =>
    cases hterminate : terminate env false waited with | mk succeeded terminated =>
    have hterminated := hstart.trans (terminate_spec hterminate).1
    cases succeeded with
    | false =>
      simp only [hterminate]
      obtain ⟨hextends, hcontained⟩ := terminateByForce_contained env true terminated
      exact ⟨hterminated.trans hextends, hcontained⟩
    | true =>
      cases hagain : waitForExit env terminated with | mk exited after =>
      obtain ⟨hafter, hobserved, _⟩ := waitForExit_spec hagain
      cases exited with
      | true =>
        have hextends := finishOrphanCheck_extends env false true after
        simp only [hterminate, hagain]
        exact ⟨(hterminated.trans hafter).trans hextends,
          Contained.of_extends (.inl hobserved) hextends⟩
      | false =>
        obtain ⟨hextends, hcontained⟩ := terminateByForce_contained env false after
        simp only [hterminate, hagain]
        exact ⟨(hterminated.trans hafter).trans hextends, hcontained⟩

/-- The child is contained after the ladder exactly when its exit has been observed before, or the
input closes. -/
theorem shutdown_contained_iff (env : Environment) (stdin : Bool) (hforced : forced log = false) :
    log <+: (shutdown env stdin log).2 ∧
      (Contained (shutdown env stdin log).2 ↔ observed log = true ∨ ClosesQuietly env stdin) := by
  by_cases hclose : stdin = true ∧ env.closeInput = .raised
  · rw [shutdown_unclosed hclose]
    refine ⟨List.prefix_rfl, ?_⟩
    rw [Contained, hforced, or_iff_left (by decide), or_iff_left fun hquiet => hquiet hclose]
  · obtain ⟨hextends, hcontained⟩ := shutdown_contained hclose
    exact ⟨hextends, iff_of_true hcontained (.inr hclose)⟩

/-- A normal return comes after the exit, and after an orphan check that finds nothing left. -/
theorem shutdown_ok {stdin result : Bool} (h : (shutdown env stdin log).1 = .ok result) :
    observed (shutdown env stdin log).2 = true ∧
      lastOrphanCheck (shutdown env stdin log).2 = some .noneLeft := by
  by_cases hclose : stdin = true ∧ env.closeInput = .raised
  · rw [shutdown_unclosed hclose] at h
    cases h
  · rw [shutdown, if_neg hclose] at h ⊢
    cases hwait : waitForExit env log with | mk exited waited =>
    have hobserved := (waitForExit_spec hwait).2.1
    simp only [hwait] at h ⊢
    cases exited with
    | true =>
      refine ⟨observed_of_extends (finishOrphanCheck_extends _ _ _ _) hobserved, ?_⟩
      exact (finishOrphanCheck_ok h).2
    | false =>
      cases hterminate : terminate env false waited with | mk succeeded terminated =>
      simp only [hterminate] at h ⊢
      cases succeeded with
      | false => exact terminateByForce_ok h
      | true =>
        cases hagain : waitForExit env terminated with | mk exited after =>
        have hobserved := (waitForExit_spec hagain).2.1
        simp only [hagain] at h ⊢
        cases exited with
        | true =>
          refine ⟨observed_of_extends (finishOrphanCheck_extends _ _ _ _) hobserved, ?_⟩
          exact (finishOrphanCheck_ok h).2
        | false => exact terminateByForce_ok h

/-- What a run has done is what its cleanup has done after the exchange. -/
theorem run_log {env : ProcessEnvironment} {streams : Streams} (hinput : env.inputTooLarge = false)
    (hlaunch : env.launch = .launched streams) :
    (run env).2 = (shutdown env.toEnvironment streams.stdin (serve env streams).2.2).2 := by
  simp only [run, hinput, hlaunch, Bool.false_eq_true, if_false]
  split
  · split
    · split <;> rfl
    · rfl
  · rfl

/-- A cleanup that raises leaves an error behind. -/
theorem exists_pendingAfter (pending : Option OracleProcessError) (raised : Raised) :
    ∃ error, pendingAfter pending (.error raised) = some error := by
  cases raised with
  | unexpected => exact ⟨_, rfl⟩
  | oracleProcessError error =>
    rw [pendingAfter]
    split
    case isTrue => exact ⟨error, rfl⟩
    case isFalse hpending =>
      obtain ⟨first, hfirst⟩ := Option.ne_none_iff_exists'.mp (not_or.mp hpending).1
      exact ⟨first, hfirst⟩

theorem conclude_ok {env : ProcessEnvironment} {pending : Option OracleProcessError}
    {sideError : Option (PlayerSide × String)} {exited forcedShutdown : Bool}
    {result : OracleProcessResult}
    (h : conclude env pending sideError exited forcedShutdown = .ok result) : pending = none := by
  unfold conclude at h
  split at h
  · cases h
  · cases pending with
    | none => rfl
    | some error => cases h

/-- A run that returns has come through its cleanup. -/
theorem shutdown_of_run {env : ProcessEnvironment} {streams : Streams}
    {result : OracleProcessResult} (hinput : env.inputTooLarge = false)
    (hlaunch : env.launch = .launched streams) (h : (run env).1 = .ok result) :
    ∃ forcedShutdown,
      (shutdown env.toEnvironment streams.stdin (serve env streams).2.2).1 = .ok forcedShutdown := by
  cases hshutdown : (shutdown env.toEnvironment streams.stdin (serve env streams).2.2).1 with
  | ok forcedShutdown => exact ⟨forcedShutdown, rfl⟩
  | error raised =>
    obtain ⟨error, herror⟩ := exists_pendingAfter (serve env streams).1 raised
    simp only [run, hinput, hlaunch, hshutdown, herror, Bool.false_eq_true, if_false, reduceCtorEq,
      false_and] at h
    cases conclude_ok h

/-- The log before the cleanup. -/
theorem serve_log (env : ProcessEnvironment) (streams : Streams) :
    .launched ∈ (serve env streams).2.2 ∧ forced (serve env streams).2.2 = false ∧
      (observed (serve env streams).2.2 = true ↔
        streams.stdin = true ∧ streams.stdout = true ∧ streams.stderr = true ∧
          env.exitSeen = true) := by
  obtain ⟨stdin, stdout, stderr⟩ := streams
  cases stdin <;> cases stdout <;> cases stderr <;> cases hseen : env.exitSeen <;>
    simp [serve, hseen, forced, observed]

end ShowdownProcessRunner

/-! ## §3 The Ladder of the Server -/

namespace LoopbackServerSmoke

theorem finalOrphanCheck_extends (env : Environment) (log : List Event) :
    log <+: (finalOrphanCheck env log).2 := by
  unfold finalOrphanCheck
  cases hlast : verifyOrphans env log with | mk verdict after =>
  have hextends := (verifyOrphans_spec hlast).1
  cases verdict <;> exact hextends

theorem finalOrphanCheck_ok {result : Bool} (h : (finalOrphanCheck env log).1 = .ok result) :
    lastOrphanCheck (finalOrphanCheck env log).2 = some .noneLeft := by
  unfold finalOrphanCheck at h ⊢
  cases hlast : verifyOrphans env log with | mk verdict after =>
  simp only [hlast] at h ⊢
  cases verdict with
  | raised => cases h
  | childLeft => cases h
  | noneLeft => exact (verifyOrphans_spec hlast).2

theorem finishOrphanCheck_extends (env : Environment) (forced : Bool) (log : List Event) :
    log <+: (finishOrphanCheck env forced log).2 := by
  unfold finishOrphanCheck
  cases hfirst : verifyOrphans env log with | mk verdict after =>
  have hextends := (verifyOrphans_spec hfirst).1
  cases verdict with
  | raised => exact hextends
  | noneLeft => exact hextends
  | childLeft =>
    cases hterminate : terminate env true after with | mk succeeded terminated =>
    have hterminated := hextends.trans (terminate_spec hterminate).1
    simp only [hterminate]
    cases succeeded with
    | false => exact hterminated
    | true =>
      cases hwait : waitForExit env terminated with | mk exited waited =>
      have hwaited := hterminated.trans (waitForExit_spec hwait).1
      cases exited with
      | false => exact hwaited
      | true => exact hwaited.trans (finalOrphanCheck_extends env waited)

/-- A normal return needs a last orphan check without a child left. -/
theorem finishOrphanCheck_ok {forced result : Bool}
    (h : (finishOrphanCheck env forced log).1 = .ok result) :
    lastOrphanCheck (finishOrphanCheck env forced log).2 = some .noneLeft := by
  unfold finishOrphanCheck at h ⊢
  cases hfirst : verifyOrphans env log with | mk verdict after =>
  simp only [hfirst] at h ⊢
  cases verdict with
  | raised => cases h
  | noneLeft => exact (verifyOrphans_spec hfirst).2
  | childLeft =>
    cases hterminate : terminate env true after with | mk succeeded terminated =>
    simp only [hterminate] at h ⊢
    cases succeeded with
    | false => cases h
    | true =>
      cases hwait : waitForExit env terminated with | mk exited waited =>
      simp only [hwait] at h ⊢
      cases exited with
      | false => cases h
      | true => exact finalOrphanCheck_ok h

theorem terminateByForce_contained (env : Environment) (log : List Event) :
    log <+: (terminateByForce env log).2 ∧ Contained (terminateByForce env log).2 := by
  unfold terminateByForce
  cases hterminate : terminate env true log with | mk succeeded terminated =>
  obtain ⟨hstart, _, hforced⟩ := terminate_spec hterminate
  have hcontained : Contained terminated := .inr (by rw [hforced, Bool.or_true])
  cases succeeded with
  | false => exact ⟨hstart, hcontained⟩
  | true =>
    cases hwait : waitForExit env terminated with | mk exited waited =>
    have hwaited := (waitForExit_spec hwait).1
    simp only [hwait]
    cases exited with
    | false => exact ⟨hstart.trans hwaited, hcontained.of_extends hwaited⟩
    | true =>
      have hextends := hwaited.trans (finishOrphanCheck_extends env true waited)
      exact ⟨hstart.trans hextends, hcontained.of_extends hextends⟩

theorem terminateByForce_ok {result : Bool} (h : (terminateByForce env log).1 = .ok result) :
    observed (terminateByForce env log).2 = true ∧
      lastOrphanCheck (terminateByForce env log).2 = some .noneLeft := by
  unfold terminateByForce at h ⊢
  cases hterminate : terminate env true log with | mk succeeded terminated =>
  simp only [hterminate] at h ⊢
  cases succeeded with
  | false => cases h
  | true =>
    cases hwait : waitForExit env terminated with | mk exited waited =>
    simp only [hwait] at h ⊢
    cases exited with
    | false => cases h
    | true =>
      refine ⟨observed_of_extends (finishOrphanCheck_extends _ _ _) ?_, finishOrphanCheck_ok h⟩
      exact (waitForExit_spec hwait).2.1

/-- Whether the ladder gets past its graceful termination: the exit is observed before that, or it
succeeds. -/
def GetsPast (env : Environment) (log : List Event) : Prop :=
  (waitForExit env log).1 = true ∨ (terminate env false (waitForExit env log).2).1 = true

/-- What the ladder does once it is past the graceful termination. -/
theorem shutdown_contained {stdin : Bool} (hclose : ClosesQuietly env stdin)
    (hpast : GetsPast env log) :
    log <+: (shutdown env true stdin log).2 ∧ Contained (shutdown env true stdin log).2 := by
  unfold shutdown
  rw [if_neg (by decide), if_neg hclose]
  cases hwait : waitForExit env log with | mk exited waited =>
  obtain ⟨hstart, hobserved, _⟩ := waitForExit_spec hwait
  simp only [GetsPast, hwait] at hpast ⊢
  cases exited with
  | true =>
    have hextends := finishOrphanCheck_extends env false waited
    exact ⟨hstart.trans hextends, Contained.of_extends (.inl hobserved) hextends⟩
  | false =>
    cases hterminate : terminate env false waited with | mk succeeded terminated =>
    simp only [hterminate] at hpast ⊢
    obtain rfl := hpast.resolve_left (by decide)
    have hterminated := hstart.trans (terminate_spec hterminate).1
    cases hagain : waitForExit env terminated with | mk exited after =>
    obtain ⟨hafter, hobserved, _⟩ := waitForExit_spec hagain
    cases exited with
    | true =>
      have hextends := finishOrphanCheck_extends env false after
      exact ⟨(hterminated.trans hafter).trans hextends, Contained.of_extends (.inl hobserved) hextends⟩
    | false =>
      obtain ⟨hextends, hcontained⟩ := terminateByForce_contained env after
      exact ⟨(hterminated.trans hafter).trans hextends, hcontained⟩

/-- Where it gets stuck, it has not terminated the child by force. -/
theorem shutdown_stuck {watched stdin : Bool}
    (h : ¬(watched = true ∧ ClosesQuietly env stdin ∧ GetsPast env log)) :
    log <+: (shutdown env watched stdin log).2 ∧
      observed (shutdown env watched stdin log).2 = observed log ∧
      forced (shutdown env watched stdin log).2 = forced log := by
  unfold shutdown
  cases watched with
  | false => exact ⟨List.prefix_rfl, rfl, rfl⟩
  | true =>
    rw [if_neg (by decide)]
    by_cases hclose : stdin = true ∧ env.closeInput = .raised
    · rw [if_pos hclose]
      exact ⟨List.prefix_rfl, rfl, rfl⟩
    · rw [if_neg hclose]
      have hstuck : ¬GetsPast env log := fun hpast => h ⟨rfl, hclose, hpast⟩
      cases hwait : waitForExit env log with | mk exited waited =>
      cases hterminate : terminate env false waited with | mk succeeded terminated =>
      simp only [GetsPast, hwait, hterminate, not_or, Bool.not_eq_true] at hstuck
      obtain ⟨rfl, rfl⟩ := hstuck
      obtain ⟨hextends, hwaited, hunforced⟩ := waitForExit_spec hwait
      obtain ⟨hend, hobserved, hforced⟩ := terminate_spec hterminate
      have hunseen : observed log = false := by
        rw [← Bool.not_eq_true]
        intro hseen
        rw [observed_of_extends hextends hseen] at hwaited
        cases hwaited
      simp only [hterminate]
      refine ⟨hextends.trans hend, ?_, ?_⟩
      · exact hobserved.trans (hwaited.trans hunseen.symm)
      · exact hforced.trans ((Bool.or_false _).trans hunforced)

/-- The child is contained after the ladder exactly when its exit has been observed before, or the
input closes and the ladder gets past the graceful termination. -/
theorem shutdown_contained_iff (env : Environment) (watched stdin : Bool) (hforced : forced log = false) :
    log <+: (shutdown env watched stdin log).2 ∧
      (Contained (shutdown env watched stdin log).2 ↔
        observed log = true ∨ (watched = true ∧ ClosesQuietly env stdin ∧ GetsPast env log)) := by
  by_cases hpast : watched = true ∧ ClosesQuietly env stdin ∧ GetsPast env log
  · obtain ⟨rfl, hclose, hgets⟩ := hpast
    obtain ⟨hextends, hcontained⟩ := shutdown_contained hclose hgets
    exact ⟨hextends, iff_of_true hcontained (.inr ⟨rfl, hclose, hgets⟩)⟩
  · obtain ⟨hextends, hobserved, hsame⟩ := shutdown_stuck hpast
    refine ⟨hextends, ?_⟩
    rw [Contained, hobserved, hsame, hforced, or_iff_left (by decide), or_iff_left hpast]

/-- A normal return comes after the exit, and after an orphan check that finds nothing left. -/
theorem shutdown_ok {watched stdin result : Bool}
    (h : (shutdown env watched stdin log).1 = .ok result) :
    observed (shutdown env watched stdin log).2 = true ∧
      lastOrphanCheck (shutdown env watched stdin log).2 = some .noneLeft := by
  unfold shutdown at h ⊢
  cases watched with
  | false => cases h
  | true =>
    rw [if_neg (by decide)] at h ⊢
    by_cases hclose : stdin = true ∧ env.closeInput = .raised
    · rw [if_pos hclose] at h
      cases h
    · rw [if_neg hclose] at h ⊢
      cases hwait : waitForExit env log with | mk exited waited =>
      have hobserved := (waitForExit_spec hwait).2.1
      simp only [hwait] at h ⊢
      cases exited with
      | true =>
        exact ⟨observed_of_extends (finishOrphanCheck_extends _ _ _) hobserved, finishOrphanCheck_ok h⟩
      | false =>
        cases hterminate : terminate env false waited with | mk succeeded terminated =>
        simp only [hterminate] at h ⊢
        cases succeeded with
        | false => cases h
        | true =>
          cases hagain : waitForExit env terminated with | mk exited after =>
          have hobserved := (waitForExit_spec hagain).2.1
          simp only [hagain] at h ⊢
          cases exited with
          | true =>
            exact ⟨observed_of_extends (finishOrphanCheck_extends _ _ _) hobserved,
              finishOrphanCheck_ok h⟩
          | false => exact terminateByForce_ok h

/-- What a run has done is what its cleanup has done after the readiness. -/
theorem run_log {env : ServerEnvironment} {streams : Streams} (hprepare : env.prepare = none)
    (hlaunch : env.launch = .launched streams) :
    (run env).2 = (shutdown env.toEnvironment (serve env streams).2.1 streams.stdin
      (serve env streams).2.2).2 := by
  simp only [run, hprepare, hlaunch]
  split <;> rfl

theorem conclude_ok {env : ServerEnvironment} {pending : Option OracleProcessError}
    {logIndex config forcedShutdown : Bool} {result : LoopbackServerResult}
    (h : conclude env pending logIndex config forcedShutdown = .ok result) : pending = none := by
  cases pending with
  | none => rfl
  | some error =>
    have hfirst : ∀ other, (some error <|> other) = some error := fun _ => rfl
    simp only [conclude, hfirst] at h
    split at h <;> cases h

/-- A run that returns has come through its cleanup. -/
theorem shutdown_of_run {env : ServerEnvironment} {streams : Streams}
    {result : LoopbackServerResult} (hprepare : env.prepare = none)
    (hlaunch : env.launch = .launched streams) (h : (run env).1 = .ok result) :
    ∃ forcedShutdown, (shutdown env.toEnvironment (serve env streams).2.1 streams.stdin
      (serve env streams).2.2).1 = .ok forcedShutdown := by
  simp only [run, hprepare, hlaunch] at h
  split at h
  case h_1 => cases h
  case h_2 error _ =>
    have hpending : conclude env _ true true false = .ok result := h
    have hnone := conclude_ok hpending
    cases hfirst : (serve env streams).1 with
    | none =>
      rw [hfirst] at hnone
      cases hnone
    | some first =>
      rw [hfirst] at hnone
      cases hnone
  case h_3 forcedShutdown hshutdown => exact ⟨forcedShutdown, hshutdown⟩

/-- The log before the cleanup. -/
theorem serve_log (env : ServerEnvironment) (streams : Streams) :
    .launched ∈ (serve env streams).2.2 ∧ forced (serve env streams).2.2 = false ∧
      ((serve env streams).2.1 = true ↔ streams.stdout = true ∧ streams.stderr = true) ∧
      (streams.stdout = true ∧ streams.stderr = true →
        (serve env streams).2.2 = [.launched, .served env.exitSeen]) ∧
      (observed (serve env streams).2.2 = true ↔
        streams.stdout = true ∧ streams.stderr = true ∧ env.exitSeen = true) := by
  obtain ⟨stdin, stdout, stderr⟩ := streams
  cases stdout <;> cases stderr <;> cases hseen : env.exitSeen <;>
    simp [serve, hseen, forced, observed]

/-- What it takes to get past the graceful termination of a server that has not been seen to exit. -/
theorem getsPast_iff :
    GetsPast env [.launched, .served false] ↔
      env.exits [.launched, .served false] = true ∨
        env.terminate [.launched, .served false, .waited false] false = .done := by
  cases hexits : env.exits [.launched, .served false] with
  | true => exact iff_of_true (.inl (by simp [waitForExit, hexits])) (.inl rfl)
  | false => simp [GetsPast, waitForExit, terminate, hexits, observed]

end LoopbackServerSmoke

/-! ## §4 When the Runners Clean up -/

/-- The process runner's child has no input, closing it does not raise, or the exchange has found
that the child has exited. -/
def ProcessEnvironment.Closes (env : ProcessEnvironment) : Prop :=
  ∀ streams, env.inputTooLarge = false → env.launch = .launched streams →
    ClosesQuietly env.toEnvironment streams.stdin ∨
      (streams.stdout = true ∧ streams.stderr = true ∧ env.exitSeen = true)

/-- The server has both outputs; and its exit has been found in the wait for its readiness, or
closing its input does not raise and it exits before the first deadline or is terminated
gracefully. -/
def ServerEnvironment.Climbs (env : ServerEnvironment) : Prop :=
  ∀ streams, env.prepare = none → env.launch = .launched streams →
    streams.stdout = true ∧ streams.stderr = true ∧
      (env.exitSeen = true ∨
        (ClosesQuietly env.toEnvironment streams.stdin ∧
          (env.exits [.launched, .served false] = true ∨
            env.terminate [.launched, .served false, .waited false] false = .done)))

/-- Where no child is launched, there is nothing to clean up. -/
theorem cleansUp_of_nil {α κ : Type} (err : κ) : CleansUp ((.error err, []) : Except κ α × _) where
  contained h := absurd h List.not_mem_nil
  settled _ h := nomatch h

theorem ShowdownProcessRunner.cleansUp_iff (env : ProcessEnvironment) :
    CleansUp (run env) ↔ env.Closes := by
  cases hinput : env.inputTooLarge with
  | true =>
    refine iff_of_true ?_ fun streams hsmall => absurd (hinput.symm.trans hsmall) (by decide)
    rw [run, if_pos hinput]
    exact cleansUp_of_nil _
  | false =>
    cases hlaunch : env.launch with
    | launched streams =>
      obtain ⟨hlaunched, hforced, hserved⟩ := serve_log env streams
      obtain ⟨hextends, hcontained⟩ :=
        shutdown_contained_iff env.toEnvironment streams.stdin hforced
      constructor
      · rintro ⟨hcontains, _⟩ streams' _ hstreams
        cases Launch.launched.inj (hlaunch.symm.trans hstreams)
        rw [run_log hinput hlaunch, hcontained, hserved] at hcontains
        rcases hcontains (hextends.mem hlaunched) with ⟨_, hrest⟩ | hquiet
        · exact .inr hrest
        · exact .inl hquiet
      · intro hcloses
        refine ⟨fun _ => ?_, fun result hresult => ?_⟩
        · rw [run_log hinput hlaunch, hcontained, hserved]
          rcases hcloses streams hinput hlaunch with hquiet | hrest
          · exact .inr hquiet
          · by_cases hstdin : streams.stdin = true
            · exact .inl ⟨hstdin, hrest⟩
            · exact .inr fun hclose => hstdin hclose.1
        · obtain ⟨forcedShutdown, hshutdown⟩ := shutdown_of_run hinput hlaunch hresult
          rw [run_log hinput hlaunch]
          exact shutdown_ok hshutdown
    | _ =>
      refine iff_of_true ?_ fun streams _ hstreams => ?_
      · simp only [run, hinput, hlaunch]
        exact cleansUp_of_nil _
      · rw [hlaunch] at hstreams
        cases hstreams

theorem LoopbackServerSmoke.cleansUp_iff (env : ServerEnvironment) :
    CleansUp (run env) ↔ env.Climbs := by
  cases hprepare : env.prepare with
  | some trouble =>
    refine iff_of_true ?_ fun streams hnone => ?_
    · simp only [run, hprepare]
      refine ⟨fun h => absurd h List.not_mem_nil, fun result hresult => ?_⟩
      have hconclude : conclude env (some (pendingOf trouble.1)) trouble.2.1 trouble.2.2 false =
          .ok result := hresult
      cases conclude_ok hconclude
    · rw [hprepare] at hnone
      cases hnone
  | none =>
    cases hlaunch : env.launch with
    | launched streams =>
      obtain ⟨hlaunched, hforced, hwatched, hlog, hserved⟩ := serve_log env streams
      obtain ⟨hextends, hcontained⟩ :=
        shutdown_contained_iff env.toEnvironment (serve env streams).2.1 streams.stdin hforced
      constructor
      · rintro ⟨hcontains, _⟩ streams' _ hstreams
        cases Launch.launched.inj (hlaunch.symm.trans hstreams)
        rw [run_log hprepare hlaunch, hcontained, hserved, hwatched] at hcontains
        rcases hcontains (hextends.mem hlaunched) with ⟨hstdout, hstderr, hseen⟩ | hpast
        · exact ⟨hstdout, hstderr, .inl hseen⟩
        · obtain ⟨⟨hstdout, hstderr⟩, hquiet, hpast⟩ := hpast
          refine ⟨hstdout, hstderr, ?_⟩
          cases hseen : env.exitSeen with
          | true => exact .inl rfl
          | false =>
            rw [hlog ⟨hstdout, hstderr⟩, hseen, getsPast_iff] at hpast
            exact .inr ⟨hquiet, hpast⟩
      · intro hclimbs
        refine ⟨fun _ => ?_, fun result hresult => ?_⟩
        · rw [run_log hprepare hlaunch, hcontained, hserved, hwatched]
          obtain ⟨hstdout, hstderr, hrest⟩ := hclimbs streams hprepare hlaunch
          cases hseen : env.exitSeen with
          | true => exact .inl ⟨hstdout, hstderr, rfl⟩
          | false =>
            obtain ⟨hquiet, hpast⟩ := hrest.resolve_left (by rw [hseen]; decide)
            refine .inr ⟨⟨hstdout, hstderr⟩, hquiet, ?_⟩
            rw [hlog ⟨hstdout, hstderr⟩, hseen, getsPast_iff]
            exact hpast
        · obtain ⟨forcedShutdown, hshutdown⟩ := shutdown_of_run hprepare hlaunch hresult
          rw [run_log hprepare hlaunch]
          exact shutdown_ok hshutdown
    | _ =>
      refine iff_of_true ?_ fun streams _ hstreams => ?_
      · simp only [run, hprepare, hlaunch]
        refine ⟨fun h => absurd h List.not_mem_nil, fun result hresult => ?_⟩
        have hconclude : conclude env (some _) true true false = .ok result := hresult
        cases conclude_ok hconclude
      · rw [hlaunch] at hstreams
        cases hstreams

/-- Each runner cleans up after its child in these environments, and in no others. -/
theorem cleans_up_iff (env : ProcessEnvironment) (server : ServerEnvironment) :
    (CleansUp (ShowdownProcessRunner.run env) ↔ env.Closes) ∧
      (CleansUp (LoopbackServerSmoke.run server) ↔ server.Climbs) :=
  ⟨ShowdownProcessRunner.cleansUp_iff env, LoopbackServerSmoke.cleansUp_iff server⟩

/-- A child that runs on, and whose input raises when it is closed. Its terminators would succeed. -/
def brokenInput : Environment where
  launch := .launched { stdin := true, stdout := true, stderr := true }
  exitSeen := false
  closeInput := .raised
  exits := fun _ => false
  terminate := fun _ _ => .done
  orphans := fun _ => .noneLeft
  closeJob := none

def brokenInputRun : ProcessEnvironment :=
  { brokenInput with
    inputTooLarge := false
    exchange := .completed
    messages := []
    readersClose := true
    readerFailure := none
    networkDenied := false
    returncode := 0 }

/-- A server without a standard output, that runs on. -/
def mutedServer : ServerEnvironment :=
  { brokenInput with
    launch := .launched { stdin := true, stdout := false, stderr := true }
    closeInput := .done
    prepare := none
    readiness := .ready
    removeConfig := none
    removeLogIndex := none
    networkDenied := false
    bindAddress := "127.0.0.1" }

/-- Both runners leave a child behind that they have not terminated by force. -/
theorem child_left_behind :
    ¬CleansUp (ShowdownProcessRunner.run brokenInputRun) ∧
      ¬CleansUp (LoopbackServerSmoke.run mutedServer) := by
  constructor
  · intro hclean
    rcases hclean.contained (by decide) with hobserved | hforced
    · cases hobserved
    · cases hforced
  · intro hclean
    rcases hclean.contained (by decide) with hobserved | hforced
    · cases hobserved
    · cases hforced

end BattleBelief.Oracle.ChildCleanup
