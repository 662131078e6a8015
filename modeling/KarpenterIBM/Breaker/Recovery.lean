import KarpenterIBM.Breaker.ManagerRuns
import KarpenterIBM.Breaker.Windows

/-!
# Opening and recovery at the manager

An open circuit blocks its NodeClass and region until the recovery timeout has passed, unless
the cleanup drops the breaker first: two hours after the last state change a breaker without
recent failures counts as unused, open or not.
-/

namespace KarpenterIBM.Breaker

open List Machine OperatorOptions

/-! ## Breakers that stay open -/

namespace CircuitBreaker

variable {cb : CircuitBreaker} {now : Int} {nodeClass region : String}

/-- Open since `time`; the failure that opened the circuit is remembered unless the
recovery timeout is too short for the cleanup to matter. -/
structure OpenSince (config : CircuitBreakerConfig) (time : Int) (breaker : CircuitBreaker) :
    Prop where
  state : breaker.state = .opened
  since : breaker.lastStateChange = time
  remembered : config.recoveryTimeout ≤ 2 * hour + 1 ∨
    ∃ failure ∈ breaker.failures, failure.timestamp = time

def RecoversFirst (config : CircuitBreakerConfig) : Prop :=
  config.recoveryTimeout ≤ 2 * hour + 1 ∨ config.recoveryTimeout ≤ config.failureWindow

variable {config : CircuitBreakerConfig} {time : Int}

theorem OpenSince.expired_of_unused (opened : OpenSince config time cb)
    (configured : cb.config = config) (recovers : RecoversFirst config)
    (dropped : unused now cb = true) : time + config.recoveryTimeout ≤ now := by
  simp only [unused, getState, opened.state, opened.since, Bool.and_eq_true, Bool.or_eq_true,
    decide_eq_true_eq, reduceCtorEq, false_or, countRecentFailures] at dropped
  obtain ⟨noneRecent, old⟩ := dropped
  rcases recovers with short | covered
  · omega
  rcases opened.remembered with short | ⟨failure, mem, stamped⟩
  · omega
  have outside := countP_eq_zero.mp (Int.ofNat_eq_zero.mp noneRecent) failure mem
  rw [recent_iff, configured, stamped] at outside
  omega

theorem OpenSince.canProvision (opened : OpenSince config time cb) (now : Int)
    (enabled : cb.enabled = true) (configured : cb.config = config) :
    time + config.recoveryTimeout ≤ now ∨
      (cb.canProvision now).1 ≠ .ok () ∧ OpenSince config time (cb.canProvision now).2 := by
  have recovered : cb.Recovering now → time + config.recoveryTimeout ≤ now := by
    rintro ⟨-, elapsed⟩
    rw [configured, opened.since] at elapsed
    omega
  rcases canProvision_cases now enabled with
    ⟨error, same⟩ | ⟨error, recovering, -⟩ | ⟨passing, -, -⟩ | ⟨recovering, -, -⟩
  · right
    rw [same]
    refine ⟨by simp, ⟨by simpa using opened.state, by simpa using opened.since, ?_⟩⟩
    simpa using opened.remembered
  · exact .inl (recovered recovering)
  · rcases passing with closed | ⟨half, -⟩
    · cases opened.state.symm.trans closed
    · cases opened.state.symm.trans half
  · exact .inl (recovered recovering)

theorem canProvision_state_ne (now : Int) (enabled : cb.enabled = true)
    (unopened : cb.state ≠ .opened) : (cb.canProvision now).2.state ≠ .opened := by
  rcases canProvision_cases now enabled with
    ⟨_, same⟩ | ⟨_, -, same⟩ | ⟨-, -, same⟩ | ⟨-, -, same⟩ <;>
    · rw [same]
      simp [countRequest, transitionToHalfOpen, unopened]

theorem recordSuccess_not_opened (unopened : cb.state ≠ .opened) :
    (cb.recordSuccess now).state ≠ .opened := by
  unfold recordSuccess
  rw [releaseInstance_eq]
  split
  · dsimp only
    split
    · simp [transitionToClosed]
    · exact unopened
  · exact unopened

theorem record_of_opened (now : Int) (nodeClass region : String) (out : Outcome)
    (enabled : cb.enabled = true) (opened : cb.state = .opened) :
    (cb.record now nodeClass region out).state = .opened ∧
      (cb.record now nodeClass region out).lastStateChange = cb.lastStateChange := by
  cases out with
  | success => simp [CircuitBreaker.record, recordSuccess, enabled, releaseInstance_eq, opened]
  | failure error =>
    simp only [CircuitBreaker.record, recordFailure, enabled, if_true, releaseInstance_eq]
    rw [openIfNeeded_of_opened]
    · exact ⟨opened, rfl⟩
    · exact opened
  | pending => simp [CircuitBreaker.record, recordPending, releaseInstance_eq, opened]

theorem OpenSince.record {out : Outcome} (opened : OpenSince config time cb)
    (enabled : cb.enabled = true) (configured : cb.config = config)
    (recovers : RecoversFirst config) :
    time + config.recoveryTimeout ≤ now ∨
      OpenSince config time (cb.record now nodeClass region out) := by
  obtain ⟨state, last⟩ := record_of_opened now nodeClass region out enabled opened.state
  rcases opened.remembered with short | ⟨failure, mem, stamped⟩
  · exact .inr ⟨state, last.trans opened.since, .inl short⟩
  by_cases failed : ∃ error, out = .failure error
  · obtain ⟨error, rfl⟩ := failed
    by_cases kept : recent config.failureWindow now failure = true
    · refine .inr ⟨state, last.trans opened.since, .inr ⟨failure, ?_, stamped⟩⟩
      simp only [CircuitBreaker.record, recordFailure_failures _ _ _ _ enabled, configured]
      exact mem_filter.mpr ⟨mem_append_left _ mem, kept⟩
    rw [recent_iff, stamped] at kept
    rcases recovers with short | covered
    · exact .inr ⟨state, last.trans opened.since, .inl short⟩
    · exact .inl (by omega)
  · refine .inr ⟨state, last.trans opened.since, .inr ⟨failure, ?_, stamped⟩⟩
    rw [record_failures_of_ne (fun error same => failed ⟨error, same⟩)]
    exact mem

theorem openSince_of_recordFailure {error : String} (enabled : cb.enabled = true)
    (configured : cb.config = config) (positive : 0 < config.failureWindow)
    (before : cb.state ≠ .opened)
    (after : (cb.recordFailure now nodeClass region error).state = .opened) :
    OpenSince config now (cb.recordFailure now nodeClass region error) := by
  refine ⟨after, ?_, .inr ⟨⟨now, error, nodeClass, region⟩, ?_, rfl⟩⟩
  · rcases recordFailure_state_cases now nodeClass region error enabled with
      ⟨-, opens⟩ | ⟨stays, -⟩
    · exact opens
    · rw [stays] at after
      exact absurd after before
  · rw [recordFailure_failures _ _ _ _ enabled, configured]
    refine mem_filter.mpr ⟨by simp, ?_⟩
    rw [recent_iff]
    dsimp only
    omega

theorem hasRoom_new (sound : Sound config) (now : Int) :
    ((newCircuitBreaker (some config) now).resetCountersIfNeeded now).HasRoom := by
  have rate := sound.rateLimitPerMinute
  have cap := sound.maxConcurrentInstances
  have fresh : (newCircuitBreaker (some config) now).resetCountersIfNeeded now =
      newCircuitBreaker (some config) now := by
    simp [resetCountersIfNeeded, newCircuitBreaker]
  rw [fresh]
  simp only [HasRoom, newCircuitBreaker, Option.getD_some]
  omega

theorem recordFailure_at_zero (nodeClass region error : String) (enabled : cb.enabled = true)
    (positive : 0 < cb.config.failureWindow) (closed : cb.state = .closed)
    (since : cb.lastStateChange = 0)
    (stamped : ∀ failure ∈ cb.failures, failure.timestamp = 0) :
    (cb.recordFailure 0 nodeClass region error).lastStateChange = 0 ∧
      (∀ failure ∈ (cb.recordFailure 0 nodeClass region error).failures, failure.timestamp = 0) ∧
      (cb.recordFailure 0 nodeClass region error).failures.length = cb.failures.length + 1 ∧
      (cb.recordFailure 0 nodeClass region error).state =
        if cb.config.failureThreshold ≤ cb.failures.length + 1 then .opened
        else .closed := by
  have allStamped : ∀ failure ∈ cb.failures ++
      [(⟨0, error, nodeClass, region⟩ : FailureRecord)], failure.timestamp = 0 := by
    intro failure mem
    rcases mem_append.mp mem with earlier | new
    · exact stamped failure earlier
    · rw [mem_singleton.mp new]
  have allRecent : ∀ failure ∈ cb.failures ++ [(⟨0, error, nodeClass, region⟩ : FailureRecord)],
      recent cb.config.failureWindow 0 failure = true := by
    intro failure mem
    rw [recent_iff, allStamped failure mem]
    omega
  have failures := recordFailure_failures 0 nodeClass region error enabled
  rw [filter_eq_self.mpr allRecent] at failures
  have opens := recordFailure_opened_iff 0 nodeClass region error enabled
  rw [countP_eq_length.mpr allRecent, closed] at opens
  simp only [reduceCtorEq, false_or, length_append, length_singleton] at opens
  refine ⟨?_, by rw [failures]; exact allStamped, by simp [failures], ?_⟩
  · rcases recordFailure_state_cases 0 nodeClass region error enabled with
      ⟨-, now⟩ | ⟨-, unchanged⟩
    · exact now
    · exact unchanged.trans since
  by_cases reached : cb.config.failureThreshold ≤ cb.failures.length + 1
  · rw [if_pos reached]
    exact opens.mpr (by omega)
  rw [if_neg reached]
  rcases recordFailure_state_cases 0 nodeClass region error enabled with
    ⟨opened, -⟩ | ⟨unchanged, -⟩
  · exact absurd (opens.mp opened) (by omega)
  · exact unchanged.trans closed

end CircuitBreaker

open CircuitBreaker

namespace Watched

/-! ## Blocking for the whole recovery timeout -/

/-- A request of a pair is admitted no earlier than the recovery timeout after each
opening of its breaker. -/
def Blocks (config : CircuitBreakerConfig) (seen : Watched) (call : ManagerCall) : Prop :=
  seen.manager.admits call = true → ∀ opening ∈ seen.openings, opening.1 = call.pair →
    opening.2 + config.recoveryTimeout ≤ call.now

instance (config : CircuitBreakerConfig) (seen : Watched) (call : ManagerCall) :
    Decidable (Blocks config seen call) :=
  inferInstanceAs (Decidable (_ → ∀ opening ∈ seen.openings, _ → _))

structure Guarded (config : CircuitBreakerConfig) (seen : Watched) : Prop where
  configured : Configured config seen
  guarded : ∀ opening ∈ seen.openings, opening.2 + config.recoveryTimeout ≤ seen.clock ∨
    ∃ breaker, seen.manager.breakers opening.1.key = some breaker ∧
      OpenSince config opening.2 breaker

section
variable {config : CircuitBreakerConfig} {seen : Watched} {call : ManagerCall}

theorem Guarded.found {found breaker : CircuitBreaker} {time : Int} (inv : Guarded config seen)
    (recovers : RecoversFirst config)
    (old : seen.manager.breakers call.pair.key = some breaker)
    (opened : OpenSince config time breaker) (isFound : Found config seen call found) :
    time + config.recoveryTimeout ≤ call.now ∨ found = breaker := by
  rcases isFound with same | ⟨-, missing | ⟨dropped, same, drops⟩⟩
  · cases old.symm.trans same
    exact .inr rfl
  · cases old.symm.trans missing
  cases old.symm.trans same
  have configured := (inv.configured.breakers call.pair breaker old).1
  exact .inl (opened.expired_of_unused configured recovers drops.2.2)

section
variable (recovers : RecoversFirst config) (inv : Guarded config seen) (ordered : seen.Ordered call)

include recovers inv ordered

theorem Guarded.blocks : Blocks config seen call := by
  intro admitted opening mem own
  have op : call.operation = .canProvision := by
    by_contra other
    rw [admits_only other] at admitted
    cases admitted
  rcases inv.guarded opening mem with lapsed | ⟨breaker, old, opened⟩
  · exact Int.le_trans lapsed ordered
  rw [own] at old
  obtain ⟨found, isFound, -, admits⟩ := breakers_canProvision inv.configured.manager op
  rcases inv.found recovers old opened isFound with lapsed | rfl
  · exact lapsed
  obtain ⟨breakerConfig, enabled⟩ := inv.configured.breakers call.pair found old
  rcases opened.canProvision call.now enabled breakerConfig with lapsed | ⟨refused, -⟩
  · exact lapsed
  · exact absurd (admits.mp admitted) refused

theorem Guarded.keeps (kept : seen.NoReset call) {opening : Pair × Int}
    (mem : opening ∈ seen.openings) :
    opening.2 + config.recoveryTimeout ≤ call.now ∨
      ∃ breaker, (seen.manager.after call).breakers opening.1.key = some breaker ∧
        OpenSince config opening.2 breaker := by
  rcases inv.guarded opening mem with lapsed | ⟨breaker, old, opened⟩
  · exact .inl (Int.le_trans lapsed ordered)
  obtain ⟨breakerConfig, enabled⟩ := inv.configured.breakers opening.1 breaker old
  by_cases own : opening.1 = call.pair
  · rw [own] at old ⊢
    cases op : call.operation with
    | canProvision =>
      obtain ⟨found, isFound, after, -⟩ := breakers_canProvision inv.configured.manager op
      rcases inv.found recovers old opened isFound with lapsed | rfl
      · exact .inl lapsed
      rcases opened.canProvision call.now enabled breakerConfig with
        lapsed | ⟨-, stays⟩
      · exact .inl lapsed
      · exact .inr ⟨_, after, stays⟩
    | record request out =>
      rcases breakers_record inv.configured.manager op with
        ⟨other, same, after⟩ | ⟨missing, -⟩
      · cases old.symm.trans same
        rcases opened.record enabled breakerConfig recovers with lapsed | stays
        · exact .inl lapsed
        · exact .inr ⟨_, after, stays⟩
      · cases old.symm.trans missing
    | resetNodeClass => exact absurd op kept
    | getState =>
      rw [breakers_getState op]
      exact .inr ⟨breaker, old, opened⟩
  · rcases breakers_other seen own with same | ⟨dropped, found, drops, -⟩
    · exact .inr ⟨breaker, same.trans old, opened⟩
    cases old.symm.trans found
    exact .inl (opened.expired_of_unused breakerConfig recovers drops.2.2)

end

theorem Configured.opened (inv : Configured config seen) (positive : 0 < config.failureWindow)
    (opening : seen.opens call = true) :
    ∃ breaker, (seen.manager.after call).breakers call.pair.key = some breaker ∧
      OpenSince config call.now breaker := by
  obtain ⟨before, after⟩ := of_decide_eq_true opening
  simp only [NodeClassCircuitBreakerManager.stateOf] at before after
  cases op : call.operation with
  | canProvision =>
    obtain ⟨found, isFound, same, -⟩ := breakers_canProvision inv.manager op
    obtain ⟨foundConfig, enabled⟩ := inv.found isFound
    have unopened : found.state ≠ .opened := by
      rcases isFound with old | ⟨rfl, -⟩
      · simpa [old] using before
      · simp [newCircuitBreaker]
    rw [same] at after
    exact absurd (Option.some.inj after) (canProvision_state_ne call.now enabled
      unopened)
  | record request out =>
    rcases breakers_record inv.manager op with
      ⟨breaker, old, same⟩ | ⟨-, gone | ⟨error, -, same⟩⟩
    · obtain ⟨breakerConfig, enabled⟩ := inv.breakers call.pair breaker old
      have unopened : breaker.state ≠ .opened := by simpa [old] using before
      rw [same] at after ⊢
      refine ⟨_, rfl, ?_⟩
      have opened := Option.some.inj after
      cases out with
      | success => exact absurd opened (recordSuccess_not_opened unopened)
      | failure error =>
        exact openSince_of_recordFailure enabled breakerConfig positive
          unopened opened
      | pending => exact absurd (recordPending_state.symm.trans opened) unopened
    · rw [gone] at after
      cases after
    · rw [same] at after ⊢
      exact ⟨_, rfl, openSince_of_recordFailure rfl rfl positive
        (by simp [newCircuitBreaker]) (Option.some.inj after)⟩
  | resetNodeClass =>
    rcases breakers_reset inv.manager op with gone | same
    · rw [gone] at after
      cases after
    · rw [same] at after
      cases after
  | getState =>
    rw [breakers_getState op] at after
    exact absurd after before

theorem Guarded.step (sound : Sound config) (recovers : RecoversFirst config)
    (inv : Guarded config seen) (ordered : seen.Ordered call) (kept : seen.NoReset call) :
    Guarded config (seen.step call) := by
  refine ⟨inv.configured.step, fun opening mem => ?_⟩
  change opening ∈ (if seen.opens call then _ else _) at mem
  split at mem
  · rename_i opens
    rcases mem_cons.mp mem with rfl | earlier
    · exact .inr (inv.configured.opened sound.failureWindow opens)
    · exact inv.keeps recovers ordered kept earlier
  · exact inv.keeps recovers ordered kept mem

end

/-! ## Dropping an open breaker -/

section
variable {config : CircuitBreakerConfig} {seen : Watched} {pair : Pair}

def failureCall (pair : Pair) : ManagerCall :=
  ⟨0, pair, .record 0 (.failure "quota exceeded")⟩

structure AtZero (config : CircuitBreakerConfig) (seen : Watched) : Prop where
  configured : Configured config seen
  clock : seen.clock = 0
  lastCleanup : seen.manager.lastCleanup = 0
  interval : seen.manager.cleanupInterval = 30 * minute

structure Failing (config : CircuitBreakerConfig) (pair : Pair) (count : Nat) (seen : Watched) :
    Prop extends AtZero config seen where
  breaker : ∃ breaker,
    (seen.manager.breakers pair.key).getD (newCircuitBreaker (some config) 0) = breaker ∧
      breaker.state = .closed ∧ breaker.lastStateChange = 0 ∧
      (∀ failure ∈ breaker.failures, failure.timestamp = 0) ∧ breaker.failures.length = count

structure OpenedAtZero (config : CircuitBreakerConfig) (pair : Pair) (seen : Watched) :
    Prop extends AtZero config seen where
  opening : (pair, 0) ∈ seen.openings
  breaker : ∃ breaker, seen.manager.breakers pair.key = some breaker ∧
    breaker.state = .opened ∧ breaker.lastStateChange = 0 ∧
    ∀ failure ∈ breaker.failures, failure.timestamp = 0

theorem AtZero.step (inv : AtZero config seen) : AtZero config (seen.step (failureCall pair)) := by
  have op : (failureCall pair).operation = .record 0 (.failure "quota exceeded") := rfl
  obtain ⟨lastCleanup, interval⟩ := lastCleanup_record seen op
  exact ⟨inv.configured.step, rfl, lastCleanup.trans inv.lastCleanup, interval.trans inv.interval⟩

theorem Failing.step {count : Nat} (sound : Sound config)
    (failing : Failing config pair count seen) :
    ((count + 1 : Int) < config.failureThreshold →
        Failing config pair (count + 1) (seen.step (failureCall pair))) ∧
      (config.failureThreshold ≤ count + 1 →
        OpenedAtZero config pair (seen.step (failureCall pair))) := by
  have op : (failureCall pair).operation = .record 0 (.failure "quota exceeded") := rfl
  have after := breakers_recordFailure failing.configured.manager op
  obtain ⟨breaker, found, closed, since, stamped, counted⟩ := failing.breaker
  have configured : breaker.config = config ∧ breaker.enabled = true := by
    cases old : seen.manager.breakers pair.key with
    | none =>
      rw [old] at found
      subst found
      exact ⟨rfl, rfl⟩
    | some present =>
      rw [old] at found
      subst found
      exact failing.configured.breakers pair _ old
  change (seen.manager.after (failureCall pair)).breakers pair.key = some (recordFailure
    ((seen.manager.breakers pair.key).getD (newCircuitBreaker (some config) 0)) 0 _ _ _) at after
  rw [found] at after
  obtain ⟨since', stamped', counted', state⟩ := recordFailure_at_zero
    (failureCall pair).pair.nodeClass (failureCall pair).pair.region.text "quota exceeded"
    configured.2 (configured.1 ▸ sound.failureWindow) closed since stamped
  rw [configured.1, counted] at state
  rw [counted] at counted'
  constructor
  · intro below
    rw [if_neg (by omega)] at state
    refine ⟨failing.toAtZero.step, ⟨_, ?_, state, since', stamped', counted'⟩⟩
    change ((seen.manager.after (failureCall pair)).breakers pair.key).getD _ = _
    rw [after]
    rfl
  · intro reached
    rw [if_pos reached] at state
    refine ⟨failing.toAtZero.step, ?_, ⟨_, after, state, since', stamped'⟩⟩
    have opens : seen.opens (failureCall pair) = true := by
      refine decide_eq_true ⟨?_, ?_⟩
      · change (seen.manager.breakers pair.key).map _ ≠ _
        cases old : seen.manager.breakers pair.key with
        | none => simp
        | some present =>
          rw [old] at found
          subst found
          have unopened : present.state = .closed := closed
          simp [unopened]
      · change ((seen.manager.after (failureCall pair)).breakers pair.key).map _ = _
        rw [after]
        exact congrArg some state
    change _ ∈ (if seen.opens (failureCall pair) then _ else _)
    rw [if_pos opens]
    exact mem_cons_self

theorem Failing.eventually_open (sound : Sound config) (pair : Pair) :
    ∀ (left count : Nat) (seen : Watched), Failing config pair count seen →
      config.failureThreshold ≤ count + 1 + left →
      ∃ calls, Along Watched.step (fun seen call => seen.Ordered call ∧ seen.NoReset call)
          seen calls ∧ OpenedAtZero config pair (run Watched.step seen calls) := by
  intro left
  induction left with
  | zero =>
    intro count seen failing reached
    have opened := (failing.step sound).2 (by omega)
    refine ⟨[failureCall pair], ⟨⟨?_, by simp [NoReset, failureCall]⟩, trivial⟩, opened⟩
    exact Int.le_of_eq failing.clock
  | succ left ih =>
    intro count seen failing reached
    have allowed : seen.Ordered (failureCall pair) ∧ seen.NoReset (failureCall pair) :=
      ⟨Int.le_of_eq failing.clock, by simp [NoReset, failureCall]⟩
    by_cases enough : config.failureThreshold ≤ count + 1
    · exact ⟨[failureCall pair], ⟨allowed, trivial⟩, (failing.step sound).2 enough⟩
    have again := (failing.step sound).1 (by omega)
    obtain ⟨calls, along, opened⟩ := ih (count + 1) _ again (by omega)
    exact ⟨failureCall pair :: calls, ⟨allowed, along⟩, opened⟩

theorem OpenedAtZero.admits (sound : Sound config) (opened : OpenedAtZero config pair seen)
    {time : Int} (old : 2 * hour + 1 ≤ time) (outside : config.failureWindow ≤ time) :
    seen.manager.admits ⟨time, pair, .canProvision⟩ = true := by
  obtain ⟨breaker, existing, state, since, stamped⟩ := opened.breaker
  have configured := (opened.configured.breakers pair breaker existing).1
  have noneRecent : breaker.countRecentFailures time = 0 := by
    refine Int.ofNat_eq_zero.mpr (countP_eq_zero.mpr fun failure mem => ?_)
    rw [recent_iff, configured, stamped failure mem]
    omega
  have dropped : unused time breaker = true := by
    simp only [unused, getState, noneRecent, since]
    simp
    omega
  refine admits_of_dropped opened.configured.manager existing ⟨rfl, ?_, dropped⟩ ?_
  · rw [opened.lastCleanup, opened.interval]
    simp only [hour] at old
    simp only [minute, second] at old ⊢
    omega
  · exact canProvision_admits rfl (.inl (.inl rfl))
      (hasRoom_new sound time)

end

/-- An open circuit blocks for the whole recovery timeout, in every run, exactly when the
timeout is at most two hours or no longer than the failure window; a nanosecond more than two
hours is too short for a request to fall between. -/
theorem open_circuit_blocks_iff (options : Options) (valid : options.validate = .ok ())
    (config : CircuitBreakerConfig)
    (configured : options.getCircuitBreakerConfig = some config) :
    (∀ now calls, Along step (fun seen call => seen.Ordered call ∧ seen.NoReset call)
        (Watched.start (some config) now) calls →
      Along step (Blocks config) (Watched.start (some config) now) calls) ↔
      config.recoveryTimeout ≤ 2 * hour + 1 ∨ config.recoveryTimeout ≤ config.failureWindow := by
  have sound := Options.sound_of_validate valid configured
  constructor
  · intro blocks
    by_contra late
    have initially : Failing config (samplePair "pool") 0 (Watched.start (some config) 0) :=
      ⟨⟨Configured.start config 0, rfl, rfl, rfl⟩, ⟨_, rfl, rfl, rfl, by simp
        [Watched.start, newNodeClassCircuitBreakerManager, newCircuitBreaker], rfl⟩⟩
    obtain ⟨calls, along, opened⟩ := Failing.eventually_open sound (samplePair "pool")
      config.failureThreshold.toNat 0 _ initially (by omega)
    obtain ⟨time, old, outside, early⟩ : ∃ time, 2 * hour + 1 ≤ time ∧
        config.failureWindow ≤ time ∧ time < config.recoveryTimeout :=
      ⟨max (2 * hour + 1) config.failureWindow, by omega, by omega, by omega⟩
    have admitted := opened.admits sound old outside
    have whole := blocks 0 (calls ++ [⟨time, samplePair "pool", .canProvision⟩]) (by
      rw [along_append_iff]
      refine ⟨along, ⟨?_, by simp [NoReset]⟩, trivial⟩
      change _ ≤ time
      rw [opened.clock]
      simp only [hour, minute, second] at old
      omega)
    rw [along_append_iff] at whole
    have blocked := whole.2.1 admitted (samplePair "pool", 0) opened.opening rfl
    dsimp only at blocked
    omega
  · intro recovers now calls along
    have initially : Guarded config (Watched.start (some config) now) :=
      ⟨Configured.start config now, by simp [Watched.start]⟩
    exact along_of_invariant (fun seen call (inv : Guarded config seen) allowed =>
        inv.step sound recovers allowed.1 allowed.2)
      (fun seen call inv allowed => inv.blocks recovers allowed.1) initially along

theorem open_circuit_blocks_iff_sample :
    (∀ now calls, Along step (fun seen call => seen.Ordered call ∧ seen.NoReset call)
        (Watched.start (some sampleConfig) now) calls →
      Along step (Blocks sampleConfig) (Watched.start (some sampleConfig) now) calls) ↔
      sampleConfig.recoveryTimeout ≤ 2 * hour + 1 ∨
        sampleConfig.recoveryTimeout ≤ sampleConfig.failureWindow :=
  open_circuit_blocks_iff sampleOptions (by decide) sampleConfig (by decide)

/-- Options that let one failure block for three hours. -/
def patient : Options :=
  { sampleOptions with
    circuitBreakerFailureThreshold := 1
    circuitBreakerRecoveryTimeout := 3 * hour }

def patientConfig : CircuitBreakerConfig :=
  { sampleConfig with failureThreshold := 1, recoveryTimeout := 3 * hour }

/-- A request fails and opens the circuit; two hours later the cleanup drops the open
breaker and the next request is admitted, an hour early. -/
theorem cleanup_reopens_early :
    patient.validate = .ok () ∧ patient.getCircuitBreakerConfig = some patientConfig ∧
      Along step (fun seen call => seen.Ordered call ∧ seen.NoReset call)
        (Watched.start (some patientConfig) 0)
        [⟨0, samplePair "pool", .canProvision⟩,
          ⟨second, samplePair "pool", .record 0 (.failure "quota exceeded")⟩,
          ⟨2 * hour + 2 * second, samplePair "pool", .canProvision⟩] ∧
      ¬ Along step (Blocks patientConfig) (Watched.start (some patientConfig) 0)
        [⟨0, samplePair "pool", .canProvision⟩,
          ⟨second, samplePair "pool", .record 0 (.failure "quota exceeded")⟩,
          ⟨2 * hour + 2 * second, samplePair "pool", .canProvision⟩] := by
  decide

end Watched

end KarpenterIBM.Breaker
