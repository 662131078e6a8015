import KarpenterIBM.Breaker.Requests

/-!
# The two time windows of a breaker

The rate limit counts admissions since the last reset of a counter, and a reset happens at the
first request at least a minute after the one before.
-/

namespace KarpenterIBM.Breaker

open CircuitBreaker List Machine

namespace Observed

/-! ## Admissions in a minute -/

/-- The admissions in the minute that begins at `start`. -/
def inMinute (start : Int) (admissions : List Int) : Nat :=
  admissions.countP (fun time => start ≤ time ∧ time < start + minute)

/-- A request that resets the minute counter finds no admission in the minute before it. -/
def ResetsApart (seen : Observed) (call : Invocation) : Prop :=
  call.operation = .canProvision → minute ≤ call.now - seen.breaker.lastMinuteReset →
    ∀ time ∈ seen.admissions, time + minute ≤ call.now

instance (seen : Observed) (call : Invocation) : Decidable (seen.ResetsApart call) :=
  inferInstanceAs (Decidable (_ → _ → ∀ time ∈ seen.admissions, _))

/-- The minute counter counts the admissions since the last reset, and those before it
are a minute away. -/
structure Counts (lastReset : Int) (instances : Int) (admissions : List Int) : Prop where
  counted : instances = admissions.countP (fun time => lastReset ≤ time)
  apart : ∀ time ∈ admissions, time < lastReset → time + minute ≤ lastReset

theorem Counts.reset {seen : Observed} {call : Invocation}
    (counts : Counts seen.breaker.lastMinuteReset seen.breaker.instancesThisMinute seen.admissions)
    (resets : seen.ResetsApart call) (op : call.operation = .canProvision) :
    Counts (seen.breaker.resetCountersIfNeeded call.now).lastMinuteReset
      (seen.breaker.resetCountersIfNeeded call.now).instancesThisMinute seen.admissions := by
  unfold resetCountersIfNeeded
  split
  · rename_i due
    have earlier := resets op due
    refine ⟨?_, fun time mem _ => earlier time mem⟩
    have noneSince : seen.admissions.countP (fun time => call.now ≤ time) = 0 := by
      rw [countP_eq_zero]
      intro time mem
      have := earlier time mem
      simp only [decide_eq_true_eq, minute, second] at this ⊢
      omega
    simp [noneSince]
  · exact counts

theorem Counts.inMinute_le {lastReset now start : Int} {instances : Int}
    {admissions : List Int} (counts : Counts lastReset instances admissions)
    (resetBefore : lastReset ≤ now) (contains : now < start + minute) :
    (inMinute start admissions : Int) ≤ instances := by
  rw [counts.counted]
  refine Int.ofNat_le.mpr (countP_mono_left ?_)
  intro time mem inside
  simp only [decide_eq_true_eq] at inside ⊢
  by_contra before
  have := counts.apart time mem (by omega)
  omega

structure RateKept (config : CircuitBreakerConfig) (seen : Observed) : Prop where
  configured : seen.breaker.config = config
  enabled : seen.breaker.enabled = true
  counts : Counts seen.breaker.lastMinuteReset seen.breaker.instancesThisMinute seen.admissions
  resetBefore : seen.breaker.lastMinuteReset ≤ seen.clock
  bounded : ∀ start, (inMinute start seen.admissions : Int) ≤ config.rateLimitPerMinute

theorem resetCountersIfNeeded_lastMinuteReset_le {breaker : CircuitBreaker} {now : Int}
    (before : breaker.lastMinuteReset ≤ now) :
    (breaker.resetCountersIfNeeded now).lastMinuteReset ≤ now := by
  unfold resetCountersIfNeeded
  split
  · exact Int.le_refl now
  · exact before

section
variable {config : CircuitBreakerConfig} {seen : Observed} {call : Invocation}
  (inv : RateKept config seen) (ordered : seen.Ordered call) (resets : seen.ResetsApart call)

include inv ordered resets

/-- A request is counted: what both admitting branches of `CanProvision` do to the rate. -/
theorem RateKept.admitted (op : call.operation = .canProvision)
    (room : (seen.breaker.resetCountersIfNeeded call.now).HasRoom) :
    Counts (seen.breaker.resetCountersIfNeeded call.now).lastMinuteReset
        ((seen.breaker.resetCountersIfNeeded call.now).instancesThisMinute + 1)
        (call.now :: seen.admissions) ∧
      ∀ start, (inMinute start (call.now :: seen.admissions) : Int) ≤
        config.rateLimitPerMinute := by
  have counts := inv.counts.reset resets op
  have resetBefore : (seen.breaker.resetCountersIfNeeded call.now).lastMinuteReset ≤ call.now :=
    resetCountersIfNeeded_lastMinuteReset_le (Int.le_trans inv.resetBefore ordered)
  have below : (seen.breaker.resetCountersIfNeeded call.now).instancesThisMinute <
      config.rateLimitPerMinute := by
    have limited := room.1
    rwa [resetCountersIfNeeded_config, inv.configured] at limited
  refine ⟨⟨?_, ?_⟩, fun start => ?_⟩
  · rw [counts.counted, countP_cons]
    simp [resetBefore]
  · intro time mem before
    rcases mem_cons.mp mem with rfl | earlier
    · omega
    · exact counts.apart time earlier before
  rw [inMinute, countP_cons]
  split
  · rename_i inside
    simp only [decide_eq_true_eq] at inside
    have since := counts.inMinute_le resetBefore inside.2
    rw [inMinute] at since
    omega
  · have earlier := inv.bounded start
    rw [inMinute] at earlier
    omega

theorem RateKept.step : RateKept config (seen.step call) := by
  have clock : seen.breaker.lastMinuteReset ≤ call.now := Int.le_trans inv.resetBefore ordered
  cases op : call.operation with
  | getState =>
    rw [step_getState op]
    exact ⟨inv.configured, inv.enabled, inv.counts, clock, inv.bounded⟩
  | record request out =>
    rw [step_record op]
    exact ⟨by simpa using inv.configured, by simpa using inv.enabled,
      by simpa using inv.counts, by simpa using clock, inv.bounded⟩
  | canProvision =>
    have counts := inv.counts.reset resets op
    have resetBefore := resetCountersIfNeeded_lastMinuteReset_le clock
    rcases step_canProvision op inv.enabled with
      same | ⟨-, same⟩ | ⟨-, room, same⟩ | ⟨-, room, same⟩
    · rw [same]
      exact ⟨by simpa using inv.configured, by simpa using inv.enabled, counts, resetBefore,
        inv.bounded⟩
    · rw [same]
      exact ⟨by simpa [transitionToHalfOpen] using inv.configured,
        by simpa [transitionToHalfOpen] using inv.enabled, counts, resetBefore,
        inv.bounded⟩
    · rw [same]
      obtain ⟨counted, bounded⟩ := inv.admitted ordered resets op room
      exact ⟨by simpa [countRequest] using inv.configured,
        by simpa [countRequest] using inv.enabled, counted, resetBefore, bounded⟩
    rw [same]
    obtain ⟨counted, bounded⟩ := inv.admitted ordered resets op room
    exact ⟨by simpa [countRequest, transitionToHalfOpen] using inv.configured,
      by simpa [countRequest, transitionToHalfOpen]
        using inv.enabled, counted, resetBefore, bounded⟩

end

/-- In every run in which each reset of the minute counter comes a minute after the last
admission, no minute contains more admissions than the limit. -/
theorem admissions_within_rate (config : CircuitBreakerConfig)
    (nonnegative : 0 ≤ config.rateLimitPerMinute) (now : Int) (calls : List Invocation)
    (along : Along step (fun seen call => seen.Ordered call ∧ seen.ResetsApart call)
      (Observed.start config now) calls) (start : Int) :
    (inMinute start (run step (Observed.start config now) calls).admissions : Int) ≤
      config.rateLimitPerMinute := by
  have initially : RateKept config (Observed.start config now) := by
    refine ⟨rfl, rfl, ⟨rfl, by simp [Observed.start]⟩, Int.le_refl now, fun start => ?_⟩
    simpa [Observed.start, inMinute] using nonnegative
  exact (invariant_run
    (fun seen call (inv : RateKept config seen) allowed => inv.step allowed.1 allowed.2)
    initially along).bounded start

/-- Requests of one NodeClass at these times. -/
def requestsAt (times : List Int) : List Invocation :=
  times.map fun time => ⟨time, "pool", "us-south", .canProvision⟩

theorem admissions_within_rate_sample :
    (inMinute 0 (run step (Observed.start defaultCircuitBreakerConfig 0)
      (requestsAt [0, second, 2 * minute])).admissions : Int) ≤ 2 :=
  admissions_within_rate defaultCircuitBreakerConfig (by decide) 0 _ (by decide) 0

/-- Two requests in the last second of a minute and two in the first second of the next
one are all admitted, twice the limit within one second. -/
theorem reset_admits_twice_the_limit :
    Along step Ordered (Observed.start defaultCircuitBreakerConfig 0)
        (requestsAt [59 * second, 59 * second, 60 * second, 60 * second]) ∧
      defaultCircuitBreakerConfig.rateLimitPerMinute = 2 ∧
      inMinute (59 * second) (run step (Observed.start defaultCircuitBreakerConfig 0)
        (requestsAt [59 * second, 59 * second, 60 * second, 60 * second])).admissions = 4 := by
  decide

end Observed

/-! ## Failures in the window -/

variable (breaker : CircuitBreaker)

namespace CircuitBreaker

variable {cb : CircuitBreaker} {now : Int}

def withFailures (failures : List FailureRecord) : CircuitBreaker :=
  { breaker with failures := failures }

/-- `RecordFailure` of a breaker that never forgets a failure. -/
def recordFailureUnpruned (now : Int) (nodeClass region error : String) : CircuitBreaker :=
  if breaker.enabled then
    (breaker.releaseInstance.appendFailure ⟨now, error, nodeClass, region⟩).openIfNeeded now
  else breaker

theorem openIfNeeded_opened_iff : (cb.openIfNeeded now).state = .opened ↔
      cb.state = .opened ∨ cb.state = .halfOpen ∨
        cb.config.failureThreshold ≤ cb.countRecentFailures now := by
  unfold openIfNeeded
  by_cases reached : cb.config.failureThreshold ≤ cb.countRecentFailures now
  · rw [if_pos reached]
    by_cases already : cb.state = .opened <;> simp [already, reached, transitionToOpen]
  · rw [if_neg reached]
    cases state : cb.state <;> simp [state, reached, transitionToOpen]

theorem openIfNeeded_withFailures {failures : List FailureRecord}
    (same : cb.failures.filter (recent cb.config.failureWindow now) =
      failures.filter (recent cb.config.failureWindow now)) :
    (cb.withFailures failures).openIfNeeded now = (cb.openIfNeeded now).withFailures failures := by
  have counts : (cb.withFailures failures).countRecentFailures now =
      cb.countRecentFailures now := by
    simp only [countRecentFailures, withFailures, countP_eq_length_filter, same]
  have opens : (cb.withFailures failures).transitionToOpen now =
      (cb.transitionToOpen now).withFailures failures := by
    simp only [transitionToOpen, withFailures, recentFailuresSummary, same]
  have unmoved : (cb.withFailures failures).state = cb.state := rfl
  have configured : (cb.withFailures failures).config = cb.config := rfl
  unfold openIfNeeded
  rw [counts, opens, unmoved, configured]
  by_cases reached : cb.config.failureThreshold ≤ cb.countRecentFailures now
  · rw [if_pos reached, if_pos reached]
    split <;> rfl
  · rw [if_neg reached, if_neg reached]
    split <;> rfl

theorem stateCheck_withFailures (cb : CircuitBreaker) (failures : List FailureRecord) (now : Int) :
    (cb.withFailures failures).stateCheck now =
      (cb.stateCheck now).map (fun checked => checked.withFailures failures) := by
  obtain ⟨config, state, _, _, last, half, _, _, _, _⟩ := cb
  cases state with
  | closed => rfl
  | opened =>
    by_cases recovered : config.recoveryTimeout ≤ now - last <;>
      simp [stateCheck, withFailures, recovered, Except.map, transitionToHalfOpen]
  | halfOpen =>
    by_cases exhausted : config.halfOpenMaxRequests ≤ half <;>
      simp [stateCheck, withFailures, exhausted, Except.map]

theorem canProvision_withFailures (cb : CircuitBreaker) (failures : List FailureRecord)
    (now : Int) :
    (cb.withFailures failures).canProvision now =
      ((cb.canProvision now).1, (cb.canProvision now).2.withFailures failures) := by
  have resets : (cb.withFailures failures).resetCountersIfNeeded now =
      (cb.resetCountersIfNeeded now).withFailures failures := by
    by_cases due : minute ≤ now - cb.lastMinuteReset <;>
      simp [resetCountersIfNeeded, withFailures, due]
  cases enabled : cb.enabled with
  | false => simp [canProvision, withFailures, enabled]
  | true =>
    have enabledWith : (cb.withFailures failures).enabled = true := enabled
    rw [canProvision, canProvision, if_pos enabled, if_pos enabledWith, resets,
      stateCheck_withFailures]
    cases (cb.resetCountersIfNeeded now).stateCheck now with
    | error error => rfl
    | ok checked =>
      have limits : (checked.withFailures failures).limitCheck now = checked.limitCheck now := rfl
      simp only [Except.map, limits]
      cases checked.limitCheck now <;> rfl

theorem record_withFailures {nodeClass region : String} {out : Outcome}
    (quiet : ∀ error, out ≠ .failure error) (failures : List FailureRecord) :
    (cb.withFailures failures).record now nodeClass region out =
      (cb.record now nodeClass region out).withFailures failures := by
  cases out with
  | success =>
    simp only [record, recordSuccess, releaseInstance_eq, withFailures]
    split
    · split <;> rfl
    · rfl
  | failure error => exact absurd rfl (quiet error)
  | pending =>
    simp only [record, recordPending, releaseInstance_eq, withFailures]
    split <;> rfl

theorem recordFailure_opened_iff (now : Int) (nodeClass region error : String)
    (enabled : cb.enabled = true) :
    (cb.recordFailure now nodeClass region error).state = .opened ↔
      cb.state = .opened ∨ cb.state = .halfOpen ∨ cb.config.failureThreshold ≤
          (cb.failures ++ [(⟨now, error, nodeClass, region⟩ : FailureRecord)]).countP
            (recent cb.config.failureWindow now) := by
  simp only [recordFailure, releaseInstance_eq, if_pos enabled]
  rw [openIfNeeded_opened_iff]
  simp only [countRecentFailures, cleanOldFailures, appendFailure, countP_filter,
    Bool.and_self]

theorem recordFailureUnpruned_withFailures {nodeClass region error : String}
    {history : List FailureRecord} (enabled : cb.enabled = true)
    (same : (cb.failures ++ [(⟨now, error, nodeClass, region⟩ : FailureRecord)]).filter
        (recent cb.config.failureWindow now) =
      (history ++ [(⟨now, error, nodeClass, region⟩ : FailureRecord)]).filter
        (recent cb.config.failureWindow now)) :
    (cb.withFailures history).recordFailureUnpruned now nodeClass region error =
      (cb.recordFailure now nodeClass region error).withFailures
        (history ++ [⟨now, error, nodeClass, region⟩]) := by
  have enabledWith : (cb.withFailures history).enabled = true := enabled
  rw [recordFailureUnpruned, recordFailure, if_pos enabled, if_pos enabledWith,
    ← openIfNeeded_withFailures]
  · simp only [releaseInstance_eq]
    rfl
  simp only [releaseInstance_eq, cleanOldFailures, appendFailure, filter_filter, Bool.and_self]
  exact same

end CircuitBreaker

/-- The operations of a breaker that never forgets a failure. -/
def performUnpruned (call : Invocation) : Answer × CircuitBreaker :=
  match call.operation with
  | .record _ (.failure error) =>
    (.recorded, breaker.recordFailureUnpruned call.now call.nodeClass call.region error)
  | _ => perform breaker call

theorem recent_of_recent {window now later : Int} {failure : FailureRecord}
    (ordered : now ≤ later) (stays : recent window later failure = true) :
    recent window now failure = true := by
  rw [recent_iff] at stays ⊢
  omega

theorem filter_recent_filter {window now later : Int} (failures : List FailureRecord)
    (ordered : now ≤ later) :
    (failures.filter (recent window now)).filter (recent window later) =
      failures.filter (recent window later) := by
  rw [filter_filter]
  refine filter_congr fun failure _ => ?_
  cases stays : recent window later failure with
  | false => rfl
  | true => rw [recent_of_recent ordered stays]; rfl

namespace Observed

def failuresInWindow (seen : Observed) (window now : Int) : Nat :=
  seen.history.countP (recent window now)

/-- A recorded failure leaves the circuit open exactly when it was not closed or the
complete history has enough failures in the window. -/
def OpensExactly (config : CircuitBreakerConfig) (seen : Observed) (call : Invocation) : Prop :=
  ∀ request error, call.operation = .record request (.failure error) →
    ((seen.step call).breaker.state = .opened ↔
      seen.breaker.state = .opened ∨ seen.breaker.state = .halfOpen ∨
        config.failureThreshold ≤
          (seen.step call).failuresInWindow config.failureWindow call.now)

structure Remembers (config : CircuitBreakerConfig) (seen : Observed) : Prop where
  configured : seen.breaker.config = config
  enabled : seen.breaker.enabled = true
  kept : ∀ now, seen.clock ≤ now →
    seen.breaker.failures.filter (recent config.failureWindow now) =
      seen.history.filter (recent config.failureWindow now)

def Forgotten (config : CircuitBreakerConfig) (seen : Observed) (other : CircuitBreaker) : Prop :=
  Remembers config seen ∧ other = seen.breaker.withFailures seen.history

section
variable {config : CircuitBreakerConfig} {seen : Observed} {call : Invocation}
  (inv : Remembers config seen) (ordered : seen.Ordered call)

include inv ordered

theorem Remembers.appended (failure : FailureRecord) {later : Int} (notBefore : call.now ≤ later) :
    (seen.breaker.failures ++ [failure]).filter (recent config.failureWindow later) =
      (seen.history ++ [failure]).filter (recent config.failureWindow later) := by
  rw [filter_append, filter_append, inv.kept later (Int.le_trans ordered notBefore)]

theorem Remembers.step : Remembers config (seen.step call) := by
  have still : ∀ later, call.now ≤ later →
      seen.breaker.failures.filter (recent config.failureWindow later) =
        seen.history.filter (recent config.failureWindow later) := fun later notBefore =>
    inv.kept later (Int.le_trans ordered notBefore)
  cases op : call.operation with
  | getState =>
    rw [step_getState op]
    exact ⟨inv.configured, inv.enabled, still⟩
  | canProvision =>
    rcases step_canProvision op inv.enabled with
      same | ⟨-, same⟩ | ⟨-, -, same⟩ | ⟨-, -, same⟩ <;>
      · rw [same]
        exact ⟨by simpa [countRequest, transitionToHalfOpen] using inv.configured,
          by simpa [countRequest, transitionToHalfOpen] using inv.enabled,
          by simpa [countRequest, transitionToHalfOpen] using still⟩
  | record request out =>
    rw [step_record op]
    refine ⟨by simpa using inv.configured, by simpa using inv.enabled, ?_⟩
    intro later notBefore
    cases out with
    | failure error =>
      simp only [record, historyAfter, op, recordFailure_failures _ _ _ _ inv.enabled,
        inv.configured]
      rw [filter_recent_filter _ notBefore]
      exact inv.appended ordered _ notBefore
    | success | pending =>
      rw [record_failures_of_ne (fun _ no => by cases no)]
      simpa [historyAfter, op] using still later notBefore

theorem Remembers.opensExactly : OpensExactly config seen call := by
  intro request error op
  have inWindow := inv.appended ordered ⟨call.now, error, call.nodeClass, call.region⟩
    (Int.le_refl call.now)
  rw [step_record op]
  simp only [record]
  rw [recordFailure_opened_iff _ _ _ _ inv.enabled, inv.configured]
  simp only [failuresInWindow, historyAfter, op, countP_eq_length_filter, inWindow]

theorem Remembers.simulates : (perform seen.breaker call).1 =
        (performUnpruned (seen.breaker.withFailures seen.history) call).1 ∧
      (performUnpruned (seen.breaker.withFailures seen.history) call).2 =
        (seen.step call).breaker.withFailures (seen.step call).history := by
  cases op : call.operation with
  | getState =>
    have counts : (seen.breaker.withFailures seen.history).countRecentFailures call.now =
        seen.breaker.countRecentFailures call.now := by
      have same := inv.kept call.now ordered
      rw [← inv.configured] at same
      simp only [countRecentFailures, withFailures, countP_eq_length_filter, same]
    rw [step_getState op]
    simp only [performUnpruned, perform, op, getState, counts]
    exact ⟨rfl, trivial⟩
  | canProvision =>
    have history : (seen.step call).history = seen.history := by
      simp [Observed.step, historyAfter, op]
    simp only [performUnpruned, perform, op, canProvision_withFailures, history]
    rw [← after_canProvision op]
    exact ⟨trivial, rfl⟩
  | record request out =>
    rw [step_record op]
    cases out with
    | failure error =>
      have inWindow := inv.appended ordered ⟨call.now, error, call.nodeClass, call.region⟩
        (Int.le_refl call.now)
      rw [← inv.configured] at inWindow
      simp only [performUnpruned, perform, op, historyAfter, record,
        recordFailureUnpruned_withFailures inv.enabled inWindow, and_self]
    | success | pending =>
      simp only [performUnpruned, perform, op, historyAfter]
      exact ⟨trivial, record_withFailures (fun _ no => by cases no) _⟩

end

theorem answers_observed (seen : Observed) (calls : List Invocation) :
    answers (fun seen call => ((perform seen.breaker call).1, seen.step call)) seen calls =
      answers perform seen.breaker calls := by
  induction calls generalizing seen with
  | nil => rfl
  | cons call rest ih =>
    rw [answers, answers, ih]
    rfl

/-- Forgetting the failures that left the window changes no decision: a recorded failure
opens the circuit exactly as the complete history says, and every answer is that of a
breaker that forgets nothing. -/
theorem failure_window_exact (config : CircuitBreakerConfig) (now : Int) (calls : List Invocation)
    (ordered : Along step Ordered (Observed.start config now) calls) :
    Along step (OpensExactly config) (Observed.start config now) calls ∧
      answers perform (newCircuitBreaker (some config) now) calls =
        answers performUnpruned (newCircuitBreaker (some config) now) calls := by
  have initially : Remembers config (Observed.start config now) := ⟨rfl, rfl, fun _ _ => rfl⟩
  constructor
  · exact along_of_invariant (fun seen call (inv : Remembers config seen) allowed =>
      inv.step allowed) (fun seen call inv allowed => inv.opensExactly allowed) initially ordered
  have observed := answers_observed (Observed.start config now) calls
  have together : Forgotten config (Observed.start config now)
      (newCircuitBreaker (some config) now) := ⟨initially, rfl⟩
  refine observed.symm.trans (answers_eq_of_simulation ?_ together ordered)
  rintro seen _ call ⟨inv, rfl⟩ allowed
  obtain ⟨same, later⟩ := inv.simulates allowed
  exact ⟨same, inv.step allowed, later⟩

/-- The first of three failures leaves the window before the third is recorded. -/
theorem failure_window_exact_sample :
    answers perform (newCircuitBreaker (some defaultCircuitBreakerConfig) 0)
        [⟨0, "pool", "us-south", .record 0 (.failure "timeout")⟩,
          ⟨4 * minute, "pool", "us-south", .record 1 (.failure "timeout")⟩,
          ⟨6 * minute, "pool", "us-south", .record 2 (.failure "timeout")⟩,
          ⟨6 * minute, "pool", "us-south", .getState⟩] =
      answers performUnpruned (newCircuitBreaker (some defaultCircuitBreakerConfig) 0)
        [⟨0, "pool", "us-south", .record 0 (.failure "timeout")⟩,
          ⟨4 * minute, "pool", "us-south", .record 1 (.failure "timeout")⟩,
          ⟨6 * minute, "pool", "us-south", .record 2 (.failure "timeout")⟩,
          ⟨6 * minute, "pool", "us-south", .getState⟩] :=
  (failure_window_exact defaultCircuitBreakerConfig 0 _ (by decide)).2

end Observed

end KarpenterIBM.Breaker
