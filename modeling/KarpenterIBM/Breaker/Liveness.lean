import KarpenterIBM.Breaker.Recovery

/-!
# No pair is blocked for good

Three counters can refuse a request.
-/

namespace KarpenterIBM.Breaker

open CircuitBreaker List Machine OperatorOptions

namespace Watched

/-- The counters of a breaker are covered by the unrecorded requests of its pair, and its
times are times at which the pair was operated on. -/
structure Covered (config : CircuitBreakerConfig) (requests : Nat) (times : Int → Prop)
    (breaker : CircuitBreaker) : Prop where
  configured : breaker.config = config
  enabled : breaker.enabled = true
  concurrent : breaker.concurrentInstances ≤ requests
  probes : breaker.state = .halfOpen → breaker.halfOpenRequests ≤ requests
  changed : times breaker.lastStateChange
  reset : times breaker.lastMinuteReset

def touchedAt (seen : Watched) (pair : Pair) (time : Int) : Prop :=
  (pair, time) ∈ seen.touched

structure Rested (config : CircuitBreakerConfig) (seen : Watched) : Prop where
  manager : seen.manager.config = some config
  covered : ∀ (pair : Pair) (breaker : CircuitBreaker),
    seen.manager.breakers pair.key = some breaker →
      Covered config (seen.held pair) (seen.touchedAt pair) breaker

section
variable {config : CircuitBreakerConfig} {requests : Nat} {times : Int → Prop}
  {breaker : CircuitBreaker} {now : Int}

theorem Covered.new (config : CircuitBreakerConfig) (requests : Nat) (here : times now) :
    Covered config requests times (newCircuitBreaker (some config) now) where
  configured := rfl
  enabled := rfl
  concurrent := by
    simp only [newCircuitBreaker]
    omega
  probes := by simp [newCircuitBreaker]
  changed := here
  reset := here

section
variable (covered : Covered config requests times breaker)

include covered

theorem Covered.reset_times (here : times now) :
    times (breaker.resetCountersIfNeeded now).lastMinuteReset := by
  unfold resetCountersIfNeeded
  split
  · exact here
  · exact covered.reset

theorem Covered.canProvision (here : times now) :
    Covered config (if (breaker.canProvision now).1 = .ok () then requests + 1 else requests)
      times (breaker.canProvision now).2 := by
  have reset := covered.reset_times here
  have concurrent := covered.concurrent
  rcases canProvision_cases now covered.enabled with
    ⟨error, same⟩ | ⟨error, -, same⟩ | ⟨-, -, same⟩ | ⟨-, -, same⟩
  · rw [same]
    exact ⟨by simpa using covered.configured, by simpa using covered.enabled,
      by simpa using concurrent, by simpa using covered.probes, by simpa using covered.changed,
      reset⟩
  · rw [same]
    refine ⟨by simpa [transitionToHalfOpen] using covered.configured,
      by simpa [transitionToHalfOpen] using covered.enabled,
      by simpa [transitionToHalfOpen] using concurrent, ?_, here, reset⟩
    intro _
    simp only [transitionToHalfOpen]
    omega
  · rw [same]
    refine ⟨by simpa [countRequest] using covered.configured,
      by simpa [countRequest] using covered.enabled, ?_, ?_,
      by simpa [countRequest] using covered.changed, reset⟩
    · simp only [countRequest, if_true, resetCountersIfNeeded_concurrentInstances]
      omega
    intro half
    have halfBefore : breaker.state = .halfOpen := by simpa [countRequest] using half
    have probes := covered.probes halfBefore
    simp only [countRequest, if_true, resetCountersIfNeeded_state, halfBefore,
      resetCountersIfNeeded_halfOpenRequests]
    omega
  · rw [same]
    refine ⟨by simpa [countRequest, transitionToHalfOpen] using covered.configured,
      by simpa [countRequest, transitionToHalfOpen] using covered.enabled, ?_, ?_, here, reset⟩
    · simp only [countRequest, transitionToHalfOpen, if_true,
        resetCountersIfNeeded_concurrentInstances]
      omega
    intro _
    simp only [countRequest, transitionToHalfOpen, if_true]
    omega

theorem Covered.record {nodeClass region : String} {out : Outcome} {left : Nat} (here : times now)
    (oneLess : left + 1 = requests) :
    Covered config left times (breaker.record now nodeClass region out) := by
  have concurrent := covered.concurrent
  refine ⟨by simpa using covered.configured, by simpa using covered.enabled, ?_, ?_, ?_,
    by simpa using covered.reset⟩
  · rw [record_concurrentInstances covered.enabled]
    split <;> omega
  · intro half
    have probes := covered.probes (halfOpen_of_record half)
    cases out with
    | success => exact absurd half (recordSuccess_state_ne covered.enabled)
    | failure error => exact absurd half (recordFailure_state_ne covered.enabled)
    | pending =>
      simp only [CircuitBreaker.record, recordPending_halfOpenRequests (halfOpen_of_record half)]
      split <;> omega
  · rcases record_lastStateChange breaker now nodeClass region out with changed | kept
    · rw [changed]
      exact here
    · rw [kept]
      exact covered.changed

theorem Covered.mono {later : Int → Prop} (kept : ∀ time, times time → later time) :
    Covered config requests later breaker :=
  ⟨covered.configured, covered.enabled, covered.concurrent, covered.probes,
    kept _ covered.changed, kept _ covered.reset⟩

end

theorem Covered.admits (sound : Sound config) (covered : Covered config 0 times breaker)
    (rested : ∀ time, times time → time + config.recoveryTimeout ≤ now ∧ time + minute ≤ now) :
    (breaker.canProvision now).1 = .ok () := by
  have concurrent := covered.concurrent
  have rate := sound.rateLimitPerMinute
  have cap := sound.maxConcurrentInstances
  have probes := sound.halfOpenMaxRequests
  refine canProvision_admits covered.enabled ?_ ?_
  · cases state : breaker.state with
    | closed => exact .inl (.inl state)
    | opened =>
      have recovered := (rested _ covered.changed).1
      exact .inr ⟨state, by rw [covered.configured]; omega⟩
    | halfOpen =>
      have counted := covered.probes state
      exact .inl (.inr ⟨state, by rw [covered.configured]; omega⟩)
  · have due := (rested _ covered.reset).2
    unfold resetCountersIfNeeded
    rw [if_pos (by omega)]
    simp only [HasRoom, covered.configured]
    omega

end

section
variable {config : CircuitBreakerConfig} {seen : Watched} {call : ManagerCall}

theorem touchedAt_step {pair : Pair} {time : Int} (before : seen.touchedAt pair time) :
    (seen.step call).touchedAt pair time :=
  mem_cons_of_mem _ before

theorem touchedAt_now : (seen.step call).touchedAt call.pair call.now := mem_cons_self

theorem Rested.found {found : CircuitBreaker} (inv : Rested config seen)
    (isFound : Found config seen call found) :
    Covered config (seen.held call.pair) ((seen.step call).touchedAt call.pair) found := by
  rcases isFound with old | ⟨rfl, -⟩
  · exact (inv.covered call.pair found old).mono fun _ => touchedAt_step
  · exact Covered.new config _ touchedAt_now

theorem Rested.step (inv : Rested config seen) (once : seen.RecordsOnce call) :
    Rested config (seen.step call) := by
  refine ⟨after_config.trans inv.manager, fun pair after present => ?_⟩
  change (seen.manager.after call).breakers pair.key = some after at present
  by_cases own : pair = call.pair
  · subst own
    cases op : call.operation with
    | canProvision =>
      obtain ⟨found, isFound, same, admits⟩ := breakers_canProvision inv.manager op
      cases same.symm.trans present
      have covered := (inv.found isFound).canProvision touchedAt_now
      rw [held_canProvision op]
      simpa only [admits] using covered
    | record request out =>
      have oneLess := held_record op once
      rcases breakers_record inv.manager op with
        ⟨breaker, old, same⟩ | ⟨-, gone | ⟨error, -, same⟩⟩
      · cases same.symm.trans present
        exact ((inv.covered call.pair breaker old).mono fun _ => touchedAt_step).record
          touchedAt_now oneLess
      · cases gone.symm.trans present
      cases same.symm.trans present
      have new : Covered config (seen.held call.pair) ((seen.step call).touchedAt call.pair)
          (newCircuitBreaker (some config) call.now) := Covered.new config _ touchedAt_now
      have noted : Covered config _ _ ((newCircuitBreaker (some config) call.now).record
          call.now call.pair.nodeClass call.pair.region.text (.failure error)) :=
        new.record touchedAt_now oneLess
      exact noted
    | resetNodeClass =>
      rcases breakers_reset inv.manager op with gone | same
      · cases gone.symm.trans present
      cases same.symm.trans present
      exact Covered.new config _ touchedAt_now
    | getState =>
      rw [breakers_getState op] at present
      rw [held_quiet (.inr op)]
      exact (inv.covered call.pair after present).mono fun _ => touchedAt_step
  · rw [held_other own]
    rcases breakers_other seen own with same | ⟨_, -, -, gone⟩
    · rw [same] at present
      exact (inv.covered pair after present).mono fun _ => touchedAt_step
    · cases gone.symm.trans present

end

theorem config_run (seen : Watched) (calls : List ManagerCall) :
    (run step seen calls).manager.config = seen.manager.config := by
  induction calls generalizing seen with
  | nil => rfl
  | cons call rest ih => exact (ih (seen.step call)).trans after_config

/-- In every run in which each admitted request is recorded at most once, a pair without an
unrecorded request gets its next request through once the recovery timeout and a minute have
passed since it was last operated on. -/
theorem rested_pair_admitted (options : Options) (valid : options.validate = .ok ())
    (start : Int) (calls : List ManagerCall)
    (along : Along step RecordsOnce (Watched.start options.getCircuitBreakerConfig start) calls)
    (pair : Pair) (now : Int)
    (recorded : (run step (Watched.start options.getCircuitBreakerConfig start) calls).held
      pair = 0)
    (rested : ∀ time, (pair, time) ∈ (run step (Watched.start options.getCircuitBreakerConfig start)
        calls).touched →
      time + options.circuitBreakerRecoveryTimeout ≤ now ∧ time + minute ≤ now) :
    (run step (Watched.start options.getCircuitBreakerConfig start) calls).manager.admits
      ⟨now, pair, .canProvision⟩ = true := by
  cases configured : options.getCircuitBreakerConfig with
  | none =>
    have disabled : (run step (Watched.start none start) calls).manager.config = none :=
      config_run _ calls
    simp only [NodeClassCircuitBreakerManager.admits,
      NodeClassCircuitBreakerManager.canProvision, disabled]
  | some config =>
    rw [configured] at along recorded rested
    have sound := Options.sound_of_validate valid configured
    rw [← Options.recoveryTimeout_of_config configured] at rested
    have initially : Rested config (Watched.start (some config) start) :=
      ⟨rfl, fun _ _ impossible => by cases impossible⟩
    have inv : Rested config (run step (Watched.start (some config) start) calls) :=
      invariant_run (fun _ _ inv once => inv.step once) initially along
    have op : (⟨now, pair, .canProvision⟩ : ManagerCall).operation = .canProvision := rfl
    obtain ⟨found, isFound, -, admits⟩ := breakers_canProvision inv.manager op
    refine admits.mpr ?_
    rcases isFound with existing | ⟨rfl, -⟩
    · have covered := inv.covered pair found existing
      rw [recorded] at covered
      exact covered.admits sound rested
    · exact canProvision_admits rfl (.inl (.inl rfl))
        (hasRoom_new sound now)

/-- Three requests that fail, one after the other. -/
def threeFailures : List ManagerCall :=
  [⟨0, samplePair "pool", .canProvision⟩,
    ⟨second, samplePair "pool", .record 0 (.failure "quota exceeded")⟩,
    ⟨2 * second, samplePair "pool", .canProvision⟩,
    ⟨3 * second, samplePair "pool", .record 1 (.failure "quota exceeded")⟩,
    ⟨4 * second, samplePair "pool", .canProvision⟩,
    ⟨5 * second, samplePair "pool", .record 2 (.failure "quota exceeded")⟩]

/-- The failures open the circuit; a quarter of an hour later the next request goes through. -/
theorem rested_pair_admitted_sample :
    (run step (Watched.start sampleOptions.getCircuitBreakerConfig 0) threeFailures).manager.stateOf
      (samplePair "pool") = some .opened ∧
    (run step (Watched.start sampleOptions.getCircuitBreakerConfig 0) threeFailures).manager.admits
      ⟨15 * minute + 5 * second, samplePair "pool", .canProvision⟩ = true :=
  ⟨by decide, rested_pair_admitted sampleOptions (by decide) 0 _ (by decide) (samplePair "pool")
    (15 * minute + 5 * second) (by decide) (by
      intro time touched
      simp only [threeFailures, run, step, Watched.start, foldl_cons, foldl_nil,
        mem_cons, Prod.mk.injEq, true_and, not_mem_nil, or_false] at touched
      rcases touched with rfl | rfl | rfl | rfl | rfl | rfl <;> decide)⟩

end Watched

end KarpenterIBM.Breaker
