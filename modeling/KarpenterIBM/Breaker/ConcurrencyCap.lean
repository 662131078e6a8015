import KarpenterIBM.Breaker.ManagerRuns

/-!
# The concurrency cap at the manager

Each breaker counts the requests it has admitted and refuses more than the cap.
-/

namespace KarpenterIBM.Breaker

open Machine OperatorOptions

namespace Watched

/-- The cleanup drops no breaker of a pair with an unrecorded request. -/
def DropsIdle (seen : Watched) (call : ManagerCall) : Prop :=
  ∀ held ∈ seen.outstanding, ∀ breaker,
    seen.manager.breakers held.pair.key = some breaker → ¬ seen.Drops call breaker

instance (seen : Watched) (call : ManagerCall) : Decidable (seen.DropsIdle call) :=
  decidable_of_iff (∀ held ∈ seen.outstanding,
      ∀ breaker ∈ seen.manager.breakers held.pair.key, ¬ seen.Drops call breaker)
    (by simp [DropsIdle])

structure Capped (config : CircuitBreakerConfig) (seen : Watched) : Prop where
  configured : seen.manager.config = some config
  absent : ∀ pair, seen.manager.breakers pair.key = none → seen.held pair = 0
  present : ∀ pair breaker, seen.manager.breakers pair.key = some breaker →
    breaker.config = config ∧ breaker.enabled = true ∧
      breaker.concurrentInstances = seen.held pair ∧
      breaker.concurrentInstances ≤ config.maxConcurrentInstances

section
variable {config : CircuitBreakerConfig} {seen : Watched} {call : ManagerCall}

theorem held_pos_iff {pair : Pair} :
    0 < seen.held pair ↔ ∃ held ∈ seen.outstanding, held.pair = pair := by
  simp [held, List.countP_pos_iff]

theorem DropsIdle.held_eq_zero {pair : Pair} {cb : CircuitBreaker}
    (idle : seen.DropsIdle call) (old : seen.manager.breakers pair.key = some cb)
    (drops : seen.Drops call cb) : seen.held pair = 0 := by
  by_contra busy
  obtain ⟨held, mem, rfl⟩ := held_pos_iff.mp (Nat.pos_of_ne_zero busy)
  exact idle held mem cb old drops

theorem Capped.found {found : CircuitBreaker} (sound : Sound config) (inv : Capped config seen)
    (idle : seen.DropsIdle call) (isFound : Found config seen call found) :
    found.config = config ∧ found.enabled = true ∧ found.concurrentInstances = seen.held call.pair ∧
      found.concurrentInstances ≤ config.maxConcurrentInstances := by
  rcases isFound with old | ⟨rfl, missing | ⟨dropped, old, drops⟩⟩
  · exact inv.present call.pair found old
  · have := sound.maxConcurrentInstances
    refine ⟨rfl, rfl, ?_, ?_⟩
    · simp [newCircuitBreaker, inv.absent call.pair missing]
    · simp only [newCircuitBreaker]
      omega
  · have := sound.maxConcurrentInstances
    refine ⟨rfl, rfl, ?_, ?_⟩
    · simp [newCircuitBreaker, idle.held_eq_zero old drops]
    · simp only [newCircuitBreaker]
      omega

theorem Capped.step_other {pair : Pair} (inv : Capped config seen) (idle : seen.DropsIdle call)
    (differ : pair ≠ call.pair) :
    ((seen.step call).manager.breakers pair.key = none → (seen.step call).held pair = 0) ∧
      ∀ cb, (seen.step call).manager.breakers pair.key = some cb →
        cb.config = config ∧ cb.enabled = true ∧
          cb.concurrentInstances = (seen.step call).held pair ∧
          cb.concurrentInstances ≤ config.maxConcurrentInstances := by
  rw [held_other differ]
  rcases breakers_other seen differ with same | ⟨cb, old, drops, gone⟩
  · change ((seen.manager.after call).breakers pair.key = none → _) ∧
      ∀ cb, (seen.manager.after call).breakers pair.key = some cb → _
    rw [same]
    exact ⟨inv.absent pair, inv.present pair⟩
  change ((seen.manager.after call).breakers pair.key = none → _) ∧
    ∀ cb, (seen.manager.after call).breakers pair.key = some cb → _
  rw [gone]
  exact ⟨fun _ => idle.held_eq_zero old drops, fun _ no => by cases no⟩

variable (sound : Sound config)
  (inv : Capped config seen)
  (once : seen.RecordsOnce call)
  (kept : seen.NoReset call)
  (idle : seen.DropsIdle call)

include sound inv once kept idle

theorem Capped.step_own : ((seen.step call).manager.breakers call.pair.key = none →
        (seen.step call).held call.pair = 0) ∧
      ∀ cb, (seen.step call).manager.breakers call.pair.key = some cb →
        cb.config = config ∧ cb.enabled = true ∧
          cb.concurrentInstances = (seen.step call).held call.pair ∧
          cb.concurrentInstances ≤ config.maxConcurrentInstances := by
  change ((seen.manager.after call).breakers call.pair.key = none → _) ∧
    ∀ cb, (seen.manager.after call).breakers call.pair.key = some cb → _
  cases op : call.operation with
  | canProvision =>
    obtain ⟨found, isFound, after, admits⟩ := breakers_canProvision inv.configured op
    obtain ⟨foundConfig, foundEnabled, counted, bounded⟩ := inv.found sound idle isFound
    rw [after, held_canProvision op]
    refine ⟨fun no => (by cases no), ?_⟩
    rintro cb ⟨⟩
    refine ⟨(CircuitBreaker.canProvision_config call.now foundEnabled).trans foundConfig,
      CircuitBreaker.canProvision_enabled call.now foundEnabled, ?_⟩
    rcases CircuitBreaker.canProvision_concurrentInstances call.now foundEnabled with
      ⟨ok, below, next⟩ | ⟨refused, next⟩
    · rw [if_pos (admits.mpr ok), next]
      rw [foundConfig] at below
      omega
    · rw [if_neg (fun admitted => refused (admits.mp admitted)), next]
      exact ⟨counted, bounded⟩
  | record request out =>
    have oneLess := held_record op once
    rcases breakers_record inv.configured op with
      ⟨cb, old, after⟩ | ⟨missing, -⟩
    · obtain ⟨breakerConfig, breakerEnabled, counted, bounded⟩ := inv.present call.pair cb old
      rw [after]
      refine ⟨fun no => (by cases no), ?_⟩
      rintro noted ⟨⟩
      refine ⟨by simpa using breakerConfig, by simpa using breakerEnabled, ?_⟩
      rw [CircuitBreaker.record_concurrentInstances breakerEnabled]
      split <;> omega
    · have noneHeld := inv.absent call.pair missing
      omega
  | resetNodeClass => exact absurd op kept
  | getState =>
    rw [breakers_getState op, held_quiet (.inr op)]
    exact ⟨inv.absent call.pair, inv.present call.pair⟩

theorem Capped.step : Capped config (seen.step call) := by
  refine ⟨after_config.trans inv.configured, fun pair => ?_, fun pair => ?_⟩
  · by_cases own : pair = call.pair
    · rw [own]
      exact (inv.step_own sound once kept idle).1
    · exact (inv.step_other idle own).1
  by_cases own : pair = call.pair
  · rw [own]
    exact (inv.step_own sound once kept idle).2
  · exact (inv.step_other idle own).2

end

/-- In every run whose cleanups drop no breaker with an unrecorded request, no pair has
more unrecorded requests than the cap. -/
theorem held_within_cap (options : Options) (valid : options.validate = .ok ())
    (config : CircuitBreakerConfig)
    (configured : options.getCircuitBreakerConfig = some config) (now : Int)
    (calls : List ManagerCall)
    (along : Along step (fun seen call => seen.Ordered call ∧ seen.RecordsOnce call ∧
      seen.NoReset call ∧ seen.DropsIdle call) (Watched.start (some config) now) calls)
    (pair : Pair) :
    ((run step (Watched.start (some config) now) calls).held pair : Int) ≤
      config.maxConcurrentInstances := by
  have sound := Options.sound_of_validate valid configured
  have initially : Capped config (Watched.start (some config) now) :=
    ⟨rfl, fun _ _ => rfl, fun _ _ impossible => by cases impossible⟩
  have inv : Capped config (run step (Watched.start (some config) now) calls) :=
    invariant_run (fun seen call inv allowed =>
      inv.step sound allowed.2.1 allowed.2.2.1 allowed.2.2.2) initially along
  cases existing : (run step (Watched.start (some config) now) calls).manager.breakers pair.key with
  | none =>
    have positive := sound.maxConcurrentInstances
    rw [inv.absent pair existing]
    omega
  | some breaker =>
    obtain ⟨-, -, counted, bounded⟩ := inv.present pair breaker existing
    omega

/-- Options with a cap of one request. -/
def oneAtATime : Options :=
  { sampleOptions with circuitBreakerMaxConcurrentInstances := 1 }

def oneAtATimeConfig : CircuitBreakerConfig :=
  { sampleConfig with maxConcurrentInstances := 1 }

/-- One request for `pool` is admitted and succeeds. -/
def quietMorning : List ManagerCall :=
  [⟨0, samplePair "pool", .canProvision⟩, ⟨second, samplePair "pool", .record 0 .success⟩]

/-- A request for `other` is still unrecorded when the cleanup drops the breaker of `pool`; the
next one for `other` is refused. -/
def keptBusy : List ManagerCall :=
  quietMorning ++
    [⟨90 * minute, samplePair "other", .canProvision⟩,
      ⟨3 * hour, samplePair "third", .canProvision⟩,
      ⟨3 * hour + second, samplePair "other", .canProvision⟩]

theorem held_within_cap_sample :
    (run step (Watched.start (some oneAtATimeConfig) 0) keptBusy).manager.stateOf
      (samplePair "pool") = none ∧
    (run step (Watched.start (some oneAtATimeConfig) 0) keptBusy).held (samplePair "other") = 1 ∧
    ((run step (Watched.start (some oneAtATimeConfig) 0) keptBusy).held
      (samplePair "other") : Int) ≤ 1 :=
  ⟨by decide, by decide, held_within_cap oneAtATime (by decide) oneAtATimeConfig (by decide) 0
    keptBusy (by decide) (samplePair "other")⟩

/-- Two hours after `pool` was first used, one second before its breaker counts as old, a
request is admitted; two seconds later the cleanup drops the breaker and the next request is
admitted beside it. -/
def busyAfternoon : List ManagerCall :=
  quietMorning ++
    [⟨90 * minute, samplePair "other", .canProvision⟩,
      ⟨2 * hour - second, samplePair "pool", .canProvision⟩,
      ⟨2 * hour + second, samplePair "pool", .canProvision⟩]

theorem cleanup_forgets_running_request : oneAtATime.validate = .ok () ∧
      oneAtATime.getCircuitBreakerConfig = some oneAtATimeConfig ∧
      Along step (fun seen call => seen.Ordered call ∧ seen.RecordsOnce call ∧
        seen.NoReset call) (Watched.start (some oneAtATimeConfig) 0) busyAfternoon ∧
      oneAtATimeConfig.maxConcurrentInstances = 1 ∧
      (run step (Watched.start (some oneAtATimeConfig) 0) busyAfternoon).held
        (samplePair "pool") = 2 := by
  decide

end Watched

end KarpenterIBM.Breaker
