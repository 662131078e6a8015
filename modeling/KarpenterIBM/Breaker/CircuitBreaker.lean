import Mathlib.Data.List.Basic

/-!
# The circuit breaker of one NodeClass and region

`pkg/cloudprovider/circuitbreaker.go`. Every operation holds the breaker's lock and is modelled
at the instant its clock shows; times and durations are in nanoseconds.
-/

namespace KarpenterIBM.Breaker

def second : Int := 1000000000
def minute : Int := 60 * second
def hour : Int := 60 * minute

inductive CircuitBreakerState where
  | closed
  | opened
  | halfOpen
deriving DecidableEq

def CircuitBreakerState.text : CircuitBreakerState → String
  | .closed => "CLOSED"
  | .opened => "OPEN"
  | .halfOpen => "HALF_OPEN"

structure CircuitBreakerConfig where
  failureThreshold : Int
  failureWindow : Int
  recoveryTimeout : Int
  halfOpenMaxRequests : Int
  rateLimitPerMinute : Int
  maxConcurrentInstances : Int
deriving DecidableEq

def defaultCircuitBreakerConfig : CircuitBreakerConfig where
  failureThreshold := 3
  failureWindow := 5 * minute
  recoveryTimeout := 15 * minute
  halfOpenMaxRequests := 2
  rateLimitPerMinute := 2
  maxConcurrentInstances := 5

structure FailureRecord where
  timestamp : Int
  error : String
  nodeClass : String
  region : String
deriving DecidableEq

inductive CircuitBreakerMessage where
  | recentFailures (failures : List FailureRecord)
  | testRequestsExceeded
deriving DecidableEq

inductive ProvisionError where
  | circuitBreaker (state : CircuitBreakerState) (message : CircuitBreakerMessage)
      (timeToWait : Int)
  | rateLimit (limit current : Int) (timeToReset : Int)
  | concurrencyLimit (limit current : Int)
deriving DecidableEq

def CircuitBreakerMessage.text (summary : List FailureRecord → String) :
    CircuitBreakerMessage → String
  | .recentFailures failures =>
    "Circuit breaker is OPEN - provisioning blocked due to recent failures." ++
      (if failures.isEmpty then "" else " Recent failures: " ++ summary failures)
  | .testRequestsExceeded => "Circuit breaker is HALF_OPEN - maximum test requests exceeded"

/-- The `Error` methods of the three error types. -/
def ProvisionError.text (summary : List FailureRecord → String) : ProvisionError → String
  | .circuitBreaker state message _ =>
    "circuit breaker " ++ state.text ++ ": " ++ message.text summary
  | .rateLimit limit current _ =>
    "rate limit exceeded: " ++ toString current ++ "/" ++ toString limit ++
      " instances this minute"
  | .concurrencyLimit limit current =>
    "concurrency limit exceeded: " ++ toString current ++ "/" ++ toString limit ++
      " concurrent instances"

structure CircuitBreaker where
  config : CircuitBreakerConfig
  state : CircuitBreakerState
  failures : List FailureRecord
  enabled : Bool
  lastStateChange : Int
  halfOpenRequests : Int
  concurrentInstances : Int
  instancesThisMinute : Int
  lastMinuteReset : Int
  openFailureSummary : List FailureRecord
deriving DecidableEq

/-- Without a configuration the breaker is disabled. -/
def newCircuitBreaker (config : Option CircuitBreakerConfig) (now : Int) : CircuitBreaker where
  config := config.getD defaultCircuitBreakerConfig
  state := .closed
  failures := []
  enabled := config.isSome
  lastStateChange := now
  halfOpenRequests := 0
  concurrentInstances := 0
  instancesThisMinute := 0
  lastMinuteReset := now
  openFailureSummary := []

/-! ## Failures inside the window -/

/-- `failure.Timestamp.After(now.Add(-FailureWindow))`. -/
def recent (window : Int) (now : Int) (failure : FailureRecord) : Bool :=
  decide (now - window < failure.timestamp)

theorem recent_iff {window : Int} {now : Int} {failure : FailureRecord} :
    recent window now failure = true ↔ now - window < failure.timestamp := by
  simp [recent]

variable (breaker : CircuitBreaker)

namespace CircuitBreaker

def cleanOldFailures (now : Int) : CircuitBreaker :=
  { breaker with failures := breaker.failures.filter (recent breaker.config.failureWindow now) }

def countRecentFailures (now : Int) : Int :=
  breaker.failures.countP (recent breaker.config.failureWindow now)

/-- The failures `getRecentFailuresSummary` describes. -/
def recentFailuresSummary (now : Int) : List FailureRecord :=
  breaker.failures.filter (recent breaker.config.failureWindow now)

/-! ## Transitions -/

def resetCountersIfNeeded (now : Int) : CircuitBreaker :=
  if minute ≤ now - breaker.lastMinuteReset then
    { breaker with instancesThisMinute := 0, lastMinuteReset := now }
  else breaker

def transitionToClosed (now : Int) : CircuitBreaker :=
  { breaker with state := .closed, lastStateChange := now, halfOpenRequests := 0 }

def transitionToOpen (now : Int) : CircuitBreaker :=
  { breaker with
    state := .opened
    lastStateChange := now
    halfOpenRequests := 0
    openFailureSummary := breaker.recentFailuresSummary now }

def transitionToHalfOpen (now : Int) : CircuitBreaker :=
  { breaker with state := .halfOpen, lastStateChange := now, halfOpenRequests := 0 }

/-- `if concurrentInstances > 0 { concurrentInstances-- }`, as every record begins. -/
def releaseInstance : CircuitBreaker :=
  if 0 < breaker.concurrentInstances then
    { breaker with concurrentInstances := breaker.concurrentInstances - 1 }
  else breaker

/-! ## Admission -/

/-- The switch over the state in `CanProvision`. -/
def stateCheck (now : Int) : Except ProvisionError CircuitBreaker :=
  match breaker.state with
  | .opened =>
    let elapsed := now - breaker.lastStateChange
    if breaker.config.recoveryTimeout ≤ elapsed then
      .ok (breaker.transitionToHalfOpen now)
    else
      .error (.circuitBreaker breaker.state (.recentFailures breaker.openFailureSummary)
        (breaker.config.recoveryTimeout - elapsed))
  | .halfOpen =>
    if breaker.config.halfOpenMaxRequests ≤ breaker.halfOpenRequests then
      .error (.circuitBreaker breaker.state .testRequestsExceeded 0)
    else .ok breaker
  | .closed => .ok breaker

def limitCheck (now : Int) : Except ProvisionError Unit :=
  if breaker.config.rateLimitPerMinute ≤ breaker.instancesThisMinute then
    .error (.rateLimit breaker.config.rateLimitPerMinute breaker.instancesThisMinute
      (minute - (now - breaker.lastMinuteReset)))
  else if breaker.config.maxConcurrentInstances ≤ breaker.concurrentInstances then
    .error (.concurrencyLimit breaker.config.maxConcurrentInstances breaker.concurrentInstances)
  else .ok ()

def countRequest : CircuitBreaker :=
  { breaker with
    instancesThisMinute := breaker.instancesThisMinute + 1
    concurrentInstances := breaker.concurrentInstances + 1
    halfOpenRequests :=
      if breaker.state = .halfOpen then breaker.halfOpenRequests + 1
      else breaker.halfOpenRequests }

def canProvision (now : Int) : Except ProvisionError Unit × CircuitBreaker :=
  if breaker.enabled then
    match (breaker.resetCountersIfNeeded now).stateCheck now with
    | .error error => (.error error, breaker.resetCountersIfNeeded now)
    | .ok checked =>
      match checked.limitCheck now with
      | .error error => (.error error, checked)
      | .ok () => (.ok (), checked.countRequest)
  else (.ok (), breaker)

/-! ## Records -/

def recordPending : CircuitBreaker :=
  let released := breaker.releaseInstance
  if released.state = .halfOpen ∧ 0 < released.halfOpenRequests then
    { released with halfOpenRequests := released.halfOpenRequests - 1 }
  else released

def recordSuccess (now : Int) : CircuitBreaker :=
  if breaker.enabled then
    let released := breaker.releaseInstance
    if released.state = .halfOpen then released.transitionToClosed now else released
  else breaker

/-- The end of `RecordFailure`: whether the circuit opens. -/
def openIfNeeded (now : Int) : CircuitBreaker :=
  if breaker.config.failureThreshold ≤ breaker.countRecentFailures now then
    if breaker.state ≠ .opened then breaker.transitionToOpen now else breaker
  else if breaker.state = .halfOpen then breaker.transitionToOpen now
  else breaker

def appendFailure (failure : FailureRecord) : CircuitBreaker :=
  { breaker with failures := breaker.failures ++ [failure] }

def recordFailure (now : Int) (nodeClass region error : String) : CircuitBreaker :=
  if breaker.enabled then
    let failure : FailureRecord := ⟨now, error, nodeClass, region⟩
    ((breaker.releaseInstance.appendFailure failure).cleanOldFailures now).openIfNeeded now
  else breaker

/-! ## Status -/

def getTimeToRecovery (now : Int) : Int :=
  if breaker.state ≠ .opened then 0
  else if breaker.config.recoveryTimeout ≤ now - breaker.lastStateChange then 0
  else breaker.config.recoveryTimeout - (now - breaker.lastStateChange)

end CircuitBreaker

structure CircuitBreakerStatus where
  state : CircuitBreakerState
  recentFailures : Int
  failureThreshold : Int
  instancesThisMinute : Int
  rateLimit : Int
  concurrentInstances : Int
  maxConcurrent : Int
  lastStateChange : Int
  timeToRecovery : Int
deriving DecidableEq

def CircuitBreaker.getState (now : Int) : CircuitBreakerStatus where
  state := breaker.state
  recentFailures := breaker.countRecentFailures now
  failureThreshold := breaker.config.failureThreshold
  instancesThisMinute := breaker.instancesThisMinute
  rateLimit := breaker.config.rateLimitPerMinute
  concurrentInstances := breaker.concurrentInstances
  maxConcurrent := breaker.config.maxConcurrentInstances
  lastStateChange := breaker.lastStateChange
  timeToRecovery := breaker.getTimeToRecovery now

/-! ## What the operations do -/

namespace CircuitBreaker

variable {breaker : CircuitBreaker} {now : Int}

def HasRoom (breaker : CircuitBreaker) : Prop :=
  breaker.instancesThisMinute < breaker.config.rateLimitPerMinute ∧
    breaker.concurrentInstances < breaker.config.maxConcurrentInstances

def Recovering (breaker : CircuitBreaker) (now : Int) : Prop :=
  breaker.state = .opened ∧ breaker.config.recoveryTimeout ≤ now - breaker.lastStateChange

instance (breaker : CircuitBreaker) (now : Int) : Decidable (breaker.Recovering now) :=
  inferInstanceAs (Decidable (_ ∧ _))

def Passing (breaker : CircuitBreaker) : Prop :=
  breaker.state = .closed ∨
    breaker.state = .halfOpen ∧ breaker.halfOpenRequests < breaker.config.halfOpenMaxRequests

theorem resetCountersIfNeeded_eq (breaker : CircuitBreaker) (now : Int) :
    ∃ instances last, breaker.resetCountersIfNeeded now =
      { breaker with instancesThisMinute := instances, lastMinuteReset := last } := by
  unfold resetCountersIfNeeded
  split
  · exact ⟨0, now, rfl⟩
  · exact ⟨_, _, rfl⟩

@[simp] theorem resetCountersIfNeeded_config :
    (breaker.resetCountersIfNeeded now).config = breaker.config := by
  obtain ⟨_, _, same⟩ := resetCountersIfNeeded_eq breaker now
  rw [same]

@[simp] theorem resetCountersIfNeeded_state :
    (breaker.resetCountersIfNeeded now).state = breaker.state := by
  obtain ⟨_, _, same⟩ := resetCountersIfNeeded_eq breaker now
  rw [same]

@[simp] theorem resetCountersIfNeeded_enabled :
    (breaker.resetCountersIfNeeded now).enabled = breaker.enabled := by
  obtain ⟨_, _, same⟩ := resetCountersIfNeeded_eq breaker now
  rw [same]

@[simp] theorem resetCountersIfNeeded_failures :
    (breaker.resetCountersIfNeeded now).failures = breaker.failures := by
  obtain ⟨_, _, same⟩ := resetCountersIfNeeded_eq breaker now
  rw [same]

@[simp] theorem resetCountersIfNeeded_lastStateChange :
    (breaker.resetCountersIfNeeded now).lastStateChange = breaker.lastStateChange := by
  obtain ⟨_, _, same⟩ := resetCountersIfNeeded_eq breaker now
  rw [same]

@[simp] theorem resetCountersIfNeeded_halfOpenRequests :
    (breaker.resetCountersIfNeeded now).halfOpenRequests = breaker.halfOpenRequests := by
  obtain ⟨_, _, same⟩ := resetCountersIfNeeded_eq breaker now
  rw [same]

@[simp] theorem resetCountersIfNeeded_concurrentInstances :
    (breaker.resetCountersIfNeeded now).concurrentInstances = breaker.concurrentInstances := by
  obtain ⟨_, _, same⟩ := resetCountersIfNeeded_eq breaker now
  rw [same]

theorem limitCheck_cases (breaker : CircuitBreaker) (now : Int) :
    (∃ error, breaker.limitCheck now = .error error) ∧ ¬ breaker.HasRoom ∨
      breaker.limitCheck now = .ok () ∧ breaker.HasRoom := by
  unfold limitCheck HasRoom
  by_cases limited : breaker.config.rateLimitPerMinute ≤ breaker.instancesThisMinute
  · exact .inl ⟨⟨_, if_pos limited⟩, by omega⟩
  rw [if_neg limited]
  by_cases crowded : breaker.config.maxConcurrentInstances ≤ breaker.concurrentInstances
  · exact .inl ⟨⟨_, if_pos crowded⟩, by omega⟩
  · exact .inr ⟨if_neg crowded, by omega⟩

theorem stateCheck_cases (breaker : CircuitBreaker) (now : Int) :
    (∃ error, breaker.stateCheck now = .error error) ∧ ¬ breaker.Passing ∧
        ¬ breaker.Recovering now ∨
      breaker.stateCheck now = .ok breaker ∧ breaker.Passing ∨
      breaker.stateCheck now = .ok (breaker.transitionToHalfOpen now) ∧ breaker.Recovering now := by
  unfold stateCheck Passing Recovering
  cases state : breaker.state with
  | closed => exact .inr (.inl ⟨rfl, .inl rfl⟩)
  | opened =>
    by_cases recovered : breaker.config.recoveryTimeout ≤ now - breaker.lastStateChange
    · exact .inr (.inr ⟨if_pos recovered, rfl, recovered⟩)
    · exact .inl ⟨⟨_, if_neg recovered⟩, by simp, by simpa using recovered⟩
  | halfOpen =>
    by_cases exhausted : breaker.config.halfOpenMaxRequests ≤ breaker.halfOpenRequests
    · exact .inl ⟨⟨_, if_pos exhausted⟩, by simpa using exhausted, by simp⟩
    · exact .inr (.inl ⟨if_neg exhausted, .inr ⟨rfl, by omega⟩⟩)

/-- Everything `CanProvision` of an enabled breaker can do. -/
theorem canProvision_cases (now : Int) (enabled : breaker.enabled = true) :
    (∃ error, breaker.canProvision now = (.error error, breaker.resetCountersIfNeeded now)) ∨
      (∃ error, breaker.Recovering now ∧ breaker.canProvision now =
        (.error error, (breaker.resetCountersIfNeeded now).transitionToHalfOpen now)) ∨
      (breaker.Passing ∧ (breaker.resetCountersIfNeeded now).HasRoom ∧
        breaker.canProvision now = (.ok (), (breaker.resetCountersIfNeeded now).countRequest)) ∨
      (breaker.Recovering now ∧ (breaker.resetCountersIfNeeded now).HasRoom ∧
        breaker.canProvision now =
          (.ok (),
            ((breaker.resetCountersIfNeeded now).transitionToHalfOpen now).countRequest)) := by
  unfold canProvision
  rw [if_pos enabled]
  rcases stateCheck_cases (breaker.resetCountersIfNeeded now) now with
    ⟨⟨error, blocked⟩, -, -⟩ | ⟨checked, passing⟩ | ⟨checked, recovering⟩
  · exact .inl ⟨error, by rw [blocked]⟩
  · rw [checked]
    simp only [Passing, resetCountersIfNeeded_state, resetCountersIfNeeded_config,
      resetCountersIfNeeded_halfOpenRequests] at passing
    rcases limitCheck_cases (breaker.resetCountersIfNeeded now) now with
      ⟨⟨error, limited⟩, -⟩ | ⟨within, room⟩
    · exact .inl ⟨error, by simp only [limited]⟩
    · exact .inr (.inr (.inl ⟨passing, room, by simp only [within]⟩))
  · rw [checked]
    simp only [Recovering, resetCountersIfNeeded_state, resetCountersIfNeeded_config,
      resetCountersIfNeeded_lastStateChange] at recovering
    rcases limitCheck_cases ((breaker.resetCountersIfNeeded now).transitionToHalfOpen now) now with
      ⟨⟨error, limited⟩, -⟩ | ⟨within, room⟩
    · exact .inr (.inl ⟨error, recovering, by simp only [limited]⟩)
    · exact .inr (.inr (.inr ⟨recovering, room, by simp only [within]⟩))

theorem canProvision_admits (enabled : breaker.enabled = true)
    (unblocked : breaker.Passing ∨ breaker.Recovering now)
    (room : (breaker.resetCountersIfNeeded now).HasRoom) :
    (breaker.canProvision now).1 = .ok () := by
  unfold canProvision
  rw [if_pos enabled]
  rcases stateCheck_cases (breaker.resetCountersIfNeeded now) now with
    ⟨-, blocked, waiting⟩ | ⟨checked, -⟩ | ⟨checked, -⟩
  · simp only [Passing, Recovering, resetCountersIfNeeded_state, resetCountersIfNeeded_config,
      resetCountersIfNeeded_halfOpenRequests, resetCountersIfNeeded_lastStateChange]
      at blocked waiting
    rcases unblocked with passing | recovering
    · exact absurd passing blocked
    · exact absurd recovering waiting
  · rw [checked]
    rcases limitCheck_cases (breaker.resetCountersIfNeeded now) now with
      ⟨-, full⟩ | ⟨within, -⟩
    · exact absurd room full
    · simp only [within]
  · rw [checked]
    rcases limitCheck_cases ((breaker.resetCountersIfNeeded now).transitionToHalfOpen now) now with
      ⟨-, full⟩ | ⟨within, -⟩
    · exact absurd room full
    · simp only [within]

theorem releaseInstance_eq (breaker : CircuitBreaker) : breaker.releaseInstance =
      { breaker with concurrentInstances :=
          if 0 < breaker.concurrentInstances then breaker.concurrentInstances - 1
          else breaker.concurrentInstances } := by
  unfold releaseInstance
  split <;> rfl

end CircuitBreaker

end KarpenterIBM.Breaker
