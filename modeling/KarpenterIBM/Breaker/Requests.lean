import KarpenterIBM.Breaker.CircuitBreaker
import KarpenterIBM.Lib.Machine

/-!
# Requests to one circuit breaker

The records of a breaker carry no identity: a success, a failure or a pending result says
nothing about the request it belongs to.
-/

namespace KarpenterIBM.Breaker

inductive Outcome where
  | success
  | failure (error : String)
  | pending
deriving DecidableEq

inductive Operation where
  | canProvision
  | record (request : Nat) (outcome : Outcome)
  | getState
deriving DecidableEq

structure Invocation where
  now : Int
  nodeClass : String
  region : String
  operation : Operation
deriving DecidableEq

inductive Answer where
  | provision (result : Except ProvisionError Unit)
  | recorded
  | status (status : CircuitBreakerStatus)

def Answer.admits : Answer → Bool
  | .provision (.ok ()) => true
  | _ => false

/-- The record a caller makes of an outcome. -/
def CircuitBreaker.record (breaker : CircuitBreaker) (now : Int) (nodeClass region : String) :
    Outcome → CircuitBreaker
  | .success => breaker.recordSuccess now
  | .failure error => breaker.recordFailure now nodeClass region error
  | .pending => breaker.recordPending

def perform (breaker : CircuitBreaker) (call : Invocation) : Answer × CircuitBreaker :=
  match call.operation with
  | .canProvision =>
    (.provision (breaker.canProvision call.now).1, (breaker.canProvision call.now).2)
  | .record _ outcome =>
    (.recorded, breaker.record call.now call.nodeClass call.region outcome)
  | .getState => (.status (breaker.getState call.now), breaker)

namespace CircuitBreaker

variable {breaker : CircuitBreaker} {now : Int} {nodeClass region : String} {out : Outcome}

theorem openIfNeeded_cases (breaker : CircuitBreaker) (now : Int) :
    breaker.openIfNeeded now = breaker.transitionToOpen now ∨
      breaker.openIfNeeded now = breaker ∧ breaker.state ≠ .halfOpen := by
  unfold openIfNeeded
  split
  · by_cases open_already : breaker.state = .opened
    · exact .inr ⟨by simp [open_already], by simp [open_already]⟩
    · exact .inl (if_pos open_already)
  split
  · exact .inl rfl
  · rename_i elsewhere
    exact .inr ⟨rfl, elsewhere⟩

theorem recordSuccess_state_ne (enabled : breaker.enabled = true) :
    (breaker.recordSuccess now).state ≠ .halfOpen := by
  unfold recordSuccess
  rw [if_pos enabled]
  dsimp only
  split
  · simp [transitionToClosed]
  · assumption

theorem recordFailure_state_ne {error : String} (enabled : breaker.enabled = true) :
    (breaker.recordFailure now nodeClass region error).state ≠ .halfOpen := by
  unfold recordFailure
  rw [if_pos enabled]
  dsimp only
  rcases openIfNeeded_cases ((breaker.releaseInstance.appendFailure
    ⟨now, error, nodeClass, region⟩).cleanOldFailures now) now with opens | ⟨stays, elsewhere⟩
  · rw [opens]
    simp [transitionToOpen]
  · rw [stays]
    exact elsewhere

theorem recordFailure_halfOpen (now : Int) (nodeClass region error : String)
    (enabled : breaker.enabled = true) (half : breaker.state = .halfOpen) :
    (breaker.recordFailure now nodeClass region error).state = .opened := by
  unfold recordFailure
  rw [if_pos enabled, releaseInstance_eq]
  dsimp only
  rcases openIfNeeded_cases _ now with opens | ⟨-, elsewhere⟩
  · rw [opens]
    rfl
  · exact absurd half elsewhere

theorem recordPending_state : breaker.recordPending.state = breaker.state := by
  unfold recordPending
  rw [releaseInstance_eq]
  dsimp only
  split <;> rfl

theorem recordPending_halfOpenRequests (state : breaker.state = .halfOpen) :
    breaker.recordPending.halfOpenRequests =
      if 0 < breaker.halfOpenRequests then breaker.halfOpenRequests - 1
      else breaker.halfOpenRequests := by
  unfold recordPending
  rw [releaseInstance_eq]
  dsimp only
  by_cases counted : 0 < breaker.halfOpenRequests
  · rw [if_pos ⟨state, counted⟩, if_pos counted]
  · rw [if_neg (fun both => counted both.2), if_neg counted]

theorem openIfNeeded_frame (breaker : CircuitBreaker) (now : Int) :
    ∃ state last half summary, breaker.openIfNeeded now =
      { breaker with
        state := state
        lastStateChange := last
        halfOpenRequests := half
        openFailureSummary := summary } := by
  rcases openIfNeeded_cases breaker now with opens | ⟨stays, -⟩
  · exact ⟨_, _, _, _, opens⟩
  · exact ⟨_, _, _, _, stays⟩

theorem record_frame (breaker : CircuitBreaker) (now : Int) (nodeClass region : String)
    (out : Outcome) :
    ∃ state failures last half concurrent summary, breaker.record now nodeClass region out =
        { breaker with
          state := state
          failures := failures
          lastStateChange := last
          halfOpenRequests := half
          concurrentInstances := concurrent
          openFailureSummary := summary } := by
  cases out with
  | success =>
    simp only [record, recordSuccess, releaseInstance_eq]
    split
    · split <;> exact ⟨_, _, _, _, _, _, rfl⟩
    · exact ⟨_, _, _, _, _, _, rfl⟩
  | failure error =>
    simp only [record, recordFailure, releaseInstance_eq]
    split
    · obtain ⟨state, last, half, summary, same⟩ := openIfNeeded_frame _ now
      exact ⟨_, _, _, _, _, _, same⟩
    · exact ⟨_, _, _, _, _, _, rfl⟩
  | pending =>
    simp only [record, recordPending, releaseInstance_eq]
    split <;> exact ⟨_, _, _, _, _, _, rfl⟩

@[simp] theorem record_config :
    (breaker.record now nodeClass region out).config = breaker.config := by
  obtain ⟨_, _, _, _, _, _, same⟩ := record_frame breaker now nodeClass region out
  rw [same]

@[simp] theorem record_enabled :
    (breaker.record now nodeClass region out).enabled = breaker.enabled := by
  obtain ⟨_, _, _, _, _, _, same⟩ := record_frame breaker now nodeClass region out
  rw [same]

theorem record_concurrentInstances (enabled : breaker.enabled = true) :
    (breaker.record now nodeClass region out).concurrentInstances =
      if 0 < breaker.concurrentInstances then breaker.concurrentInstances - 1
      else breaker.concurrentInstances := by
  cases out with
  | success =>
    simp only [record, recordSuccess, releaseInstance_eq, enabled, if_true]
    split <;> rfl
  | failure error =>
    simp only [record, recordFailure, releaseInstance_eq, enabled, if_true]
    obtain ⟨_, _, _, _, same⟩ := openIfNeeded_frame _ now
    rw [same]
    rfl
  | pending =>
    simp only [record, recordPending, releaseInstance_eq]
    split <;> rfl

section
variable (now) (enabled : breaker.enabled = true)

include now enabled

theorem canProvision_concurrentInstances : ((breaker.canProvision now).1 = .ok () ∧
        breaker.concurrentInstances < breaker.config.maxConcurrentInstances ∧
        (breaker.canProvision now).2.concurrentInstances = breaker.concurrentInstances + 1) ∨
      (breaker.canProvision now).1 ≠ .ok () ∧
        (breaker.canProvision now).2.concurrentInstances = breaker.concurrentInstances := by
  rcases canProvision_cases now enabled with
    ⟨error, same⟩ | ⟨error, -, same⟩ | ⟨-, room, same⟩ | ⟨-, room, same⟩
  · rw [same]
    exact .inr ⟨by simp, by simp⟩
  · rw [same]
    exact .inr ⟨by simp, by simp [transitionToHalfOpen]⟩
  · rw [same]
    exact .inl ⟨rfl, by simpa using room.2, by simp [countRequest]⟩
  · rw [same]
    exact .inl ⟨rfl, by simpa using room.2, by simp [countRequest, transitionToHalfOpen]⟩

theorem canProvision_config : (breaker.canProvision now).2.config = breaker.config := by
  rcases canProvision_cases now enabled with
    ⟨_, same⟩ | ⟨_, -, same⟩ | ⟨-, -, same⟩ | ⟨-, -, same⟩ <;>
    · rw [same]
      simp [countRequest, transitionToHalfOpen]

theorem canProvision_enabled : (breaker.canProvision now).2.enabled = true := by
  rcases canProvision_cases now enabled with
    ⟨_, same⟩ | ⟨_, -, same⟩ | ⟨-, -, same⟩ | ⟨-, -, same⟩ <;>
    · rw [same]
      simpa [countRequest, transitionToHalfOpen] using enabled

end

@[simp] theorem record_instancesThisMinute :
    (breaker.record now nodeClass region out).instancesThisMinute =
      breaker.instancesThisMinute := by
  obtain ⟨_, _, _, _, _, _, same⟩ := record_frame breaker now nodeClass region out
  rw [same]

@[simp] theorem record_lastMinuteReset :
    (breaker.record now nodeClass region out).lastMinuteReset = breaker.lastMinuteReset := by
  obtain ⟨_, _, _, _, _, _, same⟩ := record_frame breaker now nodeClass region out
  rw [same]

theorem record_failures_of_ne (quiet : ∀ error, out ≠ .failure error) :
    (breaker.record now nodeClass region out).failures = breaker.failures := by
  cases out with
  | success =>
    simp only [record, recordSuccess, releaseInstance_eq]
    split
    · split <;> rfl
    · rfl
  | failure error => exact absurd rfl (quiet error)
  | pending =>
    simp only [record, recordPending, releaseInstance_eq]
    split <;> rfl

theorem recordFailure_failures (now : Int) (nodeClass region error : String)
    (enabled : breaker.enabled = true) :
    (breaker.recordFailure now nodeClass region error).failures =
      (breaker.failures ++ [(⟨now, error, nodeClass, region⟩ : FailureRecord)]).filter
        (recent breaker.config.failureWindow now) := by
  simp only [recordFailure, releaseInstance_eq, if_pos enabled]
  obtain ⟨_, _, _, _, same⟩ := openIfNeeded_frame _ now
  rw [same]
  rfl

theorem recordFailure_state_cases (now : Int) (nodeClass region error : String)
    (enabled : breaker.enabled = true) :
    (breaker.recordFailure now nodeClass region error).state = .opened ∧
        (breaker.recordFailure now nodeClass region error).lastStateChange = now ∨
      (breaker.recordFailure now nodeClass region error).state = breaker.state ∧
        (breaker.recordFailure now nodeClass region error).lastStateChange =
          breaker.lastStateChange := by
  simp only [recordFailure, enabled, if_true, releaseInstance_eq]
  rcases openIfNeeded_cases _ now with opens | ⟨stays, -⟩
  · rw [opens]
    exact .inl ⟨rfl, rfl⟩
  · rw [stays]
    exact .inr ⟨rfl, rfl⟩

theorem record_lastStateChange (breaker : CircuitBreaker) (now : Int)
    (nodeClass region : String) (out : Outcome) :
    (breaker.record now nodeClass region out).lastStateChange = now ∨
      (breaker.record now nodeClass region out).lastStateChange = breaker.lastStateChange := by
  cases out with
  | success =>
    simp only [record, recordSuccess, releaseInstance_eq]
    split
    · split
      · exact .inl rfl
      · exact .inr rfl
    · exact .inr rfl
  | failure error =>
    cases enabled : breaker.enabled with
    | false => exact .inr (by simp [record, recordFailure, enabled])
    | true =>
      exact (recordFailure_state_cases now nodeClass region error enabled).imp
        (fun opened => opened.2) (fun kept => kept.2)
  | pending =>
    simp only [record, recordPending, releaseInstance_eq]
    split <;> exact .inr rfl

theorem openIfNeeded_of_opened (opened : breaker.state = .opened) :
    breaker.openIfNeeded now = breaker := by
  unfold openIfNeeded
  simp [opened]

theorem halfOpen_of_record (entered : (breaker.record now nodeClass region out).state = .halfOpen) :
    breaker.state = .halfOpen := by
  cases enabled : breaker.enabled with
  | false =>
    cases out with
    | success => simpa [record, recordSuccess, enabled] using entered
    | failure error => simpa [record, recordFailure, enabled] using entered
    | pending => exact recordPending_state.symm.trans entered
  | true =>
    cases out with
    | success => exact absurd entered (recordSuccess_state_ne enabled)
    | failure error => exact absurd entered (recordFailure_state_ne enabled)
    | pending => exact recordPending_state.symm.trans entered

end CircuitBreaker

theorem countP_eraseP_of_mem {α : Type} {tickets : List α} (counts erased : α → Bool)
    {ticket : α} (mem : ticket ∈ tickets) (picked : erased ticket = true)
    (all : ∀ other ∈ tickets, erased other = true → counts other = true) :
    (tickets.eraseP erased).countP counts + 1 = tickets.countP counts := by
  obtain ⟨found, before, later, -, foundErased, split, rest⟩ := List.exists_of_eraseP mem picked
  have foundMember : found ∈ tickets := by
    rw [split]
    simp
  have foundCounts := all found foundMember foundErased
  rw [rest, split, List.countP_append, List.countP_append, List.countP_cons, foundCounts]
  simp only [if_true]
  omega

structure Ticket where
  number : Nat
  period : Option Nat
deriving DecidableEq

/-- A breaker and what an observer of its calls has seen. -/
structure Observed where
  breaker : CircuitBreaker
  /-- The time of the last call. -/
  clock : Int
  /-- How often the circuit has gone half-open. -/
  period : Nat
  /-- How many requests were admitted. -/
  issued : Nat
  /-- The admitted requests that are not recorded yet. -/
  outstanding : List Ticket
  /-- The times at which requests were admitted, the last first. -/
  admissions : List Int
  /-- Every failure recorded, the first first. -/
  history : List FailureRecord

def Observed.start (config : CircuitBreakerConfig) (now : Int) : Observed where
  breaker := newCircuitBreaker (some config) now
  clock := now
  period := 0
  issued := 0
  outstanding := []
  admissions := []
  history := []

variable (seen : Observed)

namespace Observed

def after (call : Invocation) : CircuitBreaker :=
  (Breaker.perform seen.breaker call).2

def admits (call : Invocation) : Bool :=
  (Breaker.perform seen.breaker call).1.admits

def periodAfter (call : Invocation) : Nat :=
  if seen.breaker.state ≠ .halfOpen ∧ (seen.after call).state = .halfOpen then seen.period + 1
  else seen.period

def ticket (call : Invocation) : Ticket where
  number := seen.issued
  period := if (seen.after call).state = .halfOpen then some (seen.periodAfter call) else none

def outstandingAfter (call : Invocation) : List Ticket :=
  match call.operation with
  | .canProvision =>
    if seen.admits call then seen.ticket call :: seen.outstanding else seen.outstanding
  | .record request _ => seen.outstanding.eraseP (fun ticket => ticket.number = request)
  | .getState => seen.outstanding

def historyAfter (call : Invocation) : List FailureRecord :=
  match call.operation with
  | .record _ (.failure error) =>
    seen.history ++ [⟨call.now, error, call.nodeClass, call.region⟩]
  | _ => seen.history

def step (call : Invocation) : Observed where
  breaker := seen.after call
  clock := call.now
  period := seen.periodAfter call
  issued := if seen.admits call then seen.issued + 1 else seen.issued
  outstanding := seen.outstandingAfter call
  admissions := if seen.admits call then call.now :: seen.admissions else seen.admissions
  history := seen.historyAfter call

/-- Calls come at nondecreasing times. -/
def Ordered (call : Invocation) : Prop :=
  seen.clock ≤ call.now

/-- A record is made of an admitted request that was not recorded before. -/
def RecordsOnce (call : Invocation) : Prop :=
  match call.operation with
  | .record request _ => ∃ ticket ∈ seen.outstanding, ticket.number = request
  | _ => True

instance (seen : Observed) (call : Invocation) : Decidable (seen.Ordered call) :=
  inferInstanceAs (Decidable (_ ≤ _))

instance (seen : Observed) (call : Invocation) : Decidable (seen.RecordsOnce call) :=
  match op : call.operation with
  | .record request _ =>
    decidable_of_iff (∃ ticket ∈ seen.outstanding, ticket.number = request)
      (by simp [RecordsOnce, op])
  | .canProvision => isTrue (by simp [RecordsOnce, op])
  | .getState => isTrue (by simp [RecordsOnce, op])

/-- The requests admitted during the current half-open period and not yet recorded. -/
def probes : Nat :=
  if seen.breaker.state = .halfOpen then
    seen.outstanding.countP (fun ticket => ticket.period = some seen.period)
  else 0

/-! ## Steps -/

variable {seen : Observed} {call : Invocation}

theorem step_getState (op : call.operation = .getState) :
    seen.step call = { seen with clock := call.now } := by
  have unmoved : seen.after call = seen.breaker := by simp [after, perform, op]
  have refused : seen.admits call = false := by simp [admits, perform, op, Answer.admits]
  simp [step, unmoved, refused, periodAfter, outstandingAfter, historyAfter, op]

theorem after_record {request : Nat} {outcome : Outcome}
    (op : call.operation = .record request outcome) :
    seen.after call = seen.breaker.record call.now call.nodeClass call.region outcome := by
  simp [after, perform, op]

theorem admits_record {request : Nat} {result : Outcome}
    (op : call.operation = .record request result) : seen.admits call = false := by
  simp [admits, perform, op, Answer.admits]

section
variable (op : call.operation = .canProvision)

include op

theorem after_canProvision : seen.after call = (seen.breaker.canProvision call.now).2 := by
  simp [after, perform, op]

theorem admits_canProvision :
    seen.admits call = true ↔ (seen.breaker.canProvision call.now).1 = .ok () := by
  simp only [admits, perform, op]
  rcases (seen.breaker.canProvision call.now).1 with error | ⟨⟩ <;> simp [Answer.admits]

theorem admits_of_ok (ok : (seen.breaker.canProvision call.now).1 = .ok ()) :
    seen.admits call = true :=
  (admits_canProvision op).mpr ok

theorem not_admits_of_error {error : ProvisionError}
    (failed : (seen.breaker.canProvision call.now).1 = .error error) :
    seen.admits call = false := by
  rw [← Bool.not_eq_true, admits_canProvision op, failed]
  exact fun no => by cases no

/-- Everything a `CanProvision` call can do. -/
theorem step_canProvision (enabled : seen.breaker.enabled = true) : seen.step call =
        { seen with
          breaker := seen.breaker.resetCountersIfNeeded call.now
          clock := call.now } ∨
      (seen.breaker.Recovering call.now ∧ seen.step call =
        { seen with
          breaker := (seen.breaker.resetCountersIfNeeded call.now).transitionToHalfOpen call.now
          clock := call.now
          period := seen.period + 1 }) ∨
      (seen.breaker.Passing ∧ (seen.breaker.resetCountersIfNeeded call.now).HasRoom ∧
        seen.step call =
          { seen with
            breaker := (seen.breaker.resetCountersIfNeeded call.now).countRequest
            clock := call.now
            issued := seen.issued + 1
            outstanding :=
              ⟨seen.issued, if seen.breaker.state = .halfOpen then some seen.period else none⟩ ::
                seen.outstanding
            admissions := call.now :: seen.admissions }) ∨
      (seen.breaker.Recovering call.now ∧
        (seen.breaker.resetCountersIfNeeded call.now).HasRoom ∧ seen.step call =
          { seen with
            breaker :=
              ((seen.breaker.resetCountersIfNeeded call.now).transitionToHalfOpen
                call.now).countRequest
            clock := call.now
            period := seen.period + 1
            issued := seen.issued + 1
            outstanding := ⟨seen.issued, some (seen.period + 1)⟩ :: seen.outstanding
            admissions := call.now :: seen.admissions }) := by
  rcases CircuitBreaker.canProvision_cases call.now enabled with
    ⟨error, blocked⟩ | ⟨error, recovering, blocked⟩ | ⟨passing, room, admitted⟩ |
      ⟨recovering, room, admitted⟩
  · left
    have refused := not_admits_of_error op (congrArg Prod.fst blocked)
    simp [step, refused, after_canProvision op, blocked, periodAfter, outstandingAfter,
      historyAfter, op]
  · right; left
    have refused := not_admits_of_error op (congrArg Prod.fst blocked)
    simp [step, refused, after_canProvision op, blocked, periodAfter, outstandingAfter,
      historyAfter, op, recovering, recovering.1, CircuitBreaker.transitionToHalfOpen]
  · right; right; left
    have accepted := admits_of_ok op (congrArg Prod.fst admitted)
    simp [step, accepted, after_canProvision op, admitted, periodAfter, outstandingAfter,
      historyAfter, op, passing, room, CircuitBreaker.countRequest, ticket]
  right; right; right
  have accepted := admits_of_ok op (congrArg Prod.fst admitted)
  simp [step, accepted, after_canProvision op, admitted, periodAfter, outstandingAfter,
    historyAfter, op, recovering, recovering.1, room, CircuitBreaker.countRequest, ticket,
    CircuitBreaker.transitionToHalfOpen]

end

theorem step_record {request : Nat} {result : Outcome}
    (op : call.operation = .record request result) :
    seen.step call =
      { seen with
        breaker := seen.breaker.record call.now call.nodeClass call.region result
        clock := call.now
        outstanding := seen.outstanding.eraseP (fun ticket => ticket.number = request)
        history := seen.historyAfter call } := by
  have same : seen.periodAfter call = seen.period := by
    unfold periodAfter
    rw [after_record op]
    refine if_neg ?_
    rintro ⟨before, entered⟩
    exact before (CircuitBreaker.halfOpen_of_record entered)
  simp [step, admits_record op, after_record op, same, outstandingAfter, op]

end Observed

end KarpenterIBM.Breaker
