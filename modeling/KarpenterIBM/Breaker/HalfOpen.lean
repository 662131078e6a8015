import KarpenterIBM.Breaker.Requests

/-!
# The half-open period

After the recovery timeout a breaker lets a few test requests through and closes on a success.
-/

namespace KarpenterIBM.Breaker

open Machine CircuitBreaker

namespace Observed

/-- A pending result recorded while half-open is of a request of this period. -/
def PendingOfProbe (seen : Observed) (call : Invocation) : Prop :=
  match call.operation with
  | .record request .pending =>
    seen.breaker.state = .halfOpen → ∀ ticket ∈ seen.outstanding,
      ticket.number = request → ticket.period = some seen.period
  | _ => True

instance (seen : Observed) (call : Invocation) : Decidable (seen.PendingOfProbe call) :=
  match op : call.operation with
  | .record request .pending =>
    decidable_of_iff (seen.breaker.state = .halfOpen → ∀ ticket ∈ seen.outstanding,
      ticket.number = request → ticket.period = some seen.period)
      (by simp [PendingOfProbe, op])
  | .record _ .success => isTrue (by simp [PendingOfProbe, op])
  | .record _ (.failure _) => isTrue (by simp [PendingOfProbe, op])
  | .canProvision => isTrue (by simp [PendingOfProbe, op])
  | .getState => isTrue (by simp [PendingOfProbe, op])

structure ProbesCounted (config : CircuitBreakerConfig) (seen : Observed) : Prop where
  configured : seen.breaker.config = config
  enabled : seen.breaker.enabled = true
  /-- No request is of a period that has not begun. -/
  begun : ∀ ticket ∈ seen.outstanding, ∀ period, ticket.period = some period →
    period ≤ seen.period
  counted : seen.breaker.state = .halfOpen → seen.breaker.halfOpenRequests = seen.probes
  bounded : seen.breaker.state = .halfOpen →
    seen.breaker.halfOpenRequests ≤ config.halfOpenMaxRequests

variable {seen : Observed}

theorem probes_halfOpen (state : seen.breaker.state = .halfOpen) :
    seen.probes = seen.outstanding.countP (fun ticket => ticket.period = some seen.period) :=
  if_pos state

theorem countP_unbegun {tickets : List Ticket} {period : Nat}
    (begun : ∀ ticket ∈ tickets, ∀ earlier, ticket.period = some earlier → earlier ≤ period) :
    tickets.countP (fun ticket => ticket.period = some (period + 1)) = 0 := by
  rw [List.countP_eq_zero]
  intro ticket mem
  simp only [decide_eq_true_eq]
  intro same
  have := begun ticket mem (period + 1) same
  omega

theorem ProbesCounted.start (config : CircuitBreakerConfig) (now : Int) :
    ProbesCounted config (Observed.start config now) where
  configured := rfl
  enabled := rfl
  begun := by simp [Observed.start]
  counted := by simp [Observed.start, newCircuitBreaker]
  bounded := by simp [Observed.start, newCircuitBreaker]

section
variable {config : CircuitBreakerConfig} {seen : Observed} {call : Invocation}

theorem ProbesCounted.step_canProvision (positive : 1 ≤ config.halfOpenMaxRequests)
    (inv : ProbesCounted config seen) (op : call.operation = .canProvision) :
    ProbesCounted config (seen.step call) := by
  rcases Observed.step_canProvision op inv.enabled with
    same | ⟨-, same⟩ | ⟨passing, -, same⟩ | ⟨-, -, same⟩
  · rw [same]
    exact ⟨by simpa using inv.configured, by simpa using inv.enabled, inv.begun,
      by simpa [probes] using inv.counted, by simpa using inv.bounded⟩
  · -- a new period begins without a request
    rw [same]
    refine ⟨by simpa [transitionToHalfOpen] using inv.configured,
      by simpa [transitionToHalfOpen] using inv.enabled, ?_, ?_, ?_⟩
    · intro ticket mem period admitted
      exact Nat.le_succ_of_le (inv.begun ticket mem period admitted)
    · intro _
      simp [probes, transitionToHalfOpen, countP_unbegun inv.begun]
    intro _
    simp only [transitionToHalfOpen]
    omega
  · rw [same]
    refine ⟨by simpa [countRequest] using inv.configured,
      by simpa [countRequest] using inv.enabled, ?_, ?_, ?_⟩
    · intro ticket mem period admitted
      rcases List.mem_cons.mp mem with rfl | earlier
      · by_cases half : seen.breaker.state = .halfOpen
        · simp only [half, if_true, Option.some.injEq] at admitted
          exact Nat.le_of_eq admitted.symm
        · simp [half] at admitted
      · exact inv.begun ticket earlier period admitted
    · intro half
      have halfBefore : seen.breaker.state = .halfOpen := by simpa [countRequest] using half
      have counted := inv.counted halfBefore
      rw [probes_halfOpen halfBefore] at counted
      simp [probes, countRequest, halfBefore, counted]
    · intro half
      have halfBefore : seen.breaker.state = .halfOpen := by simpa [countRequest] using half
      rcases passing with closed | ⟨-, below⟩
      · cases halfBefore.symm.trans closed
      rw [inv.configured] at below
      simp only [countRequest, resetCountersIfNeeded_state, halfBefore,
        if_true, resetCountersIfNeeded_halfOpenRequests]
      omega
  · -- a new period begins with its first request
    rw [same]
    refine ⟨by simpa [countRequest, transitionToHalfOpen] using inv.configured,
      by simpa [countRequest, transitionToHalfOpen] using inv.enabled,
      ?_, ?_, ?_⟩
    · intro ticket mem period admitted
      rcases List.mem_cons.mp mem with rfl | earlier
      · exact Nat.le_of_eq (Option.some.inj admitted).symm
      · exact Nat.le_succ_of_le (inv.begun ticket earlier period admitted)
    · intro _
      simp [probes, countRequest, transitionToHalfOpen, countP_unbegun inv.begun]
    · intro _
      simpa [countRequest, transitionToHalfOpen] using positive

theorem ProbesCounted.step_record {request : Nat} {out : Outcome}
    (inv : ProbesCounted config seen) (op : call.operation = .record request out)
    (once : seen.RecordsOnce call) (pending : seen.PendingOfProbe call) :
    ProbesCounted config (seen.step call) := by
  rw [Observed.step_record op]
  have begun : ∀ ticket ∈ seen.outstanding.eraseP (fun ticket => ticket.number = request),
      ∀ period, ticket.period = some period → period ≤ seen.period := fun ticket mem =>
    inv.begun ticket (List.mem_of_mem_eraseP mem)
  have remaining : ∀ state : (seen.breaker.record call.now call.nodeClass call.region
      out).state = .halfOpen,
      (seen.breaker.record call.now call.nodeClass call.region out).halfOpenRequests =
        (seen.outstanding.eraseP (fun ticket => ticket.number = request)).countP
          (fun ticket => ticket.period = some seen.period) ∧
      (seen.breaker.record call.now call.nodeClass call.region out).halfOpenRequests ≤
        config.halfOpenMaxRequests := by
    intro half
    have halfBefore := halfOpen_of_record half
    cases out with
    | success => exact absurd half (recordSuccess_state_ne inv.enabled)
    | failure error => exact absurd half (recordFailure_state_ne inv.enabled)
    | pending =>
      simp only [RecordsOnce, op] at once
      simp only [PendingOfProbe, op] at pending
      obtain ⟨ticket, mem, numbered⟩ := once
      have erased := countP_eraseP_of_mem (fun ticket => ticket.period = some seen.period)
        (fun ticket => ticket.number = request) mem (by simpa using numbered)
        (by simpa using pending halfBefore)
      have counted := inv.counted halfBefore
      have bounded := inv.bounded halfBefore
      rw [probes_halfOpen halfBefore] at counted
      simp only [record, recordPending_halfOpenRequests halfBefore]
      split <;> omega
  refine ⟨by simpa using inv.configured, by simpa using inv.enabled, begun, ?_, ?_⟩
  · intro half
    rw [probes_halfOpen half]
    exact (remaining half).1
  · exact fun half => (remaining half).2

theorem ProbesCounted.step (positive : 1 ≤ config.halfOpenMaxRequests)
    (inv : ProbesCounted config seen) (once : seen.RecordsOnce call)
    (pending : seen.PendingOfProbe call) : ProbesCounted config (seen.step call) := by
  cases op : call.operation with
  | getState =>
    rw [step_getState op]
    exact ⟨inv.configured, inv.enabled, inv.begun, inv.counted, inv.bounded⟩
  | canProvision => exact inv.step_canProvision positive op
  | record request out => exact inv.step_record op once pending

end

/-- In every run in which no pending result of an earlier request arrives while the
circuit is half-open, the test requests stay within their limit. -/
theorem probes_within_limit (config : CircuitBreakerConfig)
    (positive : 1 ≤ config.halfOpenMaxRequests) (now : Int) (calls : List Invocation)
    (along : Along step (fun seen call => seen.RecordsOnce call ∧ seen.PendingOfProbe call)
      (Observed.start config now) calls) :
    ((run step (Observed.start config now) calls).probes : Int) ≤ config.halfOpenMaxRequests := by
  have inv := invariant_run (fun seen call (inv : ProbesCounted config seen) allowed =>
      inv.step positive allowed.1 allowed.2)
    (ProbesCounted.start config now) along
  by_cases half : (run step (Observed.start config now) calls).breaker.state = .halfOpen
  · rw [← inv.counted half]
    exact inv.bounded half
  · rw [probes, if_neg half]
    omega

/-- One failure opens the circuit and one test request is allowed. -/
def strictConfig : CircuitBreakerConfig :=
  { defaultCircuitBreakerConfig with failureThreshold := 1, halfOpenMaxRequests := 1 }

/-- The call of a sample run for one NodeClass. -/
def sampleCall (now : Int) (operation : Operation) : Invocation :=
  ⟨now, "pool", "us-south", operation⟩

/-- Two requests are admitted; the second fails and opens the circuit.  After the
recovery timeout a test request is admitted. -/
def outage : List Invocation :=
  [sampleCall 0 .canProvision, sampleCall second .canProvision,
    sampleCall (2 * second) (.record 1 (.failure "quota exceeded")),
    sampleCall (20 * minute) .canProvision]

theorem probes_within_limit_outage :
    ((run step (Observed.start strictConfig 0) outage).probes : Int) ≤ 1 :=
  probes_within_limit strictConfig (by decide) 0 outage (by decide)

/-- The first request turns out to be pending, and a second test request is admitted. -/
theorem late_pending_admits_second_probe : Along step RecordsOnce (Observed.start strictConfig 0)
        (outage ++ [sampleCall (20 * minute + second) (.record 0 .pending),
          sampleCall (20 * minute + 2 * second) .canProvision]) ∧
      strictConfig.halfOpenMaxRequests = 1 ∧
      (run step (Observed.start strictConfig 0)
        (outage ++ [sampleCall (20 * minute + second) (.record 0 .pending),
          sampleCall (20 * minute + 2 * second) .canProvision])).probes = 2 := by
  decide

/-! ## Closing -/

/-- The circuit goes half-open with no admitted request unrecorded. -/
def NoneWaiting (seen : Observed) (call : Invocation) : Prop :=
  call.operation = .canProvision → seen.breaker.Recovering call.now → seen.outstanding = []

instance (seen : Observed) (call : Invocation) : Decidable (seen.NoneWaiting call) :=
  inferInstanceAs (Decidable (_ → _ → _))

/-- If this call closes a half-open circuit, it records the success of a request that
was admitted during that period. -/
def ClosedByProbe (seen : Observed) (call : Invocation) : Prop :=
  seen.breaker.state = .halfOpen → (seen.step call).breaker.state = .closed →
    ∃ ticket ∈ seen.outstanding, call.operation = .record ticket.number .success ∧
      ticket.period = some seen.period

instance (seen : Observed) (call : Invocation) : Decidable (seen.ClosedByProbe call) :=
  inferInstanceAs (Decidable (_ → _ → ∃ ticket ∈ seen.outstanding, _ ∧ _))

structure AllProbes (seen : Observed) : Prop where
  enabled : seen.breaker.enabled = true
  ofPeriod : seen.breaker.state = .halfOpen → ∀ ticket ∈ seen.outstanding,
    ticket.period = some seen.period

theorem AllProbes.step {call : Invocation} (inv : AllProbes seen)
    (waiting : seen.NoneWaiting call) : AllProbes (seen.step call) := by
  cases op : call.operation with
  | getState =>
    rw [step_getState op]
    exact ⟨inv.enabled, inv.ofPeriod⟩
  | canProvision =>
    rcases Observed.step_canProvision op inv.enabled with
      same | ⟨recovering, same⟩ | ⟨-, -, same⟩ | ⟨recovering, -, same⟩
    · rw [same]
      exact ⟨by simpa using inv.enabled, by simpa using inv.ofPeriod⟩
    · rw [same]
      refine ⟨by simpa [transitionToHalfOpen] using inv.enabled, ?_⟩
      simp [waiting op recovering]
    · rw [same]
      refine ⟨by simpa [countRequest] using inv.enabled, ?_⟩
      intro half
      have halfBefore : seen.breaker.state = .halfOpen := by simpa [countRequest] using half
      simpa [halfBefore] using inv.ofPeriod halfBefore
    · rw [same]
      refine ⟨by simpa [countRequest, transitionToHalfOpen] using inv.enabled, ?_⟩
      simp [waiting op recovering]
  | record request out =>
    rw [Observed.step_record op]
    refine ⟨by simpa using inv.enabled, fun half ticket mem => ?_⟩
    exact inv.ofPeriod (halfOpen_of_record half) ticket (List.mem_of_mem_eraseP mem)

theorem closes_only_on_success {call : Invocation} (enabled : seen.breaker.enabled = true)
    (half : seen.breaker.state = .halfOpen) (closed : (seen.step call).breaker.state = .closed) :
    ∃ request, call.operation = .record request .success := by
  cases op : call.operation with
  | getState =>
    rw [step_getState op, half] at closed
    cases closed
  | canProvision =>
    rcases Observed.step_canProvision op enabled with
      same | ⟨-, same⟩ | ⟨-, -, same⟩ | ⟨-, -, same⟩ <;>
      · rw [same] at closed
        simp [countRequest, transitionToHalfOpen, half] at closed
  | record request out =>
    rw [Observed.step_record op] at closed
    cases out with
    | success => exact ⟨request, rfl⟩
    | failure error =>
      have opens := recordFailure_halfOpen call.now call.nodeClass call.region error enabled half
      simp only [record] at closed
      cases opens.symm.trans closed
    | pending =>
      simp only [record, recordPending_state, half] at closed
      cases closed

/-- In every run in which the circuit goes half-open only when all earlier requests are
recorded, a half-open circuit is closed only by the success of one of its own test
requests. -/
theorem only_probes_close (config : CircuitBreakerConfig) (now : Int) (calls : List Invocation)
    (along : Along step (fun seen call => seen.RecordsOnce call ∧ seen.NoneWaiting call)
      (Observed.start config now) calls) :
    Along step ClosedByProbe (Observed.start config now) calls := by
  refine along_of_invariant (fun seen call (inv : AllProbes seen) allowed => inv.step allowed.2)
    (fun seen call inv allowed half closed => ?_)
    ⟨rfl, by simp [Observed.start]⟩ along
  obtain ⟨request, op⟩ := closes_only_on_success inv.enabled half closed
  have once := allowed.1
  simp only [RecordsOnce, op] at once
  obtain ⟨ticket, member, rfl⟩ := once
  exact ⟨ticket, member, op, inv.ofPeriod half ticket member⟩

/-- The first request is recorded in time, and the test request closes the circuit. -/
theorem only_probes_close_outage : Along step ClosedByProbe (Observed.start strictConfig 0)
      [sampleCall 0 .canProvision, sampleCall second (.record 0 (.failure "quota exceeded")),
        sampleCall (20 * minute) .canProvision,
        sampleCall (20 * minute + second) (.record 1 .success)] :=
  only_probes_close strictConfig 0 _ (by decide)

/-- The success of the first request, admitted before the outage, closes the half-open
circuit while the test request is still running. -/
theorem late_success_closes_circuit : Along step RecordsOnce (Observed.start strictConfig 0)
        (outage ++ [sampleCall (20 * minute + second) (.record 0 .success)]) ∧
      (run step (Observed.start strictConfig 0) outage).breaker.state = .halfOpen ∧
      (run step (Observed.start strictConfig 0)
        (outage ++ [sampleCall (20 * minute + second) (.record 0 .success)])).breaker.state =
          .closed ∧
      ¬ Along step ClosedByProbe (Observed.start strictConfig 0)
        (outage ++ [sampleCall (20 * minute + second) (.record 0 .success)]) := by
  decide

end Observed

end KarpenterIBM.Breaker
