import KarpenterIBM.Breaker.ManagerRuns
import Mathlib.Data.List.ReduceOption

/-!
# Breakers of different pairs do not interfere

What a pair sees of a run of the manager is its own calls and the moments when the cleanup drops
its breaker.
-/

namespace KarpenterIBM.Breaker

open Machine NodeClassCircuitBreakerManager

inductive PairEvent where
  | dropped
  | asked (now : Int)
  | recorded (now : Int) (outcome : Outcome)
  | reset (now : Int)
deriving DecidableEq

abbrev Verdict : Type := Except ProvisionError Unit

section
variable (config : Option CircuitBreakerConfig) (pair : Pair)

def serve : Option CircuitBreaker → PairEvent → Option Verdict × Option CircuitBreaker
  | _, .dropped => (none, none)
  | breaker, .asked now =>
    match config with
    | none => (some (.ok ()), breaker)
    | some settings =>
      let found := breaker.getD (newCircuitBreaker (some settings) now)
      (some (found.canProvision now).1, some (found.canProvision now).2)
  | breaker, .recorded now (.failure error) =>
    match config with
    | none => (none, breaker)
    | some settings =>
      let found := breaker.getD (newCircuitBreaker (some settings) now)
      (none, some (found.recordFailure now pair.nodeClass pair.region.text error))
  | breaker, .recorded now .success =>
    match config with
    | none => (none, breaker)
    | some _ => (none, breaker.map fun found => found.recordSuccess now)
  | breaker, .recorded _ .pending =>
    match config with
    | none => (none, breaker)
    | some _ => (none, breaker.map fun found => found.recordPending)
  | breaker, .reset now =>
    match config with
    | none => (none, breaker)
    | some settings => (none, breaker.map fun _ => newCircuitBreaker (some settings) now)

def servedVerdicts (breaker : Option CircuitBreaker) (events : List PairEvent) : List Verdict :=
  (answers (serve config pair) breaker events).reduceOption

/-- The breaker after these events. -/
def served (breaker : Option CircuitBreaker) (events : List PairEvent) : Option CircuitBreaker :=
  run (fun breaker event => (serve config pair breaker event).2) breaker events

theorem servedVerdicts_append (cb : Option CircuitBreaker) (first later : List PairEvent) :
    servedVerdicts config pair cb (first ++ later) = servedVerdicts config pair cb first ++
        servedVerdicts config pair (served config pair cb first) later := by
  rw [servedVerdicts, answers_append, List.reduceOption_append]
  rfl

end

namespace NodeClassCircuitBreakerManager

variable (manager : NodeClassCircuitBreakerManager) (pair : Pair) (call : ManagerCall)

def dropsBreaker : Bool :=
  decide (call.operation = .canProvision) && manager.config.isSome &&
    decide (manager.cleanupInterval ≤ call.now - manager.lastCleanup) &&
    (manager.breakers pair.key).any (unused call.now)

def ownEvents : List PairEvent :=
  match call.operation with
  | .canProvision => [.asked call.now]
  | .record _ outcome => [.recorded call.now outcome]
  | .resetNodeClass => [.reset call.now]
  | .getState => []

def eventsOf : List PairEvent :=
  (if manager.dropsBreaker pair call then [.dropped] else []) ++
    if call.pair = pair then ownEvents call else []

/-- What the pair sees of a run. -/
def view : NodeClassCircuitBreakerManager → List ManagerCall → List PairEvent
  | _, [] => []
  | manager, call :: rest => manager.eventsOf pair call ++ view (manager.after call) rest

def verdictOf : List Verdict :=
  match call.operation with
  | .canProvision =>
    if call.pair = pair then
      [(manager.canProvision call.now call.pair.nodeClass call.pair.region.text).1]
    else []
  | _ => []

/-- The admission verdicts a run gives the pair. -/
def verdicts : NodeClassCircuitBreakerManager → List ManagerCall → List Verdict
  | _, [] => []
  | manager, call :: rest => manager.verdictOf pair call ++ verdicts (manager.after call) rest

end NodeClassCircuitBreakerManager

section
variable {manager : NodeClassCircuitBreakerManager} {pair : Pair} {call : ManagerCall}

def watching (manager : NodeClassCircuitBreakerManager) : Watched where
  manager := manager
  clock := 0
  issued := 0
  outstanding := []
  openings := []
  touched := []

theorem cleaned_breaker (pair : Pair) (asks : call.operation = .canProvision)
    (enabled : manager.config.isSome = true) :
    (manager.cleanupUnusedBreakersIfNeeded call.now).breakers pair.key =
      if manager.dropsBreaker pair call then none else manager.breakers pair.key := by
  unfold cleanupUnusedBreakersIfNeeded dropsBreaker
  by_cases due : manager.cleanupInterval ≤ call.now - manager.lastCleanup
  · rw [if_neg (by omega)]
    cases old : manager.breakers pair.key with
    | none => simp [old]
    | some cb =>
      cases gone : unused call.now cb <;> simp [asks, enabled, due, old, gone]
  · rw [if_pos (by omega)]
    simp [due]

theorem after_of_other (other : call.pair ≠ pair) : (manager.after call).breakers pair.key =
      served manager.config pair (manager.breakers pair.key) (manager.eventsOf pair call) := by
  unfold eventsOf
  rw [if_neg other, List.append_nil]
  by_cases asks : call.operation = .canProvision
  · cases enabled : manager.config with
    | none =>
      have idle : manager.dropsBreaker pair call = false := by simp [dropsBreaker, enabled]
      simp [idle, served, after, asks, canProvision, enabled]
    | some settings =>
      have keys : pair.key ≠ getKey call.pair.nodeClass call.pair.region.text :=
        Watched.key_ne (Ne.symm other)
      have kept : (manager.after call).breakers pair.key =
          (manager.cleanupUnusedBreakersIfNeeded call.now).breakers pair.key := by
        simp only [after, asks, canProvision, enabled, store, Function.update_of_ne keys]
      rw [kept, cleaned_breaker pair asks (by simp [enabled])]
      cases manager.dropsBreaker pair call <;> rfl
  · have idle : manager.dropsBreaker pair call = false := by simp [dropsBreaker, asks]
    rw [idle]
    rcases Watched.breakers_other (watching manager) (Ne.symm other) with
      same | ⟨cb, _, drops, _⟩
    · exact same
    · exact absurd drops.1 asks

theorem after_of_own (own : call.pair = pair) : (manager.after call).breakers pair.key =
        served manager.config pair (manager.breakers pair.key) (manager.eventsOf pair call) ∧
      manager.verdictOf pair call = servedVerdicts manager.config pair (manager.breakers pair.key)
          (manager.eventsOf pair call) := by
  subst own
  unfold eventsOf verdictOf ownEvents
  rw [if_pos rfl]
  have key : call.pair.key = getKey call.pair.nodeClass call.pair.region.text := rfl
  cases op : call.operation with
  | canProvision =>
    cases enabled : manager.config with
    | none =>
      have idle : manager.dropsBreaker call.pair call = false := by simp [dropsBreaker, enabled]
      simp [idle, served, servedVerdicts, serve, answers, after, op, canProvision, enabled]
    | some settings =>
      have found : manager.config.isSome = true := by simp [enabled]
      have cleaned := cleaned_breaker call.pair op found
      rw [key] at cleaned
      simp only [after, op, canProvision, enabled,
        store, key, Function.update_self, cleaned, if_true]
      cases manager.dropsBreaker call.pair call <;> exact ⟨rfl, rfl⟩
  | record request out =>
    have idle : manager.dropsBreaker call.pair call = false := by simp [dropsBreaker, op]
    simp only [idle, Bool.false_eq_true, if_false, List.nil_append, after, op, record, key]
    cases enabled : manager.config with
    | none =>
      cases out <;>
        simp [served, servedVerdicts, serve, answers, recordSuccess, recordFailure, recordPending,
          recordExisting, enabled]
    | some settings =>
      cases old : manager.breakers (getKey call.pair.nodeClass call.pair.region.text) <;>
        cases out <;>
        simp [served, servedVerdicts, serve, answers, recordSuccess, recordFailure, recordPending,
          recordExisting,
          store, enabled, old]
  | resetNodeClass =>
    have idle : manager.dropsBreaker call.pair call = false := by simp [dropsBreaker, op]
    simp only [idle, Bool.false_eq_true, if_false, List.nil_append, after, op, resetNodeClass, key]
    cases enabled : manager.config with
    | none => simp [served, servedVerdicts, serve, answers]
    | some settings =>
      cases old : manager.breakers (getKey call.pair.nodeClass call.pair.region.text) <;>
        simp [served, servedVerdicts, serve, answers, store, old]
  | getState =>
    have idle : manager.dropsBreaker call.pair call = false := by simp [dropsBreaker, op]
    have same : manager.after call = manager := by simp only [after, op]
    rw [idle, same]
    exact ⟨rfl, rfl⟩

theorem verdictOf_other (other : call.pair ≠ pair) : manager.verdictOf pair call =
      servedVerdicts manager.config pair (manager.breakers pair.key)
        (manager.eventsOf pair call) := by
  have silent : manager.verdictOf pair call = [] := by
    unfold verdictOf
    rw [if_neg other]
    split <;> rfl
  rw [silent]
  unfold eventsOf
  rw [if_neg other, List.append_nil]
  cases manager.dropsBreaker pair call <;> rfl

theorem step_served : (manager.after call).breakers pair.key =
        served manager.config pair (manager.breakers pair.key) (manager.eventsOf pair call) ∧
      manager.verdictOf pair call = servedVerdicts manager.config pair (manager.breakers pair.key)
          (manager.eventsOf pair call) := by
  by_cases own : call.pair = pair
  · exact after_of_own own
  · exact ⟨after_of_other own, verdictOf_other own⟩

end

theorem verdicts_eq_served (pair : Pair) (manager : NodeClassCircuitBreakerManager)
    (calls : List ManagerCall) :
    manager.verdicts pair calls = servedVerdicts manager.config pair (manager.breakers pair.key)
        (manager.view pair calls) := by
  induction calls generalizing manager with
  | nil => rfl
  | cons call rest ih =>
    obtain ⟨cb, verdict⟩ := @step_served manager pair call
    have config : (manager.after call).config = manager.config :=
      @Watched.after_config (watching manager) call
    rw [verdicts, view, servedVerdicts_append, verdict, ih, config, cb]

/-- Different pairs never share a breaker, and what is done for other pairs never
changes the verdicts for a pair: two runs that differ only there, and in which the
cleanup drops the pair's breaker at the same points, give it the same verdicts. -/
theorem breakers_isolated (pair : Pair) : (∀ other : Pair, other ≠ pair → other.key ≠ pair.key) ∧
      ∀ (manager manager' : NodeClassCircuitBreakerManager) (calls calls' : List ManagerCall),
        manager.config = manager'.config →
        manager.breakers pair.key = manager'.breakers pair.key →
        manager.view pair calls = manager'.view pair calls' →
        manager.verdicts pair calls = manager'.verdicts pair calls' := by
  refine ⟨fun other different => Watched.key_ne different, ?_⟩
  intro manager manager' calls calls' config breaker sameView
  rw [verdicts_eq_served, verdicts_eq_served, config, breaker, sameView]

/-- Another NodeClass fails three times in between, which opens its own breaker. -/
theorem breakers_isolated_sample :
    (newNodeClassCircuitBreakerManager (some defaultCircuitBreakerConfig) 0).verdicts
        (samplePair "a")
        [⟨0, samplePair "a", .canProvision⟩, ⟨1, samplePair "b", .record 0 (.failure "e")⟩,
          ⟨1, samplePair "b", .record 1 (.failure "e")⟩,
          ⟨1, samplePair "b", .record 2 (.failure "e")⟩, ⟨2, samplePair "a", .canProvision⟩] =
      (newNodeClassCircuitBreakerManager (some defaultCircuitBreakerConfig) 0).verdicts
        (samplePair "a")
        [⟨0, samplePair "a", .canProvision⟩, ⟨2, samplePair "a", .canProvision⟩] :=
  (breakers_isolated (samplePair "a")).2 _ _ _ _ rfl rfl (by decide +kernel)

end KarpenterIBM.Breaker
