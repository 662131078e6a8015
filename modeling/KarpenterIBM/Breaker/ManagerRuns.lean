import KarpenterIBM.Breaker.Manager
import KarpenterIBM.Options
import Mathlib.Data.List.Count

/-!
# Runs of the breaker manager

Calls of the manager for any NodeClasses and regions, with an observer that numbers the admitted
requests, keeps those that are not recorded yet, and notes when breakers open and when each pair
was last operated on.
-/

namespace KarpenterIBM.Breaker

open Function NodeClassCircuitBreakerManager

inductive ManagerOperation where
  | canProvision
  | record (request : Nat) (outcome : Outcome)
  | resetNodeClass
  | getState
deriving DecidableEq

structure ManagerCall where
  now : Int
  pair : Pair
  operation : ManagerOperation
deriving DecidableEq

variable (manager : NodeClassCircuitBreakerManager)

namespace NodeClassCircuitBreakerManager

def record (now : Int) (nodeClass region : String) :
    Outcome → NodeClassCircuitBreakerManager
  | .success => manager.recordSuccess now nodeClass region
  | .failure error => manager.recordFailure now nodeClass region error
  | .pending => manager.recordPending nodeClass region

def after (call : ManagerCall) : NodeClassCircuitBreakerManager :=
  match call.operation with
  | .canProvision =>
    (manager.canProvision call.now call.pair.nodeClass call.pair.region.text).2
  | .record _ outcome =>
    manager.record call.now call.pair.nodeClass call.pair.region.text outcome
  | .resetNodeClass =>
    (manager.resetNodeClass call.now call.pair.nodeClass call.pair.region.text).2
  | .getState => manager

def admits (call : ManagerCall) : Bool :=
  match call.operation with
  | .canProvision =>
    match (manager.canProvision call.now call.pair.nodeClass call.pair.region.text).1 with
    | .ok () => true
    | .error _ => false
  | _ => false

def stateOf (pair : Pair) : Option CircuitBreakerState :=
  (manager.breakers pair.key).map fun breaker => breaker.state

end NodeClassCircuitBreakerManager

structure Held where
  number : Nat
  pair : Pair
deriving DecidableEq

/-- A manager and what an observer of its calls has seen. -/
structure Watched where
  manager : NodeClassCircuitBreakerManager
  /-- The time of the last call. -/
  clock : Int
  /-- How many requests were admitted. -/
  issued : Nat
  /-- The admitted requests that are not recorded yet. -/
  outstanding : List Held
  /-- When the breaker of a pair opened. -/
  openings : List (Pair × Int)
  /-- When a pair was operated on. -/
  touched : List (Pair × Int)

/-- A NodeClass in one region. -/
def samplePair (nodeClass : String) : Pair :=
  ⟨nodeClass, ⟨"us-south", by decide⟩⟩

variable (seen : Watched)

variable {request : Nat} {out : Outcome}

namespace Watched

def start (config : Option CircuitBreakerConfig) (now : Int) : Watched where
  manager := newNodeClassCircuitBreakerManager config now
  clock := now
  issued := 0
  outstanding := []
  openings := []
  touched := []

def opens (call : ManagerCall) : Bool :=
  decide (seen.manager.stateOf call.pair ≠ some .opened ∧
    (seen.manager.after call).stateOf call.pair = some .opened)

def outstandingAfter (call : ManagerCall) : List Held :=
  match call.operation with
  | .canProvision =>
    if seen.manager.admits call then ⟨seen.issued, call.pair⟩ :: seen.outstanding
    else seen.outstanding
  | .record request _ => seen.outstanding.erase ⟨request, call.pair⟩
  | _ => seen.outstanding

def step (call : ManagerCall) : Watched where
  manager := seen.manager.after call
  clock := call.now
  issued := if seen.manager.admits call then seen.issued + 1 else seen.issued
  outstanding := seen.outstandingAfter call
  openings := if seen.opens call then (call.pair, call.now) :: seen.openings else seen.openings
  touched := (call.pair, call.now) :: seen.touched

/-- The admitted and not yet recorded requests of a pair. -/
def held (seen : Watched) (pair : Pair) : Nat :=
  seen.outstanding.countP (fun held => held.pair = pair)

/-- Calls come at nondecreasing times. -/
def Ordered (call : ManagerCall) : Prop :=
  seen.clock ≤ call.now

/-- A record is made of an admitted request of the same pair that was not recorded
before. -/
def RecordsOnce (call : ManagerCall) : Prop :=
  match call.operation with
  | .record request _ => ⟨request, call.pair⟩ ∈ seen.outstanding
  | _ => True

def NoReset (_ : Watched) (call : ManagerCall) : Prop :=
  call.operation ≠ .resetNodeClass

instance (seen : Watched) (call : ManagerCall) : Decidable (seen.Ordered call) :=
  inferInstanceAs (Decidable (_ ≤ _))

instance (seen : Watched) (call : ManagerCall) : Decidable (seen.RecordsOnce call) :=
  match op : call.operation with
  | .record request _ =>
    decidable_of_iff (⟨request, call.pair⟩ ∈ seen.outstanding) (by simp [RecordsOnce, op])
  | .canProvision => isTrue (by simp [RecordsOnce, op])
  | .resetNodeClass => isTrue (by simp [RecordsOnce, op])
  | .getState => isTrue (by simp [RecordsOnce, op])

instance (seen : Watched) (call : ManagerCall) : Decidable (seen.NoReset call) :=
  inferInstanceAs (Decidable (_ ≠ _))

/-! ## What a call does to the breakers -/

def Drops (call : ManagerCall) (breaker : CircuitBreaker) : Prop :=
  call.operation = .canProvision ∧
    seen.manager.cleanupInterval ≤ call.now - seen.manager.lastCleanup ∧
    unused call.now breaker = true

instance (seen : Watched) (call : ManagerCall) (breaker : CircuitBreaker) :
    Decidable (seen.Drops call breaker) :=
  inferInstanceAs (Decidable (_ ∧ _ ∧ _))

variable {seen : Watched} {call : ManagerCall} {config : CircuitBreakerConfig}

theorem cleaned_cases (now : Int) (key : String) :
    (manager.cleanupUnusedBreakersIfNeeded now).breakers key = manager.breakers key ∨
      (∃ cb, manager.breakers key = some cb ∧
        manager.cleanupInterval ≤ now - manager.lastCleanup ∧ unused now cb = true) ∧
        (manager.cleanupUnusedBreakersIfNeeded now).breakers key = none := by
  unfold cleanupUnusedBreakersIfNeeded
  split
  · exact .inl rfl
  rename_i due
  cases old : manager.breakers key with
  | none => exact .inl (by simp [old])
  | some cb =>
    cases dropped : unused now cb with
    | false => exact .inl (by simp [old, dropped])
    | true => exact .inr ⟨⟨cb, rfl, by omega, dropped⟩, by simp [old, dropped]⟩

theorem cleaned_config (now : Int) :
    (manager.cleanupUnusedBreakersIfNeeded now).config = manager.config := by
  unfold cleanupUnusedBreakersIfNeeded
  split <;> rfl

theorem key_ne {pair other : Pair} (differ : pair ≠ other) : pair.key ≠ other.key :=
  fun same => differ (Pair.key_injective same)

/-- A call that is not a request changes at most the breaker of its own pair. -/
theorem after_stores (seen : Watched) (op : call.operation ≠ .canProvision) :
    ∃ stored, seen.manager.after call =
      { seen.manager with breakers := update seen.manager.breakers call.pair.key stored } := by
  have unchanged : ∃ stored, seen.manager =
      { seen.manager with breakers := update seen.manager.breakers call.pair.key stored } :=
    ⟨_, by rw [update_eq_self]⟩
  unfold after
  split
  · exact absurd ‹_› op
  · rename_i out _
    unfold record
    cases out with
    | success | pending =>
      simp only [recordSuccess, recordPending, recordExisting]
      split
      · exact unchanged
      split
      · exact unchanged
      · exact ⟨_, rfl⟩
    | failure error =>
      simp only [recordFailure]
      split
      · exact unchanged
      · exact ⟨_, rfl⟩
  · unfold resetNodeClass
    split
    · exact unchanged
    split
    · exact unchanged
    · exact ⟨_, rfl⟩
  · exact unchanged

theorem after_config : (seen.manager.after call).config = seen.manager.config := by
  by_cases op : call.operation = .canProvision
  · simp only [after, op, canProvision]
    split
    · rfl
    · exact cleaned_config _ _
  · obtain ⟨stored, same⟩ := after_stores seen op
    rw [same]

theorem breakers_other (seen : Watched) {pair : Pair} (differ : pair ≠ call.pair) :
    (seen.manager.after call).breakers pair.key = seen.manager.breakers pair.key ∨
      ∃ cb, seen.manager.breakers pair.key = some cb ∧ seen.Drops call cb ∧
        (seen.manager.after call).breakers pair.key = none := by
  have keys : pair.key ≠ getKey call.pair.nodeClass call.pair.region.text := key_ne differ
  by_cases op : call.operation = .canProvision
  · simp only [after, op, canProvision]
    split
    · exact .inl rfl
    simp only [store, update_of_ne keys]
    rcases cleaned_cases seen.manager call.now pair.key with
      same | ⟨⟨cb, old, due, dropped⟩, gone⟩
    · exact .inl same
    · exact .inr ⟨cb, old, ⟨op, due, dropped⟩, gone⟩
  · obtain ⟨stored, same⟩ := after_stores seen op
    rw [same]
    exact .inl (update_of_ne keys _ _)

/-- The breaker a request of this call finds: the one there was, or a new one when there
was none or the cleanup has just dropped it. -/
def Found (config : CircuitBreakerConfig) (seen : Watched) (call : ManagerCall)
    (found : CircuitBreaker) : Prop :=
  seen.manager.breakers call.pair.key = some found ∨
    found = newCircuitBreaker (some config) call.now ∧
      (seen.manager.breakers call.pair.key = none ∨
        ∃ dropped, seen.manager.breakers call.pair.key = some dropped ∧ seen.Drops call dropped)

section
variable (configured : seen.manager.config = some config)

include configured

theorem breakers_canProvision (op : call.operation = .canProvision) :
    ∃ found, Found config seen call found ∧
      (seen.manager.after call).breakers call.pair.key = some (found.canProvision call.now).2 ∧
      (seen.manager.admits call = true ↔ (found.canProvision call.now).1 = .ok ()) := by
  refine ⟨((seen.manager.cleanupUnusedBreakersIfNeeded call.now).breakers call.pair.key).getD
    (newCircuitBreaker (some config) call.now), ?_, ?_, ?_⟩
  · rcases cleaned_cases seen.manager call.now call.pair.key with
      same | ⟨⟨cb, old, due, dropped⟩, gone⟩
    · rw [same]
      cases old : seen.manager.breakers call.pair.key with
      | none => exact .inr ⟨rfl, .inl old⟩
      | some cb => exact .inl old
    · rw [gone]
      exact .inr ⟨rfl, .inr ⟨cb, old, op, due, dropped⟩⟩
  · simp only [after, op, canProvision, configured, store]
    exact update_self _ _ _
  · simp only [admits, op, canProvision, configured, Pair.key]
    generalize (CircuitBreaker.canProvision _ call.now).1 = answer
    rcases answer with error | ⟨⟩ <;> simp

theorem breakers_record (op : call.operation = .record request out) :
    (∃ cb, seen.manager.breakers call.pair.key = some cb ∧
      (seen.manager.after call).breakers call.pair.key = some
        (cb.record call.now call.pair.nodeClass call.pair.region.text out)) ∨
    seen.manager.breakers call.pair.key = none ∧
      ((seen.manager.after call).breakers call.pair.key = none ∨ ∃ error, out = .failure error ∧
          (seen.manager.after call).breakers call.pair.key = some
            ((newCircuitBreaker (some config) call.now).recordFailure call.now
              call.pair.nodeClass call.pair.region.text error)) := by
  have key : call.pair.key = getKey call.pair.nodeClass call.pair.region.text := rfl
  simp only [after, op, record, key]
  cases old : seen.manager.breakers (getKey call.pair.nodeClass call.pair.region.text) with
  | some cb =>
    refine .inl ⟨cb, rfl, ?_⟩
    cases out <;>
      simp [recordSuccess, recordFailure, recordPending, recordExisting, configured, old,
        store, CircuitBreaker.record]
  | none =>
    refine .inr ⟨rfl, ?_⟩
    cases out <;>
      simp [recordSuccess, recordFailure, recordPending, recordExisting, configured, old, store]

theorem breakers_recordFailure {error : String}
    (op : call.operation = .record request (.failure error)) :
    (seen.manager.after call).breakers call.pair.key = some
      (((seen.manager.breakers call.pair.key).getD
        (newCircuitBreaker (some config) call.now)).recordFailure call.now
          call.pair.nodeClass call.pair.region.text error) := by
  simp only [after, op, record, recordFailure, configured, Pair.key, store, update_self]

end

theorem lastCleanup_record (seen : Watched) (op : call.operation = .record request out) :
    (seen.manager.after call).lastCleanup = seen.manager.lastCleanup ∧
      (seen.manager.after call).cleanupInterval = seen.manager.cleanupInterval := by
  obtain ⟨stored, same⟩ := after_stores seen (by rw [op]; nofun)
  rw [same]
  exact ⟨rfl, rfl⟩

theorem admits_of_dropped {cb : CircuitBreaker} (configured : seen.manager.config = some config)
    (old : seen.manager.breakers call.pair.key = some cb)
    (drops : seen.Drops call cb)
    (admitted : ((newCircuitBreaker (some config) call.now).canProvision call.now).1 = .ok ()) :
    seen.manager.admits call = true := by
  obtain ⟨op, due, dropped⟩ := drops
  have gone : (seen.manager.cleanupUnusedBreakersIfNeeded call.now).breakers
      (getKey call.pair.nodeClass call.pair.region.text) = none := by
    change seen.manager.breakers (getKey call.pair.nodeClass call.pair.region.text) = _ at old
    unfold cleanupUnusedBreakersIfNeeded
    rw [if_neg (by omega)]
    simp [old, dropped]
  simp only [admits, op, canProvision, configured, gone, Option.getD_none, admitted]

theorem breakers_reset (configured : seen.manager.config = some config)
    (op : call.operation = .resetNodeClass) :
    (seen.manager.after call).breakers call.pair.key = none ∨
      (seen.manager.after call).breakers call.pair.key =
        some (newCircuitBreaker (some config) call.now) := by
  have key : call.pair.key = getKey call.pair.nodeClass call.pair.region.text := rfl
  simp only [after, op, resetNodeClass, configured, key]
  cases old : seen.manager.breakers (getKey call.pair.nodeClass call.pair.region.text) with
  | none => exact .inl old
  | some cb => exact .inr (update_self _ _ _)

theorem breakers_getState (op : call.operation = .getState) :
    seen.manager.after call = seen.manager := by
  simp only [after, op]

theorem admits_only (op : call.operation ≠ .canProvision) : seen.manager.admits call = false := by
  unfold admits
  split
  · exact absurd ‹_› op
  · rfl

structure Configured (config : CircuitBreakerConfig) (seen : Watched) : Prop where
  manager : seen.manager.config = some config
  breakers : ∀ (pair : Pair) (breaker : CircuitBreaker),
    seen.manager.breakers pair.key = some breaker →
      breaker.config = config ∧ breaker.enabled = true

theorem Configured.found {found : CircuitBreaker} (inv : Configured config seen)
    (isFound : Found config seen call found) : found.config = config ∧ found.enabled = true := by
  rcases isFound with old | ⟨rfl, -⟩
  · exact inv.breakers call.pair found old
  · exact ⟨rfl, rfl⟩

theorem Configured.step (inv : Configured config seen) : Configured config (seen.step call) := by
  refine ⟨after_config.trans inv.manager, fun pair after present => ?_⟩
  change (seen.manager.after call).breakers pair.key = some after at present
  by_cases own : pair = call.pair
  · subst own
    cases op : call.operation with
    | canProvision =>
      obtain ⟨found, isFound, same, -⟩ := breakers_canProvision inv.manager op
      obtain ⟨foundConfig, foundEnabled⟩ := inv.found isFound
      cases same.symm.trans present
      exact ⟨(CircuitBreaker.canProvision_config call.now foundEnabled).trans foundConfig,
        CircuitBreaker.canProvision_enabled call.now foundEnabled⟩
    | record request out =>
      rcases breakers_record inv.manager op with
        ⟨cb, old, same⟩ | ⟨-, gone | ⟨error, -, same⟩⟩
      · cases same.symm.trans present
        simpa using inv.breakers call.pair cb old
      · cases gone.symm.trans present
      cases same.symm.trans present
      have kept := CircuitBreaker.record_frame (newCircuitBreaker (some config) call.now)
        call.now call.pair.nodeClass call.pair.region.text (.failure error)
      obtain ⟨_, _, _, _, _, _, frame⟩ := kept
      simp only [CircuitBreaker.record] at frame
      rw [frame]
      exact ⟨rfl, rfl⟩
    | resetNodeClass =>
      rcases breakers_reset inv.manager op with gone | same
      · cases gone.symm.trans present
      cases same.symm.trans present
      exact ⟨rfl, rfl⟩
    | getState =>
      rw [breakers_getState op] at present
      exact inv.breakers call.pair after present
  · rcases breakers_other seen own with same | ⟨_, -, -, gone⟩
    · rw [same] at present
      exact inv.breakers pair after present
    · cases gone.symm.trans present

theorem Configured.start (config : CircuitBreakerConfig) (now : Int) :
    Configured config (Watched.start (some config) now) :=
  ⟨rfl, fun _ _ no => by cases no⟩

/-! ## What a call does to the unrecorded requests -/

theorem held_other {pair : Pair} (differ : pair ≠ call.pair) :
    (seen.step call).held pair = seen.held pair := by
  have elsewhere : ¬ call.pair = pair := fun same => differ same.symm
  simp only [held, step, outstandingAfter]
  split
  · split
    · rw [List.countP_cons]
      simp [elsewhere]
    · rfl
  · rename_i request _ _
    by_cases mem : (⟨request, call.pair⟩ : Held) ∈ seen.outstanding
    · rw [List.countP_erase, if_neg (by simp [elsewhere])]
      simp
    · rw [List.erase_of_not_mem mem]
  · rfl

theorem held_canProvision (op : call.operation = .canProvision) : (seen.step call).held call.pair =
      if seen.manager.admits call then seen.held call.pair + 1 else seen.held call.pair := by
  simp only [held, step, outstandingAfter, op]
  split
  · rw [List.countP_cons]
    simp
  · rfl

theorem held_record (op : call.operation = .record request out) (once : seen.RecordsOnce call) :
    (seen.step call).held call.pair + 1 = seen.held call.pair := by
  simp only [RecordsOnce, op] at once
  have counted : 0 < seen.held call.pair := List.countP_pos_iff.mpr ⟨_, once, by simp⟩
  simp only [held, step, outstandingAfter, op] at counted ⊢
  rw [List.countP_erase, if_pos ⟨once, by simp⟩]
  omega

theorem held_quiet (requestless : call.operation = .resetNodeClass ∨ call.operation = .getState)
    (pair : Pair) : (seen.step call).held pair = seen.held pair := by
  rcases requestless with op | op <;> simp [held, step, outstandingAfter, op]

end Watched

end KarpenterIBM.Breaker
