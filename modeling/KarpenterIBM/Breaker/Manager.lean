import KarpenterIBM.Breaker.Requests
import KarpenterIBM.Lib.Text

/-!
# One breaker for each NodeClass and region

`pkg/cloudprovider/nodeclasscircuitbreaker.go`.
-/

namespace KarpenterIBM.Breaker

structure NodeClassCircuitBreakerManager where
  config : Option CircuitBreakerConfig
  breakers : String → Option CircuitBreaker
  lastCleanup : Int
  cleanupInterval : Int

def newNodeClassCircuitBreakerManager (config : Option CircuitBreakerConfig) (now : Int) :
    NodeClassCircuitBreakerManager where
  config := config
  breakers := fun _ => none
  lastCleanup := now
  cleanupInterval := 30 * minute

def getKey (nodeClass region : String) : String :=
  nodeClass ++ "-" ++ region

def unused (now : Int) (breaker : CircuitBreaker) : Bool :=
  let status := breaker.getState now
  (decide (status.state = .closed) || decide (status.recentFailures = 0)) &&
    decide (status.lastStateChange < now - 2 * hour)

variable (manager : NodeClassCircuitBreakerManager)

namespace NodeClassCircuitBreakerManager

def cleanupUnusedBreakersIfNeeded (now : Int) : NodeClassCircuitBreakerManager :=
  if now - manager.lastCleanup < manager.cleanupInterval then manager
  else
    { manager with
      lastCleanup := now
      breakers := fun key => (manager.breakers key).filter fun breaker => !unused now breaker }

def store (key : String) (breaker : CircuitBreaker) : NodeClassCircuitBreakerManager :=
  { manager with breakers := Function.update manager.breakers key (some breaker) }

def canProvision (now : Int) (nodeClass region : String) :
    Except ProvisionError Unit × NodeClassCircuitBreakerManager :=
  match manager.config with
  | none => (.ok (), manager)
  | some config =>
    let cleaned := manager.cleanupUnusedBreakersIfNeeded now
    let key := getKey nodeClass region
    let breaker := (cleaned.breakers key).getD (newCircuitBreaker (some config) now)
    ((breaker.canProvision now).1, cleaned.store key (breaker.canProvision now).2)

/-- `RecordPending` and `RecordSuccess`: a record for a breaker that is gone is lost. -/
def recordExisting (nodeClass region : String) (record : CircuitBreaker → CircuitBreaker) :
    NodeClassCircuitBreakerManager :=
  match manager.config with
  | none => manager
  | some _ =>
    match manager.breakers (getKey nodeClass region) with
    | none => manager
    | some breaker => manager.store (getKey nodeClass region) (record breaker)

def recordPending (nodeClass region : String) : NodeClassCircuitBreakerManager :=
  manager.recordExisting nodeClass region (fun breaker => breaker.recordPending)

def recordSuccess (now : Int) (nodeClass region : String) : NodeClassCircuitBreakerManager :=
  manager.recordExisting nodeClass region (fun breaker => breaker.recordSuccess now)

def recordFailure (now : Int) (nodeClass region error : String) : NodeClassCircuitBreakerManager :=
  match manager.config with
  | none => manager
  | some config =>
    let key := getKey nodeClass region
    let breaker := (manager.breakers key).getD (newCircuitBreaker (some config) now)
    manager.store key (breaker.recordFailure now nodeClass region error)

inductive ResetError where
  | disabled
  | notFound (nodeClass region : String)
deriving DecidableEq

def ResetError.text : ResetError → String
  | .disabled => "circuit breaker is disabled"
  | .notFound nodeClass region =>
    "no circuit breaker found for NodeClass " ++ nodeClass ++ " in region " ++ region

def resetNodeClass (now : Int) (nodeClass region : String) :
    Except ResetError Unit × NodeClassCircuitBreakerManager :=
  match manager.config with
  | none => (.error .disabled, manager)
  | some config =>
    match manager.breakers (getKey nodeClass region) with
    | none => (.error (.notFound nodeClass region), manager)
    | some _ =>
      (.ok (), manager.store (getKey nodeClass region) (newCircuitBreaker (some config) now))

end NodeClassCircuitBreakerManager

/-! ## Regions and keys -/

def isRegion (text : String) : Bool :=
  match text.toList with
  | first :: second :: '-' :: rest =>
    first.isLower && second.isLower && !rest.isEmpty && rest.all Char.isLower
  | _ => false

structure Region where
  text : String
  shaped : isRegion text = true
deriving DecidableEq

/-- A NodeClass and region. -/
structure Pair where
  nodeClass : String
  region : Region
deriving DecidableEq

def Pair.key (pair : Pair) : String :=
  getKey pair.nodeClass pair.region.text

theorem Region.split (region : Region) :
    ∃ country rest, region.text.toList = country ++ '-' :: rest ∧ '-' ∉ country ∧ '-' ∉ rest := by
  obtain ⟨text, shaped⟩ := region
  unfold isRegion at shaped
  split at shaped
  · rename_i first second rest same
    simp only [Bool.and_eq_true, List.all_eq_true] at shaped
    obtain ⟨⟨⟨firstLower, secondLower⟩, -⟩, lower⟩ := shaped
    refine ⟨[first, second], rest, same, ?_, ?_⟩
    · intro member
      rcases List.mem_cons.mp member with rfl | member
      · simp at firstLower
      rcases List.mem_cons.mp member with rfl | member
      · simp at secondLower
      · cases member
    · intro member
      have := lower _ member
      simp at this
  · cases shaped

theorem Pair.key_injective : Function.Injective Pair.key := by
  intro pair other same
  obtain ⟨country, rest, text, noHyphen, restNoHyphen⟩ := pair.region.split
  obtain ⟨country', rest', text', noHyphen', restNoHyphen'⟩ := other.region.split
  have listed : (pair.nodeClass.toList ++ '-' :: country) ++ '-' :: rest =
      (other.nodeClass.toList ++ '-' :: country') ++ '-' :: rest' := by
    have chars := congrArg String.toList same
    simpa [Pair.key, getKey, String.toList_append, text, text'] using chars
  obtain ⟨front, sameRest⟩ := Text.append_separator_inj restNoHyphen restNoHyphen' listed
  obtain ⟨names, sameCountry⟩ := Text.append_separator_inj noHyphen noHyphen' front
  have regions : pair.region.text = other.region.text := by
    apply String.toList_injective
    rw [text, text', sameRest, sameCountry]
  obtain ⟨nodeClass, ⟨region, shaped⟩⟩ := pair
  obtain ⟨nodeClass', ⟨region', shaped'⟩⟩ := other
  obtain rfl : nodeClass = nodeClass' := String.toList_injective names
  cases regions
  rfl

end KarpenterIBM.Breaker
