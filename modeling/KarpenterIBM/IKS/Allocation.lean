import KarpenterIBM.Ownership
import KarpenterIBM.IKS.Client
import Mathlib.Data.Finset.Max
import Mathlib.Data.String.Basic

/-!
# Isolated worker pools of the IKS provider

`pkg/providers/iks/workerpool/allocation.go`: one worker pool a NodeClaim, with an allocation on
the claim and a reservation in a ConfigMap.
-/

namespace KarpenterIBM.IKSAllocation

open Calls EffectProgram Errors KeyedMap Objects Ownership Text

def allocationFinalizer : String := "karpenter-ibm.sh/iks-allocation"
def allocationAnnotation : String := "karpenter-ibm.sh/iks-allocation"
def reservationDataKey : String := "allocation"
def reservationPhaseKey : String := "phase"
def reservationCreationPendingKey : String := "creationPending"
def reservationCreationStartedKey : String := "creationStarted"

def poolCreationWindow : Nat := 15 * 60 * 1000000000

def nanosPerSecond : Nat := 1000000000

/-- `accountPattern`: thirty-two lower-case hexadecimal digits. -/
def accountMatches (accountID : String) : Bool :=
  decide (accountID.toList.length = 32) &&
    accountID.toList.all fun c => c.isDigit || ('a' ≤ c && c ≤ 'f')

/-! ## The allocation and its reservation -/

def allocationOf (claim : NodeClaim) : Value :=
  ValueMap.read claim.annotations allocationAnnotation

def identityComplete (allocation : Allocation) : Bool :=
  decide (allocation.claimUID ≠ "") && decide (allocation.clusterUID ≠ "") &&
    decide (allocation.nodeClassUID ≠ "") && decide (allocation.clusterID ≠ "") &&
    decide (allocation.accountID ≠ "") && decide (allocation.poolName ≠ "") &&
    decide (allocation.namespace ≠ "")

def snapshotValid (allocation : Allocation) : Bool :=
  accountMatches allocation.accountID && decide (allocation.region ≠ "") &&
    decide (allocation.request.name = allocation.poolName) &&
    decide (allocation.request.flavor ≠ "") && decide (allocation.request.sizePerZone = 1) &&
    match allocation.request.zones with
    | [zone] => decide (zone.id ≠ "")
    | _ => false

/-- `DecodeAllocation` at the stored text. -/
def decodeAllocation : Value → Except GoError (Option Allocation)
  | .text content =>
    if content = "" then .ok none
    else .error (.wrap "decoding IKS allocation: " (.plain "not an allocation") "")
  | .allocation snapshot =>
    if identityComplete snapshot = false then
      .error (.plain "IKS allocation is missing immutable identity")
    else if snapshotValid snapshot = false then
      .error (.plain "IKS allocation has an invalid provisioning snapshot")
    else .ok (some snapshot)
  | _ => .error (.wrap "decoding IKS allocation: " (.plain "not an allocation") "")

variable (platform : Platform)

def reservationName (clusterID poolName : String) : String :=
  "iks-pool-" ++ platform.digest20 (clusterID ++ "/" ++ poolName)

def poolNameOf (clusterUID claimUID : String) : String :=
  "karp-" ++ platform.digest24 (clusterUID ++ "/" ++ claimUID)

def ownerLabels (allocation : Allocation) : StringMap :=
  ((((Finmap.singleton managedLabel "true").insert providerLabel "iks").insert clusterUIDLabel
    allocation.clusterUID).insert claimUIDLabel allocation.claimUID).insert nodeClassUIDLabel
      allocation.nodeClassUID

def ownsReservation (allocation : Allocation) (reservation : ConfigMap) : Bool :=
  decide (StringMap.read reservation.labels claimUIDLabel = allocation.claimUID) &&
    decide (StringMap.read reservation.labels clusterUIDLabel = allocation.clusterUID) &&
    decide (StringMap.read reservation.labels nodeClassUIDLabel = allocation.nodeClassUID)

/-- The phases `updateReservation` records. -/
inductive ReservationPhase where
  | reserved
  | creating
  | active
  | rejected
  | deleting
deriving DecidableEq

def ReservationPhase.text : ReservationPhase → String
  | .reserved => "reserved"
  | .creating => "creating"
  | .active => "active"
  | .rejected => "rejected"
  | .deleting => "deleting"

def phaseOf (reservation : ConfigMap) : Value :=
  ValueMap.read reservation.data reservationPhaseKey

def pendingOf (reservation : ConfigMap) : Value :=
  ValueMap.read reservation.data reservationCreationPendingKey

def startedOf (reservation : ConfigMap) : Value :=
  ValueMap.read reservation.data reservationCreationStartedKey

def recordOf (reservation : ConfigMap) : Value :=
  ValueMap.read reservation.data reservationDataKey

/-- The reservation `reserve` creates. -/
def newReservation (allocation : Allocation) : ConfigMap where
  name := reservationName platform allocation.clusterID allocation.poolName
  «namespace» := allocation.namespace
  uid := ""
  resourceVersion := 0
  labels := ownerLabels allocation
  data := (Finmap.singleton reservationDataKey (.allocation allocation)).insert
    reservationPhaseKey (.text ReservationPhase.reserved.text)

def startCreation (data : ValueMap) (time : Nat) : ValueMap :=
  (data.insert reservationCreationPendingKey (.text "true")).insert
    reservationCreationStartedKey (.seconds (time / nanosPerSecond))

/-- The data `updateReservation` writes; `started` is the clock when it records a
creation. -/
def updatedData (data : ValueMap) (allocation : Allocation) (phase : ReservationPhase)
    (started : Option Nat) : ValueMap :=
  let recorded := data.insert reservationDataKey (.allocation allocation)
  let opened := started.elim recorded (startCreation recorded)
  let closed :=
    if phase = .active ∨ phase = .rejected ∨ allocation.poolID ≠ "" then
      opened.insert reservationCreationPendingKey (.text "false")
    else opened
  closed.insert reservationPhaseKey (.text phase.text)

def updateReservation (reservation : ConfigMap) (allocation : Allocation)
    (phase : ReservationPhase) : Program ConfigMap := do
  let started ← if phase = .creating then some <$> now else pure none
  wrapped "updating worker pool reservation: "
    (patchConfigMap reservation
      { reservation with data := updatedData reservation.data allocation phase started })

/-! ### What an update records -/

section
variable (data : ValueMap) (allocation : Allocation) (kind : ReservationPhase)
  (started : Option Nat)

theorem read_insert_of_ne {data : ValueMap} {key other : String} (differ : key ≠ other)
    (value : Value) : ValueMap.read (data.insert other value) key = ValueMap.read data key := by
  unfold ValueMap.read
  rw [Finmap.lookup_insert_of_ne _ differ]

theorem read_insert (data : ValueMap) (key : String) (value : Value) :
    ValueMap.read (data.insert key value) key = value := by
  unfold ValueMap.read
  rw [Finmap.lookup_insert]
  rfl

theorem read_phase_updated :
    ValueMap.read (updatedData data allocation kind started) reservationPhaseKey =
      .text kind.text :=
  read_insert _ _ _

theorem read_record_updated :
    ValueMap.read (updatedData data allocation kind started) reservationDataKey =
      .allocation allocation := by
  have notPhase : reservationDataKey ≠ reservationPhaseKey := by decide
  have notPending : reservationDataKey ≠ reservationCreationPendingKey := by decide
  have notStarted : reservationDataKey ≠ reservationCreationStartedKey := by decide
  have opened : ValueMap.read
      (started.elim (data.insert reservationDataKey (.allocation allocation))
        (startCreation (data.insert reservationDataKey (.allocation allocation))))
      reservationDataKey = .allocation allocation := by
    cases started with
    | none => exact read_insert _ _ _
    | some time =>
      exact (read_insert_of_ne notStarted _).trans
        ((read_insert_of_ne notPending _).trans (read_insert _ _ _))
  unfold updatedData
  rw [read_insert_of_ne notPhase]
  split
  · rw [read_insert_of_ne notPending]
    exact opened
  · exact opened

end

def creationUncertain (reservation : ConfigMap) (time : Nat) : Bool :=
  decide (pendingOf reservation = .text "true") &&
    match startedOf reservation with
    | .seconds started => decide (time ≤ started * nanosPerSecond + poolCreationWindow)
    | _ => true

def rejectedCreate (error : GoError) : Bool :=
  match errorsAs pickCloudError error with
  | none => false
  | some found =>
    decide (400 ≤ found.statusCode) && decide (found.statusCode < 500) &&
      decide (found.statusCode ≠ 408) && decide (found.statusCode ≠ 409) &&
      decide (found.statusCode ≠ 429)

def snapshotOf (allocation : Allocation) : Allocation :=
  { allocation with poolID := "", workerID := "" }

theorem snapshotOf_eq {first second : Allocation} (same : snapshotOf first = snapshotOf second) :
    first.clusterID = second.clusterID ∧ first.poolName = second.poolName ∧
      first.request = second.request := by
  have cluster : (snapshotOf first).clusterID = (snapshotOf second).clusterID := by rw [same]
  have pool : (snapshotOf first).poolName = (snapshotOf second).poolName := by rw [same]
  have request : (snapshotOf first).request = (snapshotOf second).request := by rw [same]
  exact ⟨cluster, pool, request⟩

/-- `restoreReservation`: the allocation completed from its reservation. -/
def restoreReservation (allocation : Allocation) (reservation : ConfigMap) :
    Except GoError Allocation :=
  match decodeAllocation (recordOf reservation) with
  | .error error => .error error
  | .ok none => .error (.plain "worker pool reservation has no allocation snapshot")
  | .ok (some recorded) =>
    if snapshotOf allocation ≠ snapshotOf recorded then
      .error (.plain "worker pool reservation snapshot changed")
    else if allocation.poolID ≠ "" ∧ recorded.poolID ≠ "" ∧
        allocation.poolID ≠ recorded.poolID then
      .error (.plain "worker pool reservation identity changed")
    else if allocation.workerID ≠ "" ∧ recorded.workerID ≠ "" ∧
        allocation.workerID ≠ recorded.workerID then
      .error (.plain "worker reservation identity changed")
    else
      .ok { allocation with
        poolID := if allocation.poolID = "" then recorded.poolID else allocation.poolID
        workerID := if allocation.workerID = "" then recorded.workerID else allocation.workerID }

theorem decodeAllocation_some {value : Value} {allocation : Allocation}
    (decoded : decodeAllocation value = .ok (some allocation)) :
    value = .allocation allocation ∧ allocation.request.name = allocation.poolName := by
  cases value with
  | text content =>
    simp only [decodeAllocation] at decoded
    split at decoded <;> cases decoded
  | allocation snapshot =>
    simp only [decodeAllocation] at decoded
    split at decoded
    · cases decoded
    split at decoded
    · cases decoded
    rename_i valid
    cases decoded
    refine ⟨rfl, ?_⟩
    simp only [snapshotValid, Bool.not_eq_false, Bool.and_eq_true, decide_eq_true_eq] at valid
    exact valid.1.1.1.2
  | launch config | seconds time => cases decoded

theorem decodeAllocation_none {value : Value} (decoded : decodeAllocation value = .ok none) :
    value = .text "" := by
  cases value with
  | text content =>
    simp only [decodeAllocation] at decoded
    split at decoded
    · rename_i empty
      rw [empty]
    · cases decoded
  | allocation snapshot =>
    simp only [decodeAllocation] at decoded
    split at decoded
    · cases decoded
    · split at decoded <;> cases decoded
  | launch config | seconds time => cases decoded

/-- What `restoreReservation` returns: the same snapshot, with the recorded identities
where the allocation has none. -/
theorem restoreReservation_ok {allocation restored : Allocation} {result : ConfigMap}
    (out : restoreReservation allocation result = .ok restored) :
    ∃ noted, recordOf result = .allocation noted ∧
      noted.request.name = noted.poolName ∧ snapshotOf allocation = snapshotOf noted ∧
      restored = { allocation with
        poolID := if allocation.poolID = "" then noted.poolID else allocation.poolID
        workerID := if allocation.workerID = "" then noted.workerID else allocation.workerID } := by
  unfold restoreReservation at out
  split at out
  · cases out
  · cases out
  rename_i noted decoded
  obtain ⟨stored, named⟩ := decodeAllocation_some decoded
  split at out
  · cases out
  rename_i same
  split at out
  · cases out
  split at out
  · cases out
  · cases out
    exact ⟨noted, stored, named, not_not.mp same, rfl⟩

def reserve (allocation : Allocation) : Program ConfigMap := do
  let reservation ←
    match ← (getConfigMap allocation.namespace
        (reservationName platform allocation.clusterID allocation.poolName)).attempt with
    | .ok found => pure found
    | .error error =>
      if isKube .notFound error then
        wrapped "reserving worker pool: " (createConfigMap (newReservation platform allocation))
      else .fail (.wrap "reading worker pool reservation: " error "")
  if ownsReservation allocation reservation then pure reservation
  else failWith "worker pool reservation belongs to another owner"

/-! ## The checkpoint on the claim -/

def withAllocation (claim : NodeClaim) (allocation : Allocation) : NodeClaim :=
  { claim with
    annotations :=
      ((((((claim.annotations.insert allocationAnnotation (.allocation allocation)).insert
      backendAnnotation (.text "iks")).insert regionAnnotation (.text allocation.region)).insert
      clusterIDAnnotation (.text allocation.clusterID)).insert accountIDAnnotation
      (.text allocation.accountID)).insert poolIDAnnotation (.text allocation.poolID)).insert
      workerIDAnnotation (.text allocation.workerID)
    finalizers := addFinalizer claim.finalizers allocationFinalizer }

theorem allocationOf_withAllocation (claim : NodeClaim) (allocation : Allocation) :
    allocationOf (withAllocation claim allocation) = .allocation allocation := by
  have backend : allocationAnnotation ≠ backendAnnotation := by decide
  have region : allocationAnnotation ≠ regionAnnotation := by decide
  have cluster : allocationAnnotation ≠ clusterIDAnnotation := by decide
  have account : allocationAnnotation ≠ accountIDAnnotation := by decide
  have pool : allocationAnnotation ≠ poolIDAnnotation := by decide
  have worker : allocationAnnotation ≠ workerIDAnnotation := by decide
  unfold allocationOf withAllocation
  dsimp only
  rw [read_insert_of_ne worker, read_insert_of_ne pool, read_insert_of_ne account,
    read_insert_of_ne cluster, read_insert_of_ne region, read_insert_of_ne backend, read_insert]

def checkpoint (allocation : Allocation) : Program Unit := do
  let fresh ← wrapped "reading allocation owner: " (getClaim allocation.claimName)
  if fresh.uid ≠ allocation.claimUID ∨ fresh.deletionTimestamp ≠ none then
    failWith "allocation owner is gone or terminating"
  else do
    let _ ← wrapped "checkpointing allocation: "
      (patchClaim fresh (withAllocation fresh allocation))
    pure ()

/-! ## Pools and workers -/

/-- The least key whose entry fails a check.  The source stops at the first one it
meets in an unordered map. -/
def leastKey (entries : StringMap) (bad : String → String → Bool) : Option String :=
  (entries.keys.filter fun key => bad key (StringMap.read entries key) = true).min

theorem leastKey_none {entries : StringMap} {bad : String → String → Bool}
    (none : leastKey entries bad = none) {key : String} (mem : key ∈ entries) :
    bad key (StringMap.read entries key) = false := by
  have empty := Finset.min_eq_top.mp none
  rw [Finset.filter_eq_empty_iff] at empty
  exact Bool.eq_false_iff.mpr (empty (Finmap.mem_keys.mpr mem))

def validatePool (pool : WorkerPool) (allocation : Allocation) : Except GoError Unit :=
  if pool.id = "" ∨ pool.name ≠ allocation.poolName ∨ pool.autoscaleEnabled = true ∨
      1 < pool.sizePerZone ∨ pool.zones.map WorkerPoolZone.id ≠
        (allocation.request.zones.take 1).map WorkerPoolZone.id ∨
      pool.flavor ≠ allocation.request.flavor then
    .error (.plain "worker pool does not match the isolated allocation")
  else
    match leastKey (ownerLabels allocation)
        (fun key value => StringMap.read pool.labels key ≠ value) with
    | some key => .error (.plain ("worker pool ownership mismatch for " ++ key))
    | none =>
      if allocation.poolID ≠ "" ∧ pool.id ≠ allocation.poolID then
        .error (.plain "worker pool identity changed")
      else .ok ()

/-- `pending`: the launch goes on, the worker is not there yet. -/
def pendingError (message : String) : GoError :=
  newCreateError (.plain message) "WorkerProvisioning" message

def validateTarget (target : IKSTarget) (accountID region : String) : Except GoError Unit :=
  if target.accountID ≠ accountID ∨
      (region ≠ "" ∧ target.region ≠ "" ∧ target.region ≠ region) then
    .error (.plain ("IKS client account or region differs from the immutable allocation; " ++
      "retaining ownership"))
  else .ok ()

def workerProviderID (accountID clusterID workerID : String) : String :=
  "ibm://" ++ accountID ++ "///" ++ clusterID ++ "/" ++ workerID

def workerNode (accountID clusterID region : String) (worker : IKSWorkerDetails) : Node where
  name := worker.id
  uid := ""
  labels := ((((((Finmap.singleton instanceTypeLabel worker.flavor).insert zoneLabel
    worker.location).insert regionLabel region).insert capacityTypeLabel
    capacityTypeOnDemand).insert clusterIDAnnotation clusterID).insert poolIDAnnotation
    worker.poolID).insert workerIDAnnotation worker.id
  annotations := ∅
  finalizers := []
  deletionTimestamp := none
  providerID := workerProviderID accountID clusterID worker.id
  capacity := ∅
  allocatable := ∅

def nodeForAllocation (allocation : Allocation) (worker : IKSWorkerDetails) : Node :=
  let node := workerNode allocation.accountID allocation.clusterID allocation.region worker
  { node with
    name := allocation.claimName
    labels := (allocation.labels ∪ node.labels).insert nodePoolLabel allocation.nodePool
    annotations := ((((((((Finmap.singleton allocationAnnotation (.allocation allocation)).insert
      backendAnnotation (.text "iks")).insert regionAnnotation (.text allocation.region)).insert
      clusterIDAnnotation (.text allocation.clusterID)).insert poolIDAnnotation
      (.text allocation.poolID)).insert workerIDAnnotation (.text allocation.workerID)).insert
      accountIDAnnotation (.text allocation.accountID)).insert nodeClassHashAnnotation
      (.text allocation.hash)).insert nodeClassHashVersionAnnotation (.text nodeClassHashVersion) }

/-! ## A new allocation -/

section
variable (platform : Platform)

def labelsOfType (instanceType : InstanceType) : StringMap :=
  instanceType.requirements.foldl
    (fun labels requirement =>
      if platform.scheduling.operator requirement = .In ∧
          platform.scheduling.len requirement = 1 then
        labels.insert requirement.key ((platform.scheduling.values requirement).headD "")
      else labels)
    ∅

def mergeLabels (labels extra : StringMap) : Except GoError StringMap :=
  match leastKey extra (fun key value =>
      (labels.lookup key).any fun actual => decide (actual ≠ value)) with
  | some key =>
    .error (.plain ("IKS label " ++ key ++ " conflicts with the selected flavor or zone"))
  | none => .ok (filterKeys (fun key => !reservedTag key) extra ∪ labels)

def resolvedLabels (claim : NodeClaim) (nodeClass : IBMNodeClass)
    (pools : IKSDynamicPoolConfig) (flavor : String) (instanceType : InstanceType) :
    Except GoError StringMap :=
  let base := (((labelsOfType platform instanceType).insert instanceTypeLabel flavor).insert
    zoneLabel nodeClass.spec.zone).insert regionLabel nodeClass.spec.region |>.insert
    capacityTypeLabel capacityTypeOnDemand
  match mergeLabels base claim.labels with
  | .error error => .error error
  | .ok labels => mergeLabels labels pools.labels

def maximumPrice (nodeClass : IBMNodeClass) : Except GoError (Option Rat) :=
  match nodeClass.spec.instanceRequirements with
  | none => .ok none
  | some requirements =>
    if requirements.maximumHourlyPrice = "" then .ok none
    else
      match platform.parsePrice requirements.maximumHourlyPrice with
      | none => .error (.plain "IKS maximum hourly price is invalid")
      | some price =>
        if price < 0 then .error (.plain "IKS maximum hourly price is invalid")
        else .ok (some price)

def offeringMatches (nodeClass : IBMNodeClass) (offering : Offering) : Bool :=
  offering.available && platform.scheduling.compatible offering.requirements
    [⟨zoneLabel, .In, [nodeClass.spec.zone]⟩, ⟨capacityTypeLabel, .In, [capacityTypeOnDemand]⟩]

def knownPrice (offering : Offering) : Option Rat :=
  offering.price.filter fun price => 0 < price

def withinPrice (limit : Option Rat) (offering : Offering) : Bool :=
  match limit with
  | none => true
  | some maximum => (knownPrice offering).any fun price => decide (price ≤ maximum)

def checkOfferings (claim : NodeClaim) (nodeClass : IBMNodeClass) (limit : Option Rat)
    (instanceType : InstanceType) : Except GoError Unit :=
  let matching := instanceType.offerings.filter (offeringMatches platform nodeClass)
  let available := matching.any (withinPrice limit)
  let unknownPrice := limit.isSome && matching.any fun offering => (knownPrice offering).isNone
  if available = false ∧ unknownPrice = true then
    .error (.plain "IKS offering price is unavailable; retry when pricing resolves")
  else if available = false ∨
      platform.scheduling.fits claim.requests instanceType.allocatable = false then
    .error (.plain "IKS flavor has no compatible capacity for the NodeClaim")
  else .ok ()

def getInstanceType (flavor : String) (nodeClass : IBMNodeClass) : Program InstanceType :=
  wrapped "getting IKS flavor capacity: " (.call (.getInstanceType flavor nodeClass) answered)

def meetsRequirements (nodeClass : IBMNodeClass) (flavor : String) : Program Unit :=
  match nodeClass.spec.instanceRequirements with
  | none => pure ()
  | some _ => do
    let filtered ← (.call (.filterInstanceTypes nodeClass) answered : Program (List InstanceType))
    if filtered.any fun candidate => decide (candidate.name = flavor) then pure ()
    else failWith ("IKS flavor " ++ flavor ++ " does not meet NodeClass instance requirements")

def validateInstanceType (claim : NodeClaim) (nodeClass : IBMNodeClass)
    (pools : IKSDynamicPoolConfig) (flavor : String) : Program StringMap := do
  let instanceType ← getInstanceType flavor nodeClass
  if instanceType.name ≠ flavor then
    failWith "IKS flavor is missing from the instance type catalog"
  else do
    meetsRequirements nodeClass flavor
    let labels ← ofExcept (resolvedLabels platform claim nodeClass pools flavor instanceType)
    wrapped "IKS flavor or zone does not satisfy NodeClaim requirements: "
      (answered (platform.scheduling.labelsCompatible labels claim.requirements))
    let limit ← ofExcept (maximumPrice platform nodeClass)
    ofExcept (checkOfferings platform claim nodeClass limit instanceType)
    pure labels

def getIKSClient : Program IKSTarget :=
  .call .iksClient answered

def getWorkerPool (clusterID pool : String) : Program WorkerPool :=
  .call (.getWorkerPool clusterID pool) answered

def isInstanceTypeAllowed (instanceType : String) (allowed : List String) : Bool :=
  decide (allowed = []) || decide (instanceType ∈ allowed)

def chooseFlavor (claim : NodeClaim) (nodeClass : IBMNodeClass) (clusterID : String) :
    Program String :=
  let flavor :=
    if nodeClass.spec.instanceProfile = "" then StringMap.read claim.labels instanceTypeLabel
    else nodeClass.spec.instanceProfile
  if nodeClass.spec.iksWorkerPoolID = "" then pure flavor
  else do
    let template ← wrapped "getting worker pool template: "
      (getWorkerPool clusterID nodeClass.spec.iksWorkerPoolID)
    if flavor ≠ "" ∧ template.flavor ≠ flavor then
      failWith "worker pool template flavor conflicts with the requested instance profile"
    else pure template.flavor

def poolLabels (claim : NodeClaim) (nodeClass : IBMNodeClass) (pools : IKSDynamicPoolConfig)
    (cluster : String) : StringMap :=
  (((((filterKeys (fun key => !reservedTag key && !platform.scheduling.wellKnown key)
    pools.labels).insert nodePoolLabel (StringMap.read claim.labels nodePoolLabel)).insert
    managedLabel "true").insert providerLabel "iks").insert clusterUIDLabel cluster).insert
    claimUIDLabel claim.uid |>.insert nodeClassUIDLabel nodeClass.uid

def allocationFor (claim : NodeClaim) (nodeClass : IBMNodeClass) (pools : IKSDynamicPoolConfig)
    (clusterID cluster flavor hash : String) (labels : StringMap) (instanceType : InstanceType) :
    Allocation where
  claimName := claim.name
  claimUID := claim.uid
  nodeClassUID := nodeClass.uid
  clusterUID := cluster
  clusterID := clusterID
  accountID := platform.configuredAccount
  region := nodeClass.spec.region
  «namespace» := platform.allocationNamespace
  poolName := poolNameOf platform cluster claim.uid
  poolID := ""
  workerID := ""
  nodePool := StringMap.read claim.labels nodePoolLabel
  hash := hash
  labels := labels
  capacity := instanceType.capacity
  allocatable := instanceType.allocatable
  request :=
    { name := poolNameOf platform cluster claim.uid
      flavor := flavor
      sizePerZone := 1
      zones := [⟨nodeClass.spec.zone, nodeClass.spec.subnet⟩]
      labels := poolLabels platform claim nodeClass pools cluster
      diskEncryption := pools.diskEncryption.getD true
      vpcID := nodeClass.spec.vpc }

def clusterIDFor (nodeClass : IBMNodeClass) : String :=
  if nodeClass.spec.iksClusterID = "" then platform.configuredCluster
  else nodeClass.spec.iksClusterID

/-- The part of `newAllocation` after the checks of the NodeClass. -/
def buildAllocation (claim : NodeClaim) (nodeClass : IBMNodeClass) (pools : IKSDynamicPoolConfig)
    (clusterID : String) : Program Allocation := do
  let cluster ← clusterUID
  if accountMatches platform.configuredAccount = false then
    failWith "IBM_ACCOUNT_ID must be a 32-character hexadecimal account identity"
  else if platform.clientRegion ≠ "" ∧ platform.clientRegion ≠ nodeClass.spec.region then
    failWith "IKS client region does not match NodeClass region"
  else do
    let flavor ← chooseFlavor claim nodeClass clusterID
    if flavor = "" ∨ nodeClass.spec.zone = "" ∨ nodeClass.spec.vpc = "" ∨
        nodeClass.spec.subnet = "" then
      failWith "isolated IKS pools require an instance profile, zone, VPC and subnet"
    else if isInstanceTypeAllowed flavor pools.allowedInstanceTypes = false then
      failWith ("instance type " ++ flavor ++ " is not in allowed list")
    else do
      let labels ← validateInstanceType platform claim nodeClass pools flavor
      let instanceType ← getInstanceType flavor nodeClass
      let hash ← answered (platform.provisioningHash nodeClass.spec)
      pure (allocationFor platform claim nodeClass pools clusterID cluster flavor hash labels
        instanceType)

def newAllocation (claim : NodeClaim) (className : String) : Program Allocation := do
  let nodeClass ← wrapped ("getting NodeClass " ++ className ++ ": ") (getNodeClass className)
  if clusterIDFor platform nodeClass = "" then
    failWith "IKS cluster ID not found in NodeClass or environment"
  else do
    let _ ← getIKSClient
    match nodeClass.spec.iksDynamicPools with
    | none =>
      failWith ("IKS provisioning requires iksDynamicPools.enabled: shared worker pools cannot " ++
        "provide exact NodeClaim deletion")
    | some pools =>
      if pools.enabled = false then
        failWith ("IKS provisioning requires iksDynamicPools.enabled: shared worker pools " ++
          "cannot provide exact NodeClaim deletion")
      else if claim.uid = "" ∨ nodeClass.uid = "" then
        failWith "NodeClaim and NodeClass require immutable UIDs"
      else if isReady nodeClass = false then
        failWith "NodeClass readiness is stale or unavailable"
      else buildAllocation platform claim nodeClass pools (clusterIDFor platform nodeClass)

/-! ## Creating -/

def currentClaim (nodeClaim : NodeClaim) : Program NodeClaim := do
  match ← (getClaim nodeClaim.name).attempt with
  | .ok fresh =>
    if fresh.uid ≠ nodeClaim.uid then failWith "NodeClaim identity changed" else pure fresh
  | .error error =>
    if isKube .notFound error then pure nodeClaim
    else .fail (.wrap "reading NodeClaim: " error "")

def allocationFrom (claim : NodeClaim) : Program Allocation := do
  match ← ofExcept (decodeAllocation (allocationOf claim)) with
  | some allocation => pure allocation
  | none =>
    match claim.nodeClassRef with
    | none => failWith "NodeClaim must reference a NodeClass"
    | some className => newAllocation platform claim className

def withPoolLock {α : Type} (clusterID poolName : String) (body : Program α) : Program α := do
  (.call (.lockPool clusterID poolName) .pure : Program Unit)
  let outcome ← body.attempt
  (.call (.unlockPool clusterID poolName) .pure : Program Unit)
  ofExcept outcome

structure Obtained where
  pool : WorkerPool
  allocation : Allocation
  reservation : ConfigMap

def requestPool (allocation : Allocation) (reservation : ConfigMap) : Program Obtained := do
  let creating ← updateReservation reservation allocation .creating
  match ← (.call (.createWorkerPool allocation.clusterID allocation.request) answered :
      Program WorkerPool).attempt with
  | .error error =>
    if rejectedCreate error then do
      match ← (updateReservation creating allocation .rejected).attempt with
      | .ok _ =>
        .fail (.wrap ("creating reserved worker pool " ++ allocation.poolName ++ ": ") error "")
      | .error recording =>
        .fail (.wrap ("recording rejected worker pool " ++ allocation.poolName ++ " after ") error
          (": " ++ recording.text))
    else .fail (.wrap ("creating reserved worker pool " ++ allocation.poolName ++ ": ") error "")
  | .ok created =>
    if created.id = "" then
      .fail (pendingError "waiting for the reserved worker pool identity")
    else do
      let owned := { allocation with poolID := created.id }
      let active ← updateReservation creating owned .active
      checkpoint owned
      let pool ← wrapped "verifying created worker pool: "
        (getWorkerPool allocation.clusterID created.id)
      pure ⟨pool, owned, active⟩

def obtainPool (allocation : Allocation) (reservation : ConfigMap) : Program Obtained := do
  match ← (getWorkerPool allocation.clusterID allocation.poolName).attempt with
  | .ok pool => pure ⟨pool, allocation, reservation⟩
  | .error error =>
    if IKSClient.isNotFound error = false then
      .fail (.wrap "looking up reserved worker pool: " error "")
    else do
      let time ← now
      if creationUncertain reservation time then
        .fail (pendingError ("worker pool creation outcome remains uncertain; waiting for " ++
          "authoritative visibility"))
      else if allocation.poolID ≠ "" then
        failWith ("allocated worker pool " ++ allocation.poolID ++ " disappeared")
      else requestPool allocation reservation

def primarySubnet (worker : IKSWorkerDetails) : String :=
  ((worker.networkInterfaces.find? NetworkInterface.primary).map NetworkInterface.subnetID).getD ""

def workerIn (poolID : String) (worker : IKSWorkerDetails) : Bool :=
  decide (worker.poolID = poolID) && decide (worker.actualState ≠ "deleted")

def selectWorker (allocation : Allocation) (poolID : String) :
    List IKSWorkerDetails → Option IKSWorkerDetails → Except GoError (Option IKSWorkerDetails)
  | [], selected => .ok selected
  | worker :: rest, selected =>
    if workerIn poolID worker = false then selectWorker allocation poolID rest selected
    else if selected.isSome then
      .error (.plain ("isolated pool " ++ poolID ++ " contains more than one worker"))
    else if worker.id = "" ∨ some worker.location ≠ allocation.request.zones.head?.map (·.id) ∨
        worker.flavor ≠ allocation.request.flavor then
      .error (.plain "worker does not match the reserved zone and flavor")
    else if primarySubnet worker = "" then
      .error (pendingError "waiting for the worker network identity")
    else if some (primarySubnet worker) ≠ allocation.request.zones.head?.map (·.subnetID) then
      .error (.plain "worker subnet differs from the immutable allocation; retaining ownership")
    else selectWorker allocation poolID rest (some worker)

def listWorkers (clusterID : String) : Program (List IKSWorkerDetails) :=
  .call (.listWorkers clusterID) answered

def registeredIn (nodes : List Node) (providerID : String) : Except GoError (Option Node) :=
  match nodes.filter fun node => decide (node.providerID = providerID) with
  | [] => .ok none
  | [node] => .ok (some node)
  | _ => .error (.plain "multiple Nodes have the allocated provider ID")

def registeredNode (providerID : String) : Program (Option Node) := do
  let nodes ← wrapped "listing registered workers: " listNodes
  ofExcept (registeredIn nodes providerID)

def quantity (resources : ResourceList) (name : String) : Int :=
  (resources.lookup name).getD 0

def reportsResources (node : Node) : Bool :=
  decide (quantity node.capacity "cpu" ≠ 0) && decide (quantity node.capacity "memory" ≠ 0) &&
    decide (quantity node.allocatable "cpu" ≠ 0) && decide (quantity node.allocatable "memory" ≠ 0)

def unregisteredResult (allocation : Allocation) (result : Node) : Except GoError Node :=
  if allocation.capacity = ∅ ∨ allocation.allocatable = ∅ then
    .error (pendingError "waiting for the allocated worker to register its resources")
  else
    .ok { result with capacity := allocation.capacity, allocatable := allocation.allocatable }

/-- The node `createAllocation` returns for a worker. -/
def resultNode (claim : NodeClaim) (allocation : Allocation) (worker : IKSWorkerDetails)
    (registered : Option Node) : Except GoError Node :=
  let result := nodeForAllocation allocation worker
  match registered with
  | none => unregisteredResult allocation result
  | some node =>
    if reportsResources node = false then unregisteredResult allocation result
    else if platform.scheduling.fits claim.requests node.allocatable = false then
      .error (.plain "registered IKS worker resources do not satisfy the NodeClaim requests")
    else
      match leastKey allocation.labels (fun key value =>
          (node.labels.lookup key).any fun actual => decide (actual ≠ value)) with
      | some key =>
        .error (.plain ("registered IKS worker label " ++ key ++
          " differs from the provisioning snapshot"))
      | none =>
        .ok { result with
          name := node.name, capacity := node.capacity, allocatable := node.allocatable }

def bindWorker (claim : NodeClaim) (obtained : Obtained) : Program Node := do
  ofExcept (validatePool obtained.pool obtained.allocation)
  if obtained.pool.sizePerZone ≠ 1 then
    failWith "reserved IKS pool no longer targets one worker"
  else do
    let owned := { obtained.allocation with poolID := obtained.pool.id }
    let workers ← wrapped "listing allocated workers: " (listWorkers owned.clusterID)
    match ← ofExcept (selectWorker owned obtained.pool.id workers none) with
    | none => .fail (pendingError "waiting for the reserved worker to be provisioned")
    | some worker =>
      if owned.workerID ≠ "" ∧ owned.workerID ≠ worker.id then
        failWith "allocated worker identity changed"
      else do
        let bound := { owned with workerID := worker.id }
        let _ ← updateReservation obtained.reservation bound .active
        checkpoint bound
        let registered ← registeredNode (nodeForAllocation bound worker).providerID
        ofExcept (resultNode platform claim bound worker registered)

/-- The part of `createAllocation` under the lock. -/
def createLocked (claim : NodeClaim) (allocation : Allocation) : Program Node := do
  if allocation.claimUID ≠ claim.uid then failWith "allocation belongs to another NodeClaim"
  else do
    checkpoint allocation
    let reservation ← reserve platform allocation
    let restored ← ofExcept (restoreReservation allocation reservation)
    if phaseOf reservation = .text ReservationPhase.deleting.text then
      failWith "IKS allocation is terminating"
    else do
      let target ← wrapped "getting IKS client: " getIKSClient
      ofExcept (validateTarget target restored.accountID restored.region)
      let obtained ← obtainPool restored reservation
      bindWorker platform claim obtained

def createAllocation (nodeClaim : NodeClaim) : Program Node := do
  if nodeClaim.nodeClassRef = none then failWith "NodeClaim must reference a NodeClass"
  else do
    let claim ← currentClaim nodeClaim
    let allocation ← allocationFrom platform claim
    if claim.deletionTimestamp ≠ none then failWith "NodeClaim is terminating"
    else do
      let cluster ← clusterUID
      if cluster ≠ allocation.clusterUID then
        failWith "IKS allocation belongs to another cluster"
      else
        withPoolLock allocation.clusterID allocation.poolName
          (createLocked platform claim allocation)

/-! ## Deleting -/

/-- `NodeClassLabelKey` of an IBMNodeClass. -/
def nodeClassLabel : String := "karpenter-ibm.sh/ibmnodeclass"

def getWorkerDetails (clusterID workerID : String) : Program IKSWorkerDetails :=
  .call (.getWorkerDetails clusterID workerID) answered

/-- `client.IgnoreNotFound` on the error of a program. -/
def ignoringNotFound (program : Program Unit) : Program Unit := do
  match ← program.attempt with
  | .ok _ => pure ()
  | .error error => if isKube .notFound error then pure () else .fail error

def workerGone (clusterID workerID : String) : Program Bool := do
  match ← (getWorkerDetails clusterID workerID).attempt with
  | .ok worker => pure (decide (worker.actualState = "deleted"))
  | .error error => if IKSClient.isNotFound error then pure true else .fail error

def poolAbsent (poolName : String) : GoError :=
  newNodeClaimNotFoundError (.plain ("allocated worker pool " ++ poolName ++ " is absent"))

def releaseReservation (allocation : Allocation) (reservation : ConfigMap) : Program Unit := do
  let time ← now
  if creationUncertain reservation time = true ∧ allocation.poolID = "" then
    failWith "pool creation outcome remains uncertain; retaining allocation reservation"
  else do
    let gone ←
      if allocation.workerID = "" then pure true
      else workerGone allocation.clusterID allocation.workerID
    if gone = false then failWith "allocated worker still exists after pool removal"
    else do
      wrapped ("releasing worker pool reservation " ++
          reservationName platform allocation.clusterID allocation.poolName ++ ": ")
        (ignoringNotFound (deleteConfigMap reservation))
      .fail (poolAbsent allocation.poolName)

def checkWorkers (allocation : Allocation) (poolID : String) :
    List IKSWorkerDetails → Nat → Except GoError Nat
  | [], count => .ok count
  | worker :: rest, count =>
    if workerIn poolID worker = false then checkWorkers allocation poolID rest count
    else if allocation.workerID ≠ "" ∧ worker.id ≠ allocation.workerID then
      .error (.plain "isolated pool contains a worker outside this allocation")
    else checkWorkers allocation poolID rest (count + 1)

def deletePool (clusterID poolID : String) : Program Unit := do
  match ← (.call (.deleteWorkerPool clusterID poolID) answered : Program Unit).attempt with
  | .ok _ => pure ()
  | .error error =>
    if IKSClient.isNotFound error then pure ()
    else .fail (.wrap "deleting allocated worker pool: " error "")

def removePool (allocation : Allocation) (reservation : ConfigMap) (pool : WorkerPool) :
    Program Unit := do
  ofExcept (validatePool pool allocation)
  let owned := { allocation with poolID := pool.id }
  let _ ← updateReservation reservation owned .deleting
  let workers ← listWorkers owned.clusterID
  let count ← ofExcept (checkWorkers owned pool.id workers 0)
  if 1 < count then failWith "isolated pool contains multiple workers"
  else deletePool owned.clusterID pool.id

/-- The part of `cleanup` under the lock. -/
def cleanupLocked (allocation : Allocation) : Program Unit := do
  let cluster ← clusterUID
  if cluster ≠ allocation.clusterUID then
    failWith "allocation belongs to another Kubernetes cluster"
  else do
    let reservation ← reserve platform allocation
    let restored ← ofExcept (restoreReservation allocation reservation)
    let deleting ← updateReservation reservation restored .deleting
    let target ← getIKSClient
    ofExcept (validateTarget target restored.accountID restored.region)
    match ← (getWorkerPool restored.clusterID restored.poolName).attempt with
    | .ok pool => removePool restored deleting pool
    | .error error =>
      if IKSClient.isNotFound error then releaseReservation platform restored deleting
      else .fail (.wrap "verifying allocated worker pool: " error "")

def cleanup (allocation : Allocation) : Program Unit :=
  withPoolLock allocation.clusterID allocation.poolName (cleanupLocked platform allocation)

def deleteAllocation (node : Node) : Program Unit := do
  match ← ofExcept (decodeAllocation (ValueMap.read node.annotations allocationAnnotation)) with
  | none =>
    failWith ("cluster ID or pool ID not found in durable IKS allocation; refusing " ++
      "shared-pool deletion")
  | some allocation =>
    if allocation.claimUID ≠ node.uid then failWith "allocation owner identity mismatch"
    else if allocation.workerID = "" ∨ node.providerID ≠
        workerProviderID allocation.accountID allocation.clusterID allocation.workerID then
      failWith "IKS deletion provider identity differs from the immutable allocation"
    else cleanup platform allocation

def allocationGone : GoError :=
  newNodeClaimNotFoundError (.plain "allocated pool and worker are absent")

/-- The part of `ConfirmGone` under the lock, after the pool and its worker are gone. -/
def dropReservation (allocation : Allocation) : Program Unit := do
  match ← (getConfigMap allocation.namespace
      (reservationName platform allocation.clusterID allocation.poolName)).attempt with
  | .error error => if isKube .notFound error then .fail allocationGone else .fail error
  | .ok reservation =>
    if ownsReservation allocation reservation = false then
      failWith "reservation ownership changed"
    else do
      ignoringNotFound (deleteConfigMap reservation)
      .fail allocationGone

/-- The part of `ConfirmGone` under the lock. -/
def confirmGoneLocked (allocation : Allocation) : Program Unit := do
  let cluster ← clusterUID
  if cluster ≠ allocation.clusterUID then failWith "allocation belongs to another cluster"
  else do
    let target ← getIKSClient
    ofExcept (validateTarget target allocation.accountID allocation.region)
    match ← (getWorkerPool allocation.clusterID allocation.poolName).attempt with
    | .ok _ => pure ()
    | .error error =>
      if IKSClient.isNotFound error = false then .fail error
      else if allocation.workerID = "" then
        failWith "bound IKS allocation has no worker identity"
      else do
        let gone ← workerGone allocation.clusterID allocation.workerID
        if gone then dropReservation platform allocation else pure ()

def confirmGone (claim : NodeClaim) : Program Unit := do
  match ← ofExcept (decodeAllocation (allocationOf claim)) with
  | none => failWith "IKS allocation identity is missing or changed"
  | some allocation =>
    if allocation.claimUID ≠ claim.uid then
      failWith "IKS allocation identity is missing or changed"
    else if claim.providerID ≠
        workerProviderID allocation.accountID allocation.clusterID allocation.workerID then
      failWith "bound IKS provider identity differs from the immutable allocation"
    else
      withPoolLock allocation.clusterID allocation.poolName
        (confirmGoneLocked platform allocation)

def ownsNode (allocation : Allocation) (node : Node) : Bool :=
  (decide (StringMap.read node.labels claimUIDLabel = allocation.claimUID) &&
      decide (StringMap.read node.labels clusterUIDLabel = allocation.clusterUID)) ||
    (decide (allocation.workerID ≠ "") && decide (node.providerID =
      workerProviderID allocation.accountID allocation.clusterID allocation.workerID))

def terminationOwned (allocation : Allocation) (node : Node) : Bool :=
  decide (terminationFinalizer ∈ node.finalizers) &&
    decide (StringMap.read node.labels nodeClassLabel ≠ "") &&
    decide (StringMap.read node.labels nodePoolLabel = allocation.nodePool)

def deleteNodes (allocation : Allocation) (nodes : List Node) : Program Unit :=
  forEach
    (fun node =>
      if terminationOwned allocation node = false then
        failWith ("pending IKS worker has a Node without established graceful termination " ++
          "ownership; retaining allocation")
      else if node.deletionTimestamp ≠ none then pure ()
      else ignoringNotFound (deleteNode node))
    nodes

/-- `Cleanup`. -/
def cleanupClaim (claim : NodeClaim) : Program Unit := do
  if claim.providerID ≠ "" then confirmGone platform claim
  else do
    match ← ofExcept (decodeAllocation (allocationOf claim)) with
    | none => .fail (newNodeClaimNotFoundError (.plain "no IKS allocation"))
    | some allocation =>
      if allocation.claimUID ≠ claim.uid then failWith "allocation owner identity mismatch"
      else do
        let nodes ← listNodes
        let owned := nodes.filter (ownsNode allocation)
        deleteNodes allocation owned
        if owned ≠ [] then pure () else cleanup platform allocation

/-! ## The allocation controller -/

/-- `Reconcile` of `pkg/controllers/iks/allocation`. -/
def reconcile (name : String) : Program Unit := do
  match ← (getClaim name).attempt with
  | .error error => if isKube .notFound error then pure () else .fail error
  | .ok claim =>
    if claim.deletionTimestamp = none ∨ allocationFinalizer ∉ claim.finalizers then pure ()
    else do
      match ← (if claim.providerID = "" then cleanupClaim platform claim
          else confirmGone platform claim).attempt with
      | .ok _ => pure ()
      | .error error =>
        if isNodeClaimNotFoundError error = false then .fail error
        else do
          match ← (patchClaim claim
              { claim with
                finalizers := removeFinalizer claim.finalizers allocationFinalizer }).attempt with
          | .ok _ => pure ()
          | .error failure =>
            if isKube .conflict failure = true ∨ isKube .notFound failure = true then pure ()
            else .fail failure

/-- The node `CloudProvider.Delete` hands to the provider. -/
def nodeOfClaim (claim : NodeClaim) : Node where
  name := claim.name
  uid := claim.uid
  labels := claim.labels
  annotations := claim.annotations
  finalizers := []
  deletionTimestamp := none
  providerID := claim.providerID
  capacity := ∅
  allocatable := ∅

/-- `Delete` as the termination of a claim runs it: on a claim that is being deleted. -/
def deleteClaim (name : String) : Program Unit := do
  let claim ← getClaim name
  if claim.deletionTimestamp = none then pure ()
  else deleteAllocation platform (nodeOfClaim claim)

end

/-! ## A small cluster

One claim with its pool and its worker.  The runs of the model that exhibit a
behaviour start here. -/

def samplePlatform : Platform where
  digest26 _ := "d"
  digest24 _ := "d"
  digest20 _ := "d"
  provisioningHash _ := .ok "h"
  configuredAccount := "0123456789abcdef0123456789abcdef"
  configuredCluster := "y"
  clientRegion := "r"
  allocationNamespace := "s"
  parsePrice _ := none
  scheduling := ⟨fun _ => 0, fun _ => [], fun requirement => requirement.operator, fun _ _ => true,
    fun _ _ => true, fun _ _ _ => false, fun _ _ => .ok (), fun _ => false, fun _ _ => true⟩

def sampleAllocation : Allocation where
  claimName := "c"
  claimUID := "u"
  nodeClassUID := "k"
  clusterUID := "x"
  clusterID := "y"
  accountID := "0123456789abcdef0123456789abcdef"
  region := "r"
  «namespace» := "s"
  poolName := "karp-d"
  poolID := "p"
  workerID := "w"
  nodePool := "q"
  hash := "h"
  labels := ∅
  capacity := ∅
  allocatable := ∅
  request := ⟨"karp-d", "f", 1, [⟨"z", "t"⟩], ∅, true, "v"⟩

def samplePool : WorkerPool where
  id := "p"
  name := "karp-d"
  flavor := "f"
  sizePerZone := 1
  labels := ownerLabels sampleAllocation
  zones := [⟨"z", "t"⟩]
  autoscaleEnabled := false

def sampleWorker : IKSWorkerDetails where
  id := "w"
  flavor := "f"
  location := "z"
  poolID := "p"
  networkInterfaces := [⟨"t", true⟩]
  actualState := "deployed"

def sampleNode : Node where
  name := "c"
  uid := "u"
  labels := ∅
  annotations := Finmap.singleton allocationAnnotation (.allocation sampleAllocation)
  finalizers := []
  deletionTimestamp := none
  providerID := workerProviderID sampleAllocation.accountID "y" "w"
  capacity := ∅
  allocatable := ∅

end KarpenterIBM.IKSAllocation
