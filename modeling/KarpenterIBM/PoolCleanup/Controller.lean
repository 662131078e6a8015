import KarpenterIBM.IKS.Allocation

/-!
# The empty pool cleanup

`cleanupEmptyPools` of `pkg/controllers/iks/poolcleanup` and `TryDeleteEmptyPool` of
`pkg/providers/iks/workerpool`.
-/

namespace KarpenterIBM.PoolCleanup

open Calls (IKSTarget)
open EffectProgram Errors IKSAllocation Objects Ownership

/-! ## Objects -/

structure Pool where
  id : String
  name : String
  sizePerZone : Int
  actualSize : Int
  labels : StringMap
  autoscaleEnabled : Bool
deriving DecidableEq

structure Worker where
  poolID : String
  actualState : String
deriving DecidableEq

structure CleanupPolicy where
  emptyPoolTTL : String
  deleteOnEmpty : Option Bool
deriving DecidableEq

structure DynamicPools where
  enabled : Bool
  cleanupPolicy : Option CleanupPolicy
deriving DecidableEq

/-- A NodeClass as far as this controller reads it. -/
structure NodeClass where
  name : String
  uid : String
  region : String
  iksClusterID : String
  iksDynamicPools : Option DynamicPools
deriving DecidableEq

/-! ## Interface -/

/-- A nil pool or worker of an answer is `none`. -/
inductive Call where
  | getNamespaceUID
  | now
  | getNodeClass (name : String)
  | listClaims
  | getConfigMap («namespace» name : String)
  | createConfigMap (reservation : ConfigMap)
  | patchConfigMap (stored patched : ConfigMap)
  | lockPool (clusterID poolName : String)
  | unlockPool (clusterID poolName : String)
  | listWorkerPools (clusterID : String)
  | getWorkerPool (clusterID poolID : String)
  | listWorkers (clusterID : String)
  | deleteWorkerPool (clusterID poolID : String)

def Call.Answer : Call → Type
  | .getNamespaceUID => Except GoError String
  | .now => Int
  | .getNodeClass _ => Except GoError NodeClass
  | .listClaims => Except GoError (List NodeClaim)
  | .getConfigMap _ _ => Except GoError ConfigMap
  | .createConfigMap _ => Except GoError Unit
  | .patchConfigMap _ _ => Except GoError Unit
  | .lockPool _ _ => Unit
  | .unlockPool _ _ => Unit
  | .listWorkerPools _ => Except GoError (List (Option Pool))
  | .getWorkerPool _ _ => Except GoError (Option Pool)
  | .listWorkers _ => Except GoError (List (Option Worker))
  | .deleteWorkerPool _ _ => Except GoError Unit

abbrev cleaning : Signature := ⟨Call, Call.Answer⟩

abbrev Program (α : Type) : Type := Prog cleaning GoError α

def getNamespaceUID : Program String := .call .getNamespaceUID ofExcept

def now : Program Int := .call .now .pure

def getNodeClass (name : String) : Program NodeClass := .call (.getNodeClass name) ofExcept

def listClaims : Program (List NodeClaim) := .call .listClaims ofExcept

def getConfigMap («namespace» name : String) : Program ConfigMap :=
  .call (.getConfigMap «namespace» name) ofExcept

def createConfigMap (reservation : ConfigMap) : Program Unit :=
  .call (.createConfigMap reservation) ofExcept

def patchConfigMap (stored patched : ConfigMap) : Program Unit :=
  .call (.patchConfigMap stored patched) ofExcept

def listWorkerPools (clusterID : String) : Program (List (Option Pool)) :=
  .call (.listWorkerPools clusterID) ofExcept

def getWorkerPool (clusterID poolID : String) : Program (Option Pool) :=
  .call (.getWorkerPool clusterID poolID) ofExcept

def listWorkers (clusterID : String) : Program (List (Option Worker)) :=
  .call (.listWorkers clusterID) ofExcept

def deleteWorkerPool (clusterID poolID : String) : Program Unit :=
  .call (.deleteWorkerPool clusterID poolID) ofExcept

/-- What the controller is set up with: the platform, the account and region of its IKS
client if the client names them, and `time.ParseDuration`. -/
structure Setup where
  platform : Platform
  target : Option IKSTarget
  parseDuration : String → Option Int

def clusterUID : Program String := do
  let uid ← getNamespaceUID.mapError fun error => .wrap "reading cluster identity: " error ""
  if uid = "" then .fail (.plain "kube-system namespace has no UID")
  else pure uid

/-! ## Deleting one pool -/

def reservationCleanupKey : String := "cleanup"
def reservationClusterIDKey : String := "clusterID"
def reservationPoolIDKey : String := "poolID"
def reservationAccountIDKey : String := "accountID"
def reservationRegionKey : String := "region"

/-- The arguments of `TryDeleteEmptyPool`. -/
structure Candidate where
  clusterID : String
  clusterUID : String
  classUID : String
  pool : Pool
  accountID : String
  region : String

def ownedBy (clusterUID classUID : String) (pool : Pool) : Bool :=
  decide (StringMap.read pool.labels managedLabel = "true") &&
    decide (StringMap.read pool.labels providerLabel = "iks") &&
    decide (StringMap.read pool.labels clusterUIDLabel = clusterUID) &&
    decide (StringMap.read pool.labels nodeClassUIDLabel = classUID) &&
    decide (StringMap.read pool.labels claimUIDLabel = "")

def unchanged (candidate : Candidate) (fresh : Pool) : Bool :=
  decide (fresh.id = candidate.pool.id) && decide (fresh.name = candidate.pool.name) &&
    decide (fresh.sizePerZone = 0) && !fresh.autoscaleEnabled &&
    ownedBy candidate.clusterUID candidate.classUID fresh

def liveIn (poolID : String) : Option Worker → Bool
  | none => false
  | some worker => decide (worker.poolID = poolID) && decide (worker.actualState ≠ "deleted")

def refersTo (candidate : Candidate) (claim : NodeClaim) (allocation : Option Allocation) : Bool :=
  allocation.any (fun record => decide (record.clusterID = candidate.clusterID) &&
      decide (record.poolName = candidate.pool.name)) ||
    (decide (ValueMap.read claim.annotations clusterIDAnnotation = .text candidate.clusterID) &&
      decide (ValueMap.read claim.annotations poolIDAnnotation = .text candidate.pool.id))

def someClaimRefers (candidate : Candidate) : List NodeClaim → Except GoError Bool
  | [] => .ok false
  | claim :: rest =>
    match decodeAllocation (allocationOf claim) with
    | .error error => .error error
    | .ok allocation =>
      if refersTo candidate claim allocation then .ok true
      else someClaimRefers candidate rest

variable (setup : Setup) (candidate : Candidate)

def newCleanupReservation : ConfigMap where
  name := reservationName setup.platform candidate.clusterID candidate.pool.name
  «namespace» := setup.platform.allocationNamespace
  uid := ""
  resourceVersion := 0
  labels := (((Finmap.singleton managedLabel "true").insert providerLabel "iks").insert
    clusterUIDLabel candidate.clusterUID).insert nodeClassUIDLabel candidate.classUID
  data := (((((Finmap.singleton reservationPhaseKey (.text "deleting")).insert
    reservationCleanupKey (.text "true")).insert reservationClusterIDKey
    (.text candidate.clusterID)).insert reservationPoolIDKey (.text candidate.pool.id)).insert
    reservationAccountIDKey (.text candidate.accountID)).insert reservationRegionKey
    (.text candidate.region)

def checkReservation (reservation : ConfigMap) : Except GoError Bool :=
  if ValueMap.read reservation.data reservationCleanupKey ≠ .text "true" ∨
      phaseOf reservation ≠ .text "deleting" then .ok false
  else if StringMap.read reservation.labels clusterUIDLabel ≠ candidate.clusterUID ∨
      StringMap.read reservation.labels nodeClassUIDLabel ≠ candidate.classUID then
    .error (.plain "pool cleanup reservation ownership changed")
  else if ValueMap.read reservation.data reservationAccountIDKey ≠ .text candidate.accountID ∨
      ValueMap.read reservation.data reservationRegionKey ≠ .text candidate.region then
    .error (.plain "pool cleanup target identity changed")
  else .ok true

def findReservation : Program (Option ConfigMap) := do
  let found ← (getConfigMap setup.platform.allocationNamespace
    (reservationName setup.platform candidate.clusterID candidate.pool.name)).attempt
  match found with
  | .ok reservation => pure (some reservation)
  | .error error => if isKube .notFound error then pure none else .fail error

def recordDeleting :
    Option ConfigMap → Program Unit
  | none => createConfigMap (newCleanupReservation setup candidate)
  | some reservation =>
    patchConfigMap reservation { reservation with
      data := reservation.data.insert reservationPhaseKey (.text "deleting") }

def deleteStillEmpty : Program Bool := do
  let fresh ← getWorkerPool candidate.clusterID candidate.pool.id
  if fresh.any (fun pool => unchanged candidate pool && decide (pool.actualSize = 0)) = false then
    pure false
  else do
    let workers ← listWorkers candidate.clusterID
    if workers.any (liveIn candidate.pool.id) then pure false
    else do
      let outcome ← (deleteWorkerPool candidate.clusterID candidate.pool.id).attempt
      match outcome with
      | .ok _ => pure true
      | .error error => if IKSClient.isNotFound error then pure true else .fail error

def deleteUnreferenced (stored : Option ConfigMap) : Program Bool := do
  let claims ← listClaims
  let referred ← ofExcept (someClaimRefers candidate claims)
  if referred then pure false
  else do
    let found ← (getWorkerPool candidate.clusterID candidate.pool.id).attempt
    match found with
    | .error error => if IKSClient.isNotFound error then pure false else .fail error
    | .ok fresh =>
      if fresh.any (unchanged candidate) = false then pure false
      else do
        let workers ← listWorkers candidate.clusterID
        if workers.any (liveIn candidate.pool.id) then pure false
        else do
          recordDeleting setup candidate stored
          deleteStillEmpty candidate

def deleteLocked : Program Bool := do
  let stored ← findReservation setup candidate
  match stored with
  | none => deleteUnreferenced setup candidate none
  | some reservation => do
    let goesOn ← ofExcept (checkReservation candidate reservation)
    if goesOn = false then pure false
    else deleteUnreferenced setup candidate (some reservation)

def tryDeleteEmptyPool : Program Bool :=
  if candidate.pool.id = "" ∨ candidate.pool.name = "" then
    .fail (.plain "pool cleanup requires a fresh reader and pool identity")
  else if accountMatches candidate.accountID = false ∨ candidate.region = "" then
    .fail (.plain "pool cleanup requires immutable account and region identity")
  else do
    (.call (.lockPool candidate.clusterID candidate.pool.name) .pure : Program Unit)
    let outcome ← (deleteLocked setup candidate).attempt
    (.call (.unlockPool candidate.clusterID candidate.pool.name) .pure : Program Unit)
    ofExcept outcome

/-! ## One pass over the pools of a cluster -/

def isDynamicPoolsEnabled (nodeClass : NodeClass) : Bool :=
  nodeClass.iksDynamicPools.any DynamicPools.enabled

def isCleanupEnabled (nodeClass : NodeClass) : Bool :=
  match nodeClass.iksDynamicPools.bind DynamicPools.cleanupPolicy with
  | none => true
  | some policy => policy.deleteOnEmpty.getD true

def defaultEmptyPoolTTL : Int := 15 * 60 * 1000000000

def getEmptyPoolTTL (nodeClass : NodeClass) : Int :=
  match nodeClass.iksDynamicPools.bind DynamicPools.cleanupPolicy with
  | none => defaultEmptyPoolTTL
  | some policy =>
    match setup.parseDuration policy.emptyPoolTTL with
    | some ttl => if 0 ≤ ttl then ttl else defaultEmptyPoolTTL
    | none => defaultEmptyPoolTTL

/-- Since when each pool was seen empty. -/
abbrev Tracking : Type := String → Option Int

def trackingKey (clusterID poolID : String) : String :=
  clusterID ++ "/" ++ poolID

def isEmptyPool (pool : Pool) : Bool :=
  decide (pool.sizePerZone = 0) && decide (pool.actualSize = 0)

def watches (clusterUID : String) (nodeClass : NodeClass) (pool : Pool) : Bool :=
  decide (nodeClass.uid ≠ "") && ownedBy clusterUID nodeClass.uid pool

abbrev Visit : Type := Tracking × Option GoError

def visitExpired (clusterID : String) (nodeClass : NodeClass) (candidate : Candidate)
    (tracking : Tracking) : Program Visit := do
  let found ← (getNodeClass nodeClass.name).attempt
  match found with
  | .error error => pure (tracking, some error)
  | .ok freshClass =>
    if freshClass.uid ≠ nodeClass.uid ∨ freshClass.iksClusterID ≠ clusterID ∨
        isCleanupEnabled freshClass = false ∨ isDynamicPoolsEnabled freshClass = false then
      pure (tracking, none)
    else do
      let outcome ← (tryDeleteEmptyPool setup candidate).attempt
      match outcome with
      | .error error => pure (tracking, some error)
      | .ok false => pure (tracking, none)
      | .ok true =>
        pure (Function.update tracking (trackingKey clusterID candidate.pool.id) none, none)

def visitWatched (target : IKSTarget) (clusterID clusterUID : String) (nodeClass : NodeClass)
    (pool : Pool) (tracking : Tracking) : Program Visit :=
  if isEmptyPool pool = false then
    pure (Function.update tracking (trackingKey clusterID pool.id) none, none)
  else
    match tracking (trackingKey clusterID pool.id) with
    | none => do
      let time ← now
      pure (Function.update tracking (trackingKey clusterID pool.id) (some time), none)
    | some since => do
      let time ← now
      if time - since < getEmptyPoolTTL setup nodeClass then pure (tracking, none)
      else
        visitExpired setup clusterID nodeClass
          ⟨clusterID, clusterUID, nodeClass.uid, pool, target.accountID, target.region⟩ tracking

def visit (target : IKSTarget) (clusterID clusterUID : String) (nodeClass : NodeClass)
    (entry : Option Pool) (tracking : Tracking) : Program Visit :=
  match entry with
  | none => pure (tracking, none)
  | some pool =>
    if watches clusterUID nodeClass pool = false then pure (tracking, none)
    else visitWatched setup target clusterID clusterUID nodeClass pool tracking

def visitAll (setup : Setup) (target : IKSTarget) (clusterID clusterUID : String)
    (nodeClass : NodeClass) : List (Option Pool) → Tracking → Program (Tracking × List GoError)
  | [], tracking => pure (tracking, [])
  | entry :: rest, tracking => do
    let visited ← visit setup target clusterID clusterUID nodeClass entry tracking
    let others ← visitAll setup target clusterID clusterUID nodeClass rest visited.1
    pure (others.1, visited.2.toList ++ others.2)

/-- One pass.  The result is the tracking after it and the errors of the pass. -/
def cleanupEmptyPools (clusterID : String) (nodeClass : NodeClass) (tracking : Tracking) :
    Program (Tracking × List GoError) :=
  match setup.target with
  | none =>
    pure (tracking,
      [.plain "IKS pool cleanup client has no account and region identity"])
  | some target =>
    if target.region ≠ nodeClass.region then
      pure (tracking, [.plain "IKS pool cleanup client region differs from NodeClass region"])
    else do
      let identity ← clusterUID.attempt
      match identity with
      | .error error => pure (tracking, [error])
      | .ok uid => do
        let listing ← (listWorkerPools clusterID).attempt
        match listing with
        | .error error => pure (tracking, [.wrap "listing worker pools: " error ""])
        | .ok pools => visitAll setup target clusterID uid nodeClass pools tracking

end KarpenterIBM.PoolCleanup
