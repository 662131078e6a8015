import KarpenterIBM.Errors
import KarpenterIBM.Objects
import KarpenterIBM.Lib.EffectProgram

/-!
# The load balancer controller

`pkg/controllers/nodeclaim/loadbalancer` and the registration part of
`pkg/providers/loadbalancer`.
-/

namespace KarpenterIBM.LoadBalancer

open EffectProgram Errors Objects Text

/-! ## Objects -/

structure LoadBalancerTarget where
  loadBalancerID : String
  poolName : String
  port : Int
  weight : Option Int
deriving DecidableEq

structure LoadBalancerIntegration where
  enabled : Bool
  targetGroups : List LoadBalancerTarget
  autoDeregister : Option Bool
deriving DecidableEq

/-- A NodeClass as far as this controller reads it. -/
structure NodeClass where
  loadBalancerIntegration : Option LoadBalancerIntegration
deriving DecidableEq

structure NodeClassRef where
  kind : String
  name : String
deriving DecidableEq

/-- A NodeClaim as far as this controller reads it. -/
structure Claim where
  deleting : Bool
  finalizers : List String
  annotations : StringMap
  nodeClassRef : Option NodeClassRef
  providerID : String
  nodeName : String
deriving DecidableEq

inductive AddressType where
  | internalIP
  | other
deriving DecidableEq

structure NodeAddress where
  type : AddressType
  address : String
deriving DecidableEq

structure Pool where
  name : Option String
  id : String
deriving DecidableEq

structure Member where
  id : String
  target : Option String
deriving DecidableEq

/-! ## Interface -/

inductive Call where
  | getClaim
  | getNodeClass (name : String)
  | getNode (name : String)
  | updateClaim (claim : Claim)
  | timestamp
  | listPools (loadBalancerID : String)
  | createMember (loadBalancerID poolID instanceID : String) (port weight : Int)
  | listMembers (loadBalancerID poolID : String)
  | deleteMember (loadBalancerID poolID memberID : String)

def Call.Answer : Call → Type
  | .getClaim => Except GoError Claim
  | .getNodeClass _ => Except GoError NodeClass
  | .getNode _ => Except GoError (List NodeAddress)
  | .updateClaim _ => Except GoError Unit
  | .timestamp => String
  | .listPools _ => Except GoError (List Pool)
  | .createMember _ _ _ _ _ => Except GoError String
  | .listMembers _ _ => Except GoError (List Member)
  | .deleteMember _ _ _ => Except GoError Unit

abbrev balancer : Signature := ⟨Call, Call.Answer⟩

abbrev Program (α : Type) : Type := Prog balancer GoError α

def getClaim : Program Claim := .call .getClaim ofExcept

def updateClaim (claim : Claim) : Program Unit := .call (.updateClaim claim) ofExcept

def timestamp : Program String := .call .timestamp .pure

def listPools (loadBalancerID : String) : Program (List Pool) :=
  .call (.listPools loadBalancerID) ofExcept

def createMember (loadBalancerID poolID instanceID : String) (port weight : Int) :
    Program String :=
  .call (.createMember loadBalancerID poolID instanceID port weight) ofExcept

def listMembers (loadBalancerID poolID : String) : Program (List Member) :=
  .call (.listMembers loadBalancerID poolID) ofExcept

def deleteMember (loadBalancerID poolID memberID : String) : Program Unit :=
  .call (.deleteMember loadBalancerID poolID memberID) ofExcept

/-- `fmt.Errorf` with a lead and `%w`. -/
def wrapped {α : Type} (lead : String) (program : Program α) : Program α :=
  program.mapError fun error => .wrap lead error ""

/-! ## Pools and members -/

def poolNamed (pools : List Pool) (poolName : String) : Option Pool :=
  pools.find? fun pool => pool.name = some poolName

def findPoolByName (loadBalancerID poolName : String) : Program String := do
  let pools ← wrapped "listing load balancer pools: " (listPools loadBalancerID)
  match poolNamed pools poolName with
  | some pool => pure pool.id
  | none =>
    .fail (.plain ("pool with name " ++ poolName ++ " not found in load balancer "
      ++ loadBalancerID))

def memberOf (members : List Member) (instanceID : String) : Option Member :=
  members.find? fun member => member.target = some instanceID

def findMemberByInstanceID (loadBalancerID poolID instanceID : String) :
    Program (Option String) := do
  let members ← wrapped "listing load balancer pool members: " (listMembers loadBalancerID poolID)
  pure ((memberOf members instanceID).map Member.id)

def registerInstanceInTarget (target : LoadBalancerTarget) (instanceID : String) :
    Program Unit := do
  let poolID ← wrapped "finding pool by name: "
    (findPoolByName target.loadBalancerID target.poolName)
  let _ ← wrapped "creating load balancer pool member: "
    (createMember target.loadBalancerID poolID instanceID target.port (target.weight.getD 50))
  pure ()

def deregisterInstanceFromTarget (target : LoadBalancerTarget) (instanceID : String) :
    Program Unit := do
  let poolID ← wrapped "finding pool by name: "
    (findPoolByName target.loadBalancerID target.poolName)
  let memberID ← wrapped "finding member by instance ID: "
    (findMemberByInstanceID target.loadBalancerID poolID instanceID)
  match memberID with
  | none => pure ()
  | some id =>
    wrapped "deleting load balancer pool member: " (deleteMember target.loadBalancerID poolID id)

/-! ## All target groups -/

def forTargets (body : LoadBalancerTarget → Program Unit) :
    List LoadBalancerTarget → Program (List GoError)
  | [] => pure []
  | target :: rest => do
    let outcome ← (body target).attempt
    let errs ← forTargets body rest
    match outcome with
    | .ok _ => pure errs
    | .error error => pure (error :: errs)

def targetsFailed (lead : String) (errs : List GoError) (targets : List LoadBalancerTarget) :
    GoError :=
  .wrap (lead ++ toString errs.length ++ "/" ++ toString targets.length ++ " targets: ")
    (.plain (joinText (errs.map GoError.text) '\n')) ""

/-- The integration, when it is there and switched on. -/
def enabledIntegration (nodeClass : Option NodeClass) : Option LoadBalancerIntegration :=
  (nodeClass.bind NodeClass.loadBalancerIntegration).filter LoadBalancerIntegration.enabled

def registerInstance (nodeClass : Option NodeClass) (instanceID : String) : Program Unit :=
  match enabledIntegration nodeClass with
  | none => pure ()
  | some integration => do
    let errs ← forTargets (registerInstanceInTarget · instanceID) integration.targetGroups
    if errs = [] then pure ()
    else .fail (targetsFailed "failed to register instance in " errs integration.targetGroups)

def deregisterInstance (nodeClass : Option NodeClass) (instanceID : String) : Program Unit :=
  match enabledIntegration nodeClass with
  | none => pure ()
  | some integration =>
    if integration.autoDeregister.getD true = false then pure ()
    else do
      let errs ← forTargets (deregisterInstanceFromTarget · instanceID)
        integration.targetGroups
      if errs = [] then pure ()
      else
        .fail (targetsFailed "failed to deregister instance from " errs
          integration.targetGroups)

/-! ## Reconciling a NodeClaim -/

def loadBalancerFinalizer : String := "loadbalancer.nodeclaim.ibm.sh/finalizer"
def registeredKey : String := "loadbalancer.ibm.sh/registered"
def lastRegistrationKey : String := "loadbalancer.ibm.sh/last-registration"

def addFinalizer (claim : Claim) : Claim :=
  if loadBalancerFinalizer ∈ claim.finalizers then claim
  else { claim with finalizers := claim.finalizers ++ [loadBalancerFinalizer] }

def removeFinalizer (claim : Claim) : Claim :=
  { claim with finalizers := claim.finalizers.filter fun present =>
      present ≠ loadBalancerFinalizer }

def getNodeClass (claim : Claim) : Program (Option NodeClass) :=
  match claim.nodeClassRef with
  | none => .fail (.plain "nodeclaim has no nodeclass reference")
  | some ref =>
    if ref.kind ≠ "IBMNodeClass" then pure none
    else do
      let nodeClass ← wrapped ("getting nodeclass " ++ ref.name ++ ": ")
        (.call (.getNodeClass ref.name) ofExcept)
      pure (some nodeClass)

def getNode (claim : Claim) : Program (Option (List NodeAddress)) :=
  if claim.nodeName = "" then pure none
  else
    .call (.getNode claim.nodeName) fun answer =>
      match answer with
      | .ok addresses => pure (some addresses)
      | .error error =>
        if isKube .notFound error then pure none
        else .fail (.wrap ("getting node " ++ claim.nodeName ++ ": ") error "")

def getNodeInternalIP (addresses : List NodeAddress) : String :=
  match addresses.find? fun entry => entry.type = .internalIP with
  | some entry => entry.address
  | none => ""

def extractInstanceID (providerID : String) : Except GoError String :=
  let parts := splitText providerID '/'
  if parts.length < 3 then .error (.plain ("invalid provider ID format: " ++ providerID))
  else .ok (parts.getLastD "")

def isAlreadyRegistered (claim : Claim) : Bool :=
  decide (claim.annotations.lookup registeredKey = some "true")

def markAsRegistered (claim : Claim) : Program Unit := do
  let time ← timestamp
  updateClaim { claim with
    annotations := (claim.annotations.insert registeredKey "true").insert lastRegistrationKey time }

/-- The result of a reconciliation is the number of seconds to the next one, zero for none. -/
abbrev Result : Type := Nat

def registerClaim (claim : Claim) (nodeClass : Option NodeClass) (instanceID : String) :
    Program Result := do
  let registered ← (registerInstance nodeClass instanceID).attempt
  match registered with
  | .error _ => pure 30
  | .ok _ => do
    let marked ← (markAsRegistered claim).attempt
    match marked with
    | .error _ => pure 10
    | .ok _ => pure 0

def handleRegistration (claim : Claim) (nodeClass : Option NodeClass) : Program Result :=
  if claim.providerID = "" then pure 30
  else
    match extractInstanceID claim.providerID with
    | .error _ => pure 30
    | .ok instanceID => do
      let node ← (getNode claim).attempt
      match node with
      | .error _ => pure 30
      | .ok none => pure 30
      | .ok (some addresses) =>
        if getNodeInternalIP addresses = "" then pure 30
        else if isAlreadyRegistered claim then pure 0
        else registerClaim claim nodeClass instanceID

def deregisterClaim (claim : Claim) (nodeClass : Option NodeClass) : Program Unit :=
  if claim.providerID = "" then pure ()
  else
    match extractInstanceID claim.providerID with
    | .error _ => pure ()
    | .ok instanceID => deregisterInstance nodeClass instanceID

def handleDeletion (claim : Claim) (nodeClass : Option NodeClass) : Program Result :=
  if loadBalancerFinalizer ∉ claim.finalizers then pure 0
  else do
    let _ ← (deregisterClaim claim nodeClass).attempt
    wrapped "removing finalizer: " (updateClaim (removeFinalizer claim))
    pure 0

def reconcileClaim (claim : Claim) (nodeClass : Option NodeClass) : Program Result :=
  if enabledIntegration nodeClass = none then
    if loadBalancerFinalizer ∈ claim.finalizers then do
      updateClaim (removeFinalizer claim)
      pure 0
    else pure 0
  else if claim.deleting then handleDeletion claim nodeClass
  else if loadBalancerFinalizer ∉ claim.finalizers then do
    wrapped "adding finalizer: " (updateClaim (addFinalizer claim))
    pure 1
  else handleRegistration claim nodeClass

def reconcile : Program Result := do
  let found ← getClaim.attempt
  match found with
  | .error error =>
    if isKube .notFound error then pure 0
    else .fail (.wrap "getting nodeclaim: " error "")
  | .ok claim => do
    let nodeClass ← (getNodeClass claim).attempt
    match nodeClass with
    | .error _ => pure 30
    | .ok nodeClass => reconcileClaim claim nodeClass

end KarpenterIBM.LoadBalancer
