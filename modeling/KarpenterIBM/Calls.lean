import KarpenterIBM.Errors
import KarpenterIBM.Objects
import KarpenterIBM.Lib.Protocol

/-!
# The calls the provider makes

Every call that leaves the provider's own code: the Kubernetes API, the clock, the VPC and IKS
services, the catalogs, the pool lock and the circuit breaker.
-/

namespace KarpenterIBM.Calls

open EffectProgram Errors Objects

structure InstancePrototype where
  name : String
  image : String
  zone : String
  vpc : String
  profile : String
  subnet : String
  securityGroups : List String
  interfaceResourceGroup : Option String
  resourceGroup : Option String
  availabilityClass : Option String
  preemption : Option String
  hostFailure : Option String
  reservationAffinity : Option String
  placementTarget : Option String
  keys : List String
  userData : String
deriving DecidableEq

/-- An error that an external service or library returned. -/
abbrev ApiError : Type := { error : GoError // error.foreign = true }

/-- What the SDK returns from `CreateInstanceWithContext`. -/
inductive CreateAnswer where
  | created (found : Instance)
  | failed (error : ApiError) (response : Option DetailedResponse)
deriving DecidableEq

inductive Call where
  | getClaim (name : String)
  | patchClaim (stored patched : NodeClaim)
  | getNodeClass (name : String)
  | getCachedNodeClass (name : String)
  | getNamespaceUID
  | listNodes
  | deleteNode (node : Node)
  | getConfigMap («namespace» name : String)
  | createConfigMap (reservation : ConfigMap)
  | patchConfigMap (stored patched : ConfigMap)
  | deleteConfigMap (reservation : ConfigMap)
  | now
  | randIntN (bound : Nat)
  | vpcClient (region : String)
  | resolveAccount
  | getSubnet (id : String)
  | listSubnets (vpc : String)
  | selectSubnets (vpc : String) (strategy : PlacementStrategy)
  | resourceGroupIDByName (name : String)
  | defaultSecurityGroup (vpc : String)
  | resolveImage (image : String)
  | resolveImageBySelector (selector : ImageSelector)
  | buildVolumeAttachments (nodeClass : IBMNodeClass) (name zone : String)
  | newInstancePrototype (image zone : String)
  | bootstrapUserData (nodeClass : IBMNodeClass) (claim profile : String)
  | validateInstance (prototype : InstancePrototype)
  | createInstance (prototype : InstancePrototype)
  | listInstancesByName (name : String)
  | getInstance (id : String)
  | deleteInstance (id : String)
  | updateInstanceTags (id : String) (tags : StringMap)
  | quotaInfo (region : String)
  | iksClient
  | getWorkerPool (clusterID pool : String)
  | createWorkerPool (clusterID : String) (request : WorkerPoolCreateRequest)
  | deleteWorkerPool (clusterID poolID : String)
  | listWorkers (clusterID : String)
  | getWorkerDetails (clusterID workerID : String)
  | lockPool (clusterID poolName : String)
  | unlockPool (clusterID poolName : String)
  | getInstanceType (flavor : String) (nodeClass : IBMNodeClass)
  | filterInstanceTypes (nodeClass : IBMNodeClass)
  | listInstanceTypes (nodeClass : IBMNodeClass)
  | canProvision (nodeClass region : String)
  | recordSuccess (nodeClass region : String)
  | recordFailure (nodeClass region : String)
  | recordPending (nodeClass region : String)
  | getInstanceProvider
  | launchNode (claim : NodeClaim) (instanceTypes : List InstanceType)

structure IKSTarget where
  accountID : String
  region : String
deriving DecidableEq

def Call.Answer : Call → Type
  | .getClaim _ => Except ApiError NodeClaim
  | .patchClaim _ _ => Except ApiError Nat
  | .getNodeClass _ => Except ApiError IBMNodeClass
  | .getCachedNodeClass _ => Except ApiError IBMNodeClass
  | .getNamespaceUID => Except ApiError String
  | .listNodes => Except ApiError (List Node)
  | .deleteNode _ => Except ApiError Unit
  | .getConfigMap _ _ => Except ApiError ConfigMap
  | .createConfigMap _ => Except ApiError ConfigMap
  | .patchConfigMap _ _ => Except ApiError Nat
  | .deleteConfigMap _ => Except ApiError Unit
  | .now => Nat
  | .randIntN _ => Nat
  | .vpcClient _ => Except ApiError Unit
  | .resolveAccount => Except ApiError String
  | .getSubnet _ => Except ApiError SubnetInfo
  | .listSubnets _ => Except ApiError (List SubnetInfo)
  | .selectSubnets _ _ => Except ApiError (List SubnetInfo)
  | .resourceGroupIDByName _ => Except ApiError String
  | .defaultSecurityGroup _ => Except ApiError String
  | .resolveImage _ => Except ApiError String
  | .resolveImageBySelector _ => Except ApiError String
  | .buildVolumeAttachments _ _ _ => Except ApiError Unit
  | .newInstancePrototype _ _ => Except ApiError Unit
  | .bootstrapUserData _ _ _ => Except ApiError String
  | .validateInstance _ => Except ApiError Unit
  | .createInstance _ => CreateAnswer
  | .listInstancesByName _ => Except ApiError (List Instance)
  | .getInstance _ => Except ApiError Instance
  | .deleteInstance _ => Except ApiError Unit
  | .updateInstanceTags _ _ => Except ApiError Unit
  | .quotaInfo _ => Except ApiError Unit
  | .iksClient => Except ApiError IKSTarget
  | .getWorkerPool _ _ => Except ApiError WorkerPool
  | .createWorkerPool _ _ => Except ApiError WorkerPool
  | .deleteWorkerPool _ _ => Except ApiError Unit
  | .listWorkers _ => Except ApiError (List IKSWorkerDetails)
  | .getWorkerDetails _ _ => Except ApiError IKSWorkerDetails
  | .lockPool _ _ => Unit
  | .unlockPool _ _ => Unit
  | .getInstanceType _ _ => Except ApiError InstanceType
  | .filterInstanceTypes _ => Except ApiError (List InstanceType)
  | .listInstanceTypes _ => Except ApiError (List InstanceType)
  | .canProvision _ _ => Except ApiError Unit
  | .recordSuccess _ _ => Unit
  | .recordFailure _ _ => Unit
  | .recordPending _ _ => Unit
  | .getInstanceProvider => Except ApiError Unit
  | .launchNode _ _ => Except GoError Node

abbrev calls : Signature := ⟨Call, Call.Answer⟩

abbrev Program (α : Type) : Type := Prog calls GoError α

/-- The answer of a service as the outcome of the call. -/
def answered {α : Type} (answer : Except ApiError α) : Program α :=
  ofExcept (answer.mapError Subtype.val)

/-- `fmt.Errorf` with a lead and `%w`. -/
def wrapped {α : Type} (lead : String) (program : Program α) : Program α :=
  program.mapError fun error => .wrap lead error ""

def failWith {α : Type} (text : String) : Program α :=
  .fail (.plain text)

@[simp] theorem answered_ok {α : Type} (value : α) :
    answered (.ok value) = (.pure value : Program α) := rfl

@[simp] theorem answered_error {α : Type} (error : ApiError) :
    answered (.error error) = (.fail error.val : Program α) := rfl

/-! ## Calls that pass their error on -/

def getClaim (name : String) : Program NodeClaim :=
  .call (.getClaim name) answered

def patchClaim (stored patched : NodeClaim) : Program NodeClaim :=
  .call (.patchClaim stored patched) fun answer =>
    answered (answer.map fun version => { patched with resourceVersion := version })

def getNodeClass (name : String) : Program IBMNodeClass :=
  .call (.getNodeClass name) answered

def getCachedNodeClass (name : String) : Program IBMNodeClass :=
  .call (.getCachedNodeClass name) answered

def listNodes : Program (List Node) :=
  .call .listNodes answered

def deleteNode (node : Node) : Program Unit :=
  .call (.deleteNode node) answered

def getConfigMap («namespace» name : String) : Program ConfigMap :=
  .call (.getConfigMap «namespace» name) answered

def createConfigMap (reservation : ConfigMap) : Program ConfigMap :=
  .call (.createConfigMap reservation) answered

def patchConfigMap (stored patched : ConfigMap) : Program ConfigMap :=
  .call (.patchConfigMap stored patched) fun answer =>
    answered (answer.map fun version => { patched with resourceVersion := version })

def deleteConfigMap (reservation : ConfigMap) : Program Unit :=
  .call (.deleteConfigMap reservation) answered

def now : Program Nat :=
  .call .now .pure

def randIntN (bound : Nat) : Program Nat :=
  .call (.randIntN bound) .pure

def clientForRegion (region : String) : Program Unit :=
  .call (.vpcClient region) answered

def getSubnet (id : String) : Program SubnetInfo :=
  .call (.getSubnet id) answered

def listSubnets (vpc : String) : Program (List SubnetInfo) :=
  .call (.listSubnets vpc) answered

def selectSubnets (vpc : String) (strategy : PlacementStrategy) : Program (List SubnetInfo) :=
  .call (.selectSubnets vpc strategy) answered

def getDefaultSecurityGroup (vpc : String) : Program String :=
  .call (.defaultSecurityGroup vpc) answered

def resolveImage (image : String) : Program String :=
  .call (.resolveImage image) answered

def resolveImageBySelector (selector : ImageSelector) : Program String :=
  .call (.resolveImageBySelector selector) answered

def buildVolumeAttachments (nodeClass : IBMNodeClass) (name zone : String) : Program Unit :=
  .call (.buildVolumeAttachments nodeClass name zone) answered

def newInstancePrototype (image zone : String) : Program Unit :=
  .call (.newInstancePrototype image zone) answered

def bootstrapUserData (nodeClass : IBMNodeClass) (claim profile : String) : Program String :=
  .call (.bootstrapUserData nodeClass claim profile) answered

def listInstancesByName (name : String) : Program (List Instance) :=
  .call (.listInstancesByName name) answered

def getInstance (id : String) : Program Instance :=
  wrapped "getting instance: " (.call (.getInstance id) answered)

def deleteInstance (id : String) : Program Unit :=
  wrapped "deleting instance: " (.call (.deleteInstance id) answered)

def updateInstanceTags (id : String) (tags : StringMap) : Program Unit :=
  .call (.updateInstanceTags id tags) answered

theorem runs_unless {α : Type} {refused : Prop} [Decidable refused] {text : String}
    {program : Program α} {trace : List calls.Exchange} {value : α}
    (run : Runs (if refused then failWith text else program) trace (.ok value)) :
    ¬refused ∧ Runs program trace (.ok value) := by
  by_cases bad : refused
  · rw [if_pos bad] at run
    cases run.2
  · rw [if_neg bad] at run
    exact ⟨bad, run⟩

/-! ## Programs whose errors are foreign -/

def ErrorForeign {α : Type} : Except GoError α → Prop
  | .ok _ => True
  | .error error => error.foreign = true

def Quiet {α : Type} (allowed : Call → Prop) (program : Program α) : Prop :=
  Uses (S := calls) allowed ErrorForeign program

variable {α β : Type} {allowed : Call → Prop}

theorem quiet_pure (value : α) : Quiet allowed (pure value : Program α) := trivial

theorem quiet_failWith (text : String) : Quiet allowed (failWith text : Program α) := rfl

theorem quiet_unless {refused : Prop} [Decidable refused] {text : String} {program : Program α}
    (quiet : Quiet allowed program) :
    Quiet allowed (if refused then failWith text else program) := by
  split
  · exact quiet_failWith text
  · exact quiet

theorem quiet_answered (answer : Except ApiError α) : Quiet allowed (answered answer) := by
  cases answer with
  | ok value => trivial
  | error error => exact error.property

theorem quiet_ofExcept (out : Except GoError α) (foreign : ErrorForeign out) :
    Quiet allowed (ofExcept out : Program α) := by
  cases out with
  | ok value => trivial
  | error error => exact foreign

theorem Quiet.bind {program : Program β} {next : β → Program α}
    (first : Quiet allowed program) (second : ∀ value, Quiet allowed (next value)) :
    Quiet allowed (program >>= next) :=
  Uses.bind first (fun value _ => second value) fun _ foreign => foreign

theorem Quiet.attempt_bind {program : Program β} {next : Except GoError β → Program α}
    (first : Quiet allowed program)
    (second : ∀ out, ErrorForeign out → Quiet allowed (next out)) :
    Quiet allowed (program.attempt >>= next) := by
  have attempted : Uses (S := calls) allowed (fun out : Except GoError (Except GoError β) =>
        ∃ inner, out = .ok inner ∧ ErrorForeign inner) program.attempt :=
    Uses.attempt (Uses.mono first (fun _ kept => kept) fun inner foreign => ⟨inner, rfl, foreign⟩)
  refine Uses.bind attempted ?_ ?_
  · rintro inner ⟨_, ⟨⟩, foreign⟩
    exact second inner foreign
  · rintro error ⟨_, ⟨⟩, _⟩

theorem Quiet.wrapped {program : Program α} (lead : String) (quiet : Quiet allowed program) :
    Quiet allowed (wrapped lead program) := by
  refine Uses.mapError _ (Uses.mono quiet (fun _ kept => kept) ?_)
  intro out foreign
  cases out with
  | ok value => trivial
  | error error => exact foreign

theorem quiet_call {op : Call} {rest : calls.Res op → Program α} (kept : allowed op)
    (quiet : ∀ answer, Quiet allowed (rest answer)) :
    Quiet allowed (.call (S := calls) op rest) := ⟨kept, quiet⟩

theorem quiet_ask {op : Call} {read : calls.Res op → Except ApiError α} (kept : allowed op) :
    Quiet allowed (.call (S := calls) op fun answer => answered (read answer)) :=
  quiet_call kept fun answer => quiet_answered (read answer)

end KarpenterIBM.Calls
