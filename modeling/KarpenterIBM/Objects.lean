import Mathlib.Data.Finmap

/-!
# Objects of the cluster and of the cloud

The parts of NodeClaims, NodeClasses, Nodes, ConfigMaps, VPC instances and IKS worker pools that
the provider reads or writes, under the source's field names.
-/

namespace KarpenterIBM.Objects

abbrev StringMap : Type := Finmap fun _ : String => String

abbrev ResourceList : Type := Finmap fun _ : String => Int

/-- Reading a Go map: a missing key reads as the empty string. -/
def StringMap.read (entries : StringMap) (key : String) : String :=
  (entries.lookup key).getD ""

variable (entries : StringMap)

@[simp] theorem StringMap.read_insert (key value : String) :
    StringMap.read (entries.insert key value) key = value := by
  simp [StringMap.read]

theorem StringMap.read_insert_of_ne {key other : String} (value : String) (differ : key ≠ other) :
    StringMap.read (entries.insert other value) key = entries.read key := by
  simp [StringMap.read, Finmap.lookup_insert_of_ne _ differ]

@[simp] theorem StringMap.read_erase (key : String) :
    StringMap.read (entries.erase key) key = "" := by
  simp [StringMap.read]

/-- `launchConfig` of `pkg/providers/vpc/instance`. -/
structure LaunchConfig where
  name : String
  clusterUID : String
  claimUID : String
  classUID : String
  accountID : String
  resourceGroup : String
  region : String
  vpc : String
  profile : String
  zone : String
  subnet : String
  image : String
  capacityType : String
  hash : String
  hashVersion : String
  securityGroups : List String
  submitted : Bool
  rejected : Bool
  submittedAt : Nat
  capacity : ResourceList
  allocatable : ResourceList
  tags : StringMap
deriving DecidableEq

structure WorkerPoolZone where
  id : String
  subnetID : String
deriving DecidableEq

structure WorkerPoolCreateRequest where
  name : String
  flavor : String
  sizePerZone : Int
  zones : List WorkerPoolZone
  labels : StringMap
  diskEncryption : Bool
  vpcID : String
deriving DecidableEq

/-- `Allocation` of `pkg/providers/iks/workerpool`. -/
structure Allocation where
  claimName : String
  claimUID : String
  nodeClassUID : String
  clusterUID : String
  clusterID : String
  accountID : String
  region : String
  «namespace» : String
  poolName : String
  poolID : String
  workerID : String
  nodePool : String
  hash : String
  labels : StringMap
  capacity : ResourceList
  allocatable : ResourceList
  request : WorkerPoolCreateRequest
deriving DecidableEq

/-- A stored text.  The checkpoints and the RFC 3339 time of whole seconds are
kept as what they decode to. -/
inductive Value where
  | text (content : String)
  | launch (config : LaunchConfig)
  | allocation (snapshot : Allocation)
  | seconds (time : Nat)
deriving DecidableEq

abbrev ValueMap : Type := Finmap fun _ : String => Value

def ValueMap.read (entries : ValueMap) (key : String) : Value :=
  (entries.lookup key).getD (.text "")

def Value.isBlank (value : Value) : Bool :=
  decide (value = .text "")

/-- The text of a value that is compared with other texts.  A checkpoint is
never equal to a text the code compares it with. -/
def Value.asText : Value → Option String
  | .text content => some content
  | _ => none

/-! ## Requirements and instance types -/

inductive Operator where
  | In
  | NotIn
  | Exists
  | DoesNotExist
  | Gt
  | Lt
  | Gte
  | Lte
deriving DecidableEq

structure NodeSelectorRequirement where
  key : String
  operator : Operator
  values : List String
deriving DecidableEq

structure Offering where
  requirements : List NodeSelectorRequirement
  available : Bool
  price : Option Rat
deriving DecidableEq

/-- An instance type; its requirements are a map, so no key occurs twice. -/
structure InstanceType where
  name : String
  requirements : List NodeSelectorRequirement
  offerings : List Offering
  capacity : ResourceList
  allocatable : ResourceList
  keysDistinct : (requirements.map NodeSelectorRequirement.key).Nodup
deriving DecidableEq

/-! ## Kubernetes objects -/

structure NodeClaim where
  name : String
  uid : String
  resourceVersion : Nat
  deletionTimestamp : Option Nat
  labels : StringMap
  annotations : ValueMap
  finalizers : List String
  nodeClassRef : Option String
  requirements : List NodeSelectorRequirement
  requests : ResourceList
  providerID : String
  imageID : String
  nodeName : String
  capacity : ResourceList
  allocatable : ResourceList
deriving DecidableEq

structure Node where
  name : String
  uid : String
  labels : StringMap
  annotations : ValueMap
  finalizers : List String
  deletionTimestamp : Option Nat
  providerID : String
  capacity : ResourceList
  allocatable : ResourceList
deriving DecidableEq

structure ConfigMap where
  name : String
  «namespace» : String
  uid : String
  resourceVersion : Nat
  labels : StringMap
  data : ValueMap
deriving DecidableEq

inductive ConditionStatus where
  | isTrue
  | isFalse
  | isUnknown
deriving DecidableEq

structure Condition where
  type : String
  status : ConditionStatus
  observedGeneration : Nat
  reason : String
  message : String
deriving DecidableEq

structure SubnetSelectionCriteria where
  minimumAvailableIPs : Int
  requiredTags : StringMap
deriving DecidableEq

structure PlacementStrategy where
  zoneBalance : String
  subnetSelection : Option SubnetSelectionCriteria
deriving DecidableEq

structure ImageSelector where
  os : String
  majorVersion : String
  minorVersion : String
  architecture : String
  variant : String
deriving DecidableEq

structure InstanceTypeRequirements where
  architecture : String
  minimumCPU : Int
  minimumMemory : Int
  maximumHourlyPrice : String
deriving DecidableEq

structure IKSDynamicPoolConfig where
  enabled : Bool
  namePrefix : String
  labels : StringMap
  diskEncryption : Option Bool
  allowedInstanceTypes : List String
deriving DecidableEq

structure IBMNodeClassSpec where
  region : String
  zone : String
  instanceProfile : String
  instanceRequirements : Option InstanceTypeRequirements
  image : String
  imageSelector : Option ImageSelector
  vpc : String
  subnet : String
  placementStrategy : Option PlacementStrategy
  securityGroups : List String
  sshKeys : List String
  resourceGroup : String
  placementTarget : String
  tags : StringMap
  bootstrapMode : Option String
  apiServerEndpoint : String
  iksClusterID : String
  iksWorkerPoolID : String
  iksDynamicPools : Option IKSDynamicPoolConfig
deriving DecidableEq

structure IBMNodeClassStatus where
  validationError : String
  selectedInstanceTypes : List String
  selectedSubnets : List String
  resolvedSecurityGroups : List String
  resolvedImageID : String
  conditions : List Condition
deriving DecidableEq

structure IBMNodeClass where
  name : String
  uid : String
  resourceVersion : Nat
  generation : Nat
  annotations : StringMap
  spec : IBMNodeClassSpec
  status : IBMNodeClassStatus
deriving DecidableEq

def readyCondition (nodeClass : IBMNodeClass) (condition : Condition) : Bool :=
  decide (condition.type = "Ready") && decide (condition.status = .isTrue) &&
    decide (condition.observedGeneration = nodeClass.generation)

def isReady (nodeClass : IBMNodeClass) : Bool :=
  nodeClass.status.conditions.any (readyCondition nodeClass)

/-! ## Cloud objects -/

/-- A VPC instance; a nested pointer that is nil anywhere reads as `none`. -/
structure Instance where
  id : Option String
  name : Option String
  status : Option String
  crn : Option String
  profile : Option String
  zone : Option String
  vpc : Option String
  image : Option String
  attachmentSubnet : Option String
  interfaceSubnet : Option String
  resourceGroup : Option String
  availabilityClass : Option String
deriving DecidableEq

structure SubnetInfo where
  id : String
  zone : String
  state : String
  availableIPs : Int
deriving DecidableEq

structure WorkerPool where
  id : String
  name : String
  flavor : String
  sizePerZone : Int
  labels : StringMap
  zones : List WorkerPoolZone
  autoscaleEnabled : Bool
deriving DecidableEq

structure NetworkInterface where
  subnetID : String
  primary : Bool
deriving DecidableEq

structure IKSWorkerDetails where
  id : String
  flavor : String
  location : String
  poolID : String
  networkInterfaces : List NetworkInterface
  actualState : String
deriving DecidableEq

end KarpenterIBM.Objects
