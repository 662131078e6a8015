import KarpenterIBM.VPC.Launch

/-!
# Launching a VPC instance

`VPCInstanceProvider.Create` and the allocation controller that resolves launches of deleted
claims.
-/

namespace KarpenterIBM.VPCCreate

open Calls EffectProgram Errors Objects Ownership Text VPCLaunch

section
variable (platform : Platform)

/-! ## Choosing profile, capacity type, zone and subnet -/

def launchableOfferings (requirements : List NodeSelectorRequirement)
    (instanceType : InstanceType) : List Offering :=
  (instanceType.offerings.filter fun offering =>
    platform.scheduling.offeringCompatible requirements offering.requirements).filter
      fun offering => offering.available

/-- `capacitytype.ResolveCapacityType`: spot when the claim allows it and some listed
type has a launchable spot offering. -/
def resolveCapacityType (claim : NodeClaim) (instanceTypes : List InstanceType) : String :=
  if platform.scheduling.has claim.requirements capacityTypeLabel capacityTypeSpot &&
      instanceTypes.any fun instanceType =>
        (launchableOfferings platform claim.requirements instanceType).any fun offering =>
          platform.scheduling.has offering.requirements capacityTypeLabel capacityTypeSpot then
    capacityTypeSpot
  else capacityTypeOnDemand

def selectSubnetFromStatusList (subnetIDs : List String) : Program String :=
  match subnetIDs with
  | [] => pure ""
  | [subnet] => pure subnet
  | several => do
    let index ← randIntN several.length
    pure (several.getD (index % several.length) "")

def roomiest : List SubnetInfo → SubnetInfo
  | [] => ⟨"", "", "", 0⟩
  | first :: rest =>
    rest.foldl
      (fun best subnet => if best.availableIPs < subnet.availableIPs then subnet else best) first

def selectSubnetFromMultiZoneList (subnets : List SubnetInfo) : Program SubnetInfo :=
  match subnets with
  | [] => pure ⟨"", "", "", 0⟩
  | [subnet] => pure subnet
  | several => do
    let zones := (several.map SubnetInfo.zone).eraseDups
    let index ← randIntN zones.length
    pure (roomiest (several.filter fun subnet =>
      subnet.zone = zones.getD (index % zones.length) ""))

def bestSubnetInZone (zone : String) (subnets : List SubnetInfo) : String :=
  (subnets.foldl
    (fun best subnet =>
      if subnet.zone = zone ∧ subnet.state = "available" ∧ best.2 < subnet.availableIPs then
        (subnet.id, subnet.availableIPs)
      else best)
    ("", -1)).1

structure Placement where
  zone : String
  subnet : String
deriving DecidableEq

def choosePlacement (nodeClass : IBMNodeClass) : Program Placement :=
  let zone := nodeClass.spec.zone
  let subnet := nodeClass.spec.subnet
  if zone = "" ∧ subnet = "" then
    match nodeClass.spec.placementStrategy with
    | none => failWith "zone selection requires either explicit zone/subnet or placement strategy"
    | some strategy =>
      if nodeClass.status.selectedSubnets ≠ [] then do
        let selected ← selectSubnetFromStatusList nodeClass.status.selectedSubnets
        let info ← wrapped ("getting subnet info for selected subnet " ++ selected ++ ": ")
          (getSubnet selected)
        pure ⟨info.zone, selected⟩
      else do
        let subnets ← wrapped "selecting subnets with placement strategy: "
          (selectSubnets nodeClass.spec.vpc strategy)
        if subnets = [] then failWith "no subnets selected by placement strategy"
        else do
          let selected ← selectSubnetFromMultiZoneList subnets
          pure ⟨selected.zone, selected.id⟩
  else if zone = "" then do
    let info ← wrapped "getting subnet info for zone derivation: " (getSubnet subnet)
    pure ⟨info.zone, subnet⟩
  else if subnet = "" then do
    let subnets ← wrapped "listing subnets for zone-based selection: "
      (listSubnets nodeClass.spec.vpc)
    let best := bestSubnetInZone zone subnets
    if best = "" then failWith ("no available subnet found in zone " ++ zone)
    else pure ⟨zone, best⟩
  else pure ⟨zone, subnet⟩

def placement (nodeClass : IBMNodeClass) : Program Placement := do
  let chosen ← choosePlacement nodeClass
  if chosen.zone = "" ∨ chosen.subnet = "" then failWith "both zone and subnet must be specified"
  else pure chosen

/-! ## The parts of the request -/

def isHexString (text : String) : Bool :=
  decide (text ≠ "") && text.toList.all fun c =>
    ('0' ≤ c && c ≤ '9') || ('a' ≤ c && c ≤ 'f') || ('A' ≤ c && c ≤ 'F')

def resolveResourceGroupID (input : String) : Program String :=
  if input.utf8ByteSize = 32 ∧ isHexString input = true then pure input
  else
    wrapped ("failed to resolve resource group name '" ++ input ++ "' to ID: ")
      (.call (.resourceGroupIDByName input) answered)

def interfaceResourceGroup (nodeClass : IBMNodeClass) : Program (Option String) :=
  if nodeClass.spec.resourceGroup = "" then pure none
  else do
    let group ← wrapped
      ("resolving resource group for VNI " ++ nodeClass.spec.resourceGroup ++ ": ")
      (resolveResourceGroupID nodeClass.spec.resourceGroup)
    pure (some group)

def instanceResourceGroup (nodeClass : IBMNodeClass) : Program (Option String) :=
  if nodeClass.spec.resourceGroup = "" then pure none
  else do
    let group ← wrapped ("resolving resource group " ++ nodeClass.spec.resourceGroup ++ ": ")
      (resolveResourceGroupID nodeClass.spec.resourceGroup)
    if group = "" then
      failWith ("resource group " ++ nodeClass.spec.resourceGroup ++ " resolved to empty ID")
    else pure (some group)

def launchSecurityGroups (nodeClass : IBMNodeClass) : Program (List String) :=
  if nodeClass.spec.securityGroups ≠ [] then pure nodeClass.spec.securityGroups
  else do
    let default ← wrapped
      ("getting default security group for VPC " ++ nodeClass.spec.vpc ++ ": ")
      (getDefaultSecurityGroup nodeClass.spec.vpc)
    pure [default]

def selectorText (selector : ImageSelector) : String :=
  "(os=" ++ selector.os ++ ", majorVersion=" ++ selector.majorVersion ++ ", minorVersion="
    ++ selector.minorVersion ++ ", architecture=" ++ selector.architecture ++ ", variant="
    ++ selector.variant ++ "): "

def chooseImage (nodeClass : IBMNodeClass) : Program String :=
  if nodeClass.status.resolvedImageID ≠ "" then pure nodeClass.status.resolvedImageID
  else if nodeClass.spec.image ≠ "" then
    wrapped ("resolving image " ++ nodeClass.spec.image ++ ": ")
      (resolveImage nodeClass.spec.image)
  else
    match nodeClass.spec.imageSelector with
    | some selector =>
      wrapped ("resolving image using selector " ++ selectorText selector)
        (resolveImageBySelector selector)
    | none => failWith "neither image nor imageSelector specified in NodeClass"

def launchImage (nodeClass : IBMNodeClass) : Program String := do
  let image ← chooseImage nodeClass
  if image = "" then failWith "image resolution returned empty imageID"
  else pure image

def instanceCloudTags (nodeClass : IBMNodeClass) (claim : NodeClaim) (clusterUID : String) :
    Except GoError StringMap :=
  let tags := withUserTags (vpcTags clusterUID claim.uid nodeClass.uid) nodeClass.spec.tags
  match checkTags tags with
  | .ok _ => .ok tags
  | .error error => .error error

theorem instanceCloudTags_ok {nodeClass : IBMNodeClass} {claim : NodeClaim} {clusterUID : String}
    (valid : checkTags (withUserTags (vpcTags clusterUID claim.uid nodeClass.uid)
      nodeClass.spec.tags) = .ok ()) :
    instanceCloudTags nodeClass claim clusterUID =
      .ok (withUserTags (vpcTags clusterUID claim.uid nodeClass.uid) nodeClass.spec.tags) := by
  unfold instanceCloudTags
  dsimp only
  rw [valid]

/-- The NodeClass as `Create` accepts it. -/
def launchNodeClass (name : String) : Program IBMNodeClass := do
  let nodeClass ← wrapped ("getting NodeClass " ++ name ++ ": ") (getNodeClass name)
  if nodeClass.uid = "" then failWith "VPC launch requires a persisted NodeClass"
  else if isReady nodeClass = false then
    failWith ("NodeClass generation " ++ toString nodeClass.generation ++ " has not been validated")
  else pure nodeClass

def selectInstanceType (claim : NodeClaim) (nodeClass : IBMNodeClass) :
    List InstanceType → Except GoError InstanceType
  | [] => .error (.plain ("no compatible instance types provided for nodeclaim " ++ claim.name))
  | selected :: _ =>
    if selected.name = "" then .error (.plain "selected instance type has empty name")
    else if selected.name.toList.all isSpace then
      .error (.plain ("instance profile is empty or whitespace-only: '" ++ selected.name ++ "'. "
        ++ "This will cause IBM VPC oneOf constraint validation to fail"))
    else if nodeClass.spec.instanceProfile ≠ "" ∧
        selected.name ≠ nodeClass.spec.instanceProfile then
      .error (.plain ("selected instance profile " ++ selected.name
        ++ " differs from the current NodeClass profile " ++ nodeClass.spec.instanceProfile))
    else .ok selected

/-! ## Preparing a launch -/

structure LaunchPlan where
  config : LaunchConfig
  prototype : InstancePrototype
deriving DecidableEq

def withCapacityType (capacityType : String) (prototype : InstancePrototype) :
    InstancePrototype :=
  if capacityType = capacityTypeSpot then
    { prototype with
      availabilityClass := some capacityTypeSpot
      preemption := some "stop"
      reservationAffinity := some "disabled" }
  else { prototype with hostFailure := some "restart" }

/-- `ValidateCreateInstance`: a failure is marked as a request that was not sent. -/
def validateCreateInstance (prototype : InstancePrototype) : Program Unit :=
  .call (.validateInstance prototype) fun answer =>
    ofExcept (answer.mapError fun error => .notSent error.val)

/-- Everything `Create` does between a claim without a checkpoint and the first
checkpoint it stores. -/
def prepareLaunch (claim : NodeClaim) (className : String)
    (instanceTypes : List InstanceType) : Program LaunchPlan := do
  let _ ← now
  let nodeClass ← launchNodeClass className
  let cluster ← clusterUID
  let cloudName := instanceName platform cluster claim.uid
  clientForRegion nodeClass.spec.region
  let selected ← ofExcept (selectInstanceType claim nodeClass instanceTypes)
  let capacityType := resolveCapacityType platform claim instanceTypes
  let chosen ← placement nodeClass
  let interfaceGroup ← interfaceResourceGroup nodeClass
  let securityGroups ← launchSecurityGroups nodeClass
  let image ← launchImage nodeClass
  wrapped "building volume attachments: "
    (buildVolumeAttachments nodeClass (String.ofList (cloudName.toList.take 55)) chosen.zone)
  let tags ← ofExcept (instanceCloudTags nodeClass claim cluster)
  wrapped "creating instance prototype with SDK builder: " (newInstancePrototype image chosen.zone)
  let group ← instanceResourceGroup nodeClass
  let userData ← wrapped "generating bootstrap user data: "
    (bootstrapUserData nodeClass claim.name selected.name)
  let prototype := withCapacityType capacityType
    { name := cloudName, image := image, zone := chosen.zone, vpc := nodeClass.spec.vpc
      profile := selected.name, subnet := chosen.subnet, securityGroups := securityGroups
      interfaceResourceGroup := interfaceGroup, resourceGroup := group
      availabilityClass := none, preemption := none, hostFailure := none
      reservationAffinity := none
      placementTarget :=
        if nodeClass.spec.placementTarget = "" then none else some nodeClass.spec.placementTarget
      keys := nodeClass.spec.sshKeys, userData := userData }
  validateCreateInstance prototype
  let hash ← answered (platform.provisioningHash nodeClass.spec)
  let accountID ← resolveAccountID platform
  pure
    { config :=
        { name := cloudName, clusterUID := cluster, claimUID := claim.uid
          classUID := nodeClass.uid, accountID := accountID
          resourceGroup := group.getD "", region := nodeClass.spec.region
          vpc := nodeClass.spec.vpc, profile := selected.name, zone := chosen.zone
          subnet := chosen.subnet, image := image, capacityType := capacityType, hash := hash
          hashVersion := nodeClassHashVersion, securityGroups := securityGroups
          submitted := false, rejected := false, submittedAt := 0
          capacity := selected.capacity, allocatable := selected.allocatable, tags := tags }
      prototype := prototype }

/-! ## Submitting a launch -/

/-- What `CreateInstance` makes of the answer of the SDK. -/
def createOutcome : CreateAnswer → Except GoError Instance
  | .created found => .ok found
  | .failed error (some response) =>
    if 400 ≤ response.statusCode then
      .error (.ibm (parseErrorResponse error.val response) error.val)
    else .error (.wrap "creating instance: " error.val "")
  | .failed error none => .error (.wrap "creating instance: " error.val "")

/-- `VPCClient.CreateInstance`. -/
def createInstance (prototype : InstancePrototype) : Program Instance := do
  validateCreateInstance prototype
  .call (.createInstance prototype) fun answer => ofExcept (createOutcome answer)

/-- The end of `Create` after the SDK returned an instance.  The source reads ID and
name of the instance for its log before it checks them, so a missing one ends the
attempt there. -/
def finishLaunch (claim : NodeClaim) (config : LaunchConfig) (found : Instance) :
    Program Node :=
  match found.id, found.name with
  | some id, some _ => do
    ofExcept (verifyInstanceAccount found config.accountID)
    wrapped "attaching instance ownership tags: " (updateInstanceTags id config.tags)
    let _ ← (.call (.quotaInfo config.region) answered : Program Unit).attempt
    pure (launchNode config claim id)
  | _, _ => failWith "runtime error: invalid memory address or nil pointer dereference"

def failureText (error : GoError) (config : LaunchConfig) : String :=
  "creating VPC instance failed: " ++ error.text ++ " (code: " ++ (parseError error).code
    ++ ", status: " ++ toString (parseError error).statusCode ++ ", instance_profile: "
    ++ config.profile ++ ", zone: " ++ config.zone ++ ", resolvedImageID: " ++ config.image ++ ")"

def definitelyRefused (error : GoError) : Bool :=
  isCreateInstanceNotSent error || rejectedCreate (parseError error)

def recoverAfterFailure (claim : NodeClaim) (config : LaunchConfig) (error : GoError) :
    Program Node := do
  match ← (recoverLaunch platform claim config).attempt with
  | .ok node => pure node
  | .error _ => .fail (.plain (failureText error config))

def failedLaunch (claim : NodeClaim) (config : LaunchConfig) (error : GoError) :
    Program Node := do
  if definitelyRefused error then
    match ← (markLaunchRejected claim config).attempt with
    | .ok marked => recoverAfterFailure platform marked { config with rejected := true } error
    | .error markError =>
      .fail (.wrap "recording rejected launch after " error (": " ++ markError.text))
  else recoverAfterFailure platform claim config error

def submitLaunch (fresh : NodeClaim) (plan : LaunchPlan) : Program Node := do
  let claim ← checkpointLaunch fresh plan.config
  match ← findLaunch plan.config with
  | some _ => recoverLaunch platform claim plan.config
  | none => do
    let time ← now
    let config := { plan.config with submitted := true, submittedAt := time }
    let claim ← updateLaunch claim config
    match ← (createInstance plan.prototype).attempt with
    | .ok found => finishLaunch claim config found
    | .error error => failedLaunch platform claim config error

/-! ## Create -/

def discardLaunch (claim : NodeClaim) (config : LaunchConfig) : Program Node := do
  let _ ← resetPreparedLaunch claim
  failWith ("discarded launch checkpoint " ++ config.name ++ " that created no instance; retrying")

/-- What `Create` does with a checkpoint it finds. -/
def resumeLaunch (claim : NodeClaim) : Program Node := do
  let config ← ofExcept (decodeLaunch platform (launchOf claim))
  if config.submitted && !config.rejected then
    match ← (recoverLaunch platform claim config).attempt with
    | .ok node => pure node
    | .error error =>
      if isLaunchUnresolved error then do
        let time ← now
        if abandoned config time then discardLaunch claim config else .fail error
      else .fail error
  else discardLaunch claim config

/-- `VPCInstanceProvider.Create`. -/
def create (claim : NodeClaim) (instanceTypes : List InstanceType) : Program Node :=
  match claim.nodeClassRef with
  | none => failWith "VPC launch requires a persisted NodeClaim"
  | some className =>
    if claim.uid = "" then failWith "VPC launch requires a persisted NodeClaim"
    else do
      let fresh ← getClaim claim.name
      if fresh.uid ≠ claim.uid ∨ fresh.deletionTimestamp ≠ none then
        failWith "NodeClaim changed or is terminating"
      else if launchOf fresh ≠ .text "" then resumeLaunch platform fresh
      else do
        let plan ← prepareLaunch platform claim className instanceTypes
        submitLaunch platform fresh plan

/-! ## The allocation controller -/

def launchResolved (claim : NodeClaim) : Program Bool :=
  if claim.providerID ≠ "" then do
    match ← (getFresh platform claim.providerID).attempt with
    | .ok _ => pure false
    | .error error => if isNodeClaimNotFoundError error then pure true else .fail error
  else cleanupPending platform claim

/-- `Reconcile` of `pkg/controllers/nodeclaim/allocation`. -/
def reconcile (name : String) : Program Unit := do
  match ← (getClaim name).attempt with
  | .error error => if isKube .notFound error then pure () else .fail error
  | .ok claim =>
    if claim.deletionTimestamp = none ∨ launchFinalizer ∉ claim.finalizers then pure ()
    else do
      validateClaimTarget platform claim
      let complete ← launchResolved platform claim
      if complete then do
        let _ ← patchClaim claim
          { claim with finalizers := removeFinalizer claim.finalizers launchFinalizer }
        pure ()
      else pure ()

end

/-! ## A small cluster

One claim, one NodeClass with everything explicit and one instance type.  The runs
of the model that exhibit a behaviour start here. -/

def samplePlatform : Platform where
  digest26 _ := "d"
  digest24 _ := "d"
  digest20 _ := "d"
  provisioningHash _ := .ok "h"
  configuredAccount := ""
  configuredCluster := ""
  clientRegion := ""
  allocationNamespace := "s"
  parsePrice _ := none
  scheduling := ⟨fun _ => 0, fun _ => [], fun requirement => requirement.operator, fun _ _ => true,
    fun _ _ => true, fun _ _ _ => false, fun _ _ => .ok (), fun _ => false, fun _ _ => true⟩

def sampleClaim : NodeClaim where
  name := "c"
  uid := "u"
  resourceVersion := 1
  deletionTimestamp := none
  labels := ∅
  annotations := ∅
  finalizers := []
  nodeClassRef := some "n"
  requirements := []
  requests := ∅
  providerID := ""
  imageID := ""
  nodeName := ""
  capacity := ∅
  allocatable := ∅

def sampleClass : IBMNodeClass where
  name := "n"
  uid := "k"
  resourceVersion := 1
  generation := 1
  annotations := ∅
  spec :=
    { region := "r", zone := "z", instanceProfile := "", instanceRequirements := none
      image := "", imageSelector := none, vpc := "v", subnet := "s", placementStrategy := none
      securityGroups := ["g"], sshKeys := [], resourceGroup := "", placementTarget := ""
      tags := ∅, bootstrapMode := none, apiServerEndpoint := "", iksClusterID := ""
      iksWorkerPoolID := "", iksDynamicPools := none }
  status :=
    { validationError := "", selectedInstanceTypes := [], selectedSubnets := []
      resolvedSecurityGroups := [], resolvedImageID := "i"
      conditions := [⟨"Ready", .isTrue, 1, "", ""⟩] }

def sampleType : InstanceType := ⟨"p", [], [], ∅, ∅, List.nodup_nil⟩

def sampleTags : StringMap := withUserTags (vpcTags "x" "u" "k") ∅

theorem instanceCloudTags_sample : instanceCloudTags sampleClass sampleClaim "x" = .ok sampleTags :=
  instanceCloudTags_ok (checkTags_ok (by decide +kernel) (by decide +kernel) (by decide +kernel))

end KarpenterIBM.VPCCreate
