import KarpenterIBM.Ownership

/-!
# Launch checkpoints of the VPC provider

`pkg/providers/vpc/instance/recovery.go`: the checkpoint stored on a NodeClaim
before and after a launch request, its recovery, and the cleanup of a launch
whose provider ID was never published.
-/

namespace KarpenterIBM.VPCLaunch

open Calls EffectProgram Errors Objects Ownership Text

def launchAnnotation : String := "karpenter-ibm.sh/vpc-launch"
def launchFinalizer : String := "karpenter-ibm.sh/vpc-launch"
def launchImageAnnotation : String := "karpenter-ibm.sh/launch-image-id"

def launchResolutionWindow : Nat := 15 * 60 * 1000000000

def launchOf (claim : NodeClaim) : Value :=
  ValueMap.read claim.annotations launchAnnotation

def providerRegion (providerID : String) : String :=
  match splitText (trimLead providerID "ibm:///") '/' with
  | [region, _] => region
  | _ => ""

def providerIDOf (region instanceID : String) : String :=
  "ibm:///" ++ region ++ "/" ++ instanceID

def extractInstanceIDFromProviderID (providerID : String) : String :=
  let parts := splitText providerID '/'
  if 4 ≤ parts.length then parts.getLastD "" else ""

/-! ## Accounts -/

variable (platform : Platform)

def resolveAccountID : Program String := do
  let accountID ← (.call .resolveAccount answered : Program String)
  if accountID = "" then failWith "VPC credential account could not be verified"
  else if platform.configuredAccount ≠ "" ∧ platform.configuredAccount ≠ accountID then
    failWith "configured IBM account does not match the VPC credential account"
  else pure accountID

def validateAccountTarget (birthAccount : String) : Program Unit := do
  if birthAccount = "" then
    failWith "VPC birth account is unproven; retaining allocation ownership"
  else
    let accountID ← resolveAccountID platform
    if accountID ≠ birthAccount then
      failWith
        "VPC credential account differs from the immutable birth account; retaining ownership"
    else pure ()

def verifyInstanceAccount (found : Instance) (accountID : String) : Except GoError Unit :=
  match found.crn with
  | none => .error (.plain "instance has no CRN to verify its account")
  | some crn =>
    if crn = "" then .error (.plain "instance has no CRN to verify its account")
    else
      let parts := splitText crn ':'
      if parts.length ≠ 10 ∨ parts.getD 0 "" ≠ "crn" ∨ parts.getD 6 "" ≠ "a/" ++ accountID then
        .error (.plain "instance CRN does not match the verified credential account")
      else .ok ()

/-! ## Checkpoints -/

def decodeLaunch : Value → Except GoError LaunchConfig
  | .launch config =>
    if config.claimUID = "" ∨ config.clusterUID = "" ∨ config.region = "" ∨
        config.name ≠ instanceName platform config.clusterUID config.claimUID then
      .error (.plain "launch checkpoint has invalid ownership")
    else .ok config
  | _ => .error (.wrap "invalid launch checkpoint: " (.plain "not a launch checkpoint") "")

def abandoned (config : LaunchConfig) (time : Nat) : Bool :=
  config.rejected || !config.submitted ||
    decide (config.submittedAt + launchResolutionWindow < time)

def withLaunch (claim : NodeClaim) (config : LaunchConfig) : NodeClaim :=
  { claim with
    annotations := ((claim.annotations.insert launchAnnotation (.launch config)).insert
      backendAnnotation (.text "vpc")).insert regionAnnotation (.text config.region)
    finalizers := addFinalizer claim.finalizers launchFinalizer }

def withoutLaunch (claim : NodeClaim) : NodeClaim :=
  { claim with
    annotations := ((claim.annotations.erase launchAnnotation).erase
      backendAnnotation).erase regionAnnotation
    finalizers := removeFinalizer claim.finalizers launchFinalizer }

def updateLaunch (claim : NodeClaim) (config : LaunchConfig) : Program NodeClaim :=
  patchClaim claim (withLaunch claim config)

def adoptWrite (claim written : NodeClaim) : NodeClaim :=
  { claim with
    resourceVersion := written.resourceVersion
    annotations := written.annotations
    finalizers := written.finalizers }

def checkpointLaunch (claim : NodeClaim) (config : LaunchConfig) : Program NodeClaim := do
  let fresh ← getClaim claim.name
  if fresh.uid ≠ claim.uid ∨ fresh.deletionTimestamp ≠ none ∨ launchOf fresh ≠ .text "" then
    failWith "NodeClaim launch changed before submission"
  else
    let written ← updateLaunch fresh config
    pure (adoptWrite claim written)

/-- `retry.RetryOnConflict`: run the body again after a conflict, a bounded number
of times. -/
def retryOnConflict {α : Type} (body : Program α) : Nat → Program α
  | 0 => body
  | retries + 1 => do
    match ← body.attempt with
    | .ok value => pure value
    | .error error =>
      if isKube .conflict error then retryOnConflict body retries else .fail error

def markLaunchRejected (claim : NodeClaim) (config : LaunchConfig) : Program NodeClaim :=
  retryOnConflict
    (do
      let fresh ← getClaim claim.name
      if fresh.uid ≠ claim.uid ∨ launchOf fresh ≠ .launch config then
        failWith "NodeClaim launch changed before rejection was recorded"
      else
        let written ← updateLaunch fresh { config with rejected := true }
        pure (adoptWrite claim written))
    4

def resetPreparedLaunch (claim : NodeClaim) : Program NodeClaim :=
  patchClaim claim (withoutLaunch claim)

def rejectedCreate (error : IBMError) : Bool :=
  decide (400 ≤ error.statusCode) && decide (error.statusCode < 500) &&
    decide (error.statusCode ≠ 408) && decide (error.statusCode ≠ 409) &&
    decide (error.statusCode ≠ 429)

def validateLaunchTarget (claim : NodeClaim) (config : LaunchConfig) : Program Unit := do
  let cluster ← clusterUID
  if config.claimUID ≠ claim.uid ∨ config.clusterUID ≠ cluster then
    failWith "launch checkpoint belongs to another claim or cluster"
  else if claim.providerID ≠ "" ∧ providerRegion claim.providerID ≠ config.region then
    failWith "provider ID region does not match launch checkpoint"
  else
    clientForRegion config.region
    validateAccountTarget platform config.accountID

/-- `ValidateLaunchTarget`, which the allocation controller calls first. -/
def validateClaimTarget (claim : NodeClaim) : Program Unit := do
  if launchOf claim = .text "" then
    clientForRegion (providerRegion claim.providerID)
    match (ValueMap.read claim.annotations accountIDAnnotation).asText with
    | some account => validateAccountTarget platform account
    | none => validateAccountTarget platform ""
  else
    let config ← ofExcept (decodeLaunch platform (launchOf claim))
    validateLaunchTarget platform claim config

theorem launchOf_withLaunch (claim : NodeClaim) (config : LaunchConfig) :
    launchOf (withLaunch claim config) = .launch config := by
  have backend : launchAnnotation ≠ backendAnnotation := by decide
  have region : launchAnnotation ≠ regionAnnotation := by decide
  unfold launchOf ValueMap.read withLaunch
  rw [Finmap.lookup_insert_of_ne _ region, Finmap.lookup_insert_of_ne _ backend,
    Finmap.lookup_insert]
  rfl

theorem launchOf_withoutLaunch (claim : NodeClaim) : launchOf (withoutLaunch claim) = .text "" := by
  have backend : launchAnnotation ≠ backendAnnotation := by decide
  have region : launchAnnotation ≠ regionAnnotation := by decide
  unfold launchOf ValueMap.read withoutLaunch
  rw [Finmap.lookup_erase_ne region, Finmap.lookup_erase_ne backend, Finmap.lookup_erase]
  rfl

theorem decodeLaunch_ok {platform : Platform} {value : Value} {config : LaunchConfig}
    (decoded : decodeLaunch platform value = .ok config) : value = .launch config := by
  cases value with
  | launch stored =>
    simp only [decodeLaunch] at decoded
    split at decoded
    · cases decoded
    · cases decoded
      rfl
  | text content | allocation snapshot | seconds time => cases decoded

/-! ## Finding the instance of a launch -/

/-- The loop of `findLaunch` over the listed instances. -/
def findByName (name : String) : List Instance → Option Instance → Program (Option Instance)
  | [], found => pure found
  | listed :: rest, found =>
    if listed.name ≠ some name then findByName name rest found
    else if found.isSome then failWith "multiple instances match launch identity"
    else
      match listed.id with
      | none => failWith "matching instance has no ID"
      | some id => do
        let current ← getInstance id
        findByName name rest (some current)

def instanceSubnet (found : Instance) : String :=
  match found.interfaceSubnet, found.attachmentSubnet with
  | some subnet, _ => subnet
  | none, some subnet => subnet
  | none, none => ""

/-- The checks of `findLaunch` on the instance it found. -/
def matchLaunch (config : LaunchConfig) (found : Instance) : Except GoError Unit :=
  if found.name ≠ some config.name ∨ found.profile ≠ some config.profile ∨
      found.zone ≠ some config.zone ∨ found.vpc ≠ some config.vpc ∨
      found.image ≠ some config.image then
    .error (.plain "instance does not match its launch checkpoint")
  else if instanceSubnet found ≠ config.subnet then
    .error (.plain "instance subnet does not match launch checkpoint")
  else if config.resourceGroup ≠ "" ∧ found.resourceGroup ≠ some config.resourceGroup then
    .error (.plain "instance resource group does not match launch checkpoint")
  else verifyInstanceAccount found config.accountID

def findLaunch (config : LaunchConfig) : Program (Option Instance) := do
  let instances ← listInstancesByName config.name
  match ← findByName config.name instances none with
  | none => pure none
  | some found =>
    ofExcept (matchLaunch config found)
    pure (some found)

/-! ## Recovery and cleanup -/

/-- `launchConfig.node`: the node a launch stands for. -/
def launchNode (config : LaunchConfig) (claim : NodeClaim) (instanceID : String) : Node where
  name := claim.name
  uid := ""
  labels :=
    (((((Finmap.singleton managedLabel "true").insert instanceTypeLabel config.profile).insert
      zoneLabel config.zone).insert regionLabel config.region).insert
      capacityTypeLabel config.capacityType).insert
      nodePoolLabel (StringMap.read claim.labels nodePoolLabel)
  annotations :=
    let base : ValueMap :=
      ((((((((Finmap.singleton backendAnnotation (.text "vpc")).insert
        regionAnnotation (.text config.region)).insert
        launchAnnotation (launchOf claim)).insert
        launchImageAnnotation (.text config.image)).insert
        imageIDAnnotation (.text config.image)).insert
        nodeClassHashAnnotation (.text config.hash)).insert
        nodeClassHashVersionAnnotation (.text config.hashVersion)).insert
        subnetIDAnnotation (.text config.subnet)).insert
        securityGroupsAnnotation (.text (joinText config.securityGroups ','))
    if config.accountID ≠ "" then base.insert accountIDAnnotation (.text config.accountID)
    else base
  finalizers := []
  deletionTimestamp := none
  providerID := providerIDOf config.region instanceID
  capacity := config.capacity
  allocatable := config.allocatable

def recoverLaunch (claim : NodeClaim) (config : LaunchConfig) : Program Node := do
  validateLaunchTarget platform claim config
  clientForRegion config.region
  match ← findLaunch config with
  | none => .fail (.wrap "" .launchUnresolved (": " ++ config.name))
  | some found =>
    match found.id with
    | none => failWith "launch instance is terminating"
    | some id =>
      if found.status = some "deleting" then failWith "launch instance is terminating"
      else do
        updateInstanceTags id
          (withUserTags (vpcTags config.clusterUID config.claimUID config.classUID) config.tags)
        pure (launchNode config claim id)

/-- The loop of `CleanupPending` over the registered Nodes: whether one of them is
this instance. -/
def releaseNodes (providerID : String) : List Node → Bool → Program Bool
  | [], found => pure found
  | node :: rest, found =>
    if node.providerID ≠ providerID then releaseNodes providerID rest found
    else if terminationFinalizer ∉ node.finalizers then
      failWith "pending instance has a Node without graceful termination ownership"
    else if node.deletionTimestamp = none then do
      match ← (deleteNode node).attempt with
      | .ok _ => releaseNodes providerID rest true
      | .error error =>
        if isKube .notFound error then releaseNodes providerID rest true else .fail error
    else releaseNodes providerID rest true

/-- The final `GetInstance` of `CleanupPending`: gone only on a not-found answer. -/
def confirmGone (id : String) : Program Bool := do
  match ← (getInstance id).attempt with
  | .ok _ => pure false
  | .error error => if isNotFound error then pure true else .fail error

/-- `CleanupPending`: whether a launch without a published provider ID is resolved. -/
def cleanupPending (claim : NodeClaim) : Program Bool := do
  let config ← ofExcept (decodeLaunch platform (launchOf claim))
  validateLaunchTarget platform claim config
  clientForRegion config.region
  match ← findLaunch config with
  | none => do
    let time ← now
    pure (abandoned config time)
  | some found =>
    match found.id with
    | none => failWith "pending instance has no ID"
    | some id => do
      let nodes ← listNodes
      let registered ← releaseNodes (providerIDOf config.region id) nodes false
      if registered then pure false
      else
        match ← (deleteInstance id).attempt with
        | .error error =>
          if isNotFound error then confirmGone id else .fail error
        | .ok _ => confirmGone id

/-- `get` without the cache: absence is reported as a NodeClaim that is not found. -/
def getFresh (providerID : String) : Program Unit := do
  let instanceID := extractInstanceIDFromProviderID providerID
  if instanceID = "" then
    failWith ("could not extract instance ID from provider ID: " ++ providerID)
  else
    clientForRegion (providerRegion providerID)
    let accountID ← resolveAccountID platform
    match ← (getInstance instanceID).attempt with
    | .error error =>
      if isNotFound error then
        .fail (newNodeClaimNotFoundError (.plain ("instance " ++ instanceID ++ " not found")))
      else .fail (.wrap ("getting VPC instance " ++ instanceID ++ ": ") error "")
    | .ok found =>
      if found.id ≠ some instanceID ∨ found.name = none then
        failWith "instance response has unexpected identity"
      else ofExcept (verifyInstanceAccount found accountID)

end KarpenterIBM.VPCLaunch
