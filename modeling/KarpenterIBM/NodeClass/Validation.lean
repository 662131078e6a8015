import KarpenterIBM.Errors
import KarpenterIBM.Lib.EffectProgram
import KarpenterIBM.Objects

/-!
# Validation of a NodeClass

`validateNodeClass` of `pkg/controllers/nodeclass/status`, with `GetSubnet` and `ListSubnets` of
the subnet provider it asks.
-/

namespace KarpenterIBM.NodeClassStatus

open EffectProgram Errors Objects Text

/-! ## Objects -/

structure VPCSubnet where
  id : String
  zone : String
  status : String
  availableIpv4AddressCount : Option Int
deriving DecidableEq

structure Region where
  name : Option String
  status : Option String
deriving DecidableEq

/-- A security group of the SDK; `vpc` is its reference and the ID in it. -/
structure SecurityGroup where
  vpc : Option (Option String)
deriving DecidableEq

/-- Which of its clients the controller was built with. -/
structure Controller where
  hasIBMClient : Bool
  hasSubnetProvider : Bool
  hasVPCClientManager : Bool
deriving DecidableEq

def Controller.complete : Controller := ⟨true, true, true⟩

/-! ## Interface -/

/-- The calls of the status controller.  A cache answers what it holds and has not
expired; the image resolver is one call for each of its two entry points. -/
inductive Call where
  | getCachedClass
  | getClass
  | patchStatus (stored patched : IBMNodeClass)
  | newVPCClient
  | getVPCClient
  | forRegion (region : String)
  | hasSDKClient
  | listRegions
  | getVPC (region vpcID resourceGroupID : String)
  | getSubnet (subnetID : String)
  | listSubnets (vpcID : String)
  | cachedSubnet (subnetID : String)
  | cacheSubnet (subnetID : String) (info : SubnetInfo)
  | cachedSubnets (vpcID : String)
  | cacheSubnets (vpcID : String) (infos : List SubnetInfo)
  | cachedZone (subnetID : String)
  | cacheZone (subnetID zone : String)
  | resolveImage (region image : String)
  | resolveImageBySelector (region : String) (selector : ImageSelector)
  | getSecurityGroup (id : String)
  | getDefaultSecurityGroup (vpcID : String)
  | getKey (id : String)
  | backoff (attempt : Nat)

/-- Waiting answers the error of a context that is done. -/
def Call.Answer : Call → Type
  | .getCachedClass => Except GoError IBMNodeClass
  | .getClass => Except GoError IBMNodeClass
  | .patchStatus _ _ => Except GoError Unit
  | .newVPCClient => Except GoError Unit
  | .getVPCClient => Except GoError Unit
  | .forRegion _ => Except GoError Unit
  | .hasSDKClient => Bool
  | .listRegions => Except GoError (Option (List Region))
  | .getVPC _ _ _ => Except GoError Unit
  | .getSubnet _ => Except GoError VPCSubnet
  | .listSubnets _ => Except GoError (List VPCSubnet)
  | .cachedSubnet _ => Option SubnetInfo
  | .cacheSubnet _ _ => Unit
  | .cachedSubnets _ => Option (List SubnetInfo)
  | .cacheSubnets _ _ => Unit
  | .cachedZone _ => Option String
  | .cacheZone _ _ => Unit
  | .resolveImage _ _ => Except GoError String
  | .resolveImageBySelector _ _ => Except GoError String
  | .getSecurityGroup _ => Except GoError SecurityGroup
  | .getDefaultSecurityGroup _ => Except GoError String
  | .getKey _ => Except GoError Unit
  | .backoff _ => Option GoError

abbrev validating : Signature := ⟨Call, Call.Answer⟩

abbrev Program (α : Type) : Type := Prog validating GoError α

def wrapped {α : Type} (lead : String) (program : Program α) : Program α :=
  program.mapError fun error => .wrap lead error ""

def getVPCClient : Program Unit := .call .getVPCClient ofExcept

def forRegion (region : String) : Program Unit := .call (.forRegion region) ofExcept

def hasSDKClient : Program Bool := .call .hasSDKClient .pure

def validationVPCClient (region : String) : Program Unit := do
  getVPCClient
  forRegion region

def validationSDKClient (region : String) : Program Unit := do
  wrapped "getting VPC client: " (validationVPCClient region)
  let available ← hasSDKClient
  if available = false then .fail (.plain "VPC SDK client not available") else pure ()

/-- `retryWithExponentialBackoff`, from an attempt on. -/
def retryFrom (body : Program Unit) (attempt : Nat) : Nat → Program Unit
  | 0 => pure ()
  | remaining + 1 => do
    let outcome ← body.attempt
    match outcome with
    | .ok _ => pure ()
    | .error error =>
      if remaining = 0 then .fail error
      else do
        let done ← (.call (.backoff attempt) .pure : Program (Option GoError))
        match done with
        | some cancelled => .fail cancelled
        | none => retryFrom body (attempt + 1) remaining

def retryWithExponentialBackoff (maxRetries : Nat) (body : Program Unit) : Program Unit :=
  retryFrom body 0 maxRetries

def explain (absent forbidden network other : String) (error : GoError) : GoError :=
  if containsText error.text "404" ∨ containsText error.text "not found" then .plain absent
  else if containsText error.text "403" ∨ containsText error.text "forbidden" ∨
      containsText error.text "unauthorized" then .plain forbidden
  else if containsText error.text "timeout" ∨ containsText error.text "connection" then
    .wrap network error ""
  else .wrap other error ""

/-! ## Fields and formats -/

def missingFields (spec : IBMNodeClassSpec) : List String :=
  (if trimSpace spec.region = "" then ["region"] else []) ++
    (if trimSpace spec.image = "" ∧ spec.imageSelector = none then ["image or imageSelector"]
      else []) ++
    if trimSpace spec.vpc = "" then ["vpc"] else []

def validateRequiredFields (spec : IBMNodeClassSpec) : Except GoError Unit :=
  if missingFields spec = [] then .ok ()
  else .error (.plain ("required fields missing: " ++ ", ".intercalate (missingFields spec)))

def validateRegionFormat (region : String) : Except GoError Unit :=
  if containsText region "-" = false ∨ region.utf8ByteSize < 5 ∨ 10 < region.utf8ByteSize then
    .error (.plain ("invalid region format: " ++ region ++
      ", expected format like 'us-south' or 'eu-de'"))
  else if region.toList.any fun c => (c < 'a' || 'z' < c) && c ≠ '-' then
    .error (.plain ("invalid region format: " ++ region ++
      ", regions must contain only lowercase letters and hyphens"))
  else .ok ()

def idFormatInvalid (id : String) : Bool :=
  !containsText id "-" || decide (id.utf8ByteSize < 10)

def validateFieldFormats (spec : IBMNodeClassSpec) : Except GoError Unit :=
  let vpcID := trimSpace spec.vpc
  let subnetID := trimSpace spec.subnet
  let imageID := trimSpace spec.image
  let region := trimSpace spec.region
  let zone := trimSpace spec.zone
  if vpcID ≠ "" ∧ idFormatInvalid vpcID then
    .error (.plain ("VPC ID format invalid, expected format like 'r006-<uuid>', got: " ++ vpcID))
  else if subnetID ≠ "" ∧ idFormatInvalid subnetID then
    .error (.plain ("subnet ID format invalid, expected format like '0717-<uuid>', got: " ++
      subnetID))
  else if imageID ≠ "" ∧ hasLead imageID "image-" ∧ imageID.utf8ByteSize < 10 then
    .error (.plain ("image ID appears invalid: " ++ imageID))
  else
    match if region ≠ "" then validateRegionFormat region else .ok () with
    | .error error => .error error
    | .ok _ =>
      if zone ≠ "" ∧ hasLead zone (region ++ "-") = false then
        .error (.plain ("zone " ++ zone ++ " must start with region prefix " ++ region ++ "-"))
      else .ok ()

/-! ## Region and VPC -/

def findRegion (region : String) : List Region → Except GoError Unit
  | [] => .error (.plain ("region " ++ region ++ " not found in VPC API"))
  | entry :: rest =>
    if entry.name = some region then
      match entry.status with
      | none => .ok ()
      | some status =>
        if status ≠ "available" then
          .error (.plain ("region " ++ region ++ " exists but is not available (status: " ++
            status ++ ")"))
        else .ok ()
    else findRegion region rest

def validateRegion (region : String) : Program Unit :=
  if region = "" then .fail (.plain "region is required")
  else do
    ofExcept (validateRegionFormat region)
    wrapped "getting VPC client: " getVPCClient
    let available ← hasSDKClient
    if available = false then .fail (.plain "VPC SDK client not available")
    else do
      let regions ← wrapped "listing regions from VPC API: " (.call .listRegions ofExcept)
      match regions with
      | none => .fail (.plain "no regions found in VPC API")
      | some entries => ofExcept (findRegion region entries)

variable (controller : Controller)

def createRegionVPCClient (region : String) : Program Unit :=
  if controller.hasIBMClient = false then .fail (.plain "IBM client not available")
  else do
    wrapped "getting VPC client: " (.call .newVPCClient ofExcept)
    forRegion region

def validateVPCInRegion (vpcID resourceGroupID region : String) : Program Unit := do
  wrapped ("creating region-specific VPC client for " ++ region ++ ": ")
    (createRegionVPCClient controller region)
  (retryWithExponentialBackoff 3 (.call (.getVPC region vpcID resourceGroupID) ofExcept)).mapError
    (explain
      ("VPC " ++ vpcID ++ " does not exist in region " ++ region ++
        ". Please verify the VPC ID and ensure it exists in the correct region")
      ("VPC " ++ vpcID ++ " exists but is not accessible in region " ++ region ++
        ". Please check IAM permissions and resource group access")
      ("VPC validation failed due to network issues accessing VPC " ++ vpcID ++ " in region " ++
        region ++ ": ")
      ("VPC " ++ vpcID ++ " validation failed in region " ++ region ++ ": "))

/-! ## Subnets -/

def extractRegionFromZone (zone : String) : String :=
  if '-' ∈ zone.toList then
    String.ofList (zone.toList.reverse.dropWhile (· ≠ '-')).tail.reverse
  else zone

/-- The count of addresses is cut to 32 bits. -/
def convertVPCSubnetToSubnetInfo (subnet : VPCSubnet) : SubnetInfo where
  id := subnet.id
  zone := subnet.zone
  state := subnet.status
  availableIPs := (subnet.availableIpv4AddressCount.getD 0).bmod 4294967296

/-- `GetSubnet` of the provider. -/
def getSubnet (subnetID : String) : Program SubnetInfo :=
  if controller.hasIBMClient = false then .fail (.plain "IBM client is not initialized")
  else do
    let cached ← (.call (.cachedSubnet subnetID) .pure : Program (Option SubnetInfo))
    match cached with
    | some info => pure info
    | none => do
      getVPCClient
      let subnet ← wrapped ("getting subnet " ++ subnetID ++ ": ")
        (.call (.getSubnet subnetID) ofExcept)
      let info := convertVPCSubnetToSubnetInfo subnet
      (.call (.cacheSubnet subnetID info) .pure : Program Unit)
      pure info

/-- `ListSubnets` of the provider. -/
def listSubnets (vpcID : String) : Program (List SubnetInfo) :=
  if controller.hasIBMClient = false then .fail (.plain "IBM client is not initialized")
  else do
    let cached ← (.call (.cachedSubnets vpcID) .pure : Program (Option (List SubnetInfo)))
    match cached with
    | some infos => pure infos
    | none => do
      getVPCClient
      let subnets ← wrapped ("listing subnets for VPC " ++ vpcID ++ ": ")
        (.call (.listSubnets vpcID) ofExcept)
      let infos := subnets.map convertVPCSubnetToSubnetInfo
      (.call (.cacheSubnets vpcID infos) .pure : Program Unit)
      pure infos

/-- The checks of `validateSubnet` on what the provider knows of the subnet.  The VPC of
the NodeClass is not among them: a `SubnetInfo` does not hold the VPC of the subnet. -/
def checkSubnet (subnetID expectedRegion : String) (info : SubnetInfo) : Except GoError Unit :=
  if extractRegionFromZone info.zone ≠ expectedRegion then
    .error (.plain ("subnet " ++ subnetID ++ " is in region " ++ extractRegionFromZone info.zone ++
      " but NodeClass expects region " ++ expectedRegion ++ " (subnet zone: " ++ info.zone ++
      "). Cross-region subnet references are not supported"))
  else if info.state ≠ "available" then
    .error (.plain ("subnet " ++ subnetID ++ " is not in available state: " ++ info.state))
  else if info.availableIPs < 10 then
    .error (.plain ("subnet " ++ subnetID ++ " has insufficient available IPs (" ++
      toString info.availableIPs ++ ")"))
  else .ok ()

def validateSubnet (subnetID _vpcID expectedRegion : String) : Program Unit := do
  let info ← wrapped ("subnet " ++ subnetID ++ " not found or not accessible: ")
    (getSubnet controller subnetID)
  ofExcept (checkSubnet subnetID expectedRegion info)

def usable (zone : String) (info : SubnetInfo) : Bool :=
  decide (info.state = "available") && decide (10 < info.availableIPs) &&
    (decide (zone = "") || decide (info.zone = zone))

def validateSubnetsAvailable (vpcID zone : String) : Program Unit := do
  let infos ← wrapped ("failed to list subnets in VPC " ++ vpcID ++ ": ")
    (listSubnets controller vpcID)
  if infos.countP (usable zone) = 0 then
    if zone ≠ "" then
      .fail (.plain ("no available subnets found in VPC " ++ vpcID ++ " for zone " ++ zone))
    else .fail (.plain ("no available subnets found in VPC " ++ vpcID))
  else pure ()

/-! ## Image, security groups, keys -/

def selectorText (selector : ImageSelector) : String :=
  "os=" ++ selector.os ++ ", majorVersion=" ++ selector.majorVersion ++ ", minorVersion=" ++
    selector.minorVersion ++ ", architecture=" ++ selector.architecture ++ ", variant=" ++
    selector.variant

/-- `validateImageConfiguration`; the image ID it writes into the status is its result. -/
def validateImageConfiguration (spec : IBMNodeClassSpec) : Program String := do
  validationVPCClient spec.region
  if spec.image ≠ "" then
    wrapped ("image " ++ spec.image ++ " not found or not accessible in region " ++ spec.region ++
      ": ") (.call (.resolveImage spec.region spec.image) ofExcept)
  else
    match spec.imageSelector with
    | some selector =>
      wrapped ("no images found matching selector (" ++ selectorText selector ++
        ") in region " ++ spec.region ++ ": ")
        (.call (.resolveImageBySelector spec.region selector) ofExcept)
    | none => .fail (.plain "either image or imageSelector must be specified")

/-- One round of the loop of `validateSecurityGroups`. -/
def validateSecurityGroup (vpcID region id : String) : Program Unit := do
  (retryWithExponentialBackoff 3 (.call (.getSecurityGroup id) fun answer =>
      ofExcept (answer.map fun _ => ()))).mapError
    (explain
      ("security group " ++ id ++ " does not exist in region " ++ region ++
        ". Please verify the security group ID")
      ("security group " ++ id ++ " exists but is not accessible in region " ++ region ++
        ". Please check IAM permissions")
      ("security group validation failed due to network issues accessing " ++ id ++
        " in region " ++ region ++ ": ")
      ("security group " ++ id ++ " validation failed in region " ++ region ++ ": "))
  let details ← wrapped ("failed to get security group details for " ++ id ++ ": ")
    (.call (.getSecurityGroup id) ofExcept)
  match details.vpc with
  | some (some actual) =>
    if actual ≠ vpcID then
      .fail (.plain ("security group " ++ id ++ " belongs to VPC " ++ actual ++
        " but NodeClass specifies VPC " ++ vpcID ++
        ". Security groups must be in the same VPC as instances"))
    else pure ()
  | _ => pure ()

def forEachID (body : String → Program Unit) : List String → Program Unit :=
  forEach fun id => if trimSpace id = "" then pure () else body (trimSpace id)

def validateSecurityGroups (ids : List String) (vpcID region : String) : Program Unit :=
  if controller.hasVPCClientManager = false then pure ()
  else do
    validationSDKClient region
    forEachID (validateSecurityGroup vpcID region) ids

def resolveDefaultSecurityGroup (vpcID region : String) : Program String := do
  wrapped "getting VPC client: " (validationVPCClient region)
  .call (.getDefaultSecurityGroup vpcID) ofExcept

def resolveSecurityGroups (spec : IBMNodeClassSpec) : Program (List String) :=
  if spec.securityGroups ≠ [] then do
    wrapped "security group validation failed: "
      (validateSecurityGroups controller spec.securityGroups spec.vpc spec.region)
    pure spec.securityGroups
  else do
    let id ← wrapped "failed to resolve default security group: "
      (resolveDefaultSecurityGroup spec.vpc spec.region)
    pure [id]

def validateSSHKey (region id : String) : Program Unit :=
  (retryWithExponentialBackoff 3 (.call (.getKey id) ofExcept)).mapError
    (explain
      ("SSH key " ++ id ++ " does not exist in region " ++ region ++
        ". Please verify the SSH key ID")
      ("SSH key " ++ id ++ " exists but is not accessible in region " ++ region ++
        ". Please check IAM permissions")
      ("SSH key validation failed due to network issues accessing " ++ id ++ " in region " ++
        region ++ ": ")
      ("SSH key " ++ id ++ " validation failed in region " ++ region ++ ": "))

def validateSSHKeys (ids : List String) (region : String) : Program Unit :=
  if controller.hasVPCClientManager = false then pure ()
  else do
    validationSDKClient region
    forEachID (validateSSHKey region) ids

/-! ## Phases -/

/-- The status as far as the validation has written it, and the verdict. -/
structure Validation where
  status : IBMNodeClassStatus
  verdict : Except GoError Unit

def validateNetwork (spec : IBMNodeClassSpec) : Program Unit := do
  wrapped "region validation failed: " (validateRegion spec.region)
  wrapped "VPC validation failed: "
    (validateVPCInRegion controller spec.vpc spec.resourceGroup spec.region)
  if spec.subnet ≠ "" then
    wrapped "subnet validation failed: "
      (validateSubnet controller spec.subnet spec.vpc spec.region)
  else
    wrapped "subnet availability validation failed: "
      (validateSubnetsAvailable controller spec.vpc spec.zone)

def validateKeys (spec : IBMNodeClassSpec) : Program Unit :=
  if spec.sshKeys ≠ [] then
    wrapped "SSH key validation failed: " (validateSSHKeys controller spec.sshKeys spec.region)
  else pure ()

/-- The part of `validateIBMCloudResources` after the image is in the status. -/
def validateAccess (spec : IBMNodeClassSpec) (status : IBMNodeClassStatus) :
    Program Validation := do
  let groups ← (resolveSecurityGroups controller spec).attempt
  match groups with
  | .error error => pure ⟨status, .error error⟩
  | .ok ids => do
    let keys ← (validateKeys controller spec).attempt
    pure ⟨{ status with resolvedSecurityGroups := ids }, keys⟩

/-- The part of `validateIBMCloudResources` after the network is checked. -/
def validateImageAndAccess (spec : IBMNodeClassSpec) (status : IBMNodeClassStatus) :
    Program Validation := do
  let image ← (wrapped "image validation failed: " (validateImageConfiguration spec)).attempt
  match image with
  | .error error => pure ⟨status, .error error⟩
  | .ok id => validateAccess controller spec { status with resolvedImageID := id }

def validateIBMCloudResources (spec : IBMNodeClassSpec) (status : IBMNodeClassStatus) :
    Program Validation :=
  if controller.hasIBMClient = false ∨ controller.hasSubnetProvider = false then
    pure ⟨status, .ok ()⟩
  else do
    let network ← (validateNetwork controller spec).attempt
    match network with
    | .error error => pure ⟨status, .error error⟩
    | .ok _ => validateImageAndAccess controller spec status

def validateZoneSubnetCompatibility (zone subnetID : String) : Program Unit :=
  if controller.hasSubnetProvider = false then pure ()
  else do
    let cached ← (.call (.cachedZone subnetID) .pure : Program (Option String))
    match cached with
    | some known =>
      if known ≠ zone then
        .fail (.plain ("subnet " ++ subnetID ++ " is in zone " ++ known ++
          ", but requested zone is " ++ zone))
      else pure ()
    | none => do
      let info ← wrapped "failed to get subnet information: " (getSubnet controller subnetID)
      (.call (.cacheZone subnetID info.zone) .pure : Program Unit)
      if info.zone ≠ zone then
        .fail (.plain ("subnet " ++ subnetID ++ " is in zone " ++ info.zone ++
          ", but requested zone is " ++ zone ++
          ". Subnets cannot span multiple zones in IBM Cloud VPC"))
      else if info.state ≠ "available" then
        .fail (.plain ("subnet " ++ subnetID ++ " in zone " ++ zone ++
          " is not in available state (current state: " ++ info.state ++ ")"))
      else pure ()

def validZoneBalances : List String := ["Balanced", "AvailabilityFirst", "CostOptimized"]

def validatePlacementStrategy (strategy : PlacementStrategy) : Except GoError Unit :=
  if strategy.zoneBalance ∉ validZoneBalances then
    .error (.plain ("invalid ZoneBalance: " ++ strategy.zoneBalance ++ ", must be one of: " ++
      ", ".intercalate validZoneBalances))
  else
    match strategy.subnetSelection with
    | none => .ok ()
    | some criteria =>
      if criteria.minimumAvailableIPs < 0 then
        .error (.plain ("MinimumAvailableIPs must be non-negative: " ++
          toString criteria.minimumAvailableIPs))
      else .ok ()

def validateZoneOfSubnet (spec : IBMNodeClassSpec) : Program Unit :=
  if spec.zone ≠ "" ∧ spec.subnet ≠ "" then
    wrapped "zone-subnet compatibility validation failed: "
      (validateZoneSubnetCompatibility controller spec.zone spec.subnet)
  else pure ()

def validateBusinessLogic (spec : IBMNodeClassSpec) : Program Unit := do
  validateZoneOfSubnet controller spec
  match spec.placementStrategy with
  | none => pure ()
  | some strategy =>
    wrapped "placement strategy validation failed: "
      (ofExcept (validatePlacementStrategy strategy))

def validateStatic (spec : IBMNodeClassSpec) : Except GoError Unit :=
  match validateRequiredFields spec with
  | .error error => .error (.wrap "field validation failed: " error "")
  | .ok _ =>
    match validateFieldFormats spec with
    | .error error => .error (.wrap "format validation failed: " error "")
    | .ok _ => .ok ()

def validateNodeClass (nodeClass : IBMNodeClass) : Program Validation :=
  match validateStatic nodeClass.spec with
  | .error error => pure ⟨nodeClass.status, .error error⟩
  | .ok _ => do
    let resources ← validateIBMCloudResources controller nodeClass.spec nodeClass.status
    match resources.verdict with
    | .error error =>
      pure ⟨resources.status, .error (.wrap "IBM Cloud resource validation failed: " error "")⟩
    | .ok _ => do
      let logic ← (wrapped "business logic validation failed: "
        (validateBusinessLogic controller nodeClass.spec)).attempt
      pure ⟨resources.status, logic⟩

end KarpenterIBM.NodeClassStatus
