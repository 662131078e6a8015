import KarpenterIBM.Calls
import KarpenterIBM.Lib.KeyedMap

/-!
# Ownership names and tags

`pkg/utils/ownership` together with the well-known keys the provider uses, and
the platform the model is relative to: digests, the provisioning hash, the
configured account and Karpenter's scheduling rules are third-party or external,
so they are parameters and nothing is assumed of them here.
-/

namespace KarpenterIBM.Ownership

open Calls Errors KeyedMap Objects Text

/-! ## The platform -/

/-- Karpenter's `scheduling` and `resources` packages, as the provider uses them. -/
structure Scheduling where
  /-- `Requirement.Len` and `Requirement.Values`. -/
  len : NodeSelectorRequirement → Nat
  values : NodeSelectorRequirement → List String
  /-- `Requirement.Operator`. -/
  operator : NodeSelectorRequirement → Operator
  /-- `Requirements.Compatible` with undefined well-known labels allowed. -/
  compatible : List NodeSelectorRequirement → List NodeSelectorRequirement → Bool
  /-- Whether `Offerings.Compatible` keeps an offering with these requirements. -/
  offeringCompatible : List NodeSelectorRequirement → List NodeSelectorRequirement → Bool
  /-- `Requirements.Get(key).Has(value)`. -/
  has : List NodeSelectorRequirement → String → String → Bool
  /-- `NewLabelRequirements(labels).Compatible`, undefined well-known labels allowed. -/
  labelsCompatible : StringMap → List NodeSelectorRequirement → Except ApiError Unit
  /-- `WellKnownLabels.Has`. -/
  wellKnown : String → Bool
  /-- `resources.Fits`. -/
  fits : ResourceList → ResourceList → Bool

structure Platform where
  /-- The hexadecimal digits of the first 26 bytes of a SHA-256 digest. -/
  digest26 : String → String
  /-- The same of the first 24 and of the first 20 bytes. -/
  digest24 : String → String
  digest20 : String → String
  provisioningHash : IBMNodeClassSpec → Except ApiError String
  /-- `IBM_ACCOUNT_ID`, empty when it is not set. -/
  configuredAccount : String
  /-- `IKS_CLUSTER_ID` and the region of the IBM client, empty when not set. -/
  configuredCluster : String
  clientRegion : String
  /-- The namespace the reservations are kept in. -/
  allocationNamespace : String
  /-- `strconv.ParseFloat`, for texts that give a finite number. -/
  parsePrice : String → Option Rat
  scheduling : Scheduling

/-! ## Keys -/

def backendAnnotation : String := "karpenter-ibm.sh/provider-mode"
def regionAnnotation : String := "karpenter-ibm.sh/region"
def clusterIDAnnotation : String := "karpenter-ibm.sh/cluster-id"
def poolIDAnnotation : String := "karpenter-ibm.sh/worker-pool-id"
def workerIDAnnotation : String := "karpenter-ibm.sh/worker-id"
def accountIDAnnotation : String := "karpenter-ibm.sh/account-id"
def clusterUIDLabel : String := "karpenter-ibm.sh/cluster-uid"
def claimUIDLabel : String := "karpenter-ibm.sh/nodeclaim-uid"
def nodeClassUIDLabel : String := "karpenter-ibm.sh/nodeclass-uid"
def providerLabel : String := "karpenter-ibm.sh/provider"
def managedLabel : String := "karpenter.sh/managed"
def clusterUIDTag : String := "karpenter-ibm.sh.cluster-uid"
def claimUIDTag : String := "karpenter-ibm.sh.nodeclaim-uid"
def nodeClassUIDTag : String := "karpenter-ibm.sh.nodeclass-uid"
def providerTag : String := "karpenter-ibm.sh.provider"
def managedTag : String := "karpenter.sh.managed"

def nodeClassHashAnnotation : String := "karpenter-ibm.sh/nodeclass-hash"
def nodeClassHashVersionAnnotation : String := "karpenter-ibm.sh/nodeclass-hash-version"
def subnetIDAnnotation : String := "karpenter-ibm.sh/subnet-id"
def securityGroupsAnnotation : String := "karpenter-ibm.sh/security-group-ids"
def imageIDAnnotation : String := "karpenter-ibm.sh/image-id"
def nodeClassHashVersion : String := "2"

def instanceTypeLabel : String := "node.kubernetes.io/instance-type"
def zoneLabel : String := "topology.kubernetes.io/zone"
def regionLabel : String := "topology.kubernetes.io/region"
def capacityTypeLabel : String := "karpenter.sh/capacity-type"
def nodePoolLabel : String := "karpenter.sh/nodepool"
def terminationFinalizer : String := "karpenter.sh/termination"
def capacityTypeSpot : String := "spot"
def capacityTypeOnDemand : String := "on-demand"

/-! ## Identity -/

/-- `ClusterUID`: the UID of the kube-system namespace. -/
def clusterUID : Program String := do
  let uid ← wrapped "reading cluster identity: " (.call .getNamespaceUID answered)
  if uid = "" then failWith "kube-system namespace has no UID"
  else pure uid

theorem quiet_clusterUID {allowed : Call → Prop} (kept : allowed .getNamespaceUID) :
    Quiet allowed clusterUID :=
  Quiet.bind (Quiet.wrapped _ (quiet_ask kept)) fun _ => quiet_unless (quiet_pure _)

def instanceName (platform : Platform) (clusterUID claimUID : String) : String :=
  "karpenter-" ++ platform.digest26 (clusterUID ++ "/" ++ claimUID)

/-! ## Finalizers -/

def addFinalizer (finalizers : List String) (finalizer : String) : List String :=
  if finalizer ∈ finalizers then finalizers else finalizers ++ [finalizer]

def removeFinalizer (finalizers : List String) (finalizer : String) : List String :=
  finalizers.filter fun present => present ≠ finalizer

theorem mem_addFinalizer (finalizers : List String) (finalizer : String) :
    finalizer ∈ addFinalizer finalizers finalizer := by
  unfold addFinalizer
  by_cases found : finalizer ∈ finalizers
  · rw [if_pos found]
    exact found
  · rw [if_neg found]
    simp

/-! ## Tags -/

def vpcTags (clusterUID claimUID classUID : String) : StringMap :=
  ((((Finmap.singleton managedTag "true").insert providerTag "vpc").insert
    clusterUIDTag clusterUID).insert claimUIDTag claimUID).insert nodeClassUIDTag classUID

def reservedTag (key : String) : Bool :=
  let lower := lowerText key
  decide (lower = "managed-by") || hasLead lower "karpenter.sh/" ||
    hasLead lower "karpenter-ibm.sh/" || hasLead lower "karpenter.sh." ||
    hasLead lower "karpenter-ibm.sh."

def tagChar (c : Char) : Bool :=
  c.isAlphanum || c = ' ' || c = '_' || c = '-' || c = '.' || c = ':'

def tagSizeValid (tag : String) : Bool :=
  decide (tag.utf8ByteSize ≠ 0) && decide (tag.utf8ByteSize ≤ 128)

def tagKeyValid (key : String) : Bool :=
  decide (key ≠ "") && !containsText key ":"

def countFailing (check : String → String → Bool) (tags : StringMap) : Nat :=
  tags.entries.countP fun entry => check entry.1 entry.2 = false

/-- The checks of `FormatTags` and `ValidateTag`.  The source reports the first bad
entry it meets in an unordered map; here a bad key goes before a bad length and
that before a bad character. -/
def checkTags (tags : StringMap) : Except GoError Unit :=
  if countFailing (fun key _ => tagKeyValid key) tags ≠ 0 then
    .error (.plain "cloud tag keys must be nonempty and must not contain colons")
  else if countFailing (fun key value => tagSizeValid (key ++ ":" ++ value)) tags ≠ 0 then
    .error (.plain "cloud tags must contain between 1 and 128 ASCII characters")
  else if countFailing (fun key value => (key ++ ":" ++ value).toList.all tagChar) tags ≠ 0 then
    .error (.plain ("cloud tags permit only ASCII letters, digits, spaces, underscores, hyphens, "
      ++ "periods, and colons"))
  else .ok ()

theorem checkTags_ok {tags : StringMap}
    (keys : countFailing (fun key _ => tagKeyValid key) tags = 0)
    (sizes : countFailing (fun key value => tagSizeValid (key ++ ":" ++ value)) tags = 0)
    (chars : countFailing (fun key value => (key ++ ":" ++ value).toList.all tagChar) tags = 0) :
    checkTags tags = .ok () := by
  unfold checkTags
  rw [if_neg (not_not.mpr keys), if_neg (not_not.mpr sizes), if_neg (not_not.mpr chars)]

def withUserTags (owned user : StringMap) : StringMap :=
  filterKeys (fun key => !reservedTag key) user ∪ owned

end KarpenterIBM.Ownership
