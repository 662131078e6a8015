import KarpenterIBM.IKS.RecordAgreement
import KarpenterIBM.InstanceTypes.Catalog

/-!
# A new allocation honours its claim

`newAllocation` reads the NodeClass, the cluster identity, the template pool and the catalog.
-/

namespace KarpenterIBM.IKSAllocation

open Calls EffectProgram InstanceTypes KeyedMap List Objects Ownership SortSlice
open AllocationRecords (sampleClaim sampleClass)

/-! ## The setting -/

/-- What `newAllocation` reads.  Any call may fail instead. -/
structure Setting where
  nodeClass : IBMNodeClass
  clusterUID : String
  template : WorkerPool
  catalog : Catalog

def Setting.Answers (setting : Setting) (platform : Platform) (sorter : Sorter lowerScore) :
    calls.Exchange → Prop
  | ⟨.getNodeClass _, answer⟩ =>
    ∀ nodeClass, answer = .ok nodeClass → nodeClass = setting.nodeClass
  | ⟨.getNamespaceUID, answer⟩ => ∀ uid, answer = .ok uid → uid = setting.clusterUID
  | ⟨.getWorkerPool _ _, answer⟩ => ∀ pool, answer = .ok pool → pool = setting.template
  | ⟨.getInstanceType flavor _, answer⟩ =>
    ∀ instanceType, answer = .ok instanceType →
      setting.catalog.get flavor = .ok instanceType
  | ⟨.filterInstanceTypes nodeClass, answer⟩ =>
    ∀ filtered, answer = .ok filtered →
      setting.catalog.filterInstanceTypes platform sorter nodeClass.spec.instanceRequirements
        nodeClass = .ok filtered
  | _ => True

/-! ## What is honoured -/

structure Allowed (platform : Platform) (nodeClass : IBMNodeClass) (pools : IKSDynamicPoolConfig)
    (instanceType : InstanceType) : Prop where
  profile : nodeClass.spec.instanceProfile ≠ "" →
    instanceType.name = nodeClass.spec.instanceProfile
  listed : pools.allowedInstanceTypes ≠ [] → instanceType.name ∈ pools.allowedInstanceTypes
  requirements : ∀ requirements, nodeClass.spec.instanceRequirements = some requirements →
    Meets platform requirements instanceType

structure Offered (platform : Platform) (nodeClass : IBMNodeClass) (offering : Offering) :
    Prop where
  available : offering.available = true
  inZone : platform.scheduling.compatible offering.requirements
    [⟨zoneLabel, .In, [nodeClass.spec.zone]⟩,
      ⟨capacityTypeLabel, .In, [capacityTypeOnDemand]⟩] = true
  affordable : ∀ requirements, nodeClass.spec.instanceRequirements = some requirements →
    requirements.maximumHourlyPrice ≠ "" →
      ∃ maximum price, platform.parsePrice requirements.maximumHourlyPrice = some maximum ∧
        offering.price = some price ∧ 0 < price ∧ price ≤ maximum

/-- The labels are those of the flavor, as far as it has one value for a key and the key does not
place the pool, and those of the user. -/
structure Labelled (platform : Platform) (claim : NodeClaim) (pools : IKSDynamicPoolConfig)
    (instanceType : InstanceType) (labels : StringMap) : Prop where
  ofType : ∀ requirement ∈ instanceType.requirements,
    platform.scheduling.operator requirement = .In → platform.scheduling.len requirement = 1 →
    requirement.key ∉ [instanceTypeLabel, zoneLabel, regionLabel, capacityTypeLabel] →
      labels.lookup requirement.key =
        some ((platform.scheduling.values requirement).headD "")
  ofUser : ∀ given ∈ [claim.labels, pools.labels], ∀ key value, reservedTag key = false →
    given.lookup key = some value → labels.lookup key = some value

structure Placed (nodeClass : IBMNodeClass) (allocation : Allocation) : Prop where
  flavor : allocation.labels.lookup instanceTypeLabel = some allocation.request.flavor
  zone : allocation.labels.lookup zoneLabel = some nodeClass.spec.zone
  region : allocation.labels.lookup regionLabel = some nodeClass.spec.region
  capacityType : allocation.labels.lookup capacityTypeLabel = some capacityTypeOnDemand
  zones : allocation.request.zones = [⟨nodeClass.spec.zone, nodeClass.spec.subnet⟩]

/-- Under the reserved keys the request has the ownership labels of the cluster, the claim
and the class, and besides them only the NodePool. -/
structure Owned (clusterUID : String) (claim : NodeClaim) (nodeClass : IBMNodeClass)
    (allocation : Allocation) : Prop where
  cluster : allocation.clusterUID = clusterUID
  claim : allocation.claimUID = claim.uid
  nodeClass : allocation.nodeClassUID = nodeClass.uid
  labels : ∀ key, reservedTag key = true → key ≠ nodePoolLabel →
    allocation.request.labels.lookup key = (ownerLabels allocation).lookup key

/-! ## Labels -/

variable {labels : StringMap}

theorem lookup_mergeLabels {extra merged : StringMap} (out : mergeLabels labels extra = .ok merged)
    {key value : String} (found : labels.lookup key = some value) :
    merged.lookup key = some value := by
  unfold mergeLabels at out
  split at out
  · cases out
  next least =>
    cases out
    rw [lookup_union, lookup_filterKeys, found]
    split_ifs with kept
    · cases given : extra.lookup key with
      | none => rfl
      | some other =>
        have mem : key ∈ extra := Finmap.mem_iff.mpr ⟨other, given⟩
        have agrees := leastKey_none least mem
        simp only [StringMap.read, given, found, Option.getD_some, Option.any_some,
          decide_eq_false_iff_not, not_not] at agrees
        rw [agrees]
        rfl
    · rfl

theorem lookup_mergeLabels_given {extra merged : StringMap}
    (out : mergeLabels labels extra = .ok merged) {key value : String}
    (free : reservedTag key = false) (found : extra.lookup key = some value) :
    merged.lookup key = some value := by
  unfold mergeLabels at out
  split at out
  · cases out
  · cases out
    rw [lookup_union, lookup_filterKeys, free, found]
    rfl

variable {flavor : String} {pools : IKSDynamicPoolConfig}

theorem resolvedLabels_lookup {platform : Platform} {claim : NodeClaim} {nodeClass : IBMNodeClass}
    {instanceType : InstanceType}
    (out : resolvedLabels platform claim nodeClass pools flavor instanceType = .ok labels) :
    labels.lookup instanceTypeLabel = some flavor ∧
      labels.lookup zoneLabel = some nodeClass.spec.zone ∧
      labels.lookup regionLabel = some nodeClass.spec.region ∧
      labels.lookup capacityTypeLabel = some capacityTypeOnDemand ∧
      Labelled platform claim pools instanceType labels := by
  unfold resolvedLabels at out
  dsimp only at out
  split at out
  · cases out
  next first =>
    have kept : ∀ {key value : String}, _ → labels.lookup key = some value := fun found =>
      lookup_mergeLabels out (lookup_mergeLabels first found)
    refine ⟨kept ?_, kept ?_, kept ?_, kept ?_, ⟨?_, ?_⟩⟩
    · rw [Finmap.lookup_insert_of_ne _ (by decide), Finmap.lookup_insert_of_ne _ (by decide),
        Finmap.lookup_insert_of_ne _ (by decide), Finmap.lookup_insert]
    · rw [Finmap.lookup_insert_of_ne _ (by decide), Finmap.lookup_insert_of_ne _ (by decide),
        Finmap.lookup_insert]
    · rw [Finmap.lookup_insert_of_ne _ (by decide), Finmap.lookup_insert]
    · rw [Finmap.lookup_insert]
    · intro requirement mem operator single elsewhere
      simp only [mem_cons, not_mem_nil, or_false, not_or] at elsewhere
      obtain ⟨notType, notZone, notRegion, notCapacity⟩ := elsewhere
      refine kept ?_
      rw [Finmap.lookup_insert_of_ne _ notCapacity, Finmap.lookup_insert_of_ne _ notRegion,
        Finmap.lookup_insert_of_ne _ notZone, Finmap.lookup_insert_of_ne _ notType]
      exact lookup_foldl_insert instanceType.keysDistinct mem ⟨operator, single⟩ ∅
    · intro given among key value free found
      simp only [mem_cons, not_mem_nil, or_false] at among
      rcases among with rfl | rfl
      · exact lookup_mergeLabels out (lookup_mergeLabels_given first free found)
      · exact lookup_mergeLabels_given out free found

theorem allocationFor_owned (platform : Platform) (claim : NodeClaim) (nodeClass : IBMNodeClass)
    (pools : IKSDynamicPoolConfig) (cid cluster flavor hash : String) (labels : StringMap)
    (instanceType : InstanceType) :
    Owned cluster claim nodeClass (allocationFor platform claim nodeClass pools cid cluster
      flavor hash labels instanceType) where
  cluster := rfl
  claim := rfl
  nodeClass := rfl
  labels := by
    intro key reserved other
    have free : ((filterKeys (fun key => !reservedTag key && !platform.scheduling.wellKnown key)
        pools.labels).insert nodePoolLabel (StringMap.read claim.labels nodePoolLabel)).lookup
          key = (∅ : StringMap).lookup key := by
      rw [Finmap.lookup_insert_of_ne _ other, lookup_filterKeys, reserved, Finmap.lookup_empty]
      rfl
    have managed := lookup_insert_congr free managedLabel "true"
    have provided := lookup_insert_congr managed providerLabel "iks"
    have ofCluster := lookup_insert_congr provided clusterUIDLabel cluster
    have ofClaim := lookup_insert_congr ofCluster claimUIDLabel claim.uid
    exact lookup_insert_congr ofClaim nodeClassUIDLabel nodeClass.uid

/-! ## The checks of the flavor -/

theorem runs_getInstanceType {nodeClass : IBMNodeClass} {trace : List calls.Exchange}
    {instanceType : InstanceType}
    (run : Runs (getInstanceType flavor nodeClass) trace (.ok instanceType)) :
    trace = [⟨.getInstanceType flavor nodeClass, .ok instanceType⟩] := by
  obtain ⟨answer, rfl, decoded⟩ := runs_call_ofExcept_ok (runs_mapError_ok run)
  cases answer with
  | error error => cases decoded
  | ok found =>
    cases decoded
    rfl

variable {requirements : InstanceTypeRequirements}

section
variable {platform : Platform} {sorter : Sorter lowerScore} {setting : Setting}
  {trace : List calls.Exchange}
  {nodeClass : IBMNodeClass} {instanceType : InstanceType}

theorem getInstanceType_get (run : Runs (getInstanceType flavor nodeClass) trace (.ok instanceType))
    (answers : ∀ exchange ∈ trace, setting.Answers platform sorter exchange) :
    setting.catalog.get flavor = .ok instanceType := by
  obtain rfl := runs_getInstanceType run
  exact answers _ (mem_singleton_self _) instanceType rfl

theorem meetsRequirements_meets
    (run : Runs (meetsRequirements nodeClass instanceType.name) trace (.ok ()))
    (answers : ∀ exchange ∈ trace, setting.Answers platform sorter exchange)
    (listed : instanceType ∈ setting.catalog.types)
    (required : nodeClass.spec.instanceRequirements = some requirements) :
    Meets platform requirements instanceType := by
  unfold meetsRequirements at run
  rw [required] at run
  obtain ⟨filtered, first, later, rfl, asked, checked⟩ := runs_bind_ok run
  obtain ⟨answer, rfl, decoded⟩ := runs_call_ofExcept_ok asked
  cases answer with
  | error error => cases decoded
  | ok found =>
    cases decoded
    split_ifs at checked with among
    · have outcome := answers _ (mem_append_left _ (mem_singleton_self _)) filtered rfl
      rw [required] at outcome
      obtain ⟨kept, mem, named⟩ := any_eq_true.mp among
      obtain ⟨entry, there, same, meets⟩ := Catalog.filterInstanceTypes_meets outcome mem
      rw [decide_eq_true_eq] at named
      rw [Catalog.eq_of_name listed there (named.symm.trans same)]
      exact meets
    · cases checked.2

theorem maximumPrice_ok {limit : Option Rat} (out : maximumPrice platform nodeClass = .ok limit)
    (required : nodeClass.spec.instanceRequirements = some requirements)
    (capped : requirements.maximumHourlyPrice ≠ "") :
    ∃ maximum, platform.parsePrice requirements.maximumHourlyPrice = some maximum ∧
      limit = some maximum := by
  unfold maximumPrice at out
  rw [required] at out
  dsimp only at out
  rw [if_neg capped] at out
  split at out
  · cases out
  next maximum parsed =>
    split_ifs at out
    cases out
    exact ⟨maximum, parsed, rfl⟩

theorem withinPrice_some {maximum : Rat} {offer : Offering}
    (within : withinPrice (some maximum) offer = true) :
    ∃ price, offer.price = some price ∧ 0 < price ∧ price ≤ maximum := by
  unfold withinPrice knownPrice at within
  dsimp only at within
  cases priced : offer.price with
  | none =>
    rw [priced] at within
    cases within
  | some price =>
    rw [priced] at within
    by_cases positive : 0 < price
    · simp [positive] at within
      exact ⟨price, rfl, positive, within⟩
    · simp [Option.filter, positive] at within

variable {claim : NodeClaim}

theorem checkOfferings_ok {limit : Option Rat}
    (limited : maximumPrice platform nodeClass = .ok limit)
    (out : checkOfferings platform claim nodeClass limit instanceType = .ok ()) :
    (∃ offer ∈ instanceType.offerings, Offered platform nodeClass offer) ∧
      platform.scheduling.fits claim.requests instanceType.allocatable = true := by
  unfold checkOfferings at out
  dsimp only at out
  split_ifs at out with _ lacking
  rw [not_or, Bool.not_eq_false, Bool.not_eq_false] at lacking
  obtain ⟨available, fits⟩ := lacking
  refine ⟨?_, fits⟩
  obtain ⟨offer, mem, within⟩ := any_eq_true.mp available
  obtain ⟨offered, matching⟩ := mem_filter.mp mem
  rw [offeringMatches, Bool.and_eq_true] at matching
  refine ⟨offer, offered, matching.1, matching.2, ?_⟩
  intro requirements required capped
  obtain ⟨maximum, parsed, rfl⟩ := maximumPrice_ok limited required capped
  obtain ⟨price, priced, bounds⟩ := withinPrice_some within
  exact ⟨maximum, price, parsed, priced, bounds⟩

structure Validated (platform : Platform) (claim : NodeClaim) (nodeClass : IBMNodeClass)
    (pools : IKSDynamicPoolConfig) (labels : StringMap) (instanceType : InstanceType) : Prop where
  resolved : resolvedLabels platform claim nodeClass pools instanceType.name instanceType =
    .ok labels
  compatible : platform.scheduling.labelsCompatible labels claim.requirements = .ok ()
  requirements : ∀ requirements, nodeClass.spec.instanceRequirements = some requirements →
    Meets platform requirements instanceType
  offered : ∃ offering ∈ instanceType.offerings, Offered platform nodeClass offering
  fits : platform.scheduling.fits claim.requests instanceType.allocatable = true

theorem validateInstanceType_ok
    (run : Runs (validateInstanceType platform claim nodeClass pools flavor) trace (.ok labels))
    (answers : ∀ exchange ∈ trace, setting.Answers platform sorter exchange) :
    ∃ instanceType, setting.catalog.get flavor = .ok instanceType ∧
      Validated platform claim nodeClass pools labels instanceType := by
  obtain ⟨instanceType, _, _, rfl, got, checking⟩ := runs_bind_ok run
  obtain ⟨getting, answers⟩ := forall_mem_append.mp answers
  have found := getInstanceType_get got getting
  obtain ⟨listed, rfl⟩ := Catalog.get_ok found
  obtain ⟨_, _, _, rfl, required, resolving⟩ := runs_bind_ok (runs_unless checking).2
  obtain ⟨filtering, _⟩ := forall_mem_append.mp answers
  obtain ⟨resolved, _, _, rfl, merged, comparing⟩ := runs_bind_ok resolving
  obtain ⟨_, _, _, rfl, compatible, limiting⟩ := runs_bind_ok comparing
  obtain ⟨limit, _, _, rfl, limited, offer⟩ := runs_bind_ok limiting
  obtain ⟨_, _, _, rfl, checked, _, ⟨⟩⟩ := runs_bind_ok offer
  obtain ⟨_, resolves⟩ := (runs_ofExcept_ok _ _ _).mp merged
  obtain ⟨_, limits⟩ := (runs_ofExcept_ok _ _ _).mp limited
  obtain ⟨_, passes⟩ := (runs_ofExcept_ok _ _ _).mp checked
  obtain ⟨_, compares⟩ := (runs_ofExcept_ok _ _ _).mp (runs_mapError_ok compatible)
  obtain ⟨offered, fits⟩ := checkOfferings_ok limits passes
  refine ⟨instanceType, found, resolves, ?_, ?_, offered, fits⟩
  · cases out : platform.scheduling.labelsCompatible labels claim.requirements with
    | ok _ => rfl
    | error error =>
      rw [out] at compares
      cases compares
  · intro requirements present
    exact meetsRequirements_meets required filtering listed present

theorem chooseFlavor_ok {cluster : String}
    (run : Runs (chooseFlavor claim nodeClass cluster) trace (.ok flavor))
    (answers : ∀ exchange ∈ trace, setting.Answers platform sorter exchange) :
    (nodeClass.spec.instanceProfile ≠ "" → flavor = nodeClass.spec.instanceProfile) ∧
      (nodeClass.spec.iksWorkerPoolID ≠ "" → flavor = setting.template.flavor) := by
  unfold chooseFlavor at run
  dsimp only at run
  by_cases alone : nodeClass.spec.iksWorkerPoolID = ""
  · rw [if_pos alone] at run
    obtain ⟨_, ⟨⟩⟩ := run
    exact ⟨fun explicit => if_neg explicit, fun shared => absurd alone shared⟩
  rw [if_neg alone] at run
  obtain ⟨template, _, _, rfl, asked, checked⟩ := runs_bind_ok run
  obtain ⟨answer, rfl, decoded⟩ := runs_call_ofExcept_ok (runs_mapError_ok asked)
  obtain ⟨agrees, _, ⟨⟩⟩ := runs_unless checked
  refine ⟨?_, ?_⟩
  · intro explicit
    rw [if_neg explicit] at agrees
    by_contra differs
    exact agrees ⟨explicit, differs⟩
  intro _
  cases answer with
  | error error => cases decoded
  | ok found =>
    cases decoded
    rw [answers _ (mem_append_left _ (mem_singleton_self _)) template rfl]

theorem clusterUID_answered {cluster : String} (run : Runs clusterUID trace (.ok cluster))
    (answers : ∀ exchange ∈ trace, setting.Answers platform sorter exchange) :
    cluster = setting.clusterUID := by
  obtain ⟨uid, _, _, rfl, asked, checked⟩ := runs_bind_ok run
  obtain ⟨answer, rfl, decoded⟩ := runs_call_ofExcept_ok (runs_mapError_ok asked)
  obtain ⟨_, _, ⟨⟩⟩ := runs_unless checked
  cases answer with
  | error error => cases decoded
  | ok found =>
    cases decoded
    exact answers _ (mem_append_left _ (mem_singleton_self _)) cluster rfl

/-- The allocation that is built honours the claim. -/
structure Honours (platform : Platform) (setting : Setting) (claim : NodeClaim)
    (allocation : Allocation) : Prop where
  compatible : platform.scheduling.labelsCompatible allocation.labels claim.requirements = .ok ()
  placed : Placed setting.nodeClass allocation
  flavor : ∃ pools instanceType, setting.nodeClass.spec.iksDynamicPools = some pools ∧
    instanceType ∈ setting.catalog.types ∧ allocation.request.flavor = instanceType.name ∧
    Allowed platform setting.nodeClass pools instanceType ∧
    (∃ offering ∈ instanceType.offerings, Offered platform setting.nodeClass offering) ∧
    platform.scheduling.fits claim.requests instanceType.allocatable = true ∧
    allocation.allocatable = instanceType.allocatable ∧
    Labelled platform claim pools instanceType allocation.labels
  template : setting.nodeClass.spec.iksWorkerPoolID ≠ "" →
    allocation.request.flavor = setting.template.flavor
  owned : Owned setting.clusterUID claim setting.nodeClass allocation

theorem buildAllocation_honours {cid : String} {allocation : Allocation}
    (dynamic : setting.nodeClass.spec.iksDynamicPools = some pools)
    (run : Runs (buildAllocation platform claim setting.nodeClass pools cid) trace
      (.ok allocation)) (answers : ∀ exchange ∈ trace, setting.Answers platform sorter exchange) :
    Honours platform setting claim allocation := by
  obtain ⟨cluster, _, _, rfl, identified, checked⟩ := runs_bind_ok run
  obtain ⟨identity, answers⟩ := forall_mem_append.mp answers
  obtain ⟨flavor, _, _, rfl, chosen, admitted⟩ :=
    runs_bind_ok (runs_unless (runs_unless checked).2).2
  obtain ⟨choosing, answers⟩ := forall_mem_append.mp answers
  obtain ⟨ofProfile, ofTemplate⟩ := chooseFlavor_ok chosen choosing
  obtain ⟨allowed, validating⟩ := runs_unless (runs_unless admitted).2
  obtain ⟨labels, _, _, rfl, valid, reading⟩ := runs_bind_ok validating
  obtain ⟨checking, answers⟩ := forall_mem_append.mp answers
  obtain ⟨again, _, _, rfl, reread, hashing⟩ := runs_bind_ok reading
  obtain ⟨rereading, _⟩ := forall_mem_append.mp answers
  obtain ⟨hash, _, _, rfl, _, _, ⟨⟩⟩ := runs_bind_ok hashing
  obtain ⟨instanceType, found, validated⟩ := validateInstanceType_ok valid checking
  obtain rfl : again = instanceType := by
    have outcome := getInstanceType_get reread rereading
    cases found.symm.trans outcome
    rfl
  obtain ⟨listed, rfl⟩ := Catalog.get_ok found
  obtain ⟨isFlavor, isZone, isRegion, isCapacity, labelled⟩ :=
    resolvedLabels_lookup validated.resolved
  have listedType : pools.allowedInstanceTypes ≠ [] → again.name ∈ pools.allowedInstanceTypes := by
    intro limited
    rw [Bool.not_eq_false, isInstanceTypeAllowed, Bool.or_eq_true, decide_eq_true_eq,
      decide_eq_true_eq] at allowed
    exact allowed.resolve_left limited
  refine ⟨validated.compatible, ⟨isFlavor, isZone, isRegion, isCapacity, rfl⟩,
    ⟨pools, again, dynamic, listed, rfl, ⟨ofProfile, listedType,
      validated.requirements⟩, validated.offered, validated.fits, rfl, labelled⟩, ofTemplate, ?_⟩
  rw [← clusterUID_answered identified identity]
  exact allocationFor_owned ..

end

/-- Whenever `newAllocation` succeeds, for every claim, NodeClass, template pool and catalog,
the allocation honours the claim. -/
theorem newAllocation_honours (platform : Platform) (sorter : Sorter lowerScore)
    (setting : Setting) (claim : NodeClaim) (className : String)
    {trace : List calls.Exchange} {allocation : Allocation}
    (run : Runs (newAllocation platform claim className) trace (.ok allocation))
    (answers : ∀ exchange ∈ trace, setting.Answers platform sorter exchange) :
    isReady setting.nodeClass = true ∧ Honours platform setting claim allocation := by
  obtain ⟨nodeClass, _, _, rfl, asked, checked⟩ := runs_bind_ok run
  obtain ⟨reading, later⟩ := forall_mem_append.mp answers
  obtain ⟨answer, rfl, decoded⟩ := runs_call_ofExcept_ok (runs_mapError_ok asked)
  obtain rfl : nodeClass = setting.nodeClass := by
    cases answer with
    | error error => cases decoded
    | ok found =>
      cases decoded
      exact reading _ (mem_singleton_self _) nodeClass rfl
  obtain ⟨_, _, _, rfl, _, configuring⟩ := runs_bind_ok (runs_unless checked).2
  obtain ⟨_, last⟩ := forall_mem_append.mp later
  split at configuring
  · cases configuring.2
  next pools configured =>
    obtain ⟨ready, building⟩ := runs_unless (runs_unless (runs_unless configuring).2).2
    rw [Bool.not_eq_false] at ready
    exact ⟨ready, buildAllocation_honours configured building last⟩

/-! ## A claim with requirements, requests and labels of its own -/

/-- The user writes an owner into the labels of the claim, and another one below. -/
def labelledClaim : NodeClaim :=
  { sampleClaim with
    labels := ((Finmap.singleton "team" "blue").insert archLabel "amd64").insert claimUIDLabel
      "forged"
    requirements := [⟨zoneLabel, .In, ["z", "y"]⟩, ⟨archLabel, .In, ["amd64"]⟩]
    requests := resourcesOf 4 16 }

def labelledPools : IKSDynamicPoolConfig where
  enabled := true
  namePrefix := ""
  labels := ((Finmap.singleton "team" "blue").insert "tier" "web").insert claimUIDLabel "other"
  diskEncryption := none
  allowedInstanceTypes := ["small", "large"]

def labelledClass : IBMNodeClass :=
  { sampleClass with
    spec := { sampleClass.spec with
      instanceProfile := "", instanceRequirements := some pricedRequirements
      iksWorkerPoolID := "p", iksDynamicPools := some labelledPools } }

def labelledSetting : Setting where
  nodeClass := labelledClass
  clusterUID := "x"
  template := { samplePool with flavor := "large" }
  catalog := ⟨[pricedType "small" 2 4 [1], pricedType "large" 8 32 [2, 9]], by decide⟩

theorem newAllocation_honours_sample : ∃ trace allocation,
    Runs (newAllocation pricedPlatform labelledClaim "n") trace (.ok allocation) ∧
      isReady labelledClass = true ∧
      Honours pricedPlatform labelledSetting labelledClaim allocation := by
  have run : Runs (newAllocation pricedPlatform labelledClaim "n")
      [⟨.getNodeClass "n", .ok labelledClass⟩, ⟨.iksClient, .ok ⟨"", ""⟩⟩,
        ⟨.getNamespaceUID, .ok "x"⟩, ⟨.getWorkerPool "y" "p", .ok labelledSetting.template⟩,
        ⟨.getInstanceType "large" labelledClass, .ok (pricedType "large" 8 32 [2, 9])⟩,
        ⟨.filterInstanceTypes labelledClass, .ok [pricedType "large" 8 32 [2]]⟩,
        ⟨.getInstanceType "large" labelledClass, .ok (pricedType "large" 8 32 [2, 9])⟩] (.ok _) :=
    ⟨_, _, rfl, _, _, rfl, _, _, rfl, _, _, rfl, _, _, rfl, _, _, rfl, _, _, rfl, rfl, rfl⟩
  refine ⟨_, _, run, newAllocation_honours pricedPlatform scoreSorter labelledSetting labelledClaim
    "n" run ?_⟩
  intro exchange member
  simp only [mem_cons, not_mem_nil, or_false] at member
  rcases member with rfl | rfl | rfl | rfl | rfl | rfl | rfl
  · rintro _ ⟨⟩
    rfl
  · trivial
  · rintro _ ⟨⟩
    rfl
  · rintro _ ⟨⟩
    rfl
  · rintro _ ⟨⟩
    rfl
  · rintro _ ⟨⟩
    change Except.ok ((rankInstanceTypes scoreSorter
      [⟨pricedType "large" 8 32 [2], "amd64", 2⟩]).map ExtendedInstanceType.instanceType) = _
    simp only [rankInstanceTypes, scoreSorter, map_cons, map_nil,
      mergeSort_singleton]
  · rintro _ ⟨⟩
    rfl

end KarpenterIBM.IKSAllocation
