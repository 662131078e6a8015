import KarpenterIBM.Lib.SortSlice
import KarpenterIBM.Ownership
import Mathlib.Algebra.Order.Field.Rat

/-!
# The catalog of instance types

`pkg/providers/common/instancetype`: reading one type by name, listing the types of a NodeClass,
and the filter for its instance requirements.
-/

namespace KarpenterIBM.InstanceTypes

open Calls List Objects Ownership SortSlice

def archLabel : String := "kubernetes.io/arch"
def resourceCPU : String := "cpu"
def resourceMemory : String := "memory"

/-- `Quantity.ScaledValue`: a quantity in units of this many thousandths, rounded up. -/
def scaledValue (resources : ResourceList) (name : String) (unit : Int) : Int :=
  ((resources.lookup name).getD 0 + (unit - 1)) / unit

/-- `Quantity.Value`. -/
def wholeValue (resources : ResourceList) (name : String) : Int :=
  scaledValue resources name 1000

/-! ## Ranking -/

structure ExtendedInstanceType where
  instanceType : InstanceType
  architecture : String
  price : Rat

def calculateInstanceTypeScore (extended : ExtendedInstanceType) : WithTop Rat :=
  let cpuCount := wholeValue extended.instanceType.capacity resourceCPU
  let memoryGB := scaledValue extended.instanceType.capacity resourceMemory 1000000000000
  if extended.price ≤ 0 then ((cpuCount + memoryGB : Int) : Rat)
  else if cpuCount = 0 ∨ memoryGB = 0 then ⊤
  else (((extended.price / cpuCount + extended.price / memoryGB) / 2 : Rat) : WithTop Rat)

structure InstanceTypeRanking where
  instanceType : ExtendedInstanceType
  score : WithTop Rat

def lowerScore (first second : InstanceTypeRanking) : Bool :=
  decide (first.score < second.score)

def scoreSorter : Sorter lowerScore where
  slice items := items.mergeSort fun first second => decide (first.score ≤ second.score)
  perm items := mergeSort_perm items _
  ordered items _ := by
    have sorted : (items.mergeSort fun first second =>
        decide (first.score ≤ second.score)).Pairwise fun first second =>
          decide (first.score ≤ second.score) = true := by
      apply pairwise_mergeSort
      · intro first second third one two
        rw [decide_eq_true_eq] at *
        exact one.trans two
      · intro first second
        simpa using le_total first.score second.score
    refine sorted.imp ?_
    intro earlier later ordered
    rw [decide_eq_true_eq] at ordered
    exact decide_eq_false (not_lt.mpr ordered)

def rankInstanceTypes (sorter : Sorter lowerScore) (types : List ExtendedInstanceType) :
    List ExtendedInstanceType :=
  (sorter.slice (types.map fun extended => ⟨extended, calculateInstanceTypeScore extended⟩)).map
    InstanceTypeRanking.instanceType

theorem mem_rankInstanceTypes (sorter : Sorter lowerScore) (types : List ExtendedInstanceType)
    (extended : ExtendedInstanceType) :
    extended ∈ rankInstanceTypes sorter types ↔ extended ∈ types := by
  unfold rankInstanceTypes
  rw [((sorter.perm _).map _).mem_iff, map_map]
  simp

/-! ## Filtering -/

variable {limit : Option Rat}

variable {kept : InstanceType}

section
variable (platform : Platform)

def getArchitecture (instanceType : InstanceType) : String :=
  match instanceType.requirements.find? fun requirement => requirement.key = archLabel with
  | some requirement => (platform.scheduling.values requirement).headD "amd64"
  | none => "amd64"

variable (requirements : InstanceTypeRequirements)

/-- The architecture, CPU and memory checks of `filterCatalog`. -/
def largeEnough (instanceType : InstanceType) : Bool :=
  (decide (requirements.architecture = "") ||
    decide (getArchitecture platform instanceType = requirements.architecture)) &&
  (decide (requirements.minimumCPU ≤ 0) ||
    decide (requirements.minimumCPU ≤ wholeValue instanceType.capacity resourceCPU)) &&
  (decide (requirements.minimumMemory ≤ 0) ||
    decide (requirements.minimumMemory * (1024 * 1024 * 1024) ≤
      wholeValue instanceType.capacity resourceMemory))

def cheapEnough (maximum : Rat) (offering : Offering) : Bool :=
  offering.price.any fun price => decide (0 ≤ price) && decide (price ≤ maximum)

theorem cheapEnough_iff {maximum : Rat} {offer : Offering} : cheapEnough maximum offer = true ↔
      ∃ price, offer.price = some price ∧ 0 ≤ price ∧ price ≤ maximum := by
  unfold cheapEnough
  cases offer.price with
  | none | some price => simp

def withinLimit (limit : Option Rat) (instanceType : InstanceType) : Option InstanceType :=
  match limit with
  | none => some instanceType
  | some maximum =>
    let offerings := instanceType.offerings.filter (cheapEnough maximum)
    if offerings = [] then none else some { instanceType with offerings := offerings }

def lowestPrice (instanceType : InstanceType) : Rat :=
  (instanceType.offerings.filterMap Offering.price).min?.getD 0

/-- One round of the loop of `filterCatalog`. -/
def considerType (limit : Option Rat) (instanceType : InstanceType) : Option ExtendedInstanceType :=
  if largeEnough platform requirements instanceType then
    (withinLimit limit instanceType).map fun kept =>
      ⟨kept, getArchitecture platform kept, lowestPrice kept⟩
  else none

def priceLimit : Except ApiError (Option Rat) :=
  if requirements.maximumHourlyPrice = "" then .ok none
  else
    match platform.parsePrice requirements.maximumHourlyPrice with
    | none => .error ⟨.plain "invalid MaximumHourlyPrice value", rfl⟩
    | some maximum =>
      if maximum < 0 then
        .error ⟨.plain "MaximumHourlyPrice must be a finite nonnegative number", rfl⟩
      else .ok (some maximum)

def filterCatalog (sorter : Sorter lowerScore) (types : List InstanceType)
    (requirements : InstanceTypeRequirements) : Except ApiError (List InstanceType) :=
  match priceLimit platform requirements with
  | .error error => .error error
  | .ok limit =>
    .ok ((rankInstanceTypes sorter
      (types.filterMap (considerType platform requirements limit))).map
        ExtendedInstanceType.instanceType)

/-! ## The catalog -/

structure Catalog where
  types : List InstanceType
  distinct : (types.map InstanceType.name).Nodup

/-- `Get`. -/
def Catalog.get (catalog : Catalog) (name : String) : Except ApiError InstanceType :=
  match catalog.types.find? fun instanceType => instanceType.name = name with
  | some instanceType => .ok instanceType
  | none => .error ⟨.plain ("instance profile " ++ name ++ " not found in VPC API"), rfl⟩

/-- `List`: the one type of an explicit profile, or what meets the requirements. -/
def Catalog.list (catalog : Catalog) (sorter : Sorter lowerScore) (nodeClass : IBMNodeClass) :
    Except ApiError (List InstanceType) :=
  if catalog.types = [] then .error ⟨.plain "no instance types found from VPC API", rfl⟩
  else if nodeClass.spec.instanceProfile ≠ "" then
    .ok (catalog.types.find? fun instanceType =>
      instanceType.name = nodeClass.spec.instanceProfile).toList
  else
    match nodeClass.spec.instanceRequirements with
    | some requirements => filterCatalog platform sorter catalog.types requirements
    | none => .ok catalog.types

/-- `FilterInstanceTypes`: the types of the NodeClass with these requirements and without a
profile. -/
def Catalog.filterInstanceTypes (catalog : Catalog) (sorter : Sorter lowerScore)
    (requirements : Option InstanceTypeRequirements) (nodeClass : IBMNodeClass) :
    Except ApiError (List InstanceType) :=
  catalog.list platform sorter
    { nodeClass with
      spec := { nodeClass.spec with
        instanceProfile := "", instanceRequirements := requirements } }

/-! ## What the filter keeps -/

structure Meets (requirements : InstanceTypeRequirements) (instanceType : InstanceType) :
    Prop where
  architecture : requirements.architecture ≠ "" →
    getArchitecture platform instanceType = requirements.architecture
  cpu : 0 < requirements.minimumCPU →
    requirements.minimumCPU ≤ wholeValue instanceType.capacity resourceCPU
  memory : 0 < requirements.minimumMemory →
    requirements.minimumMemory * (1024 * 1024 * 1024) ≤
      wholeValue instanceType.capacity resourceMemory
  price : requirements.maximumHourlyPrice ≠ "" →
    ∃ maximum, platform.parsePrice requirements.maximumHourlyPrice = some maximum ∧
      ∃ offering ∈ instanceType.offerings, ∃ price, offering.price = some price ∧
        0 ≤ price ∧ price ≤ maximum

structure MeetsMinimums (requirements : InstanceTypeRequirements) (instanceType : InstanceType) :
    Prop where
  architecture : requirements.architecture ≠ "" →
    getArchitecture platform instanceType = requirements.architecture
  cpu : 0 < requirements.minimumCPU →
    requirements.minimumCPU ≤ wholeValue instanceType.capacity resourceCPU
  memory : 0 < requirements.minimumMemory →
    requirements.minimumMemory * (1024 * 1024 * 1024) ≤
      wholeValue instanceType.capacity resourceMemory

variable {platform} {requirements : InstanceTypeRequirements} {instanceType : InstanceType}

theorem largeEnough_iff : largeEnough platform requirements instanceType = true ↔
      MeetsMinimums platform requirements instanceType := by
  simp only [largeEnough, Bool.and_eq_true, Bool.or_eq_true, decide_eq_true_eq]
  constructor
  · rintro ⟨⟨architecture, cpu⟩, memory⟩
    exact ⟨fun wanted => architecture.resolve_left wanted,
      fun wanted => cpu.resolve_left (not_le.mpr wanted),
      fun wanted => memory.resolve_left (not_le.mpr wanted)⟩
  rintro ⟨architecture, cpu, memory⟩
  exact ⟨⟨or_iff_not_imp_left.mpr architecture,
    or_iff_not_imp_left.mpr fun wanted => cpu (not_le.mp wanted)⟩,
    or_iff_not_imp_left.mpr fun wanted => memory (not_le.mp wanted)⟩

theorem priceLimit_ok (out : priceLimit platform requirements = .ok limit) :
    (requirements.maximumHourlyPrice = "" ∧ limit = none) ∨
      ∃ maximum, platform.parsePrice requirements.maximumHourlyPrice = some maximum ∧
        limit = some maximum := by
  unfold priceLimit at out
  by_cases unlimited : requirements.maximumHourlyPrice = ""
  · rw [if_pos unlimited] at out
    cases out
    exact .inl ⟨unlimited, rfl⟩
  rw [if_neg unlimited] at out
  cases parsed : platform.parsePrice requirements.maximumHourlyPrice with
  | none =>
    rw [parsed] at out
    cases out
  | some maximum =>
    rw [parsed] at out
    dsimp only at out
    split_ifs at out
    cases out
    exact .inr ⟨maximum, rfl, rfl⟩

theorem withinLimit_some (within : withinLimit limit instanceType = some kept) :
    kept.name = instanceType.name ∧ ∀ maximum, limit = some maximum →
      ∃ offer ∈ instanceType.offerings, cheapEnough maximum offer = true := by
  cases limit with
  | none =>
    cases within
    exact ⟨rfl, fun _ no => nomatch no⟩
  | some maximum =>
    unfold withinLimit at within
    dsimp only at within
    split_ifs at within with none
    cases within
    refine ⟨rfl, ?_⟩
    rintro _ ⟨⟩
    obtain ⟨offer, mem⟩ := exists_mem_of_ne_nil _ none
    obtain ⟨offered, cheap⟩ := mem_filter.mp mem
    exact ⟨offer, offered, cheap⟩

theorem considerType_some {kept : ExtendedInstanceType}
    (limited : priceLimit platform requirements = .ok limit)
    (considered : considerType platform requirements limit instanceType = some kept) :
    kept.instanceType.name = instanceType.name ∧ Meets platform requirements instanceType := by
  unfold considerType at considered
  split_ifs at considered with large
  obtain ⟨within, found, rfl⟩ := Option.map_eq_some_iff.mp considered
  obtain ⟨named, cheap⟩ := withinLimit_some found
  obtain ⟨architecture, cpu, memory⟩ := largeEnough_iff.mp large
  refine ⟨named, architecture, cpu, memory, fun wanted => ?_⟩
  rcases priceLimit_ok limited with ⟨unlimited, _⟩ | ⟨maximum, parsed, rfl⟩
  · exact absurd unlimited wanted
  · obtain ⟨offer, offered, enough⟩ := cheap maximum rfl
    exact ⟨maximum, parsed, offer, offered, cheapEnough_iff.mp enough⟩

theorem filterCatalog_meets {sorter : Sorter lowerScore} {types filtered : List InstanceType}
    (out : filterCatalog platform sorter types requirements = .ok filtered)
    (mem : kept ∈ filtered) :
    ∃ instanceType ∈ types, kept.name = instanceType.name ∧
      Meets platform requirements instanceType := by
  unfold filterCatalog at out
  cases limited : priceLimit platform requirements with
  | error error =>
    rw [limited] at out
    cases out
  | ok limit =>
    rw [limited] at out
    cases out
    obtain ⟨extended, ranked, rfl⟩ := mem_map.mp mem
    rw [mem_rankInstanceTypes] at ranked
    obtain ⟨instanceType, listed, considered⟩ := mem_filterMap.mp ranked
    obtain ⟨named, meets⟩ := considerType_some limited considered
    exact ⟨instanceType, listed, named, meets⟩

end

variable {catalog : Catalog}

theorem Catalog.get_ok {name : String} {instanceType : InstanceType}
    (out : catalog.get name = .ok instanceType) :
    instanceType ∈ catalog.types ∧ instanceType.name = name := by
  unfold Catalog.get at out
  split at out
  · next found =>
      cases out
      have named := List.find?_some found
      rw [decide_eq_true_eq] at named
      exact ⟨mem_of_find?_eq_some found, named⟩
  · cases out

theorem Catalog.eq_of_name {first second : InstanceType} (one : first ∈ catalog.types)
    (two : second ∈ catalog.types) (same : first.name = second.name) : first = second :=
  inj_on_of_nodup_map catalog.distinct one two same

theorem Catalog.filterInstanceTypes_meets {platform : Platform} {sorter : Sorter lowerScore}
    {requirements : InstanceTypeRequirements} {nodeClass : IBMNodeClass}
    {filtered : List InstanceType}
    (out : catalog.filterInstanceTypes platform sorter (some requirements) nodeClass = .ok filtered)
    (mem : kept ∈ filtered) :
    ∃ instanceType ∈ catalog.types, kept.name = instanceType.name ∧
      Meets platform requirements instanceType := by
  unfold Catalog.filterInstanceTypes Catalog.list at out
  dsimp only at out
  by_cases empty : catalog.types = []
  · rw [if_pos empty] at out
    cases out
  · rw [if_neg empty, if_neg (not_not.mpr rfl)] at out
    exact filterCatalog_meets out mem

/-! ## Priced types -/

/-- Labels and resources are compared one by one, and prices are whole numbers. -/
def pricedPlatform : Platform where
  digest26 _ := "d"
  digest24 _ := "d"
  digest20 _ := "d"
  provisioningHash _ := .ok "h"
  configuredAccount := "0123456789abcdef0123456789abcdef"
  configuredCluster := ""
  clientRegion := ""
  allocationNamespace := "s"
  parsePrice price := if price = "3" then some 3 else none
  scheduling :=
    { len := fun requirement => requirement.values.length
      values := NodeSelectorRequirement.values
      operator := NodeSelectorRequirement.operator
      compatible := fun given wanted => wanted.all fun needed => given.all fun offered =>
        decide (offered.key ≠ needed.key) || decide (offered.values = needed.values)
      offeringCompatible := fun _ _ => true
      has := fun _ _ _ => false
      labelsCompatible := fun labels wanted =>
        if wanted.all fun needed => decide (StringMap.read labels needed.key ∈ needed.values)
        then .ok () else .error ⟨.plain "incompatible requirements", rfl⟩
      wellKnown := fun key => decide (key ∈ [archLabel, instanceTypeLabel, zoneLabel])
      fits := fun requests given => decide (∀ name ∈ requests.keys,
        (requests.lookup name).getD 0 ≤ (given.lookup name).getD 0) }

def resourcesOf (cpu memory : Int) : ResourceList :=
  (Finmap.singleton resourceCPU (cpu * 1000)).insert resourceMemory (memory * 1000000000000)

/-- A type with one offering in the zone for each price. -/
def pricedType (name : String) (cpu memory : Int) (prices : List Rat) : InstanceType where
  name := name
  requirements := [⟨archLabel, .In, ["amd64"]⟩, ⟨zoneLabel, .In, ["z", "y"]⟩]
  offerings := prices.map fun price =>
    ⟨[⟨zoneLabel, .In, ["z"]⟩, ⟨capacityTypeLabel, .In, [capacityTypeOnDemand]⟩], true, some price⟩
  capacity := resourcesOf cpu memory
  allocatable := resourcesOf cpu memory
  keysDistinct := by decide

/-- At least four CPUs and ten gibibytes for at most 3 an hour. -/
def pricedRequirements : InstanceTypeRequirements := ⟨"amd64", 4, 10, "3"⟩

end KarpenterIBM.InstanceTypes
