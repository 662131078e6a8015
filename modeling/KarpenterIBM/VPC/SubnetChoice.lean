import KarpenterIBM.NodeClass.ValidationSound
import KarpenterIBM.VPC.Create
import KarpenterIBM.VPC.SubnetSelection
import Mathlib.Data.List.GetD

/-!
# The subnet of a launch without an explicit one

`Create` takes the subnet by zone, from the status or from the placement strategy. The
validation that made the NodeClass ready and the launch see the same subnets.
-/

namespace KarpenterIBM.SubnetChoice

open Calls EffectProgram Errors FirstPerKey List
open NodeClassStatus (checkSubnet extractRegionFromZone usable validateNodeClass
  convertVPCSubnetToSubnetInfo validating checkSubnet_eq_ok_iff validateNetwork
  validateSubnetsAvailable)
open Objects SortSlice SubnetSelection VPCCreate

/-! ## Inventory -/

/-- The subnets of an account, each with its own ID, its zone and its VPC. -/
structure Inventory where
  subnets : List SubnetRecord
  vpcOf : String → String
  distinct : (subnets.map fun subnet => subnet.id).Nodup
  identified : ∀ subnet ∈ subnets, subnet.id ≠ ""
  located : ∀ subnet ∈ subnets, subnet.zone ≠ ""

variable (inventory : Inventory)

def Inventory.ofVPC (vpcID : String) : List SubnetRecord :=
  inventory.subnets.filter fun subnet => inventory.vpcOf subnet.id = vpcID

def Inventory.infos (vpcID : String) : List SubnetInfo :=
  (inventory.ofVPC vpcID).map SubnetRecord.toSubnetInfo

def surveys : Service validating Unit
  | _, .cachedSubnets vpcID, cached, _ =>
    ∀ infos, cached = some infos → infos = inventory.infos vpcID
  | _, .listSubnets vpcID, listed, _ =>
    ∀ subnets, listed = .ok subnets →
      subnets.map convertVPCSubnetToSubnetInfo = inventory.infos vpcID
  | _, _, _, _ => True

/-- A NodeClass with this spec has passed the validation. -/
def Ready (spec : IBMNodeClassSpec) : Prop :=
  ∃ (nodeClass : IBMNodeClass) (validation : NodeClassStatus.Validation),
    nodeClass.spec = spec ∧
    Ends (surveys inventory) () (validateNodeClass .complete nodeClass) (.ok validation) () ∧
    validation.verdict = .ok ()

/-- The launch sees the inventory and the subnets of the cluster's nodes. -/
def offers (clusterSubnets : ClusterSubnets) : Service calls Unit
  | _, .getSubnet id, answer, _ =>
    ∀ info, answer = .ok info →
      ∃ subnet ∈ inventory.subnets, subnet.id = id ∧ subnet.toSubnetInfo = info
  | _, .listSubnets vpcID, answer, _ =>
    ∀ infos, answer = .ok infos → infos = inventory.infos vpcID
  | _, .selectSubnets vpcID strategy, answer, _ =>
    ∀ infos, answer = .ok infos → ∃ (sorter : Sorter higherScore) (chosen : List SubnetRecord),
      selectAmong sorter vpcID strategy (inventory.ofVPC vpcID) clusterSubnets = .ok chosen ∧
        chosen.map SubnetRecord.toSubnetInfo = infos
  | _, _, _, _ => True

/-- The subnet passes the checks for an explicit one. -/
def Passes (region subnetID : String) : Prop :=
  ∃ subnet ∈ inventory.subnets, subnet.id = subnetID ∧
    checkSubnet subnetID region subnet.toSubnetInfo = .ok ()

variable {subnet : SubnetRecord}

theorem passes_iff {inventory : Inventory} {region : String} (mem : subnet ∈ inventory.subnets) :
    Passes inventory region subnet.id ↔
      checkSubnet subnet.id region subnet.toSubnetInfo = .ok () := by
  constructor
  · rintro ⟨other, inside, sameID, passed⟩
    obtain rfl := inj_on_of_nodup_map inventory.distinct inside mem sameID
    exact passed
  · exact fun passed => ⟨subnet, mem, rfl, passed⟩

theorem mem_of_mem_ofVPC {inventory : Inventory} {vpcID : String}
    (mem : subnet ∈ inventory.ofVPC vpcID) : subnet ∈ inventory.subnets :=
  mem_of_mem_filter mem

/-! ## What a ready NodeClass tells of the inventory -/

theorem listSubnets_surveyed (vpcID : String) :
    Ensures (surveys inventory) () (NodeClassStatus.listSubnets .complete vpcID)
      fun out _ => ∀ infos, out = .ok infos → infos = inventory.infos vpcID := by
  rw [NodeClassStatus.listSubnets, if_neg (by decide)]
  refine ensures_perform ?_
  rintro cached _ surveyed
  cases cached with
  | some infos =>
    refine ensures_pure ?_
    rintro _ ⟨⟩
    exact surveyed infos rfl
  | none =>
    refine Ensures.bind (fun _ _ _ => trivial : Ensures _ _ _ fun _ _ => True) ?_ nofun
    rintro _ _ _
    refine Ensures.bind (Ensures.mapError (ensures_call ?_) :
      Ensures _ _ _ fun out _ => ∀ subnets, out = .ok subnets →
        subnets.map convertVPCSubnetToSubnetInfo = inventory.infos vpcID) ?_ nofun
    · rintro answer _ listed
      exact ensures_ofExcept fun subnets same => listed subnets ((mapError_eq_ok_iff _).mp same)
    · intro subnets _ same
      refine ensures_perform ?_
      rintro _ _ _
      refine ensures_pure ?_
      rintro _ ⟨⟩
      exact same subnets rfl

theorem validateSubnetsAvailable_surveyed (vpcID zone : String) :
    Ensures (surveys inventory) () (validateSubnetsAvailable .complete vpcID zone)
      fun out _ => ∀ value, out = .ok value →
        ∃ info ∈ inventory.infos vpcID, usable zone info = true := by
  refine Ensures.bind (Ensures.mapError ((listSubnets_surveyed inventory vpcID).mono ?_) :
    Ensures _ _ _ fun out _ => ∀ infos, out = .ok infos → infos = inventory.infos vpcID) ?_ nofun
  · exact fun out _ same infos changed => same infos ((mapError_eq_ok_iff _).mp changed)
  intro infos _ same
  obtain rfl := same infos rfl
  split_ifs with unusable zoned
  · exact ensures_fail nofun
  · exact ensures_fail nofun
  · refine ensures_pure fun _ _ => ?_
    exact countP_pos_iff.mp (Nat.pos_of_ne_zero unusable)

theorem validateNetwork_surveyed {spec : IBMNodeClassSpec} (auto : spec.subnet = "") :
    Ensures (surveys inventory) () (validateNetwork .complete spec)
      fun out _ => ∀ value, out = .ok value →
        ∃ info ∈ inventory.infos spec.vpc, usable spec.zone info = true := by
  refine Ensures.bind (fun _ _ _ => trivial : Ensures _ _ _ fun _ _ => True) ?_ nofun
  intro _ _ _
  refine Ensures.bind (fun _ _ _ => trivial : Ensures _ _ _ fun _ _ => True) ?_ nofun
  intro _ _ _
  rw [if_neg (not_not.mpr auto)]
  refine Ensures.mapError ((validateSubnetsAvailable_surveyed inventory spec.vpc spec.zone).mono ?_)
  exact fun out _ seen value same => seen value ((mapError_eq_ok_iff _).mp same)

theorem Ready.exists_usable {inventory : Inventory} {spec : IBMNodeClassSpec}
    (ready : Ready inventory spec) (auto : spec.subnet = "") :
    ∃ info ∈ inventory.infos spec.vpc, usable spec.zone info = true := by
  obtain ⟨nodeClass, check, rfl, ends, accepted⟩ := ready
  unfold validateNodeClass at ends
  split at ends
  · obtain ⟨⟨⟩, _⟩ := ends
    cases accepted
  obtain ⟨resources, _, ran, later⟩ := (ends_bind_iff ..).mp ends
  rw [NodeClassStatus.validateIBMCloudResources, if_neg (by decide)] at ran
  obtain ⟨network, _, checked, resolved⟩ := ends_attempt_bind ran
  cases network with
  | ok value => exact (validateNetwork_surveyed inventory auto).of_ends checked value rfl
  | error error =>
    obtain ⟨rfl, _⟩ := resolved
    obtain ⟨⟨⟩, _⟩ := later
    cases accepted

/-! ## The roomiest subnet -/

theorem foldl_roomier (first : SubnetInfo) (rest : List SubnetInfo) :
    let best := rest.foldl (fun best subnet =>
      if best.availableIPs < subnet.availableIPs then subnet else best) first
    best ∈ first :: rest ∧ ∀ other ∈ first :: rest, other.availableIPs ≤ best.availableIPs := by
  induction rest generalizing first with
  | nil => simp
  | cons next rest ih =>
    rw [foldl_cons]
    by_cases more : first.availableIPs < next.availableIPs
    · rw [if_pos more]
      obtain ⟨mem, most⟩ := ih next
      refine ⟨mem_cons_of_mem _ mem, fun other inside => ?_⟩
      rcases mem_cons.mp inside with rfl | later
      · exact more.le.trans (most next mem_cons_self)
      · exact most other later
    · rw [if_neg more]
      obtain ⟨mem, most⟩ := ih first
      refine ⟨?_, fun other inside => ?_⟩
      · rcases mem_cons.mp mem with same | later
        · exact mem_cons.mpr (.inl same)
        · exact mem_cons_of_mem _ (mem_cons_of_mem _ later)
      simp only [mem_cons] at inside
      rcases inside with rfl | rfl | later
      · exact most other mem_cons_self
      · exact (not_lt.mp more).trans (most first mem_cons_self)
      · exact most other (mem_cons_of_mem _ later)

theorem roomiest_spec {subnets : List SubnetInfo} (ne : subnets ≠ []) : roomiest subnets ∈ subnets ∧
      ∀ other ∈ subnets, other.availableIPs ≤ (roomiest subnets).availableIPs := by
  obtain ⟨first, rest, rfl⟩ := exists_cons_of_ne_nil ne
  exact foldl_roomier first rest

def RoomiestOfZone (subnets : List SubnetInfo) (subnet : SubnetInfo) : Prop :=
  subnet ∈ subnets ∧
    ∀ other ∈ subnets, other.zone = subnet.zone → other.availableIPs ≤ subnet.availableIPs

theorem roomiestOfZone_of_filter {subnets : List SubnetInfo} {zone : String}
    (inhabited : zone ∈ subnets.map SubnetInfo.zone) :
    RoomiestOfZone subnets (roomiest (subnets.filter fun subnet => subnet.zone = zone)) ∧
      (roomiest (subnets.filter fun subnet => subnet.zone = zone)).zone = zone := by
  obtain ⟨subnet, mem, rfl⟩ := mem_map.mp inhabited
  have kept : subnet ∈ subnets.filter fun other => other.zone = subnet.zone :=
    mem_filter.mpr ⟨mem, by simp⟩
  obtain ⟨inside, most⟩ := roomiest_spec (ne_nil_of_mem kept)
  obtain ⟨inSubnets, ofZone⟩ := mem_filter.mp inside
  have sameZone := of_decide_eq_true ofZone
  refine ⟨⟨inSubnets, fun other inOthers otherZone => ?_⟩, sameZone⟩
  exact most other (mem_filter.mpr ⟨inOthers, by simp [otherZone, sameZone]⟩)

/-! ## Random choices -/

theorem mem_iff_exists_picked {items : List String} {item : String} (ne : items ≠ []) :
    item ∈ items ↔ ∃ index : Nat, items.getD (index % items.length) "" = item := by
  constructor
  · intro mem
    obtain ⟨index, inRange, rfl⟩ := getElem_of_mem mem
    refine ⟨index, ?_⟩
    rw [Nat.mod_eq_of_lt inRange, getD_eq_getElem items "" inRange]
  rintro ⟨index, rfl⟩
  have inRange : index % items.length < items.length := Nat.mod_lt _ (length_pos_of_ne_nil ne)
  rw [getD_eq_getElem items "" inRange]
  exact getElem_mem inRange

/-! ## What a strategy offers -/

def BestOfZone {β : Type} [LE β] (measure : SubnetRecord → β) (subnets : List SubnetRecord)
    (subnet : SubnetRecord) : Prop :=
  subnet ∈ subnets ∧
    ∀ other ∈ subnets, other.zone = subnet.zone → measure other ≤ measure subnet

/-- A launch can take this one of the eligible subnets: the best of a zone, the roomiest of
a zone, or the best of a zone that at most one other zone surpasses. -/
def MayBeTaken (zoneBalance : String) (score : SubnetRecord → ℚ) (subnets : List SubnetRecord)
    (subnet : SubnetRecord) : Prop :=
  if zoneBalance = "Balanced" then BestOfZone score subnets subnet
  else if zoneBalance = "AvailabilityFirst" then
    BestOfZone (fun other => other.availableIPs) subnets subnet
  else if zoneBalance = "CostOptimized" then
    BestOfZone score subnets subnet ∧ ∀ first ∈ subnets, ∀ second ∈ subnets,
      score subnet < score first → score subnet < score second → first.zone = second.zone
  else False

section
variable {sorter : Sorter higherScore} {clusterSubnets : ClusterSubnets}
  {subnets : List SubnetRecord} {zoneBalance : String} {subnet : SubnetRecord}

theorem costOptimized_surpassed {chosen : List SubnetRecord} {score : SubnetRecord → ℚ}
    (selected : CostOptimized score subnets chosen) (mem : subnet ∈ chosen) :
    ∀ first ∈ subnets, ∀ second ∈ subnets,
      score subnet < score first → score subnet < score second → first.zone = second.zone := by
  have inZones : ∀ other ∈ subnets, score subnet < score other →
      other.zone ∈ chosen.map (fun subnet => subnet.zone) ∧ other.zone ≠ subnet.zone := by
    intro other inside above
    refine ⟨?_, fun same => ?_⟩
    · by_contra out
      exact absurd (selected.leftOut other inside out subnet mem) (not_le.mpr above)
    · exact absurd (selected.best.highest subnet mem other inside same) (not_le.mpr above)
  intro first inFirst second inSecond aboveFirst aboveSecond
  by_contra differ
  obtain ⟨firstIn, firstNew⟩ := inZones first inFirst aboveFirst
  obtain ⟨secondIn, secondNew⟩ := inZones second inSecond aboveSecond
  have three : [first.zone, second.zone, subnet.zone].Nodup := by simp [differ, firstNew, secondNew]
  have inside : [first.zone, second.zone, subnet.zone] ⊆
      chosen.map (fun subnet => subnet.zone) := by
    simp only [cons_subset, nil_subset, and_true]
    exact ⟨firstIn, secondIn, mem_map_of_mem mem⟩
  have long := three.length_le_of_subset inside
  rw [length_map, selected.count] at long
  simp only [length_cons, length_nil] at long
  omega

section
variable (mem : subnet ∈ distribute zoneBalance (ranked sorter clusterSubnets subnets))

include mem

theorem mem_of_mem_distribute : subnet ∈ subnets := by
  unfold distribute at mem
  split_ifs at mem
  · exact (balanced_onePerZone sorter clusterSubnets subnets).best.members subnet mem
  · exact (availabilityFirst_all sorter clusterSubnets subnets).all.subset mem
  · exact (costOptimized_upToZones sorter clusterSubnets subnets).best.members subnet mem
  · cases mem

theorem mayBeTaken_of_distribute
    (roomiest : ∀ other ∈ distribute zoneBalance (ranked sorter clusterSubnets subnets),
      other.zone = subnet.zone → other.availableIPs ≤ subnet.availableIPs) :
    MayBeTaken zoneBalance (scoreOf clusterSubnets) subnets subnet := by
  unfold MayBeTaken
  unfold distribute at mem roomiest
  split_ifs at mem roomiest ⊢ with isBalanced isAvailability isCost
  · have best := (balanced_onePerZone sorter clusterSubnets subnets).best
    exact ⟨best.members subnet mem, best.highest subnet mem⟩
  · have all := (availabilityFirst_all sorter clusterSubnets subnets).all
    refine ⟨all.subset mem, fun other inside sameZone => ?_⟩
    exact roomiest other (all.symm.subset inside) sameZone
  · have selected := costOptimized_upToZones sorter clusterSubnets subnets
    exact ⟨⟨selected.best.members subnet mem, selected.best.highest subnet mem⟩,
      costOptimized_surpassed selected mem⟩
  · cases mem

end

theorem exists_ranked_before_ties (clusterSubnets : ClusterSubnets) (mem : subnet ∈ subnets) :
    ∃ (sorter : Sorter higherScore) (before after : List SubnetScore),
      ranked sorter clusterSubnets subnets =
        before ++ ⟨subnet, scoreOf clusterSubnets subnet⟩ :: after ∧
      ∀ other ∈ before, other.subnet ∈ subnets ∧
        scoreOf clusterSubnets subnet < scoreOf clusterSubnets other.subnet := by
  have strict : StrictWeak higherScore
      (subnets.map fun subnet => (⟨subnet, scoreOf clusterSubnets subnet⟩ : SubnetScore)) :=
    strictWeak_of_rank SubnetScore.score fun _ _ _ _ => by simp [higherScore]
  obtain ⟨sorter, before, after, sorted, higher⟩ :=
    strict.exists_sorter_before_ties (mem_map_of_mem mem)
  refine ⟨sorter, before, after, sorted, fun other inBefore => ?_⟩
  have inRanked : other ∈ ranked sorter clusterSubnets subnets := by
    rw [ranked, sorted]
    exact mem_append_left _ inBefore
  obtain ⟨inside, scored⟩ := mem_ranked_iff.mp inRanked
  refine ⟨inside, ?_⟩
  rw [← scored]
  simpa [higherScore] using higher other inBefore

section
variable (best : BestOfZone (scoreOf clusterSubnets) subnets subnet)

include best

theorem exists_first_of_zone :
    ∃ (sorter : Sorter higherScore) (before : List SubnetScore) (later : List SubnetScore),
      firstPerKey (fun score => score.subnet.zone) [] (ranked sorter clusterSubnets subnets) =
        firstPerKey (fun score => score.subnet.zone) [] before ++
          ⟨subnet, scoreOf clusterSubnets subnet⟩ :: later ∧
      ∀ other ∈ before, other.subnet ∈ subnets ∧
        scoreOf clusterSubnets subnet < scoreOf clusterSubnets other.subnet := by
  obtain ⟨sorter, before, after, sorted, higher⟩ := exists_ranked_before_ties clusterSubnets best.1
  have first : subnet.zone ∉ before.map fun score => score.subnet.zone := by
    intro inside
    obtain ⟨other, inBefore, sameZone⟩ := mem_map.mp inside
    obtain ⟨inSubnets, above⟩ := higher other inBefore
    exact absurd (best.2 other.subnet inSubnets sameZone) (not_le.mpr above)
  obtain ⟨later, kept⟩ := firstPerKey_append_cons
    (fun score : SubnetScore => score.subnet.zone) ⟨subnet, scoreOf clusterSubnets subnet⟩
    before after not_mem_nil first
  exact ⟨sorter, before, later, by rw [sorted, kept], higher⟩

theorem exists_onePerZone_of_best :
    ∃ sorter, subnet ∈ onePerZone [] (ranked sorter clusterSubnets subnets) := by
  obtain ⟨sorter, before, later, kept, _⟩ := exists_first_of_zone best
  refine ⟨sorter, ?_⟩
  rw [onePerZone_eq, kept]
  simp

theorem exists_upToZones_of_best (surpassed : ∀ first ∈ subnets, ∀ second ∈ subnets,
      scoreOf clusterSubnets subnet < scoreOf clusterSubnets first →
      scoreOf clusterSubnets subnet < scoreOf clusterSubnets second → first.zone = second.zone) :
    ∃ sorter, subnet ∈ upToZones targetZones [] (ranked sorter clusterSubnets subnets) := by
  obtain ⟨sorter, before, later, kept, higher⟩ := exists_first_of_zone best
  refine ⟨sorter, ?_⟩
  -- all zones kept before the subnet's are one zone
  have few : (firstPerKey (fun score : SubnetScore => score.subnet.zone) [] before).length ≤
      1 := by
    rw [length_firstPerKey]
    cases before with
    | nil => simp
    | cons head rest =>
      obtain ⟨headIn, headAbove⟩ := higher head mem_cons_self
      have oneZone : ((head :: rest).map fun score => score.subnet.zone).dedup ⊆
          [head.subnet.zone] := by
        intro zone inside
        obtain ⟨other, inBefore, rfl⟩ := mem_map.mp (mem_dedup.mp inside)
        obtain ⟨otherIn, otherAbove⟩ := higher other inBefore
        exact mem_singleton.mpr
          (surpassed other.subnet otherIn head.subnet headIn otherAbove headAbove)
      exact (nodup_dedup _).length_le_of_subset oneZone
  have early : (⟨subnet, scoreOf clusterSubnets subnet⟩ : SubnetScore) ∈
      (firstPerKey (fun score => score.subnet.zone) []
        (ranked sorter clusterSubnets subnets)).take targetZones := by
    rw [kept, take_append, mem_append]
    refine .inr ?_
    rw [take_cons (by unfold targetZones; omega)]
    exact mem_cons_self
  rw [upToZones_eq, onePerZone_eq, ← map_take]
  exact mem_map_of_mem (f := SubnetScore.subnet) early

end

theorem exists_distribute_of_mayBeTaken
    (taken : MayBeTaken zoneBalance (scoreOf clusterSubnets) subnets subnet) :
    ∃ sorter, subnet ∈ distribute zoneBalance (ranked sorter clusterSubnets subnets) ∧
      ∀ other ∈ distribute zoneBalance (ranked sorter clusterSubnets subnets),
        other.zone = subnet.zone → other.availableIPs ≤ subnet.availableIPs := by
  -- with one subnet a zone, the other one is the subnet itself
  have alone : ∀ {chosen : List SubnetRecord},
      BestPerZone (scoreOf clusterSubnets) subnets chosen → subnet ∈ chosen →
        ∀ other ∈ chosen, other.zone = subnet.zone → other.availableIPs ≤ subnet.availableIPs := by
    intro chosen best mem other inside sameZone
    rw [inj_on_of_nodup_map best.zones inside mem sameZone]
  unfold MayBeTaken at taken
  unfold distribute
  split_ifs at taken ⊢ with isBalanced isAvailability isCost
  · obtain ⟨sorter, mem⟩ := exists_onePerZone_of_best taken
    exact ⟨sorter, mem, alone (balanced_onePerZone sorter clusterSubnets subnets).best mem⟩
  · obtain ⟨sorter⟩ := nonempty_sorter higherScore
    have all := (availabilityFirst_all sorter clusterSubnets subnets).all
    refine ⟨sorter, all.symm.subset taken.1, fun other inside sameZone => ?_⟩
    exact taken.2 other (all.subset inside) sameZone
  · obtain ⟨sorter, mem⟩ := exists_upToZones_of_best taken.1 taken.2
    exact ⟨sorter, mem, alone (costOptimized_upToZones sorter clusterSubnets subnets).best mem⟩

end

variable {strategy : PlacementStrategy}

section
variable {inventory : Inventory} {clusterSubnets : ClusterSubnets}

theorem selectSubnetFromStatusList_takes {ids : List String} (ne : ids ≠ []) (id : String) :
    Ends (offers inventory clusterSubnets) () (selectSubnetFromStatusList ids) (.ok id) () ↔
      id ∈ ids := by
  match ids, ne with
  | [single], _ =>
    rw [mem_singleton]
    exact ⟨fun ends => Except.ok.inj ends.1, fun same => ⟨by rw [same], rfl⟩⟩
  | first :: second :: rest, ne =>
    rw [mem_iff_exists_picked ne]
    constructor
    · rintro ⟨index, _, _, same, _⟩
      exact ⟨index, (Except.ok.inj same).symm⟩
    · rintro ⟨index, rfl⟩
      exact ⟨index, (), trivial, rfl, rfl⟩

variable {subnets : List SubnetInfo}

theorem zones_ne_nil (ne : subnets ≠ []) : (subnets.map SubnetInfo.zone).eraseDups ≠ [] := by
  obtain ⟨first, rest, rfl⟩ := exists_cons_of_ne_nil ne
  refine ne_nil_of_mem (a := first.zone) ?_
  rw [mem_eraseDups]
  simp

theorem selectSubnetFromMultiZoneList_takes (ne : subnets ≠ []) {subnet : SubnetInfo}
    (ends : Ends (offers inventory clusterSubnets) () (selectSubnetFromMultiZoneList subnets)
      (.ok subnet) ()) : RoomiestOfZone subnets subnet := by
  match subnets, ne with
  | [single], _ =>
    obtain ⟨same, _⟩ := ends
    obtain rfl := Except.ok.inj same
    refine ⟨by simp, fun other inside _ => ?_⟩
    rw [mem_singleton.mp inside]
  | first :: second :: rest, ne =>
    obtain ⟨index, _, _, same, _⟩ := ends
    obtain rfl := Except.ok.inj same
    refine (roomiestOfZone_of_filter ?_).1
    rw [← mem_eraseDups]
    exact (mem_iff_exists_picked (zones_ne_nil ne)).mpr ⟨index, rfl⟩

variable (inventory clusterSubnets) in
theorem exists_taken_of_zone {subnet : SubnetInfo} (mem : subnet ∈ subnets) :
    ∃ taken, Ends (offers inventory clusterSubnets) () (selectSubnetFromMultiZoneList subnets)
        (.ok taken) () ∧ RoomiestOfZone subnets taken ∧ taken.zone = subnet.zone := by
  match subnets, mem with
  | [single], mem =>
    rw [mem_singleton] at mem
    subst mem
    exact ⟨subnet, ⟨rfl, rfl⟩, ⟨by simp, by simp⟩, rfl⟩
  | first :: second :: rest, mem =>
    have inhabited := mem_map_of_mem (f := SubnetInfo.zone) mem
    have listed := mem_eraseDups.mpr inhabited
    obtain ⟨index, picked⟩ := (mem_iff_exists_picked (ne_nil_of_mem listed)).mp listed
    obtain ⟨best, ofZone⟩ := roomiestOfZone_of_filter inhabited
    refine ⟨_, ⟨index, (), trivial, rfl, rfl⟩, ?_, ?_⟩
    · rw [picked]
      exact best
    · rw [picked]
      exact ofZone

/-! ## The three ways -/

theorem ends_answered_iff {α : Type} (answer : Except ApiError α) (value : α) :
    Ends (offers inventory clusterSubnets) () (answered answer) (.ok value) () ↔
      answer = .ok value := by
  rw [answered, ends_ofExcept]
  cases answer with
  | ok found =>
    constructor
    · rintro ⟨same, _⟩
      rw [Except.ok.inj same]
    · rintro ⟨⟩
      exact ⟨rfl, rfl⟩
  | error error => exact iff_of_false nofun nofun

variable {nodeClass : IBMNodeClass} {chosen : Placement}

theorem ends_placement_iff :
    Ends (offers inventory clusterSubnets) () (placement nodeClass) (.ok chosen) () ↔
      Ends (offers inventory clusterSubnets) () (choosePlacement nodeClass) (.ok chosen) () ∧
        chosen.zone ≠ "" ∧ chosen.subnet ≠ "" := by
  rw [placement, ends_bind_ok_iff]
  constructor
  · rintro ⟨found, _, ended, checked⟩
    by_cases missing : found.zone = "" ∨ found.subnet = ""
    · rw [if_pos missing] at checked
      cases checked.1
    rw [if_neg missing] at checked
    obtain rfl := Except.ok.inj checked.1
    exact ⟨ended, not_or.mp missing⟩
  · rintro ⟨ended, zoned, named⟩
    refine ⟨chosen, (), ended, ?_⟩
    rw [if_neg (not_or.mpr ⟨zoned, named⟩)]
    exact ⟨rfl, rfl⟩

theorem foldl_bestSubnetInZone (zone : String) (start : String × Int) (subnets : List SubnetInfo) :
    let best := subnets.foldl (fun best subnet =>
      if subnet.zone = zone ∧ subnet.state = "available" ∧ best.2 < subnet.availableIPs then
        (subnet.id, subnet.availableIPs)
      else best) start
    (best = start ∨ ∃ subnet ∈ subnets, subnet.zone = zone ∧ subnet.state = "available" ∧
        best = (subnet.id, subnet.availableIPs)) ∧
      start.2 ≤ best.2 ∧
      ∀ subnet ∈ subnets, subnet.zone = zone → subnet.state = "available" →
        subnet.availableIPs ≤ best.2 := by
  induction subnets generalizing start with
  | nil => exact ⟨.inl rfl, le_rfl, nofun⟩
  | cons next rest ih =>
    rw [foldl_cons]
    by_cases better : next.zone = zone ∧ next.state = "available" ∧ start.2 < next.availableIPs
    · rw [if_pos better]
      obtain ⟨source, above, most⟩ := ih (next.id, next.availableIPs)
      refine ⟨.inr ?_, better.2.2.le.trans above, ?_⟩
      · rcases source with same | ⟨subnet, inside, ofZone, available, same⟩
        · exact ⟨next, mem_cons_self, better.1, better.2.1, same⟩
        · exact ⟨subnet, mem_cons_of_mem _ inside, ofZone, available, same⟩
      intro subnet inside ofZone available
      rcases mem_cons.mp inside with rfl | later
      · exact above
      · exact most subnet later ofZone available
    · rw [if_neg better]
      obtain ⟨source, above, most⟩ := ih start
      refine ⟨?_, above, ?_⟩
      · rcases source with same | ⟨subnet, inside, ofZone, available, same⟩
        · exact .inl same
        · exact .inr ⟨subnet, mem_cons_of_mem _ inside, ofZone, available, same⟩
      intro subnet inside ofZone available
      rcases mem_cons.mp inside with rfl | later
      · have few : subnet.availableIPs ≤ start.2 := by
          by_contra more
          exact better ⟨ofZone, available, not_le.mp more⟩
        exact few.trans above
      · exact most subnet later ofZone available

theorem bestSubnetInZone_of_usable {zone : String} {info : SubnetInfo} (zoned : zone ≠ "")
    (mem : info ∈ subnets) (good : usable zone info = true) :
    ∃ subnet ∈ subnets, bestSubnetInZone zone subnets = subnet.id ∧ subnet.zone = zone ∧
      subnet.state = "available" ∧ 10 ≤ subnet.availableIPs := by
  simp only [usable, Bool.and_eq_true, Bool.or_eq_true, decide_eq_true_iff] at good
  obtain ⟨⟨available, room⟩, blank | ofZone⟩ := good
  · exact absurd blank zoned
  obtain ⟨source, _, most⟩ := foldl_bestSubnetInZone zone ("", -1) subnets
  have enough := most info mem ofZone available
  rcases source with start | ⟨subnet, inside, inZone, isAvailable, same⟩
  · rw [start] at enough
    dsimp only at enough
    omega
  rw [same] at enough
  refine ⟨subnet, inside, congrArg Prod.fst same, inZone, isAvailable, ?_⟩
  dsimp only at enough
  omega

theorem ends_choosePlacement_of_zone (zoned : nodeClass.spec.zone ≠ "")
    (auto : nodeClass.spec.subnet = "") :
    Ends (offers inventory clusterSubnets) () (choosePlacement nodeClass) (.ok chosen) () ↔
      bestSubnetInZone nodeClass.spec.zone (inventory.infos nodeClass.spec.vpc) ≠ "" ∧
        chosen = ⟨nodeClass.spec.zone,
          bestSubnetInZone nodeClass.spec.zone (inventory.infos nodeClass.spec.vpc)⟩ := by
  rw [choosePlacement, if_neg (fun both => zoned both.1), if_neg zoned, if_pos auto,
    ends_bind_ok_iff]
  constructor
  · rintro ⟨infos, _, listed, ended⟩
    rw [Calls.wrapped, ends_mapError_ok_iff] at listed
    obtain ⟨answer, _, served, found⟩ := listed
    obtain rfl := served infos ((ends_answered_iff answer infos).mp found)
    dsimp only at ended
    split_ifs at ended with nothing
    · cases ended.1
    · exact ⟨nothing, Except.ok.inj ended.1⟩
  · rintro ⟨something, rfl⟩
    refine ⟨inventory.infos nodeClass.spec.vpc, (), ?_, ?_⟩
    · rw [Calls.wrapped, ends_mapError_ok_iff]
      refine ⟨.ok (inventory.infos nodeClass.spec.vpc), (), ?_, (ends_answered_iff _ _).mpr rfl⟩
      rintro _ ⟨⟩
      rfl
    dsimp only
    rw [if_neg something]
    exact ⟨rfl, rfl⟩

variable (unzoned : nodeClass.spec.zone = "") (automatic : nodeClass.spec.subnet = "")

include unzoned automatic

theorem ends_choosePlacement_of_status
    (strategic : nodeClass.spec.placementStrategy = some strategy)
    (selected : nodeClass.status.selectedSubnets ≠ []) :
    Ends (offers inventory clusterSubnets) () (choosePlacement nodeClass) (.ok chosen) () ↔
      ∃ subnet ∈ inventory.subnets, subnet.id ∈ nodeClass.status.selectedSubnets ∧
        chosen = ⟨subnet.zone, subnet.id⟩ := by
  rw [choosePlacement, if_pos ⟨unzoned, automatic⟩, strategic]
  dsimp only
  rw [if_pos selected, ends_bind_ok_iff]
  constructor
  · rintro ⟨id, _, picked, later⟩
    obtain ⟨info, _, looked, ended⟩ := (ends_bind_ok_iff ..).mp later
    rw [Calls.wrapped, ends_mapError_ok_iff] at looked
    obtain ⟨answer, _, served, found⟩ := looked
    obtain ⟨subnet, mem, rfl, rfl⟩ := served info ((ends_answered_iff answer info).mp found)
    exact ⟨subnet, mem, (selectSubnetFromStatusList_takes selected _).mp picked,
      Except.ok.inj ended.1⟩
  · rintro ⟨subnet, mem, named, rfl⟩
    refine ⟨subnet.id, (), (selectSubnetFromStatusList_takes selected _).mpr named, ?_⟩
    rw [ends_bind_ok_iff]
    refine ⟨subnet.toSubnetInfo, (), ?_, rfl, rfl⟩
    rw [Calls.wrapped, ends_mapError_ok_iff]
    refine ⟨.ok subnet.toSubnetInfo, (), ?_, (ends_answered_iff _ _).mpr rfl⟩
    rintro _ ⟨⟩
    exact ⟨subnet, mem, rfl, rfl⟩

/-- The launch takes one of the subnets that `SelectSubnets` may return. -/
theorem ends_choosePlacement_of_strategy
    (strategic : nodeClass.spec.placementStrategy = some strategy)
    (unselected : nodeClass.status.selectedSubnets = []) :
    Ends (offers inventory clusterSubnets) () (choosePlacement nodeClass) (.ok chosen) () ↔
      ∃ sorter subnets taken, selectAmong sorter nodeClass.spec.vpc strategy
          (inventory.ofVPC nodeClass.spec.vpc) clusterSubnets = .ok subnets ∧
        subnets ≠ [] ∧
        Ends (offers inventory clusterSubnets) ()
          (selectSubnetFromMultiZoneList (subnets.map SubnetRecord.toSubnetInfo)) (.ok taken) () ∧
        chosen = ⟨taken.zone, taken.id⟩ := by
  rw [choosePlacement, if_pos ⟨unzoned, automatic⟩, strategic]
  dsimp only
  rw [if_neg (not_not.mpr unselected), ends_bind_ok_iff]
  constructor
  · rintro ⟨infos, _, asked, later⟩
    rw [Calls.wrapped, ends_mapError_ok_iff] at asked
    obtain ⟨answer, _, served, found⟩ := asked
    obtain ⟨sorter, subnets, selected, rfl⟩ :=
      served infos ((ends_answered_iff answer infos).mp found)
    split_ifs at later with nothing
    · cases later.1
    obtain ⟨taken, _, picked, ended⟩ := (ends_bind_ok_iff ..).mp later
    exact ⟨sorter, subnets, taken, selected, fun empty => nothing (by rw [empty]; rfl), picked,
      Except.ok.inj ended.1⟩
  · rintro ⟨sorter, subnets, taken, selected, ne, picked, rfl⟩
    refine ⟨subnets.map SubnetRecord.toSubnetInfo, (), ?_, ?_⟩
    · rw [Calls.wrapped, ends_mapError_ok_iff]
      refine ⟨.ok (subnets.map SubnetRecord.toSubnetInfo), (), ?_, (ends_answered_iff _ _).mpr rfl⟩
      rintro _ ⟨⟩
      exact ⟨sorter, subnets, selected, rfl⟩
    · rw [if_neg (by simpa using ne), ends_bind_ok_iff]
      exact ⟨taken, (), picked, rfl, rfl⟩

end

theorem selectAmong_eq_ok_iff {sorter : Sorter higherScore} {vpcID : String}
    {allSubnets chosen : List SubnetRecord} {clusterSubnets : ClusterSubnets} (ne : chosen ≠ []) :
    selectAmong sorter vpcID strategy allSubnets clusterSubnets = .ok chosen ↔
      allSubnets.filter (eligible strategy) ≠ [] ∧
      distribute strategy.zoneBalance
        (ranked sorter clusterSubnets (allSubnets.filter (eligible strategy))) = chosen := by
  unfold selectAmong
  dsimp only
  split_ifs with nothing unpicked
  · exact iff_of_false nofun fun meets => meets.1 nothing
  · exact iff_of_false nofun fun meets => ne (meets.2.symm.trans unpicked)
  · rw [Except.ok.injEq]
    exact ⟨fun same => ⟨nothing, same⟩, And.right⟩

/-- The condition under which no launch takes a subnet that an explicit choice would be
refused. -/
structure Sound (inventory : Inventory) (clusterSubnets : ClusterSubnets)
    (nodeClass : IBMNodeClass) : Prop where
  zone : nodeClass.spec.zone ≠ "" →
    extractRegionFromZone nodeClass.spec.zone = nodeClass.spec.region
  status : nodeClass.spec.zone = "" → nodeClass.spec.placementStrategy ≠ none →
    ∀ subnet ∈ inventory.subnets, subnet.id ∈ nodeClass.status.selectedSubnets →
      checkSubnet subnet.id nodeClass.spec.region subnet.toSubnetInfo = .ok ()
  strategy : nodeClass.spec.zone = "" → nodeClass.status.selectedSubnets = [] →
    ∀ strategy, nodeClass.spec.placementStrategy = some strategy →
      ∀ subnet, MayBeTaken strategy.zoneBalance (scoreOf clusterSubnets)
          ((inventory.ofVPC nodeClass.spec.vpc).filter (eligible strategy)) subnet →
        checkSubnet subnet.id nodeClass.spec.region subnet.toSubnetInfo = .ok ()

section
variable {inventory : Inventory} {used : ClusterSubnets} {nodeClass : IBMNodeClass}
  {strategy : PlacementStrategy}

theorem ends_placement_of_subnet (mem : subnet ∈ inventory.subnets)
    (ends : Ends (offers inventory used) () (choosePlacement nodeClass)
      (.ok ⟨subnet.zone, subnet.id⟩) ()) :
    Ends (offers inventory used) () (placement nodeClass) (.ok ⟨subnet.zone, subnet.id⟩) () :=
  ends_placement_iff.mpr ⟨ends, inventory.located subnet mem, inventory.identified subnet mem⟩

theorem choice_by_zone_passes_iff (ready : Ready inventory nodeClass.spec)
    (auto : nodeClass.spec.subnet = "") (zoned : nodeClass.spec.zone ≠ "") :
    (∀ chosen, Ends (offers inventory used) () (placement nodeClass) (.ok chosen) () →
        Passes inventory nodeClass.spec.region chosen.subnet) ↔
      extractRegionFromZone nodeClass.spec.zone = nodeClass.spec.region := by
  obtain ⟨info, mem, good⟩ := ready.exists_usable auto
  obtain ⟨best, inside, chosenID, ofZone, available, room⟩ :=
    bestSubnetInZone_of_usable zoned mem good
  obtain ⟨subnet, inVPC, rfl⟩ := mem_map.mp inside
  have inInventory := mem_of_mem_ofVPC inVPC
  have passesRegion : Passes inventory nodeClass.spec.region subnet.id ↔
      extractRegionFromZone nodeClass.spec.zone = nodeClass.spec.region := by
    rw [passes_iff inInventory, checkSubnet_eq_ok_iff, ofZone]
    exact ⟨And.left, fun region => ⟨region, available, room⟩⟩
  rw [← passesRegion]
  constructor
  · intro all
    refine all ⟨subnet.zone, subnet.id⟩ (ends_placement_of_subnet inInventory ?_)
    rw [ends_choosePlacement_of_zone zoned auto, chosenID, ofZone]
    exact ⟨inventory.identified subnet inInventory, rfl⟩
  intro passes chosen ends
  obtain ⟨chose, _⟩ := ends_placement_iff.mp ends
  obtain ⟨_, rfl⟩ := (ends_choosePlacement_of_zone zoned auto).mp chose
  rw [chosenID]
  exact passes

theorem MayBeTaken.mem {zoneBalance : String} {score : SubnetRecord → ℚ}
    {subnets : List SubnetRecord} (taken : MayBeTaken zoneBalance score subnets subnet) :
    subnet ∈ subnets := by
  unfold MayBeTaken at taken
  split_ifs at taken
  · exact taken.1
  · exact taken.1
  · exact taken.1.1

section
variable (unzoned : nodeClass.spec.zone = "") (automatic : nodeClass.spec.subnet = "")
  (strategic : nodeClass.spec.placementStrategy = some strategy)

include unzoned automatic strategic

theorem choice_from_status_passes_iff (selected : nodeClass.status.selectedSubnets ≠ []) :
    (∀ chosen, Ends (offers inventory used) () (placement nodeClass) (.ok chosen) () →
        Passes inventory nodeClass.spec.region chosen.subnet) ↔
      ∀ subnet ∈ inventory.subnets, subnet.id ∈ nodeClass.status.selectedSubnets →
        checkSubnet subnet.id nodeClass.spec.region subnet.toSubnetInfo = .ok () := by
  constructor
  · intro all subnet mem named
    refine (passes_iff mem).mp (all ⟨subnet.zone, subnet.id⟩ (ends_placement_of_subnet mem ?_))
    rw [ends_choosePlacement_of_status unzoned automatic strategic selected]
    exact ⟨subnet, mem, named, rfl⟩
  intro all chosen ends
  obtain ⟨chose, _⟩ := ends_placement_iff.mp ends
  obtain ⟨subnet, mem, named, rfl⟩ :=
    (ends_choosePlacement_of_status unzoned automatic strategic selected).mp chose
  exact (passes_iff mem).mpr (all subnet mem named)

variable (unselected : nodeClass.status.selectedSubnets = [])

include unselected

theorem mayBeTaken_of_chosen {chosen : Placement}
    (ends : Ends (offers inventory used) () (choosePlacement nodeClass) (.ok chosen) ()) :
    ∃ subnet, MayBeTaken strategy.zoneBalance (scoreOf used)
        ((inventory.ofVPC nodeClass.spec.vpc).filter (eligible strategy)) subnet ∧
      chosen = ⟨subnet.zone, subnet.id⟩ := by
  obtain ⟨sorter, subnets, taken, selected, ne, picked, rfl⟩ :=
    (ends_choosePlacement_of_strategy unzoned automatic strategic unselected).mp ends
  obtain ⟨_, rfl⟩ := (selectAmong_eq_ok_iff ne).mp selected
  obtain ⟨mem, most⟩ := selectSubnetFromMultiZoneList_takes (by simpa using ne) picked
  obtain ⟨subnet, inside, rfl⟩ := mem_map.mp mem
  refine ⟨subnet, mayBeTaken_of_distribute inside fun other inOthers sameZone => ?_, rfl⟩
  exact most other.toSubnetInfo (mem_map_of_mem inOthers) sameZone

theorem exists_chosen_of_mayBeTaken
    (taken : MayBeTaken strategy.zoneBalance (scoreOf used)
      ((inventory.ofVPC nodeClass.spec.vpc).filter (eligible strategy)) subnet) :
    ∃ other ∈ (inventory.ofVPC nodeClass.spec.vpc).filter (eligible strategy),
      other.zone = subnet.zone ∧ other.availableIPs = subnet.availableIPs ∧
        Ends (offers inventory used) () (choosePlacement nodeClass)
          (.ok ⟨other.zone, other.id⟩) () := by
  obtain ⟨sorter, mem, most⟩ := exists_distribute_of_mayBeTaken taken
  have nonempty := ne_nil_of_mem mem
  obtain ⟨info, picked, ⟨inside, roomiest⟩, sameZone⟩ := exists_taken_of_zone inventory used
      (mem_map_of_mem (f := SubnetRecord.toSubnetInfo) mem)
  obtain ⟨other, inDistribution, rfl⟩ := mem_map.mp inside
  have eligibleSubnet := mem_of_mem_distribute mem
  refine ⟨other, mem_of_mem_distribute inDistribution, sameZone, ?_, ?_⟩
  · refine le_antisymm (most other inDistribution sameZone) ?_
    exact roomiest subnet.toSubnetInfo (mem_map_of_mem mem) sameZone.symm
  refine (ends_choosePlacement_of_strategy unzoned automatic strategic unselected).mpr ?_
  exact ⟨sorter, _, other.toSubnetInfo,
    (selectAmong_eq_ok_iff nonempty).mpr ⟨ne_nil_of_mem eligibleSubnet, rfl⟩, nonempty,
    picked, rfl⟩

theorem choice_by_strategy_passes_iff :
    (∀ chosen, Ends (offers inventory used) () (placement nodeClass) (.ok chosen) () →
        Passes inventory nodeClass.spec.region chosen.subnet) ↔
      ∀ subnet, MayBeTaken strategy.zoneBalance (scoreOf used)
          ((inventory.ofVPC nodeClass.spec.vpc).filter (eligible strategy)) subnet →
        checkSubnet subnet.id nodeClass.spec.region subnet.toSubnetInfo = .ok () := by
  have inInventory : ∀ {subnet : SubnetRecord},
      subnet ∈ (inventory.ofVPC nodeClass.spec.vpc).filter (eligible strategy) →
        subnet ∈ inventory.subnets :=
    fun member => mem_of_mem_ofVPC (mem_of_mem_filter member)
  constructor
  · intro all subnet taken
    obtain ⟨other, member, sameZone, sameRoom, ends⟩ :=
      exists_chosen_of_mayBeTaken unzoned automatic strategic unselected taken
    have passed := (passes_iff (inInventory member)).mp
      (all ⟨other.zone, other.id⟩ (ends_placement_of_subnet (inInventory member) ends))
    -- the checks see the zone and the addresses; both subnets are available
    obtain ⟨region, _, room⟩ := checkSubnet_eq_ok_iff.mp passed
    rw [checkSubnet_eq_ok_iff, ← sameZone, ← sameRoom]
    have meets := eligible_iff.mp (of_mem_filter taken.mem)
    exact ⟨region, meets.available, room⟩
  · intro all chosen ends
    obtain ⟨chose, _⟩ := ends_placement_iff.mp ends
    obtain ⟨subnet, taken, rfl⟩ := mayBeTaken_of_chosen unzoned automatic strategic unselected chose
    exact (passes_iff (inInventory taken.mem)).mpr (all subnet taken)

end

end

/-- Every launch of a ready NodeClass without an explicit subnet takes one that passes the
checks for an explicit subnet, exactly under the condition. -/
theorem automatic_choice_passes_iff (inventory : Inventory) (clusterSubnets : ClusterSubnets)
    (nodeClass : IBMNodeClass) (ready : Ready inventory nodeClass.spec)
    (automatic : nodeClass.spec.subnet = "") :
    (∀ chosen, Ends (offers inventory clusterSubnets) () (placement nodeClass) (.ok chosen) () →
        Passes inventory nodeClass.spec.region chosen.subnet) ↔
      Sound inventory clusterSubnets nodeClass := by
  by_cases unzoned : nodeClass.spec.zone = ""
  · cases strategic : nodeClass.spec.placementStrategy with
    | none =>
      refine iff_of_true (fun chosen ends => ?_) ⟨absurd unzoned, ?_, ?_⟩
      · obtain ⟨chose, _⟩ := ends_placement_iff.mp ends
        rw [choosePlacement, if_pos ⟨unzoned, automatic⟩, strategic] at chose
        cases chose.1
      · exact fun _ given => absurd strategic given
      · intro _ _ strategy given
        cases strategic.symm.trans given
    | some strategy =>
      by_cases unselected : nodeClass.status.selectedSubnets = []
      · rw [choice_by_strategy_passes_iff unzoned automatic strategic unselected]
        constructor
        · intro all
          refine ⟨absurd unzoned, ?_, ?_⟩
          · intro _ _ subnet _ named
            rw [unselected] at named
            cases named
          intro _ _ other same
          obtain rfl := Option.some.inj (strategic.symm.trans same)
          exact all
        · exact fun sound => sound.strategy unzoned unselected strategy strategic
      · rw [choice_from_status_passes_iff unzoned automatic strategic unselected]
        constructor
        · intro all
          exact ⟨absurd unzoned, fun _ _ => all, fun _ empty => absurd empty unselected⟩
        · exact fun sound => sound.status unzoned (by rw [strategic]; nofun)
  · rw [choice_by_zone_passes_iff ready automatic unzoned]
    constructor
    · exact fun region =>
        ⟨fun _ => region, fun zoned => absurd zoned unzoned, fun zoned => absurd zoned unzoned⟩
    · exact fun sound => sound.zone unzoned

/-! ## A nearly full subnet is taken -/

def choiceInventory : Inventory where
  subnets := [roomySubnet, fullSubnet]
  vpcOf _ := "r006-vpc-a"
  distinct := by decide
  identified := by decide
  located := by decide

def choiceClass : IBMNodeClass :=
  { NodeClassStatus.sampleClass with
    spec := { NodeClassStatus.sampleSpec with
      zone := ""
      subnet := ""
      placementStrategy := some balancedStrategy } }

theorem surveys_granted (op : NodeClassStatus.Call) (answer : op.Answer)
    (granted : NodeClassStatus.Granted op) : surveys choiceInventory () op answer () := by
  cases op with
  | cachedSubnets vpcID | listSubnets vpcID => exact granted.elim
  | _ => trivial

theorem choice_network : Ends (surveys choiceInventory) ()
      (validateNetwork .complete choiceClass.spec) (.ok ()) () := by
  have listed : Ends (surveys choiceInventory) ()
      (NodeClassStatus.listSubnets .complete "r006-vpc-a")
      (.ok [roomySubnet.toSubnetInfo, fullSubnet.toSubnetInfo]) () := by
    refine ⟨some [roomySubnet.toSubnetInfo, fullSubnet.toSubnetInfo], (), ?_, rfl, rfl⟩
    rintro _ ⟨⟩
    rfl
  have available : Ends (surveys choiceInventory) ()
      (validateSubnetsAvailable .complete "r006-vpc-a" "") (.ok ()) () :=
    (listed.mapError _).bind ⟨rfl, rfl⟩
  refine ((NodeClassStatus.sample_region surveys_granted).mapError _).bind
    (((NodeClassStatus.sample_vpc surveys_granted).mapError _).bind ?_)
  rw [if_neg (by decide)]
  exact available.mapError _

theorem choice_ready : Ready choiceInventory choiceClass.spec := by
  have static : NodeClassStatus.validateStatic choiceClass.spec = .ok () := by decide +kernel
  have logic : Ends (surveys choiceInventory) ()
      (NodeClassStatus.validateBusinessLogic .complete choiceClass.spec) (.ok ()) () := by
    refine Ends.bind (?_ : Ends (surveys choiceInventory) () _ (.ok ()) ()) ⟨rfl, rfl⟩
    rw [NodeClassStatus.validateZoneOfSubnet, if_neg (by decide)]
    exact ⟨rfl, rfl⟩
  refine ⟨choiceClass, ⟨{ choiceClass.status with
    resolvedImageID := "image", resolvedSecurityGroups := ["group"] }, .ok ()⟩, rfl, ?_, rfl⟩
  rw [validateNodeClass, static]
  have resources := NodeClassStatus.sample_resources surveys_granted trivial
    ⟨rfl, rfl, rfl, rfl, rfl⟩ choice_network
  exact (resources _).bind ((logic.mapError _).attempt.bind ⟨rfl, rfl⟩)

theorem automatic_choice_passes_iff_sample : Ready choiceInventory choiceClass.spec ∧
      ((∀ chosen, Ends (offers choiceInventory ∅) () (placement choiceClass) (.ok chosen) () →
          Passes choiceInventory choiceClass.spec.region chosen.subnet) ↔
        Sound choiceInventory ∅ choiceClass) :=
  ⟨choice_ready, automatic_choice_passes_iff choiceInventory ∅ choiceClass choice_ready rfl⟩

/-- A ready NodeClass is launched in a subnet with three free addresses. -/
theorem nearly_full_subnet_taken :
    Ready choiceInventory choiceClass.spec ∧ choiceClass.spec.subnet = "" ∧
      Ends (offers choiceInventory ∅) () (placement choiceClass)
        (.ok ⟨"us-south-2", "0727-full"⟩) () ∧
      ¬ Passes choiceInventory choiceClass.spec.region "0727-full" := by
  have taken : MayBeTaken "Balanced" (scoreOf ∅)
      ((choiceInventory.ofVPC "r006-vpc-a").filter (eligible balancedStrategy)) fullSubnet := by
    rw [MayBeTaken, if_pos rfl]
    have all : (choiceInventory.ofVPC "r006-vpc-a").filter (eligible balancedStrategy) =
        [roomySubnet, fullSubnet] := by
      decide
    rw [all]
    refine ⟨by decide, fun other inside sameZone => ?_⟩
    rcases mem_cons.mp inside with rfl | last
    · exact absurd sameZone (by decide)
    · rw [mem_singleton.mp last]
  obtain ⟨other, member, sameZone, _, ends⟩ := exists_chosen_of_mayBeTaken
    (show choiceClass.spec.zone = "" from rfl) rfl rfl rfl taken
  have inside : other ∈ choiceInventory.subnets := mem_of_mem_ofVPC (mem_of_mem_filter member)
  have same : other = fullSubnet := by
    rcases mem_cons.mp inside with rfl | last
    · exact absurd sameZone (by decide)
    · exact mem_singleton.mp last
  subst same
  refine ⟨choice_ready, rfl, ends_placement_of_subnet inside ends, ?_⟩
  rw [show "0727-full" = fullSubnet.id from rfl, passes_iff inside,
    checkSubnet_eq_ok_iff]
  exact fun passed => absurd passed.2.2 (by decide)

end KarpenterIBM.SubnetChoice
