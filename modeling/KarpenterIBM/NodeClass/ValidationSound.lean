import KarpenterIBM.Lib.Service
import KarpenterIBM.NodeClass.ValidationCalls

/-!
# What a successful validation says of the cloud

The cloud has subnets and security groups, each in a VPC, and a subnet stays in its zone.
-/

namespace KarpenterIBM.NodeClassStatus

open EffectProgram Errors Function Objects Text

/-! ## The cloud -/

/-- A zone is named after its region and a label without a hyphen. -/
structure Zone where
  region : String
  label : String
  plain : '-' ∉ label.toList

def Zone.name (zone : Zone) : String := zone.region ++ "-" ++ zone.label

theorem extractRegionFromZone_name (zone : Zone) :
    extractRegionFromZone zone.name = zone.region := by
  have chars : zone.name.toList.reverse =
      zone.label.toList.reverse ++ '-' :: zone.region.toList.reverse := by
    simp [Zone.name]
  have hyphen : '-' ∈ zone.name.toList := by simp [Zone.name]
  have label : ∀ c ∈ zone.label.toList.reverse, decide (c ≠ '-') = true := by
    intro c mem
    simp only [decide_eq_true_eq]
    rintro rfl
    exact zone.plain (List.mem_reverse.mp mem)
  rw [extractRegionFromZone, if_pos hyphen, chars, List.dropWhile_append_of_pos label]
  simp

structure CloudSubnet where
  vpc : String
  zone : Zone
  status : String
  addresses : Option Int

structure Cloud where
  subnets : String → Option CloudSubnet
  groups : String → Option String

def CloudSubnet.reported (subnet : CloudSubnet) (id : String) : VPCSubnet :=
  ⟨id, subnet.zone.name, subnet.status, subnet.addresses⟩

/-- The cloud and the entries of the caches that have not expired. -/
structure World where
  cloud : Cloud
  subnetCache : String → Option SubnetInfo
  zoneCache : String → Option String

/-- Every call may fail; a read that succeeds is of the cloud as it is. -/
def serves : Service validating World
  | world, .getSubnet id, answer, after =>
    after = world ∧ ∀ subnet, answer = .ok subnet →
      ∃ found, world.cloud.subnets id = some found ∧ subnet = found.reported id
  | world, .getSecurityGroup id, answer, after =>
    after = world ∧ ∀ group, answer = .ok group →
      ∃ vpc, world.cloud.groups id = some vpc ∧ group.vpc = some (some vpc)
  | world, .cachedSubnet id, answer, after => after = world ∧ answer = world.subnetCache id
  | world, .cacheSubnet id info, _, after =>
    after = { world with subnetCache := update world.subnetCache id (some info) }
  | world, .cachedZone id, answer, after => after = world ∧ answer = world.zoneCache id
  | world, .cacheZone id zone, _, after =>
    after = { world with zoneCache := update world.zoneCache id (some zone) }
  | world, _, _, after => after = world

/-! ## Validity -/

/-- What a valid NodeClass says of its explicit subnet and security groups. -/
structure Valid (cloud : Cloud) (spec : IBMNodeClassSpec) : Prop where
  subnet : spec.subnet ≠ "" → ∃ subnet, cloud.subnets spec.subnet = some subnet ∧
    subnet.vpc = spec.vpc ∧ subnet.zone.region = spec.region ∧
    (spec.zone ≠ "" → subnet.zone.name = spec.zone) ∧ subnet.status = "available"
  groups : ∀ id ∈ spec.securityGroups, trimSpace id ≠ "" →
    cloud.groups (trimSpace id) = some spec.vpc

/-- The explicit subnet is one of the VPC, and what the cache holds of its state is current. -/
def SubnetOfVPC (world : World) (spec : IBMNodeClassSpec) : Prop :=
  spec.subnet ≠ "" → ∃ subnet, world.cloud.subnets spec.subnet = some subnet ∧
    subnet.vpc = spec.vpc ∧
    ∀ info, world.subnetCache spec.subnet = some info → info.state = subnet.status

/-! ## The life of the controller -/

def Cloud.Placed (cloud : Cloud) (places : String → Zone) : Prop :=
  ∀ id subnet, cloud.subnets id = some subnet → subnet.zone = places id

/-- A validation of the NodeClass in this world may end so. -/
structure Validates (controller : Controller) (world : World) (nodeClass : IBMNodeClass)
    (validation : Validation) (after : World) : Prop where
  ends : Ends serves world (validateNodeClass controller nodeClass) (.ok validation) after

/-- The states of a controller: it validates NodeClasses, the cloud changes, entries of the
caches expire. -/
inductive Operating (controller : Controller) (places : String → Zone) : World → Prop where
  | started (cloud : Cloud) (placed : cloud.Placed places) :
      Operating controller places ⟨cloud, fun _ => none, fun _ => none⟩
  | validated {world after : World} (operating : Operating controller places world)
      (nodeClass : IBMNodeClass) (validation : Validation)
      (validates : Validates controller world nodeClass validation after) :
      Operating controller places after
  | changed {world : World} (operating : Operating controller places world) (cloud : Cloud)
      (placed : cloud.Placed places) : Operating controller places { world with cloud := cloud }
  | expired {world : World} (operating : Operating controller places world)
      (subnetCache : String → Option SubnetInfo) (zoneCache : String → Option String)
      (subnets : ∀ id info, subnetCache id = some info → world.subnetCache id = some info)
      (zones : ∀ id zone, zoneCache id = some zone → world.zoneCache id = some zone) :
      Operating controller places ⟨world.cloud, subnetCache, zoneCache⟩

structure Located (places : String → Zone) (world : World) : Prop where
  cloud : world.cloud.Placed places
  subnetCache : ∀ id info, world.subnetCache id = some info → info.zone = (places id).name
  zoneCache : ∀ id zone, world.zoneCache id = some zone → zone = (places id).name

/-! ## Calls that leave the caches alone -/

theorem serves_quiet (world : World) (op : Call) (answer : op.Answer) (after : World)
    (quiet : Quiet op) (served : serves world op answer after) : after = world := by
  cases op with
  | cacheSubnet id info | cacheZone id zone => exact quiet.2.elim
  | getSubnet id | getSecurityGroup id | cachedSubnet id | cachedZone id => exact served.1
  | _ => exact served

variable {α : Type} {program : Program α}

theorem Quiet.unmoved (only : Only Quiet program) (world : World) :
    Ensures serves world program fun _ after => after = world :=
  only.ensures_unmoved serves_quiet

/-! ## Security groups -/

abbrev Finds (fact : Prop) (world : World) {α : Type} (outcome : Except GoError α)
    (after : World) : Prop :=
  after = world ∧ ∀ value, outcome = .ok value → fact

theorem wrapped_ensures {world : World} {fact : Prop} {lead : String}
    (finds : Ensures serves world program (Finds fact world)) :
    Ensures serves world (wrapped lead program) (Finds fact world) := by
  refine Ensures.mapError (finds.mono ?_)
  rintro out after ⟨same, holds⟩
  exact ⟨same, fun value ok => holds value ((mapError_eq_ok_iff _).mp ok)⟩

theorem getSecurityGroup_ensures (world : World) (id lead : String) : Ensures serves world
      (wrapped lead (.call (.getSecurityGroup id) ofExcept) : Program SecurityGroup)
      fun out after => after = world ∧ ∀ group, out = .ok group →
        ∃ vpc, world.cloud.groups id = some vpc ∧ group.vpc = some (some vpc) := by
  refine Ensures.mapError (ensures_call ?_)
  rintro answer _ ⟨rfl, reads⟩
  exact ensures_ofExcept ⟨rfl, fun group ok => reads group ((mapError_eq_ok_iff _).mp ok)⟩

theorem validateSecurityGroup_ensures (world : World) (vpcID region id : String) :
    Ensures serves world (validateSecurityGroup vpcID region id)
      (Finds (world.cloud.groups id = some vpcID) world) := by
  have retry : Only Quiet (retryWithExponentialBackoff 3 (.call (.getSecurityGroup id)
      fun answer => ofExcept (Except.map (fun _ => ()) answer))) := by
    refine retryFrom_quiet ?_ 0 3
    exact ⟨⟨trivial, trivial⟩, fun _ => only_ofExcept _⟩
  refine Ensures.bind (Quiet.unmoved (retry.mapError _) world) ?_ ?_
  · rintro _ _ rfl
    refine Ensures.bind (getSecurityGroup_ensures _ id _) ?_ ?_
    · rintro details _ ⟨rfl, known⟩
      obtain ⟨vpc, found, named⟩ := known details rfl
      rw [named]
      dsimp only
      split_ifs with other
      · exact ensures_fail ⟨rfl, nofun⟩
      · exact ensures_pure ⟨rfl, fun _ _ => not_not.mp other ▸ found⟩
    · rintro error _ ⟨rfl, _⟩
      exact ⟨rfl, nofun⟩
  · rintro error _ rfl
    exact ⟨rfl, nofun⟩

theorem forEachID_ensures (world : World) {body : String → Program Unit} {fact : String → Prop}
    (each : ∀ id, Ensures serves world (body id) (Finds (fact id) world)) (ids : List String) :
    Ensures serves world (forEachID body ids)
      (Finds (∀ id ∈ ids, trimSpace id ≠ "" → fact (trimSpace id)) world) := by
  induction ids with
  | nil => exact ensures_pure ⟨rfl, nofun⟩
  | cons id rest ih =>
    have first : Ensures serves world (if trimSpace id = "" then pure () else body (trimSpace id))
        (Finds (trimSpace id ≠ "" → fact (trimSpace id)) world) := by
      split_ifs with blank
      · exact ensures_pure ⟨rfl, fun _ _ nonblank => absurd blank nonblank⟩
      refine (each (trimSpace id)).mono ?_
      rintro out after ⟨same, holds⟩
      exact ⟨same, fun value ok _ => holds value ok⟩
    refine Ensures.bind first ?_ ?_
    · rintro _ _ ⟨rfl, here⟩
      refine ih.mono ?_
      rintro out after ⟨same, later⟩
      refine ⟨same, fun value ok => ?_⟩
      rw [List.forall_mem_cons]
      exact ⟨here () rfl, later value ok⟩
    · rintro error _ ⟨rfl, _⟩
      exact ⟨rfl, nofun⟩

abbrev GroupsOfVPC (cloud : Cloud) (spec : IBMNodeClassSpec) : Prop :=
  ∀ id ∈ spec.securityGroups, trimSpace id ≠ "" → cloud.groups (trimSpace id) = some spec.vpc

theorem resolveSecurityGroups_ensures (world : World) (controller : Controller)
    (managed : controller.hasVPCClientManager = true) (spec : IBMNodeClassSpec) :
    Ensures serves world (resolveSecurityGroups controller spec)
      (Finds (GroupsOfVPC world.cloud spec) world) := by
  unfold resolveSecurityGroups
  by_cases explicit : spec.securityGroups ≠ []
  · rw [if_pos explicit]
    have checked : Ensures serves world
        (validateSecurityGroups controller spec.securityGroups spec.vpc spec.region)
        (Finds (GroupsOfVPC world.cloud spec) world) := by
      rw [validateSecurityGroups, managed, if_neg nofun]
      refine Ensures.bind (Quiet.unmoved (validationSDKClient_quiet spec.region) world) ?_ ?_
      · rintro _ _ rfl
        exact forEachID_ensures _ (validateSecurityGroup_ensures _ spec.vpc spec.region) _
      · rintro error _ rfl
        exact ⟨rfl, nofun⟩
    refine Ensures.bind (wrapped_ensures checked) ?_ ?_
    · rintro _ _ ⟨rfl, valid⟩
      exact ensures_pure ⟨rfl, fun _ _ => valid () rfl⟩
    · rintro error _ ⟨rfl, _⟩
      exact ⟨rfl, nofun⟩
  · rw [if_neg explicit]
    have quiet : Only Quiet (wrapped "failed to resolve default security group: "
        (resolveDefaultSecurityGroup spec.vpc spec.region) >>= fun id =>
          (pure [id] : Program (List String))) :=
      Only.bind (wrapped_quiet _ (resolveDefaultSecurityGroup_quiet ..)) fun _ => trivial
    refine (Quiet.unmoved quiet world).mono ?_
    rintro out _ rfl
    refine ⟨rfl, fun _ _ => ?_⟩
    rw [GroupsOfVPC, not_not.mp explicit]
    nofun

/-! ## Subnets -/

def Known (world : World) (id : String) (info : SubnetInfo) : Prop :=
  world.subnetCache id = some info ∨
    (world.subnetCache id = none ∧ ∃ subnet, world.cloud.subnets id = some subnet ∧
      info = convertVPCSubnetToSubnetInfo (subnet.reported id))

/-- The cloud is the same and subnets are still in their zones. -/
structure Steady (places : String → Zone) (before after : World) : Prop where
  cloud : after.cloud = before.cloud
  located : Located places after

variable {places : String → Zone} {world : World}

theorem Steady.refl (located : Located places world) : Steady places world world := ⟨rfl, located⟩

theorem Steady.trans {mid after : World} (first : Steady places world mid)
    (second : Steady places mid after) : Steady places world after :=
  ⟨second.cloud.trans first.cloud, second.located⟩

theorem forall_update_some {ν : Type} {entries : String → Option ν} {holds : String → ν → Prop}
    (all : ∀ id value, entries id = some value → holds id value) {id : String} {value : ν}
    (added : holds id value) :
    ∀ other found, update entries id (some value) other = some found →
      holds other found := by
  intro other found stored
  by_cases same : other = id
  · subst same
    rw [update_self] at stored
    cases stored
    exact added
  · rw [update_of_ne same] at stored
    exact all other found stored

theorem Located.cacheSubnet (located : Located places world) {id : String} {info : SubnetInfo}
    (zone : info.zone = (places id).name) :
    Located places
      { world with subnetCache := update world.subnetCache id (some info) } :=
  ⟨located.cloud, forall_update_some located.subnetCache zone, located.zoneCache⟩

theorem Located.cacheZone (located : Located places world) {id zone : String}
    (right : zone = (places id).name) :
    Located places { world with zoneCache := update world.zoneCache id (some zone) } :=
  ⟨located.cloud, located.subnetCache, forall_update_some located.zoneCache right⟩

theorem readSubnet_ensures (world : World) (id lead : String) :
    Ensures serves world (wrapped lead (.call (.getSubnet id) ofExcept) : Program VPCSubnet)
      fun out after => after = world ∧ ∀ subnet, out = .ok subnet →
        ∃ found, world.cloud.subnets id = some found ∧ subnet = found.reported id := by
  refine Ensures.mapError (ensures_call ?_)
  rintro answer _ ⟨rfl, reads⟩
  exact ensures_ofExcept ⟨rfl, fun subnet ok => reads subnet ((mapError_eq_ok_iff _).mp ok)⟩

abbrev Learns (places : String → Zone) (world : World) {α : Type} (fact : α → Prop)
    (outcome : Except GoError α) (after : World) : Prop :=
  Steady places world after ∧ ∀ value, outcome = .ok value → fact value

theorem Learns.failed (located : Located places world) {fact : α → Prop} {error : GoError} :
    Learns places world fact (.error error) world :=
  ⟨.refl located, nofun⟩

theorem learns_of_quiet (located : Located places world) (quiet : Only Quiet program) :
    Ensures serves world program (Learns places world fun _ => True) := by
  refine (Quiet.unmoved quiet world).mono ?_
  rintro out _ rfl
  exact ⟨.refl located, fun _ _ => trivial⟩

theorem learns_wrapped {fact : α → Prop} (lead : String)
    (learns : Ensures serves world program (Learns places world fact)) :
    Ensures serves world (wrapped lead program) (Learns places world fact) := by
  refine Ensures.mapError (learns.mono ?_)
  rintro out after ⟨steady, holds⟩
  exact ⟨steady, fun value ok => holds value ((mapError_eq_ok_iff _).mp ok)⟩

theorem learns_bind {β : Type} {next : α → Program β} {first : α → Prop} {second : β → Prop}
    (learns : Ensures serves world program (Learns places world first))
    (later : ∀ value mid, Steady places world mid → first value →
      Ensures serves mid (next value) (Learns places mid second)) :
    Ensures serves world (program >>= next) (Learns places world second) := by
  refine Ensures.bind learns ?_ ?_
  · rintro value mid ⟨steady, holds⟩
    refine (later value mid steady (holds value rfl)).mono ?_
    rintro out after ⟨still, learned⟩
    exact ⟨steady.trans still, learned⟩
  · rintro error mid ⟨steady, _⟩
    exact ⟨steady, nofun⟩

theorem learns_after_quiet (located : Located places world) {β : Type} {next : α → Program β}
    {fact : β → Prop} (quiet : Only Quiet program)
    (later : ∀ value, Ensures serves world (next value) (Learns places world fact)) :
    Ensures serves world (program >>= next) (Learns places world fact) := by
  refine Ensures.bind (Quiet.unmoved quiet world) ?_ ?_
  · rintro value mid unmoved
    rw [unmoved]
    exact later value
  rintro error mid unmoved
  rw [unmoved]
  exact .failed located

theorem getSubnet_ensures (located : Located places world) (controller : Controller) (id : String) :
    Ensures serves world (getSubnet controller id) (Learns places world fun info =>
      info.zone = (places id).name ∧ Known world id info) := by
  unfold getSubnet
  split_ifs
  · exact ensures_fail (.failed located)
  refine ensures_perform ?_
  rintro cached mid ⟨same, holds⟩
  rw [same]
  cases cached with
  | some info =>
    refine ensures_pure ⟨.refl located, ?_⟩
    rintro _ ⟨⟩
    exact ⟨located.subnetCache id info holds.symm, .inl holds.symm⟩
  | none =>
    refine learns_after_quiet located getVPCClient_quiet fun _ => ?_
    refine Ensures.bind (readSubnet_ensures world id _) ?_ ?_
    · rintro subnet state ⟨still, reads⟩
      obtain ⟨found, present, rfl⟩ := reads subnet rfl
      have zone : (convertVPCSubnetToSubnetInfo (found.reported id)).zone = (places id).name := by
        rw [← located.cloud id found present]
        rfl
      rw [still]
      refine ensures_perform ?_
      rintro _ last rfl
      refine ensures_pure ⟨⟨rfl, located.cacheSubnet zone⟩, ?_⟩
      rintro _ ⟨⟩
      exact ⟨zone, .inr ⟨holds.symm, found, present, rfl⟩⟩
    · rintro error state ⟨still, _⟩
      rw [still]
      exact .failed located

theorem checkSubnet_eq_ok_iff {subnetID region : String} {info : SubnetInfo} {value : Unit} :
    checkSubnet subnetID region info = .ok value ↔
      extractRegionFromZone info.zone = region ∧ info.state = "available" ∧
        10 ≤ info.availableIPs := by
  unfold checkSubnet
  split_ifs with elsewhere down small
  · exact iff_of_false nofun fun meets => elsewhere meets.1
  · exact iff_of_false nofun fun meets => down meets.2.1
  · exact iff_of_false nofun fun meets => absurd meets.2.2 (by omega)
  · exact iff_of_true rfl ⟨not_not.mp elsewhere, not_not.mp down, by omega⟩

def Admitted (places : String → Zone) (world : World) (subnetID region : String) : Prop :=
  (places subnetID).region = region ∧
    ∃ info, Known world subnetID info ∧ info.state = "available"

section
variable (located : Located places world) (controller : Controller)

include located controller

theorem validateSubnet_ensures (subnetID vpcID region : String) :
    Ensures serves world (validateSubnet controller subnetID vpcID region)
      (Learns places world fun _ => Admitted places world subnetID region) := by
  refine learns_bind (learns_wrapped _ (getSubnet_ensures located controller subnetID)) ?_
  rintro info mid steady ⟨zone, known⟩
  refine ensures_ofExcept ⟨.refl steady.located, fun value checked => ?_⟩
  obtain ⟨inRegion, available, _⟩ := checkSubnet_eq_ok_iff.mp checked
  rw [zone, extractRegionFromZone_name] at inRegion
  exact ⟨inRegion, info, known, available⟩

theorem validateNetwork_ensures (spec : IBMNodeClassSpec) :
    Ensures serves world (validateNetwork controller spec) (Learns places world fun _ =>
        spec.subnet ≠ "" → Admitted places world spec.subnet spec.region) := by
  refine learns_after_quiet located (wrapped_quiet _ (validateRegion_quiet _)) fun _ => ?_
  refine learns_after_quiet located (wrapped_quiet _ (validateVPCInRegion_quiet ..)) fun _ => ?_
  split_ifs with explicit
  · refine learns_wrapped _
      (Ensures.mono (validateSubnet_ensures located controller _ spec.vpc _) ?_)
    rintro out after ⟨steady, admitted⟩
    exact ⟨steady, fun value ok _ => admitted value ok⟩
  refine learns_wrapped _ ((learns_of_quiet located (validateSubnetsAvailable_quiet ..)).mono ?_)
  rintro out after ⟨steady, _⟩
  exact ⟨steady, fun _ _ named => absurd named explicit⟩

theorem validateZoneSubnetCompatibility_ensures (provided : controller.hasSubnetProvider = true)
    (zone subnetID : String) :
    Ensures serves world (validateZoneSubnetCompatibility controller zone subnetID)
      (Learns places world fun _ => (places subnetID).name = zone) := by
  rw [validateZoneSubnetCompatibility, provided, if_neg nofun]
  refine ensures_perform ?_
  rintro cached mid ⟨same, holds⟩
  rw [same]
  cases cached with
  | some known =>
    have right := located.zoneCache subnetID known holds.symm
    dsimp only
    split_ifs with other
    · exact ensures_fail (.failed located)
    · exact ensures_pure ⟨.refl located, fun _ _ => right.symm.trans (not_not.mp other)⟩
  | none =>
    refine learns_bind (learns_wrapped _ (getSubnet_ensures located controller subnetID)) ?_
    rintro info state steady ⟨right, _⟩
    have cachedZone := steady.located.cacheZone right
    refine ensures_perform ?_
    rintro _ last rfl
    split_ifs with other down
    · exact ensures_fail ⟨⟨rfl, cachedZone⟩, nofun⟩
    · exact ensures_fail ⟨⟨rfl, cachedZone⟩, nofun⟩
    · exact ensures_pure ⟨⟨rfl, cachedZone⟩, fun _ _ => right.symm.trans (not_not.mp other)⟩

theorem validateBusinessLogic_ensures (provided : controller.hasSubnetProvider = true)
    (spec : IBMNodeClassSpec) :
    Ensures serves world (validateBusinessLogic controller spec) (Learns places world fun _ =>
        spec.zone ≠ "" → spec.subnet ≠ "" → (places spec.subnet).name = spec.zone) := by
  have checked : Ensures serves world (validateZoneOfSubnet controller spec)
      (Learns places world fun _ =>
        spec.zone ≠ "" → spec.subnet ≠ "" → (places spec.subnet).name = spec.zone) := by
    unfold validateZoneOfSubnet
    split_ifs with both
    · refine learns_wrapped _ (Ensures.mono (validateZoneSubnetCompatibility_ensures located
        controller provided spec.zone spec.subnet) ?_)
      rintro out after ⟨steady, right⟩
      exact ⟨steady, fun value ok _ _ => right value ok⟩
    · exact ensures_pure ⟨.refl located, fun _ _ zoned named => absurd ⟨zoned, named⟩ both⟩
  refine learns_bind checked ?_
  rintro _ mid steady right
  cases spec.placementStrategy with
  | none => exact ensures_pure ⟨.refl steady.located, fun _ _ => right⟩
  | some strategy =>
    refine (learns_of_quiet steady.located (wrapped_quiet _ (only_ofExcept _))).mono ?_
    rintro out after ⟨still, _⟩
    exact ⟨still, fun _ _ => right⟩

end

/-! ## The whole validation -/

structure Established (places : String → Zone) (world : World) (spec : IBMNodeClassSpec) :
    Prop where
  subnet : spec.subnet ≠ "" → Admitted places world spec.subnet spec.region
  zone : spec.zone ≠ "" → spec.subnet ≠ "" → (places spec.subnet).name = spec.zone
  groups : GroupsOfVPC world.cloud spec

section
variable (located : Located places world)
  (controller : Controller)
  (managed : controller.hasVPCClientManager = true)
  (spec : IBMNodeClassSpec)
  (status : IBMNodeClassStatus)

include located controller managed spec status

theorem validateAccess_ensures : Ensures serves world (validateAccess controller spec status)
      (Learns places world fun check => check.verdict = .ok () →
        GroupsOfVPC world.cloud spec) := by
  refine Ensures.attempt_bind (resolveSecurityGroups_ensures world controller managed spec) ?_
  rintro out mid ⟨same, valid⟩
  rw [same]
  cases out with
  | error error =>
    refine ensures_pure ⟨.refl located, ?_⟩
    rintro _ ⟨⟩ ⟨⟩
  | ok ids =>
    refine learns_after_quiet located (validateKeys_quiet controller spec).attempt fun checked => ?_
    exact ensures_pure ⟨.refl located, fun _ _ _ => valid ids rfl⟩

theorem validateImageAndAccess_ensures :
    Ensures serves world (validateImageAndAccess controller spec status)
      (Learns places world fun check => check.verdict = .ok () →
        GroupsOfVPC world.cloud spec) := by
  refine learns_after_quiet located
    (Only.attempt (wrapped_quiet _ (validateImageConfiguration_quiet spec))) fun image => ?_
  cases image with
  | error error =>
    refine ensures_pure ⟨.refl located, ?_⟩
    rintro _ ⟨⟩ ⟨⟩
  | ok id => exact validateAccess_ensures located controller managed spec _

end

theorem validateIBMCloudResources_ensures (located : Located places world)
    (spec : IBMNodeClassSpec) (status : IBMNodeClassStatus) :
    Ensures serves world (validateIBMCloudResources .complete spec status)
      (Learns places world fun check => check.verdict = .ok () →
        (spec.subnet ≠ "" → Admitted places world spec.subnet spec.region) ∧
          GroupsOfVPC world.cloud spec) := by
  rw [validateIBMCloudResources, if_neg (by decide)]
  refine Ensures.attempt_bind (validateNetwork_ensures located .complete spec) ?_
  rintro network mid ⟨steady, admitted⟩
  cases network with
  | error error =>
    refine ensures_pure ⟨steady, ?_⟩
    rintro _ ⟨⟩ ⟨⟩
  | ok _ =>
    have later := validateImageAndAccess_ensures steady.located .complete rfl spec status
    refine later.mono ?_
    rintro out after ⟨still, valid⟩
    refine ⟨steady.trans still, fun check ok accepted => ⟨admitted () rfl, ?_⟩⟩
    rw [← steady.cloud]
    exact valid check ok accepted

theorem validateNodeClass_ensures (located : Located places world) (nodeClass : IBMNodeClass) :
    Ensures serves world (validateNodeClass .complete nodeClass)
      (Learns places world fun check => check.verdict = .ok () →
        Established places world nodeClass.spec) := by
  unfold validateNodeClass
  split
  · refine ensures_pure ⟨.refl located, ?_⟩
    rintro _ ⟨⟩ ⟨⟩
  refine learns_bind (validateIBMCloudResources_ensures located nodeClass.spec _) ?_
  rintro resources mid steady checked
  split
  · refine ensures_pure ⟨.refl steady.located, ?_⟩
    rintro _ ⟨⟩ ⟨⟩
  next accepted =>
    obtain ⟨subnet, groups⟩ := checked accepted
    refine Ensures.attempt_bind (learns_wrapped _
      (validateBusinessLogic_ensures steady.located .complete rfl nodeClass.spec)) ?_
    rintro logic after ⟨still, zone⟩
    refine ensures_pure ⟨still, ?_⟩
    rintro _ ⟨⟩ passed
    exact ⟨subnet, zone () passed, groups⟩

/-! ## Every state of a controller -/

theorem Validates.learns (located : Located places world) {nodeClass : IBMNodeClass}
    {check : Validation} {after : World}
    (validates : Validates .complete world nodeClass check after) :
    Learns places world (fun check => check.verdict = .ok () →
      Established places world nodeClass.spec) (.ok check) after :=
  (validateNodeClass_ensures located nodeClass).of_ends validates.ends

theorem Operating.located (operating : Operating .complete places world) :
    Located places world := by
  induction operating with
  | started cloud placed => exact ⟨placed, nofun, nofun⟩
  | validated operating nodeClass check validates ih => exact (validates.learns ih).1.located
  | changed operating cloud placed ih => exact ⟨placed, ih.subnetCache, ih.zoneCache⟩
  | expired operating subnetCache zoneCache subnets zones ih =>
    exact ⟨ih.cloud, fun id info cached => ih.subnetCache id info (subnets id info cached),
      fun id zone cached => ih.zoneCache id zone (zones id zone cached)⟩

/-- A validation that succeeds is right about the explicit subnet and the security groups
exactly when the subnet is one of the VPC and the cache is current about its state. -/
theorem validation_sound_iff (places : String → Zone) (world after : World)
    (nodeClass : IBMNodeClass) (validation : Validation)
    (operating : Operating .complete places world)
    (validates : Validates .complete world nodeClass validation after)
    (accepted : validation.verdict = .ok ()) :
    Valid world.cloud nodeClass.spec ↔ SubnetOfVPC world nodeClass.spec := by
  have located := operating.located
  have established : Established places world nodeClass.spec :=
    (validates.learns located).2 validation rfl accepted
  constructor
  · intro valid explicit
    obtain ⟨subnet, present, inVPC, _, _, available⟩ := valid.subnet explicit
    refine ⟨subnet, present, inVPC, ?_⟩
    intro info cached
    obtain ⟨_, known, isKnown, state⟩ := established.subnet explicit
    rcases isKnown with held | ⟨missing, _⟩
    · cases cached.symm.trans held
      exact state.trans available.symm
    · cases missing.symm.trans cached
  · intro ofVPC
    refine ⟨?_, established.groups⟩
    intro explicit
    obtain ⟨subnet, present, inVPC, current⟩ := ofVPC explicit
    obtain ⟨inRegion, info, known, state⟩ := established.subnet explicit
    have zone := located.cloud _ subnet present
    have available : subnet.status = "available" := by
      rcases known with held | ⟨_, found, foundHere, rfl⟩
      · exact (current info held).symm.trans state
      · cases present.symm.trans foundHere
        exact state
    refine ⟨subnet, present, inVPC, zone ▸ inRegion, ?_, available⟩
    intro zoned
    rw [zone]
    exact established.zone zoned explicit

/-! ## A subnet of any VPC is accepted -/

def sampleZone : Zone := ⟨"us-south", "1", by decide⟩

def sampleSpec : IBMNodeClassSpec where
  region := "us-south"
  zone := "us-south-1"
  instanceProfile := ""
  instanceRequirements := none
  image := "ubuntu"
  imageSelector := none
  vpc := "r006-vpc-a"
  subnet := "0717-subnet"
  placementStrategy := none
  securityGroups := ["group"]
  sshKeys := []
  resourceGroup := ""
  placementTarget := ""
  tags := ∅
  bootstrapMode := none
  apiServerEndpoint := ""
  iksClusterID := ""
  iksWorkerPoolID := ""
  iksDynamicPools := none

def sampleClass : IBMNodeClass where
  name := "class"
  uid := "uid"
  resourceVersion := 0
  generation := 1
  annotations := ∅
  spec := sampleSpec
  status := ⟨"", [], [], [], "", []⟩

/-- The cloud whose only subnet is in the VPC `home`. -/
def sampleCloud (home : String) : Cloud where
  subnets id := if id = "0717-subnet" then some ⟨home, sampleZone, "available", some 100⟩ else none
  groups id := if id = "group" then some "r006-vpc-a" else none

def sampleWorld (home : String) : World := ⟨sampleCloud home, fun _ => none, fun _ => none⟩

def sampleInfo : SubnetInfo := ⟨"0717-subnet", "us-south-1", "available", 100⟩

def sampleCached (home : String) : World :=
  { sampleWorld home with
    subnetCache := update (sampleWorld home).subnetCache "0717-subnet" (some sampleInfo) }

def sampleZoned (home : String) : World :=
  { sampleCached home with
    zoneCache := update (sampleCached home).zoneCache "0717-subnet"
      (some "us-south-1") }

theorem sample_static : validateStatic sampleSpec = .ok () := by decide +kernel

/-- The calls for clients, regions, VPCs and images. -/
def Granted : Call → Prop
  | .newVPCClient | .getVPCClient | .forRegion _ | .hasSDKClient | .listRegions | .getVPC _ _ _
  | .resolveImage _ _ => True
  | _ => False

/-- The parts of a spec that decide on the groups, the image and the keys. -/
structure Sampled (spec : IBMNodeClassSpec) : Prop where
  region : spec.region = "us-south"
  vpc : spec.vpc = "r006-vpc-a"
  groups : spec.securityGroups = ["group"]
  image : spec.image = "ubuntu"
  keys : spec.sshKeys = []

section
variable {W : Type} {service : Service validating W} {world : W}
  (granted : ∀ op answer, Granted op → service world op answer world)

include granted

theorem sample_region : Ends service world (validateRegion "us-south") (.ok ()) world := by
  have format : validateRegionFormat "us-south" = .ok () := by decide +kernel
  rw [validateRegion, if_neg (by decide), format]
  exact ⟨.ok (), _, granted _ _ trivial, true, _, granted _ _ trivial,
    .ok (some [⟨some "us-south", none⟩]), _, granted _ _ trivial, rfl, rfl⟩

theorem sample_vpc : Ends service world
      (validateVPCInRegion .complete "r006-vpc-a" "" "us-south") (.ok ()) world :=
  ⟨.ok (), _, granted _ _ trivial, .ok (), _, granted _ _ trivial, .ok (), _,
    granted _ _ trivial, rfl, rfl⟩

variable (inVPC : service world (.getSecurityGroup "group") (.ok ⟨some (some "r006-vpc-a")⟩) world)
  {spec : IBMNodeClassSpec} (sampled : Sampled spec)

include inVPC sampled

theorem sample_groups :
    Ends service world (resolveSecurityGroups .complete spec) (.ok ["group"]) world := by
  have trimmed : trimSpace "group" = "group" := by decide +kernel
  have group : Ends service world (validateSecurityGroup "r006-vpc-a" "us-south" "group") (.ok ())
      world :=
    ⟨.ok ⟨some (some "r006-vpc-a")⟩, _, inVPC, .ok ⟨some (some "r006-vpc-a")⟩, _, inVPC, rfl, rfl⟩
  have loop : Ends service world
      (forEachID (validateSecurityGroup "r006-vpc-a" "us-south") ["group"]) (.ok ()) world := by
    refine Ends.bind (?_ : Ends service _ _ (.ok ()) world) ⟨rfl, rfl⟩
    dsimp only
    rw [trimmed, if_neg (by decide)]
    exact group
  have checked : Ends service world
      (validateSecurityGroups .complete ["group"] "r006-vpc-a" "us-south") (.ok ()) world := by
    have client : Ends service world (validationSDKClient "us-south") (.ok ()) world :=
      ⟨.ok (), _, granted _ _ trivial, .ok (), _, granted _ _ trivial, true, _,
        granted _ _ trivial, rfl, rfl⟩
    exact client.bind loop
  rw [resolveSecurityGroups, sampled.groups, sampled.vpc, sampled.region, if_pos (by decide)]
  exact (checked.mapError _).bind ⟨rfl, rfl⟩

theorem sample_resources {start : W}
    (network : Ends service start (validateNetwork .complete spec) (.ok ()) world)
    (status : IBMNodeClassStatus) :
    Ends service start (validateIBMCloudResources .complete spec status)
      (.ok ⟨{ status with resolvedImageID := "image", resolvedSecurityGroups := ["group"] },
        .ok ()⟩) world := by
  have image : Ends service world (validateImageConfiguration spec) (.ok "image") world := by
    have client : Ends service world (validationVPCClient "us-south") (.ok ()) world :=
      ⟨.ok (), _, granted _ _ trivial, .ok (), _, granted _ _ trivial, rfl, rfl⟩
    rw [validateImageConfiguration, sampled.region, sampled.image]
    refine client.bind ?_
    rw [if_pos (by decide)]
    exact ⟨.ok "image", _, granted _ _ trivial, rfl, rfl⟩
  have keys : Ends service world (validateKeys .complete spec) (.ok ()) world := by
    rw [validateKeys, if_neg (not_not.mpr sampled.keys)]
    exact ⟨rfl, rfl⟩
  rw [validateIBMCloudResources, if_neg (by decide)]
  refine network.attempt.bind ?_
  refine (image.mapError _).attempt.bind ?_
  exact (sample_groups granted inVPC sampled).attempt.bind (keys.attempt.bind ⟨rfl, rfl⟩)

end

theorem serves_granted (world : World) (op : Call) (answer : op.Answer) (granted : Granted op) :
    serves world op answer world := by
  cases op with
  | newVPCClient | getVPCClient | forRegion region | hasSDKClient | listRegions
  | getVPC region vpcID resourceGroupID | resolveImage region image => rfl
  | _ => exact granted.elim

section
variable (home : String)

include home

theorem sample_network :
    Ends serves (sampleWorld home) (validateNetwork .complete sampleSpec) (.ok ())
      (sampleCached home) := by
  have read : Ends serves (sampleWorld home) (getSubnet .complete "0717-subnet")
      (.ok sampleInfo) (sampleCached home) := by
    refine ⟨none, _, ⟨rfl, rfl⟩, .ok (), _, rfl,
      .ok (CloudSubnet.reported ⟨home, sampleZone, "available", some 100⟩ "0717-subnet"), _,
      ⟨rfl, ?_⟩, (), _, rfl, ?_⟩
    · rintro _ ⟨⟩
      exact ⟨_, rfl, rfl⟩
    have converted : convertVPCSubnetToSubnetInfo
        (CloudSubnet.reported ⟨home, sampleZone, "available", some 100⟩ "0717-subnet") =
          sampleInfo := by
      rfl
    rw [converted]
    exact ⟨rfl, rfl⟩
  have checked : checkSubnet "0717-subnet" "us-south" sampleInfo = .ok () := by decide +kernel
  have subnet : Ends serves (sampleWorld home)
      (validateSubnet .complete "0717-subnet" "r006-vpc-a" "us-south") (.ok ())
      (sampleCached home) := by
    refine (read.mapError _).bind ?_
    rw [checked]
    exact ⟨rfl, rfl⟩
  refine ((sample_region (serves_granted _)).mapError _).bind
    (((sample_vpc (serves_granted _)).mapError _).bind ?_)
  rw [if_pos (by decide)]
  exact subnet.mapError _

theorem sample_validates :
    ∃ check after, Validates .complete (sampleWorld home) sampleClass check after ∧
      check.verdict = .ok () := by
  have zone : Ends serves (sampleCached home)
      (validateZoneSubnetCompatibility .complete "us-south-1" "0717-subnet") (.ok ())
      (sampleZoned home) :=
    ⟨none, _, ⟨rfl, rfl⟩, some sampleInfo, _, ⟨rfl, rfl⟩, (), _, rfl, rfl, rfl⟩
  have logic : Ends serves (sampleCached home) (validateBusinessLogic .complete sampleSpec)
      (.ok ()) (sampleZoned home) := by
    refine Ends.bind (?_ : Ends serves _ _ (.ok ()) (sampleZoned home)) ⟨rfl, rfl⟩
    rw [validateZoneOfSubnet, if_pos (by decide)]
    exact zone.mapError _
  refine ⟨⟨{ sampleClass.status with
    resolvedImageID := "image", resolvedSecurityGroups := ["group"] }, .ok ()⟩, sampleZoned home,
    ⟨?_⟩, rfl⟩
  rw [validateNodeClass, show validateStatic sampleClass.spec = .ok () from sample_static]
  have inVPC : serves (sampleCached home) (.getSecurityGroup "group")
      (.ok ⟨some (some "r006-vpc-a")⟩) (sampleCached home) := by
    refine ⟨rfl, ?_⟩
    rintro _ ⟨⟩
    exact ⟨_, rfl, rfl⟩
  have resources := sample_resources (serves_granted _) inVPC ⟨rfl, rfl, rfl, rfl, rfl⟩
    (sample_network home)
  exact (resources _).bind ((logic.mapError _).attempt.bind ⟨rfl, rfl⟩)

theorem sample_operating : Operating .complete (fun _ => sampleZone) (sampleWorld home) := by
  refine .started (sampleCloud home) ?_
  intro id subnet found
  dsimp only [sampleCloud] at found
  split_ifs at found
  cases found
  rfl

end

/-- The subnet of another VPC passes the validation of a NodeClass. -/
theorem subnet_of_other_vpc_accepted : ∃ validation after,
      Validates .complete (sampleWorld "r006-vpc-b") sampleClass validation after ∧
        validation.verdict = .ok () ∧ ¬Valid (sampleWorld "r006-vpc-b").cloud sampleSpec := by
  obtain ⟨validation, after, validates, accepted⟩ := sample_validates "r006-vpc-b"
  refine ⟨validation, after, validates, accepted, ?_⟩
  intro valid
  obtain ⟨subnet, ⟨⟩, inVPC, _⟩ := valid.subnet (by decide)
  exact absurd inVPC (by decide)

theorem validation_sound_iff_sample : ∃ validation after,
      Validates .complete (sampleWorld "r006-vpc-a") sampleClass validation after ∧
        validation.verdict = .ok () ∧ Valid (sampleWorld "r006-vpc-a").cloud sampleSpec := by
  obtain ⟨validation, after, validates, accepted⟩ := sample_validates "r006-vpc-a"
  refine ⟨validation, after, validates, accepted, ?_⟩
  refine (validation_sound_iff _ _ _ _ _ (sample_operating _) validates accepted).mpr ?_
  intro _
  exact ⟨_, rfl, rfl, nofun⟩

end KarpenterIBM.NodeClassStatus
