import KarpenterIBM.Lib.Protocol
import KarpenterIBM.NodeClass.Validation

/-!
# The calls and the result of a validation

No check touches the NodeClass itself, and few of them write a cache. A validation that succeeds
leaves in the status the image and the security groups that its own calls gave for the spec.
-/

namespace KarpenterIBM.NodeClassStatus

open EffectProgram Errors List Objects Text

/-! ## Calls that leave the caches alone -/

def Checks : Call → Prop
  | .getCachedClass => False
  | .getClass => False
  | .patchStatus _ _ => False
  | _ => True

def Quiet (op : Call) : Prop :=
  Checks op ∧
    match op with
    | .cacheSubnet _ _ => False
    | .cacheZone _ _ => False
    | _ => True

theorem getVPCClient_quiet : Only Quiet getVPCClient := ⟨⟨trivial, trivial⟩, only_ofExcept⟩

theorem hasSDKClient_quiet : Only Quiet hasSDKClient := ⟨⟨trivial, trivial⟩, fun _ => trivial⟩

variable (controller : Controller) (vpcID : String) (region : String)

theorem validationVPCClient_quiet : Only Quiet (validationVPCClient region) :=
  getVPCClient_quiet.bind fun _ => ⟨⟨trivial, trivial⟩, only_ofExcept⟩

theorem wrapped_quiet {α : Type} {program : Program α} (lead : String)
    (quiet : Only Quiet program) : Only Quiet (wrapped lead program) :=
  quiet.mapError _

theorem validationSDKClient_quiet : Only Quiet (validationSDKClient region) := by
  refine Only.bind (wrapped_quiet _ (validationVPCClient_quiet region)) fun _ => ?_
  refine Only.bind hasSDKClient_quiet fun available => ?_
  split_ifs
  · exact trivial
  · exact trivial

theorem retryFrom_quiet {body : Program Unit} (quiet : Only Quiet body) (attempt rounds : Nat) :
    Only Quiet (retryFrom body attempt rounds) := by
  induction rounds generalizing attempt with
  | zero => exact trivial
  | succ rounds ih =>
    refine quiet.attempt.bind ?_
    intro out
    cases out with
    | ok _ => exact trivial
    | error error =>
      dsimp only
      split_ifs
      · exact trivial
      refine only_call ⟨trivial, trivial⟩ ?_
      intro done
      cases done with
      | some cancelled => exact trivial
      | none => exact ih (attempt + 1)

theorem forEachID_quiet {body : String → Program Unit} (quiet : ∀ id, Only Quiet (body id))
    (ids : List String) : Only Quiet (forEachID body ids) :=
  only_forEach ids fun id => only_ite trivial (quiet (trimSpace id))

theorem validateRegion_quiet : Only Quiet (validateRegion region) := by
  unfold validateRegion
  split_ifs
  · exact trivial
  refine Only.bind (only_ofExcept _) fun _ => ?_
  refine Only.bind (wrapped_quiet _ getVPCClient_quiet) fun _ => ?_
  refine Only.bind hasSDKClient_quiet fun available => ?_
  split_ifs
  · exact trivial
  refine Only.bind (wrapped_quiet _ ?_) ?_
  · exact ⟨⟨trivial, trivial⟩, only_ofExcept⟩
  intro regions
  cases regions with
  | none => exact trivial
  | some entries => exact only_ofExcept _

theorem validateVPCInRegion_quiet (resourceGroupID region : String) :
    Only Quiet (validateVPCInRegion controller vpcID resourceGroupID region) := by
  refine Only.bind (wrapped_quiet _ ?_) fun _ => (retryFrom_quiet ?_ 0 3).mapError _
  · unfold createRegionVPCClient
    split_ifs
    · exact trivial
    refine Only.bind (wrapped_quiet _ ?_) ?_
    · exact ⟨⟨trivial, trivial⟩, only_ofExcept⟩
    · intro _
      exact ⟨⟨trivial, trivial⟩, only_ofExcept⟩
  · exact ⟨⟨trivial, trivial⟩, only_ofExcept⟩

theorem listSubnets_quiet : Only Quiet (listSubnets controller vpcID) := by
  unfold listSubnets
  split_ifs
  · exact trivial
  refine Only.bind (only_call ⟨trivial, trivial⟩ fun _ => trivial) ?_
  intro cached
  cases cached with
  | some infos => exact trivial
  | none =>
    refine Only.bind getVPCClient_quiet fun _ => Only.bind (wrapped_quiet _ ?_) ?_
    · exact ⟨⟨trivial, trivial⟩, only_ofExcept⟩
    · intro subnets
      exact ⟨⟨trivial, trivial⟩, fun _ => trivial⟩

theorem validateSubnetsAvailable_quiet (zone : String) :
    Only Quiet (validateSubnetsAvailable controller vpcID zone) := by
  refine Only.bind (wrapped_quiet _ (listSubnets_quiet controller vpcID)) ?_
  intro infos
  split_ifs
  · exact trivial
  · exact trivial
  · exact trivial

theorem validateImageConfiguration_quiet (spec : IBMNodeClassSpec) :
    Only Quiet (validateImageConfiguration spec) := by
  refine Only.bind (validationVPCClient_quiet spec.region) ?_
  intro _
  split_ifs
  · refine wrapped_quiet _ ?_
    exact ⟨⟨trivial, trivial⟩, only_ofExcept⟩
  cases spec.imageSelector with
  | none => exact trivial
  | some selector =>
    refine wrapped_quiet _ ?_
    exact ⟨⟨trivial, trivial⟩, only_ofExcept⟩

theorem validateSSHKeys_quiet (ids : List String) (region : String) :
    Only Quiet (validateSSHKeys controller ids region) := by
  unfold validateSSHKeys
  split_ifs
  · exact trivial
  refine Only.bind (validationSDKClient_quiet region) fun _ => forEachID_quiet ?_ ids
  intro id
  refine (retryFrom_quiet ?_ 0 3).mapError _
  exact ⟨⟨trivial, trivial⟩, only_ofExcept⟩

theorem validateSecurityGroup_quiet (id : String) :
    Only Quiet (validateSecurityGroup vpcID region id) := by
  refine Only.bind (Only.mapError (retryFrom_quiet ?_ 0 3) _) fun _ => ?_
  · exact ⟨⟨trivial, trivial⟩, fun _ => only_ofExcept _⟩
  refine Only.bind (wrapped_quiet _ ?_) ?_
  · exact ⟨⟨trivial, trivial⟩, only_ofExcept⟩
  intro details
  split
  · exact only_ite trivial trivial
  · exact trivial

theorem validateSecurityGroups_quiet (ids : List String) (vpcID region : String) :
    Only Quiet (validateSecurityGroups controller ids vpcID region) := by
  unfold validateSecurityGroups
  refine only_ite trivial ?_
  exact Only.bind (validationSDKClient_quiet region) fun _ =>
    forEachID_quiet (validateSecurityGroup_quiet vpcID region) ids

theorem resolveDefaultSecurityGroup_quiet :
    Only Quiet (resolveDefaultSecurityGroup vpcID region) := by
  refine Only.bind (wrapped_quiet _ (validationVPCClient_quiet region)) fun _ => ?_
  exact ⟨⟨trivial, trivial⟩, only_ofExcept⟩

theorem resolveSecurityGroups_quiet (spec : IBMNodeClassSpec) :
    Only Quiet (resolveSecurityGroups controller spec) := by
  unfold resolveSecurityGroups
  refine only_ite ?_ ?_
  · exact Only.bind (wrapped_quiet _ (validateSecurityGroups_quiet ..)) fun _ => trivial
  · exact Only.bind (wrapped_quiet _ (resolveDefaultSecurityGroup_quiet ..)) fun _ => trivial

theorem validateKeys_quiet (spec : IBMNodeClassSpec) : Only Quiet (validateKeys controller spec) :=
  only_ite (wrapped_quiet _ (validateSSHKeys_quiet ..)) trivial

/-! ## All calls of a validation -/

theorem Quiet.checks {α : Type} {program : Program α} (quiet : Only Quiet program) :
    Only Checks program :=
  Uses.mono quiet (fun _ => And.left) fun _ _ => trivial

theorem getSubnet_checks (subnetID : String) : Only Checks (getSubnet controller subnetID) := by
  unfold getSubnet
  refine only_ite trivial (Only.bind (only_call trivial fun _ => trivial) ?_)
  intro cached
  cases cached with
  | some info => exact trivial
  | none =>
    refine Only.bind (Quiet.checks getVPCClient_quiet) fun _ => Only.bind (Only.mapError ?_ _) ?_
    · exact ⟨trivial, only_ofExcept⟩
    · intro subnet
      exact ⟨trivial, fun _ => trivial⟩

theorem validateNetwork_checks (spec : IBMNodeClassSpec) :
    Only Checks (validateNetwork controller spec) := by
  refine Only.bind (Quiet.checks (wrapped_quiet _ (validateRegion_quiet _))) fun _ => ?_
  refine Only.bind (Quiet.checks (wrapped_quiet _ (validateVPCInRegion_quiet ..))) fun _ => ?_
  refine only_ite (Only.mapError ?_ _) (Quiet.checks (wrapped_quiet _
    (validateSubnetsAvailable_quiet ..)))
  exact Only.bind (Only.mapError (getSubnet_checks ..) _) fun _ => only_ofExcept _

theorem validateZoneSubnetCompatibility_checks (zone subnetID : String) :
    Only Checks (validateZoneSubnetCompatibility controller zone subnetID) := by
  unfold validateZoneSubnetCompatibility
  refine only_ite trivial (Only.bind (only_call trivial fun _ => trivial) ?_)
  intro cached
  cases cached with
  | some known => exact only_ite trivial trivial
  | none =>
    refine Only.bind (Only.mapError (getSubnet_checks ..) _) fun info => ?_
    refine Only.bind (only_call trivial fun _ => trivial) fun _ => ?_
    exact only_ite trivial (only_ite trivial trivial)

theorem validateBusinessLogic_checks (spec : IBMNodeClassSpec) :
    Only Checks (validateBusinessLogic controller spec) := by
  refine Only.bind (only_ite (Only.mapError (validateZoneSubnetCompatibility_checks ..) _)
    trivial) fun _ => ?_
  cases spec.placementStrategy with
  | none => exact trivial
  | some strategy => exact Only.mapError (only_ofExcept _) _

def KeepsConditions (conditions : List Condition) (outcome : Except GoError Validation) : Prop :=
  ∀ validation, outcome = .ok validation → validation.status.conditions = conditions

variable {validation : Validation}

theorem uses_validation {conditions : List Condition}
    (kept : validation.status.conditions = conditions) :
    Uses Checks (KeepsConditions conditions) (pure validation : Program Validation) := by
  rintro _ ⟨⟩
  exact kept

theorem uses_after_checks {α : Type} {program : Program α} {next : α → Program Validation}
    {conditions : List Condition} (checks : Only Checks program)
    (later : ∀ value, Uses Checks (KeepsConditions conditions) (next value)) :
    Uses Checks (KeepsConditions conditions) (program >>= next) := by
  refine Uses.bind checks (fun value _ => later value) ?_
  rintro error _ _ ⟨⟩

section
variable (spec : IBMNodeClassSpec) (status : IBMNodeClassStatus)

include spec status

theorem validateAccess_uses :
    Uses Checks (KeepsConditions status.conditions) (validateAccess controller spec status) := by
  refine uses_after_checks (Quiet.checks (resolveSecurityGroups_quiet controller spec)).attempt ?_
  intro groups
  cases groups with
  | error error => exact uses_validation rfl
  | ok ids =>
    refine uses_after_checks (Quiet.checks (validateKeys_quiet controller spec)).attempt ?_
    intro keys
    exact uses_validation rfl

theorem validateImageAndAccess_uses : Uses Checks (KeepsConditions status.conditions)
      (validateImageAndAccess controller spec status) := by
  refine uses_after_checks
    (Quiet.checks (wrapped_quiet _ (validateImageConfiguration_quiet spec))).attempt ?_
  intro image
  cases image with
  | error error => exact uses_validation rfl
  | ok id => exact validateAccess_uses controller spec { status with resolvedImageID := id }

theorem validateIBMCloudResources_uses : Uses Checks (KeepsConditions status.conditions)
      (validateIBMCloudResources controller spec status) := by
  unfold validateIBMCloudResources
  split_ifs
  · exact uses_validation rfl
  refine uses_after_checks (validateNetwork_checks controller spec).attempt ?_
  intro network
  cases network with
  | error error => exact uses_validation rfl
  | ok _ => exact validateImageAndAccess_uses controller spec status

end

theorem validateNodeClass_uses (nodeClass : IBMNodeClass) :
    Uses Checks (KeepsConditions nodeClass.status.conditions)
      (validateNodeClass controller nodeClass) := by
  unfold validateNodeClass
  split
  · exact uses_validation rfl
  refine Uses.bind (validateIBMCloudResources_uses controller nodeClass.spec nodeClass.status) ?_ ?_
  · intro resources kept
    split
    · exact uses_validation (kept resources rfl)
    refine uses_after_checks (Only.attempt (Only.mapError (validateBusinessLogic_checks ..) _)) ?_
    intro logic
    exact uses_validation (kept resources rfl)
  · rintro error _ _ ⟨⟩

theorem validateNodeClass_checks (nodeClass : IBMNodeClass) :
    Only Checks (validateNodeClass controller nodeClass) :=
  Uses.mono (validateNodeClass_uses controller nodeClass) (fun _ => id) fun _ _ => trivial

/-! ## The result of a validation -/

/-- The image and the security groups of the status are those that these exchanges gave for
the spec. -/
structure Computed (spec : IBMNodeClassSpec) (trace : List validating.Exchange)
    (status : IBMNodeClassStatus) : Prop where
  image : (spec.image ≠ "" ∧
      ⟨.resolveImage spec.region spec.image, .ok status.resolvedImageID⟩ ∈ trace) ∨
    (spec.image = "" ∧ ∃ selector, spec.imageSelector = some selector ∧
      ⟨.resolveImageBySelector spec.region selector, .ok status.resolvedImageID⟩ ∈ trace)
  groups : (spec.securityGroups ≠ [] ∧ status.resolvedSecurityGroups = spec.securityGroups) ∨
    (spec.securityGroups = [] ∧ ∃ id, status.resolvedSecurityGroups = [id] ∧
      ⟨.getDefaultSecurityGroup spec.vpc, .ok id⟩ ∈ trace)

variable {spec : IBMNodeClassSpec} {trace : List validating.Exchange}

theorem validateImageConfiguration_runs {id : String}
    (run : Runs (validateImageConfiguration spec) trace (.ok id)) :
    (spec.image ≠ "" ∧ ⟨.resolveImage spec.region spec.image, .ok id⟩ ∈ trace) ∨
      (spec.image = "" ∧ ∃ selector, spec.imageSelector = some selector ∧
        ⟨.resolveImageBySelector spec.region selector, .ok id⟩ ∈ trace) := by
  obtain ⟨_, first, later, rfl, _, resolved⟩ := runs_bind_ok run
  split_ifs at resolved with named
  · obtain ⟨answer, rest, rfl, ran⟩ := runs_mapError_ok resolved
    obtain ⟨rfl, rfl⟩ := (runs_ofExcept_ok _ _ _).mp ran
    exact .inl ⟨named, mem_append_right _ (mem_singleton_self _)⟩
  refine .inr ⟨not_not.mp named, ?_⟩
  cases selected : spec.imageSelector with
  | none =>
    rw [selected] at resolved
    cases resolved.2
  | some selector =>
    rw [selected] at resolved
    obtain ⟨answer, rest, rfl, ran⟩ := runs_mapError_ok resolved
    obtain ⟨rfl, rfl⟩ := (runs_ofExcept_ok _ _ _).mp ran
    exact ⟨selector, rfl, mem_append_right _ (mem_singleton_self _)⟩

theorem resolveSecurityGroups_runs {controller : Controller} {ids : List String}
    (run : Runs (resolveSecurityGroups controller spec) trace (.ok ids)) :
    (spec.securityGroups ≠ [] ∧ ids = spec.securityGroups) ∨
      (spec.securityGroups = [] ∧ ∃ id, ids = [id] ∧
        ⟨.getDefaultSecurityGroup spec.vpc, .ok id⟩ ∈ trace) := by
  unfold resolveSecurityGroups at run
  split_ifs at run with explicit
  · obtain ⟨_, first, later, rfl, _, _, ⟨⟩⟩ := runs_bind_ok run
    exact .inl ⟨explicit, rfl⟩
  refine .inr ⟨not_not.mp explicit, ?_⟩
  obtain ⟨id, first, later, rfl, resolved, _, ⟨⟩⟩ := runs_bind_ok run
  obtain ⟨_, client, rest, rfl, _, answer, last, rfl, ran⟩ :=
    runs_bind_ok (runs_mapError_ok resolved)
  obtain ⟨rfl, rfl⟩ := (runs_ofExcept_ok _ _ _).mp ran
  exact ⟨id, rfl, mem_append_left _ (mem_append_right _ (mem_singleton_self _))⟩

theorem validateImageAndAccess_runs {controller : Controller} {status : IBMNodeClassStatus}
    (run : Runs (validateImageAndAccess controller spec status) trace (.ok validation))
    (accepted : validation.verdict = .ok ()) : Computed spec trace validation.status := by
  obtain ⟨image, first, later, rfl, resolved, ended⟩ := runs_bind_ok run
  obtain ⟨_, imageRun, ⟨⟩⟩ := (runs_attempt_iff _ _ _).mp resolved
  cases image with
  | error error =>
    obtain ⟨_, ⟨⟩⟩ := ended
    cases accepted
  | ok id =>
    obtain ⟨groups, second, last, rfl, grouped, closed⟩ := runs_bind_ok ended
    obtain ⟨_, groupRun, ⟨⟩⟩ := (runs_attempt_iff _ _ _).mp grouped
    cases groups with
    | error error =>
      obtain ⟨_, ⟨⟩⟩ := closed
      cases accepted
    | ok ids =>
      obtain ⟨keys, third, rest, rfl, _, _, ⟨⟩⟩ := runs_bind_ok closed
      refine ⟨?_, ?_⟩
      · rcases validateImageConfiguration_runs (runs_mapError_ok imageRun) with
          ⟨named, here⟩ | ⟨blank, selector, selected, here⟩
        · exact .inl ⟨named, mem_append_left _ here⟩
        · exact .inr ⟨blank, selector, selected, mem_append_left _ here⟩
      rcases resolveSecurityGroups_runs groupRun with
        explicit | ⟨implicit, default, single, here⟩
      · exact .inl explicit
      · exact .inr ⟨implicit, default, single,
          mem_append_right _ (mem_append_left _ here)⟩

theorem Computed.mono {longer : List validating.Exchange} {status : IBMNodeClassStatus}
    (computed : Computed spec trace status) (inside : ∀ exchange ∈ trace, exchange ∈ longer) :
    Computed spec longer status := by
  refine ⟨?_, ?_⟩
  · rcases computed.image with ⟨named, here⟩ | ⟨blank, selector, selected, here⟩
    · exact .inl ⟨named, inside _ here⟩
    · exact .inr ⟨blank, selector, selected, inside _ here⟩
  rcases computed.groups with explicit | ⟨implicit, default, single, here⟩
  · exact .inl explicit
  · exact .inr ⟨implicit, default, single, inside _ here⟩

theorem validateNodeClass_computes {nodeClass : IBMNodeClass}
    (run : Runs (validateNodeClass .complete nodeClass) trace (.ok validation))
    (accepted : validation.verdict = .ok ()) : Computed nodeClass.spec trace validation.status := by
  unfold validateNodeClass at run
  split at run
  · obtain ⟨_, ⟨⟩⟩ := run
    cases accepted
  obtain ⟨resources, first, later, rfl, ran, ended⟩ := runs_bind_ok run
  split at ended
  · obtain ⟨_, ⟨⟩⟩ := ended
    cases accepted
  next passed =>
    obtain ⟨logic, second, last, rfl, _, _, ⟨⟩⟩ := runs_bind_ok ended
    rw [validateIBMCloudResources, if_neg (by decide)] at ran
    obtain ⟨network, front, rest, rfl, checked, resolved⟩ := runs_bind_ok ran
    cases network with
    | error error =>
      obtain ⟨_, ⟨⟩⟩ := resolved
      cases passed
    | ok _ =>
      refine (validateImageAndAccess_runs resolved passed).mono ?_
      intro exchange here
      exact mem_append_left _ (mem_append_right _ here)

theorem Computed.congr {status other : IBMNodeClassStatus} (computed : Computed spec trace status)
    (image : other.resolvedImageID = status.resolvedImageID)
    (groups : other.resolvedSecurityGroups = status.resolvedSecurityGroups) :
    Computed spec trace other := by
  refine ⟨?_, ?_⟩
  · rw [image]
    exact computed.image
  · rw [groups]
    exact computed.groups

end KarpenterIBM.NodeClassStatus
