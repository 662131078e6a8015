import KarpenterIBM.IKS.Allocation
import KarpenterIBM.VPC.Create

/-!
# CloudProvider.Create

The entry point of a launch: the claim is read again, a claim that was launched before is
resumed with its backend, any other one goes through the NodeClass, the instance types and the
circuit breaker.
-/

namespace KarpenterIBM.CloudProvider

open Calls EffectProgram Errors Objects Ownership
open VPCCreate (launchableOfferings)

/-! ## Provider modes -/

inductive ProviderMode where
  | iks
  | vpc
deriving DecidableEq

def ProviderMode.text : ProviderMode → String
  | .iks => "iks"
  | .vpc => "vpc"

def modeOf (text : String) : Option ProviderMode :=
  if text = ProviderMode.iks.text then some .iks
  else if text = ProviderMode.vpc.text then some .vpc
  else none

variable (platform : Platform)

def determineProviderMode (nodeClass : IBMNodeClass) : ProviderMode :=
  if nodeClass.spec.bootstrapMode = some "iks-api" then .iks
  else if nodeClass.spec.bootstrapMode = some "cloud-init" then .vpc
  else if nodeClass.spec.iksClusterID ≠ "" then .iks
  else if platform.configuredCluster ≠ "" then .iks
  else .vpc

/-! ## The NodeClaim that is returned -/

/-- The instance type the node was launched as. -/
def launchedType (node : Node) (compatible : List InstanceType) : Option InstanceType :=
  compatible.find? fun candidate =>
    decide (candidate.name = StringMap.read node.labels instanceTypeLabel)

def labelRequirement (launched : Option InstanceType) (labels : StringMap)
    (requirement : NodeSelectorRequirement) : StringMap :=
  let single :=
    match requirement.values with
    | [value] =>
      if StringMap.read labels requirement.key = "" then labels.insert requirement.key value
      else labels
    | _ => labels
  match launched with
  | some instanceType =>
    if requirement.key = instanceTypeLabel then single.insert requirement.key instanceType.name
    else single
  | none => single

def labelTypeRequirement (labels : StringMap) (requirement : NodeSelectorRequirement) : StringMap :=
  if platform.scheduling.len requirement = 1 then
    labels.insert requirement.key ((platform.scheduling.values requirement).headD "")
  else labels

def returnedLabels (claim : NodeClaim) (node : Node) (launched : Option InstanceType) :
    StringMap :=
  let required := claim.requirements.foldl (labelRequirement launched) (node.labels ∪ claim.labels)
  match launched with
  | some instanceType =>
    instanceType.requirements.foldl (labelTypeRequirement platform) required
  | none => required

def returnedAnnotations (node : Node) (launchClass : Option IBMNodeClass) :
    Except GoError ValueMap :=
  match launchClass with
  | some nodeClass =>
    if ValueMap.read node.annotations nodeClassHashAnnotation = .text "" then
      match platform.provisioningHash nodeClass.spec with
      | .ok hash =>
        .ok ((node.annotations.insert nodeClassHashAnnotation (.text hash)).insert
          nodeClassHashVersionAnnotation (.text nodeClassHashVersion))
      | .error error => .error error.val
    else .ok node.annotations
  | none => .ok node.annotations

def textOf (value : Value) : String := value.asText.getD ""

def nodeClaimForNode (claim : NodeClaim) (node : Node) (compatible : List InstanceType)
    (launchClass : Option IBMNodeClass) : Except GoError NodeClaim :=
  let launched := launchedType node compatible
  match returnedAnnotations platform node launchClass with
  | .error error => .error error
  | .ok annotations =>
    .ok { claim with
      labels := returnedLabels platform claim node launched
      annotations := annotations ∪ claim.annotations
      providerID := node.providerID
      imageID := textOf (ValueMap.read node.annotations imageIDAnnotation)
      nodeName := node.name
      capacity := launched.elim node.capacity InstanceType.capacity
      allocatable := launched.elim node.allocatable InstanceType.allocatable }

/-! ## Create -/

def storedClaim (nodeClaim : NodeClaim) : Program NodeClaim :=
  if nodeClaim.uid = "" then pure nodeClaim
  else do
    let current ← getClaim nodeClaim.name
    if current.uid ≠ nodeClaim.uid then failWith "NodeClaim UID changed during launch"
    else pure current

def getInstanceProvider : Program Unit :=
  .call .getInstanceProvider answered

/-- `GetInstanceProviderForMode` on a stored mode.  A checkpoint names no mode. -/
def providerForMode (stored : Value) : Program ProviderMode :=
  match stored.asText.bind modeOf with
  | none => failWith ("unknown provider mode: " ++ textOf stored)
  | some mode => do
    getInstanceProvider
    pure mode

def readyStatus (nodeClass : IBMNodeClass) : Condition :=
  (nodeClass.status.conditions.find? fun condition => decide (condition.type = "Ready")).getD
    ⟨"Ready", .isUnknown, 0, "", ""⟩

def checkReady (nodeClass : IBMNodeClass) : Except GoError Unit :=
  let ready := readyStatus nodeClass
  if ready.observedGeneration ≠ nodeClass.generation then
    .error (.plain ("NodeClass " ++ nodeClass.name ++ " validation is stale for generation " ++
      toString nodeClass.generation))
  else
    match ready.status with
    | .isTrue => .ok ()
    | .isFalse => .error (newNodeClassNotReadyError (.plain ready.message))
    | .isUnknown =>
      .error (.plain ("resolving NodeClass readiness, NodeClass is in Ready=Unknown, " ++
        ready.message))

def resolveNodeClass (claim : NodeClaim) : Program IBMNodeClass :=
  match claim.nodeClassRef with
  | none => failWith "runtime error: invalid memory address or nil pointer dereference"
  | some name => do
    match ← (getCachedNodeClass name).attempt with
    | .ok nodeClass => pure nodeClass
    | .error error =>
      if isKube .notFound error then
        .fail (newNodeClassNotReadyError (.wrap "resolving node class, " error ""))
      else .fail error

def isCompatible (claim : NodeClaim) (instanceType : InstanceType) : Bool :=
  platform.scheduling.compatible claim.requirements instanceType.requirements &&
    decide (launchableOfferings platform claim.requirements instanceType ≠ []) &&
    platform.scheduling.fits claim.requests instanceType.allocatable

def compatibleTypes (claim : NodeClaim) (nodeClass : IBMNodeClass) :
    Program (List InstanceType) := do
  if determineProviderMode platform nodeClass = .iks then pure []
  else do
    let instanceTypes ← wrapped "resolving instance types, "
      (.call (.listInstanceTypes nodeClass) answered)
    let compatible := instanceTypes.filter (isCompatible platform claim)
    if compatible = [] then
      .fail (newInsufficientCapacityError
        (.plain "all requested instance types were unavailable during launch"))
    else pure compatible

def pickCreateError : GoError → Option String
  | .createError _ _ reason _ => some reason
  | _ => none

def isPending (error : GoError) : Bool :=
  decide (errorsAs pickCreateError error = some "WorkerProvisioning")

def recordSuccess (nodeClass : IBMNodeClass) : Program Unit :=
  .call (.recordSuccess nodeClass.name nodeClass.spec.region) .pure

def recordFailure (nodeClass : IBMNodeClass) : Program Unit :=
  .call (.recordFailure nodeClass.name nodeClass.spec.region) .pure

def recordPending (nodeClass : IBMNodeClass) : Program Unit :=
  .call (.recordPending nodeClass.name nodeClass.spec.region) .pure

variable (launch : ProviderMode → NodeClaim → List InstanceType → Program Node)

def resumeCreate (claim : NodeClaim) (mode : Value) : Program NodeClaim := do
  let provider ← providerForMode mode
  let node ← launch provider claim []
  ofExcept (nodeClaimForNode platform claim node [] none)

def concludeCreate (claim : NodeClaim) (nodeClass : IBMNodeClass)
    (compatible : List InstanceType) : Except GoError Node → Program NodeClaim
  | .error error =>
    if isPending error then do
      recordPending nodeClass
      .fail error
    else do
      recordFailure nodeClass
      .fail (.wrap "creating instance, " error "")
  | .ok node => do
    recordSuccess nodeClass
    ofExcept (nodeClaimForNode platform claim node compatible (some nodeClass))

/-- The part of `Create` that holds a slot of the circuit breaker. -/
def admittedCreate (claim : NodeClaim) (nodeClass : IBMNodeClass)
    (compatible : List InstanceType) : Program NodeClaim := do
  match ← getInstanceProvider.attempt with
  | .error error => do
    recordFailure nodeClass
    .fail (.wrap "getting instance provider, " error "")
  | .ok _ => do
    let outcome ← (launch (determineProviderMode platform nodeClass) claim compatible).attempt
    concludeCreate platform claim nodeClass compatible outcome

def freshCreate (claim : NodeClaim) : Program NodeClaim := do
  let nodeClass ← resolveNodeClass claim
  ofExcept (checkReady nodeClass)
  let compatible ← compatibleTypes platform claim nodeClass
  wrapped "provisioning temporarily blocked by circuit breaker: "
    (.call (.canProvision nodeClass.name nodeClass.spec.region) answered)
  admittedCreate platform launch claim nodeClass compatible

/-- `CloudProvider.Create`. -/
def create (nodeClaim : NodeClaim) : Program NodeClaim := do
  let claim ← storedClaim nodeClaim
  let mode := ValueMap.read claim.annotations backendAnnotation
  if mode.isBlank then freshCreate platform launch claim
  else resumeCreate platform launch claim mode

/-! ## What a successful run is made of -/

/-- The calls `CloudProvider.Create` makes itself, outside of the launch. -/
def Administrative : Call → Prop
  | .getClaim _ => True
  | .getCachedNodeClass _ => True
  | .listInstanceTypes _ => True
  | .canProvision _ _ => True
  | .recordSuccess _ _ => True
  | .recordFailure _ _ => True
  | .recordPending _ _ => True
  | .getInstanceProvider => True
  | _ => False

abbrev Administers {α : Type} (program : Program α) : Prop :=
  Uses (S := calls) Administrative (fun _ => True) program

theorem administers_answered {α : Type} (answer : Except ApiError α) :
    Administers (answered answer) :=
  (uses_ofExcept _).mpr trivial

theorem administers_bind {α β : Type} {program : Program α} {next : α → Program β}
    (first : Administers program) (second : ∀ value, Administers (next value)) :
    Administers (program >>= next) :=
  Uses.bind first (fun value _ => second value) fun _ _ => trivial

theorem administers_attempt {α : Type} {program : Program α} (own : Administers program) :
    Administers program.attempt :=
  Uses.attempt own

theorem administers_storedClaim (nodeClass : NodeClaim) : Administers (storedClaim nodeClass) := by
  unfold storedClaim
  split
  · trivial
  · refine administers_bind ⟨trivial, administers_answered⟩ fun current => ?_
    split <;> trivial

theorem administers_getInstanceProvider : Administers getInstanceProvider :=
  ⟨trivial, administers_answered⟩

theorem administers_providerForMode (stored : Value) : Administers (providerForMode stored) := by
  unfold providerForMode
  split
  · trivial
  · exact administers_bind administers_getInstanceProvider fun _ => trivial

theorem administers_resolveNodeClass (claim : NodeClaim) :
    Administers (resolveNodeClass claim) := by
  unfold resolveNodeClass
  split
  · trivial
  refine administers_bind (administers_attempt ⟨trivial, administers_answered⟩) fun out => ?_
  cases out with
  | ok nodeClass => trivial
  | error error =>
    dsimp only
    split <;> trivial

theorem administers_compatibleTypes (claim : NodeClaim) (nodeClass : IBMNodeClass) :
    Administers (compatibleTypes platform claim nodeClass) := by
  unfold compatibleTypes
  split
  · trivial
  refine administers_bind (Uses.mapError _ ⟨trivial, administers_answered⟩) fun listed => ?_
  dsimp only
  split <;> trivial

variable {claim : NodeClaim} {trace : List calls.Exchange} {compatible : List InstanceType}

theorem isCompatible_of_compatibleTypes {nodeClass : IBMNodeClass}
    (run : Runs (compatibleTypes platform claim nodeClass) trace (.ok compatible)) :
    ∀ type ∈ compatible, isCompatible platform claim type = true := by
  unfold compatibleTypes at run
  split at run
  · cases run.2
    simp
  obtain ⟨listed, first, later, rfl, -, filtered⟩ := runs_bind_ok run
  dsimp only at filtered
  split at filtered
  · cases filtered.2
  cases filtered.2
  intro type mem
  exact (List.mem_filter.mp mem).2

/-- A run that returned `result`: a launch that gave `node`, with calls of
`CloudProvider.Create` itself around it. -/
structure Launches (trace : List calls.Exchange) (result claim : NodeClaim)
    (compatible : List InstanceType) (node : Node) : Prop where
  filtered : ∀ instanceType ∈ compatible, isCompatible platform claim instanceType = true
  around : ∃ mode before during after, trace = before ++ (during ++ after) ∧
    (∀ exchange ∈ before, Administrative exchange.1) ∧
    (∀ exchange ∈ after, Administrative exchange.1) ∧
    Runs (launch mode claim compatible) during (.ok node)
  returned : ∃ launchClass, nodeClaimForNode platform claim node compatible launchClass = .ok result

variable {platform launch} {result : NodeClaim}

theorem Launches.after_calls {before : List calls.Exchange} {node : Node}
    (launches : Launches platform launch trace result claim compatible node)
    (own : ∀ exchange ∈ before, Administrative exchange.1) :
    Launches platform launch (before ++ trace) result claim compatible node := by
  obtain ⟨mode, first, during, last, rfl, firstOwn, lastOwn, ran⟩ := launches.around
  refine ⟨launches.filtered, ⟨mode, before ++ first, during, last, ?_, ?_, lastOwn, ran⟩,
    launches.returned⟩
  · rw [List.append_assoc]
  · intro exchange mem
    exact (List.mem_append.mp mem).elim (own exchange) (firstOwn exchange)

theorem resumeCreate_launches {mode : Value}
    (run : Runs (resumeCreate platform launch claim mode) trace (.ok result)) :
    ∃ node, Launches platform launch trace result claim [] node := by
  obtain ⟨provider, first, _, rfl, asked, afterProvider⟩ := runs_bind_ok run
  obtain ⟨node, during, last, rfl, ran, ended⟩ := runs_bind_ok afterProvider
  obtain ⟨rfl, returned⟩ := (runs_ofExcept_ok _ _ _).mp ended
  refine ⟨node, by simp, ⟨provider, first, during, [], rfl, ?_, by simp, ran⟩, none, returned⟩
  intro exchange mem
  exact (administers_providerForMode mode).allowed_of_mem asked mem

theorem admittedCreate_launches {nodeClass : IBMNodeClass}
    (filtered : ∀ type ∈ compatible, isCompatible platform claim type = true)
    (run : Runs (admittedCreate platform launch claim nodeClass compatible) trace (.ok result)) :
    ∃ node, Launches platform launch trace result claim compatible node := by
  obtain ⟨provider, first, _, rfl, asked, afterProvider⟩ := runs_bind_ok run
  have own : ∀ exchange ∈ first, Administrative exchange.1 := fun exchange mem =>
    (administers_attempt administers_getInstanceProvider).allowed_of_mem asked mem
  cases provider with
  | error error =>
    obtain ⟨_, _, _, _, _, failed⟩ := runs_bind_ok afterProvider
    cases failed.2
  | ok _ =>
    obtain ⟨out, during, last, rfl, tried, afterLaunch⟩ := runs_bind_ok afterProvider
    obtain ⟨inner, ran, same⟩ := (runs_attempt_iff _ _ _).mp tried
    cases same
    cases out with
    | error error =>
      dsimp only [concludeCreate] at afterLaunch
      split at afterLaunch
      all_goals
        obtain ⟨_, _, _, _, _, failed⟩ := runs_bind_ok afterLaunch
        cases failed.2
    | ok node =>
      obtain ⟨_, _, _, rfl, ⟨_, _, rfl, rfl, _⟩, ended⟩ := runs_bind_ok afterLaunch
      obtain ⟨rfl, returned⟩ := (runs_ofExcept_ok _ _ _).mp ended
      refine ⟨node, filtered, ⟨_, first, during, _, rfl, own, ?_, ran⟩, _, returned⟩
      intro exchange mem
      simp only [List.append_nil, List.mem_singleton] at mem
      subst mem
      trivial

theorem freshCreate_launches (run : Runs (freshCreate platform launch claim) trace (.ok result)) :
    ∃ compatible node, Launches platform launch trace result claim compatible node := by
  obtain ⟨nodeClass, resolved, _, rfl, resolving, afterClass⟩ := runs_bind_ok run
  obtain ⟨_, checked, _, rfl, checking, afterCheck⟩ := runs_bind_ok afterClass
  obtain ⟨rfl, -⟩ := (runs_ofExcept_ok _ _ _).mp checking
  obtain ⟨compatible, listed, _, rfl, listing, afterTypes⟩ := runs_bind_ok afterCheck
  obtain ⟨_, admitted, _, rfl, admitting, afterBreaker⟩ := runs_bind_ok afterTypes
  obtain ⟨node, launches⟩ :=
    admittedCreate_launches (isCompatible_of_compatibleTypes platform listing) afterBreaker
  have asks : Administers (.call (.canProvision nodeClass.name nodeClass.spec.region) answered) :=
    ⟨trivial, administers_answered⟩
  have fromBreaker := launches.after_calls fun exchange mem =>
    asks.allowed_of_mem (runs_mapError_ok admitting) mem
  have fromTypes := fromBreaker.after_calls fun exchange mem =>
    (administers_compatibleTypes platform claim nodeClass).allowed_of_mem listing mem
  exact ⟨compatible, node, fromTypes.after_calls fun exchange mem =>
    (administers_resolveNodeClass claim).allowed_of_mem resolving mem⟩

/-- Every NodeClaim that `Create` returns comes from a launch. -/
theorem create_launches {nodeClass : NodeClaim}
    (run : Runs (create platform launch nodeClass) trace (.ok result)) :
    ∃ claim compatible node, Launches platform launch trace result claim compatible node := by
  obtain ⟨claim, read, _, rfl, reading, afterRead⟩ := runs_bind_ok run
  have own : ∀ exchange ∈ read, Administrative exchange.1 := fun exchange mem =>
    (administers_storedClaim nodeClass).allowed_of_mem reading mem
  dsimp only at afterRead
  split at afterRead
  · obtain ⟨compatible, node, launches⟩ := freshCreate_launches afterRead
    exact ⟨claim, compatible, node, launches.after_calls own⟩
  · obtain ⟨node, launches⟩ := resumeCreate_launches afterRead
    exact ⟨claim, [], node, launches.after_calls own⟩

end KarpenterIBM.CloudProvider
