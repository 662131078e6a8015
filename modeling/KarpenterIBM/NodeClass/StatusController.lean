import KarpenterIBM.NodeClass.Validation

/-!
# The status and autoplacement controllers

`Reconcile` of `pkg/controllers/nodeclass/status` and of
`pkg/controllers/nodeclass/autoplacement`.
-/

namespace KarpenterIBM.NodeClassStatus

open EffectProgram Errors Objects

/-- The result of a reconciliation: after how many milliseconds it is to run again, zero
when it is not asked to. -/
structure ReconcileResult where
  requeueAfter : Nat
deriving DecidableEq

def ReconcileResult.done : ReconcileResult := ⟨0⟩

def ReconcileResult.afterConflict : ReconcileResult := ⟨1⟩

def nodeClassStatusRefreshInterval : Nat := 24 * 60 * 60 * 1000

/-! ## Status -/

def readyType : String := "Ready"

/-- `meta.SetStatusCondition`: the condition of its type, or a new one. -/
def setStatusCondition (new : Condition) : List Condition → List Condition
  | [] => [new]
  | condition :: rest =>
    if condition.type = new.type then new :: rest
    else condition :: setStatusCondition new rest

def statusAfter (generation : Nat) (validation : Validation) : IBMNodeClassStatus :=
  match validation.verdict with
  | .error error =>
    { validation.status with
      validationError := error.text
      conditions := setStatusCondition
        ⟨readyType, .isFalse, generation, "ValidationFailed", error.text⟩
        validation.status.conditions }
  | .ok _ =>
    { validation.status with
      validationError := ""
      conditions := setStatusCondition
        ⟨readyType, .isTrue, generation, "Ready", "NodeClass is ready"⟩
        validation.status.conditions }

/-- `Reconcile` of the status controller after the NodeClass was read. -/
def reconcileStatusOf (controller : Controller) (nodeClass : IBMNodeClass) :
    Program ReconcileResult := do
  let validation ← validateNodeClass controller nodeClass
  let patched := { nodeClass with status := statusAfter nodeClass.generation validation }
  let outcome ← (.call (.patchStatus nodeClass patched) .pure : Program (Except GoError Unit))
  match outcome with
  | .ok _ => pure ⟨nodeClassStatusRefreshInterval⟩
  | .error error => if isKube .conflict error then pure .afterConflict else .fail error

/-- `client.IgnoreNotFound`. -/
def ignoreNotFound {S : Signature} (error : GoError) : Prog S GoError ReconcileResult :=
  if isKube .notFound error then pure .done else .fail error

/-- `Reconcile` of the status controller: a NodeClass that is not in the cache is read from
the API server. -/
def reconcileStatus (controller : Controller) : Program ReconcileResult := do
  let cached ← (.call .getCachedClass .pure : Program (Except GoError IBMNodeClass))
  match cached with
  | .ok nodeClass => reconcileStatusOf controller nodeClass
  | .error error =>
    if isKube .notFound error then do
      let read ← (.call .getClass .pure : Program (Except GoError IBMNodeClass))
      match read with
      | .ok nodeClass => reconcileStatusOf controller nodeClass
      | .error failure => ignoreNotFound failure
    else ignoreNotFound error

/-! ## Autoplacement -/

/-- The calls of the autoplacement controller.  The instance types are named; a patch
answers the NodeClass as it is then. -/
inductive PlacementCall where
  | getClass
  | filterInstanceTypes (requirements : InstanceTypeRequirements) (nodeClass : IBMNodeClass)
  | selectSubnets (vpcID : String) (strategy : PlacementStrategy)
  | patchStatus (stored patched : IBMNodeClass)

def PlacementCall.Answer : PlacementCall → Type
  | .getClass => Except GoError IBMNodeClass
  | .filterInstanceTypes _ _ => Except GoError (List String)
  | .selectSubnets _ _ => Except GoError (List SubnetInfo)
  | .patchStatus _ _ => Except GoError IBMNodeClass

abbrev placing : Signature := ⟨PlacementCall, PlacementCall.Answer⟩

abbrev Placement (α : Type) : Type := Prog placing GoError α

def conditionTypeAutoPlacement : String := "AutoPlacement"

/-- `updateCondition`: a condition that already has the status stays as it is. -/
def updateCondition (new : Condition) : List Condition → List Condition
  | [] => [new]
  | condition :: rest =>
    if condition.type = new.type then
      if condition.status ≠ new.status then new :: rest else condition :: rest
    else condition :: updateCondition new rest

def withPlacement (nodeClass : IBMNodeClass) (status : ConditionStatus)
    (reason message : String) : IBMNodeClass :=
  { nodeClass with
    status := { nodeClass.status with
      conditions := updateCondition
        ⟨conditionTypeAutoPlacement, status, nodeClass.generation, reason, message⟩
        nodeClass.status.conditions } }

inductive PlacementStep where
  | ended (result : ReconcileResult)
  | goesOn (nodeClass : IBMNodeClass)

def patchPlacement (lead : String) (stored patched : IBMNodeClass) : Placement PlacementStep := do
  let outcome ←
    (.call (.patchStatus stored patched) .pure : Placement (Except GoError IBMNodeClass))
  match outcome with
  | .ok nodeClass => pure (.goesOn nodeClass)
  | .error error =>
    if isKube .conflict error then pure (.ended .afterConflict)
    else .fail (.wrap lead error "")

def updatingStatus : String := "updating nodeclass status: "

def recordFailure (nodeClass : IBMNodeClass) (reason : String) (error : GoError) :
    Placement PlacementStep := do
  let step ← patchPlacement updatingStatus nodeClass
    (withPlacement nodeClass .isFalse reason error.text)
  match step with
  | .ended result => pure (.ended result)
  | .goesOn _ => .fail error

def selectInstanceTypes (nodeClass : IBMNodeClass) (requirements : InstanceTypeRequirements) :
    Placement PlacementStep := do
  let found ← (.call (.filterInstanceTypes requirements nodeClass) .pure :
    Placement (Except GoError (List String)))
  match found with
  | .error error => recordFailure nodeClass "InstanceTypeSelectionFailed" error
  | .ok names =>
    if names = [] then
      recordFailure nodeClass "InstanceTypeSelectionFailed"
        (.plain "no instance types found matching requirements")
    else
      patchPlacement updatingStatus nodeClass
        (withPlacement
          { nodeClass with status := { nodeClass.status with selectedInstanceTypes := names } }
          .isTrue "InstanceTypeSelectionSucceeded"
          "Instance type selection completed successfully")

def selectSubnets (nodeClass : IBMNodeClass) (strategy : PlacementStrategy) :
    Placement PlacementStep := do
  let found ← (.call (.selectSubnets nodeClass.spec.vpc strategy) .pure :
    Placement (Except GoError (List SubnetInfo)))
  match found with
  | .error error => recordFailure nodeClass "SubnetSelectionFailed" error
  | .ok subnets =>
    if subnets = [] then
      recordFailure nodeClass "SubnetSelectionFailed"
        (.plain "no subnets found matching placement strategy")
    else
      patchPlacement updatingStatus nodeClass
        (withPlacement
          { nodeClass with
            status := { nodeClass.status with selectedSubnets := subnets.map SubnetInfo.id } }
          .isTrue "SubnetSelectionSucceeded"
          ("Selected " ++ toString subnets.length ++ " subnets across " ++
            toString (subnets.map SubnetInfo.zone).dedup.length ++ " zones"))

def placeInstanceTypes (nodeClass : IBMNodeClass) : Placement PlacementStep :=
  match nodeClass.spec.instanceRequirements with
  | some requirements =>
    if nodeClass.spec.instanceProfile = "" then selectInstanceTypes nodeClass requirements
    else pure (.goesOn nodeClass)
  | none => pure (.goesOn nodeClass)

def clearSubnets (nodeClass : IBMNodeClass) : Placement PlacementStep :=
  if nodeClass.spec.subnet ≠ "" ∧ nodeClass.status.selectedSubnets ≠ [] then
    patchPlacement "clearing selectedSubnets: " nodeClass
      { nodeClass with status := { nodeClass.status with selectedSubnets := [] } }
  else pure (.goesOn nodeClass)

def placeSubnets (nodeClass : IBMNodeClass) : Placement PlacementStep :=
  match nodeClass.spec.placementStrategy with
  | some strategy =>
    if nodeClass.spec.subnet = "" then selectSubnets nodeClass strategy
    else clearSubnets nodeClass
  | none => clearSubnets nodeClass

/-- `Reconcile` of the autoplacement controller. -/
def reconcilePlacement : Placement ReconcileResult := do
  let read ← (.call .getClass .pure : Placement (Except GoError IBMNodeClass))
  match read with
  | .error error =>
    if isKube .notFound error then pure .done else .fail (.wrap "getting nodeclass: " error "")
  | .ok nodeClass => do
    let typed ← placeInstanceTypes nodeClass
    match typed with
    | .ended result => pure result
    | .goesOn updated => do
      let placed ← placeSubnets updated
      match placed with
      | .ended result => pure result
      | .goesOn _ => pure .done

end KarpenterIBM.NodeClassStatus
