import KarpenterIBM.Lib.Interleaving
import KarpenterIBM.NodeClass.HashController
import KarpenterIBM.NodeClass.StatusController
import KarpenterIBM.NodeClass.ValidationCalls

/-!
# The controllers of one NodeClass

The status, autoplacement and hash controllers and the user share one NodeClass in the API
server.
-/

namespace KarpenterIBM.NodeClassStatus

open ClassHash (HashCall Hashing Codec hashCalls)
open EffectProgram Errors List Objects

abbrev controllers : Signature :=
  (validating.sum placing).sum (hashCalls IBMNodeClassSpec)

/-! ## The API server -/

/-- The NodeClass, all versions it had, and what each process has exchanged while
validating. -/
structure Store where
  current : IBMNodeClass
  versions : List IBMNodeClass
  log : Nat → List validating.Exchange

variable (store : Store)

def Store.put (nodeClass : IBMNodeClass) (version : Nat) : Store :=
  { store with
    current := { nodeClass with resourceVersion := version }
    versions := { nodeClass with resourceVersion := version } :: store.versions }

def Store.record (pid : Nat) (exchange : validating.Exchange) : Store :=
  { store with log := Function.update store.log pid (store.log pid ++ [exchange]) }

def merged {α : Type} [DecidableEq α] (stored patched current : α) : α :=
  if stored = patched then current else patched

theorem merged_self {α : Type} [DecidableEq α] (stored patched : α) :
    merged stored patched stored = patched := by
  unfold merged
  split_ifs with same
  · exact same
  · rfl

def mergeStatus (stored patched current : IBMNodeClassStatus) : IBMNodeClassStatus where
  validationError := merged stored.validationError patched.validationError current.validationError
  selectedInstanceTypes := merged stored.selectedInstanceTypes patched.selectedInstanceTypes
    current.selectedInstanceTypes
  selectedSubnets := merged stored.selectedSubnets patched.selectedSubnets current.selectedSubnets
  resolvedSecurityGroups := merged stored.resolvedSecurityGroups patched.resolvedSecurityGroups
    current.resolvedSecurityGroups
  resolvedImageID := merged stored.resolvedImageID patched.resolvedImageID current.resolvedImageID
  conditions := merged stored.conditions patched.conditions current.conditions

theorem mergeStatus_self (stored patched : IBMNodeClassStatus) :
    mergeStatus stored patched stored = patched := by
  simp only [mergeStatus, merged_self]

inductive Store.PatchesStatus (store : Store) (stored patched : IBMNodeClass) : Store → Prop where
  | written (unlocked : stored.resourceVersion = store.current.resourceVersion) (version : Nat)
      (fresh : store.current.resourceVersion < version) :
      PatchesStatus store stored patched
        (store.put { store.current with
          status := mergeStatus stored.status patched.status store.current.status } version)
  | unchanged (unlocked : stored.resourceVersion = store.current.resourceVersion)
      (same : mergeStatus stored.status patched.status store.current.status =
        store.current.status) :
      PatchesStatus store stored patched store

def Store.edit (spec : IBMNodeClassSpec) (annotations : StringMap) (version : Nat) : Store :=
  store.put { store.current with
    spec := spec
    annotations := annotations
    generation := if spec = store.current.spec then store.current.generation
      else store.current.generation + 1 } version

inductive Store.Edits (store : Store) : Store → Prop where
  | edited (spec : IBMNodeClassSpec) (annotations : StringMap) (version : Nat)
      (fresh : store.current.resourceVersion < version) :
      Edits store (store.edit spec annotations version)

def Store.AnswersStatus : (op : Call) → op.Answer → Store → Prop
  | .getCachedClass, answer, served =>
    served = store ∧ ∀ nodeClass, answer = .ok nodeClass → nodeClass ∈ store.versions
  | .getClass, answer, served =>
    served = store ∧ ∀ nodeClass, answer = .ok nodeClass → nodeClass = store.current
  | .patchStatus stored patched, answer, served =>
    store.PatchesStatus stored patched served ∨
      (served = store ∧ ∃ error, answer = .error error)
  | _, _, served => served = store

def Store.AnswersPlacement : (op : PlacementCall) → op.Answer → Store → Prop
  | .getClass, answer, served =>
    served = store ∧ ∀ nodeClass, answer = .ok nodeClass → nodeClass ∈ store.versions
  | .patchStatus stored patched, answer, served =>
    (store.PatchesStatus stored patched served ∧
      ∀ nodeClass, answer = .ok nodeClass → nodeClass = served.current) ∨
    (served = store ∧ ∃ error, answer = .error error)
  | _, _, served => served = store

def Store.AnswersHash :
    (op : HashCall IBMNodeClassSpec) → op.Answer → Store → Prop
  | .getClass, answer, served =>
    served = store ∧ ∀ nodeClass, answer = .ok nodeClass →
      nodeClass.name = store.current.name ∧ nodeClass.annotations = store.current.annotations ∧
        nodeClass.spec = store.current.spec ∧
        nodeClass.resourceVersion = store.current.resourceVersion
  | .patchClass stored patched, answer, served =>
    (stored.resourceVersion = store.current.resourceVersion ∧
      ∃ version, store.current.resourceVersion < version ∧
        served = store.edit (merged stored.spec patched.spec store.current.spec)
          (merged stored.annotations patched.annotations store.current.annotations) version) ∨
    (served = store ∧ ((∃ error, answer = .error error) ∨
      (merged stored.spec patched.spec store.current.spec = store.current.spec ∧
        merged stored.annotations patched.annotations store.current.annotations =
          store.current.annotations)))
  | _, _, served => served = store

def Store.Answers (pid : Nat) : (op : controllers.Op) → controllers.Res op →
    Store → Prop
  | .inl (.inl op), answer, served =>
    ∃ written, store.AnswersStatus op answer written ∧ served = written.record pid ⟨op, answer⟩
  | .inl (.inr op), answer, served => store.AnswersPlacement op answer served
  | .inr op, answer, served => store.AnswersHash op answer served

structure Store.Created (store : Store) : Prop where
  versions : store.versions = [store.current]
  conditions : store.current.status.conditions = []

def finished {S : Signature} {α : Type} (program : Prog S GoError α) : Prog S GoError Unit := do
  let _ ← program
  pure ()

inductive Spawns (hashing : Hashing IBMNodeClassSpec) (codec : Codec) :
    Prog controllers GoError Unit → Prop where
  | status : Spawns hashing codec
      (((finished (reconcileStatus .complete)).onLeft placing).onLeft _)
  | placement : Spawns hashing codec (((finished reconcilePlacement).onRight validating).onLeft _)
  | hash : Spawns hashing codec ((ClassHash.reconcile hashing codec).onRight _)

/-- The three controllers and the edits of the user on one NodeClass. -/
def classSystem (hashing : Hashing IBMNodeClassSpec) (codec : Codec) :
    System controllers GoError where
  World := Store
  initial := Store.Created
  spawns := Spawns hashing codec
  answers := Store.Answers
  crash := fun store _ => store
  environment := Store.Edits

/-! ## What a process knows -/

structure Progress where
  copy : Option IBMNodeClass
  trace : List validating.Exchange

structure Places (stored patched : IBMNodeClassStatus) : Prop where
  image : patched.resolvedImageID = stored.resolvedImageID
  groups : patched.resolvedSecurityGroups = stored.resolvedSecurityGroups
  types : (stored.conditions.map Condition.type).Nodup →
    (patched.conditions.map Condition.type).Nodup
  ready : ∀ condition ∈ patched.conditions, condition.type = readyType →
    condition ∈ stored.conditions

def Progress.Permits (progress : Progress) : controllers.Op → Prop
  | .inl (.inl (.patchStatus stored patched)) =>
    progress.copy = some stored ∧ ∃ validation,
      Runs (validateNodeClass .complete stored) progress.trace (.ok validation) ∧
        patched.status = statusAfter stored.generation validation
  | .inl (.inr (.patchStatus stored patched)) =>
    progress.copy = some stored ∧ Places stored.status patched.status
  | _ => True

def Progress.next (progress : Progress) : (op : controllers.Op) → controllers.Res op → Progress
  | .inl (.inl .getCachedClass), .ok nodeClass => ⟨some nodeClass, []⟩
  | .inl (.inl .getClass), .ok nodeClass => ⟨some nodeClass, []⟩
  | .inl (.inl op), answer => ⟨progress.copy, progress.trace ++ [⟨op, answer⟩]⟩
  | .inl (.inr .getClass), .ok nodeClass => ⟨some nodeClass, progress.trace⟩
  | .inl (.inr (.patchStatus _ _)), .ok nodeClass => ⟨some nodeClass, progress.trace⟩
  | _, _ => progress

def classProtocol : Protocol controllers where
  Phase := Progress
  permits := Progress.Permits
  next := Progress.next

/-! ## Conditions -/

theorem setStatusCondition_types (new : Condition) (conditions : List Condition) :
    (setStatusCondition new conditions).map Condition.type =
      if new.type ∈ conditions.map Condition.type then conditions.map Condition.type
      else conditions.map Condition.type ++ [new.type] := by
  induction conditions with
  | nil => rfl
  | cons condition rest ih =>
    unfold setStatusCondition
    by_cases same : condition.type = new.type
    · simp [same]
    have other : ¬new.type = condition.type := fun equal => same equal.symm
    rw [if_neg same, map_cons, ih]
    by_cases found : new.type ∈ rest.map Condition.type
    · simp [found]
    · simp [found, other]

variable {conditions : List Condition}

variable {new : Condition}

theorem nodup_types_of_eq {updated : List Condition} (types : updated.map Condition.type =
      if new.type ∈ conditions.map Condition.type then conditions.map Condition.type
      else conditions.map Condition.type ++ [new.type])
    (nodup : (conditions.map Condition.type).Nodup) : (updated.map Condition.type).Nodup := by
  rw [types]
  split_ifs with found
  · exact nodup
  rw [nodup_append]
  refine ⟨nodup, nodup_singleton _, ?_⟩
  intro first mem second last
  rw [mem_singleton.mp last]
  rintro rfl
  exact found mem

theorem mem_setStatusCondition {condition : Condition}
    (nodup : (conditions.map Condition.type).Nodup)
    (mem : condition ∈ setStatusCondition new conditions) (same : condition.type = new.type) :
    condition = new := by
  induction conditions with
  | nil => exact mem_singleton.mp mem
  | cons head rest ih =>
    obtain ⟨absent, nodupRest⟩ := nodup_cons.mp nodup
    unfold setStatusCondition at mem
    by_cases here : head.type = new.type
    · rw [if_pos here] at mem
      rcases mem_cons.mp mem with first | later
      · exact first
      · exact absurd (mem_map.mpr ⟨condition, later, same.trans here.symm⟩) absent
    rw [if_neg here] at mem
    rcases mem_cons.mp mem with rfl | later
    · exact absurd same here
    · exact ih nodupRest later

theorem self_mem_setStatusCondition (new : Condition) (conditions : List Condition) :
    new ∈ setStatusCondition new conditions := by
  induction conditions with
  | nil => exact mem_singleton_self _
  | cons condition rest ih =>
    unfold setStatusCondition
    split_ifs
    · exact mem_cons_self ..
    · exact mem_cons_of_mem _ ih

theorem updateCondition_types (new : Condition) (conditions : List Condition) :
    (updateCondition new conditions).map Condition.type =
      if new.type ∈ conditions.map Condition.type then conditions.map Condition.type
      else conditions.map Condition.type ++ [new.type] := by
  induction conditions with
  | nil => rfl
  | cons condition rest ih =>
    unfold updateCondition
    by_cases same : condition.type = new.type
    · rw [if_pos same]
      split_ifs <;> simp_all
    have other : ¬new.type = condition.type := fun equal => same equal.symm
    rw [if_neg same, map_cons, ih]
    by_cases found : new.type ∈ rest.map Condition.type
    · simp [found]
    · simp [found, other]

theorem mem_updateCondition {condition : Condition}
    (mem : condition ∈ updateCondition new conditions)
    (other : condition.type ≠ new.type) : condition ∈ conditions := by
  induction conditions with
  | nil =>
    rw [mem_singleton.mp mem] at other
    exact absurd rfl other
  | cons head rest ih =>
    unfold updateCondition at mem
    split_ifs at mem with here changed
    · rcases mem_cons.mp mem with rfl | later
      · exact absurd rfl other
      · exact mem_cons_of_mem _ later
    · exact mem
    rcases mem_cons.mp mem with rfl | later
    · exact mem_cons_self ..
    · exact mem_cons_of_mem _ (ih later)

variable {nodeClass : IBMNodeClass}

theorem places_withPlacement {stored : IBMNodeClass}
    (image : nodeClass.status.resolvedImageID = stored.status.resolvedImageID)
    (groups : nodeClass.status.resolvedSecurityGroups = stored.status.resolvedSecurityGroups)
    (conditions : nodeClass.status.conditions = stored.status.conditions) (status : ConditionStatus)
    (reason message : String) :
    Places stored.status (withPlacement nodeClass status reason message).status := by
  refine ⟨image, groups, ?_, ?_⟩
  · intro nodup
    refine nodup_types_of_eq (updateCondition_types _ _) ?_
    rw [conditions]
    exact nodup
  intro condition mem ready
  rw [← conditions]
  refine mem_updateCondition mem ?_
  rw [ready]
  exact (by decide : readyType ≠ conditionTypeAutoPlacement)

/-! ## The controllers keep to it -/

theorem checks_recorded (nodeClass : IBMNodeClass) (trace : List validating.Exchange) (op : Call)
    (checks : Checks op) :
    classProtocol.left.left.permits ⟨some nodeClass, trace⟩ op ∧
      ∀ answer, classProtocol.left.left.next ⟨some nodeClass, trace⟩ op answer =
        ⟨some nodeClass, trace ++ [⟨op, answer⟩]⟩ := by
  cases op with
  | getCachedClass | getClass | patchStatus stored patched => exact checks.elim
  | _ => exact ⟨trivial, fun _ => rfl⟩

theorem reconcileStatusOf_follows (nodeClass : IBMNodeClass) :
    Follows classProtocol.left.left (fun _ _ => True) ⟨some nodeClass, []⟩
      (reconcileStatusOf .complete nodeClass) := by
  refine Follows.bind ((validateNodeClass_checks .complete nodeClass).follows_runs
    (P := classProtocol.left.left) (fun trace => ⟨some nodeClass, trace⟩)
    (checks_recorded nodeClass) []) ?_ fun _ _ _ => trivial
  rintro check _ ⟨segment, run, rfl⟩
  refine follows_perform ⟨rfl, check, run, rfl⟩ fun answer => ?_
  cases answer with
  | ok _ => exact trivial
  | error error =>
    dsimp only
    split_ifs
    · exact trivial
    · exact trivial

theorem ignoreNotFound_follows {S : Signature} {P : Protocol S} (phase : P.Phase)
    (error : GoError) : Follows P (fun _ _ => True) phase (ignoreNotFound error) := by
  unfold ignoreNotFound
  split_ifs
  · exact trivial
  · exact trivial

theorem reconcileStatus_follows (progress : Progress) :
    Follows classProtocol.left.left (fun _ _ => True) progress (reconcileStatus .complete) := by
  refine follows_perform trivial fun cached => ?_
  cases cached with
  | ok nodeClass => exact reconcileStatusOf_follows nodeClass
  | error error =>
    dsimp only
    split_ifs
    · refine follows_perform trivial fun read => ?_
      cases read with
      | ok nodeClass => exact reconcileStatusOf_follows nodeClass
      | error failure => exact ignoreNotFound_follows _ failure
    · exact ignoreNotFound_follows _ error

def Continues (outcome : Except GoError PlacementStep) (final : Progress) : Prop :=
  ∀ nodeClass, outcome = .ok (.goesOn nodeClass) → final.copy = some nodeClass

variable {progress : Progress}

theorem patchPlacement_follows {stored patched : IBMNodeClass}
    (copied : progress.copy = some stored) (places : Places stored.status patched.status)
    (lead : String) :
    Follows classProtocol.left.right Continues progress (patchPlacement lead stored patched) := by
  refine follows_perform ⟨copied, places⟩ fun answer => ?_
  cases answer with
  | ok nodeClass =>
    rintro _ ⟨⟩
    rfl
  | error error =>
    dsimp only
    split_ifs
    · rintro _ ⟨⟩
    · rintro _ ⟨⟩

section
variable (copied : progress.copy = some nodeClass)

include copied

theorem recordFailure_follows (reason : String) (error : GoError) :
    Follows classProtocol.left.right Continues progress (recordFailure nodeClass reason error) := by
  refine Follows.bind (patchPlacement_follows copied
    (places_withPlacement rfl rfl rfl _ _ _) _) ?_ ?_
  · rintro step final _
    cases step with
    | ended result | goesOn updated => rintro _ ⟨⟩
  · rintro failure final _ _ ⟨⟩

theorem selectInstanceTypes_follows (requirements : InstanceTypeRequirements) :
    Follows classProtocol.left.right Continues progress
      (selectInstanceTypes nodeClass requirements) := by
  refine follows_perform trivial fun found => ?_
  cases found with
  | error error => exact recordFailure_follows copied _ _
  | ok names =>
    dsimp only
    split_ifs
    · exact recordFailure_follows copied _ _
    refine patchPlacement_follows copied ?_ _
    apply places_withPlacement
    · rfl
    · rfl
    · rfl

theorem selectSubnets_follows (strategy : PlacementStrategy) :
    Follows classProtocol.left.right Continues progress (selectSubnets nodeClass strategy) := by
  refine follows_perform trivial fun found => ?_
  cases found with
  | error error => exact recordFailure_follows copied _ _
  | ok subnets =>
    dsimp only
    split_ifs
    · exact recordFailure_follows copied _ _
    refine patchPlacement_follows copied ?_ _
    apply places_withPlacement
    · rfl
    · rfl
    · rfl

theorem goesOn_follows : Follows classProtocol.left.right Continues progress
      (pure (.goesOn nodeClass) : Placement PlacementStep) := by
  rintro _ ⟨⟩
  exact copied

theorem placeInstanceTypes_follows :
    Follows classProtocol.left.right Continues progress (placeInstanceTypes nodeClass) := by
  unfold placeInstanceTypes
  split
  · split_ifs
    · exact selectInstanceTypes_follows copied _
    · exact goesOn_follows copied
  · exact goesOn_follows copied

theorem clearSubnets_follows :
    Follows classProtocol.left.right Continues progress (clearSubnets nodeClass) := by
  unfold clearSubnets
  split_ifs
  · refine patchPlacement_follows copied ?_ _
    exact ⟨rfl, rfl, id, fun _ mem _ => mem⟩
  · exact goesOn_follows copied

theorem placeSubnets_follows :
    Follows classProtocol.left.right Continues progress (placeSubnets nodeClass) := by
  unfold placeSubnets
  split
  · split_ifs
    · exact selectSubnets_follows copied _
    · exact clearSubnets_follows copied
  · exact clearSubnets_follows copied

end

theorem reconcilePlacement_follows (progress : Progress) :
    Follows classProtocol.left.right (fun _ _ => True) progress reconcilePlacement := by
  refine follows_perform trivial fun read => ?_
  cases read with
  | error error =>
    dsimp only
    split_ifs
    · exact trivial
    · exact trivial
  | ok nodeClass =>
    refine Follows.bind (placeInstanceTypes_follows rfl) ?_ fun _ _ _ => trivial
    rintro typed final goes
    cases typed with
    | ended result => exact trivial
    | goesOn updated =>
      refine Follows.bind (placeSubnets_follows (goes updated rfl)) ?_ fun _ _ _ => trivial
      rintro placed last _
      cases placed with
      | ended result | goesOn _ => exact trivial

theorem follows_finished {S : Signature} {P : Protocol S} {α : Type} {phase : P.Phase}
    {program : Prog S GoError α} (follows : Follows P (fun _ _ => True) phase program) :
    Follows P (fun _ _ => True) phase (finished program) :=
  Follows.bind follows (fun _ _ _ => trivial) fun _ _ _ => trivial

theorem spawns_follow {hashing : Hashing IBMNodeClassSpec} {codec : Codec}
    {program : Prog controllers GoError Unit} (spawned : Spawns hashing codec program)
    (progress : Progress) :
    Follows classProtocol (fun _ _ => True) progress program := by
  cases spawned with
  | status => exact follows_onLeft (follows_onLeft (follows_finished (reconcileStatus_follows _)))
  | placement =>
    exact follows_onLeft (follows_onRight (follows_finished (reconcilePlacement_follows _)))
  | hash => exact follows_onRight (follows_of_free (fun _ _ => trivial) _ _)

end KarpenterIBM.NodeClassStatus
