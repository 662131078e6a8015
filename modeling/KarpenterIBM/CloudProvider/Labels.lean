import KarpenterIBM.CloudProvider.Create

/-!
# The labels of a launched NodeClaim against its own requirements

`nodeClaimForNode` merges labels from the claim, the node, the requirements and the instance
type. The values of the node and of a compatible type are allowed by the requirements.
-/

namespace KarpenterIBM.LaunchedLabels

open Calls CloudProvider EffectProgram KeyedMap List Objects Ownership Text

/-! ## What a requirement allows -/

def boundOf (requirement : NodeSelectorRequirement) : Int :=
  (atoi (requirement.values.headD "")).getD 0

def comparesTo (value : String) (holds : Int → Bool) : Bool :=
  (atoi value).any holds

/-- `Requirement.Has` of one requirement. -/
def allows (requirement : NodeSelectorRequirement) (value : String) : Bool :=
  match requirement.operator with
  | .In => decide (value ∈ requirement.values)
  | .NotIn => decide (value ∉ requirement.values)
  | .Exists => true
  | .DoesNotExist => false
  | .Gt => comparesTo value fun number => decide (boundOf requirement < number)
  | .Lt => comparesTo value fun number => decide (number < boundOf requirement)
  | .Gte => comparesTo value fun number => decide (boundOf requirement ≤ number)
  | .Lte => comparesTo value fun number => decide (number ≤ boundOf requirement)

/-- Every label on a required key has a value that the requirement allows. -/
def LabelsAllowed (requirements : List NodeSelectorRequirement) (labels : StringMap) : Prop :=
  ∀ requirement ∈ requirements, ∀ value, labels.lookup requirement.key = some value →
    allows requirement value = true

/-- `Requirements.Compatible`: the single value of a compatible type's requirement is in
every requirement of the claim on that key. -/
def CompatibleSound (scheduling : Scheduling) : Prop :=
  ∀ requirements offered, scheduling.compatible requirements offered = true →
    ∀ single ∈ offered, scheduling.len single = 1 →
      ∀ requirement ∈ requirements, requirement.key = single.key →
        allows requirement ((scheduling.values single).headD "") = true

/-! ## The claim's own side -/

section
variable (platform : Platform) (claim : NodeClaim) (node : Node)
  (launched : Option InstanceType) (key : String)

def fixes : Bool :=
  launched.any fun instanceType => instanceType.requirements.any fun requirement =>
    decide (requirement.key = key) && decide (platform.scheduling.len requirement = 1)

def singleValue (requirement : NodeSelectorRequirement) : Option String :=
  match requirement.values with
  | [value] => if requirement.key = key then some value else none
  | _ => none

/-- The values the claim has for a key: its label, unless the node has one, and then
the single values of its requirements. -/
def ownValues : List String :=
  (if key ∈ node.labels then [] else (claim.labels.lookup key).toList) ++
    claim.requirements.filterMap (singleValue key)

def firstFilled (values : List String) : Option String :=
  (values.find? fun value => decide (value ≠ "")).or values.head?

def ownLabel : Option String :=
  if StringMap.read node.labels key ≠ "" then none
  else if launched.isSome ∧ key = instanceTypeLabel then
    -- the type was found under the missing label, so its name is empty
    if key ∈ node.labels then none else some ""
  else firstFilled (ownValues claim node key)

/-- What the claim's own side gives is allowed, on every required key that the launched
type does not fix. -/
def OwnLabelsAllowed : Prop :=
  ∀ requirement ∈ claim.requirements, fixes platform launched requirement.key = false →
    ∀ value, ownLabel claim node launched requirement.key = some value →
      allows requirement value = true

end

/-! ## The loops, one key at a time -/

section
variable (platform : Platform) {launched : Option InstanceType} {key : String}

def requireAt (launched : Option InstanceType) (key : String) (current : Option String)
    (requirement : NodeSelectorRequirement) : Option String :=
  if requirement.key = key then
    let single :=
      match requirement.values with
      | [value] => if current.getD "" = "" then some value else current
      | _ => current
    match launched with
    | some instanceType => if key = instanceTypeLabel then some instanceType.name else single
    | none => single
  else current

theorem lookup_insert_ite (labels : StringMap) (key other value : String) :
    (labels.insert other value).lookup key =
      if other = key then some value else labels.lookup key := by
  by_cases same : other = key
  · subst same
    rw [if_pos rfl, Finmap.lookup_insert]
  · rw [if_neg same, Finmap.lookup_insert_of_ne _ (Ne.symm same)]

theorem lookup_labelRequirement (labels : StringMap) (requirement : NodeSelectorRequirement) :
    (labelRequirement launched labels requirement).lookup key =
      requireAt launched key (labels.lookup key) requirement := by
  unfold labelRequirement requireAt
  by_cases same : requirement.key = key
  · subst same
    rw [if_pos rfl]
    rcases requirement with ⟨name, operator, _ | ⟨value, _ | ⟨second, rest⟩⟩⟩ <;>
      cases launched <;> simp only [StringMap.read] <;> split_ifs <;>
      simp_all [lookup_insert_ite]
  · rw [if_neg same]
    rcases requirement with ⟨name, operator, _ | ⟨value, _ | ⟨second, rest⟩⟩⟩ <;>
      cases launched <;> dsimp only <;> split_ifs <;> simp_all [lookup_insert_ite]

def requireTypeAt (key : String) (current : Option String)
    (requirement : NodeSelectorRequirement) : Option String :=
  if requirement.key = key ∧ platform.scheduling.len requirement = 1 then
    some ((platform.scheduling.values requirement).headD "")
  else current

theorem lookup_labelTypeRequirement (labels : StringMap) (requirement : NodeSelectorRequirement) :
    (labelTypeRequirement platform labels requirement).lookup key =
      requireTypeAt platform key (labels.lookup key) requirement := by
  unfold labelTypeRequirement requireTypeAt
  split_ifs <;> simp_all [lookup_insert_ite]

theorem foldl_requireTypeAt_of_free (requirements : List NodeSelectorRequirement)
    (current : Option String)
    (free : ∀ requirement ∈ requirements,
      ¬ (requirement.key = key ∧ platform.scheduling.len requirement = 1)) :
    requirements.foldl (requireTypeAt platform key) current = current := by
  induction requirements with
  | nil => rfl
  | cons requirement rest ih =>
    rw [foldl_cons, requireTypeAt, if_neg (free requirement (by simp))]
    exact ih fun other mem => free other (mem_cons_of_mem _ mem)

theorem foldl_requireTypeAt_of_fixed (requirements : List NodeSelectorRequirement)
    (current : Option String)
    (fixed : ∃ requirement ∈ requirements,
      requirement.key = key ∧ platform.scheduling.len requirement = 1) :
    ∃ requirement ∈ requirements, requirement.key = key ∧ platform.scheduling.len requirement = 1 ∧
      requirements.foldl (requireTypeAt platform key) current =
        some ((platform.scheduling.values requirement).headD "") := by
  induction requirements generalizing current with
  | nil => simp at fixed
  | cons requirement rest ih =>
    rw [foldl_cons]
    by_cases later : ∃ other ∈ rest, other.key = key ∧ platform.scheduling.len other = 1
    · obtain ⟨other, member, onKey, single, value⟩ := ih _ later
      exact ⟨other, mem_cons_of_mem _ member, onKey, single, value⟩
    -- the head is the only one, so the rest keeps what it wrote
    obtain ⟨chosen, member, onKey, single⟩ := fixed
    rcases mem_cons.mp member with rfl | member
    · refine ⟨chosen, by simp, onKey, single, ?_⟩
      rw [requireTypeAt, if_pos ⟨onKey, single⟩]
      exact foldl_requireTypeAt_of_free platform rest _ fun other inRest holds =>
        later ⟨other, inRest, holds⟩
    · exact absurd ⟨chosen, member, onKey, single⟩ later

theorem firstFilled_of_filled {value : String} (filled : value ≠ "") (values : List String) :
    firstFilled (value :: values) = some value := by
  simp [firstFilled, filled]

theorem firstFilled_of_blank (value : String) (values : List String) :
    firstFilled ("" :: value :: values) = firstFilled (value :: values) := by
  by_cases filled : value = ""
  · simp [firstFilled, filled]
  · rw [firstFilled_of_filled filled]
    simp [firstFilled, filled]

theorem firstFilled_round (current : Option String) (value : String) (values : List String) :
    firstFilled ((if current.getD "" = "" then some value else current).toList ++ values) =
      firstFilled (current.toList ++ value :: values) := by
  cases current with
  | none => rfl
  | some old =>
    by_cases blank : old = ""
    · subst blank
      exact (firstFilled_of_blank value values).symm
    · rw [Option.getD_some, if_neg blank]
      exact (firstFilled_of_filled blank _).trans (firstFilled_of_filled blank _).symm

theorem foldl_requireAt_of_open (apart : ¬ (launched.isSome ∧ key = instanceTypeLabel))
    (requirements : List NodeSelectorRequirement) (current : Option String) :
    requirements.foldl (requireAt launched key) current =
      firstFilled (current.toList ++ requirements.filterMap (singleValue key)) := by
  induction requirements generalizing current with
  | nil =>
    cases current with
    | none => rfl
    | some value => by_cases filled : value = "" <;> simp [firstFilled, filled]
  | cons requirement rest ih =>
    rw [foldl_cons, ih, filterMap_cons]
    have step : requireAt launched key current requirement =
        (singleValue key requirement).elim current fun value =>
          if current.getD "" = "" then some value else current := by
      unfold requireAt singleValue
      rcases requirement with ⟨name, operator, _ | ⟨value, _ | ⟨second, more⟩⟩⟩ <;>
        cases launched <;> simp_all <;> split_ifs <;> simp_all
    rw [step]
    cases singleValue key requirement with
    | none => rfl
    | some value => exact firstFilled_round current value _

theorem foldl_requireAt_of_type {type : InstanceType}
    (requirements : List NodeSelectorRequirement) (current : Option String)
    (required : ∃ requirement ∈ requirements, requirement.key = instanceTypeLabel) :
    requirements.foldl (requireAt (some type) instanceTypeLabel) current = some type.name := by
  induction requirements using List.reverseRecOn with
  | nil => simp at required
  | append_singleton before last ih =>
    rw [foldl_append, foldl_cons, foldl_nil]
    by_cases here : last.key = instanceTypeLabel
    · simp [requireAt, here]
    obtain ⟨requirement, member, onKey⟩ := required
    have earlier : requirement ∈ before := by
      rcases mem_append.mp member with member | member
      · exact member
      · rw [mem_singleton] at member
        exact absurd (member ▸ onKey) here
    rw [requireAt, if_neg here]
    exact ih ⟨requirement, earlier, onKey⟩

end

/-! ## The label of a required key -/

section
variable {platform : Platform} {claim : NodeClaim} {node : Node}
  {launched : Option InstanceType} {key : String}

theorem fixes_eq_false_iff : fixes platform launched key = false ↔ ∀ type, launched = some type →
      ∀ requirement ∈ type.requirements,
        ¬ (requirement.key = key ∧ platform.scheduling.len requirement = 1) := by
  cases launched <;> simp [fixes]

section
variable (required : ∃ requirement ∈ claim.requirements, requirement.key = key)
  (found : ∀ type, launched = some type → type.name = StringMap.read node.labels instanceTypeLabel)

include required found

theorem lookup_required : (claim.requirements.foldl (labelRequirement launched)
        (node.labels ∪ claim.labels)).lookup key =
      (ownLabel claim node launched key).or (node.labels.lookup key) := by
  rw [lookup_foldl fun labels item => lookup_labelRequirement labels item, lookup_union]
  unfold ownLabel
  by_cases typed : launched.isSome ∧ key = instanceTypeLabel
  · obtain ⟨isTyped, rfl⟩ := typed
    obtain ⟨type, rfl⟩ := Option.isSome_iff_exists.mp isTyped
    rw [foldl_requireAt_of_type _ _ required, found type rfl]
    cases held : node.labels.lookup instanceTypeLabel with
    | none =>
      have absent : instanceTypeLabel ∉ node.labels := Finmap.lookup_eq_none.mp held
      simp [StringMap.read, held, absent]
    | some value =>
      have present : instanceTypeLabel ∈ node.labels := Finmap.mem_iff.mpr ⟨value, held⟩
      by_cases blank : value = "" <;> simp [StringMap.read, held, present, blank]
  · rw [foldl_requireAt_of_open typed, if_neg typed]
    unfold ownValues
    cases held : node.labels.lookup key with
    | none =>
      have absent : key ∉ node.labels := Finmap.lookup_eq_none.mp held
      simp [StringMap.read, held, absent]
    | some value =>
      have present : key ∈ node.labels := Finmap.mem_iff.mpr ⟨value, held⟩
      by_cases blank : value = ""
      · subst blank
        rw [if_neg (by simp [StringMap.read, held]), if_pos present]
        cases claim.requirements.filterMap (singleValue key) with
        | nil => rfl
        | cons first rest =>
          refine (firstFilled_of_blank first rest).trans ?_
          by_cases empty : first = "" <;> simp [firstFilled, empty]
      · rw [if_pos (by simpa [StringMap.read, held] using blank)]
        exact firstFilled_of_filled blank _

theorem lookup_returnedLabels_of_free (free : fixes platform launched key = false) :
    (returnedLabels platform claim node launched).lookup key =
      (ownLabel claim node launched key).or (node.labels.lookup key) := by
  rw [← lookup_required required found]
  unfold returnedLabels
  cases launched with
  | none => rfl
  | some type =>
    dsimp only
    rw [lookup_foldl fun labels item => lookup_labelTypeRequirement platform labels item]
    exact foldl_requireTypeAt_of_free platform _ _ (fixes_eq_false_iff.mp free type rfl)

end

theorem lookup_returnedLabels_of_fixed (claim : NodeClaim) (node : Node)
    (fixed : fixes platform launched key = true) :
    ∃ type, launched = some type ∧ ∃ requirement ∈ type.requirements, requirement.key = key ∧
        platform.scheduling.len requirement = 1 ∧
        (returnedLabels platform claim node launched).lookup key =
          some ((platform.scheduling.values requirement).headD "") := by
  cases launched with
  | none => simp [fixes] at fixed
  | some type =>
    refine ⟨type, rfl, ?_⟩
    unfold returnedLabels
    dsimp only
    rw [lookup_foldl fun labels item => lookup_labelTypeRequirement platform labels item]
    exact foldl_requireTypeAt_of_fixed platform _ _ (by simpa [fixes] using fixed)

theorem labelsAllowed_returned_iff (fits : ∀ type, launched = some type →
      ∀ single ∈ type.requirements, platform.scheduling.len single = 1 →
        ∀ requirement ∈ claim.requirements, requirement.key = single.key →
          allows requirement ((platform.scheduling.values single).headD "") = true)
    (found : ∀ type, launched = some type →
      type.name = StringMap.read node.labels instanceTypeLabel)
    (nodeFits : LabelsAllowed claim.requirements node.labels) :
    LabelsAllowed claim.requirements (returnedLabels platform claim node launched) ↔
      OwnLabelsAllowed platform claim node launched := by
  constructor
  · intro allowed requirement mem free value own
    apply allowed requirement mem
    rw [lookup_returnedLabels_of_free ⟨requirement, mem, rfl⟩ found free, own]
    rfl
  intro own requirement mem value labelled
  cases fixed : fixes platform launched requirement.key with
  | true =>
    obtain ⟨type, typed, single, offered, onKey, one, looked⟩ :=
      lookup_returnedLabels_of_fixed claim node fixed
    cases looked.symm.trans labelled
    exact fits type typed single offered one requirement mem onKey.symm
  | false =>
    rw [lookup_returnedLabels_of_free ⟨requirement, mem, rfl⟩ found fixed] at labelled
    cases given : ownLabel claim node launched requirement.key with
    | some chosen =>
      rw [given] at labelled
      cases labelled
      exact own requirement mem fixed _ given
    | none =>
      rw [given] at labelled
      exact nodeFits requirement mem value labelled

end

/-! ## Runs of Create -/

/-- The instance provider is one call: it may answer with any node. -/
def providerCreate (_ : ProviderMode) (claim : NodeClaim) (compatible : List InstanceType) :
    Program Node :=
  .call (.launchNode claim compatible) ofExcept

variable {compatible : List InstanceType}

theorem labels_nodeClaimForNode {platform : Platform} {claim result : NodeClaim} {node : Node}
    {launchClass : Option IBMNodeClass}
    (returned : nodeClaimForNode platform claim node compatible launchClass = .ok result) :
    result.labels = returnedLabels platform claim node (launchedType node compatible) := by
  unfold nodeClaimForNode at returned
  dsimp only at returned
  split at returned
  · cases returned
  · cases returned
    rfl

theorem name_launchedType {node : Node} {type : InstanceType}
    (found : launchedType node compatible = some type) :
    type.name = StringMap.read node.labels instanceTypeLabel := by
  simpa using List.find?_some found

theorem mem_launchedType {node : Node} {type : InstanceType}
    (found : launchedType node compatible = some type) : type ∈ compatible :=
  mem_of_find?_eq_some found

theorem launches_of_mem {platform : Platform} {nodeClass result claim : NodeClaim} {node : Node}
    {trace : List calls.Exchange}
    (run : Runs (create platform providerCreate nodeClass) trace (.ok result))
    (launch : (⟨.launchNode claim compatible, .ok node⟩ : calls.Exchange) ∈ trace) :
    Launches platform providerCreate trace result claim compatible node := by
  obtain ⟨stored, types, answer, launches⟩ := create_launches run
  obtain ⟨mode, before, during, after, rfl, beforeOwn, afterOwn, reply, later, rfl, ended⟩ :=
    launches.around
  obtain ⟨rfl, rfl⟩ := (runs_ofExcept_ok _ _ _).mp ended
  have same : (⟨.launchNode claim compatible, .ok node⟩ : calls.Exchange) =
      ⟨.launchNode stored types, .ok answer⟩ := by
    simp only [mem_append, mem_singleton] at launch
    rcases launch with own | own | own
    · exact absurd (beforeOwn _ own) id
    · exact own
    · exact absurd (afterOwn _ own) id
  cases same
  exact launches

/-- The labels of the NodeClaim that `Create` returns are allowed by its requirements
exactly when the values its own side gives are. -/
theorem created_labels_allowed_iff {platform : Platform}
    (sound : CompatibleSound platform.scheduling) {nodeClaim result claim : NodeClaim}
    {compatible : List InstanceType} {node : Node} {trace : List calls.Exchange}
    (run : Runs (create platform providerCreate nodeClaim) trace (.ok result))
    (launch : (⟨.launchNode claim compatible, .ok node⟩ : calls.Exchange) ∈ trace)
    (nodeFits : LabelsAllowed claim.requirements node.labels) :
    LabelsAllowed claim.requirements result.labels ↔
      OwnLabelsAllowed platform claim node (launchedType node compatible) := by
  have launches := launches_of_mem run launch
  obtain ⟨launchClass, returned⟩ := launches.returned
  rw [labels_nodeClaimForNode returned]
  refine labelsAllowed_returned_iff ?_ (fun _ found => name_launchedType found) nodeFits
  intro instanceType found
  have passed := launches.filtered instanceType (mem_launchedType found)
  unfold isCompatible at passed
  simp only [Bool.and_eq_true] at passed
  exact sound _ _ passed.1.1

/-! ## A claim on a custom key -/

def checkingScheduling : Scheduling :=
  { VPCCreate.samplePlatform.scheduling with
    len := fun requirement => requirement.values.length
    values := fun requirement => requirement.values
    compatible := fun requirements offered => offered.all fun single =>
      requirements.all fun requirement =>
        !decide (requirement.key = single.key) || allows requirement (single.values.headD "") }

def teamPlatform : Platform :=
  { VPCCreate.samplePlatform with scheduling := checkingScheduling }

theorem compatibleSound_team : CompatibleSound teamPlatform.scheduling := by
  intro requirements offered compatible single mem _ requirement required onKey
  have passed := all_eq_true.mp (all_eq_true.mp compatible single mem)
    requirement required
  simp only [onKey, decide_true, Bool.not_true, Bool.false_or] at passed
  exact passed

/-- A claim with one requirement, on a key no node and no type has. -/
def teamClaim (operator : Operator) : NodeClaim :=
  { VPCCreate.sampleClaim with requirements := [⟨"team", operator, ["blue"]⟩] }

def teamType : InstanceType :=
  { VPCCreate.sampleType with offerings := [⟨[], true, none⟩] }

def teamNode : Node where
  name := "c"
  uid := ""
  labels := Finmap.singleton instanceTypeLabel "p"
  annotations := ∅
  finalizers := []
  deletionTimestamp := none
  providerID := "ibm:///r/i"
  capacity := ∅
  allocatable := ∅

def teamTrace (operator : Operator) : List calls.Exchange :=
  [⟨.getClaim "c", .ok (teamClaim operator)⟩,
   ⟨.getCachedNodeClass "n", .ok VPCCreate.sampleClass⟩,
   ⟨.listInstanceTypes VPCCreate.sampleClass, .ok [teamType]⟩,
   ⟨.canProvision "n" "r", .ok ()⟩,
   ⟨.getInstanceProvider, .ok ()⟩,
   ⟨.launchNode (teamClaim operator) [teamType], .ok teamNode⟩,
   ⟨.recordSuccess "n" "r", ()⟩]

theorem team_runs (operator : Operator) :
    ∃ result, Runs (create teamPlatform providerCreate (teamClaim operator)) (teamTrace operator)
        (.ok result) ∧
      nodeClaimForNode teamPlatform (teamClaim operator) teamNode [teamType]
        (some VPCCreate.sampleClass) = .ok result :=
  ⟨_, ⟨_, _, rfl, _, _, rfl, _, _, rfl, _, _, rfl, _, _, rfl, _, _, rfl, _, _, rfl, rfl, rfl⟩, rfl⟩

theorem launch_mem_teamTrace (operator : Operator) :
    (⟨.launchNode (teamClaim operator) [teamType], .ok teamNode⟩ : calls.Exchange) ∈
      teamTrace operator := by
  simp [teamTrace]

theorem labelsAllowed_teamNode (operator : Operator) :
    LabelsAllowed (teamClaim operator).requirements teamNode.labels := by
  intro requirement mem value labelled
  rw [mem_singleton.mp mem] at labelled
  have absent : teamNode.labels.lookup "team" = none := by decide
  exact absurd (absent.symm.trans labelled) nofun

theorem created_labels_allowed_iff_team :
    ∃ result, Runs (create teamPlatform providerCreate (teamClaim .In)) (teamTrace .In)
        (.ok result) ∧
      (LabelsAllowed (teamClaim .In).requirements result.labels ↔
        OwnLabelsAllowed teamPlatform (teamClaim .In) teamNode
          (launchedType teamNode [teamType])) := by
  obtain ⟨result, run, -⟩ := team_runs .In
  exact ⟨result, run, created_labels_allowed_iff compatibleSound_team run
    (launch_mem_teamTrace .In) (labelsAllowed_teamNode .In)⟩

/-- A requirement that excludes one value makes that value the label. -/
theorem created_label_excluded : CompatibleSound teamPlatform.scheduling ∧
      LabelsAllowed (teamClaim .NotIn).requirements teamNode.labels ∧
      ∃ result, Runs (create teamPlatform providerCreate (teamClaim .NotIn)) (teamTrace .NotIn)
          (.ok result) ∧
        (⟨.launchNode (teamClaim .NotIn) [teamType], .ok teamNode⟩ : calls.Exchange) ∈
          teamTrace .NotIn ∧
        result.labels.lookup "team" = some "blue" ∧
        ¬ LabelsAllowed (teamClaim .NotIn).requirements result.labels := by
  refine ⟨compatibleSound_team, labelsAllowed_teamNode .NotIn, ?_⟩
  obtain ⟨result, run, returned⟩ := team_runs .NotIn
  have labelled : result.labels.lookup "team" = some "blue" := by
    rw [labels_nodeClaimForNode returned]
    decide
  refine ⟨result, run, launch_mem_teamTrace .NotIn, labelled, fun allowed => ?_⟩
  have excluded := allowed ⟨"team", .NotIn, ["blue"]⟩ (by simp [teamClaim]) "blue" labelled
  revert excluded
  decide

end KarpenterIBM.LaunchedLabels
