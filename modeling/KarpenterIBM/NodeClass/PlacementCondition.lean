import KarpenterIBM.NodeClass.ReadyInvariant

/-!
# What the AutoPlacement condition tells

A run of the autoplacement controller selects instance types, subnets or both and records what
each selection came to in one condition.
-/

namespace KarpenterIBM.PlacementCondition

open EffectProgram Errors List NodeClassStatus Objects

/-! ## Outcomes of selections -/

structure Outcome where
  status : ConditionStatus
  reason : String
  message : String
deriving DecidableEq

def Outcome.condition (outcome : Outcome) (generation : Nat) : Condition :=
  ⟨conditionTypeAutoPlacement, outcome.status, generation, outcome.reason, outcome.message⟩

def typesSelected : Outcome :=
  ⟨.isTrue, "InstanceTypeSelectionSucceeded", "Instance type selection completed successfully"⟩

def selectionFailed (reason : String) (error : GoError) : Outcome :=
  ⟨.isFalse, reason, error.text⟩

def typesOutcome : Except GoError (List String) → Outcome
  | .error error => selectionFailed "InstanceTypeSelectionFailed" error
  | .ok names =>
    if names = [] then
      selectionFailed "InstanceTypeSelectionFailed"
        (.plain "no instance types found matching requirements")
    else typesSelected

def subnetsSelected (subnets : List SubnetInfo) : Outcome :=
  ⟨.isTrue, "SubnetSelectionSucceeded",
    "Selected " ++ toString subnets.length ++ " subnets across " ++
      toString (subnets.map SubnetInfo.zone).dedup.length ++ " zones"⟩

def subnetsOutcome : Except GoError (List SubnetInfo) → Outcome
  | .error error => selectionFailed "SubnetSelectionFailed" error
  | .ok subnets =>
    if subnets = [] then
      selectionFailed "SubnetSelectionFailed"
        (.plain "no subnets found matching placement strategy")
    else subnetsSelected subnets

/-! ## Runs -/

/-- What is noted of a run: the NodeClass it read, the outcomes of its selections in order,
and whether all its patches succeeded. -/
structure RunRecord where
  read : Option IBMNodeClass
  outcomes : List Outcome
  clean : Bool

def RunRecord.empty : RunRecord := ⟨none, [], true⟩

def RunRecord.note (record : RunRecord) : (call : PlacementCall) → call.Answer → RunRecord
  | .getClass, .ok nodeClass => { record with read := some nodeClass }
  | .filterInstanceTypes _ _, answer =>
    { record with outcomes := record.outcomes ++ [typesOutcome answer] }
  | .selectSubnets _ _, answer =>
    { record with outcomes := record.outcomes ++ [subnetsOutcome answer] }
  | .patchStatus _ _, .error _ => { record with clean := false }
  | _, _ => record

structure Observed where
  store : Store
  record : RunRecord

/-- The API server and the providers; the user may edit the NodeClass before each call. -/
def serving : Service placing Observed := fun before call answer after =>
  ∃ edited, Relation.ReflTransGen Store.Edits before.store edited ∧
    edited.AnswersPlacement call answer after.store ∧ after.record = before.record.note call answer

/-- The stores that runs and edits lead to, from a NodeClass with any status. -/
inductive Reached : Store → Prop where
  | created (store : Store) (versions : store.versions = [store.current]) : Reached store
  | edited {store after : Store} (reached : Reached store) (edits : store.Edits after) :
      Reached after
  | ran {store : Store} {after : Observed} (reached : Reached store)
      (outcome : Except GoError ReconcileResult)
      (ends : Ends serving ⟨store, .empty⟩ reconcilePlacement outcome after) :
      Reached after.store

/-! ## Versions -/

structure Later (before after : Store) : Prop where
  chronicle : before.Chronicle → after.Chronicle
  versions : before.versions ⊆ after.versions

theorem Later.refl (store : Store) : Later store store := ⟨fun chron => chron, List.Subset.refl _⟩

theorem Later.trans {first second third : Store} (one : Later first second)
    (two : Later second third) : Later first third :=
  ⟨fun chron => two.chronicle (one.chronicle chron), fun _ mem => two.versions (one.versions mem)⟩

theorem later_of_edits {before after : Store} (edits : before.Edits after) :
    Later before after := by
  obtain ⟨spec, annotations, version, fresh⟩ := edits
  refine ⟨fun chron => chron.put fresh ?_, fun _ mem => mem_cons_of_mem _ mem⟩
  by_cases same : spec = before.current.spec
  · exact .inl ⟨if_pos same, same⟩
  · exact .inr (if_neg same)

theorem later_of_edited {before after : Store}
    (edits : Relation.ReflTransGen Store.Edits before after) : Later before after := by
  induction edits with
  | refl => exact .refl before
  | tail _ last ih => exact ih.trans (later_of_edits last)

theorem later_of_patches {before after : Store} {stored patched : IBMNodeClass}
    (patches : before.PatchesStatus stored patched after) : Later before after := by
  cases patches with
  | written unlocked version fresh =>
    exact ⟨fun chron => chron.put fresh (.inl ⟨rfl, rfl⟩), fun _ mem => mem_cons_of_mem _ mem⟩
  | unchanged unlocked same => exact .refl before

variable {before after : Observed}

theorem later_of_serving {call : PlacementCall} {answer : call.Answer}
    (served : serving before call answer after) : Later before.store after.store := by
  obtain ⟨edited, edits, answered, _⟩ := served
  refine (later_of_edited edits).trans ?_
  cases call with
  | patchStatus stored patched =>
    rcases answered with ⟨patches, _⟩ | ⟨same, _⟩
    · exact later_of_patches patches
    · rw [same]
      exact .refl edited
  | getClass =>
    rw [answered.1]
    exact .refl edited
  | _ =>
    rw [show after.store = edited from answered]
    exact .refl edited

theorem later_of_ends {α : Type} {program : Placement α} {out : Except GoError α}
    (ends : Ends serving before program out after) : Later before.store after.store := by
  refine Ends.keeps (fun state => Later before.store state.store) ?_ (.refl _) ends
  intro first call answer second served sofar
  exact sofar.trans (later_of_serving served)

theorem failed_of_ends {α : Type} {program : Placement α} {out : Except GoError α}
    (failed : ¬ before.record.clean = true) (ends : Ends serving before program out after) :
    ¬ after.record.clean = true := by
  refine Ends.keeps (fun state => ¬ state.record.clean = true) ?_ failed ends
  rintro first call answer second ⟨edited, _, _, noted⟩ sofar
  rw [noted]
  cases call with
  | getClass => cases answer <;> exact sofar
  | patchStatus stored patched =>
    cases answer with
    | ok nodeClass => exact sofar
    | error error => exact Bool.false_ne_true
  | _ => exact sofar

theorem Reached.chronicle {store : Store} (reached : Reached store) : store.Chronicle := by
  induction reached with
  | created store versions => exact chronicle_created versions
  | edited _ edits ih => exact (later_of_edits edits).chronicle ih
  | ran _ out ends ih => exact (later_of_ends ends).chronicle ih

/-! ## The parts of a run -/

def updatedBy (generation : Nat) (outcomes : List Outcome) (conditions : List Condition) :
    List Condition :=
  outcomes.foldl
    (fun updated outcome => updateCondition (outcome.condition generation) updated) conditions

/-- What a part of a run has done that started from a copy and went on with the next one:
nothing in the API server, or a patch that left there what the next copy has. -/
structure Advances (copy next : IBMNodeClass) (outcomes : List Outcome)
    (before after : Observed) : Prop where
  read : after.record.read = before.record.read
  noted : after.record.outcomes = before.record.outcomes ++ outcomes
  clean : before.record.clean = true
  known : next ∈ after.store.versions
  generation : next.generation = copy.generation
  conditions : next.status.conditions = updatedBy copy.generation outcomes copy.status.conditions
  stored : (outcomes = [] ∧ next = copy ∧ after.store = before.store) ∨
    after.store.current.status.conditions = next.status.conditions

def PartEnds (copy : IBMNodeClass) (before : Observed) (kind : List Outcome → Prop)
    (outcome : Except GoError PlacementStep) (after : Observed) : Prop :=
  after.record.clean = true → ∃ next outcomes, Advances copy next outcomes before after ∧
    kind outcomes ∧ ∀ step, outcome = .ok step → step = .goesOn next ∧
      ∀ told ∈ outcomes, told.status = .isTrue

section
variable {before : Observed} {copy : IBMNodeClass}

theorem patched_current {edited after : Store} {stored patched : IBMNodeClass}
    (chron : edited.Chronicle) (known : stored ∈ edited.versions)
    (patches : edited.PatchesStatus stored patched after) :
    after.current.status = patched.status ∧ after.current.generation = stored.generation ∧
      after.current ∈ after.versions := by
  cases patches with
  | written unlocked version fresh =>
    have same := chron.eq_current known unlocked
    refine ⟨?_, ?_, mem_cons_self⟩
    · change mergeStatus stored.status patched.status edited.current.status = patched.status
      rw [← same, mergeStatus_self]
    · rw [same]
      rfl
  | unchanged unlocked same =>
    have current := chron.eq_current known unlocked
    rw [← current, mergeStatus_self] at same
    exact ⟨by rw [← current, same], by rw [current], chron.present⟩

theorem patchPlacement_ensures (chron : before.store.Chronicle) {stored : IBMNodeClass}
    (known : stored ∈ before.store.versions) (lead : String) (patched : IBMNodeClass) :
    Ensures serving before (patchPlacement lead stored patched) fun out after =>
      after.record.clean = true → after.record = before.record ∧
        out = .ok (.goesOn after.store.current) ∧
        after.store.current.status = patched.status ∧
        after.store.current.generation = stored.generation ∧
        after.store.current ∈ after.store.versions := by
  refine ensures_perform ?_
  rintro answer mid ⟨edited, edits, answered, noted⟩
  cases answer with
  | error error =>
    have failed : ¬ mid.record.clean = true := by
      rw [noted]
      exact Bool.false_ne_true
    dsimp only
    split_ifs
    · exact ensures_pure fun clean => absurd clean failed
    · exact ensures_fail fun clean => absurd clean failed
  | ok nodeClass =>
    rcases answered with ⟨patches, returned⟩ | ⟨_, error, no⟩
    · have later := later_of_edited edits
      obtain ⟨status, generation, found⟩ :=
        patched_current (later.chronicle chron) (later.versions known) patches
      rw [returned nodeClass rfl]
      exact ensures_pure fun _ => ⟨noted, rfl, status, generation, found⟩
    · cases no

theorem advances_of_recorded {mid after : Observed} {told : Outcome} (noted : mid.record =
      { before.record with outcomes := before.record.outcomes ++ [told] })
    (clean : after.record.clean = true) (same : after.record = mid.record)
    (conditions : after.store.current.status.conditions =
      updateCondition (told.condition copy.generation) copy.status.conditions)
    (generation : after.store.current.generation = copy.generation)
    (found : after.store.current ∈ after.store.versions) :
    Advances copy after.store.current [told] before after where
  read := by rw [same, noted]
  noted := by rw [same, noted]
  clean := by rwa [same, noted] at clean
  known := found
  generation := generation
  conditions := conditions
  stored := .inr rfl

theorem recordFailure_ensures {mid : Observed} (chron : mid.store.Chronicle)
    (known : copy ∈ mid.store.versions) (reason : String) (error : GoError)
    (noted : mid.record = { before.record with
      outcomes := before.record.outcomes ++ [selectionFailed reason error] })
    {kind : List Outcome → Prop} (isKind : kind [selectionFailed reason error]) :
    Ensures serving mid (recordFailure copy reason error) (PartEnds copy before kind) := by
  refine Ensures.bind (patchPlacement_ensures chron known _ _) ?_ ?_
  · intro step after patched
    cases step with
    | ended result =>
      refine ensures_pure fun clean => ?_
      cases (patched clean).2.1
    | goesOn next =>
      refine ensures_fail fun clean => ?_
      obtain ⟨same, _, status, generation, found⟩ := patched clean
      have conditions := congrArg IBMNodeClassStatus.conditions status
      have advances : Advances copy after.store.current [selectionFailed reason error]
          before after :=
        advances_of_recorded noted clean same conditions generation found
      refine ⟨_, _, advances, isKind, ?_⟩
      rintro step ⟨⟩
  · intro failure after patched clean
    cases (patched clean).2.1

theorem recordSuccess_ensures {mid : Observed} (chron : mid.store.Chronicle)
    (known : copy ∈ mid.store.versions) {chosen : IBMNodeClass} {told : Outcome}
    (generation : chosen.generation = copy.generation)
    (conditions : chosen.status.conditions = copy.status.conditions)
    (succeeded : told.status = .isTrue)
    (noted : mid.record = { before.record with
      outcomes := before.record.outcomes ++ [told] })
    {kind : List Outcome → Prop} (isKind : kind [told]) :
    Ensures serving mid (patchPlacement updatingStatus copy
        (withPlacement chosen told.status told.reason told.message))
      (PartEnds copy before kind) := by
  refine (patchPlacement_ensures chron known _ _).mono ?_
  intro out after patched clean
  obtain ⟨same, rfl, status, sameGeneration, found⟩ := patched clean
  refine ⟨_, _, advances_of_recorded noted clean same ?_ sameGeneration found, isKind, ?_⟩
  · rw [status, withPlacement, generation, conditions]
    rfl
  rintro step ⟨⟩
  refine ⟨rfl, fun other mem => ?_⟩
  rw [mem_singleton.mp mem]
  exact succeeded

theorem PartEnds.mono {kind wider : List Outcome → Prop} {out : Except GoError PlacementStep}
    {after : Observed} (ends : PartEnds copy before kind out after)
    (implies : ∀ outs, kind outs → wider outs) :
    PartEnds copy before wider out after := by
  intro clean
  obtain ⟨next, outs, advances, isKind, goesOn⟩ := ends clean
  exact ⟨next, outs, advances, implies outs isKind, goesOn⟩

def SelectsTypes (outcomes : List Outcome) : Prop := ∃ answer, outcomes = [typesOutcome answer]

def SelectsSubnets (outcomes : List Outcome) : Prop := ∃ answer, outcomes = [subnetsOutcome answer]

section
variable (chron : before.store.Chronicle) (known : copy ∈ before.store.versions)

include chron known

theorem selectInstanceTypes_ensures (requirements : InstanceTypeRequirements) :
    Ensures serving before (selectInstanceTypes copy requirements)
      (PartEnds copy before SelectsTypes) := by
  refine ensures_perform ?_
  intro answer mid served
  have later := later_of_serving served
  obtain ⟨edited, edits, answered, noted⟩ := served
  cases answer with
  | error error =>
    exact recordFailure_ensures (later.chronicle chron) (later.versions known) _ _ noted
      ⟨.error error, rfl⟩
  | ok names =>
    dsimp only
    split_ifs with empty
    · subst empty
      exact recordFailure_ensures (later.chronicle chron) (later.versions known) _ _ noted
        ⟨.ok [], rfl⟩
    · have told : typesOutcome (.ok names) = typesSelected := if_neg empty
      exact @recordSuccess_ensures before copy mid (later.chronicle chron) (later.versions known)
        { copy with status := { copy.status with selectedInstanceTypes := names } } typesSelected
        rfl rfl rfl (by rw [noted, ← told]; rfl) _ ⟨.ok names, by rw [told]⟩

theorem selectSubnets_ensures (strategy : PlacementStrategy) :
    Ensures serving before (selectSubnets copy strategy) (PartEnds copy before SelectsSubnets) := by
  refine ensures_perform ?_
  intro answer mid served
  have later := later_of_serving served
  obtain ⟨edited, edits, answered, noted⟩ := served
  cases answer with
  | error error =>
    exact recordFailure_ensures (later.chronicle chron) (later.versions known) _ _ noted
      ⟨.error error, rfl⟩
  | ok subnets =>
    dsimp only
    split_ifs with empty
    · subst empty
      exact recordFailure_ensures (later.chronicle chron) (later.versions known) _ _ noted
        ⟨.ok [], rfl⟩
    · have told : subnetsOutcome (.ok subnets) = subnetsSelected subnets := if_neg empty
      exact @recordSuccess_ensures before copy mid (later.chronicle chron) (later.versions known)
        { copy with status := { copy.status with
          selectedSubnets := subnets.map SubnetInfo.id } } (subnetsSelected subnets)
        rfl rfl rfl (by rw [noted, ← told]; rfl) _ ⟨.ok subnets, by rw [told]⟩

end

variable {kind : List Outcome → Prop} (isKind : kind [])

include isKind

theorem goesOn_ensures (known : copy ∈ before.store.versions) :
    Ensures serving before (pure (.goesOn copy) : Placement PlacementStep)
      (PartEnds copy before kind) := by
  refine ensures_pure fun clean => ⟨copy, [], ?_, isKind, ?_⟩
  · exact ⟨rfl, (append_nil _).symm, clean, known, rfl, rfl, .inl ⟨rfl, rfl, rfl⟩⟩
  · rintro step ⟨⟩
    exact ⟨rfl, fun told mem => absurd mem not_mem_nil⟩

theorem clearSubnets_ensures (chron : before.store.Chronicle)
    (known : copy ∈ before.store.versions) :
    Ensures serving before (clearSubnets copy) (PartEnds copy before kind) := by
  rw [clearSubnets]
  split_ifs
  · refine (patchPlacement_ensures chron known _ _).mono ?_
    intro out after patched clean
    obtain ⟨same, rfl, status, generation, found⟩ := patched clean
    have conditions := congrArg IBMNodeClassStatus.conditions status
    refine ⟨_, [], ⟨by rw [same], by rw [same, append_nil], by rwa [same] at clean, found,
      generation, conditions, .inr rfl⟩, isKind, ?_⟩
    rintro step ⟨⟩
    exact ⟨rfl, fun told mem => absurd mem not_mem_nil⟩
  · exact goesOn_ensures isKind known

omit isKind

def MaySelect (kind : List Outcome → Prop) (outcomes : List Outcome) : Prop :=
  outcomes = [] ∨ kind outcomes

variable (chron : before.store.Chronicle) (known : copy ∈ before.store.versions)

include chron known

theorem placeInstanceTypes_ensures : Ensures serving before (placeInstanceTypes copy)
      (PartEnds copy before (MaySelect SelectsTypes)) := by
  have nothing := @goesOn_ensures before copy (MaySelect SelectsTypes) (.inl rfl) known
  rw [placeInstanceTypes]
  split
  · split_ifs
    · exact (selectInstanceTypes_ensures chron known _).mono fun out after ends =>
        ends.mono fun outs told => .inr told
    · exact nothing
  · exact nothing

theorem placeSubnets_ensures : Ensures serving before (placeSubnets copy)
      (PartEnds copy before (MaySelect SelectsSubnets)) := by
  have cleared := @clearSubnets_ensures before copy (MaySelect SelectsSubnets) (.inl rfl) chron
    known
  rw [placeSubnets]
  split
  · split_ifs
    · exact (selectSubnets_ensures chron known _).mono fun out after ends =>
        ends.mono fun outs told => .inr told
    · exact cleared
  · exact cleared

end

/-! ## A whole run -/

variable {next : IBMNodeClass}

theorem Advances.trans {copy last : IBMNodeClass} {first second : List Outcome} {mid : Observed}
    (one : Advances copy next first before mid) (two : Advances next last second mid after) :
    Advances copy last (first ++ second) before after where
  read := two.read.trans one.read
  noted := by rw [two.noted, one.noted, append_assoc]
  clean := one.clean
  known := two.known
  generation := two.generation.trans one.generation
  conditions := by
    rw [two.conditions, one.conditions, one.generation, updatedBy, updatedBy, updatedBy,
      foldl_append]
  stored := by
    rcases two.stored with ⟨nothing, same, still⟩ | written
    · subst nothing
      rw [same, still, append_nil]
      exact one.stored
    · exact .inr written

inductive RunOutcomes : List Outcome → Prop where
  | types (answer : Except GoError (List String)) : RunOutcomes [typesOutcome answer]
  | subnets (answer : Except GoError (List SubnetInfo)) : RunOutcomes [subnetsOutcome answer]
  | both (answer : Except GoError (List SubnetInfo)) :
      RunOutcomes [typesSelected, subnetsOutcome answer]

theorem typesOutcome_of_isTrue {answer : Except GoError (List String)}
    (succeeded : (typesOutcome answer).status = .isTrue) : typesOutcome answer = typesSelected := by
  cases answer with
  | error error => cases succeeded
  | ok names =>
    rw [typesOutcome] at succeeded ⊢
    split_ifs at succeeded ⊢
    · cases succeeded
    · rfl

/-- A run that made a selection and whose patches all succeeded. -/
structure Recorded (outcomes : List Outcome) (read : IBMNodeClass) (after : Observed) : Prop where
  started : after.record.read = some read
  noted : after.record.outcomes = outcomes
  conditions : after.store.current.status.conditions =
    updatedBy read.generation outcomes read.status.conditions

theorem Advances.recorded {read : IBMNodeClass} {outs : List Outcome}
    (advances : Advances read next outs before after)
    (first : before.record = ⟨some read, [], true⟩) (told : outs ≠ []) :
    Recorded outs read after where
  started := by rw [advances.read, first]
  noted := by rw [advances.noted, first, nil_append]
  conditions := by
    rcases advances.stored with ⟨nothing, _⟩ | written
    · exact absurd nothing told
    · rw [written, advances.conditions]

def RunEnds (after : Observed) : Prop :=
  after.record.clean = true → after.record.outcomes ≠ [] →
    ∃ read outcomes, Recorded outcomes read after ∧ RunOutcomes outcomes

theorem runEnds_of_first {read : IBMNodeClass} {outs : List Outcome}
    (advances : Advances read next outs before after)
    (first : before.record = ⟨some read, [], true⟩) (kind : MaySelect SelectsTypes outs) :
    RunEnds after := by
  intro _ selected
  rcases kind with nothing | ⟨answer, told⟩
  · rw [advances.noted, first, nothing] at selected
    exact absurd rfl selected
  · exact ⟨read, outs, advances.recorded first (by rw [told]; exact cons_ne_nil _ _),
      told ▸ .types answer⟩

theorem runEnds_of_both {read last : IBMNodeClass} {typed placed : List Outcome} {mid : Observed}
    (one : Advances read next typed before mid) (two : Advances next last placed mid after)
    (first : before.record = ⟨some read, [], true⟩)
    (succeeded : ∀ told ∈ typed, told.status = .isTrue) (types : MaySelect SelectsTypes typed)
    (subnets : MaySelect SelectsSubnets placed) : RunEnds after := by
  intro _ selected
  have advances := one.trans two
  rw [advances.noted, first, nil_append] at selected
  refine ⟨read, typed ++ placed, advances.recorded first selected, ?_⟩
  rcases types with rfl | ⟨answer, rfl⟩
  · rcases subnets with rfl | ⟨answer, rfl⟩
    · exact absurd rfl selected
    · exact .subnets answer
  rw [typesOutcome_of_isTrue (succeeded _ mem_cons_self)]
  rcases subnets with rfl | ⟨found, rfl⟩
  · exact .types (.ok ["a"])
  · exact .both found

theorem reconcilePlacement_ensures {store : Store} (chron : store.Chronicle) :
    Ensures serving ⟨store, .empty⟩ reconcilePlacement fun _ after => RunEnds after := by
  refine ensures_perform ?_
  intro answer mid served
  have later := later_of_serving served
  obtain ⟨edited, edits, ⟨same, mem⟩, noted⟩ := served
  cases answer with
  | error error =>
    have nothing : mid.record.outcomes = [] := by rw [noted]; rfl
    dsimp only
    split_ifs
    · exact ensures_pure fun _ selected => absurd nothing selected
    · exact ensures_fail fun _ selected => absurd nothing selected
  | ok read =>
    have known : read ∈ mid.store.versions := by
      rw [same]
      exact mem read rfl
    have first : mid.record = ⟨some read, [], true⟩ := noted
    have typing : Ensures serving mid (placeInstanceTypes read) fun out after =>
        PartEnds read mid (MaySelect SelectsTypes) out after ∧
          Later mid.store after.store := fun out after ends =>
      ⟨placeInstanceTypes_ensures (later.chronicle chron) known out after ends, later_of_ends ends⟩
    refine typing.bind ?_ ?_
    · rintro step typed ⟨partEnds, typedLater⟩
      by_cases clean : typed.record.clean = true
      · obtain ⟨next, outs, one, types, goesOn⟩ := partEnds clean
        obtain ⟨rfl, succeeded⟩ := goesOn step rfl
        have placing := placeSubnets_ensures (typedLater.chronicle (later.chronicle chron))
          one.known
        refine placing.bind ?_ ?_
        · intro placed after placedEnds
          have ended : RunEnds after := by
            intro isClean
            obtain ⟨last, told, two, subnets, _⟩ := placedEnds isClean
            exact runEnds_of_both one two first succeeded types subnets isClean
          cases placed with
          | ended result | goesOn current => exact ensures_pure ended
        · intro error after placedEnds isClean
          obtain ⟨last, told, two, subnets, _⟩ := placedEnds isClean
          exact runEnds_of_both one two first succeeded types subnets isClean
      · exact fun out after ends isClean => absurd isClean (failed_of_ends clean ends)
    · rintro error typed ⟨partEnds, _⟩ clean
      obtain ⟨next, outs, advances, kind, _⟩ := partEnds clean
      exact runEnds_of_first advances first kind clean

/-! ## The condition -/

def placementCondition (conditions : List Condition) : Option Condition :=
  conditions.find? fun condition => decide (condition.type = conditionTypeAutoPlacement)

def replaced (new : Condition) : Option Condition → Condition
  | none => new
  | some old => if old.status ≠ new.status then new else old

theorem placementCondition_updateCondition {new : Condition}
    (placement : new.type = conditionTypeAutoPlacement) (conditions : List Condition) :
    placementCondition (updateCondition new conditions) =
      some (replaced new (placementCondition conditions)) := by
  induction conditions with
  | nil =>
    rw [updateCondition, placementCondition, List.find?_cons_of_pos (by simpa using placement)]
    rfl
  | cons condition rest ih =>
    rw [updateCondition]
    by_cases here : condition.type = conditionTypeAutoPlacement
    · have found : placementCondition (condition :: rest) = some condition :=
        List.find?_cons_of_pos (by simpa using here)
      rw [if_pos (here.trans placement.symm), found, replaced]
      split_ifs
      · exact List.find?_cons_of_pos (by simpa using placement)
      · exact found
    · have passed : ∀ others, placementCondition (condition :: others) =
          placementCondition others := fun others => List.find?_cons_of_neg (by simpa using here)
      rw [if_neg (fun same => here (same.trans placement)), passed, passed, ih]

/-- The condition has the status, reason and message of the last outcome, and the
generation that the run read. -/
def Tells (generation : Nat) (outcomes : List Outcome) (conditions : List Condition) : Prop :=
  ∃ told, outcomes.getLast? = some told ∧
    placementCondition conditions = some (told.condition generation)

/-- When a run comes to tell its last outcome, by the condition it found.  After one
selection: there was none, or one with another status, or the same already.  After two:
the second failed, or the condition was the same already. -/
def ToldWhen (generation : Nat) (prior : Option Condition) : List Outcome → Prop
  | [told] => prior = none ∨ (∃ old, prior = some old ∧ old.status ≠ told.status) ∨
      prior = some (told.condition generation)
  | [_, told] => told.status = .isFalse ∨ prior = some (told.condition generation)
  | _ => True

theorem replaced_eq_iff (new : Condition) (prior : Option Condition) : replaced new prior = new ↔
      prior = none ∨ (∃ old, prior = some old ∧ old.status ≠ new.status) ∨ prior = some new := by
  cases prior with
  | none => simp [replaced]
  | some old =>
    rw [replaced]
    by_cases same : old.status = new.status
    · simp [same]
    · simp [same]

theorem replaced_status (new : Condition) (prior : Option Condition) :
    (replaced new prior).status = new.status := by
  cases prior with
  | none => rfl
  | some old =>
    rw [replaced]
    split_ifs with other
    · rfl
    · exact not_not.mp other

theorem tells_iff {told : Outcome} {outs : List Outcome} {generation : Nat}
    {conditions : List Condition} {left : Condition} (last : outs.getLast? = some told)
    (found : placementCondition conditions = some left) :
    Tells generation outs conditions ↔ left = told.condition generation := by
  rw [Tells, last, found]
  simp

theorem tells_one_iff (told : Outcome) (generation : Nat) (conditions : List Condition) :
    Tells generation [told] (updatedBy generation [told] conditions) ↔
      ToldWhen generation (placementCondition conditions) [told] :=
  (tells_iff rfl (placementCondition_updateCondition rfl conditions)).trans (replaced_eq_iff _ _)

theorem subnetsOutcome_cases (answer : Except GoError (List SubnetInfo)) :
    (subnetsOutcome answer).status = .isFalse ∨ ((subnetsOutcome answer).status = .isTrue ∧
        (subnetsOutcome answer).reason = "SubnetSelectionSucceeded") := by
  cases answer with
  | error error => exact .inl rfl
  | ok subnets =>
    rw [subnetsOutcome]
    split_ifs
    · exact .inl rfl
    · exact .inr ⟨rfl, rfl⟩

theorem replaced_types_eq_iff {told : Outcome} (succeeded : told.status = .isTrue)
    (reason : told.reason ≠ typesSelected.reason) (generation : Nat) (prior : Option Condition) :
    replaced (typesSelected.condition generation) prior = told.condition generation ↔
      prior = some (told.condition generation) := by
  have differ : typesSelected.condition generation ≠ told.condition generation := fun same =>
    reason (congrArg Condition.reason same).symm
  cases prior with
  | none => exact iff_of_false differ nofun
  | some old =>
    rw [replaced, Option.some.injEq]
    split_ifs with other
    · refine iff_of_false differ fun same => other ?_
      rw [same]
      exact succeeded
    · exact Iff.rfl

theorem tells_both_iff (answer : Except GoError (List SubnetInfo)) (generation : Nat)
    (conditions : List Condition) :
    Tells generation [typesSelected, subnetsOutcome answer]
        (updatedBy generation [typesSelected, subnetsOutcome answer] conditions) ↔
      ToldWhen generation (placementCondition conditions)
        [typesSelected, subnetsOutcome answer] := by
  have found := @placementCondition_updateCondition ((subnetsOutcome answer).condition generation)
    rfl (updateCondition (typesSelected.condition generation) conditions)
  rw [@placementCondition_updateCondition (typesSelected.condition generation) rfl conditions]
    at found
  have succeeded :=
    replaced_status (typesSelected.condition generation) (placementCondition conditions)
  refine (@tells_iff (subnetsOutcome answer) _ _ _ _ rfl found).trans ?_
  rw [ToldWhen]
  rcases subnetsOutcome_cases answer with failed | ⟨alsoSucceeded, reason⟩
  -- A failure replaces the success of the first selection.
  · refine iff_of_true ((replaced_eq_iff _ _).mpr (.inr (.inl ⟨_, rfl, ?_⟩))) (.inl failed)
    rw [succeeded]
    change ConditionStatus.isTrue ≠ (subnetsOutcome answer).status
    rw [failed]
    decide
  -- A second success leaves what the first one left.
  · have kept : replaced ((subnetsOutcome answer).condition generation)
        (some (replaced (typesSelected.condition generation) (placementCondition conditions))) =
        replaced (typesSelected.condition generation) (placementCondition conditions) := by
      refine if_neg (not_not.mpr (succeeded.trans ?_))
      exact alsoSucceeded.symm
    have otherReason : (subnetsOutcome answer).reason ≠ typesSelected.reason := by
      rw [reason]
      decide
    rw [kept, replaced_types_eq_iff alsoSucceeded otherReason, alsoSucceeded]
    simp

/-! ## The result -/

/-- After a run that made a selection and patched the status without a conflict, the
AutoPlacement condition tells its last outcome exactly when the condition it found allows. -/
theorem placement_condition_told_iff {store : Store} (reached : Reached store)
    {outcome : Except GoError ReconcileResult} {after : Observed}
    (ends : Ends serving ⟨store, .empty⟩ reconcilePlacement outcome after)
    (selected : after.record.outcomes ≠ []) (clean : after.record.clean = true) :
    ∃ read, after.record.read = some read ∧
      (Tells read.generation after.record.outcomes after.store.current.status.conditions ↔
        ToldWhen read.generation (placementCondition read.status.conditions)
          after.record.outcomes) := by
  obtain ⟨read, outcomes, recorded, kind⟩ :=
    reconcilePlacement_ensures reached.chronicle outcome after ends clean selected
  refine ⟨read, recorded.started, ?_⟩
  rw [recorded.conditions, recorded.noted]
  cases kind with
  | types answer | subnets answer => exact tells_one_iff _ _ _
  | both answer => exact tells_both_iff answer _ _

/-! ## A run of both selections -/

def openClass : IBMNodeClass where
  name := "n"
  uid := "k"
  resourceVersion := 1
  generation := 1
  annotations := ∅
  spec :=
    { region := "r", zone := "", instanceProfile := "", image := "", imageSelector := none
      instanceRequirements := some ⟨"amd64", 2, 4, ""⟩, vpc := "v", subnet := ""
      placementStrategy := some ⟨"Balanced", none⟩, securityGroups := [], sshKeys := []
      resourceGroup := "", placementTarget := "", tags := ∅, bootstrapMode := none
      apiServerEndpoint := "", iksClusterID := "", iksWorkerPoolID := "", iksDynamicPools := none }
  status :=
    { validationError := "", selectedInstanceTypes := [], selectedSubnets := []
      resolvedSecurityGroups := [], resolvedImageID := "", conditions := [] }

def openStore : Store := ⟨openClass, [openClass], fun _ => []⟩

def foundSubnets : List SubnetInfo := [⟨"s", "r-1", "available", 20⟩]

def typedClass : IBMNodeClass :=
  withPlacement
    { openClass with status := { openClass.status with selectedInstanceTypes := ["t"] } }
    .isTrue "InstanceTypeSelectionSucceeded" "Instance type selection completed successfully"

def typedStore : Store := openStore.put typedClass 2

def placedClass : IBMNodeClass :=
  withPlacement
    { typedStore.current with
      status := { typedStore.current.status with selectedSubnets := ["s"] } }
    .isTrue "SubnetSelectionSucceeded" "Selected 1 subnets across 1 zones"

def placedStore : Store := typedStore.put placedClass 3

/-- The run as it is noted at its end. -/
def placedRun : Observed :=
  ⟨placedStore, ⟨some openClass, [typesSelected, subnetsSelected foundSubnets], true⟩⟩

theorem ends_placedRun :
    Ends serving ⟨openStore, .empty⟩ reconcilePlacement (.ok .done) placedRun := by
  have typing : openStore.PatchesStatus openClass typedClass typedStore :=
    .written rfl 2 (by decide)
  have placing : typedStore.PatchesStatus typedStore.current placedClass placedStore :=
    .written rfl 3 (by decide)
  refine ⟨.ok openClass, ⟨openStore, ⟨some openClass, [], true⟩⟩,
    ⟨openStore, .refl, ⟨rfl, ?_⟩, rfl⟩, ?_⟩
  · rintro nodeClass ⟨⟩
    exact mem_singleton_self _
  refine ⟨.ok ["t"], ⟨openStore, ⟨some openClass, [typesSelected], true⟩⟩,
    ⟨openStore, .refl, rfl, rfl⟩, ?_⟩
  refine ⟨.ok typedStore.current, ⟨typedStore, ⟨some openClass, [typesSelected], true⟩⟩,
    ⟨openStore, .refl, .inl ⟨typing, ?_⟩, rfl⟩, ?_⟩
  · rintro nodeClass ⟨⟩
    rfl
  refine ⟨.ok foundSubnets, ⟨typedStore, placedRun.record⟩, ⟨typedStore, .refl, rfl, rfl⟩, ?_⟩
  refine ⟨.ok placedStore.current, placedRun, ⟨typedStore, .refl, .inl ⟨placing, ?_⟩, rfl⟩, ?_⟩
  · rintro nodeClass ⟨⟩
    rfl
  exact ⟨rfl, rfl⟩

theorem placement_condition_told_iff_sample : ∃ read, placedRun.record.read = some read ∧
      (Tells read.generation placedRun.record.outcomes placedRun.store.current.status.conditions ↔
        ToldWhen read.generation (placementCondition read.status.conditions)
          placedRun.record.outcomes) :=
  placement_condition_told_iff (.created openStore rfl) ends_placedRun (cons_ne_nil _ _) rfl

/-- In the first run on a new NodeClass both selections succeed, and the condition tells the
outcome of the first. -/
theorem first_run_tells_types :
    Reached openStore ∧ Ends serving ⟨openStore, .empty⟩ reconcilePlacement (.ok .done) placedRun ∧
      placedRun.record.clean = true ∧
      ¬ Tells 1 placedRun.record.outcomes placedRun.store.current.status.conditions := by
  refine ⟨.created openStore rfl, ends_placedRun, rfl, ?_⟩
  rintro ⟨told, ⟨⟩, found⟩
  have reasons := congrArg (Option.map Condition.reason) found
  exact absurd reasons (by decide)

end KarpenterIBM.PlacementCondition
