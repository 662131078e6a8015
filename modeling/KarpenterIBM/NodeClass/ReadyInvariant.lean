import KarpenterIBM.NodeClass.HashVerdict
import KarpenterIBM.NodeClass.ReadyStore
import KarpenterIBM.NodeClass.ValidationSound

/-!
# Ready means validated for that generation

A copy at the current version is the current object, so a patch never mixes two specs.
-/

namespace KarpenterIBM.NodeClassStatus

open ClassHash (HashCall Hashing Codec sampleCodec)
open EffectProgram Errors Function List Objects

/-! ## The invariant -/

/-- Some process validated the spec of this generation with the exchanges in its log, and
the status holds what they gave. -/
def Store.Vouched (store : Store) (generation : Nat) (status : IBMNodeClassStatus) : Prop :=
  ∃ nodeClass ∈ store.versions, nodeClass.generation = generation ∧
    ∃ pid before segment after validation, store.log pid = before ++ segment ++ after ∧
      Runs (validateNodeClass .complete nodeClass) segment (.ok validation) ∧
      validation.verdict = .ok () ∧ Computed nodeClass.spec segment status

structure Store.Chronicle (store : Store) : Prop where
  present : store.current ∈ store.versions
  distinct : ∀ first ∈ store.versions, ∀ second ∈ store.versions,
    first.resourceVersion = second.resourceVersion → first = second
  newest : ∀ version ∈ store.versions,
    version.resourceVersion ≤ store.current.resourceVersion
  generations : ∀ version ∈ store.versions, version.generation ≤ store.current.generation
  specs : ∀ first ∈ store.versions, ∀ second ∈ store.versions,
    first.generation = second.generation → first.spec = second.spec

structure Store.Inv (store : Store) (phases : Nat → Progress) : Prop where
  chronicle : store.Chronicle
  types : (store.current.status.conditions.map Condition.type).Nodup
  ready : ∀ condition ∈ store.current.status.conditions, condition.type = readyType →
    condition.status = .isTrue → store.Vouched condition.observedGeneration store.current.status
  copies : ∀ pid nodeClass, (phases pid).copy = some nodeClass → nodeClass ∈ store.versions
  logs : ∀ pid, (phases pid).trace <:+ store.log pid

variable {store : Store}

theorem Store.Chronicle.put (chron : store.Chronicle) {nodeClass : IBMNodeClass} {version : Nat}
    (fresh : store.current.resourceVersion < version)
    (generation : (nodeClass.generation = store.current.generation ∧
        nodeClass.spec = store.current.spec) ∨
      nodeClass.generation = store.current.generation + 1) :
    (store.put nodeClass version).Chronicle := by
  have older : ∀ old ∈ store.versions, old.resourceVersion < version := fun old member =>
    (chron.newest old member).trans_lt fresh
  have sameSpec : ∀ old ∈ store.versions, old.generation = nodeClass.generation →
      old.spec = nodeClass.spec := by
    intro old member same
    rcases generation with ⟨still, spec⟩ | next
    · rw [spec]
      exact chron.specs old member _ chron.present (same.trans still)
    · have := chron.generations old member
      omega
  refine ⟨mem_cons_self .., ?_, ?_, ?_, ?_⟩
  · intro first one second two same
    rcases mem_cons.mp one with rfl | one
    · rcases mem_cons.mp two with rfl | two
      · rfl
      · exact absurd same.symm (older second two).ne
    rcases mem_cons.mp two with rfl | two
    · exact absurd same (older first one).ne
    · exact chron.distinct first one second two same
  · intro old member
    rcases mem_cons.mp member with rfl | member
    · exact le_rfl
    · exact (older old member).le
  · intro old member
    rcases mem_cons.mp member with rfl | member
    · exact le_rfl
    have bound := chron.generations old member
    change old.generation ≤ nodeClass.generation
    rcases generation with ⟨still, _⟩ | next
    · omega
    · omega
  · intro first one second two same
    rcases mem_cons.mp one with rfl | one
    · rcases mem_cons.mp two with rfl | two
      · rfl
      · exact (sameSpec second two same.symm).symm
    rcases mem_cons.mp two with rfl | two
    · exact sameSpec first one same
    · exact chron.specs first one second two same

theorem Store.Chronicle.eq_current (chron : store.Chronicle) {nodeClass : IBMNodeClass}
    (mem : nodeClass ∈ store.versions)
    (unlocked : nodeClass.resourceVersion = store.current.resourceVersion) :
    nodeClass = store.current :=
  chron.distinct nodeClass mem _ chron.present unlocked

theorem Store.Vouched.grow {later : Store} {generation : Nat} {status : IBMNodeClassStatus}
    (vouched : store.Vouched generation status)
    (versions : ∀ version ∈ store.versions, version ∈ later.versions)
    (logs : ∀ pid, store.log pid <+: later.log pid) : later.Vouched generation status := by
  obtain ⟨nodeClass, mem, named, pid, before, segment, after, check, logged, run⟩ := vouched
  obtain ⟨rest, extended⟩ := logs pid
  refine ⟨nodeClass, versions nodeClass mem, named, pid, before, segment, after ++ rest, check,
    ?_, run⟩
  rw [← extended, logged]
  simp

/-! ## Steps -/

section
variable {store : Store} {phases : Nat → Progress} {pid : Nat}

theorem Store.Inv.put (inv : store.Inv phases) {nodeClass : IBMNodeClass} {version : Nat}
    (fresh : store.current.resourceVersion < version)
    (generation : (nodeClass.generation = store.current.generation ∧
        nodeClass.spec = store.current.spec) ∨
      nodeClass.generation = store.current.generation + 1)
    (types : (nodeClass.status.conditions.map Condition.type).Nodup)
    (ready : ∀ condition ∈ nodeClass.status.conditions, condition.type = readyType →
      condition.status = .isTrue →
        store.Vouched condition.observedGeneration nodeClass.status) :
    (store.put nodeClass version).Inv phases where
  chronicle := inv.chronicle.put fresh generation
  types := types
  ready := by
    intro condition mem isReady isTrue
    refine (ready condition mem isReady isTrue).grow ?_ fun _ => prefix_refl _
    exact fun old there => mem_cons_of_mem _ there
  copies := fun pid copy copied => mem_cons_of_mem _ (inv.copies pid copy copied)
  logs := inv.logs

theorem Store.Inv.edit (inv : store.Inv phases) (spec : IBMNodeClassSpec)
    (annotations : StringMap) {version : Nat}
    (fresh : store.current.resourceVersion < version) :
    (store.edit spec annotations version).Inv phases := by
  refine inv.put fresh ?_ inv.types inv.ready
  by_cases same : spec = store.current.spec
  · exact .inl ⟨if_pos same, same⟩
  · exact .inr (if_neg same)

variable {served : Store}

theorem Store.Inv.patched (inv : store.Inv phases) {stored patched : IBMNodeClass}
    (copy : stored ∈ store.versions)
    (types : stored = store.current → (patched.status.conditions.map Condition.type).Nodup)
    (ready : stored = store.current → ∀ condition ∈ patched.status.conditions,
      condition.type = readyType → condition.status = .isTrue →
        store.Vouched condition.observedGeneration patched.status)
    (patches : store.PatchesStatus stored patched served) : served.Inv phases := by
  cases patches with
  | written unlocked version fresh =>
    have same := inv.chronicle.eq_current copy unlocked
    refine inv.put fresh (.inl ⟨rfl, rfl⟩) ?_ ?_
    · rw [← same, mergeStatus_self]
      exact types same
    · rw [← same, mergeStatus_self]
      exact ready same
  | unchanged unlocked same => exact inv

theorem statusAfter_conditions (generation : Nat) (check : Validation) :
    ∃ new : Condition, new.type = readyType ∧ new.observedGeneration = generation ∧
      (new.status = .isTrue → check.verdict = .ok ()) ∧
      (statusAfter generation check).conditions =
        setStatusCondition new check.status.conditions := by
  unfold statusAfter
  cases check.verdict with
  | ok _ =>
    exact ⟨⟨readyType, .isTrue, generation, "Ready", "NodeClass is ready"⟩, rfl, rfl,
      fun _ => rfl, rfl⟩
  | error error =>
    refine ⟨⟨readyType, .isFalse, generation, "ValidationFailed", error.text⟩, rfl, rfl, ?_, rfl⟩
    rintro ⟨⟩

theorem Computed.statusAfter {spec : IBMNodeClassSpec} {trace : List validating.Exchange}
    {check : Validation} (computed : Computed spec trace check.status)
    (generation : Nat) : Computed spec trace (statusAfter generation check) := by
  unfold NodeClassStatus.statusAfter
  cases check.verdict with
  | ok _ | error error => exact computed.congr rfl rfl

variable (inv : store.Inv phases)

include inv

theorem Store.Inv.patched_status {stored patched : IBMNodeClass}
    (allowed : (phases pid).Permits (.inl (.inl (.patchStatus stored patched))))
    (patches : store.PatchesStatus stored patched served) : served.Inv phases := by
  obtain ⟨copy, check, run, written⟩ := allowed
  have member := inv.copies pid stored copy
  have kept : check.status.conditions = stored.status.conditions :=
    (validateNodeClass_uses .complete stored).ends_of_runs run check rfl
  obtain ⟨new, isReady, named, onlyAccepted, conditions⟩ :=
    statusAfter_conditions stored.generation check
  rw [kept] at conditions
  refine inv.patched member ?_ ?_ patches
  · rintro rfl
    rw [written, conditions]
    exact nodup_types_of_eq (setStatusCondition_types _ _) inv.types
  rintro rfl condition here ready isTrue
  rw [written] at here ⊢
  rw [conditions] at here
  obtain rfl := mem_setStatusCondition inv.types here (ready.trans isReady.symm)
  have accepted := onlyAccepted isTrue
  obtain ⟨before, logged⟩ := inv.logs pid
  refine ⟨_, member, named.symm, pid, before, _, [], check, ?_, run, accepted,
    (validateNodeClass_computes run accepted).statusAfter _⟩
  rw [append_nil, logged]

theorem Store.Inv.patched_placement {stored patched : IBMNodeClass}
    (allowed : (phases pid).Permits (.inl (.inr (.patchStatus stored patched))))
    (patches : store.PatchesStatus stored patched served) : served.Inv phases := by
  obtain ⟨copy, places⟩ := allowed
  refine inv.patched (inv.copies pid stored copy) ?_ ?_ patches
  · rintro rfl
    exact places.types inv.types
  rintro rfl condition mem isReady isTrue
  obtain ⟨nodeClass, here, named, who, before, segment, after, check, logged, run, accepted,
    computed⟩ := inv.ready condition (places.ready condition mem isReady) isReady isTrue
  exact ⟨nodeClass, here, named, who, before, segment, after, check, logged, run, accepted,
    computed.congr places.image places.groups⟩

theorem Store.Inv.rephase (pid : Nat) (progress : Progress)
    (copied : ∀ nodeClass, progress.copy = some nodeClass → nodeClass ∈ store.versions)
    (logged : progress.trace <:+ store.log pid) :
    store.Inv (update phases pid progress) where
  __ := inv
  copies := (forall_update_iff phases fun _ phase =>
    ∀ nodeClass, phase.copy = some nodeClass → nodeClass ∈ store.versions).mpr
      ⟨copied, fun who _ => inv.copies who⟩
  logs := (forall_update_iff phases fun who phase =>
    phase.trace <:+ store.log who).mpr ⟨logged, fun who _ => inv.logs who⟩

theorem Store.Inv.record (pid : Nat) (exchange : validating.Exchange) :
    (store.record pid exchange).Inv
      (update phases pid ⟨(phases pid).copy, (phases pid).trace ++ [exchange]⟩) where
  chronicle := { inv.chronicle with }
  types := inv.types
  ready := by
    intro condition mem isReady isTrue
    refine (inv.ready condition mem isReady isTrue).grow (fun _ => id) fun who => ?_
    by_cases same : who = pid
    · subst same
      simp [Store.record]
    · simp [Store.record, same]
  copies := (forall_update_iff phases fun _ phase =>
    ∀ nodeClass, phase.copy = some nodeClass → nodeClass ∈ store.versions).mpr
      ⟨inv.copies pid, fun who _ => inv.copies who⟩
  logs := by
    intro who
    by_cases same : who = pid
    · subst same
      obtain ⟨before, logged⟩ := inv.logs who
      refine ⟨before, ?_⟩
      simp [Store.record, ← logged]
    · simp only [Store.record, update_of_ne same]
      exact inv.logs who

theorem Store.Inv.read {nodeClass : IBMNodeClass} (mem : nodeClass ∈ store.versions)
    (exchange : validating.Exchange) :
    (store.record pid exchange).Inv (update phases pid ⟨some nodeClass, []⟩) := by
  have copied : ∀ copy, some nodeClass = some copy → copy ∈ store.versions := by
    rintro _ ⟨⟩
    exact mem
  have recorded := (inv.record pid exchange).rephase pid ⟨some nodeClass, []⟩ copied nil_suffix
  rw [update_idem] at recorded
  exact recorded

theorem Store.Inv.answersStatus {op : Call} {answer : op.Answer}
    (allowed : (phases pid).Permits (.inl (.inl op)))
    (answered : store.AnswersStatus op answer served) :
    (served.record pid ⟨op, answer⟩).Inv
      (update phases pid ((phases pid).next (.inl (.inl op)) answer)) := by
  cases op with
  | getCachedClass =>
    obtain ⟨rfl, cached⟩ := answered
    cases answer with
    | ok nodeClass => exact inv.read (cached nodeClass rfl) _
    | error error => exact inv.record pid _
  | getClass =>
    obtain ⟨rfl, direct⟩ := answered
    cases answer with
    | ok nodeClass =>
      obtain rfl := direct nodeClass rfl
      exact inv.read inv.chronicle.present _
    | error error => exact inv.record pid _
  | patchStatus stored patched =>
    rcases answered with patches | ⟨rfl, _⟩
    · exact (inv.patched_status allowed patches).record pid _
    · exact inv.record pid _
  | _ =>
    obtain rfl : served = store := answered
    exact inv.record pid _

theorem Store.Inv.answersPlacement {op : PlacementCall} {answer : op.Answer}
    (allowed : (phases pid).Permits (.inl (.inr op)))
    (answered : store.AnswersPlacement op answer served) :
    served.Inv (update phases pid ((phases pid).next (.inl (.inr op)) answer)) := by
  cases op with
  | getClass =>
    obtain ⟨rfl, cached⟩ := answered
    cases answer with
    | ok nodeClass =>
      refine inv.rephase pid ⟨some nodeClass, (phases pid).trace⟩ ?_ (inv.logs pid)
      rintro _ ⟨⟩
      exact cached nodeClass rfl
    | error error => exact inv.rephase pid (phases pid) (inv.copies pid) (inv.logs pid)
  | patchStatus stored patched =>
    rcases answered with ⟨patches, answers⟩ | ⟨rfl, error, rfl⟩
    · have written := inv.patched_placement allowed patches
      cases answer with
      | ok nodeClass =>
        refine written.rephase pid ⟨some nodeClass, (phases pid).trace⟩ ?_ (written.logs pid)
        rintro _ ⟨⟩
        rw [answers nodeClass rfl]
        exact written.chronicle.present
      | error error =>
        exact written.rephase pid (phases pid) (written.copies pid) (written.logs pid)
    · exact inv.rephase pid (phases pid) (inv.copies pid) (inv.logs pid)
  | _ =>
    obtain rfl : served = store := answered
    exact inv.rephase pid (phases pid) (inv.copies pid) (inv.logs pid)

theorem Store.Inv.answersHash {op : HashCall IBMNodeClassSpec} {answer : op.Answer}
    (answered : store.AnswersHash op answer served) : served.Inv phases := by
  cases op with
  | getClass =>
    obtain ⟨rfl, _⟩ := answered
    exact inv
  | patchClass stored patched =>
    rcases answered with ⟨_, version, fresh, rfl⟩ | ⟨rfl, _⟩
    · exact inv.edit _ _ fresh
    · exact inv
  | _ =>
    obtain rfl : served = store := answered
    exact inv

end

theorem chronicle_created (versions : store.versions = [store.current]) : store.Chronicle := by
  have only : ∀ version ∈ store.versions, version = store.current := by
    intro version mem
    rw [versions] at mem
    exact mem_singleton.mp mem
  refine ⟨?_, ?_, ?_, ?_, ?_⟩
  · rw [versions]
    exact mem_singleton_self _
  · intro first one second two _
    rw [only first one, only second two]
  · intro version mem
    rw [only version mem]
  · intro version mem
    rw [only version mem]
  · intro first one second two _
    rw [only first one, only second two]

theorem Store.Created.inv (created : store.Created) : store.Inv fun _ => ⟨none, []⟩ := by
  refine ⟨chronicle_created created.versions, ?_, ?_, ?_, ?_⟩
  · rw [created.conditions]
    exact nodup_nil
  · rw [created.conditions]
    rintro condition ⟨⟩
  · rintro pid nodeClass ⟨⟩
  · intro pid
    exact nil_suffix

def readyCertificate (hashing : Hashing IBMNodeClassSpec) (codec : Codec) :
    Certificate (classSystem hashing codec) classProtocol where
  start := ⟨none, []⟩
  crashed := id
  inv := Store.Inv
  follows := fun _ spawned => spawns_follow spawned _
  initial := fun _ => Store.Created.inv
  answers := by
    intro store phases pid op answer served inv permitted answered
    rcases op with (op | op) | op
    · obtain ⟨written, answered, rfl⟩ := answered
      exact inv.answersStatus permitted answered
    · exact inv.answersPlacement permitted answered
    · exact (inv.answersHash answered).rephase pid (phases pid)
        ((inv.answersHash answered).copies pid) ((inv.answersHash answered).logs pid)
  crash := fun store phases pid inv => inv.rephase pid _ (inv.copies pid) (inv.logs pid)
  environment := by
    rintro store phases _ inv ⟨spec, annotations, version, fresh⟩
    exact inv.edit spec annotations fresh

/-! ## Ready -/

/-- A Ready condition that is true names a generation whose spec a whole validation has
accepted; the image and the security groups are those this validation computed from the
spec, and every version of that generation has the spec. -/
theorem ready_means_validated (hashing : Hashing IBMNodeClassSpec) (codec : Codec)
    {config : Config (classSystem hashing codec)} (reachable : config.Reachable)
    {condition : Condition} (member : condition ∈ config.world.current.status.conditions)
    (ready : condition.type = readyType) (isTrue : condition.status = .isTrue) :
    ∃ nodeClass ∈ config.world.versions, nodeClass.generation = condition.observedGeneration ∧
      (∀ version ∈ config.world.versions, version.generation = condition.observedGeneration →
        version.spec = nodeClass.spec) ∧
      ∃ pid before segment after validation, config.world.log pid = before ++ segment ++ after ∧
        Runs (validateNodeClass .complete nodeClass) segment (.ok validation) ∧
        validation.verdict = .ok () ∧
        Computed nodeClass.spec segment config.world.current.status := by
  obtain ⟨phases, holds⟩ := (readyCertificate hashing codec).holds_of_reachable reachable
  have inv : config.world.Inv phases := holds.inv
  obtain ⟨nodeClass, here, named, vouched⟩ := inv.ready condition member ready isTrue
  refine ⟨nodeClass, here, named, ?_, vouched⟩
  intro version there same
  exact inv.chronicle.specs version there nodeClass here (same.trans named.symm)

theorem leads_through_checks {hashing : Hashing IBMNodeClassSpec} {codec : Codec} {pid : Nat}
    {goal : Prog controllers GoError Unit → Store → Prop} {α : Type} {program : Program α}
    {next : α → Program Unit} {trace : List validating.Exchange} {value : α}
    (checks : Only Checks program) (run : Runs program trace (.ok value))
    (later : ∀ log, Leads (classSystem hashing codec) pid goal
      (((next value).onLeft placing).onLeft _) { store with log := log }) :
    Leads (classSystem hashing codec) pid goal
      (((program >>= next).onLeft placing).onLeft _) store := by
  induction program generalizing trace store with
  | pure other =>
    obtain ⟨_, ⟨⟩⟩ := run
    exact later store.log
  | fail error => exact nomatch run.2
  | call op rest ih =>
    obtain ⟨answer, trace, rfl, run⟩ := run
    have unmoved : store.AnswersStatus op answer store := by
      cases op with
      | getCachedClass | getClass | patchStatus stored patched => exact checks.1.elim
      | _ => rfl
    exact .step (S := controllers) (.inl (.inl op)) answer ⟨store, unmoved, rfl⟩
      (ih answer (checks.2 answer) run later)

def sampleStore : Store := ⟨sampleClass, [sampleClass], fun _ => []⟩

def sampleHashing : Hashing IBMNodeClassSpec := ⟨fun _ => (1, none), fun _ => (2, none)⟩

def IsReady (store : Store) : Prop :=
  ∃ condition ∈ store.current.status.conditions,
    condition.type = readyType ∧ condition.status = .isTrue

theorem sample_leads_to_ready :
    Leads (classSystem sampleHashing sampleCodec) 0 (fun _ store => IsReady store)
      (((finished (reconcileStatus .complete)).onLeft placing).onLeft _) sampleStore := by
  obtain ⟨check, after, validates, accepted⟩ := sample_validates "r006-vpc-a"
  obtain ⟨trace, run⟩ := validates.ends.runs
  refine .step (S := controllers) (.inl (.inl .getCachedClass)) (.ok sampleClass)
    ⟨sampleStore, ⟨rfl, ?_⟩, rfl⟩ ?_
  · rintro _ ⟨⟩
    exact mem_singleton_self _
  change Leads _ _ _ (((reconcileStatusOf .complete sampleClass >>= fun _ => pure ()).onLeft
    placing).onLeft _) _
  rw [reconcileStatusOf, bind_assoc]
  refine leads_through_checks (validateNodeClass_checks .complete sampleClass) run fun log => ?_
  refine .step (S := controllers) (.inl (.inl (.patchStatus sampleClass _))) (.ok ())
    ⟨_, .inl (.written rfl 1 Nat.one_pos), rfl⟩ (.reached ?_)
  refine ⟨⟨readyType, .isTrue, 1, "Ready", "NodeClass is ready"⟩, ?_, rfl, rfl⟩
  change _ ∈ (mergeStatus sampleClass.status (statusAfter 1 check) sampleClass.status).conditions
  rw [mergeStatus_self, statusAfter, accepted]
  exact self_mem_setStatusCondition ..

theorem ready_means_validated_sample :
    ∃ config : Config (classSystem sampleHashing sampleCodec), config.Reachable ∧
      ∃ condition ∈ config.world.current.status.conditions,
        condition.type = readyType ∧ condition.status = .isTrue ∧
        ∃ nodeClass ∈ config.world.versions, nodeClass.generation = condition.observedGeneration ∧
          ∃ segment validation,
            Runs (validateNodeClass .complete nodeClass) segment (.ok validation) ∧
            validation.verdict = .ok () ∧
            Computed nodeClass.spec segment config.world.current.status := by
  obtain ⟨_, last, ⟨condition, member, ready, isTrue⟩, steps⟩ :=
    sample_leads_to_ready.started .status (fun _ => .unused) rfl
  have reachable : Config.Reachable (Y := classSystem sampleHashing sampleCodec) _ :=
    ⟨_, ⟨⟨rfl, rfl⟩, fun _ => rfl⟩, steps⟩
  obtain ⟨nodeClass, here, named, _, _, _, segment, _, validation, _, run, accepted, computed⟩ :=
    ready_means_validated sampleHashing sampleCodec reachable member ready isTrue
  exact ⟨_, reachable, condition, member, ready, isTrue, nodeClass, here, named, segment,
    validation, run, accepted, computed⟩

end KarpenterIBM.NodeClassStatus
