import KarpenterIBM.IKS.RecordProtocol

/-!
# The IKS runs keep to the protocol of the records

One specification for each part of a launch in its turn, of `cleanup`, of `ConfirmGone` and of
the controller.
-/

namespace KarpenterIBM.AllocationRecords

open Calls EffectProgram Errors IKSAllocation List Objects Ownership WriteOnce

/-! ## Calls that tell nothing about the records -/

def Ambient (locked : Bool) : Call → Prop
  | .getNodeClass _ | .getNamespaceUID | .listNodes | .deleteNode _ | .iksClient
  | .listWorkers _ | .getWorkerDetails _ _ | .deleteWorkerPool _ _ | .getInstanceType _ _
  | .filterInstanceTypes _ => True
  | .getWorkerPool _ _ => locked = false
  | _ => False

variable (platform : Platform)

section
variable {locked : Bool}

theorem quiet_getInstanceType (flavor : String) (nodeClass : IBMNodeClass) :
    Quiet (Ambient locked) (getInstanceType flavor nodeClass) :=
  Quiet.wrapped _ (quiet_ask trivial)

theorem quiet_getIKSClient : Quiet (Ambient locked) getIKSClient := quiet_ask trivial

theorem quiet_listWorkers (cluster : String) : Quiet (Ambient locked) (listWorkers cluster) :=
  quiet_ask trivial

theorem errorForeign_mergeLabels (labels extra : StringMap) :
    ErrorForeign (mergeLabels labels extra) := by
  unfold mergeLabels
  split
  · rfl
  · trivial

theorem errorForeign_mergeBoth (labels first second : StringMap) :
    ErrorForeign (match mergeLabels labels first with
      | .error error => .error error
      | .ok merged => mergeLabels merged second) := by
  have foreign := errorForeign_mergeLabels labels first
  split
  · rename_i failed
    rw [failed] at foreign
    exact foreign
  · exact errorForeign_mergeLabels _ _

variable (claim : NodeClaim) (nodeClass : IBMNodeClass)

theorem errorForeign_resolvedLabels (pools : IKSDynamicPoolConfig) (flavor : String)
    (type : InstanceType) :
    ErrorForeign (resolvedLabels platform claim nodeClass pools flavor type) := by
  unfold resolvedLabels
  exact errorForeign_mergeBoth _ _ _

theorem errorForeign_maximumPrice : ErrorForeign (maximumPrice platform nodeClass) := by
  unfold maximumPrice
  split
  · trivial
  split
  · trivial
  split
  · rfl
  split
  · rfl
  · trivial

theorem errorForeign_checkOfferings (limit : Option Rat) (type : InstanceType) :
    ErrorForeign (checkOfferings platform claim nodeClass limit type) := by
  unfold checkOfferings
  dsimp only
  split
  · rfl
  split
  · rfl
  · trivial

theorem quiet_meetsRequirements (flavor : String) :
    Quiet (Ambient locked) (meetsRequirements nodeClass flavor) := by
  unfold meetsRequirements
  split
  · exact quiet_pure _
  refine Quiet.bind (quiet_ask trivial) ?_
  intro filtered
  split
  · exact quiet_pure _
  · exact quiet_failWith _

theorem quiet_validateInstanceType (pools : IKSDynamicPoolConfig) (flavor : String) :
    Quiet (Ambient locked) (validateInstanceType platform claim nodeClass pools flavor) := by
  unfold validateInstanceType
  refine Quiet.bind (quiet_getInstanceType flavor nodeClass) fun type => quiet_unless ?_
  refine Quiet.bind (quiet_meetsRequirements nodeClass flavor) fun _ => ?_
  refine Quiet.bind (quiet_ofExcept _ (errorForeign_resolvedLabels platform claim nodeClass pools
    flavor type)) fun labels => ?_
  refine Quiet.bind (Quiet.wrapped _ (quiet_answered _)) fun _ => ?_
  refine Quiet.bind
    (quiet_ofExcept _ (errorForeign_maximumPrice platform nodeClass)) fun limit => ?_
  exact Quiet.bind (quiet_ofExcept _ (errorForeign_checkOfferings platform claim nodeClass limit
    type)) fun _ => quiet_pure _

theorem quiet_chooseFlavor (cluster : String) :
    Quiet (Ambient false) (chooseFlavor claim nodeClass cluster) := by
  unfold chooseFlavor
  generalize (if nodeClass.spec.instanceProfile = "" then
    StringMap.read claim.labels instanceTypeLabel else nodeClass.spec.instanceProfile) = flavor
  dsimp only
  split
  · exact quiet_pure _
  exact Quiet.bind (Quiet.wrapped _ (quiet_ask rfl)) fun _ => quiet_unless (quiet_pure _)

theorem quiet_workerGone (cluster workerID : String) :
    Quiet (Ambient locked) (workerGone cluster workerID) := by
  unfold workerGone
  refine Quiet.attempt_bind (quiet_ask trivial) ?_
  intro out foreign
  cases out with
  | ok worker => exact quiet_pure _
  | error error =>
    dsimp only
    split
    · exact quiet_pure _
    · exact foreign

theorem quiet_registeredNode (providerID : String) :
    Quiet (Ambient locked) (registeredNode providerID) := by
  unfold registeredNode
  refine Quiet.bind (Quiet.wrapped _ (quiet_ask trivial)) ?_
  intro nodes
  refine quiet_ofExcept _ ?_
  unfold registeredIn
  split
  · trivial
  · trivial
  · rfl

end

/-- Keeps to the protocol of the records as long as the answers are credible. -/
abbrev Obeys (claimName : String) {α : Type} (spec : Except GoError α → Phase → Prop)
    (phase : Phase) (program : Program α) : Prop :=
  Meets (reliance platform claimName) spec phase program

def Alike (phase final : Phase) : Prop :=
  ∃ mark, final = { phase with broken := mark }

theorem Alike.refl (phase : Phase) : Alike phase phase := ⟨phase.broken, rfl⟩

theorem Alike.trans {first second third : Phase} (left : Alike first second)
    (right : Alike second third) : Alike first third := by
  obtain ⟨mark, rfl⟩ := left
  obtain ⟨later, rfl⟩ := right
  exact ⟨later, rfl⟩

variable {platform : Platform} {claimName : String} {α β : Type}
  {phase : Phase}

theorem ambient_stays {kept : Phase} {op : Call} (ambient : Ambient phase.lock.isSome op)
    (alike : Alike phase kept) :
    (recordProtocol platform claimName).permits kept op ∧
      ∀ answer, Alike phase ((recordProtocol platform claimName).next kept op answer) := by
  obtain ⟨mark, rfl⟩ := alike
  cases op with
  | getNodeClass name =>
    refine ⟨.inr trivial, fun answer => ?_⟩
    cases answer <;> exact ⟨_, rfl⟩
  | getWorkerPool cluster pool =>
    refine ⟨.inr trivial, fun answer => ⟨mark, ?_⟩⟩
    have unlocked : phase.lock = none := by
      rw [← Option.not_isSome_iff_eq_none, show phase.lock.isSome = false from ambient]
      exact Bool.false_ne_true
    cases answer with
    | error error => rfl
    | ok found =>
      simp only [recordProtocol, Phase.next, unlocked, reduceCtorEq, if_false]
  | getNamespaceUID | listNodes | deleteNode node | iksClient | listWorkers cluster
  | getWorkerDetails cluster workerID | deleteWorkerPool cluster pool
  | getInstanceType flavor nodeClass | filterInstanceTypes requirements =>
    exact ⟨.inr trivial, fun _ => ⟨mark, rfl⟩⟩
  | _ => exact ambient.elim

theorem meets_quiet {program : Program α} (quiet : Quiet (Ambient phase.lock.isSome) program) :
    Obeys platform claimName
      (fun out final => ErrorForeign out ∧ Alike phase final) phase program := by
  have follows := Uses.follows (P := recordProtocol platform claimName) (Alike phase) quiet
    (fun op kept ambient alike => ambient_stays ambient alike) (Alike.refl phase)
  exact follows.mono fun out final => Or.inr

variable {spec : Except GoError α → Phase → Prop}

theorem quiet_bind {program : Program β} {next : β → Program α}
    (quiet : Quiet (Ambient phase.lock.isSome) program)
    (second : ∀ value mark, Obeys platform claimName spec
      { phase with broken := mark } (next value))
    (failure : ∀ error mark, spec (.error error) { phase with broken := mark }) :
    Obeys platform claimName spec phase (program >>= next) := by
  refine Meets.bind (meets_quiet quiet) ?_ ?_
  · rintro value final ⟨_, mark, rfl⟩
    exact second value mark
  · rintro error final ⟨_, mark, rfl⟩
    exact failure error mark

/-! ## New allocations -/

structure Unidentified (allocation : Allocation) : Prop where
  valid : valid allocation = true
  pool : allocation.poolID = ""
  worker : allocation.workerID = ""

theorem accountMatches_ne {accountID : String} (matching : accountMatches accountID = true) :
    accountID ≠ "" := by
  rintro rfl
  revert matching
  decide

theorem poolNameOf_ne (platform : Platform) (clusterUID claimUID : String) :
    poolNameOf platform clusterUID claimUID ≠ "" := by
  intro blank
  have characters := congrArg String.toList blank
  simp [poolNameOf] at characters

theorem clusterUID_meets (phase : Phase) : Obeys platform claimName
      (fun out final => Alike phase final ∧ ∀ uid, out = .ok uid → uid ≠ "") phase
      clusterUID := by
  refine meets_call (.inr trivial) ?_
  intro answer _
  cases answer with
  | error error => exact meets_fail ⟨Alike.refl phase, nofun⟩
  | ok uid =>
    refine meets_ite (fun _ => meets_fail ⟨Alike.refl phase, nofun⟩) fun found => ?_
    refine meets_pure ⟨Alike.refl phase, ?_⟩
    rintro _ ⟨⟩
    exact found

theorem not_built (error : GoError) (mark : Bool) : Alike phase { phase with broken := mark } ∧
    ∀ allocation, (.error error : Except GoError Allocation) = .ok allocation →
      Unidentified allocation :=
  ⟨⟨mark, rfl⟩, nofun⟩

variable {claim : NodeClaim}

section
variable (named : platform.allocationNamespace ≠ "")

include named

theorem unidentified_allocationFor {nodeClass : IBMNodeClass} (pools : IKSDynamicPoolConfig)
    {clusterID cluster flavor : String} (hash : String) (labels : StringMap) (type : InstanceType)
    (claimUID : claim.uid ≠ "") (classUID : nodeClass.uid ≠ "")
    (region : nodeClass.spec.region ≠ "") (clusterSet : clusterID ≠ "") (clusterUID : cluster ≠ "")
    (account : accountMatches platform.configuredAccount = true) (flavorSet : flavor ≠ "")
    (zone : nodeClass.spec.zone ≠ "") :
    Unidentified (allocationFor platform claim nodeClass pools clusterID cluster flavor hash labels
      type) := by
  refine ⟨?_, rfl, rfl⟩
  have accountSet := accountMatches_ne account
  have pool := poolNameOf_ne platform cluster claim.uid
  simp [valid, identityComplete, snapshotValid, allocationFor, claimUID, classUID, region,
    clusterSet, clusterUID, account, accountSet, flavorSet, zone, pool, named]

theorem buildAllocation_meets (phase : Phase) (unlocked : phase.lock = none) (claim : NodeClaim)
    (nodeClass : IBMNodeClass) (pools : IKSDynamicPoolConfig) (clusterID : String)
    (claimUID : claim.uid ≠ "") (classUID : nodeClass.uid ≠ "")
    (region : nodeClass.spec.region ≠ "") (clusterSet : clusterID ≠ "") :
    Obeys platform claimName (fun out final => Alike phase final ∧
        ∀ allocation, out = .ok allocation → Unidentified allocation) phase
      (buildAllocation platform claim nodeClass pools clusterID) := by
  unfold buildAllocation
  have outside : phase.lock.isSome = false := by rw [unlocked]; rfl
  refine Meets.bind (clusterUID_meets phase) ?_ ?_
  · rintro cluster final ⟨⟨mark, rfl⟩, clusterUID⟩
    split
    · exact meets_fail (not_built _ _)
    rename_i account
    split
    · exact meets_fail (not_built _ _)
    refine quiet_bind (outside ▸ quiet_chooseFlavor claim nodeClass clusterID) ?_ not_built
    intro flavor mark
    split
    · exact meets_fail (not_built _ _)
    rename_i required
    rw [not_or, not_or] at required
    split
    · exact meets_fail (not_built _ _)
    refine quiet_bind (quiet_validateInstanceType platform claim nodeClass pools flavor) ?_
      not_built
    intro labels mark
    refine quiet_bind (quiet_getInstanceType flavor nodeClass) ?_ not_built
    intro type mark
    refine quiet_bind (quiet_answered _) ?_ not_built
    intro hash mark
    refine meets_pure ⟨⟨mark, rfl⟩, ?_⟩
    rintro allocation ⟨⟩
    exact unidentified_allocationFor named pools hash labels type claimUID classUID
      region clusterSet (clusterUID cluster rfl) (Bool.not_eq_false _ ▸ account) required.1
      required.2.1
  · rintro error final ⟨⟨mark, rfl⟩, _⟩
    exact not_built error mark

theorem newAllocation_meets (phase : Phase) (unlocked : phase.lock = none) (claim : NodeClaim)
    (className : String) :
    Obeys platform claimName (fun out final => Alike phase final ∧
        ∀ allocation, out = .ok allocation → Unidentified allocation) phase
      (newAllocation platform claim className) := by
  refine meets_call (.inr trivial) ?_
  intro answer credible
  cases answer with
  | error error => exact meets_fail (not_built _ _)
  | ok nodeClass =>
    have region : nodeClass.spec.region ≠ "" := by
      intro blank
      refine credible ?_
      change (phase.broken || decide (nodeClass.spec.region = "")) = true
      simp [blank]
    refine meets_ite (fun _ => meets_fail (not_built _ _)) fun clusterSet => ?_
    refine quiet_bind quiet_getIKSClient ?_ not_built
    intro client mark
    split
    · exact meets_fail (not_built _ _)
    split
    · exact meets_fail (not_built _ _)
    split
    · exact meets_fail (not_built _ _)
    rename_i owned
    rw [not_or] at owned
    split
    · exact meets_fail (not_built _ _)
    refine Meets.mono (buildAllocation_meets named { phase with broken := mark }
      unlocked claim nodeClass _ _ owned.1 owned.2 region clusterSet) ?_
    rintro out final ⟨alike, made⟩
    exact ⟨Alike.trans ⟨mark, rfl⟩ alike, made⟩

end

/-! ## The checkpoint on the claim -/

structure Planned (phase : Phase) (allocation : Allocation) : Prop where
  turn : phase.turn = true
  lock : phase.lock = some (poolOf allocation)
  valid : valid allocation = true
  known : ∃ value, phase.known = some value ∧ Replaces value allocation
  backed : phase.Backs allocation

structure Stored (phase final : Phase) (allocation : Allocation) : Prop where
  present : phase.gone = false
  turn : final.turn = true
  lock : final.lock = phase.lock
  known : final.known = some (.allocation allocation)
  admitted : final.admitted = true
  member : allocation ∈ final.seen
  seen : phase.seen ⊆ final.seen
  held : final.held = phase.held

theorem noted_subset (value : Value) (seen : List Allocation) : seen ⊆ noted value seen := by
  cases value with
  | allocation allocation => exact subset_cons_self _ _
  | _ => exact List.Subset.refl _

variable {final : Phase} {allocation : Allocation}

theorem Phase.Backs.mono (backs : phase.Backs allocation) (seen : phase.seen ⊆ final.seen) :
    final.Backs allocation where
  pool := backs.pool.imp_right fun ⟨other, mem, same⟩ => ⟨other, seen mem, same⟩
  worker := backs.worker.imp_right fun ⟨other, mem, same⟩ => ⟨other, seen mem, same⟩

theorem backs_of_mem (mem : allocation ∈ phase.seen) : phase.Backs allocation :=
  ⟨.inr ⟨allocation, mem, rfl⟩, .inr ⟨allocation, mem, rfl⟩⟩

theorem checkpoint_meets (phase : Phase) (allocation : Allocation)
    (planned : phase.gone = false → Planned phase allocation) :
    Obeys platform claimName (fun out final => out = .ok () → Stored phase final allocation) phase
      (checkpoint allocation) := by
  refine meets_call (.inr trivial) ?_
  intro answer credible
  cases answer with
  | error error => exact meets_fail nofun
  | ok fresh =>
    have trusted : (phase.broken || phase.gone ||
        phase.known.any fun value => decide (value ≠ allocationOf fresh)) = false :=
      Bool.eq_false_iff.mpr credible
    rw [Bool.or_eq_false_iff, Bool.or_eq_false_iff] at trusted
    have planned := planned trusted.1.2
    obtain ⟨value, known, replaces⟩ := planned.known
    have same : value = allocationOf fresh := by
      have agrees := trusted.2
      rw [known] at agrees
      simpa using agrees
    subst same
    refine meets_ite (fun _ => meets_fail nofun) fun owned => ?_
    rw [not_or, not_not, not_not] at owned
    refine meets_call (.inr ⟨rfl, .inl ⟨allocation, owned.2, rfl, planned.turn, planned.lock,
      planned.valid, replaces, planned.backed.mono (noted_subset _ _)⟩⟩) ?_
    intro answer _
    cases answer with
    | error error => exact meets_fail nofun
    | ok version =>
      have record := allocationOf_withAllocation fresh allocation
      refine meets_pure fun _ => ⟨trusted.1.2, planned.turn, rfl, ?_, ?_, ?_, ?_, rfl⟩
      · change (if phase.turn then _ else none) = _
        rw [if_pos planned.turn, record]
      · change (phase.admitted || (phase.lock.isSome && isAllocation _)) = true
        rw [record, planned.lock]
        exact Bool.or_true _
      · change allocation ∈ noted (allocationOf (withAllocation fresh allocation)) _
        rw [record]
        exact mem_cons_self
      · exact List.Subset.trans (noted_subset _ _) (noted_subset _ _)

/-! ## The reservation -/

def Written (phase final : Phase) : Prop :=
  ∃ held seen mark, phase.seen ⊆ seen ∧
    final = { phase with held := held, seen := seen, broken := mark }

theorem Written.refl (phase : Phase) : Written phase phase := ⟨_, _, _, List.Subset.refl _, rfl⟩

structure Handling (platform : Platform) (phase : Phase) (allocation : Allocation)
    (reservation : ConfigMap) : Prop where
  lock : phase.lock = some (poolOf allocation)
  held : phase.held = some reservation
  keyed : phase.keyed platform reservation.namespace reservation.name = true
  backed : phase.Backs allocation
  record : ∃ old, recordOf reservation = .allocation old ∧ Extends old allocation

structure Reserved (platform : Platform) (phase final : Phase) (allocation : Allocation)
    (reservation : ConfigMap) : Prop where
  written : Written phase final
  held : final.held = some reservation
  keyed : final.keyed platform reservation.namespace reservation.name = true
  noted : ∀ recorded, recordOf reservation = .allocation recorded → recorded ∈ final.seen

theorem keyed_of_mem {«namespace» name : String} (mem : allocation ∈ phase.seen)
    (lock : phase.lock = some (poolOf allocation)) (space : «namespace» = allocation.namespace)
    (digest : name = reservationName platform allocation.clusterID allocation.poolName) :
    phase.keyed platform «namespace» name = true := by
  rw [Phase.keyed, any_eq_true]
  exact ⟨allocation, mem, by simp [lock, space, digest]⟩

variable {reservation : ConfigMap}

theorem reserved_hold (mark : Bool) (mem : allocation ∈ phase.seen)
    (lock : phase.lock = some (poolOf allocation))
    (space : reservation.namespace = allocation.namespace)
    (digest : reservation.name =
      reservationName platform allocation.clusterID allocation.poolName) :
    Reserved platform phase ((phase.doubt mark).hold platform reservation) allocation
      reservation := by
  have keyed : (phase.doubt mark).keyed platform reservation.namespace reservation.name = true :=
    keyed_of_mem mem lock space digest
  have held : (phase.doubt mark).hold platform reservation =
      { phase.doubt mark with
        held := some reservation, seen := noted (recordOf reservation) phase.seen } := if_pos keyed
  rw [held]
  refine ⟨⟨_, _, _, noted_subset _ _, rfl⟩, rfl, ?_, ?_⟩
  · exact keyed_of_mem (noted_subset _ _ mem) lock space digest
  intro recorded record
  change recorded ∈ noted (recordOf reservation) phase.seen
  rw [record]
  exact mem_cons_self

theorem not_doubted {doubt : Bool}
    (credible : ¬ ((phase.doubt doubt).hold platform reservation).broken = true) :
    doubt = false := by
  by_contra doubted
  rw [Bool.not_eq_false] at doubted
  refine credible (Phase.broken_hold platform ?_ reservation)
  rw [doubted]
  exact Bool.or_true _

theorem reserve_meets (phase : Phase) (allocation : Allocation) (mem : allocation ∈ phase.seen)
    (lock : phase.lock = some (poolOf allocation)) :
    Obeys platform claimName
      (fun out final => Written phase final ∧ ∀ reservation, out = .ok reservation →
        Reserved platform phase final allocation reservation) phase
      (reserve platform allocation) := by
  have checks : ∀ reservation final, Reserved platform phase final allocation reservation →
      Obeys platform claimName
        (fun out final => Written phase final ∧ ∀ reservation, out = .ok reservation →
          Reserved platform phase final allocation reservation) final
        (if ownsReservation allocation reservation then pure reservation
          else failWith "worker pool reservation belongs to another owner") := by
    intro reservation final reserved
    split
    · refine meets_pure ⟨reserved.written, ?_⟩
      rintro _ ⟨⟩
      exact reserved
    · exact meets_fail ⟨reserved.written, nofun⟩
  refine meets_call (.inr trivial) ?_
  intro answer credible
  cases answer with
  | ok found =>
    have same := not_doubted credible
    rw [Bool.or_eq_false_iff, decide_eq_false_iff_not, decide_eq_false_iff_not, not_not,
      not_not] at same
    exact checks found _ (reserved_hold _ mem lock same.1 same.2)
  | error error =>
    refine meets_ite (fun _ => ?_) fun _ => meets_fail ⟨.refl phase, nofun⟩
    refine meets_call (.inr ⟨allocation, mem, rfl, lock⟩) ?_
    intro answer credible
    cases answer with
    | error error => exact meets_fail ⟨.refl phase, nofun⟩
    | ok created =>
      have made := not_doubted credible
      rw [decide_eq_false_iff_not, not_not] at made
      refine checks created _ (reserved_hold _ mem lock ?_ ?_)
      · rw [made]
        rfl
      · rw [made]
        rfl

theorem Reserved.restored {restored : Allocation}
    (reserved : Reserved platform phase final allocation reservation)
    (mem : allocation ∈ phase.seen) (lock : phase.lock = some (poolOf allocation))
    (out : restoreReservation allocation reservation = .ok restored) :
    Handling platform final restored reservation ∧ Extends allocation restored := by
  obtain ⟨recorded, record, _, agree, rfl⟩ := restoreReservation_iff.mp out
  have read := reserved.noted recorded record
  obtain ⟨extendsFirst, extendsSecond⟩ := agree.completed
  have before : allocation ∈ final.seen := by
    obtain ⟨_, seen, _, subset, rfl⟩ := reserved.written
    exact subset mem
  have locked : final.lock = phase.lock := by
    obtain ⟨_, _, _, _, rfl⟩ := reserved.written
    rfl
  have backed : final.Backs (completed allocation recorded) := by
    constructor
    · by_cases blank : allocation.poolID = ""
      · refine .inr ⟨recorded, read, ?_⟩
        simp [completed, blank, fill]
      · refine .inr ⟨allocation, before, ?_⟩
        simp [completed, blank, fill]
    · by_cases blank : allocation.workerID = ""
      · refine .inr ⟨recorded, read, ?_⟩
        simp [completed, blank, fill]
      · refine .inr ⟨allocation, before, ?_⟩
        simp [completed, blank, fill]
  exact ⟨⟨locked.trans lock, reserved.held, reserved.keyed, backed, recorded, record,
    extendsSecond⟩, extendsFirst⟩

theorem keyed_mono {«namespace» name : String} (lock : final.lock = phase.lock)
    (seen : phase.seen ⊆ final.seen) (keyed : phase.keyed platform «namespace» name = true) :
    final.keyed platform «namespace» name = true := by
  rw [Phase.keyed, any_eq_true] at keyed ⊢
  obtain ⟨allocation, mem, named⟩ := keyed
  rw [← lock] at named
  exact ⟨allocation, seen mem, named⟩

theorem Handling.mono (handling : Handling platform phase allocation reservation)
    (lock : final.lock = phase.lock) (held : final.held = phase.held)
    (seen : phase.seen ⊆ final.seen) :
    Handling platform final allocation reservation where
  lock := lock.trans handling.lock
  held := held.trans handling.held
  keyed := keyed_mono lock seen handling.keyed
  backed := handling.backed.mono seen
  record := handling.record

theorem Phase.Backs.records {old : Allocation} (backs : phase.Backs allocation)
    (keeps : Extends old allocation) : phase.Records old allocation :=
  ⟨keeps, backs.pool.imp_right .inl, backs.worker.imp_right .inl⟩

structure Updated (platform : Platform) (phase final : Phase) (updated : Allocation)
    (reservation : ConfigMap) : Prop where
  handling : Handling platform final updated reservation
  record : recordOf reservation = .allocation updated
  member : updated ∈ final.seen

theorem record_meets {updated : Allocation} {stored : ConfigMap}
    (handling : Handling platform phase allocation stored)
    (records : ∀ old, recordOf stored = .allocation old → Extends old allocation →
      phase.Records old updated) (kind : ReservationPhase) (started : Option Nat) (lead : String) :
    Obeys platform claimName
      (fun out final => Written phase final ∧ ∀ reservation, out = .ok reservation →
        Updated platform phase final updated reservation) phase
      (wrapped lead (patchConfigMap stored
        { stored with data := updatedData stored.data updated kind started })) := by
  obtain ⟨old, record, keeps⟩ := handling.record
  have written := records old record keeps
  have same : poolOf updated = poolOf allocation := by
    have snapshot := written.keeps.snapshot.symm.trans keeps.snapshot
    obtain ⟨cluster, pool, _⟩ := snapshotOf_eq snapshot
    rw [poolOf, poolOf, cluster, pool]
  refine meets_call (.inr ⟨handling.held, old, updated, kind, started, record, rfl, written⟩) ?_
  intro answer _
  cases answer with
  | error error => exact meets_fail ⟨⟨_, _, _, List.Subset.refl _, rfl⟩, nofun⟩
  | ok version =>
    have noting : recordOf { stored with
        data := updatedData stored.data updated kind started } = .allocation updated :=
      read_record_updated ..
    have subset := noted_subset (recordOf { stored with
      data := updatedData stored.data updated kind started }) phase.seen
    have mem : updated ∈ noted (recordOf { stored with
        data := updatedData stored.data updated kind started }) phase.seen := by
      rw [noting]
      exact mem_cons_self
    refine meets_pure ⟨⟨_, _, _, subset, rfl⟩, ?_⟩
    rintro _ ⟨⟩
    refine ⟨⟨?_, rfl, ?_, backs_of_mem mem, updated, noting, .refl _⟩, noting, mem⟩
    · rw [same]
      exact handling.lock
    refine keyed_mono ?_ ?_ handling.keyed
    · rfl
    · exact subset

theorem update_meets {updated : Allocation} {stored : ConfigMap}
    (handling : Handling platform phase allocation stored)
    (records : ∀ old, recordOf stored = .allocation old → Extends old allocation →
      phase.Records old updated) (kind : ReservationPhase) :
    Obeys platform claimName
      (fun out final => Written phase final ∧ ∀ reservation, out = .ok reservation →
        Updated platform phase final updated reservation) phase
      (updateReservation stored updated kind) := by
  unfold updateReservation
  split
  · refine meets_call (.inr trivial) ?_
    intro time _
    exact record_meets handling records kind (some time) _
  · exact record_meets handling records kind none _

/-! ## A launch in its turn -/

structure Launching (phase : Phase) (allocation : Allocation) : Prop where
  turn : phase.turn = true
  admitted : phase.admitted = true
  valid : valid allocation = true
  known : ∃ prior, phase.known = some (.allocation prior) ∧ Extends prior allocation

section
variable (launching : Launching phase allocation)

include launching

theorem Launching.mono (turn : final.turn = phase.turn) (admitted : final.admitted = phase.admitted)
    (known : final.known = phase.known) :
    Launching final allocation :=
  ⟨turn.trans launching.turn, admitted.trans launching.admitted, launching.valid,
    known ▸ launching.known⟩

theorem Launching.written (written : Written phase final) : Launching final allocation := by
  obtain ⟨_, _, _, _, rfl⟩ := written
  exact launching.mono rfl rfl rfl

theorem Launching.extend {later : Allocation} (keeps : Extends allocation later) :
    Launching phase later := by
  obtain ⟨prior, known, before⟩ := launching.known
  exact ⟨launching.turn, launching.admitted,
    (valid_of_snapshot keeps.snapshot).symm.trans launching.valid, prior, known,
    before.trans keeps⟩

theorem Launching.planned (lock : phase.lock = some (poolOf allocation))
    (backed : phase.Backs allocation) : Planned phase allocation := by
  obtain ⟨prior, known, keeps⟩ := launching.known
  exact ⟨launching.turn, lock, launching.valid, ⟨_, known, .inr ⟨prior, rfl, keeps⟩⟩, backed⟩

end

theorem Stored.launching (stored : Stored phase final allocation)
    (accepted : AllocationRecords.valid allocation = true) : Launching final allocation :=
  ⟨stored.turn, stored.admitted, accepted, allocation, stored.known, .refl _⟩

structure Launched (platform : Platform) (phase : Phase) (allocation : Allocation)
    (reservation : ConfigMap) : Prop where
  handling : Handling platform phase allocation reservation
  launching : Launching phase allocation

theorem Launched.mono (made : Launched platform phase allocation reservation)
    (lock : final.lock = phase.lock) (held : final.held = phase.held)
    (seen : final.seen = phase.seen) (turn : final.turn = phase.turn)
    (admitted : final.admitted = phase.admitted) (known : final.known = phase.known) :
    Launched platform final allocation reservation :=
  ⟨made.handling.mono lock held (seen ▸ List.Subset.refl _),
    made.launching.mono turn admitted known⟩

structure Identifies (allocation identified : Allocation) : Prop where
  keeps : Extends allocation identified
  pool : allocation.poolID = "" ∨ identified.poolID = allocation.poolID
  worker : allocation.workerID = "" ∨ identified.workerID = allocation.workerID

theorem Identifies.records {identified old : Allocation}
    (identifies : Identifies allocation identified)
    (made : Launched platform phase allocation reservation) (keeps : Extends old allocation) :
    phase.Records old identified where
  keeps := keeps.trans identifies.keeps
  pool := by
    rcases identifies.pool with blank | same
    · have missing := keeps.pool
      rw [blank] at missing
      exact .inr (.inr ⟨missing.eq_blank, .inl made.launching.admitted⟩)
    · rw [same]
      exact made.handling.backed.pool.imp_right .inl
  worker := by
    rcases identifies.worker with blank | same
    · have missing := keeps.worker
      rw [blank] at missing
      exact .inr (.inr ⟨missing.eq_blank, made.launching.admitted⟩)
    · rw [same]
      exact made.handling.backed.worker.imp_right .inl

theorem identify_meets {identified : Allocation} {next : ConfigMap → Program α}
    (made : Launched platform phase allocation reservation)
    (identifies : Identifies allocation identified)
    (goes : ∀ noted final, Launched platform final identified noted →
      Obeys platform claimName spec final (next noted))
    (failure : ∀ error final, spec (.error error) final) :
    Obeys platform claimName spec phase (do
      let noted ← updateReservation reservation identified .active
      checkpoint identified
      next noted) := by
  refine Meets.bind (update_meets made.handling
    (fun old _ keeps => identifies.records made keeps) .active) ?_
    fun error final _ => failure error final
  rintro noted final ⟨written, updated⟩
  have updated := updated noted rfl
  have launching := (made.launching.written written).extend identifies.keeps
  refine Meets.bind (checkpoint_meets final identified fun _ =>
    launching.planned updated.handling.lock updated.handling.backed) ?_
    fun error final _ => failure error final
  rintro ⟨⟩ last stored
  have stored := stored rfl
  exact goes noted last ⟨updated.handling.mono stored.lock stored.held stored.seen,
    stored.launching launching.valid⟩

theorem not_returned {error : GoError} {property : β → Prop} (value : β)
    (no : (Except.error error : Except GoError β) = .ok value) : property value := by
  cases no

theorem requestPool_meets (made : Launched platform phase allocation reservation)
    (blank : allocation.poolID = "") :
    Obeys platform claimName (fun out final => ∀ obtained, out = .ok obtained →
        Launched platform final obtained.allocation obtained.reservation) phase
      (requestPool allocation reservation) := by
  unfold requestPool
  refine Meets.bind (update_meets made.handling
    (fun old _ keeps => made.handling.backed.records keeps) .creating) ?_ fun _ _ _ => not_returned
  rintro creating final ⟨written, updated⟩
  have updated := updated creating rfl
  have working : Launched platform final allocation creating :=
    ⟨updated.handling, made.launching.written written⟩
  refine meets_call (.inr trivial) ?_
  intro answer _
  cases answer with
  | error error =>
    refine meets_ite (fun _ => ?_) fun _ => meets_fail not_returned
    refine Meets.attempt_bind (update_meets updated.handling
      (fun old _ keeps => updated.handling.backed.records keeps) .rejected) ?_
    rintro out last _
    cases out with
    | ok _ | error recording => exact meets_fail not_returned
  | ok created =>
    refine meets_ite (fun _ => meets_fail not_returned) fun _ => ?_
    have identifies : Identifies allocation { allocation with poolID := created.id } :=
      ⟨⟨rfl, .inl blank, .refl _⟩, .inl blank, .inr rfl⟩
    refine identify_meets working identifies ?_ fun _ _ => not_returned
    intro active last identified
    refine meets_call (.inr trivial) ?_
    intro answer _
    cases answer with
    | error error => exact meets_fail not_returned
    | ok pool =>
      refine meets_pure ?_
      rintro _ ⟨⟩
      simp only [recordProtocol, Phase.next]
      split
      · exact identified.mono rfl rfl rfl rfl rfl rfl
      · exact identified

theorem obtainPool_meets (made : Launched platform phase allocation reservation) :
    Obeys platform claimName (fun out final => ∀ obtained, out = .ok obtained →
        Launched platform final obtained.allocation obtained.reservation) phase
      (obtainPool allocation reservation) := by
  refine meets_call (.inr trivial) ?_
  intro answer _
  cases answer with
  | ok pool =>
    refine meets_pure ?_
    rintro _ ⟨⟩
    simp only [recordProtocol, Phase.next]
    split
    · exact made.mono rfl rfl rfl rfl rfl rfl
    · exact made
  | error error =>
    refine meets_ite (fun _ => meets_fail not_returned) fun _ => ?_
    refine meets_call (.inr trivial) ?_
    intro time _
    refine meets_ite (fun _ => meets_fail not_returned) fun _ => ?_
    refine meets_ite (fun _ => meets_fail not_returned) fun blank => ?_
    exact requestPool_meets made (not_not.mp blank)

theorem validatePool_same {pool : WorkerPool} (valid : validatePool pool allocation = .ok ()) :
    allocation.poolID = "" ∨ pool.id = allocation.poolID := by
  unfold validatePool at valid
  split at valid
  · cases valid
  split at valid
  · cases valid
  split at valid
  · cases valid
  rename_i same
  rw [not_and_or, not_not, not_not] at same
  exact same

/-- What `ofExcept` returns is known afterwards. -/
theorem known_bind {out : Except GoError β} {next : β → Program α}
    (second : ∀ value, out = .ok value → Obeys platform claimName spec phase (next value))
    (failure : ∀ error, spec (.error error) phase) :
    Obeys platform claimName spec phase (ofExcept out >>= next) := by
  refine Meets.bind (meets_outcome (R := reliance platform claimName) out phase) ?_ ?_
  · rintro value final ⟨same, rfl⟩
    exact second value same.symm
  · rintro error final ⟨_, rfl⟩
    exact failure error

theorem bindWorker_meets (claim : NodeClaim) (obtained : Obtained)
    (made : Launched platform phase obtained.allocation obtained.reservation) :
    Obeys platform claimName (fun _ _ => True) phase (bindWorker platform claim obtained) := by
  unfold bindWorker
  refine known_bind ?_ fun _ => trivial
  intro _ valid
  have pool := validatePool_same valid
  split
  · exact meets_fail trivial
  refine quiet_bind (Quiet.wrapped _ (quiet_listWorkers _)) ?_ fun _ _ => trivial
  intro workers mark
  refine known_bind ?_ fun _ => trivial
  intro selected _
  cases selected with
  | none => exact meets_fail trivial
  | some worker =>
    dsimp only
    split
    · exact meets_fail trivial
    rename_i fresh
    rw [not_and_or, not_not, not_not] at fresh
    have identifies : Identifies obtained.allocation
        { obtained.allocation with poolID := obtained.pool.id, workerID := worker.id } :=
      ⟨⟨rfl, pool.imp_right Eq.symm, fresh⟩, pool, fresh.imp_right Eq.symm⟩
    refine identify_meets (made.mono rfl rfl rfl rfl rfl rfl) identifies ?_ fun _ _ => trivial
    intro _ last _
    refine quiet_bind (quiet_registeredNode _) ?_ fun _ _ => trivial
    intro registered mark
    exact meets_ofExcept trivial

theorem createLocked_meets (phase : Phase) (claim : NodeClaim) (allocation : Allocation)
    (planned : phase.gone = false → Planned phase allocation) :
    Obeys platform claimName (fun _ _ => True) phase (createLocked platform claim allocation) := by
  unfold createLocked
  split
  · exact meets_fail trivial
  refine Meets.bind (checkpoint_meets phase allocation planned) ?_ fun _ _ _ => trivial
  rintro ⟨⟩ final stored
  have stored := stored rfl
  have planned := planned stored.present
  have lock := stored.lock.trans planned.lock
  refine Meets.bind (reserve_meets final allocation stored.member lock) ?_ fun _ _ _ => trivial
  rintro reservation held ⟨written, reserved⟩
  have reserved := reserved reservation rfl
  refine known_bind ?_ fun _ => trivial
  intro restored out
  obtain ⟨handling, keeps⟩ := reserved.restored stored.member lock out
  have launching := ((stored.launching planned.valid).written written).extend keeps
  split
  · exact meets_fail trivial
  refine quiet_bind (Quiet.wrapped _ quiet_getIKSClient) ?_ fun _ _ => trivial
  intro target mark
  refine known_bind ?_ fun _ => trivial
  intro _ _
  have made : Launched platform { held with broken := mark } restored reservation :=
    Launched.mono ⟨handling, launching⟩ rfl rfl rfl rfl rfl rfl
  refine Meets.bind (obtainPool_meets made) ?_ fun _ _ _ => trivial
  intro obtained last known
  exact bindWorker_meets claim obtained (known obtained rfl)

/-! ## The turn and the lock -/

theorem withPoolLock_meets {cluster poolName : String} {body : Program α}
    (meets : Obeys platform claimName
      (fun out final => spec out (final.unlocks (cluster, poolName)))
      (phase.locks (cluster, poolName)) body) :
    Obeys platform claimName spec phase (withPoolLock cluster poolName body) := by
  refine meets_call (.inr trivial) ?_
  intro _ _
  refine Meets.attempt_bind meets ?_
  intro out final holds
  refine meets_call (.inr trivial) ?_
  intro _ _
  exact meets_ofExcept holds

theorem poolOf_ne_queueKey (accepted : valid allocation = true) : poolOf allocation ≠ queueKey := by
  intro same
  have cluster : allocation.clusterID = "" := congrArg Prod.fst same
  simp [valid, identityComplete, cluster] at accepted

structure Current (phase final : Phase) (claim : NodeClaim) : Prop where
  turn : final.turn = phase.turn
  lock : final.lock = phase.lock
  known : final.gone = false → final.known = some (allocationOf claim) ∧
    ∀ allocation, allocationOf claim = .allocation allocation → allocation ∈ final.seen

theorem currentClaim_meets (phase : Phase) (turn : phase.turn = true) (nodeClaim : NodeClaim)
    (named : nodeClaim.name = claimName) :
    Obeys platform claimName
      (fun out final => ∀ claim, out = .ok claim → Current phase final claim) phase
      (currentClaim nodeClaim) := by
  refine meets_call (.inr trivial) ?_
  intro answer _
  cases answer with
  | ok fresh =>
    refine meets_ite (fun _ => meets_fail not_returned) fun _ => meets_pure ?_
    rintro _ ⟨⟩
    refine ⟨rfl, rfl, fun _ => ⟨if_pos turn, ?_⟩⟩
    intro allocation record
    change allocation ∈ noted (allocationOf fresh) phase.seen
    rw [record]
    exact mem_cons_self
  | error error =>
    refine meets_ite (fun missing => meets_pure ?_) fun _ => meets_fail not_returned
    rintro _ ⟨⟩
    refine ⟨rfl, rfl, ?_⟩
    intro found
    change (phase.gone || (decide (nodeClaim.name = claimName) &&
      isKube .notFound error.val)) = false at found
    rw [missing, named] at found
    simp at found

structure Sourced (claim : NodeClaim) (allocation : Allocation) : Prop where
  valid : valid allocation = true
  source : allocationOf claim = .allocation allocation ∨
    (allocationOf claim = .text "" ∧ allocation.poolID = "" ∧ allocation.workerID = "")

theorem allocationFrom_meets (named : platform.allocationNamespace ≠ "") (phase : Phase)
    (unlocked : phase.lock = none) (claim : NodeClaim) :
    Obeys platform claimName (fun out final => Alike phase final ∧
        ∀ allocation, out = .ok allocation → Sourced claim allocation) phase
      (allocationFrom platform claim) := by
  unfold allocationFrom
  refine known_bind ?_ fun _ => ⟨.refl phase, nofun⟩
  intro decoded out
  cases decoded with
  | some allocation =>
    obtain ⟨stored, _⟩ := decodeAllocation_some out
    refine meets_pure ⟨.refl phase, ?_⟩
    rintro _ ⟨⟩
    rw [stored, decodeAllocation_iff] at out
    exact ⟨out, .inl stored⟩
  | none =>
    have blank := decodeAllocation_none out
    dsimp only
    split
    · exact meets_fail ⟨.refl phase, nofun⟩
    refine Meets.mono (newAllocation_meets named phase unlocked claim _) ?_
    rintro made final ⟨alike, complete⟩
    refine ⟨alike, fun allocation returned => ?_⟩
    have unidentified := complete allocation returned
    exact ⟨unidentified.valid, .inr ⟨blank, unidentified.pool, unidentified.worker⟩⟩

theorem Sourced.planned (sourced : Sourced claim allocation) (current : Current phase final claim)
    (turn : phase.turn = true) (found : final.gone = false) :
    Planned (final.locks (poolOf allocation)) allocation := by
  have apart := poolOf_ne_queueKey sourced.valid
  obtain ⟨known, read⟩ := current.known found
  have locked : final.locks (poolOf allocation) =
      { final with
        lock := some (poolOf allocation), admitted := false, held := none, shown := none } :=
    if_neg apart
  rw [locked]
  refine ⟨current.turn.trans turn, rfl, sourced.valid, ⟨_, known, ?_⟩, ?_⟩
  · rcases sourced.source with noted | ⟨blank, pool, worker⟩
    · exact .inr ⟨allocation, noted, .refl _⟩
    · exact .inl ⟨blank, pool, worker⟩
  rcases sourced.source with noted | ⟨_, pool, worker⟩
  · exact backs_of_mem (read allocation noted)
  · exact ⟨.inl pool, .inl worker⟩

theorem createAllocation_meets (named : platform.allocationNamespace ≠ "") (phase : Phase)
    (turn : phase.turn = true) (unlocked : phase.lock = none) (nodeClaim : NodeClaim)
    (same : nodeClaim.name = claimName) :
    Obeys platform claimName (fun _ _ => True) phase (createAllocation platform nodeClaim) := by
  unfold createAllocation
  split
  · exact meets_fail trivial
  refine Meets.bind (currentClaim_meets phase turn nodeClaim same) ?_ fun _ _ _ => trivial
  intro claim final current
  have current := current claim rfl
  refine Meets.bind (allocationFrom_meets named final (current.lock.trans unlocked) claim) ?_
    fun _ _ _ => trivial
  rintro allocation last ⟨⟨mark, rfl⟩, sourced⟩
  have sourced := sourced allocation rfl
  split
  · exact meets_fail trivial
  refine quiet_bind (quiet_clusterUID trivial) ?_ fun _ _ => trivial
  intro cluster later
  split
  · exact meets_fail trivial
  refine withPoolLock_meets (createLocked_meets _ claim allocation ?_)
  intro found
  have apart := poolOf_ne_queueKey sourced.valid
  have still : Current phase { final with broken := later } claim :=
    ⟨current.turn, current.lock, current.known⟩
  refine sourced.planned still turn ?_
  change (Phase.locks _ (poolOf allocation)).gone = false at found
  rw [Phase.locks, if_neg apart] at found
  exact found

/-! ## Terminations -/

structure Closing (phase : Phase) : Prop where
  terminating : phase.terminating = true
  admitted : phase.admitted = false

theorem Closing.written (closing : Closing phase) (written : Written phase final) :
    Closing final := by
  obtain ⟨_, _, _, _, rfl⟩ := written
  exact ⟨closing.terminating, closing.admitted⟩

theorem Written.copy (written : Written phase final) : final.copy = phase.copy := by
  obtain ⟨_, _, _, _, rfl⟩ := written
  rfl

theorem deleteReservation_meets (closing : Closing phase)
    (keyed : phase.keyed platform reservation.namespace reservation.name = true) :
    Obeys platform claimName (fun _ final => final.copy = phase.copy) phase
      (ignoringNotFound (deleteConfigMap reservation)) := by
  refine meets_call (.inr ⟨keyed, closing.terminating, closing.admitted⟩) ?_
  intro answer _
  cases answer with
  | ok _ => exact meets_pure rfl
  | error error => exact meets_ite (fun _ => meets_pure rfl) fun _ => meets_fail rfl

theorem releaseReservation_meets (closing : Closing phase) (allocation : Allocation)
    (keyed : phase.keyed platform reservation.namespace reservation.name = true) :
    Obeys platform claimName (fun _ final => final.copy = phase.copy) phase
      (releaseReservation platform allocation reservation) := by
  have deletes (mark : Bool) (lead : String) (last : GoError) :
      Obeys platform claimName (fun _ final => final.copy = phase.copy)
        { phase with broken := mark }
        (wrapped lead (ignoringNotFound (deleteConfigMap reservation)) >>= fun _ =>
          (.fail last : Program Unit)) := by
    have still : Closing { phase with broken := mark } := ⟨closing.terminating, closing.admitted⟩
    have released : Obeys platform claimName (fun _ final => final.copy = phase.copy)
        { phase with broken := mark }
        (wrapped lead (ignoringNotFound (deleteConfigMap reservation))) :=
      Meets.mapError _ (deleteReservation_meets still keyed)
    refine Meets.bind released ?_ fun _ _ kept => kept
    intro _ final kept
    exact meets_fail kept
  refine meets_call (.inr trivial) ?_
  intro time _
  refine meets_ite (fun _ => meets_fail rfl) fun _ => ?_
  dsimp only
  split
  · exact deletes phase.broken _ _
  refine quiet_bind (quiet_workerGone _ _) ?_ fun _ _ => rfl
  intro gone mark
  split
  · exact meets_fail rfl
  · exact deletes mark _ _

theorem deletePool_meets (phase : Phase) (cluster poolID : String) :
    Obeys platform claimName (fun _ final => final.copy = phase.copy) phase
      (deletePool cluster poolID) := by
  refine meets_call (.inr trivial) ?_
  intro answer _
  cases answer with
  | ok _ => exact meets_pure rfl
  | error error => exact meets_ite (fun _ => meets_pure rfl) fun _ => meets_fail rfl

theorem removePool_meets (pool : WorkerPool)
    (handling : Handling platform phase allocation reservation)
    (shown : phase.shown = some pool.id) :
    Obeys platform claimName (fun _ final => final.copy = phase.copy) phase
      (removePool allocation reservation pool) := by
  unfold removePool
  refine known_bind ?_ fun _ => rfl
  intro _ valid
  have same := validatePool_same valid
  have records : ∀ old, recordOf reservation = .allocation old → Extends old allocation →
      phase.Records old { allocation with poolID := pool.id } := by
    intro old _ keeps
    have grown : Below "" allocation.poolID pool.id := same.imp_right Eq.symm
    refine ⟨⟨keeps.snapshot, keeps.pool.trans grown, keeps.worker⟩, ?_,
      handling.backed.worker.imp_right .inl⟩
    rcases same with blank | identified
    · have missing := keeps.pool
      rw [blank] at missing
      exact .inr (.inr ⟨missing.eq_blank, .inr shown⟩)
    change pool.id = "" ∨ (∃ seen ∈ phase.seen, seen.poolID = pool.id) ∨ _
    rw [identified]
    exact handling.backed.pool.imp_right .inl
  refine Meets.bind (update_meets handling records .deleting) ?_ fun _ _ kept => kept.1.copy
  rintro deleting final ⟨written, _⟩
  refine quiet_bind (quiet_listWorkers _) ?_ fun _ _ => written.copy
  intro workers mark
  refine known_bind ?_ fun _ => written.copy
  intro count _
  split
  · exact meets_fail written.copy
  · exact (deletePool_meets { final with broken := mark } _ _).mono
      fun _ _ kept => kept.trans written.copy

theorem cleanupLocked_meets (closing : Closing phase) (mem : allocation ∈ phase.seen)
    (lock : phase.lock = some (poolOf allocation)) :
    Obeys platform claimName (fun _ final => final.copy = phase.copy) phase
      (cleanupLocked platform allocation) := by
  unfold cleanupLocked
  refine quiet_bind (quiet_clusterUID trivial) ?_ fun _ _ => rfl
  intro cluster mark
  split
  · exact meets_fail rfl
  refine Meets.bind (reserve_meets { phase with broken := mark } allocation mem lock) ?_
    fun _ _ kept => kept.1.copy
  rintro reservation final ⟨written, reserved⟩
  have reserved := reserved reservation rfl
  refine known_bind ?_ fun _ => written.copy
  intro restored out
  obtain ⟨handling, _⟩ := reserved.restored mem lock out
  refine Meets.bind (update_meets handling
    (fun old _ keeps => handling.backed.records keeps) .deleting) ?_
    fun _ _ kept => kept.1.copy.trans written.copy
  rintro deleting last ⟨noted, updated⟩
  have updated := (updated deleting rfl).handling
  have copy := noted.copy.trans written.copy
  have closing : Closing last :=
    (Closing.written ⟨closing.terminating, closing.admitted⟩ written).written noted
  refine quiet_bind quiet_getIKSClient ?_ fun _ _ => copy
  intro target mark
  refine known_bind ?_ fun _ => copy
  intro _ _
  refine meets_call (.inr trivial) ?_
  intro answer _
  cases answer with
  | ok pool =>
    have seen : (recordProtocol platform claimName).next { last with broken := mark }
        (.getWorkerPool restored.clusterID restored.poolName) (.ok pool) =
        { last with broken := mark, shown := some pool.id } := if_pos updated.lock
    have viewed : Handling platform { last with broken := mark, shown := some pool.id } restored
        deleting := updated.mono rfl rfl (List.Subset.refl _)
    rw [seen]
    exact (removePool_meets pool viewed rfl).mono fun _ _ kept => kept.trans copy
  | error error =>
    refine meets_ite (fun _ => ?_) fun _ => meets_fail copy
    have still : Closing { last with broken := mark } := ⟨closing.terminating, closing.admitted⟩
    exact (releaseReservation_meets still restored updated.keyed).mono
      fun _ _ kept => kept.trans copy

structure Terminating (phase : Phase) (claim : NodeClaim) : Prop where
  copy : phase.copy = some claim
  lock : phase.lock = none
  terminating : phase.terminating = true
  seen : ∀ allocation, allocationOf claim = .allocation allocation → allocation ∈ phase.seen

theorem Terminating.alike (terminating : Terminating phase claim) (alike : Alike phase final) :
    Terminating final claim := by
  obtain ⟨mark, rfl⟩ := alike
  exact ⟨terminating.copy, terminating.lock, terminating.terminating, terminating.seen⟩

/-- The copy is still there, and no lock is held. -/
def Ready (claim : NodeClaim) (final : Phase) : Prop :=
  final.copy = some claim ∧ final.lock = none

section
variable (terminating : Terminating phase claim)

include terminating

theorem Terminating.ready : Ready claim phase := ⟨terminating.copy, terminating.lock⟩

variable (accepted : valid allocation = true) (record : allocationOf claim = .allocation allocation)

include accepted record

theorem locked_meets {body : Program Unit}
    (meets : ∀ locked : Phase, Closing locked → allocation ∈ locked.seen →
      locked.lock = some (poolOf allocation) →
      Obeys platform claimName (fun _ final => final.copy = locked.copy) locked body) :
    Obeys platform claimName (fun _ final => Ready claim final) phase
      (withPoolLock allocation.clusterID allocation.poolName body) := by
  have apart := poolOf_ne_queueKey accepted
  have locked : phase.locks (poolOf allocation) =
      { phase with
        lock := some (poolOf allocation), admitted := false, held := none, shown := none } :=
    if_neg apart
  refine withPoolLock_meets ?_
  change Obeys platform claimName _ (phase.locks (poolOf allocation)) body
  rw [locked]
  refine Meets.mono (meets _ ⟨terminating.terminating, rfl⟩ (terminating.seen allocation record)
    rfl) ?_
  intro out final kept
  have unlocked : Phase.unlocks final (poolOf allocation) =
      { final with lock := none, admitted := false, held := none, shown := none } := if_neg apart
  change Ready claim (Phase.unlocks final (poolOf allocation))
  rw [unlocked]
  exact ⟨kept.trans terminating.copy, rfl⟩

theorem cleanup_meets : Obeys platform claimName (fun _ final => Ready claim final) phase
      (cleanup platform allocation) :=
  locked_meets terminating accepted record fun _ closing mem lock =>
    cleanupLocked_meets closing mem lock

end

section
variable (closing : Closing phase)
  (mem : allocation ∈ phase.seen)
  (lock : phase.lock = some (poolOf allocation))

include closing mem lock

theorem dropReservation_meets :
    Obeys platform claimName (fun _ final => final.copy = phase.copy) phase
      (dropReservation platform allocation) := by
  refine meets_call (.inr trivial) ?_
  intro answer credible
  cases answer with
  | error error => exact meets_ite (fun _ => meets_fail rfl) fun _ => meets_fail rfl
  | ok reservation =>
    have same := not_doubted credible
    rw [Bool.or_eq_false_iff, decide_eq_false_iff_not, decide_eq_false_iff_not, not_not,
      not_not] at same
    have reserved := reserved_hold (decide (reservation.namespace ≠ allocation.namespace) ||
      decide (reservation.name ≠ reservationName platform allocation.clusterID
        allocation.poolName)) mem lock same.1 same.2
    refine meets_ite (fun _ => meets_fail reserved.written.copy) fun _ => ?_
    refine Meets.bind (deleteReservation_meets (closing.written reserved.written)
      reserved.keyed) ?_ fun _ _ kept => kept.trans reserved.written.copy
    intro _ final kept
    exact meets_fail (kept.trans reserved.written.copy)

theorem confirmGoneLocked_meets :
    Obeys platform claimName (fun _ final => final.copy = phase.copy) phase
      (confirmGoneLocked platform allocation) := by
  unfold confirmGoneLocked
  refine quiet_bind (quiet_clusterUID trivial) ?_ fun _ _ => rfl
  intro cluster _
  split
  · exact meets_fail rfl
  refine quiet_bind quiet_getIKSClient ?_ fun _ _ => rfl
  intro target mark
  refine known_bind ?_ fun _ => rfl
  intro _ _
  refine meets_call (.inr trivial) ?_
  intro answer _
  cases answer with
  | ok pool =>
    refine meets_pure ?_
    simp only [recordProtocol, Phase.next]
    split
    · rfl
    · rfl
  | error error =>
    refine meets_ite (fun _ => meets_fail rfl) fun _ => ?_
    refine meets_ite (fun _ => meets_fail rfl) fun _ => ?_
    refine quiet_bind (quiet_workerGone _ _) ?_ fun _ _ => rfl
    intro gone later
    split
    · have still : Closing { phase with broken := later } := ⟨closing.terminating, closing.admitted⟩
      exact dropReservation_meets still mem lock
    · exact meets_pure rfl

end

theorem decoded_record {value : Value} (decoded : decodeAllocation value = .ok (some allocation)) :
    value = .allocation allocation ∧ valid allocation = true := by
  obtain ⟨stored, _⟩ := decodeAllocation_some decoded
  rw [stored, decodeAllocation_iff] at decoded
  exact ⟨stored, decoded⟩

theorem confirmGone_meets (terminating : Terminating phase claim) :
    Obeys platform claimName (fun _ final => Ready claim final) phase
      (confirmGone platform claim) := by
  unfold confirmGone
  refine known_bind ?_ fun _ => terminating.ready
  intro decoded out
  cases decoded with
  | none => exact meets_fail terminating.ready
  | some allocation =>
    obtain ⟨record, accepted⟩ := decoded_record out
    dsimp only
    split
    · exact meets_fail terminating.ready
    split
    · exact meets_fail terminating.ready
    · exact locked_meets terminating accepted record fun _ closing mem lock =>
        confirmGoneLocked_meets closing mem lock

theorem quiet_ignoringNotFound {allowed : Call → Prop} {program : Program Unit}
    (quiet : Quiet allowed program) : Quiet allowed (ignoringNotFound program) := by
  refine Quiet.attempt_bind quiet ?_
  intro out foreign
  cases out with
  | ok _ => exact quiet_pure _
  | error error =>
    dsimp only
    split
    · exact quiet_pure _
    · exact foreign

theorem Quiet.forEach {allowed : Call → Prop} {body : β → Program Unit}
    (quiet : ∀ item, Quiet allowed (body item)) (items : List β) :
    Quiet allowed (forEach body items) := by
  induction items with
  | nil => exact quiet_pure _
  | cons item rest ih => exact Quiet.bind (quiet item) fun _ => ih

theorem quiet_deleteNodes {locked : Bool} (allocation : Allocation) (nodes : List Node) :
    Quiet (Ambient locked) (deleteNodes allocation nodes) := by
  refine Quiet.forEach (fun node => quiet_unless ?_) nodes
  split
  · exact quiet_pure _
  · exact quiet_ignoringNotFound (quiet_ask trivial)

theorem cleanupClaim_meets (terminating : Terminating phase claim) :
    Obeys platform claimName (fun _ final => Ready claim final) phase
      (cleanupClaim platform claim) := by
  unfold cleanupClaim
  split
  · exact confirmGone_meets terminating
  refine known_bind ?_ fun _ => terminating.ready
  intro decoded out
  cases decoded with
  | none => exact meets_fail terminating.ready
  | some allocation =>
    obtain ⟨record, accepted⟩ := decoded_record out
    dsimp only
    split
    · exact meets_fail terminating.ready
    refine quiet_bind (quiet_ask trivial) ?_ fun _ _ => terminating.ready
    intro nodes mark
    refine quiet_bind (quiet_deleteNodes allocation _) ?_ fun _ _ => terminating.ready
    intro _ later
    split
    · exact meets_pure terminating.ready
    · exact cleanup_meets (terminating.alike ⟨later, rfl⟩) accepted record

/-! ## The runs -/

theorem follows_of_meets {program : Program α}
    (meets : Obeys platform claimName (fun _ _ => True) phase program) :
    Follows (recordProtocol platform claimName) (fun _ _ => True) phase program :=
  Follows.mono meets fun _ _ _ => trivial

theorem terminating_read (deleted : claim.deletionTimestamp ≠ none) :
    Terminating (Phase.start.read claim) claim := by
  refine ⟨rfl, rfl, ?_, ?_⟩
  · change (false || claim.deletionTimestamp.isSome) = true
    rw [Bool.false_or]
    exact Option.isSome_iff_ne_none.mpr deleted
  intro allocation record
  change allocation ∈ noted (allocationOf claim) []
  rw [record]
  exact mem_cons_self

theorem reconcile_follows : Follows (recordProtocol platform claimName) (fun _ _ => True) .start
      (reconcile platform claimName) := by
  refine follows_of_meets (meets_call (.inr trivial) ?_)
  intro answer _
  cases answer with
  | error error => exact meets_ite (fun _ => meets_pure trivial) fun _ => meets_fail trivial
  | ok claim =>
    refine meets_ite (fun _ => meets_pure trivial) fun deleted => ?_
    rw [not_or] at deleted
    have terminating := terminating_read deleted.1
    have released : Obeys platform claimName (fun _ final => Ready claim final)
        (Phase.start.read claim) (if claim.providerID = "" then cleanupClaim platform claim
          else confirmGone platform claim) :=
      meets_ite (fun _ => cleanupClaim_meets terminating) fun _ => confirmGone_meets terminating
    refine Meets.attempt_bind released ?_
    rintro out final ⟨copy, lock⟩
    cases out with
    | ok _ => exact meets_pure trivial
    | error error =>
      dsimp only
      split
      · exact meets_fail trivial
      refine meets_call (.inr ⟨copy, .inr ⟨lock, rfl⟩⟩) ?_
      intro answer _
      cases answer with
      | ok _ => exact meets_pure trivial
      | error failure =>
        exact meets_ite (fun _ => meets_pure trivial) fun _ => meets_fail trivial

theorem deleteClaim_follows : Follows (recordProtocol platform claimName) (fun _ _ => True) .start
      (deleteClaim platform claimName) := by
  refine follows_of_meets (meets_call (.inr trivial) ?_)
  intro answer _
  cases answer with
  | error error => exact meets_fail trivial
  | ok claim =>
    refine meets_ite (fun _ => meets_pure trivial) fun deleted => ?_
    have terminating := terminating_read deleted
    refine known_bind ?_ fun _ => trivial
    intro decoded out
    cases decoded with
    | none => exact meets_fail trivial
    | some allocation =>
      obtain ⟨record, accepted⟩ := decoded_record out
      dsimp only
      split
      · exact meets_fail trivial
      split
      · exact meets_fail trivial
      · exact (cleanup_meets terminating accepted record).mono fun _ _ _ => trivial

/-- A launch, in the turn of its claim. -/
def launch (platform : Platform) (nodeClaim : NodeClaim) : Program Unit := do
  let _ ← withPoolLock queueKey.1 queueKey.2 (createAllocation platform nodeClaim)
  pure ()

theorem launch_follows (named : platform.allocationNamespace ≠ "") (nodeClaim : NodeClaim)
    (same : nodeClaim.name = claimName) :
    Follows (recordProtocol platform claimName) (fun _ _ => True) .start
      (launch platform nodeClaim) := by
  have runs : Obeys platform claimName (fun _ _ => True) .start
      (withPoolLock queueKey.1 queueKey.2 (createAllocation platform nodeClaim)) :=
    withPoolLock_meets (createAllocation_meets named (Phase.start.locks queueKey) rfl rfl nodeClaim
      same)
  refine follows_of_meets (Meets.bind runs ?_ fun _ _ holds => holds)
  intro _ final _
  exact meets_pure trivial

end KarpenterIBM.AllocationRecords
