import KarpenterIBM.IKS.Allocation

/-!
# What stands before the deletion of a pool

`Delete` and `Cleanup` send one kind of destructive request, the deletion of a worker pool.
-/

namespace KarpenterIBM.DeletionSafety

open Calls EffectProgram Errors IKSAllocation List Objects Ownership

/-! ## The grounds of a deletion -/

/-- The pool is the one of the allocation.  `known` carries the identities that the
allocation or its reservation has recorded. -/
structure OwnPool (allocation known : Allocation) (pool : WorkerPool) : Prop where
  name : pool.name = allocation.poolName
  zone : pool.zones.map WorkerPoolZone.id = allocation.request.zones.map WorkerPoolZone.id
  flavor : pool.flavor = allocation.request.flavor
  identity : known.poolID ≠ "" → pool.id = known.poolID
  autoscale : pool.autoscaleEnabled = false
  managed : StringMap.read pool.labels managedLabel = "true"
  provider : StringMap.read pool.labels providerLabel = "iks"
  cluster : StringMap.read pool.labels clusterUIDLabel = allocation.clusterUID
  claim : StringMap.read pool.labels claimUIDLabel = allocation.claimUID
  nodeClass : StringMap.read pool.labels nodeClassUIDLabel = allocation.nodeClassUID

structure OwnWorkers (known : Allocation) (poolID : String) (workers : List IKSWorkerDetails) :
    Prop where
  single : (workers.filter (workerIn poolID)).length ≤ 1
  own : ∀ worker ∈ workers, workerIn poolID worker = true → known.workerID ≠ "" →
    worker.id = known.workerID

def Reserved (platform : Platform) (allocation : Allocation) (reservation : ConfigMap)
    (history : List calls.Exchange) : Prop :=
  ⟨.getConfigMap allocation.namespace
      (reservationName platform allocation.clusterID allocation.poolName),
        .ok reservation⟩ ∈ history ∨
    ⟨.createConfigMap (newReservation platform allocation), .ok reservation⟩ ∈ history

structure RecordsDeletion (reservation : ConfigMap) (known : Allocation) (pool : WorkerPool)
    (stored patched : ConfigMap) : Prop where
  name : stored.name = reservation.name ∧ patched.name = reservation.name
  «namespace» : stored.namespace = reservation.namespace ∧
    patched.namespace = reservation.namespace
  phase : phaseOf patched = .text ReservationPhase.deleting.text
  record : recordOf patched = .allocation { known with poolID := pool.id }

structure Grounds (platform : Platform) (allocation known : Allocation)
    (reservation : ConfigMap) (pool : WorkerPool) (earlier : List calls.Exchange) : Prop where
  cluster : ⟨.getNamespaceUID, .ok allocation.clusterUID⟩ ∈ earlier
  reserved : Reserved platform allocation reservation earlier
  owned : ownsReservation allocation reservation = true
  restored : restoreReservation allocation reservation = .ok known
  found : ⟨.getWorkerPool allocation.clusterID allocation.poolName, .ok pool⟩ ∈ earlier
  own : OwnPool allocation known pool

/-- The deletion stands at the end of this history: the reservation was put into the deleting
phase, then the workers were listed, then the request is sent. -/
def DeletesSafely (platform : Platform) (allocation : Allocation)
    (history : List calls.Exchange) (clusterID poolID : String) : Prop :=
  ∃ earlier known reservation pool stored patched version workers,
    history = earlier ++ [⟨.patchConfigMap stored patched, .ok version⟩,
      ⟨.listWorkers clusterID, .ok workers⟩] ∧
    clusterID = allocation.clusterID ∧ poolID = pool.id ∧
    Grounds platform allocation known reservation pool earlier ∧
    RecordsDeletion reservation known pool stored patched ∧ OwnWorkers known poolID workers

/-! ## The checks -/

theorem zones_of_decoded {value : Value} {allocation : Allocation}
    (decoded : decodeAllocation value = .ok (some allocation)) :
    allocation.request.zones.take 1 = allocation.request.zones := by
  obtain ⟨rfl, _⟩ := decodeAllocation_some decoded
  simp only [decodeAllocation] at decoded
  split at decoded
  · cases decoded
  split at decoded
  · cases decoded
  rename_i valid
  simp only [snapshotValid, Bool.not_eq_false, Bool.and_eq_true] at valid
  have single := valid.2
  split at single
  · rename_i zone same
    rw [same]
    rfl
  · cases single

theorem validatePool_own {pool : WorkerPool} {known : Allocation}
    (valid : validatePool pool known = .ok ())
    (zones : known.request.zones.take 1 = known.request.zones) : OwnPool known known pool := by
  unfold validatePool at valid
  split at valid
  · cases valid
  rename_i matching
  simp only [not_or, ne_eq, not_not, Bool.not_eq_true] at matching
  obtain ⟨_, name, autoscale, _, zone, flavor⟩ := matching
  split at valid
  · cases valid
  rename_i least
  split at valid
  · cases valid
  rename_i identity
  have label {key : String} (mem : key ∈ ownerLabels known) :
      StringMap.read pool.labels key = StringMap.read (ownerLabels known) key := by
    simpa using leastKey_none least mem
  rw [zones] at zone
  refine ⟨name, zone, flavor, ?_, autoscale, ?_, ?_, ?_, ?_, ?_⟩
  · intro found
    by_contra differ
    exact identity ⟨found, differ⟩
  · exact label (by simp [ownerLabels])
  · exact label (by simp [ownerLabels])
  · exact label (by simp [ownerLabels])
  · exact label (by simp [ownerLabels])
  · exact label (by simp [ownerLabels])

variable {poolID : String} {workers : List IKSWorkerDetails}

theorem checkWorkers_ok {known : Allocation} {count total : Nat}
    (checked : checkWorkers known poolID workers count = .ok total) :
    total = count + (workers.filter (workerIn poolID)).length ∧
      ∀ worker ∈ workers, workerIn poolID worker = true → known.workerID ≠ "" →
        worker.id = known.workerID := by
  induction workers generalizing count with
  | nil =>
    cases checked
    exact ⟨rfl, by simp⟩
  | cons worker rest ih =>
    simp only [checkWorkers] at checked
    split at checked
    · rename_i outside
      obtain ⟨counted, own⟩ := ih checked
      refine ⟨by simpa [outside] using counted, ?_⟩
      simpa [outside] using own
    rename_i inside
    rw [Bool.not_eq_false] at inside
    split at checked
    · cases checked
    rename_i matching
    obtain ⟨counted, own⟩ := ih checked
    refine ⟨?_, ?_⟩
    · rw [filter_cons_of_pos inside, length_cons]
      omega
    intro other mem
    rcases mem_cons.mp mem with rfl | later
    · intro _ knownWorker
      by_contra differ
      exact matching ⟨knownWorker, differ⟩
    · exact own other later

theorem ownWorkers_of_checked {known : Allocation} {count : Nat}
    (checked : checkWorkers known poolID workers 0 = .ok count) (few : ¬ 1 < count) :
    OwnWorkers known poolID workers := by
  obtain ⟨counted, own⟩ := checkWorkers_ok checked
  exact ⟨by omega, own⟩

/-! ## The history of a call -/

section
variable {platform : Platform} {allocation : Allocation}

def Permitted (platform : Platform) (allocation : Allocation) (history : List calls.Exchange) :
    Call → Prop
  | .deleteWorkerPool clusterID poolID => DeletesSafely platform allocation history clusterID poolID
  | _ => True

abbrev deletionProtocol (platform : Platform) (allocation : Allocation) : Protocol calls :=
  .history (Permitted platform allocation)

def Harmless : Call → Prop
  | .deleteWorkerPool _ _ => False
  | _ => True

theorem permitted_of_harmless (history : List calls.Exchange) (op : Call) (harmless : Harmless op) :
    Permitted platform allocation history op := by
  cases op <;> trivial

abbrev Mild {α : Type} (program : Program α) : Prop :=
  Uses (S := calls) Harmless (fun _ => True) program

variable {α : Type}

theorem Mild.extends {program : Program α} (mild : Mild program) (history : List calls.Exchange) :
    Follows (deletionProtocol platform allocation)
      (fun _ final => history <+: final) history program :=
  (Uses.extends_history mild permitted_of_harmless history).mono fun _ _ ended => ended.2

theorem mild_answered (answer : Except ApiError α) : Mild (answered answer) := by
  cases answer <;> trivial

theorem mild_getIKSClient : Mild getIKSClient := ⟨trivial, mild_answered⟩

theorem mild_ofExcept (out : Except GoError α) : Mild (ofExcept out : Program α) := by
  cases out <;> trivial

theorem Mild.bind {β : Type} {program : Program β} {next : β → Program α} (first : Mild program)
    (second : ∀ value, Mild (next value)) : Mild (program >>= next) :=
  Uses.bind first (fun value _ => second value) fun _ _ => trivial

theorem Mild.attempt {program : Program α} (mild : Mild program) : Mild program.attempt :=
  Uses.attempt mild

theorem Mild.wrapped {program : Program α} (lead : String) (mild : Mild program) :
    Mild (wrapped lead program) :=
  Uses.mapError _ mild

theorem mild_ignoringNotFound {program : Program Unit} (mild : Mild program) :
    Mild (ignoringNotFound program) := by
  refine mild.attempt.bind fun out => ?_
  cases out with
  | ok value => trivial
  | error error =>
    dsimp only
    split <;> trivial

theorem mild_workerGone (cluster workerID : String) : Mild (workerGone cluster workerID) := by
  have call : Mild (getWorkerDetails cluster workerID) := ⟨trivial, mild_answered⟩
  refine call.attempt.bind fun out => ?_
  cases out with
  | ok worker => trivial
  | error error =>
    dsimp only
    split <;> trivial

theorem mild_releaseReservation (known : Allocation) (reservation : ConfigMap) :
    Mild (releaseReservation platform known reservation) := by
  have clock : Mild now := ⟨trivial, fun _ => trivial⟩
  have delete : Mild (deleteConfigMap reservation) := ⟨trivial, mild_answered⟩
  have known : Mild (pure true : Program Bool) := trivial
  refine clock.bind fun time => ?_
  split
  · trivial
  dsimp only
  split
  · refine known.bind fun gone => ?_
    split
    · trivial
    · exact (Mild.wrapped _ (mild_ignoringNotFound delete)).bind fun _ => trivial
  refine (mild_workerGone _ _).bind fun gone => ?_
  split
  · trivial
  · exact (Mild.wrapped _ (mild_ignoringNotFound delete)).bind fun _ => trivial

variable (history : List calls.Exchange)

theorem clusterUID_history : Follows (deletionProtocol platform allocation)
      (fun out (final : List calls.Exchange) => ∀ uid, out = .ok uid →
        ⟨.getNamespaceUID, .ok uid⟩ ∈ final) history clusterUID := by
  refine ⟨trivial, fun answer => ?_⟩
  cases answer with
  | error error => rintro _ ⟨⟩
  | ok uid =>
    simp only [answered_ok, Prog.mapError, Prog.bind]
    split
    · rintro _ ⟨⟩
    · rintro _ ⟨⟩
      exact mem_append_right _ (mem_singleton.mpr rfl)

/-- What `reserve` returns was read or created under the key of the allocation. -/
theorem reserve_history : Follows (deletionProtocol platform allocation)
      (fun out final => ∀ reservation, out = .ok reservation →
        history <+: final ∧ Reserved platform allocation reservation final ∧
          ownsReservation allocation reservation = true) history
      (reserve platform allocation) := by
  have checked (reservation : ConfigMap) {final : List calls.Exchange}
      (extended : history <+: final)
      (reserved : Reserved platform allocation reservation final) :
      Follows (deletionProtocol platform allocation)
        (fun out final => ∀ reservation, out = .ok reservation →
          history <+: final ∧ Reserved platform allocation reservation final ∧
            ownsReservation allocation reservation = true) final
        (if ownsReservation allocation reservation then pure reservation
          else failWith "worker pool reservation belongs to another owner") := by
    split
    · rename_i owned
      rintro _ ⟨⟩
      exact ⟨extended, reserved, owned⟩
    · rintro _ ⟨⟩
  refine ⟨trivial, fun answer => ?_⟩
  cases answer with
  | ok reservation =>
    refine checked reservation (prefix_append _ _) (.inl ?_)
    exact mem_append_right _ (mem_singleton.mpr rfl)
  | error error =>
    simp only [answered_error, Prog.attempt, Prog.bind]
    split
    · refine ⟨trivial, fun answer => ?_⟩
      cases answer with
      | error error => rintro _ ⟨⟩
      | ok reservation =>
        refine checked reservation ?_ (.inr ?_)
        · exact (prefix_append _ _).trans (prefix_append _ _)
        · exact mem_append_right _ (mem_singleton.mpr rfl)
    · rintro _ ⟨⟩

def marked (reservation : ConfigMap) (known : Allocation) : ConfigMap :=
  { reservation with data := updatedData reservation.data known .deleting none }

theorem updateReservation_history (reservation : ConfigMap) (known : Allocation) :
    Follows (deletionProtocol platform allocation)
      (fun out final => ∀ updated, out = .ok updated → ∃ version,
        final = history ++ [⟨.patchConfigMap reservation (marked reservation known), .ok version⟩] ∧
        updated = { marked reservation known with resourceVersion := version }) history
      (updateReservation reservation known .deleting) := by
  refine ⟨trivial, fun answer => ?_⟩
  cases answer with
  | error error => rintro _ ⟨⟩
  | ok version =>
    rintro _ ⟨⟩
    exact ⟨version, rfl, rfl⟩

theorem deletePool_history {cluster : String}
    (safe : DeletesSafely platform allocation history cluster poolID) :
    Follows (deletionProtocol platform allocation) (fun _ _ => True) history
      (deletePool cluster poolID) := by
  refine ⟨safe, fun answer => ?_⟩
  cases answer with
  | ok value => trivial
  | error error =>
    simp only [answered_error, Prog.attempt, Prog.bind]
    split <;> trivial

theorem removePool_history {known : Allocation} {reservation deleting : ConfigMap}
    {pool : WorkerPool} {version : Nat}
    (current : deleting = { marked reservation known with resourceVersion := version })
    (cluster : known.clusterID = allocation.clusterID)
    (grounds : validatePool pool known = .ok () →
      Grounds platform allocation known reservation pool history) :
    Follows (deletionProtocol platform allocation) (fun _ _ => True) history
      (removePool known deleting pool) := by
  unfold removePool
  cases valid : validatePool pool known with
  | error error => trivial
  | ok passed =>
    simp only [EffectProgram.ofExcept, pure_ctor_bind]
    refine Follows.bind (updateReservation_history history deleting _) ?_ fun _ _ _ => trivial
    intro updated final patched
    obtain ⟨later, rfl, _⟩ := patched updated rfl
    refine ⟨trivial, fun answer => ?_⟩
    cases answer with
    | error error => trivial
    | ok workers =>
      simp only [answered_ok, Prog.bind]
      cases checked : checkWorkers { known with poolID := pool.id } pool.id workers 0 with
      | error error => trivial
      | ok count =>
        simp only [pure_ctor_bind]
        split
        · trivial
        rename_i few
        refine deletePool_history _ ⟨history, known, reservation, pool, deleting,
          marked deleting { known with poolID := pool.id }, later, workers, ?_, cluster,
          rfl, grounds valid, ?_, ?_⟩
        · exact append_assoc ..
        · subst current
          exact ⟨⟨rfl, rfl⟩, ⟨rfl, rfl⟩, read_phase_updated .., read_record_updated ..⟩
        · obtain ⟨single, own⟩ := ownWorkers_of_checked checked few
          exact ⟨single, own⟩

section
variable (zones : allocation.request.zones.take 1 = allocation.request.zones)

include zones

theorem cleanupLocked_history :
    Follows (deletionProtocol platform allocation) (fun _ _ => True) history
      (cleanupLocked platform allocation) := by
  unfold cleanupLocked
  refine Follows.bind (clusterUID_history history) ?_ fun _ _ _ => trivial
  intro uid identified read
  have sawUID := read uid rfl
  split
  · trivial
  rename_i same
  rw [not_not.mp same] at sawUID
  refine Follows.bind (reserve_history identified) ?_ fun _ _ _ => trivial
  intro reservation (reserving : List calls.Exchange) reserves
  obtain ⟨extended, reserved, owned⟩ := reserves reservation rfl
  cases restored : restoreReservation allocation reservation with
  | error error => trivial
  | ok known =>
    simp only [EffectProgram.ofExcept, pure_ctor_bind]
    refine Follows.bind (updateReservation_history reserving reservation known) ?_
      fun _ _ _ => trivial
    intro deleting noted updates
    obtain ⟨version, rfl, current⟩ := updates deleting rfl
    refine Follows.bind (Mild.extends mild_getIKSClient _) ?_ fun _ _ _ => trivial
    intro target reached onward
    refine Follows.bind (Mild.extends (mild_ofExcept _) _) ?_ fun _ _ _ => trivial
    intro _ (validated : List calls.Exchange) further
    have before : reserving <+: validated := (prefix_append _ _).trans (onward.trans further)
    refine ⟨trivial, fun answer => ?_⟩
    obtain ⟨recordedAllocation, _, _, _, rfl⟩ := restoreReservation_ok restored
    cases answer with
    | error error =>
      simp only [answered_error, Prog.attempt, Prog.bind]
      split
      · exact (Mild.extends (mild_releaseReservation _ _) _).mono fun _ _ _ => trivial
      · trivial
    | ok pool =>
      have saw {exchange : calls.Exchange} (mem : exchange ∈ reserving) : exchange ∈ validated ++
            [⟨.getWorkerPool allocation.clusterID allocation.poolName, .ok pool⟩] :=
        mem_append_left _ (before.subset mem)
      refine removePool_history _ current rfl fun valid => ?_
      have own := validatePool_own valid zones
      refine ⟨saw (extended.subset sawUID), reserved.imp saw saw, owned, restored, ?_, ?_⟩
      · exact mem_append_right _ (mem_singleton.mpr rfl)
      · exact ⟨own.name, own.zone, own.flavor, own.identity, own.autoscale, own.managed,
          own.provider, own.cluster, own.claim, own.nodeClass⟩

theorem cleanup_history : Follows (deletionProtocol platform allocation) (fun _ _ => True) history
      (cleanup platform allocation) := by
  refine ⟨trivial, fun _ => ?_⟩
  refine Follows.attempt_bind (cleanupLocked_history _ zones) fun out final _ => ?_
  refine ⟨trivial, fun _ => ?_⟩
  cases out <;> trivial

end

theorem Mild.forEach {body : α → Program Unit} (mild : ∀ item, Mild (body item)) (items : List α) :
    Mild (forEach body items) := by
  induction items with
  | nil => trivial
  | cons item rest ih => exact (mild item).bind fun _ => ih

theorem mild_deleteNodes (nodes : List Node) : Mild (deleteNodes allocation nodes) := by
  refine Mild.forEach (fun node => ?_) nodes
  split
  · trivial
  split
  · trivial
  · exact mild_ignoringNotFound ⟨trivial, mild_answered⟩

theorem mild_clusterUID : Mild clusterUID := by
  have call : Mild (.call .getNamespaceUID answered : Program String) := ⟨trivial, mild_answered⟩
  refine (call.wrapped _).bind fun uid => ?_
  split <;> trivial

theorem mild_dropReservation (given : Allocation) : Mild (dropReservation platform given) := by
  have read (key name : String) : Mild (getConfigMap key name) := ⟨trivial, mild_answered⟩
  refine (read _ _).attempt.bind fun out => ?_
  cases out with
  | error error =>
    dsimp only
    split <;> trivial
  | ok reservation =>
    dsimp only
    split
    · trivial
    · have delete : Mild (deleteConfigMap reservation) := ⟨trivial, mild_answered⟩
      exact (mild_ignoringNotFound delete).bind fun _ => trivial

theorem mild_confirmGoneLocked (given : Allocation) : Mild (confirmGoneLocked platform given) := by
  refine mild_clusterUID.bind fun cluster => ?_
  split
  · trivial
  refine mild_getIKSClient.bind fun target => (mild_ofExcept _).bind fun _ => ?_
  have lookup : Mild (getWorkerPool given.clusterID given.poolName) := ⟨trivial, mild_answered⟩
  refine lookup.attempt.bind fun out => ?_
  cases out with
  | ok pool => trivial
  | error error =>
    dsimp only
    split
    · trivial
    split
    · trivial
    refine (mild_workerGone _ _).bind fun gone => ?_
    split
    · exact mild_dropReservation given
    · trivial

/-- `ConfirmGone` deletes no pool. -/
theorem mild_confirmGone (claim : NodeClaim) : Mild (confirmGone platform claim) := by
  refine (mild_ofExcept _).bind fun decoded => ?_
  cases decoded with
  | none => trivial
  | some given =>
    dsimp only
    split
    · trivial
    split
    · trivial
    have lock : Mild (.call (.lockPool given.clusterID given.poolName) .pure : Program Unit) :=
      ⟨trivial, fun _ => trivial⟩
    have unlock : Mild (.call (.unlockPool given.clusterID given.poolName) .pure : Program Unit) :=
      ⟨trivial, fun _ => trivial⟩
    exact lock.bind fun _ => (mild_confirmGoneLocked given).attempt.bind fun out =>
      unlock.bind fun _ => mild_ofExcept out

end

/-! ## Delete and Cleanup -/

/-- The two operations of the provider that end an allocation. -/
inductive Deletion where
  | delete (node : Node)
  | cleanup (claim : NodeClaim)

def Deletion.program (platform : Platform) : Deletion → Program Unit
  | .delete node => deleteAllocation platform node
  | .cleanup claim => cleanupClaim platform claim

/-- The text of the allocation that the operation is given. -/
def Deletion.record : Deletion → Value
  | .delete node => ValueMap.read node.annotations allocationAnnotation
  | .cleanup claim => allocationOf claim

def Deletion.uid : Deletion → String
  | .delete node => node.uid
  | .cleanup claim => claim.uid

def Deletion.Justified (platform : Platform) (deletion : Deletion)
    (history : List calls.Exchange) : Call → Prop
  | .deleteWorkerPool clusterID poolID =>
    ∃ allocation, decodeAllocation deletion.record = .ok (some allocation) ∧
      allocation.claimUID = deletion.uid ∧
      DeletesSafely platform allocation history clusterID poolID
  | _ => True

variable {platform : Platform} {deletion : Deletion}

theorem Deletion.cleanup_follows (deletion : Deletion) {allocation : Allocation}
    (decoded : decodeAllocation deletion.record = .ok (some allocation))
    (own : allocation.claimUID = deletion.uid) (history : List calls.Exchange) :
    Follows (.history (deletion.Justified platform)) (fun _ _ => True) history
      (IKSAllocation.cleanup platform allocation) := by
  refine Follows.weaken_history (cleanup_history history (zones_of_decoded decoded)) ?_
  intro current op allowed
  cases op with
  | deleteWorkerPool cluster poolID => exact ⟨allocation, decoded, own, allowed⟩
  | _ => trivial

theorem Deletion.mild_follows {α : Type} {program : Program α} (mild : Mild program)
    (history : List calls.Exchange) :
    Follows (.history (deletion.Justified platform)) (fun _ _ => True) history program := by
  refine (Uses.extends_history mild ?_ history).mono fun _ _ _ => trivial
  intro current op harmless
  cases op <;> trivial

theorem Deletion.follows (platform : Platform) (deletion : Deletion) :
    Follows (.history (deletion.Justified platform)) (fun _ _ => True) []
      (deletion.program platform) := by
  cases deletion with
  | delete node =>
    simp only [Deletion.program, deleteAllocation]
    cases decoded : decodeAllocation (ValueMap.read node.annotations allocationAnnotation) with
    | error error => trivial
    | ok found =>
      simp only [EffectProgram.ofExcept, pure_ctor_bind]
      cases found with
      | none => trivial
      | some allocation =>
        dsimp only
        split
        · trivial
        rename_i own
        split
        · trivial
        · exact Deletion.cleanup_follows (.delete node) decoded (not_not.mp own) []
  | cleanup claim =>
    simp only [Deletion.program, cleanupClaim]
    split
    · exact Deletion.mild_follows (mild_confirmGone claim) []
    cases decoded : decodeAllocation (allocationOf claim) with
    | error error => trivial
    | ok found =>
      simp only [EffectProgram.ofExcept, pure_ctor_bind]
      cases found with
      | none => trivial
      | some allocation =>
        dsimp only
        split
        · trivial
        rename_i own
        have list : Mild listNodes := ⟨trivial, mild_answered⟩
        refine Follows.bind (Deletion.mild_follows list []) ?_ fun _ _ _ => trivial
        intro nodes listed _
        refine Follows.bind (Deletion.mild_follows (mild_deleteNodes _) listed) ?_
          fun _ _ _ => trivial
        intro _ emptied _
        split
        · trivial
        · exact Deletion.cleanup_follows (.cleanup claim) decoded (not_not.mp own) emptied

/-- In every run of `Delete` or `Cleanup`, under any answers, a worker pool is deleted only
after the answers of this run have shown it to be the allocation's own pool without another
worker, and after the deleting phase of its reservation was durably recorded. -/
theorem deletes_own_pool_only (platform : Platform) (deletion : Deletion)
    {trace : List calls.Exchange} {clusterID poolID : String}
    {rest : Except ApiError Unit → Program Unit}
    (reaches : Reaches (S := calls) (deletion.program platform) trace
      (.call (.deleteWorkerPool clusterID poolID) rest)) :
    ∃ allocation, decodeAllocation deletion.record = .ok (some allocation) ∧
      allocation.claimUID = deletion.uid ∧
      DeletesSafely platform allocation trace clusterID poolID :=
  Follows.permits_of_reaches (Deletion.follows platform deletion) reaches

theorem deletes_own_pool_only_sample :
    ∃ trace rest, Reaches (S := calls) (Deletion.program samplePlatform (.delete sampleNode)) trace
        (.call (.deleteWorkerPool "y" "p") rest) ∧
      ∃ allocation, decodeAllocation (Deletion.record (.delete sampleNode)) =
          .ok (some allocation) ∧ allocation.claimUID = Deletion.uid (.delete sampleNode) ∧
        DeletesSafely samplePlatform allocation trace "y" "p" := by
  have run : ∃ trace rest, Reaches (S := calls)
      (Deletion.program samplePlatform (.delete sampleNode)) trace
      (.call (.deleteWorkerPool "y" "p") rest) := by
    exact ⟨_, _, .step (S := calls) (.lockPool "y" "karp-d") () <|
      .step (S := calls) .getNamespaceUID (.ok "x") <|
      .step (S := calls) (.getConfigMap "s" "iks-pool-d")
        (.ok (newReservation samplePlatform sampleAllocation)) <|
      .step (S := calls) (.patchConfigMap _ _) (.ok 1) <|
      .step (S := calls) .iksClient (.ok ⟨sampleAllocation.accountID, "r"⟩) <|
      .step (S := calls) (.getWorkerPool "y" "karp-d") (.ok samplePool) <|
      .step (S := calls) (.patchConfigMap _ _) (.ok 2) <|
      .step (S := calls) (.listWorkers "y") (.ok [sampleWorker]) (.here _)⟩
  obtain ⟨trace, rest, reached⟩ := run
  exact ⟨trace, rest, reached, deletes_own_pool_only samplePlatform (.delete sampleNode) reached⟩

end KarpenterIBM.DeletionSafety
