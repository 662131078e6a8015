import KarpenterIBM.IKS.Allocation
import KarpenterIBM.Lib.WriteOnce

/-!
# The two records of an allocation

An allocation is recorded on its claim and in its reservation, in separate writes. Its snapshot
is fixed by the first record; the identities of the pool and of the worker are set once.
-/

namespace KarpenterIBM.AllocationRecords

open Calls EffectProgram Errors IKSAllocation Objects Ownership WriteOnce

/-! ## Records that agree -/

/-- `DecodeAllocation` accepts the record. -/
def valid (allocation : Allocation) : Bool :=
  identityComplete allocation && snapshotValid allocation

/-- The records differ at most in identities that one of them does not have. -/
structure Agree (first second : Allocation) : Prop where
  snapshot : snapshotOf first = snapshotOf second
  pool : Compatible "" first.poolID second.poolID
  worker : Compatible "" first.workerID second.workerID

/-- The later record keeps the snapshot and the identities of the earlier one. -/
structure Extends (old new : Allocation) : Prop where
  snapshot : snapshotOf old = snapshotOf new
  pool : Below "" old.poolID new.poolID
  worker : Below "" old.workerID new.workerID

def completed (allocation recorded : Allocation) : Allocation :=
  { allocation with
    poolID := fill "" allocation.poolID recorded.poolID
    workerID := fill "" allocation.workerID recorded.workerID }

section
variable {allocation recorded restored : Allocation} {resv : ConfigMap}

theorem decodeAllocation_iff : decodeAllocation (.allocation allocation) = .ok (some allocation) ↔
      valid allocation = true := by
  simp only [decodeAllocation, valid, Bool.and_eq_true]
  cases identityComplete allocation <;> cases snapshotValid allocation <;> simp

theorem valid_of_snapshot (same : snapshotOf allocation = snapshotOf recorded) :
    valid allocation = valid recorded := by
  have first : valid allocation = valid (snapshotOf allocation) := rfl
  have second : valid recorded = valid (snapshotOf recorded) := rfl
  rw [first, second, same]

theorem Extends.refl (allocation : Allocation) : Extends allocation allocation :=
  ⟨rfl, .refl _, .refl _⟩

theorem Extends.trans {last : Allocation} (first : Extends allocation recorded)
    (second : Extends recorded last) : Extends allocation last :=
  ⟨first.snapshot.trans second.snapshot, first.pool.trans second.pool,
    first.worker.trans second.worker⟩

/-- `restoreReservation` succeeds on records that agree, and only there. -/
theorem restoreReservation_iff : restoreReservation allocation resv = .ok restored ↔
      ∃ recorded, recordOf resv = .allocation recorded ∧ valid recorded = true ∧
        Agree allocation recorded ∧ restored = completed allocation recorded := by
  constructor
  · intro out
    unfold restoreReservation at out
    split at out
    · cases out
    · cases out
    rename_i recorded decoded
    obtain ⟨stored, _⟩ := decodeAllocation_some decoded
    split at out
    · cases out
    rename_i same
    split at out
    · cases out
    rename_i pool
    split at out
    · cases out
    rename_i worker
    cases out
    rw [stored, decodeAllocation_iff] at decoded
    exact ⟨recorded, stored, decoded,
      ⟨not_not.mp same, compatible_iff.mpr pool, compatible_iff.mpr worker⟩, rfl⟩
  · rintro ⟨recorded, stored, accepted, agree, rfl⟩
    have decoded := decodeAllocation_iff.mpr accepted
    have pool := compatible_iff.mp agree.pool
    have worker := compatible_iff.mp agree.worker
    simp only [restoreReservation, stored, decoded, agree.snapshot, ne_eq, not_true_eq_false,
      if_false, if_neg pool, if_neg worker]
    rfl

theorem Agree.completed (agree : Agree allocation recorded) :
    Extends allocation (completed allocation recorded) ∧
      Extends recorded (completed allocation recorded) :=
  ⟨⟨rfl, below_fill_left _ _, below_fill_left _ _⟩,
    ⟨agree.snapshot.symm, agree.pool.below_fill_right, agree.worker.below_fill_right⟩⟩

end

/-! ## The identity -/

structure Identity where
  snapshot : Option Allocation
  pool : String
  worker : String

def Identity.unknown : Identity := ⟨none, "", ""⟩

def Identity.note (identity : Identity) (allocation : Allocation) : Identity where
  snapshot := fill none identity.snapshot (some (snapshotOf allocation))
  pool := fill "" identity.pool allocation.poolID
  worker := fill "" identity.worker allocation.workerID

def Identity.noteValue (identity : Identity) : Value → Identity
  | .allocation allocation => identity.note allocation
  | _ => identity

structure Identity.Fits (identity : Identity) (allocation : Allocation) : Prop where
  snapshot : identity.snapshot = some (snapshotOf allocation)
  pool : Below "" allocation.poolID identity.pool
  worker : Below "" allocation.workerID identity.worker

structure Identity.Grows (before after : Identity) : Prop where
  snapshot : Below none before.snapshot after.snapshot
  pool : Below "" before.pool after.pool
  worker : Below "" before.worker after.worker

section
variable {identity later : Identity} {allocation other : Allocation}

theorem Identity.Grows.refl (identity : Identity) : identity.Grows identity :=
  ⟨.refl _, .refl _, .refl _⟩

theorem Identity.Grows.trans {last : Identity} (first : identity.Grows later)
    (second : later.Grows last) : identity.Grows last :=
  ⟨first.snapshot.trans second.snapshot, first.pool.trans second.pool,
    first.worker.trans second.worker⟩

theorem Identity.grows_note (identity : Identity) (allocation : Allocation) :
    identity.Grows (identity.note allocation) :=
  ⟨below_fill_left _ _, below_fill_left _ _, below_fill_left _ _⟩

theorem Identity.grows_noteValue (identity : Identity) (value : Value) :
    identity.Grows (identity.noteValue value) := by
  cases value with
  | allocation allocation => exact identity.grows_note allocation
  | _ => exact .refl identity

theorem Identity.Fits.grows (fits : identity.Fits allocation) (grows : identity.Grows later) :
    later.Fits allocation where
  snapshot := by
    have kept := grows.snapshot.eq (by rw [fits.snapshot]; exact Option.some_ne_none _)
    rw [← kept, fits.snapshot]
  pool := fits.pool.trans grows.pool
  worker := fits.worker.trans grows.worker

theorem Identity.Fits.note (fits : identity.Fits allocation) :
    identity.note allocation = identity := by
  have snapshot : Below none (some (snapshotOf allocation)) identity.snapshot :=
    .inr fits.snapshot.symm
  simp only [Identity.note, snapshot.fill_eq, fits.pool.fill_eq, fits.worker.fill_eq]

theorem Identity.Fits.agree (first : identity.Fits allocation) (second : identity.Fits other) :
    Agree allocation other where
  snapshot := Option.some.inj (first.snapshot.symm.trans second.snapshot)
  pool := first.pool.compatible second.pool
  worker := first.worker.compatible second.worker

theorem Identity.fits_note
    (snapshot : Compatible none identity.snapshot (some (snapshotOf allocation)))
    (pool : Compatible "" identity.pool allocation.poolID)
    (worker : Compatible "" identity.worker allocation.workerID) :
    (identity.note allocation).Fits allocation where
  snapshot := by
    have below := snapshot.below_fill_right
    exact (below.eq (Option.some_ne_none _)).symm
  pool := pool.below_fill_right
  worker := worker.below_fill_right

end

/-! ## What a run knows -/

def queueKey : String × String := ("", "")

def poolOf (allocation : Allocation) : String × String :=
  (allocation.clusterID, allocation.poolName)

structure Phase where
  broken : Bool
  gone : Bool
  terminating : Bool
  copy : Option NodeClaim
  turn : Bool
  known : Option Value
  lock : Option (String × String)
  admitted : Bool
  seen : List Allocation
  held : Option ConfigMap
  shown : Option String

def Phase.start : Phase :=
  ⟨false, false, false, none, false, none, none, false, [], none, none⟩

def noted (value : Value) (seen : List Allocation) : List Allocation :=
  match value with
  | .allocation allocation => allocation :: seen
  | _ => seen

def isAllocation : Value → Bool
  | .allocation _ => true
  | _ => false

variable (platform : Platform) (claimName : String)

def Phase.keyed (phase : Phase) («namespace» name : String) : Bool :=
  phase.seen.any fun allocation =>
    decide (phase.lock = some (poolOf allocation)) &&
      decide («namespace» = allocation.namespace) &&
      decide (name = reservationName platform allocation.clusterID allocation.poolName)

def Phase.doubt (phase : Phase) (incredible : Bool) : Phase :=
  { phase with broken := phase.broken || incredible }

/-- While the turn is held the record on the claim does not change. -/
def Phase.read (phase : Phase) (claim : NodeClaim) : Phase :=
  { phase with
    copy := some claim
    terminating := phase.terminating || claim.deletionTimestamp.isSome
    seen := noted (allocationOf claim) phase.seen
    known := if phase.turn then some (allocationOf claim) else none
    broken := phase.broken || phase.gone ||
      phase.known.any fun value => decide (value ≠ allocationOf claim) }

def Phase.stored (phase : Phase) (patched : NodeClaim) : Phase :=
  { phase with
    copy := none
    seen := noted (allocationOf patched) phase.seen
    known := if phase.turn then some (allocationOf patched) else none
    admitted := phase.admitted || (phase.lock.isSome && isAllocation (allocationOf patched)) }

def Phase.hold (phase : Phase) (reservation : ConfigMap) : Phase :=
  if phase.keyed platform reservation.namespace reservation.name then
    { phase with
      held := some reservation
      seen := noted (recordOf reservation) phase.seen }
  else phase

def Phase.locks (phase : Phase) (key : String × String) : Phase :=
  if key = queueKey then { phase with turn := true, known := none }
  else { phase with lock := some key, admitted := false, held := none, shown := none }

def Phase.unlocks (phase : Phase) (key : String × String) : Phase :=
  if key = queueKey then { phase with turn := false, known := none }
  else { phase with lock := none, admitted := false, held := none, shown := none }

def Phase.next (phase : Phase) : (call : Call) → call.Answer → Phase
  | .getClaim name, answer =>
    match answer with
    | .ok claim => phase.read claim
    | .error error =>
      { phase with
        gone := phase.gone || (decide (name = claimName) && isKube .notFound error.val) }
  | .patchClaim _ patched, answer =>
    match answer with
    | .ok _ => phase.stored patched
    | .error _ => { phase with copy := none, known := none }
  | .getNodeClass _, answer =>
    match answer with
    | .ok nodeClass => phase.doubt (decide (nodeClass.spec.region = ""))
    | .error _ => phase
  | .getConfigMap «namespace» name, answer =>
    match answer with
    | .ok reservation =>
      (phase.doubt (decide (reservation.namespace ≠ «namespace») ||
        decide (reservation.name ≠ name))).hold platform reservation
    | .error _ => phase
  | .createConfigMap submitted, answer =>
    match answer with
    | .ok reservation =>
      (phase.doubt (decide (reservation ≠ { submitted with
        uid := reservation.uid
        resourceVersion := reservation.resourceVersion }))).hold platform reservation
    | .error _ => phase
  | .patchConfigMap _ patched, answer =>
    match answer with
    | .ok version =>
      { phase with
        held := some { patched with resourceVersion := version }
        seen := noted (recordOf patched) phase.seen }
    | .error _ => { phase with held := none }
  | .deleteConfigMap _, _ => { phase with held := none, shown := none }
  | .getWorkerPool clusterID pool, answer =>
    match answer with
    | .ok found =>
      if phase.lock = some (clusterID, pool) then { phase with shown := some found.id }
      else phase
    | .error _ => phase
  | .lockPool clusterID poolName, _ => phase.locks (clusterID, poolName)
  | .unlockPool clusterID poolName, _ => phase.unlocks (clusterID, poolName)
  | _, _ => phase

/-! ## What a run may write -/

def Replaces (stored : Value) (allocation : Allocation) : Prop :=
  (stored = .text "" ∧ allocation.poolID = "" ∧ allocation.workerID = "") ∨
    ∃ old, stored = .allocation old ∧ Extends old allocation

structure Phase.Backs (phase : Phase) (allocation : Allocation) : Prop where
  pool : allocation.poolID = "" ∨ ∃ seen ∈ phase.seen, seen.poolID = allocation.poolID
  worker : allocation.workerID = "" ∨ ∃ seen ∈ phase.seen, seen.workerID = allocation.workerID

structure Phase.Checkpoints (phase : Phase) (stored patched : NodeClaim)
    (allocation : Allocation) : Prop where
  present : stored.deletionTimestamp = none
  after : patched = withAllocation stored allocation
  turn : phase.turn = true
  lock : phase.lock = some (poolOf allocation)
  valid : valid allocation = true
  replaces : Replaces (allocationOf stored) allocation
  backed : phase.Backs allocation

/-- A write of the reservation: an identity is in a record, or is new where the stored
reservation has none. -/
structure Phase.Records (phase : Phase) (old allocation : Allocation) : Prop where
  keeps : Extends old allocation
  pool : allocation.poolID = "" ∨ (∃ seen ∈ phase.seen, seen.poolID = allocation.poolID) ∨
    (old.poolID = "" ∧ (phase.admitted = true ∨ phase.shown = some allocation.poolID))
  worker : allocation.workerID = "" ∨
    (∃ seen ∈ phase.seen, seen.workerID = allocation.workerID) ∨
    (old.workerID = "" ∧ phase.admitted = true)

def Phase.Permits (phase : Phase) : Call → Prop
  | .patchClaim stored patched =>
    phase.copy = some stored ∧
      ((∃ allocation, phase.Checkpoints stored patched allocation) ∨
        (phase.lock = none ∧ patched.annotations = stored.annotations))
  | .createConfigMap reservation =>
    ∃ allocation ∈ phase.seen, reservation = newReservation platform allocation ∧
      phase.lock = some (poolOf allocation)
  | .patchConfigMap stored patched =>
    phase.held = some stored ∧ ∃ old allocation kind started,
      recordOf stored = .allocation old ∧
      patched = { stored with data := updatedData stored.data allocation kind started } ∧
      phase.Records old allocation
  | .deleteConfigMap reservation =>
    phase.keyed platform reservation.namespace reservation.name = true ∧
      phase.terminating = true ∧ phase.admitted = false
  | _ => True

def recordProtocol : Protocol calls where
  Phase := Phase
  permits phase op := phase.broken = true ∨ phase.Permits platform op
  next := Phase.next platform claimName

theorem Phase.broken_hold {phase : Phase} (broken : phase.broken = true) (rsv : ConfigMap) :
    (phase.hold platform rsv).broken = true := by
  unfold Phase.hold
  split <;> exact broken

theorem broken_next (phase : Phase) (op : Call) (answer : op.Answer)
    (broken : phase.broken = true) :
    (phase.next platform claimName op answer).broken = true := by
  have doubted (incredible : Bool) : (phase.doubt incredible).broken = true := by
    simp [Phase.doubt, broken]
  cases op with
  | getClaim name => cases answer <;> simp [Phase.next, Phase.read, broken]
  | patchClaim stored patched | patchConfigMap stored patched => cases answer <;> exact broken
  | getNodeClass name =>
    cases answer with
    | error error => exact broken
    | ok nodeClass => exact doubted _
  | getConfigMap «namespace» name | createConfigMap sent =>
    cases answer with
    | error error => exact broken
    | ok rsv => exact Phase.broken_hold platform (doubted _) rsv
  | getWorkerPool cluster pool =>
    cases answer with
    | error error => exact broken
    | ok found =>
      simp only [Phase.next]
      split <;> exact broken
  | lockPool cluster poolName =>
    simp only [Phase.next, Phase.locks]
    split <;> exact broken
  | unlockPool cluster poolName =>
    simp only [Phase.next, Phase.unlocks]
    split <;> exact broken
  | _ => exact broken

def reliance : Reliance (recordProtocol platform claimName) where
  broken phase := phase.broken = true
  permits _ _ := Or.inl
  next := broken_next platform claimName

end KarpenterIBM.AllocationRecords
