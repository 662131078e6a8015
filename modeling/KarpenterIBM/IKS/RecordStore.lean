import KarpenterIBM.IKS.RecordProtocol
import KarpenterIBM.Lib.Interleaving

/-!
# The claim and its reservation in the API server

Launches of one claim take turns; terminations and cleanups of the claim run beside them. Writes
carry the version they were computed from and their responses may be lost.
-/

namespace KarpenterIBM.AllocationRecords

open Calls EffectProgram Errors Function IKSAllocation List Objects Ownership WriteOnce

def keyOf (platform : Platform) (allocation : Allocation) : String × String :=
  (allocation.namespace, reservationName platform allocation.clusterID allocation.poolName)

def keyOfReservation (reservation : ConfigMap) : String × String :=
  (reservation.namespace, reservation.name)

structure World where
  claim : Option NodeClaim
  reservations : String × String → Option ConfigMap
  locks : String × String → Option Nat
  nextVersion : Nat
  identity : Identity
  released : Bool

/-! ## The API server -/

def written (current patched : NodeClaim) (version : Nat) : NodeClaim :=
  { current with
    annotations := patched.annotations
    finalizers := patched.finalizers
    resourceVersion := version }

variable (world : World)

def World.storeClaim (current patched : NodeClaim) : World :=
  { world with
    claim := some (written current patched world.nextVersion)
    nextVersion := world.nextVersion + 1
    identity := world.identity.noteValue (allocationOf patched) }

def World.putReservation (reservation : ConfigMap) : World :=
  { world with
    reservations := update world.reservations (keyOfReservation reservation)
      (some { reservation with resourceVersion := world.nextVersion })
    nextVersion := world.nextVersion + 1
    identity := world.identity.noteValue (recordOf reservation) }

def World.dropReservation (reservation : ConfigMap) : World :=
  { world with
    reservations := update world.reservations (keyOfReservation reservation) none
    released := true }

structure World.Unlocked (world : World) (stored current : NodeClaim) : Prop where
  present : world.claim = some current
  version : stored.resourceVersion = current.resourceVersion

inductive World.PatchesClaim (world : World) (stored patched : NodeClaim) :
    Except ApiError Nat → World → Prop where
  | applied (current : NodeClaim) (unlocked : world.Unlocked stored current) :
      PatchesClaim world stored patched (.ok world.nextVersion) (world.storeClaim current patched)
  | lost (current : NodeClaim) (unlocked : world.Unlocked stored current) (error : ApiError) :
      PatchesClaim world stored patched (.error error) (world.storeClaim current patched)
  | refused (error : ApiError) : PatchesClaim world stored patched (.error error) world

inductive World.Creates (world : World) (submitted : ConfigMap) :
    Except ApiError ConfigMap → World → Prop where
  | applied (uid : String) (absent : world.reservations (keyOfReservation submitted) = none) :
      Creates world submitted
        (.ok { submitted with uid := uid, resourceVersion := world.nextVersion })
        (world.putReservation { submitted with uid := uid })
  | lost (uid : String) (absent : world.reservations (keyOfReservation submitted) = none)
      (error : ApiError) :
      Creates world submitted (.error error) (world.putReservation { submitted with uid := uid })
  | refused (error : ApiError) : Creates world submitted (.error error) world

structure World.Unchanged (world : World) (stored current : ConfigMap) : Prop where
  present : world.reservations (keyOfReservation stored) = some current
  version : stored.resourceVersion = current.resourceVersion

inductive World.Patches (world : World) (stored patched : ConfigMap) :
    Except ApiError Nat → World → Prop where
  | applied (current : ConfigMap) (unchanged : world.Unchanged stored current) :
      Patches world stored patched (.ok world.nextVersion)
        (world.putReservation { current with data := patched.data })
  | lost (current : ConfigMap) (unchanged : world.Unchanged stored current) (error : ApiError) :
      Patches world stored patched (.error error)
        (world.putReservation { current with data := patched.data })
  | refused (error : ApiError) : Patches world stored patched (.error error) world

inductive World.Deletes (world : World) (reservation : ConfigMap) :
    Except ApiError Unit → World → Prop where
  | applied (current : ConfigMap) (unchanged : world.Unchanged reservation current) :
      Deletes world reservation (.ok ()) (world.dropReservation reservation)
  | lost (current : ConfigMap) (unchanged : world.Unchanged reservation current)
      (error : ApiError) :
      Deletes world reservation (.error error) (world.dropReservation reservation)
  | refused (error : ApiError) : Deletes world reservation (.error error) world

def World.ShowsRecorded (key : String × String) (pool : WorkerPool) : Prop :=
  world.released = true → ∀ snapshot, world.identity.snapshot = some snapshot →
    key = poolOf snapshot → world.identity.pool ≠ "" → pool.id = world.identity.pool

/-- In this world the call of this process may get this answer and leave that world. -/
def World.Answers (pid : Nat) : (op : Call) → op.Answer → World → Prop
  | .getClaim name, answer, served =>
    served = world ∧
      (∀ claim, answer = .ok claim → world.claim = some claim ∧ claim.name = name) ∧
      ∀ error, answer = .error error → isKube .notFound error.val = true →
        ∀ claim, world.claim = some claim → claim.name ≠ name
  | .patchClaim stored patched, answer, served => world.PatchesClaim stored patched answer served
  | .getNodeClass _, answer, served =>
    served = world ∧ ∀ nodeClass, answer = .ok nodeClass → nodeClass.spec.region ≠ ""
  | .getConfigMap «namespace» name, answer, served =>
    served = world ∧ ∀ reservation, answer = .ok reservation →
      world.reservations («namespace», name) = some reservation
  | .createConfigMap submitted, answer, served => world.Creates submitted answer served
  | .patchConfigMap stored patched, answer, served => world.Patches stored patched answer served
  | .deleteConfigMap reservation, answer, served => world.Deletes reservation answer served
  | .getWorkerPool clusterID pool, answer, served =>
    served = world ∧ ∀ found, answer = .ok found → world.ShowsRecorded (clusterID, pool) found
  | .lockPool clusterID poolName, _, served =>
    world.locks (clusterID, poolName) = none ∧
      served = { world with
        locks := update world.locks (clusterID, poolName) (some pid) }
  | .unlockPool clusterID poolName, _, served =>
    served = { world with
      locks := if world.locks (clusterID, poolName) = some pid then
        update world.locks (clusterID, poolName) none else world.locks }
  | _, _, served => served = world

structure Touches (current updated : NodeClaim) : Prop where
  name : updated.name = current.name
  record : allocationOf updated = allocationOf current
  terminating : current.deletionTimestamp ≠ none → updated.deletionTimestamp ≠ none

inductive World.Outside (world : World) : World → Prop where
  | touched (current updated : NodeClaim) (present : world.claim = some current)
      (touches : Touches current updated) :
      Outside world { world with
        claim := some { updated with resourceVersion := world.nextVersion }
        nextVersion := world.nextVersion + 1 }
  | removed : Outside world { world with claim := none }

def World.crash (pid : Nat) : World :=
  { world with locks := fun key => if world.locks key = some pid then none else world.locks key }

structure World.Fresh (claimName : String) (world : World) : Prop where
  name : ∀ claim, world.claim = some claim → claim.name = claimName
  version : ∀ claim, world.claim = some claim → claim.resourceVersion < world.nextVersion
  blank : ∀ claim, world.claim = some claim → allocationOf claim = .text ""
  unreserved : ∀ key, world.reservations key = none
  unknown : world.identity = .unknown
  unreleased : world.released = false

/-! ## The invariant -/

def World.Ended : Prop :=
  ∀ claim, world.claim = some claim → claim.deletionTimestamp ≠ none

/-- The records of the world fit its identity. -/
structure Sound (platform : Platform) (claimName : String) (world : World) : Prop where
  name : ∀ claim, world.claim = some claim → claim.name = claimName
  claimVersion : ∀ claim, world.claim = some claim → claim.resourceVersion < world.nextVersion
  accepted : ∀ snapshot, world.identity.snapshot = some snapshot → valid snapshot = true
  unknown : world.identity.snapshot = none → world.identity = .unknown
  onClaim : ∀ claim, world.claim = some claim →
    (allocationOf claim = .text "" ∧ world.identity.snapshot = none) ∨
      ∃ allocation, allocationOf claim = .allocation allocation ∧ world.identity.Fits allocation
  reserved : ∀ key reservation, world.reservations key = some reservation →
    keyOfReservation reservation = key ∧ ∃ allocation,
      recordOf reservation = .allocation allocation ∧ world.identity.Fits allocation ∧
      key = keyOf platform allocation
  leads : world.released = false → ∀ key reservation allocation,
    world.reservations key = some reservation → recordOf reservation = .allocation allocation →
      allocation.poolID = world.identity.pool ∧ allocation.workerID = world.identity.worker
  alone : world.released = false → (∀ key, world.reservations key = none) →
    world.identity.pool = "" ∧ world.identity.worker = ""
  ended : world.released = true → world.Ended

structure CopyOf (world : World) (copy : NodeClaim) : Prop where
  version : copy.resourceVersion < world.nextVersion
  same : ∀ current, world.claim = some current →
    copy.resourceVersion = current.resourceVersion →
    allocationOf copy = allocationOf current ∧
      copy.deletionTimestamp = current.deletionTimestamp

def Phase.Working (phase : Phase) : Prop :=
  ∃ allocation ∈ phase.seen, phase.lock = some (poolOf allocation)

structure Knows (world : World) (pid : Nat) (phase : Phase) : Prop where
  credible : phase.broken = false
  gone : phase.gone = true → world.claim = none
  terminating : phase.terminating = true → world.Ended
  copy : ∀ copy, phase.copy = some copy → CopyOf world copy
  turn : phase.turn = true → world.locks queueKey = some pid
  known : ∀ value, phase.known = some value → phase.turn = true ∧
    ∀ current, world.claim = some current → allocationOf current = value
  lock : ∀ key, phase.lock = some key → world.locks key = some pid
  apart : phase.lock ≠ some queueKey
  seen : ∀ allocation ∈ phase.seen, world.identity.Fits allocation
  held : ∀ reservation, phase.held = some reservation →
    world.reservations (keyOfReservation reservation) = some reservation ∧ phase.Working
  admitted : phase.admitted = true → world.released = false ∧ phase.Working
  shown : ∀ pool, phase.shown = some pool → world.released = true →
    ∀ snapshot, world.identity.snapshot = some snapshot → phase.lock = some (poolOf snapshot) →
      world.identity.pool ≠ "" → pool = world.identity.pool

structure Coherent (platform : Platform) (claimName : String) (world : World)
    (phases : Nat → Phase) : Prop where
  sound : Sound platform claimName world
  knows : ∀ pid, Knows world pid (phases pid)

theorem knows_start (pid : Nat) : Knows world pid .start where
  credible := rfl
  gone := nofun
  terminating := nofun
  copy := nofun
  turn := nofun
  known := nofun
  lock := nofun
  apart := nofun
  seen := nofun
  held := nofun
  admitted := nofun
  shown := nofun

/-! ## What a step leaves to the other processes -/

structure Shift (mover : Option Nat) (world moved : World) : Prop where
  nextVersion : world.nextVersion ≤ moved.nextVersion
  identity : world.identity.Grows moved.identity
  claim : ∀ current, moved.claim = some current → ∃ before, world.claim = some before ∧
    (before.deletionTimestamp ≠ none → current.deletionTimestamp ≠ none) ∧
    (current = before ∨ world.nextVersion ≤ current.resourceVersion) ∧
    (allocationOf current = allocationOf before ∨
      ∃ pid, mover = some pid ∧ world.locks queueKey = some pid)
  locks : ∀ key other, mover ≠ some other → world.locks key = some other →
    moved.locks key = some other
  reserved : (moved.reservations = world.reservations ∧ moved.released = world.released ∧
      moved.identity.pool = world.identity.pool) ∨
    ∃ pid snapshot, mover = some pid ∧ world.identity.snapshot = some snapshot ∧
      world.locks (poolOf snapshot) = some pid

variable {phase : Phase}

section
variable {platform : Platform} {claimName : String} {mover : Option Nat} {world moved : World}

section
variable (shift : Shift mover world moved)

include shift

theorem Shift.ended (ended : world.Ended) : moved.Ended := by
  intro claim found
  obtain ⟨before, was, kept, _⟩ := shift.claim claim found
  exact kept (ended before was)

theorem Shift.gone (gone : world.claim = none) : moved.claim = none := by
  cases found : moved.claim with
  | none => rfl
  | some claim =>
    obtain ⟨before, was, _⟩ := shift.claim claim found
    cases gone.symm.trans was

theorem Shift.copyOf {copy : NodeClaim} (known : CopyOf world copy) : CopyOf moved copy where
  version := known.version.trans_le shift.nextVersion
  same := by
    intro current found version
    obtain ⟨before, was, _, rfl | newer, _⟩ := shift.claim current found
    · exact known.same current was version
    · exact absurd version (known.version.trans_le newer).ne

end

theorem Knows.working_lock {pid : Nat} (knows : Knows world pid phase) (working : phase.Working)
    {snapshot : Allocation} (known : world.identity.snapshot = some snapshot) :
    phase.lock = some (poolOf snapshot) := by
  obtain ⟨allocation, mem, lock⟩ := working
  have same := (knows.seen allocation mem).snapshot
  cases known.symm.trans same
  exact lock

theorem Knows.shift {other : Nat} (knows : Knows world other phase)
    (sound : Sound platform claimName world) (shift : Shift mover world moved)
    (differ : mover ≠ some other) : Knows moved other phase where
  credible := knows.credible
  gone := fun gone => shift.gone (knows.gone gone)
  terminating := fun terminating => shift.ended (knows.terminating terminating)
  copy := fun copy copied => shift.copyOf (knows.copy copy copied)
  turn := fun turn => shift.locks _ _ differ (knows.turn turn)
  known := by
    intro value known
    obtain ⟨turn, agrees⟩ := knows.known value known
    refine ⟨turn, fun current found => ?_⟩
    obtain ⟨before, was, _, _, same | ⟨pid, rfl, holder⟩⟩ := shift.claim current found
    · exact same.trans (agrees before was)
    exact absurd (holder.symm.trans (knows.turn turn)) differ
  lock := fun key locked => shift.locks _ _ differ (knows.lock key locked)
  apart := knows.apart
  seen := fun allocation mem => (knows.seen allocation mem).grows shift.identity
  held := by
    intro reservation held
    obtain ⟨stored, working⟩ := knows.held reservation held
    refine ⟨?_, working⟩
    rcases shift.reserved with ⟨same, _⟩ | ⟨pid, snapshot, rfl, known, holder⟩
    · rw [same]
      exact stored
    have own := knows.lock _ (knows.working_lock working known)
    exact absurd (holder.symm.trans own) differ
  admitted := by
    intro admitted
    obtain ⟨unreleased, working⟩ := knows.admitted admitted
    refine ⟨?_, working⟩
    rcases shift.reserved with ⟨_, same, _⟩ | ⟨pid, snapshot, rfl, known, holder⟩
    · rw [same]
      exact unreleased
    have own := knows.lock _ (knows.working_lock working known)
    exact absurd (holder.symm.trans own) differ
  shown := by
    intro pool shown released snapshot known locked set
    rcases shift.reserved with ⟨_, sameRelease, samePool⟩ | ⟨pid, before, rfl, was, holder⟩
    · rw [sameRelease] at released
      rw [samePool] at set ⊢
      rcases shift.identity.snapshot with unknown | same
      · rw [sound.unknown unknown] at set
        exact absurd rfl set
      · rw [← same] at known
        exact knows.shown pool shown released snapshot known locked set
    · have same := shift.identity.snapshot.eq (by rw [was]; exact Option.some_ne_none _)
      rw [was, known] at same
      cases same
      exact absurd (holder.symm.trans (knows.lock _ locked)) differ

end

/-! ## Writes of the claim -/

section
variable {platform : Platform} {claimName : String} {world : World} {pid : Nat} {phase : Phase}

theorem Sound.fits_claim (sound : Sound platform claimName world) {claim : NodeClaim}
    (present : world.claim = some claim) (allocation : Allocation)
    (record : allocationOf claim = .allocation allocation) : world.identity.Fits allocation := by
  rcases sound.onClaim claim present with ⟨blank, _⟩ | ⟨other, found, fits⟩
  · cases blank.symm.trans record
  cases found.symm.trans record
  exact fits

structure ClaimWrite (world : World) (phase : Phase) (current patched : NodeClaim) : Prop where
  pool : (world.identity.noteValue (allocationOf patched)).pool = world.identity.pool
  worker : (world.identity.noteValue (allocationOf patched)).worker = world.identity.worker
  accepted : ∀ snapshot,
    (world.identity.noteValue (allocationOf patched)).snapshot = some snapshot →
      valid snapshot = true
  unknown : (world.identity.noteValue (allocationOf patched)).snapshot = none →
    world.identity.noteValue (allocationOf patched) = .unknown
  record : (allocationOf patched = .text "" ∧
      (world.identity.noteValue (allocationOf patched)).snapshot = none) ∨
    ∃ allocation, allocationOf patched = .allocation allocation ∧
      (world.identity.noteValue (allocationOf patched)).Fits allocation ∧
      (phase.lock = none ∨ (world.released = false ∧ phase.lock = some (poolOf allocation)))
  kept : allocationOf patched = allocationOf current ∨ phase.turn = true

variable {patched current : NodeClaim}

section
variable (sound : Sound platform claimName world) (knows : Knows world pid phase)

include sound knows

theorem checkpoint_write {stored : NodeClaim} {allocation : Allocation}
    (copied : phase.copy = some stored) (unlocked : world.Unlocked stored current)
    (points : phase.Checkpoints stored patched allocation) :
    ClaimWrite world phase current patched := by
  obtain ⟨same, alive⟩ := (knows.copy stored copied).same current unlocked.present unlocked.version
  have unreleased : world.released = false := by
    rw [Bool.eq_false_iff]
    intro released
    exact sound.ended released current unlocked.present (alive.symm.trans points.present)
  have record : allocationOf patched = .allocation allocation := by
    rw [points.after]
    exact allocationOf_withAllocation stored allocation
  rcases points.replaces with ⟨blank, pool, worker⟩ | ⟨old, stored, keeps⟩
  · rw [same] at blank
    have fresh : world.identity = .unknown := by
      rcases sound.onClaim current unlocked.present with ⟨_, none⟩ | ⟨other, no, _⟩
      · exact sound.unknown none
      · cases blank.symm.trans no
    have noted : world.identity.noteValue (allocationOf patched) =
        ⟨some (snapshotOf allocation), "", ""⟩ := by
      rw [record, fresh]
      simp [Identity.noteValue, Identity.note, Identity.unknown, fill, pool, worker]
    refine ⟨?_, ?_, ?_, ?_, .inr ⟨allocation, record, ?_, .inr ⟨unreleased, points.lock⟩⟩,
      .inr points.turn⟩
    · rw [noted, fresh]
      rfl
    · rw [noted, fresh]
      rfl
    · rw [noted]
      rintro snapshot ⟨⟩
      exact points.valid
    · rw [noted]
      rintro ⟨⟩
    · rw [noted]
      exact ⟨rfl, .inl pool, .inl worker⟩
  · rw [same] at stored
    have fits := sound.fits_claim unlocked.present old stored
    have fitsNew : world.identity.Fits allocation := by
      refine ⟨fits.snapshot.trans (congrArg some keeps.snapshot), ?_, ?_⟩
      · rcases points.backed.pool with unset | ⟨seen, mem, pool⟩
        · exact .inl unset
        · rw [← pool]
          exact (knows.seen seen mem).pool
      rcases points.backed.worker with unset | ⟨seen, mem, worker⟩
      · exact .inl unset
      · rw [← worker]
        exact (knows.seen seen mem).worker
    have noted : world.identity.noteValue (allocationOf patched) = world.identity := by
      rw [record]
      exact fitsNew.note
    refine ⟨?_, ?_, ?_, ?_, .inr ⟨allocation, record, ?_, .inr ⟨unreleased, points.lock⟩⟩,
      .inr points.turn⟩ <;> rw [noted]
    · exact sound.accepted
    · exact sound.unknown
    · exact fitsNew

theorem Knows.claimWrite {stored : NodeClaim}
    (allowed : phase.Permits platform (.patchClaim stored patched))
    (unlocked : world.Unlocked stored current) : ClaimWrite world phase current patched := by
  obtain ⟨copied, ⟨allocation, points⟩ | ⟨unlockedPool, annotations⟩⟩ := allowed
  · exact checkpoint_write sound knows copied unlocked points
  have same := ((knows.copy stored copied).same current unlocked.present unlocked.version).1
  have record : allocationOf patched = allocationOf current := by
    rw [← same, allocationOf, annotations]
    rfl
  have noted : world.identity.noteValue (allocationOf patched) = world.identity := by
    rw [record]
    rcases sound.onClaim current unlocked.present with ⟨blank, _⟩ | ⟨old, found, fits⟩
    · rw [blank]
      rfl
    · rw [found]
      exact fits.note
  refine ⟨?_, ?_, ?_, ?_, ?_, .inl record⟩ <;> rw [noted]
  · exact sound.accepted
  · exact sound.unknown
  rw [record]
  rcases sound.onClaim current unlocked.present with blank | ⟨old, found, fits⟩
  · exact .inl blank
  · exact .inr ⟨old, found, fits, .inl unlockedPool⟩

end

theorem ClaimWrite.sound (sound : Sound platform claimName world)
    (found : world.claim = some current) (write : ClaimWrite world phase current patched) :
    Sound platform claimName (world.storeClaim current patched) where
  name := by
    rintro claim ⟨⟩
    exact sound.name current found
  claimVersion := by
    rintro claim ⟨⟩
    exact Nat.lt_succ_self _
  accepted := write.accepted
  unknown := write.unknown
  onClaim := by
    rintro claim ⟨⟩
    rcases write.record with blank | ⟨allocation, record, fits, _⟩
    · exact .inl blank
    · exact .inr ⟨allocation, record, fits⟩
  reserved := by
    intro key reservation stored
    obtain ⟨keyed, allocation, record, fits, place⟩ := sound.reserved key reservation stored
    exact ⟨keyed, allocation, record, fits.grows (world.identity.grows_noteValue _), place⟩
  leads := by
    intro unreleased key reservation allocation stored record
    have leads := sound.leads unreleased key reservation allocation stored record
    exact ⟨leads.1.trans write.pool.symm, leads.2.trans write.worker.symm⟩
  alone := by
    intro unreleased empty
    have alone := sound.alone unreleased empty
    exact ⟨write.pool.trans alone.1, write.worker.trans alone.2⟩
  ended := by
    intro released
    rintro claim ⟨⟩
    exact sound.ended released current found

theorem ClaimWrite.shift (knows : Knows world pid phase) (found : world.claim = some current)
    (write : ClaimWrite world phase current patched) :
    Shift (some pid) world (world.storeClaim current patched) where
  nextVersion := Nat.le_succ _
  identity := world.identity.grows_noteValue _
  claim := by
    rintro claim ⟨⟩
    refine ⟨current, found, id, .inr le_rfl, ?_⟩
    rcases write.kept with same | turn
    · exact .inl same
    · exact .inr ⟨pid, rfl, knows.turn turn⟩
  locks := fun _ _ _ held => held
  reserved := .inl ⟨rfl, rfl, write.pool⟩

theorem ClaimWrite.knows (sound : Sound platform claimName world) (knows : Knows world pid phase)
    (found : world.claim = some current) (write : ClaimWrite world phase current patched) :
    Knows (world.storeClaim current patched) pid { phase with copy := none, known := none } := by
  have grows := world.identity.grows_noteValue (allocationOf patched)
  refine { knows with
    gone := ?_, terminating := ?_, copy := nofun, known := nofun
    seen := fun allocation mem => (knows.seen allocation mem).grows grows, shown := ?_ }
  · intro gone
    rw [knows.gone gone] at found
    cases found
  · intro terminating
    rintro claim ⟨⟩
    exact knows.terminating terminating current found
  intro pool shown released snapshot after locked set
  have set : world.identity.pool ≠ "" := fun unset => set (write.pool.trans unset)
  cases known : world.identity.snapshot with
  | none =>
    rw [sound.unknown known] at set
    exact absurd rfl set
  | some before =>
    have same := grows.snapshot.eq (by rw [known]; exact Option.some_ne_none _)
    rw [known] at same
    obtain rfl := Option.some.inj (same.trans after)
    exact (knows.shown pool shown released before known locked set).trans write.pool.symm

theorem Knows.note (knows : Knows world pid phase) (value : Value)
    (fits : ∀ allocation, value = .allocation allocation → world.identity.Fits allocation) :
    Knows world pid { phase with seen := noted value phase.seen } := by
  have working : phase.Working → Phase.Working { phase with seen := noted value phase.seen } := by
    rintro ⟨allocation, mem, lock⟩
    refine ⟨allocation, ?_, lock⟩
    cases value with
    | allocation noted => exact mem_cons_of_mem _ mem
    | _ => exact mem
  refine { knows with seen := ?_, held := ?_, admitted := ?_ }
  · intro allocation mem
    cases value with
    | allocation noted =>
      rcases mem_cons.mp mem with rfl | earlier
      · exact fits allocation rfl
      · exact knows.seen allocation earlier
    | _ => exact knows.seen allocation mem
  · intro reservation held
    exact (knows.held reservation held).imp id working
  · intro admitted
    exact (knows.admitted admitted).imp id working

theorem ClaimWrite.knows_stored (sound : Sound platform claimName world)
    (knows : Knows world pid phase) (present : world.claim = some current)
    (write : ClaimWrite world phase current patched) :
    Knows (world.storeClaim current patched) pid (phase.stored patched) := by
  have fits := (write.sound sound present).fits_claim rfl
  have after := (write.knows sound knows present).note (allocationOf patched) fits
  refine { after with known := ?_, admitted := ?_ }
  · intro value known
    simp only [Phase.stored] at known
    split at known
    · rename_i turn
      cases known
      refine ⟨turn, ?_⟩
      rintro claim ⟨⟩
      rfl
    · cases known
  · intro admitted
    simp only [Phase.stored, Bool.or_eq_true, Bool.and_eq_true] at admitted
    rcases admitted with before | ⟨locked, isRecord⟩
    · exact after.admitted before
    rcases write.record with ⟨blank, _⟩ | ⟨allocation, found, _, unlocked | ⟨unreleased, lock⟩⟩
    · rw [blank] at isRecord
      cases isRecord
    · rw [unlocked] at locked
      cases locked
    refine ⟨unreleased, allocation, ?_, lock⟩
    simp only [Phase.stored, found]
    exact mem_cons_self

end

/-! ## Writes of the reservation -/

variable {key : String × String} {old : Allocation}

section
variable {platform : Platform} {claimName : String} {world : World} {pid : Nat} {phase : Phase}

theorem keyOf_snapshot {first second : Allocation} (same : snapshotOf first = snapshotOf second) :
    keyOf platform first = keyOf platform second := by
  have left : keyOf platform first = keyOf platform (snapshotOf first) := rfl
  have right : keyOf platform second = keyOf platform (snapshotOf second) := rfl
  rw [left, right, same]

variable {allocation : Allocation} {reservation : ConfigMap}

theorem Sound.key_unique (sound : Sound platform claimName world)
    (fits : world.identity.Fits allocation) (stored : world.reservations key = some reservation) :
    key = keyOf platform allocation := by
  obtain ⟨_, other, _, fitsOther, place⟩ := sound.reserved key reservation stored
  rw [place]
  exact keyOf_snapshot (Option.some.inj (fitsOther.snapshot.symm.trans fits.snapshot))

structure ReservationWrite (platform : Platform) (world : World) (pid : Nat) (phase : Phase)
    (reservation : ConfigMap) (allocation : Allocation) : Prop where
  record : recordOf reservation = .allocation allocation
  key : keyOfReservation reservation = keyOf platform allocation
  snapshot : world.identity.snapshot = some (snapshotOf allocation)
  fits : (world.identity.note allocation).Fits allocation
  leads : world.released = false → allocation.poolID = (world.identity.note allocation).pool ∧
    allocation.workerID = (world.identity.note allocation).worker
  working : phase.Working
  shown : world.released = true →
    (world.identity.note allocation).pool = world.identity.pool ∨
      phase.shown = some (world.identity.note allocation).pool

section
variable (write : ReservationWrite platform world pid phase reservation allocation)

include write

theorem ReservationWrite.identity :
    (world.identity.noteValue (recordOf reservation)) = world.identity.note allocation := by
  rw [write.record]
  rfl

theorem ReservationWrite.snapshot_noted :
    (world.identity.note allocation).snapshot = world.identity.snapshot :=
  write.fits.snapshot.trans write.snapshot.symm

end

theorem putReservation_lookup {found : ConfigMap}
    (stored : (world.putReservation reservation).reservations key = some found) :
    (key = keyOfReservation reservation ∧
      found = { reservation with resourceVersion := world.nextVersion }) ∨
      (key ≠ keyOfReservation reservation ∧ world.reservations key = some found) := by
  by_cases same : key = keyOfReservation reservation
  · subst same
    simp only [World.putReservation, update_self, Option.some.injEq] at stored
    exact .inl ⟨rfl, stored.symm⟩
  · simp only [World.putReservation, update_of_ne same] at stored
    exact .inr ⟨same, stored⟩

theorem ReservationWrite.sound (sound : Sound platform claimName world)
    (write : ReservationWrite platform world pid phase reservation allocation) :
    Sound platform claimName (world.putReservation reservation) := by
  have grows : world.identity.Grows (world.putReservation reservation).identity :=
    world.identity.grows_noteValue _
  have identity : (world.putReservation reservation).identity = world.identity.note allocation :=
    write.identity
  have only {key : String × String} {found : ConfigMap}
      (stored : (world.putReservation reservation).reservations key = some found) :
      key = keyOf platform allocation ∧
        found = { reservation with resourceVersion := world.nextVersion } := by
    rcases putReservation_lookup stored with ⟨place, same⟩ | ⟨other, before⟩
    · exact ⟨place.trans write.key, same⟩
    obtain ⟨_, old, _, fits, place⟩ := sound.reserved key found before
    have same : snapshotOf old = snapshotOf allocation :=
      Option.some.inj (fits.snapshot.symm.trans write.snapshot)
    exact absurd (place.trans ((keyOf_snapshot same).trans write.key.symm)) other
  refine ⟨sound.name, fun claim present => (sound.claimVersion claim present).trans
    (Nat.lt_succ_self _), ?_, ?_, ?_, ?_, ?_, ?_, sound.ended⟩
  · intro snapshot known
    rw [identity, write.snapshot_noted] at known
    exact sound.accepted snapshot known
  · intro unknown
    rw [identity, write.fits.snapshot] at unknown
    cases unknown
  · intro claim present
    rcases sound.onClaim claim present with ⟨blank, none⟩ | ⟨old, record, fits⟩
    · cases write.snapshot.symm.trans none
    · exact .inr ⟨old, record, fits.grows grows⟩
  · intro key found stored
    obtain ⟨rfl, rfl⟩ := only stored
    exact ⟨write.key, allocation, write.record, identity ▸ write.fits, rfl⟩
  · intro unreleased key found other stored record
    obtain ⟨rfl, rfl⟩ := only stored
    obtain rfl := Value.allocation.inj (write.record.symm.trans record)
    rw [identity]
    exact write.leads unreleased
  · intro _ empty
    have present := empty (keyOfReservation reservation)
    simp [World.putReservation] at present

theorem ReservationWrite.shift (knows : Knows world pid phase)
    (write : ReservationWrite platform world pid phase reservation allocation) :
    Shift (some pid) world (world.putReservation reservation) where
  nextVersion := Nat.le_succ _
  identity := world.identity.grows_noteValue _
  claim := fun current found => ⟨current, found, id, .inl rfl, .inl rfl⟩
  locks := fun _ _ _ held => held
  reserved := .inr ⟨pid, _, rfl, write.snapshot,
    knows.lock _ (knows.working_lock write.working write.snapshot)⟩

theorem ReservationWrite.knows (knows : Knows world pid phase)
    (write : ReservationWrite platform world pid phase reservation allocation) :
    Knows (world.putReservation reservation) pid { phase with held := none } := by
  have identity : (world.putReservation reservation).identity = world.identity.note allocation :=
    write.identity
  refine ⟨knows.credible, knows.gone, knows.terminating, ?_, knows.turn, knows.known, knows.lock,
    knows.apart, ?_, nofun, knows.admitted, ?_⟩
  · intro copy copied
    have known := knows.copy copy copied
    exact ⟨known.version.trans (Nat.lt_succ_self _), known.same⟩
  · intro seen mem
    exact (knows.seen seen mem).grows (world.identity.grows_noteValue _)
  intro pool shown released snapshot known locked set
  rw [identity] at known set ⊢
  rw [write.snapshot_noted] at known
  rcases write.shown released with same | now
  · rw [same] at set ⊢
    exact knows.shown pool shown released snapshot known locked set
  · rw [shown] at now
    exact Option.some.inj now

theorem ReservationWrite.knows_held (knows : Knows world pid phase)
    (write : ReservationWrite platform world pid phase reservation allocation) :
    Knows (world.putReservation reservation) pid { phase with
      held := some { reservation with resourceVersion := world.nextVersion }
      seen := noted (recordOf reservation) phase.seen } := by
  have identity : (world.putReservation reservation).identity = world.identity.note allocation :=
    write.identity
  have after := (write.knows knows).note (recordOf reservation) (by
    intro other record
    cases write.record.symm.trans record
    rw [identity]
    exact write.fits)
  refine { after with held := ?_ }
  rintro _ ⟨⟩
  obtain ⟨other, mem, lock⟩ := write.working
  refine ⟨?_, other, ?_, lock⟩
  · exact update_self ..
  · rw [write.record]
    exact mem_cons_of_mem _ mem

variable {stored : ConfigMap}

section
variable (sound : Sound platform claimName world)

include sound

theorem Sound.identity_of_stored (unreleased : world.released = false)
    (found : world.reservations key = some stored) (record : recordOf stored = .allocation old) :
    world.identity.pool = old.poolID ∧ world.identity.worker = old.workerID :=
  let ⟨pool, worker⟩ := sound.leads unreleased key stored old found record
  ⟨pool.symm, worker.symm⟩

variable (knows : Knows world pid phase) (held : phase.held = some stored)

include knows held

theorem Knows.pool_of_records (record : recordOf stored = .allocation old)
    (records : phase.Records old allocation) :
    Below "" allocation.poolID world.identity.pool ∨ (world.identity.pool = "" ∧
        (world.released = false ∨ phase.shown = some allocation.poolID)) := by
  obtain ⟨found, working⟩ := knows.held stored held
  rcases records.pool with blank | ⟨seen, mem, same⟩ | ⟨missing, admitted | shown⟩
  · exact .inl (.inl blank)
  · exact .inl (same ▸ (knows.seen seen mem).pool)
  · have unreleased := (knows.admitted admitted).1
    have identity := (sound.identity_of_stored unreleased found record).1
    exact .inr ⟨identity.trans missing, .inl unreleased⟩
  cases released : world.released with
  | false =>
    have identity := (sound.identity_of_stored released found record).1
    exact .inr ⟨identity.trans missing, .inl rfl⟩
  | true =>
    by_cases unset : world.identity.pool = ""
    · exact .inr ⟨unset, .inr shown⟩
    obtain ⟨seen, mem, lock⟩ := working
    have fits := (knows.seen seen mem).snapshot
    exact .inl (.inr (knows.shown _ shown released _ fits lock unset))

theorem Knows.worker_of_records (record : recordOf stored = .allocation old)
    (records : phase.Records old allocation) :
    Below "" allocation.workerID world.identity.worker ∨ world.identity.worker = "" := by
  obtain ⟨found, _⟩ := knows.held stored held
  rcases records.worker with blank | ⟨seen, mem, same⟩ | ⟨missing, admitted⟩
  · exact .inl (.inl blank)
  · exact .inl (same ▸ (knows.seen seen mem).worker)
  · have unreleased := (knows.admitted admitted).1
    exact .inr ((sound.identity_of_stored unreleased found record).2.trans missing)

end

theorem compatible_of_known {known new : String} (fits : Below "" new known ∨ known = "") :
    Compatible "" known new := by
  rcases fits with below | unset
  · exact (Below.refl known).compatible below
  · rw [unset]
    exact (below_blank new).compatible (.refl new)

theorem update_write (sound : Sound platform claimName world) (knows : Knows world pid phase)
    (held : phase.held = some stored) (record : recordOf stored = .allocation old)
    (records : phase.Records old allocation) (kind : ReservationPhase) (started : Option Nat) :
    ReservationWrite platform world pid phase
      { stored with data := updatedData stored.data allocation kind started } allocation := by
  obtain ⟨found, working⟩ := knows.held stored held
  obtain ⟨_, other, sameRecord, fits, place⟩ := sound.reserved _ stored found
  obtain rfl := Value.allocation.inj (record.symm.trans sameRecord)
  have snapshot : world.identity.snapshot = some (snapshotOf allocation) := by
    rw [fits.snapshot, records.keeps.snapshot]
  have pool := knows.pool_of_records sound held record records
  have worker := knows.worker_of_records sound held record records
  refine ⟨read_record_updated .., place.trans (keyOf_snapshot records.keeps.snapshot), snapshot,
    Identity.fits_note (snapshot ▸ (Below.refl _).compatible (.refl _))
      (compatible_of_known (pool.imp_right And.left)) (compatible_of_known worker), ?_, working, ?_⟩
  · intro unreleased
    obtain ⟨poolID, workerID⟩ := sound.identity_of_stored unreleased found record
    have poolBelow : Below "" world.identity.pool allocation.poolID := poolID ▸ records.keeps.pool
    have workerBelow : Below "" world.identity.worker allocation.workerID :=
      workerID ▸ records.keeps.worker
    exact ⟨poolBelow.fill_eq_right.symm, workerBelow.fill_eq_right.symm⟩
  · intro released
    rcases pool with below | ⟨unset, unreleased | shown⟩
    · exact .inl below.fill_eq
    · cases unreleased.symm.trans released
    · refine .inr (shown.trans ?_)
      simp only [Identity.note, unset, (below_blank allocation.poolID).fill_eq_right]

theorem recordOf_newReservation (platform : Platform) (allocation : Allocation) :
    recordOf (newReservation platform allocation) = .allocation allocation := by
  have notPhase : reservationDataKey ≠ reservationPhaseKey := by decide
  unfold recordOf newReservation
  rw [read_insert_of_ne notPhase]
  simp [ValueMap.read]

theorem create_write (sound : Sound platform claimName world) (knows : Knows world pid phase)
    (mem : allocation ∈ phase.seen) (locked : phase.lock = some (poolOf allocation))
    (uid : String) (absent : world.reservations (keyOf platform allocation) = none) :
    (∀ key, world.reservations key = none) ∧ ReservationWrite platform world pid phase
        { newReservation platform allocation with uid := uid } allocation := by
  have fits := knows.seen allocation mem
  have empty : ∀ key, world.reservations key = none := by
    intro key
    cases stored : world.reservations key with
    | none => rfl
    | some reservation =>
      rw [sound.key_unique fits stored, absent] at stored
      cases stored
  refine ⟨empty, recordOf_newReservation platform allocation, rfl, fits.snapshot, ?_, ?_,
    ⟨allocation, mem, locked⟩, ?_⟩
  · rw [fits.note]
    exact fits
  · intro unreleased
    obtain ⟨pool, worker⟩ := sound.alone unreleased empty
    rw [fits.note]
    have poolBelow := fits.pool
    have workerBelow := fits.worker
    rw [pool] at poolBelow ⊢
    rw [worker] at workerBelow ⊢
    exact ⟨poolBelow.eq_blank, workerBelow.eq_blank⟩
  · intro _
    rw [fits.note]
    exact .inl rfl

theorem Phase.keyed_iff {«namespace» name : String} :
    phase.keyed platform «namespace» name = true ↔ ∃ allocation ∈ phase.seen,
      phase.lock = some (poolOf allocation) ∧ («namespace», name) = keyOf platform allocation := by
  simp only [Phase.keyed, keyOf, any_eq_true, Bool.and_eq_true, decide_eq_true_eq,
    Prod.mk.injEq, and_assoc]

theorem Phase.working_of_keyed {«namespace» name : String}
    (keyed : phase.keyed platform «namespace» name = true) : phase.Working := by
  obtain ⟨allocation, mem, lock, _⟩ := Phase.keyed_iff.mp keyed
  exact ⟨allocation, mem, lock⟩

theorem drop_sound (sound : Sound platform claimName world) (ended : world.Ended)
    (reservation : ConfigMap) : Sound platform claimName (world.dropReservation reservation) :=
  { sound with
    reserved := by
      intro key found stored
      by_cases same : key = keyOfReservation reservation
      · subst same
        simp [World.dropReservation] at stored
      · simp only [World.dropReservation, update_of_ne same] at stored
        exact sound.reserved key found stored
    leads := nofun
    alone := nofun
    ended := fun _ => ended }

theorem drop_shift (knows : Knows world pid phase) (working : phase.Working)
    (reservation : ConfigMap) : Shift (some pid) world (world.dropReservation reservation) where
  nextVersion := le_rfl
  identity := .refl _
  claim := fun current found => ⟨current, found, id, .inl rfl, .inl rfl⟩
  locks := fun _ _ _ held => held
  reserved := by
    obtain ⟨allocation, mem, lock⟩ := working
    exact .inr ⟨pid, _, rfl, (knows.seen allocation mem).snapshot, knows.lock _ lock⟩

theorem drop_knows (knows : Knows world pid phase) (unadmitted : phase.admitted = false)
    (reservation : ConfigMap) :
    Knows (world.dropReservation reservation) pid { phase with held := none, shown := none } :=
  { knows with
    copy := fun copy copied => ⟨(knows.copy copy copied).version, (knows.copy copy copied).same⟩
    held := nofun
    admitted := by
      intro admitted
      rw [show phase.admitted = true from admitted] at unadmitted
      cases unadmitted
    shown := nofun }

end

/-! ## Locks -/

section
variable {platform : Platform} {claimName : String} {world : World} {pid : Nat} {phase : Phase}

def World.withLocks (world : World) (locks : String × String → Option Nat) : World :=
  { world with locks := locks }

theorem withLocks_sound (sound : Sound platform claimName world)
    (locks : String × String → Option Nat) : Sound platform claimName (world.withLocks locks) :=
  { sound with }

variable {locks : String × String → Option Nat}

theorem withLocks_shift (kept : ∀ key other, some pid ≠ some other → world.locks key = some other →
      locks key = some other) :
    Shift (some pid) world (world.withLocks locks) where
  nextVersion := le_rfl
  identity := .refl _
  claim := fun current found => ⟨current, found, id, .inl rfl, .inl rfl⟩
  locks := kept
  reserved := .inl ⟨rfl, rfl, rfl⟩

variable (knows : Knows world pid phase)

include knows

theorem withLocks_knows (turn : phase.turn = true → locks queueKey = some pid)
    (lock : ∀ key, phase.lock = some key → locks key = some pid) :
    Knows (world.withLocks locks) pid phase :=
  { knows with
    copy := fun copy copied => ⟨(knows.copy copy copied).version, (knows.copy copy copied).same⟩
    turn := turn
    lock := lock }

theorem Knows.relock (lock : Option (String × String))
    (held : ∀ key, lock = some key → world.locks key = some pid) (apart : lock ≠ some queueKey) :
    Knows world pid
      { phase with lock := lock, admitted := false, held := none, shown := none } :=
  { knows with
    lock := held, apart := apart, held := nofun, admitted := nofun, shown := nofun }

theorem Knows.returns (turn : Bool) (held : turn = true → world.locks queueKey = some pid) :
    Knows world pid { phase with turn := turn, known := none } :=
  { knows with turn := held, known := nofun }

theorem knows_locks (key : String × String) :
    Knows (world.withLocks (update world.locks key (some pid))) pid (phase.locks key) := by
  have stays (other : String × String) (before : world.locks other = some pid) :
      update world.locks key (some pid) other = some pid := by
    by_cases same : other = key
    · rw [same, update_self]
    · rw [update_of_ne same, before]
  have now : update world.locks key (some pid) key = some pid := update_self ..
  have after := withLocks_knows knows (fun turn => stays _ (knows.turn turn))
    (fun other locked => stays _ (knows.lock other locked))
  unfold Phase.locks
  split
  · rename_i queue
    subst queue
    exact after.returns true fun _ => now
  rename_i apart
  refine after.relock (some key) ?_ (fun same => apart (Option.some.inj same))
  rintro _ ⟨⟩
  exact now

theorem knows_unlocks (key : String × String)
    (others : ∀ other, other ≠ key → locks other = world.locks other) :
    Knows (world.withLocks locks) pid (phase.unlocks key) := by
  unfold Phase.unlocks
  split
  · rename_i queue
    subst queue
    refine withLocks_knows (knows.returns false nofun) nofun fun other locked => ?_
    rw [others other fun same => knows.apart (locked.trans (congrArg some same))]
    exact knows.lock other locked
  · rename_i apart
    refine withLocks_knows (knows.relock none nofun nofun) (fun turn => ?_) nofun
    rw [others queueKey (Ne.symm apart)]
    exact knows.turn turn

end

/-! ## Reads -/

variable {reservation : ConfigMap}

section
variable {platform : Platform} {claimName : String} {world : World} {pid : Nat} {phase : Phase}

theorem Knows.doubt (knows : Knows world pid phase) {incredible : Bool}
    (credible : incredible = false) : Knows world pid (phase.doubt incredible) := by
  have same : phase.doubt incredible = phase := by rw [credible, Phase.doubt, Bool.or_false]
  rw [same]
  exact knows

theorem Knows.read (knows : Knows world pid phase) (sound : Sound platform claimName world)
    {claim : NodeClaim} (present : world.claim = some claim) :
    Knows world pid (phase.read claim) := by
  have credible : (phase.broken || phase.gone ||
      phase.known.any fun value => decide (value ≠ allocationOf claim)) = false := by
    rw [knows.credible, Bool.false_or, Bool.or_eq_false_iff]
    constructor
    · rw [Bool.eq_false_iff]
      intro gone
      rw [knows.gone gone] at present
      cases present
    rw [Option.any_eq_false]
    intro value known
    simp [(knows.known value known).2 claim present]
  have noted := knows.note (allocationOf claim) (sound.fits_claim present)
  refine { noted with credible := credible, terminating := ?_, copy := ?_, known := ?_ }
  · intro terminating
    rcases Bool.or_eq_true_iff.mp terminating with before | now
    · exact knows.terminating before
    intro current found
    cases present.symm.trans found
    exact Option.isSome_iff_ne_none.mp now
  · rintro _ ⟨⟩
    refine ⟨sound.claimVersion claim present, fun current found _ => ?_⟩
    cases present.symm.trans found
    exact ⟨rfl, rfl⟩
  · intro value known
    simp only [Phase.read] at known
    split at known
    · rename_i turn
      cases known
      refine ⟨turn, fun current found => ?_⟩
      cases present.symm.trans found
      rfl
    · cases known

theorem Sound.fits_reservation (sound : Sound platform claimName world)
    (stored : world.reservations key = some reservation) (allocation : Allocation)
    (record : recordOf reservation = .allocation allocation) : world.identity.Fits allocation := by
  obtain ⟨_, other, found, fits, _⟩ := sound.reserved key reservation stored
  cases found.symm.trans record
  exact fits

theorem Knows.hold (knows : Knows world pid phase) (sound : Sound platform claimName world)
    (stored : world.reservations (keyOfReservation reservation) = some reservation) :
    Knows world pid (phase.hold platform reservation) := by
  unfold Phase.hold
  split
  · rename_i keyed
    have noted := knows.note (recordOf reservation) (sound.fits_reservation stored)
    refine { noted with held := ?_ }
    rintro _ ⟨⟩
    obtain ⟨allocation, mem, lock⟩ := Phase.working_of_keyed keyed
    refine ⟨stored, allocation, ?_, lock⟩
    unfold AllocationRecords.noted
    split
    · exact mem_cons_of_mem _ mem
    · exact mem
  · exact knows

end

/-! ## The invariant over runs -/

variable {platform : Platform} {claimName : String} {world moved : World} {phases : Nat → Phase}

variable {pid : Nat}

section
variable (coherent : Coherent platform claimName world phases)

include coherent

theorem Coherent.moves (shift : Shift (some pid) world moved)
    (sound : Sound platform claimName moved) (knows : Knows moved pid phase) :
    Coherent platform claimName moved (update phases pid phase) where
  sound := sound
  knows := by
    intro other
    by_cases same : other = pid
    · subst same
      rw [update_self]
      exact knows
    rw [update_of_ne same]
    exact (coherent.knows other).shift coherent.sound shift fun mover =>
      same (Option.some.inj mover).symm

theorem Coherent.learns (pid : Nat) (knows : Knows world pid phase) :
    Coherent platform claimName world (update phases pid phase) :=
  coherent.moves (withLocks_shift fun _ _ _ held => held) coherent.sound knows

theorem Coherent.patchesClaim {stored patched : NodeClaim} {answer : Except ApiError Nat}
    (allowed : (phases pid).Permits platform (.patchClaim stored patched))
    (patches : world.PatchesClaim stored patched answer moved) :
    Coherent platform claimName moved (update phases pid
      ((phases pid).next platform claimName (.patchClaim stored patched) answer)) := by
  have knows := coherent.knows pid
  cases patches with
  | applied current unlocked =>
    have write := knows.claimWrite coherent.sound allowed unlocked
    exact coherent.moves (write.shift knows unlocked.present)
      (write.sound coherent.sound unlocked.present)
      (write.knows_stored coherent.sound knows unlocked.present)
  | lost current unlocked error =>
    have write := knows.claimWrite coherent.sound allowed unlocked
    exact coherent.moves (write.shift knows unlocked.present)
      (write.sound coherent.sound unlocked.present)
      (write.knows coherent.sound knows unlocked.present)
  | refused error => exact coherent.learns pid { knows with copy := nofun, known := nofun }

theorem Coherent.creates {sent : ConfigMap} {answer : Except ApiError ConfigMap}
    (allowed : (phases pid).Permits platform (.createConfigMap sent))
    (creates : world.Creates sent answer moved) :
    Coherent platform claimName moved (update phases pid
      ((phases pid).next platform claimName (.createConfigMap sent) answer)) := by
  have knows := coherent.knows pid
  obtain ⟨allocation, mem, rfl, lock⟩ := allowed
  cases creates with
  | applied uid absent =>
    obtain ⟨_, write⟩ := create_write coherent.sound knows mem lock uid absent
    refine coherent.moves (write.shift knows) (write.sound coherent.sound) ?_
    have keyed : (phases pid).keyed platform (newReservation platform allocation).namespace
        (newReservation platform allocation).name = true :=
      Phase.keyed_iff.mpr ⟨allocation, mem, lock, rfl⟩
    have credible : ((phases pid).doubt (decide (
        { newReservation platform allocation with
          uid := uid, resourceVersion := world.nextVersion } ≠
        { newReservation platform allocation with
          uid := uid, resourceVersion := world.nextVersion }))) = phases pid := by
      simp [Phase.doubt]
    have held := write.knows_held knows
    simp only [Phase.next]
    rw [credible, Phase.hold, if_pos keyed]
    exact held
  | lost uid absent error =>
    obtain ⟨empty, write⟩ := create_write coherent.sound knows mem lock uid absent
    refine coherent.moves (write.shift knows) (write.sound coherent.sound) ?_
    have unheld : (phases pid).held = none := by
      cases held : (phases pid).held with
      | none => rfl
      | some reservation =>
        have stored := (knows.held reservation held).1
        rw [empty] at stored
        cases stored
    have after := write.knows knows
    rw [← unheld] at after
    exact after
  | refused error => exact coherent.learns pid knows

theorem Coherent.patches {stored patched : ConfigMap} {answer : Except ApiError Nat}
    (allowed : (phases pid).Permits platform (.patchConfigMap stored patched))
    (patches : world.Patches stored patched answer moved) :
    Coherent platform claimName moved (update phases pid
      ((phases pid).next platform claimName (.patchConfigMap stored patched) answer)) := by
  have knows := coherent.knows pid
  obtain ⟨held, old, allocation, kind, started, record, rfl, records⟩ := allowed
  have write := update_write coherent.sound knows held record records kind started
  have same {current : ConfigMap} (unchanged : world.Unchanged stored current) :
      current = stored := by
    have present := (knows.held stored held).1
    rw [unchanged.present] at present
    exact Option.some.inj present
  cases patches with
  | applied current unchanged =>
    cases same unchanged
    exact coherent.moves (write.shift knows) (write.sound coherent.sound) (write.knows_held knows)
  | lost current unchanged error =>
    cases same unchanged
    exact coherent.moves (write.shift knows) (write.sound coherent.sound) (write.knows knows)
  | refused error => exact coherent.learns pid { knows with held := nofun }

theorem Coherent.deletes {answer : Except ApiError Unit}
    (allowed : (phases pid).Permits platform (.deleteConfigMap reservation))
    (deletes : world.Deletes reservation answer moved) :
    Coherent platform claimName moved (update phases pid
      ((phases pid).next platform claimName (.deleteConfigMap reservation) answer)) := by
  have knows := coherent.knows pid
  obtain ⟨keyed, terminating, unadmitted⟩ := allowed
  have working := Phase.working_of_keyed keyed
  have ended := knows.terminating terminating
  have dropped := coherent.moves (drop_shift knows working reservation)
    (drop_sound coherent.sound ended reservation) (drop_knows knows unadmitted reservation)
  cases deletes with
  | applied current unchanged | lost current unchanged error => exact dropped
  | refused error => exact coherent.learns pid { knows with held := nofun, shown := nofun }

theorem Coherent.answers {op : Call} {answer : op.Answer}
    (allowed : (phases pid).Permits platform op)
    (answered : world.Answers pid op answer moved) :
    Coherent platform claimName moved
      (update phases pid ((phases pid).next platform claimName op answer)) := by
  have knows := coherent.knows pid
  cases op with
  | getClaim name =>
    obtain ⟨rfl, read, missing⟩ := answered
    refine coherent.learns pid ?_
    cases answer with
    | ok claim => exact knows.read coherent.sound (read claim rfl).1
    | error error =>
      refine { knows with gone := ?_ }
      intro gone
      rcases Bool.or_eq_true_iff.mp gone with before | now
      · exact knows.gone before
      obtain ⟨sameName, notFound⟩ := Bool.and_eq_true_iff.mp now
      have sameName := of_decide_eq_true sameName
      cases present : moved.claim with
      | none => rfl
      | some claim =>
        have named := coherent.sound.name claim present
        exact absurd (named.trans sameName.symm) (missing error rfl notFound claim present)
  | patchClaim stored patched => exact coherent.patchesClaim allowed answered
  | getNodeClass name =>
    obtain ⟨rfl, region⟩ := answered
    refine coherent.learns pid ?_
    cases answer with
    | ok nodeClass => exact knows.doubt (decide_eq_false (region nodeClass rfl))
    | error error => exact knows
  | getConfigMap «namespace» name =>
    obtain ⟨rfl, read⟩ := answered
    refine coherent.learns pid ?_
    cases answer with
    | ok reservation =>
      have stored := read reservation rfl
      have key := (coherent.sound.reserved _ _ stored).1
      have credible : (decide (reservation.namespace ≠ «namespace») ||
          decide (reservation.name ≠ name)) = false := by
        have space : reservation.namespace = «namespace» := congrArg Prod.fst key
        have named : reservation.name = name := congrArg Prod.snd key
        simp [space, named]
      rw [← key] at stored
      exact (knows.doubt credible).hold coherent.sound stored
    | error error => exact knows
  | createConfigMap sent => exact coherent.creates allowed answered
  | patchConfigMap stored patched => exact coherent.patches allowed answered
  | deleteConfigMap reservation => exact coherent.deletes allowed answered
  | getWorkerPool cluster pool =>
    obtain ⟨rfl, shows⟩ := answered
    refine coherent.learns pid ?_
    cases answer with
    | ok found =>
      simp only [Phase.next]
      split
      · rename_i lock
        refine { knows with shown := ?_ }
        rintro _ ⟨⟩ released snapshot known locked set
        have key : (cluster, pool) = poolOf snapshot := Option.some.inj (lock.symm.trans locked)
        exact shows found rfl released snapshot known key set
      · exact knows
    | error error => exact knows
  | lockPool cluster poolName =>
    obtain ⟨free, rfl⟩ := answered
    refine coherent.moves (withLocks_shift ?_) (withLocks_sound coherent.sound _)
      (knows_locks knows (cluster, poolName))
    intro key other _ held
    have differ : key ≠ (cluster, poolName) := by
      rintro rfl
      cases free.symm.trans held
    rw [update_of_ne differ, held]
  | unlockPool cluster poolName =>
    obtain rfl := answered
    refine coherent.moves (withLocks_shift ?_) (withLocks_sound coherent.sound _)
      (knows_unlocks knows (cluster, poolName) ?_)
    · intro key other differ held
      split
      · rename_i own
        have apart : key ≠ (cluster, poolName) := by
          rintro rfl
          exact differ (own.symm.trans held)
        rw [update_of_ne apart, held]
      · exact held
    · intro other apart
      split
      · exact update_of_ne apart ..
      · rfl
  | _ =>
    obtain rfl := answered
    exact coherent.learns pid knows

theorem Coherent.outside (outside : world.Outside moved) :
    Coherent platform claimName moved phases := by
  have sound := coherent.sound
  cases outside with
  | touched current updated found touches =>
    have shift : Shift none world
        { world with
          claim := some { updated with resourceVersion := world.nextVersion }
          nextVersion := world.nextVersion + 1 } := by
      refine ⟨Nat.le_succ _, .refl _, ?_, fun _ _ _ held => held, .inl ⟨rfl, rfl, rfl⟩⟩
      rintro _ ⟨⟩
      exact ⟨current, found, touches.terminating, .inr le_rfl, .inl touches.record⟩
    refine ⟨⟨?_, ?_, sound.accepted, sound.unknown, ?_, sound.reserved, sound.leads, sound.alone,
      fun released => shift.ended (sound.ended released)⟩,
      fun pid => (coherent.knows pid).shift sound shift nofun⟩
    · rintro _ ⟨⟩
      exact touches.name.trans (sound.name current found)
    · rintro _ ⟨⟩
      exact Nat.lt_succ_self _
    rintro _ ⟨⟩
    rw [show allocationOf { updated with resourceVersion := world.nextVersion } =
      allocationOf current from touches.record]
    exact sound.onClaim current found
  | removed =>
    have shift : Shift none world { world with claim := none } :=
      ⟨le_rfl, .refl _, nofun, fun _ _ _ held => held, .inl ⟨rfl, rfl, rfl⟩⟩
    exact ⟨⟨nofun, nofun, sound.accepted, sound.unknown, nofun, sound.reserved, sound.leads,
      sound.alone, fun _ => nofun⟩, fun pid => (coherent.knows pid).shift sound shift nofun⟩

theorem Coherent.crash (pid : Nat) :
    Coherent platform claimName (world.crash pid) (update phases pid .start) := by
  refine coherent.moves (withLocks_shift ?_) (withLocks_sound coherent.sound _) (knows_start _ _)
  intro key other differ held
  rw [if_neg fun own => differ (own.symm.trans held), held]

end

theorem coherent_of_fresh (fresh : world.Fresh claimName) :
    Coherent platform claimName world (fun _ => .start) where
  sound := by
    refine ⟨fresh.name, fresh.version, ?_, fun _ => fresh.unknown, ?_, ?_, ?_, ?_, ?_⟩
    · rw [fresh.unknown]
      nofun
    · intro claim found
      rw [fresh.unknown]
      exact .inl ⟨fresh.blank claim found, rfl⟩
    · intro key reservation stored
      rw [fresh.unreserved key] at stored
      cases stored
    · intro _ key reservation _ stored
      rw [fresh.unreserved key] at stored
      cases stored
    · rw [fresh.unknown]
      exact fun _ _ => ⟨rfl, rfl⟩
    · rw [fresh.unreleased]
      nofun
  knows := fun pid => knows_start world pid

end KarpenterIBM.AllocationRecords
