import KarpenterIBM.NodeClass.HashController

/-!
# The order of the controller's writes

What a run of `Reconcile` has read so far decides what it may write.
-/

namespace KarpenterIBM.ClassHash

open Calls EffectProgram Errors List Objects

/-- What a run knows: its copy of the NodeClass, the claims it listed since it made that copy,
and the names of those it has restamped. -/
structure Progress (Spec : Type) where
  copy : Option (NodeClass Spec)
  listed : Option (List NodeClaim)
  restamped : List String

variable {Spec : Type}

def Progress.start : Progress Spec := ⟨none, none, []⟩

structure Pins (hashing : Hashing Spec) (codec : Codec) (stored patched : NodeClass Spec) :
    Prop where
  outdated : stored.hashVersion ≠ currentHashVersion
  unpinned : stored.migrationText = ""
  hashed : (legacyHash hashing stored).2 = none
  pinned : patched =
    pin codec stored ⟨(legacyHash hashing stored).1, (provisioningHash hashing stored).1⟩

def Progress.Migrated (codec : Codec) (progress : Progress Spec) (nodeClass : NodeClass Spec) :
    Prop :=
  ∃ migration claims, readHashMigration codec nodeClass = .ok (some migration) ∧
    progress.listed = some claims ∧
    ∀ claim ∈ claims, claim.Migrates nodeClass.name migration → claim.name ∈ progress.restamped

structure Stamps (codec : Codec) (progress : Progress Spec) (stored patched : NodeClass Spec) :
    Prop where
  stamped : ∃ hashString, patched = stamp stored hashString
  settled : stored.hashVersion = currentHashVersion ∨ progress.Migrated codec stored

structure Restamps (codec : Codec) (progress : Progress Spec) (stored patched : NodeClaim) :
    Prop where
  listed : ∃ claims, progress.listed = some claims ∧ stored ∈ claims
  covered : ∃ nodeClass migration, progress.copy = some nodeClass ∧
    nodeClass.hashVersion ≠ currentHashVersion ∧
    readHashMigration codec nodeClass = .ok (some migration) ∧
    stored.Migrates nodeClass.name migration ∧ patched = restamp stored migration

def Progress.Permits (hashing : Hashing Spec) (codec : Codec) (progress : Progress Spec) :
    HashCall Spec → Prop
  | .getClass => True
  | .listClaims => True
  | .patchClass stored patched =>
    progress.copy = some stored ∧
      (Pins hashing codec stored patched ∨ Stamps codec progress stored patched)
  | .patchClaim stored patched => Restamps codec progress stored patched

def Progress.next (progress : Progress Spec) : (op : HashCall Spec) → op.Answer → Progress Spec
  | .getClass, .ok nodeClass => ⟨some nodeClass, none, []⟩
  | .getClass, .error _ => .start
  | .patchClass _ patched, .ok version =>
    ⟨some { patched with resourceVersion := version }, none, []⟩
  | .patchClass _ _, .error _ => .start
  | .listClaims, .ok claims => { progress with listed := some claims, restamped := [] }
  | .listClaims, .error _ => progress
  | .patchClaim stored _, .ok _ =>
    { progress with restamped := stored.name :: progress.restamped }
  | .patchClaim _ _, .error _ => progress

def hashProtocol (hashing : Hashing Spec) (codec : Codec) : Protocol (hashCalls Spec) where
  Phase := Progress Spec
  permits := Progress.Permits hashing codec
  next := Progress.next

/-! ## The controller keeps to it -/

variable {hashing : Hashing Spec} {codec : Codec} {nodeClass : NodeClass Spec}

/-- Nothing is asked of a run that ends. -/
abbrev Ends (hashing : Hashing Spec) (codec : Codec) {α : Type} :
    Except GoError α → (hashProtocol hashing codec).Phase → Prop :=
  fun _ _ => True

variable {progress : Progress Spec}

theorem stampClass_follows (copied : progress.copy = some nodeClass)
    (settled : nodeClass.hashVersion = currentHashVersion ∨ progress.Migrated codec nodeClass)
    (hashString : String) :
    Follows (hashProtocol hashing codec) (Ends hashing codec) progress
      (stampClass nodeClass hashString) := by
  refine ⟨⟨copied, .inr ⟨⟨hashString, rfl⟩, settled⟩⟩, fun answer => ?_⟩
  cases answer <;> trivial

def Pinned (codec : Codec) (result : NodeClass Spec × HashMigration) (progress : Progress Spec) :
    Prop :=
  progress.copy = some result.1 ∧ result.1.hashVersion ≠ currentHashVersion ∧
    readHashMigration codec result.1 = .ok (some result.2)

theorem pinHashes_follows (copied : progress.copy = some nodeClass)
    (outdated : nodeClass.hashVersion ≠ currentHashVersion)
    (hashed : (legacyHash hashing nodeClass).2 = none) {found : Option HashMigration}
    (read : readHashMigration codec nodeClass = .ok found) :
    Follows (hashProtocol hashing codec)
      (fun out final => ∀ result, out = .ok result → Pinned codec result final) progress
      (pinHashes codec nodeClass
        ⟨(legacyHash hashing nodeClass).1, (provisioningHash hashing nodeClass).1⟩ found) := by
  cases found with
  | some moves =>
    rintro _ ⟨⟩
    exact ⟨copied, outdated, read⟩
  | none =>
    have unpinned := migrationText_eq_empty_of_read codec nodeClass read
    refine ⟨⟨copied, .inl ⟨outdated, unpinned, hashed, rfl⟩⟩, fun answer => ?_⟩
    cases answer with
    | error error => rintro _ ⟨⟩
    | ok version =>
      rintro _ ⟨⟩
      refine ⟨rfl, ?_, readHashMigration_pin codec nodeClass _ _⟩
      exact (pin_hashVersion codec nodeClass _).trans_ne outdated

theorem forEach_migrateClaim_follows (hashing : Hashing Spec) {moves : HashMigration}
    (outdated : nodeClass.hashVersion ≠ currentHashVersion)
    (read : readHashMigration codec nodeClass = .ok (some moves)) {claims : List NodeClaim}
    (passed rest : List NodeClaim) (split : claims = passed ++ rest) (restamped : List String)
    (done : ∀ claim ∈ passed, claim.Migrates nodeClass.name moves → claim.name ∈ restamped) :
    Follows (hashProtocol hashing codec) (fun out final => out = .ok () →
        final.copy = some nodeClass ∧ final.Migrated codec nodeClass)
      ⟨some nodeClass, some claims, restamped⟩
      (forEach (migrateClaim nodeClass.name moves) rest) := by
  induction rest generalizing passed restamped with
  | nil =>
    intro _
    refine ⟨rfl, moves, claims, read, rfl, ?_⟩
    rw [split, append_nil]
    exact done
  | cons claim rest ih =>
    have split' : claims = passed ++ [claim] ++ rest := by simp [split]
    have mem : claim ∈ claims := by simp [split]
    have extended {restamped : List String}
        (before : ∀ other ∈ passed, other.Migrates nodeClass.name moves → other.name ∈ restamped)
        (this : claim.Migrates nodeClass.name moves → claim.name ∈ restamped) :
        ∀ other ∈ passed ++ [claim], other.Migrates nodeClass.name moves →
          other.name ∈ restamped := by
      intro other among covered
      rcases mem_append.mp among with earlier | last
      · exact before other earlier covered
      · rw [mem_singleton.mp last] at covered ⊢
        exact this covered
    by_cases covered : claim.Migrates nodeClass.name moves
    · simp only [forEach, migrateClaim, if_pos covered]
      refine ⟨⟨⟨claims, rfl, mem⟩, nodeClass, moves, rfl, outdated, read, covered, rfl⟩,
        fun answer => ?_⟩
      cases answer with
      | error error => rintro ⟨⟩
      | ok version =>
        refine ih (passed ++ [claim]) split' (claim.name :: restamped) (extended ?_ ?_)
        · intro other earlier covers
          exact mem_cons_of_mem _ (done other earlier covers)
        · intro _
          exact mem_cons_self
    · simp only [forEach, migrateClaim, if_neg covered]
      exact ih (passed ++ [claim]) split' restamped
        (extended done fun covers => absurd covers covered)

theorem migrateClaims_follows (copied : progress.copy = some nodeClass)
    (outdated : nodeClass.hashVersion ≠ currentHashVersion) :
    Follows (hashProtocol hashing codec) (fun out final => ∀ result, out = .ok result →
        final.copy = some result ∧ final.Migrated codec result) progress
      (migrateClaims hashing codec nodeClass (provisioningHash hashing nodeClass).1) := by
  cases hashed : (legacyHash hashing nodeClass).2 with
  | some error =>
    simp only [migrateClaims, hashed]
    rintro _ ⟨⟩
  | none =>
    simp only [migrateClaims, hashed]
    cases read : readHashMigration codec nodeClass with
    | error error => rintro _ ⟨⟩
    | ok found =>
      simp only [EffectProgram.ofExcept, pure_ctor_bind]
      refine Follows.bind (pinHashes_follows copied outdated hashed read) ?_ ?_
      · rintro ⟨pinnedClass, moves⟩ final holds
        obtain ⟨copy, stillOutdated, pinned⟩ := holds _ rfl
        dsimp only at copy stillOutdated pinned
        refine ⟨trivial, fun answer => ?_⟩
        cases answer with
        | error error => rintro _ ⟨⟩
        | ok claims =>
          have listed : (final.next .listClaims (.ok claims)) =
              ⟨some pinnedClass, some claims, []⟩ := by
            simp only [Progress.next]
            rw [copy]
          have loop := forEach_migrateClaim_follows hashing stillOutdated pinned [] claims
            (nil_append claims).symm [] (by simp)
          rw [← listed] at loop
          change Follows _ _ _ (forEach (migrateClaim pinnedClass.name moves) claims >>= fun _ =>
              pure pinnedClass)
          refine Follows.bind loop ?_ ?_
          · rintro ⟨⟩ last ended _ ⟨⟩
            exact ended rfl
          · rintro error last _ _ ⟨⟩
      · rintro error final _ _ ⟨⟩

theorem reconcileClass_follows (copied : progress.copy = some nodeClass) :
    Follows (hashProtocol hashing codec) (Ends hashing codec) progress
      (reconcileClass hashing codec nodeClass) := by
  unfold reconcileClass
  split
  · trivial
  dsimp only
  split
  · trivial
  split
  next outdated =>
    refine Follows.bind (migrateClaims_follows copied outdated) ?_ fun _ _ _ => trivial
    intro migrated final ended
    obtain ⟨copy, settled⟩ := ended migrated rfl
    exact stampClass_follows copy (.inr settled) _
  next current =>
    split
    · trivial
    · exact stampClass_follows copied (.inl (not_not.mp current)) _

/-- `Reconcile` writes in this order. -/
theorem reconcile_follows : Follows (hashProtocol hashing codec) (Ends hashing codec) Progress.start
      (reconcile hashing codec) := by
  refine ⟨trivial, fun answer => ?_⟩
  cases answer with
  | error error =>
    dsimp only
    split <;> trivial
  | ok nodeClass => exact reconcileClass_follows rfl

end KarpenterIBM.ClassHash
