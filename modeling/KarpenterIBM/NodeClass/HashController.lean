import KarpenterIBM.Calls

/-!
# The hash controller and the drift verdict

`pkg/controllers/nodeclass/hash/controller.go`, `pkg/utils/nodeclass/hash.go` and the two hash
checks of `IsDrifted`.
-/

namespace KarpenterIBM.ClassHash

open Calls EffectProgram Errors Objects

/-! ## Objects -/

def apiGroup : String := "karpenter-ibm.sh"

def hashKey : String := apiGroup ++ "/nodeclass-hash"

def hashVersionKey : String := apiGroup ++ "/nodeclass-hash-version"

def hashMigrationKey : String := "karpenter-ibm.sh/nodeclass-hash-migration"

/-- `IBMNodeClassHashVersion`. -/
def currentHashVersion : String := "2"

structure NodeClassReference where
  group : String
  name : String
deriving DecidableEq

structure NodeClass (Spec : Type) where
  name : String
  deletionTimestamp : Option Nat
  annotations : StringMap
  spec : Spec
  resourceVersion : Nat
deriving DecidableEq

/-- A claim; `drifted` is the status of its Drifted condition, if it has one. -/
structure NodeClaim where
  name : String
  nodeClassRef : Option NodeClassReference
  annotations : StringMap
  drifted : Option ConditionStatus
  resourceVersion : Nat
deriving DecidableEq

section
variable {Spec : Type}

def NodeClass.hash (nodeClass : NodeClass Spec) : String := nodeClass.annotations.read hashKey

def NodeClass.hashVersion (nodeClass : NodeClass Spec) : String :=
  nodeClass.annotations.read hashVersionKey

def NodeClass.migrationText (nodeClass : NodeClass Spec) : String :=
  nodeClass.annotations.read hashMigrationKey

def NodeClaim.hash (claim : NodeClaim) : String := claim.annotations.read hashKey

def NodeClaim.hashVersion (claim : NodeClaim) : String := claim.annotations.read hashVersionKey

/-- `StatusConditions().Get(ConditionTypeDrifted).IsTrue()`; a missing condition is not true. -/
def NodeClaim.isDrifted (claim : NodeClaim) : Bool := decide (claim.drifted = some .isTrue)

def NodeClaim.Of (claim : NodeClaim) (nodeClass : String) : Prop :=
  claim.nodeClassRef = some ⟨apiGroup, nodeClass⟩

instance (claim : NodeClaim) (nodeClass : String) : Decidable (claim.Of nodeClass) :=
  inferInstanceAs (Decidable (_ = _))

end

/-! ## Hashes -/

/-- `HashMigration`: the hashes of one spec under both versions. -/
structure HashMigration where
  legacyHash : String
  provisioningHash : String
deriving DecidableEq

/-- `encoding/json` on a `HashMigration`. -/
structure Codec where
  marshal : HashMigration → String
  unmarshal : String → Except ApiError HashMigration
  unmarshal_marshal : ∀ migration, unmarshal (marshal migration) = .ok migration
  marshal_ne_empty : ∀ migration, marshal migration ≠ ""

/-- `hashstructure.Hash` of the whole spec and of its projection: a sum, and an error
beside it when a value cannot be hashed. -/
structure Hashing (Spec : Type) where
  legacy : Spec → UInt64 × Option ApiError
  provisioning : Spec → UInt64 × Option ApiError

variable {Spec : Type}

variable (hashing : Hashing Spec)

/-- `ProvisioningHash`. -/
def provisioningHash (nodeClass : NodeClass Spec) : String × Option ApiError :=
  let sum := hashing.provisioning nodeClass.spec
  (toString sum.1.toNat, sum.2)

/-- `LegacyHash`. -/
def legacyHash (nodeClass : NodeClass Spec) : String × Option ApiError :=
  let sum := hashing.legacy nodeClass.spec
  (toString sum.1.toNat, sum.2)

variable (codec : Codec)

/-- `ReadHashMigration`. -/
def readHashMigration (nodeClass : NodeClass Spec) : Except GoError (Option HashMigration) :=
  let value := nodeClass.migrationText
  if value = "" then .ok none
  else
    match codec.unmarshal value with
    | .error error => .error (.wrap "reading hash migration: " error.val "")
    | .ok migration =>
      if migration.legacyHash = "" ∨ migration.provisioningHash = "" then
        .error (.plain "invalid hash migration checkpoint")
      else .ok (some migration)

/-! ## The drift verdict -/

inductive DriftReason where
  | nodeClassHashVersionChanged
  | nodeClassHashChanged
deriving DecidableEq

def isNodeClassHashVersionDrifted (claim : NodeClaim) : Option DriftReason :=
  if claim.hashVersion ≠ "1" ∧ claim.hashVersion ≠ currentHashVersion then
    some .nodeClassHashVersionChanged
  else none

/-- The end of `isNodeClassHashDrifted`: the expected hash, or the error beside it, against
the hash of the claim. -/
def compareHash (expected : String × Option ApiError) (current : String) :
    Except GoError (Option DriftReason) :=
  match expected.2 with
  | some error => .error error.val
  | none => if expected.1 ≠ current then .ok (some .nodeClassHashChanged) else .ok none

def isNodeClassHashDrifted (claim : NodeClaim) (nodeClass : NodeClass Spec) :
    Except GoError (Option DriftReason) :=
  let expected := provisioningHash hashing nodeClass
  if claim.hashVersion = "1" then
    match readHashMigration codec nodeClass with
    | .error error => .error error
    | .ok (some migration) =>
      if claim.hash = migration.legacyHash then
        if expected.1 ≠ migration.provisioningHash then .ok (some .nodeClassHashChanged)
        -- the error of the provisioning hash is still the one returned
        else compareHash (migration.legacyHash, expected.2) claim.hash
      else compareHash (legacyHash hashing nodeClass) claim.hash
    | .ok none => compareHash (legacyHash hashing nodeClass) claim.hash
  else compareHash expected claim.hash

/-- The hash part of `IsDrifted`. -/
def hashVerdict (claim : NodeClaim) (nodeClass : NodeClass Spec) :
    Except GoError (Option DriftReason) :=
  match isNodeClassHashVersionDrifted claim with
  | some reason => .ok (some reason)
  | none => isNodeClassHashDrifted hashing codec claim nodeClass

/-! ## The controller -/

/-- The API calls of the controller.  Reads go to the API server itself; a patch carries the
version it was computed from. -/
inductive HashCall (Spec : Type) where
  | getClass
  | patchClass (stored patched : NodeClass Spec)
  | listClaims
  | patchClaim (stored patched : NodeClaim)

/-- A patch answers with the new version of the object. -/
def HashCall.Answer : HashCall Spec → Type
  | .getClass => Except ApiError (NodeClass Spec)
  | .patchClass _ _ => Except ApiError Nat
  | .listClaims => Except ApiError (List NodeClaim)
  | .patchClaim _ _ => Except ApiError Nat

abbrev hashCalls (Spec : Type) : Signature := ⟨HashCall Spec, HashCall.Answer⟩

abbrev HashProgram (Spec α : Type) : Type := Prog (hashCalls Spec) GoError α

def patchClass (stored patched : NodeClass Spec) : HashProgram Spec (NodeClass Spec) :=
  .call (.patchClass stored patched) fun answer =>
    match answer with
    | .ok version => .pure { patched with resourceVersion := version }
    | .error error => .fail error.val

def listClaims : HashProgram Spec (List NodeClaim) :=
  .call .listClaims fun answer =>
    match answer with
    | .ok claims => .pure claims
    | .error error => .fail error.val

def pin (nodeClass : NodeClass Spec) (migration : HashMigration) : NodeClass Spec :=
  { nodeClass with
    annotations := nodeClass.annotations.insert hashMigrationKey (codec.marshal migration) }

def stamp (nodeClass : NodeClass Spec) (hashString : String) : NodeClass Spec :=
  { nodeClass with
    annotations := ((nodeClass.annotations.erase hashMigrationKey).insert hashKey
      hashString).insert hashVersionKey currentHashVersion }

def restamp (claim : NodeClaim) (migration : HashMigration) : NodeClaim :=
  { claim with
    annotations := (claim.annotations.insert hashKey migration.provisioningHash).insert
      hashVersionKey currentHashVersion }

def NodeClaim.Migrates (claim : NodeClaim) (nodeClass : String) (migration : HashMigration) :
    Prop :=
  claim.Of nodeClass ∧ claim.hashVersion = "1" ∧ claim.hash = migration.legacyHash ∧
    claim.isDrifted = false

instance (claim : NodeClaim) (nodeClass : String) (migration : HashMigration) :
    Decidable (claim.Migrates nodeClass migration) :=
  inferInstanceAs (Decidable (_ ∧ _ ∧ _ ∧ _))

/-- The body of the loop of `migrateClaims`. -/
def migrateClaim (nodeClass : String) (migration : HashMigration) (claim : NodeClaim) :
    HashProgram Spec Unit :=
  if claim.Migrates nodeClass migration then
    .call (.patchClaim claim (restamp claim migration)) fun answer =>
      match answer with
      | .ok _ => .pure ()
      | .error error =>
        .fail (.wrap ("migrating hash for NodeClaim " ++ claim.name ++ ": ") error.val "")
  else .pure ()

/-- The part of `migrateClaims` that pins the hashes of a spec that has none pinned. -/
def pinHashes (nodeClass : NodeClass Spec) (migration : HashMigration) :
    Option HashMigration → HashProgram Spec (NodeClass Spec × HashMigration)
  | some pinned => .pure (nodeClass, pinned)
  | none => do
    let nodeClass ← patchClass nodeClass (pin codec nodeClass migration)
    pure (nodeClass, migration)

/-- `migrateClaims`; the NodeClass it returns is the one the source updates in place. -/
def migrateClaims (nodeClass : NodeClass Spec) (hashString : String) :
    HashProgram Spec (NodeClass Spec) :=
  let legacy := legacyHash hashing nodeClass
  match legacy.2 with
  | some error => .fail (.wrap "computing legacy hash: " error.val "")
  | none => do
    let found ← ofExcept (readHashMigration codec nodeClass)
    let (nodeClass, migration) ← pinHashes codec nodeClass ⟨legacy.1, hashString⟩ found
    let claims ← listClaims
    forEach (migrateClaim nodeClass.name migration) claims
    pure nodeClass

/-- The last write of `Reconcile`. -/
def stampClass (nodeClass : NodeClass Spec) (hashString : String) : HashProgram Spec Unit :=
  Prog.mapError (fun error => .wrap "failed to patch annotations: " error "") do
    let _ ← patchClass nodeClass (stamp nodeClass hashString)
    pure ()

/-- `Reconcile` after the NodeClass was read. -/
def reconcileClass (nodeClass : NodeClass Spec) : HashProgram Spec Unit :=
  if nodeClass.deletionTimestamp.isSome then .pure ()
  else
    let hash := provisioningHash hashing nodeClass
    match hash.2 with
    | some error => .fail (.wrap "computing provisioning hash: " error.val "")
    | none =>
      if nodeClass.hashVersion ≠ currentHashVersion then do
        let nodeClass ← migrateClaims hashing codec nodeClass hash.1
        stampClass nodeClass hash.1
      else if nodeClass.hash = hash.1 ∧ nodeClass.migrationText = "" then .pure ()
      else stampClass nodeClass hash.1

def reconcile : HashProgram Spec Unit :=
  .call .getClass fun answer =>
    match answer with
    | .error error => if isKube .notFound error.val then .pure () else .fail error.val
    | .ok nodeClass => reconcileClass hashing codec nodeClass

/-! ## What the writes leave in the annotations -/

variable (codec : Codec) (nodeClass : NodeClass Spec) (claim : NodeClaim)
  (migration : HashMigration)

@[simp] theorem pin_migrationText :
    (pin codec nodeClass migration).migrationText = codec.marshal migration :=
  StringMap.read_insert ..

@[simp] theorem pin_hashVersion :
    (pin codec nodeClass migration).hashVersion = nodeClass.hashVersion :=
  StringMap.read_insert_of_ne _ _ (by decide)

@[simp] theorem stamp_hashVersion (hashString : String) :
    (stamp nodeClass hashString).hashVersion = currentHashVersion :=
  StringMap.read_insert ..

@[simp] theorem stamp_migrationText (hashString : String) :
    (stamp nodeClass hashString).migrationText = "" := by
  have apart : hashMigrationKey ≠ hashVersionKey ∧ hashMigrationKey ≠ hashKey := by decide
  exact (StringMap.read_insert_of_ne _ _ apart.1).trans
    ((StringMap.read_insert_of_ne _ _ apart.2).trans (StringMap.read_erase ..))

@[simp] theorem restamp_hashVersion : (restamp claim migration).hashVersion = currentHashVersion :=
  StringMap.read_insert ..

@[simp] theorem restamp_hash : (restamp claim migration).hash = migration.provisioningHash :=
  (StringMap.read_insert_of_ne _ _ (by decide)).trans (StringMap.read_insert ..)

theorem readHashMigration_congr {first second : NodeClass Spec}
    (same : first.migrationText = second.migrationText) :
    readHashMigration codec first = readHashMigration codec second := by
  unfold readHashMigration
  rw [same]

@[simp] theorem readHashMigration_of_blank (blank : nodeClass.migrationText = "") :
    readHashMigration codec nodeClass = .ok none := by
  simp [readHashMigration, blank]

theorem migrationText_ne_empty_of_read
    (read : readHashMigration codec nodeClass = .ok (some migration)) :
    nodeClass.migrationText ≠ "" := by
  intro blank
  simp [blank] at read

theorem migrationText_eq_empty_of_read (read : readHashMigration codec nodeClass = .ok none) :
    nodeClass.migrationText = "" := by
  unfold readHashMigration at read
  by_contra found
  simp only [found, if_false] at read
  split at read
  · cases read
  · split at read <;> cases read

theorem readHashMigration_pin (legacy provisioning : Nat) :
    readHashMigration codec (pin codec nodeClass ⟨toString legacy, toString provisioning⟩) =
      .ok (some ⟨toString legacy, toString provisioning⟩) := by
  simp [readHashMigration, codec.marshal_ne_empty, codec.unmarshal_marshal]

end KarpenterIBM.ClassHash
