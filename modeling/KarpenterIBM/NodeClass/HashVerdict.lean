import KarpenterIBM.NodeClass.HashStore

/-!
# A migration never flips a drift verdict

Pinning keeps the verdict because the pinned hashes are those of the spec. Restamping keeps it
while the pair is pinned, because a covered claim is judged by the pinned provisioning hash.
-/

namespace KarpenterIBM.ClassHash

open Calls EffectProgram Errors Function Objects

variable {Spec : Type}

/-! ## The verdict -/

variable {patched : NodeClass Spec}

section
variable {hashing : Hashing Spec} {codec : Codec} {nodeClass : NodeClass Spec}
  {claim : NodeClaim} {migration : HashMigration}

theorem hashVerdict_two (version : claim.hashVersion = currentHashVersion) :
    hashVerdict hashing codec claim nodeClass =
      compareHash (provisioningHash hashing nodeClass) claim.hash := by
  have notFirst : currentHashVersion ≠ "1" := by decide
  simp [hashVerdict, isNodeClassHashVersionDrifted, isNodeClassHashDrifted, version, notFirst]

theorem hashVerdict_one_uncovered (version : claim.hashVersion = "1")
    {found : Option HashMigration} (read : readHashMigration codec nodeClass = .ok found)
    (uncovered : ∀ migration, found = some migration → claim.hash ≠ migration.legacyHash) :
    hashVerdict hashing codec claim nodeClass =
      compareHash (legacyHash hashing nodeClass) claim.hash := by
  cases found with
  | none => simp [hashVerdict, isNodeClassHashVersionDrifted, isNodeClassHashDrifted, version, read]
  | some migration =>
    simp [hashVerdict, isNodeClassHashVersionDrifted, isNodeClassHashDrifted, version, read,
      uncovered migration rfl]

theorem hashVerdict_one_covered (version : claim.hashVersion = "1")
    (read : readHashMigration codec nodeClass = .ok (some migration))
    (covered : claim.hash = migration.legacyHash)
    (hashable : (provisioningHash hashing nodeClass).2 = none) :
    hashVerdict hashing codec claim nodeClass =
      compareHash (provisioningHash hashing nodeClass) migration.provisioningHash := by
  by_cases same : (provisioningHash hashing nodeClass).1 = migration.provisioningHash
  · simp [hashVerdict, isNodeClassHashVersionDrifted, isNodeClassHashDrifted, version, read,
      covered, same, compareHash, hashable]
  · simp [hashVerdict, isNodeClassHashVersionDrifted, isNodeClassHashDrifted, version, read,
      covered, same, compareHash, hashable]

theorem compareHash_self {expected : String × Option ApiError} (hashed : expected.2 = none) :
    compareHash expected expected.1 = .ok none := by
  simp [compareHash, hashed]

theorem Pins.keeps (pins : Pins hashing codec nodeClass patched)
    (hashable : (provisioningHash hashing nodeClass).2 = none) (version : claim.hashVersion = "1") :
    hashVerdict hashing codec claim patched = hashVerdict hashing codec claim nodeClass := by
  have before : hashVerdict hashing codec claim nodeClass =
      compareHash (legacyHash hashing nodeClass) claim.hash :=
    hashVerdict_one_uncovered version (readHashMigration_of_blank _ _ pins.unpinned) nofun
  have read : readHashMigration codec patched =
      .ok (some ⟨(legacyHash hashing nodeClass).1, (provisioningHash hashing nodeClass).1⟩) := by
    rw [pins.pinned]
    exact readHashMigration_pin codec nodeClass _ _
  have spec : patched.spec = nodeClass.spec := by
    rw [pins.pinned]
    rfl
  have legacy : legacyHash hashing patched = legacyHash hashing nodeClass := by
    simp only [legacyHash, spec]
  have provisioning : provisioningHash hashing patched = provisioningHash hashing nodeClass := by
    simp only [provisioningHash, spec]
  rw [before]
  by_cases covered : claim.hash = (legacyHash hashing nodeClass).1
  · rw [hashVerdict_one_covered version read covered (by rw [provisioning, hashable]),
      provisioning, covered, compareHash_self pins.hashed, compareHash_self hashable]
  rw [← legacy]
  refine hashVerdict_one_uncovered version read ?_
  rintro _ ⟨⟩
  exact covered

theorem stamp_keeps (hashString : String) (version : claim.hashVersion = "1")
    {found : Option HashMigration} (read : readHashMigration codec nodeClass = .ok found)
    (uncovered : ∀ migration, found = some migration → claim.hash ≠ migration.legacyHash) :
    hashVerdict hashing codec claim (stamp nodeClass hashString) =
      hashVerdict hashing codec claim nodeClass := by
  rw [hashVerdict_one_uncovered version read uncovered]
  exact hashVerdict_one_uncovered version
    (readHashMigration_of_blank _ _ (stamp_migrationText nodeClass hashString)) nofun

end

variable {name : String} {entry : Entry}

section
variable {hashing : Hashing Spec} {codec : Codec} {world : World Spec}

theorem ClassWrite.spec (write : ClassWrite hashing codec world patched) :
    patched.spec = world.nodeClass.spec := by
  rw [← write.annotated]

theorem ClassWrite.keeps (write : ClassWrite hashing codec world patched) (fresh : world.Fresh)
    (hashable : (provisioningHash hashing world.nodeClass).2 = none)
    (found : world.claims name = some entry) (never : entry.everDrifted = false)
    (ref : entry.claim.Of world.nodeClass.name)
    (version : entry.claim.hashVersion = "1" ∨ entry.claim.hashVersion = currentHashVersion) :
    hashVerdict hashing codec entry.claim patched =
      hashVerdict hashing codec entry.claim world.nodeClass := by
  rcases version with first | second
  · rcases write.change with pins | ⟨hashString, rfl, stamped | ⟨migration, read, settled⟩⟩
    · exact pins.keeps hashable first
    · have blank := fresh.unpinned stamped
      exact stamp_keeps hashString first (readHashMigration_of_blank _ _ blank) nofun
    refine stamp_keeps hashString first read ?_
    rintro _ ⟨⟩
    exact settled name entry found ⟨never, ref, first⟩
  · rw [hashVerdict_two second, hashVerdict_two second]
    simp only [provisioningHash, write.spec]

theorem ClaimWrite.keeps {patched : NodeClaim} (write : ClaimWrite codec world entry patched)
    (hashable : (provisioningHash hashing world.nodeClass).2 = none)
    (found : world.claims name = some entry) (never : entry.everDrifted = false) :
    hashVerdict hashing codec patched world.nodeClass =
      hashVerdict hashing codec entry.claim world.nodeClass := by
  have second := write.hashVersion
  obtain ⟨nodeClass, migration, known, read, ⟨ref, version, covered, _⟩, rfl⟩ := write.migrates
  rw [hashVerdict_two second, restamp_hash]
  rcases known.pinned (migrationText_ne_empty_of_read codec nodeClass migration read) with
    ⟨_, carried⟩ | ⟨_, settled⟩
  · have pinned : readHashMigration codec world.nodeClass = .ok (some migration) := by
      rw [readHashMigration_congr codec carried, read]
    exact (hashVerdict_one_covered version pinned covered hashable).symm
  · exact absurd covered (settled migration read name entry found ⟨never, ref, version⟩)

theorem putClaim_lookup {claim : NodeClaim} {drifted : Bool} {after : Entry}
    (still : (world.putClaim claim drifted).claims name = some after) :
    (name = claim.name ∧ after = .renewed claim world.nextVersion drifted) ∨
      world.claims name = some after := by
  by_cases same : name = claim.name
  · subst same
    simp only [World.putClaim, update_self, Option.some.injEq] at still
    exact .inl ⟨rfl, still.symm⟩
  · simp only [World.putClaim, update_of_ne same] at still
    exact .inr still

theorem Coherent.keeps {phases : Nat → Progress Spec} (coherent : Coherent codec world phases)
    {pid : Nat} {op : HashCall Spec} {answer : op.Answer} {moved : World Spec}
    (allowed : (phases pid).Permits hashing codec op) (answered : world.Answers pid op answer moved)
    (hashable : (provisioningHash hashing world.nodeClass).2 = none) {before after : Entry}
    (present : world.claims name = some before) (still : moved.claims name = some after)
    (never : before.everDrifted = false) (ref : before.claim.Of world.nodeClass.name)
    (version : before.claim.hashVersion = "1" ∨ before.claim.hashVersion = currentHashVersion) :
    hashVerdict hashing codec after.claim moved.nodeClass =
      hashVerdict hashing codec before.claim world.nodeClass := by
  have knows := coherent.knows pid
  have unmoved (same : moved = world) : hashVerdict hashing codec after.claim moved.nodeClass =
      hashVerdict hashing codec before.claim world.nodeClass := by
    subst same
    cases present.symm.trans still
    rfl
  cases op with
  | getClass | listClaims => exact unmoved answered.1
  | patchClass stored patched =>
    have written (write : ClassWrite hashing codec world patched)
        (put : moved = world.putClass patched) :
        hashVerdict hashing codec after.claim moved.nodeClass =
          hashVerdict hashing codec before.claim world.nodeClass := by
      subst put
      have same : before = after := Option.some.inj (present.symm.trans still)
      subst same
      exact write.keeps coherent.fresh hashable present never ref version
    cases answered with
    | applied unlocked | lost unlocked error =>
      have write := knows.classWrite allowed unlocked
      exact written write (by rw [write.annotated])
    | refused error => exact unmoved rfl
  | patchClaim stored patched =>
    have written {entry : Entry} (found : world.claims stored.name = some entry)
        (same : stored = entry.claim) (write : ClaimWrite codec world entry patched)
        (put : moved = world.putClaim patched entry.everDrifted) :
        hashVerdict hashing codec after.claim moved.nodeClass =
          hashVerdict hashing codec before.claim world.nodeClass := by
      subst put
      rcases putClaim_lookup still with ⟨named, rfl⟩ | unchanged
      · have restamped : name = stored.name := by rw [named, ← write.annotated, same]
        rw [restamped, found] at present
        cases present
        exact write.keeps hashable found never
      have same : before = after := Option.some.inj (present.symm.trans unchanged)
      subst same
      rfl
    cases answered with
    | applied entry found unlocked | lost entry found unlocked error =>
      obtain ⟨same, write⟩ := knows.claimWrite allowed found unlocked
      exact written found same write (by rw [write.annotated])
    | refused error => exact unmoved rfl

end

/-- No call of the hash controller, in any interleaving of its runs with crashes, edits of the
NodeClass and changes of the claims, changes the hash verdict of a claim of version 1 or 2
whose Drifted condition was never true. -/
theorem migration_keeps_verdict (hashing : Hashing Spec) (codec : Codec)
    {config : Config (migrationSystem hashing codec)} (reachable : config.Reachable)
    {pid : Nat} {op : HashCall Spec} {rest : op.Answer → HashProgram Spec Unit}
    (atCall : config.procs pid = .running (.call (S := hashCalls Spec) op rest))
    {answer : op.Answer} {world : World Spec}
    (answered : World.Answers config.world pid op answer world)
    (hashable : (provisioningHash hashing (World.nodeClass config.world)).2 = none)
    {name : String} {before after : Entry}
    (present : World.claims config.world name = some before)
    (still : world.claims name = some after) (never : before.everDrifted = false)
    (ref : before.claim.Of (World.nodeClass config.world).name)
    (version : before.claim.hashVersion = "1" ∨ before.claim.hashVersion = "2") :
    hashVerdict hashing codec after.claim world.nodeClass =
      hashVerdict hashing codec before.claim (World.nodeClass config.world) := by
  obtain ⟨phases, coherent, permitted⟩ :=
    (migrationCertificate hashing codec).permits_of_reachable reachable atCall
  exact coherent.keeps permitted answered hashable present still never ref version

/-! ## A run -/

/-- A codec that writes the length of the first hash in unary. -/
def sampleCodec : Codec where
  marshal := fun migration => String.ofList
    (List.replicate migration.legacyHash.toList.length '1' ++
      '0' :: (migration.legacyHash.toList ++ migration.provisioningHash.toList))
  unmarshal := fun text =>
    let length := (text.toList.takeWhile (· = '1')).length
    let hashes := text.toList.drop (length + 1)
    .ok ⟨String.ofList (hashes.take length), String.ofList (hashes.drop length)⟩
  unmarshal_marshal := by
    rintro ⟨legacy, provisioning⟩
    have unary : ((List.replicate legacy.toList.length '1' ++
        '0' :: (legacy.toList ++ provisioning.toList)).takeWhile (· = '1')).length =
          legacy.toList.length := by
      rw [List.takeWhile_append_of_pos (by simp)]
      simp
    simp only [String.toList_ofList, unary]
    simp [List.drop_append]
  marshal_ne_empty := by
    intro migration blank
    have := congrArg String.toList blank
    simp at this

/-- Two sums that tell nothing apart. -/
def sampleHashing : Hashing Unit := ⟨fun _ => (1, none), fun _ => (2, none)⟩

def sampleClass : NodeClass Unit := ⟨"class", none, ∅, (), 0⟩

/-- A claim of version 1, stamped with the hash of the spec. -/
def sampleClaim : NodeClaim where
  name := "claim"
  nodeClassRef := some ⟨apiGroup, "class"⟩
  annotations := (Finmap.insert hashKey "1" ∅).insert hashVersionKey "1"
  drifted := none
  resourceVersion := 1

def sampleWorld : World Unit :=
  World.putClaim ⟨sampleClass, fun _ => none, 1, nofun⟩ sampleClaim false

def sampleMigration : HashMigration := ⟨"1", "2"⟩

def restampedClaim : NodeClaim := restamp sampleClaim sampleMigration

/-- The world in which the hashes are pinned. -/
def pinnedWorld : World Unit := sampleWorld.putClass (pin sampleCodec sampleClass sampleMigration)

/-- The claim in the server. -/
def sampleEntry : Entry := .renewed sampleClaim 1 false

theorem sampleWorld_lookup (found : sampleWorld.claims name = some entry) :
    entry = sampleEntry := by
  rcases putClaim_lookup found with ⟨_, same⟩ | absent
  · exact same
  · cases absent

theorem sampleWorld_fresh : sampleWorld.Fresh where
  classVersion := by decide
  claimVersion := by
    intro name entry found
    rw [sampleWorld_lookup found]
    decide
  unpinned := by decide

theorem reconcile_leads_to_restamp : Leads (migrationSystem sampleHashing sampleCodec) 0
      (fun rest world => (∃ next, rest = .call (S := hashCalls Unit)
        (.patchClaim sampleClaim restampedClaim) next) ∧
        world = pinnedWorld)
      (reconcile sampleHashing sampleCodec) sampleWorld := by
  refine .step (S := hashCalls Unit) HashCall.getClass (.ok sampleClass) ⟨rfl, ?_⟩ ?_
  · rintro _ ⟨⟩
    rfl
  refine .step (S := hashCalls Unit)
    (HashCall.patchClass sampleClass (pin sampleCodec sampleClass sampleMigration)) (.ok 2)
    (.applied rfl) ?_
  refine .step (S := hashCalls Unit) HashCall.listClaims (.ok [sampleClaim]) ⟨rfl, ?_⟩ ?_
  · rintro _ ⟨⟩ claim
    constructor
    · intro mem
      rw [List.mem_singleton.mp mem]
      exact ⟨sampleEntry, rfl, rfl⟩
    rintro ⟨entry, found, rfl⟩
    rw [sampleWorld_lookup found]
    exact List.mem_singleton.mpr rfl
  · exact .reached ⟨⟨_, rfl⟩, rfl⟩

theorem migration_keeps_verdict_sample :
    ∃ (config : Config (migrationSystem sampleHashing sampleCodec)) (world : World Unit)
      (after : Entry), config.Reachable ∧ config.world = pinnedWorld ∧
      world.claims "claim" = some after ∧ sampleEntry.claim.hashVersion = "1" ∧
      after.claim.hashVersion = "2" ∧
      hashVerdict sampleHashing sampleCodec after.claim world.nodeClass =
        hashVerdict sampleHashing sampleCodec sampleEntry.claim pinnedWorld.nodeClass := by
  obtain ⟨_, _, ⟨⟨next, rfl⟩, rfl⟩, steps⟩ :=
    reconcile_leads_to_restamp.started rfl (fun _ => .unused) rfl
  have reachable : Config.Reachable (Y := migrationSystem sampleHashing sampleCodec) _ :=
    ⟨⟨sampleWorld, fun _ => .unused⟩, ⟨sampleWorld_fresh, fun _ => rfl⟩, steps⟩
  have answered : World.Answers pinnedWorld 0 (.patchClaim sampleClaim restampedClaim) (.ok 3)
      (pinnedWorld.putClaim restampedClaim false) := .applied sampleEntry rfl rfl
  have atCall (proc : Proc (hashCalls Unit) GoError) :
      update (fun _ : Nat => Proc.unused) 0 proc 0 = proc := update_self ..
  have present : pinnedWorld.claims "claim" = some sampleEntry := rfl
  have still : (pinnedWorld.putClaim restampedClaim false).claims "claim" =
      some (.renewed restampedClaim 3 false) := rfl
  refine ⟨_, pinnedWorld.putClaim restampedClaim false, .renewed restampedClaim 3 false,
    reachable, rfl, still, rfl, rfl, ?_⟩
  exact migration_keeps_verdict sampleHashing sampleCodec reachable (atCall _) answered rfl
    present still rfl rfl (.inl rfl)

end KarpenterIBM.ClassHash
