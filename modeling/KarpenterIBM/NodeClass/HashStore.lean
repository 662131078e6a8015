import KarpenterIBM.NodeClass.HashProtocol
import KarpenterIBM.Lib.Interleaving

/-!
# The NodeClass and its claims in the API server

Any number of runs of `Reconcile` share one NodeClass and its claims in the API server. Every
write is applied at the version it was computed from and its response may be lost.
-/

namespace KarpenterIBM.ClassHash

open Calls EffectProgram Errors Function Objects

/-- A claim in the API server, and whether its Drifted condition was ever true. -/
structure Entry where
  claim : NodeClaim
  everDrifted : Bool
  recorded : claim.isDrifted = true → everDrifted = true

structure World (Spec : Type) where
  nodeClass : NodeClass Spec
  claims : String → Option Entry
  nextVersion : Nat
  named : ∀ name entry, claims name = some entry → entry.claim.name = name

variable {Spec : Type}

/-! ## The API server -/

variable (world : World Spec)

def World.putClass (nodeClass : NodeClass Spec) : World Spec :=
  { world with
    nodeClass := { nodeClass with resourceVersion := world.nextVersion }
    nextVersion := world.nextVersion + 1 }

def Entry.renewed (claim : NodeClaim) (version : Nat) (drifted : Bool) : Entry where
  claim := { claim with resourceVersion := version }
  everDrifted := drifted || claim.isDrifted
  recorded := by
    intro now
    rw [show claim.isDrifted = true from now, Bool.or_true]

def World.putClaim (claim : NodeClaim) (drifted : Bool) : World Spec where
  nodeClass := world.nodeClass
  claims := update world.claims claim.name
    (some (.renewed claim world.nextVersion drifted))
  nextVersion := world.nextVersion + 1
  named := by
    intro name entry found
    by_cases same : name = claim.name
    · subst same
      rw [update_self] at found
      cases found
      rfl
    · rw [update_of_ne same] at found
      exact world.named name entry found

def World.dropClaim (dropped : String) : World Spec where
  nodeClass := world.nodeClass
  claims := update world.claims dropped none
  nextVersion := world.nextVersion
  named := by
    intro name entry found
    by_cases same : name = dropped
    · subst same
      rw [update_self] at found
      cases found
    · rw [update_of_ne same] at found
      exact world.named name entry found

/-- The list of all claims. -/
def World.Lists (claims : List NodeClaim) : Prop :=
  ∀ claim, claim ∈ claims ↔ ∃ entry, world.claims claim.name = some entry ∧ entry.claim = claim

inductive World.PatchesClass (world : World Spec) (stored patched : NodeClass Spec) :
    Except ApiError Nat → World Spec → Prop where
  | applied (unlocked : stored.resourceVersion = world.nodeClass.resourceVersion) :
      PatchesClass world stored patched (.ok world.nextVersion)
        (world.putClass { world.nodeClass with annotations := patched.annotations })
  | lost (unlocked : stored.resourceVersion = world.nodeClass.resourceVersion)
      (error : ApiError) :
      PatchesClass world stored patched (.error error)
        (world.putClass { world.nodeClass with annotations := patched.annotations })
  | refused (error : ApiError) : PatchesClass world stored patched (.error error) world

inductive World.PatchesClaim (world : World Spec) (stored patched : NodeClaim) :
    Except ApiError Nat → World Spec → Prop where
  | applied (entry : Entry) (present : world.claims stored.name = some entry)
      (unlocked : stored.resourceVersion = entry.claim.resourceVersion) :
      PatchesClaim world stored patched (.ok world.nextVersion)
        (world.putClaim { entry.claim with annotations := patched.annotations } entry.everDrifted)
  | lost (entry : Entry) (present : world.claims stored.name = some entry)
      (unlocked : stored.resourceVersion = entry.claim.resourceVersion) (error : ApiError) :
      PatchesClaim world stored patched (.error error)
        (world.putClaim { entry.claim with annotations := patched.annotations } entry.everDrifted)
  | refused (error : ApiError) : PatchesClaim world stored patched (.error error) world

def World.Answers (_pid : Nat) :
    (op : HashCall Spec) → op.Answer → World Spec → Prop
  | .getClass, answer, served =>
    served = world ∧ ∀ nodeClass, answer = .ok nodeClass → nodeClass = world.nodeClass
  | .listClaims, answer, served =>
    served = world ∧ ∀ claims, answer = .ok claims → world.Lists claims
  | .patchClass stored patched, answer, served =>
    world.PatchesClass stored patched answer served
  | .patchClaim stored patched, answer, served =>
    world.PatchesClaim stored patched answer served

structure EditsClass (current updated : NodeClass Spec) : Prop where
  name : updated.name = current.name
  hashVersion : updated.hashVersion = current.hashVersion
  migrationText : updated.migrationText = current.migrationText

/-- Another writer changes a claim.  The class of a claim is fixed, and a claim of version 1
is one that was. -/
structure ChangesClaim (current updated : NodeClaim) : Prop where
  nodeClassRef : updated.nodeClassRef = current.nodeClassRef
  version : updated.hashVersion = "1" → current.hashVersion = "1" ∧ updated.hash = current.hash

inductive World.Outside (world : World Spec) : World Spec → Prop where
  | classEdited (updated : NodeClass Spec) (edits : EditsClass world.nodeClass updated) :
      Outside world (world.putClass updated)
  | claimChanged (entry : Entry) (updated : NodeClaim)
      (present : world.claims updated.name = some entry)
      (changes : ChangesClaim entry.claim updated) :
      Outside world (world.putClaim updated entry.everDrifted)
  | claimCreated (claim : NodeClaim) (absent : world.claims claim.name = none)
      (version : claim.hashVersion ≠ "1") :
      Outside world (world.putClaim claim false)
  | claimDeleted (name : String) : Outside world (world.dropClaim name)

/-- The versions handed out so far, and a NodeClass that carries a pinned pair only while it
is not stamped. -/
structure World.Fresh (world : World Spec) : Prop where
  classVersion : world.nodeClass.resourceVersion < world.nextVersion
  claimVersion : ∀ name entry, world.claims name = some entry →
    entry.claim.resourceVersion < world.nextVersion
  unpinned : world.nodeClass.hashVersion = currentHashVersion →
    world.nodeClass.migrationText = ""

/-- Runs of the controller over one NodeClass. -/
def migrationSystem (hashing : Hashing Spec) (codec : Codec) :
    System (hashCalls Spec) GoError where
  World := World Spec
  initial := World.Fresh
  spawns := fun program => program = reconcile hashing codec
  answers := World.Answers
  crash := fun world _ => world
  environment := World.Outside

/-! ## What a run knows of the server -/

structure Entry.Waiting (entry : Entry) (nodeClass : String) : Prop where
  never : entry.everDrifted = false
  ref : entry.claim.Of nodeClass
  version : entry.claim.hashVersion = "1"

def World.Settled (migration : HashMigration) : Prop :=
  ∀ name entry, world.claims name = some entry → entry.Waiting world.nodeClass.name →
    entry.claim.hash ≠ migration.legacyHash

def World.Outlived (codec : Codec) (copy : NodeClass Spec) : Prop :=
  (world.nodeClass.hashVersion ≠ currentHashVersion ∧
      world.nodeClass.migrationText = copy.migrationText) ∨
    (world.nodeClass.hashVersion = currentHashVersion ∧
      ∀ migration, readHashMigration codec copy = .ok (some migration) →
        world.Settled migration)

structure CopyOf (codec : Codec) (world : World Spec) (copy : NodeClass Spec) : Prop where
  version : copy.resourceVersion < world.nextVersion
  name : copy.name = world.nodeClass.name
  same : copy.resourceVersion = world.nodeClass.resourceVersion → copy = world.nodeClass
  pinned : copy.migrationText ≠ "" → world.Outlived codec copy

structure Matches (claim : NodeClaim) (entry : Entry) : Prop where
  ref : claim.nodeClassRef = entry.claim.nodeClassRef
  version : claim.hashVersion = entry.claim.hashVersion
  hash : claim.hash = entry.claim.hash
  drifted : claim.isDrifted = false

structure ListingOf (world : World Spec) (claims : List NodeClaim) (restamped : List String) :
    Prop where
  version : ∀ claim ∈ claims, claim.resourceVersion < world.nextVersion
  same : ∀ claim ∈ claims, ∀ entry, world.claims claim.name = some entry →
    claim.resourceVersion = entry.claim.resourceVersion → claim = entry.claim
  complete : ∀ name entry, world.claims name = some entry →
    entry.Waiting world.nodeClass.name →
    name ∉ restamped ∧ ∃ claim ∈ claims, claim.name = name ∧ Matches claim entry

structure Knows (codec : Codec) (world : World Spec) (progress : Progress Spec) : Prop where
  copy : ∀ nodeClass, progress.copy = some nodeClass → CopyOf codec world nodeClass
  listing : ∀ claims, progress.listed = some claims →
    ListingOf world claims progress.restamped

theorem knows_start (codec : Codec) (world : World Spec) : Knows codec world .start where
  copy := by rintro _ ⟨⟩
  listing := by rintro _ ⟨⟩

theorem Knows.settled {codec : Codec} {world : World Spec} {progress : Progress Spec}
    (knows : Knows codec world progress) {nodeClass : NodeClass Spec}
    (name : nodeClass.name = world.nodeClass.name)
    (migrated : progress.Migrated codec nodeClass) :
    ∃ migration, readHashMigration codec nodeClass = .ok (some migration) ∧
      world.Settled migration := by
  obtain ⟨migration, claims, read, listed, restamped⟩ := migrated
  refine ⟨migration, read, ?_⟩
  intro claimName entry found waiting hash
  obtain ⟨missing, claim, mem, rfl, matched⟩ :=
    (knows.listing claims listed).complete claimName entry found waiting
  refine missing (restamped claim mem ⟨?_, ?_, ?_, matched.drifted⟩)
  · rw [name]
    exact matched.ref.trans waiting.ref
  · exact matched.version.trans waiting.version
  · exact matched.hash.trans hash

/-! ## What the steps do -/

structure ClaimsMove (world moved : World Spec) : Prop where
  nodeClass : moved.nodeClass = world.nodeClass
  nextVersion : world.nextVersion ≤ moved.nextVersion
  claims : ∀ name entry, moved.claims name = some entry → world.claims name = some entry ∨
    (world.nextVersion ≤ entry.claim.resourceVersion ∧
      entry.claim.resourceVersion < moved.nextVersion ∧
      (entry.Waiting world.nodeClass.name → ∃ old, world.claims name = some old ∧
        old.Waiting world.nodeClass.name ∧ old.claim.hash = entry.claim.hash))

structure ClassMoves (codec : Codec) (world moved : World Spec) : Prop where
  claims : moved.claims = world.claims
  nextVersion : moved.nextVersion = world.nextVersion + 1
  name : moved.nodeClass.name = world.nodeClass.name
  version : moved.nodeClass.resourceVersion = world.nextVersion
  outlives : ∀ copy : NodeClass Spec, copy.migrationText ≠ "" → world.Outlived codec copy →
    moved.Outlived codec copy
  unpinned : moved.nodeClass.hashVersion = currentHashVersion →
    moved.nodeClass.migrationText = ""

variable {progress : Progress Spec}

section
variable {codec : Codec} {world moved : World Spec}

section
variable (moves : ClaimsMove world moved)

include moves

theorem ClaimsMove.settled {migration : HashMigration} (settled : world.Settled migration) :
    moved.Settled migration := by
  intro name entry found waiting
  rw [moves.nodeClass] at waiting
  rcases moves.claims name entry found with unchanged | ⟨_, _, waited⟩
  · exact settled name entry unchanged waiting
  obtain ⟨old, before, waitedOld, hash⟩ := waited waiting
  rw [← hash]
  exact settled name old before waitedOld

theorem ClaimsMove.copyOf {copy : NodeClass Spec} (known : CopyOf codec world copy) :
    CopyOf codec moved copy where
  version := known.version.trans_le moves.nextVersion
  name := by rw [moves.nodeClass, known.name]
  same := by
    rw [moves.nodeClass]
    exact known.same
  pinned := by
    intro found
    unfold World.Outlived
    rw [moves.nodeClass]
    rcases known.pinned found with carried | ⟨stamped, settled⟩
    · exact .inl carried
    · exact .inr ⟨stamped, fun migration read => moves.settled (settled migration read)⟩

theorem ClaimsMove.listingOf {claims : List NodeClaim} {restamped : List String}
    (known : ListingOf world claims restamped) :
    ListingOf moved claims restamped where
  version := fun claim mem => (known.version claim mem).trans_le moves.nextVersion
  same := by
    intro claim mem entry found version
    rcases moves.claims claim.name entry found with unchanged | ⟨newer, _⟩
    · exact known.same claim mem entry unchanged version
    · exact absurd version ((known.version claim mem).trans_le newer).ne
  complete := by
    intro name entry found waiting
    rw [moves.nodeClass] at waiting
    rcases moves.claims name entry found with unchanged | ⟨_, _, waited⟩
    · exact known.complete name entry unchanged waiting
    obtain ⟨old, before, waitedOld, hash⟩ := waited waiting
    obtain ⟨missing, claim, mem, named, matched⟩ := known.complete name old before waitedOld
    refine ⟨missing, claim, mem, named, ?_, ?_, ?_, matched.drifted⟩
    · exact matched.ref.trans (waitedOld.ref.trans waiting.ref.symm)
    · exact matched.version.trans (waitedOld.version.trans waiting.version.symm)
    · exact matched.hash.trans hash

theorem ClaimsMove.fresh (fresh : world.Fresh) : moved.Fresh where
  classVersion := by
    rw [moves.nodeClass]
    exact fresh.classVersion.trans_le moves.nextVersion
  claimVersion := by
    intro name entry found
    rcases moves.claims name entry found with unchanged | ⟨_, older, _⟩
    · exact (fresh.claimVersion name entry unchanged).trans_le moves.nextVersion
    · exact older
  unpinned := by
    rw [moves.nodeClass]
    exact fresh.unpinned

theorem ClaimsMove.knows (knows : Knows codec world progress) : Knows codec moved progress where
  copy := fun nodeClass copied => moves.copyOf (knows.copy nodeClass copied)
  listing := fun claims listed => moves.listingOf (knows.listing claims listed)

end

theorem ClassMoves.fresh (moves : ClassMoves codec world moved) (fresh : world.Fresh) :
    moved.Fresh where
  classVersion := by
    rw [moves.version, moves.nextVersion]
    exact Nat.lt_succ_self _
  claimVersion := by
    intro name entry found
    rw [moves.claims] at found
    rw [moves.nextVersion]
    exact (fresh.claimVersion name entry found).trans (Nat.lt_succ_self _)
  unpinned := moves.unpinned

theorem ClassMoves.knows (moves : ClassMoves codec world moved) {progress : Progress Spec}
    (knows : Knows codec world progress) : Knows codec moved progress where
  copy := by
    intro nodeClass copied
    have known := knows.copy nodeClass copied
    refine ⟨?_, known.name.trans moves.name.symm, ?_, ?_⟩
    · rw [moves.nextVersion]
      exact known.version.trans (Nat.lt_succ_self _)
    · intro version
      rw [moves.version] at version
      exact absurd version known.version.ne
    · intro found
      exact moves.outlives nodeClass found (known.pinned found)
  listing := by
    intro claims listed
    have known := knows.listing claims listed
    refine ⟨?_, ?_, ?_⟩
    · intro claim mem
      rw [moves.nextVersion]
      exact (known.version claim mem).trans (Nat.lt_succ_self _)
    · rw [moves.claims]
      exact known.same
    · rw [moves.claims, moves.name]
      exact known.complete

end

variable {entry : Entry}

variable {patched : NodeClass Spec}

section
variable {hashing : Hashing Spec} {codec : Codec} {world : World Spec}

theorem putClaim_moves (claim : NodeClaim) (drifted : Bool)
    (waited : claim.hashVersion = "1" → ∃ old, world.claims claim.name = some old ∧
      old.claim.nodeClassRef = claim.nodeClassRef ∧ old.claim.hashVersion = "1" ∧
      old.claim.hash = claim.hash ∧ old.everDrifted = drifted) :
    ClaimsMove world (world.putClaim claim drifted) where
  nodeClass := rfl
  nextVersion := Nat.le_succ _
  claims := by
    intro name entry found
    by_cases same : name = claim.name
    · subst same
      simp only [World.putClaim, update_self, Option.some.injEq] at found
      subst found
      refine .inr ⟨le_rfl, Nat.lt_succ_self _, fun waiting => ?_⟩
      obtain ⟨old, before, ref, version, hash, drifts⟩ := waited waiting.version
      refine ⟨old, before, ⟨?_, ?_, version⟩, hash⟩
      · rw [drifts]
        exact (Bool.or_eq_false_iff.mp waiting.never).1
      · exact ref.trans waiting.ref
    · simp only [World.putClaim, update_of_ne same] at found
      exact .inl found

theorem outside_moves {moved : World Spec} (fresh : world.Fresh) (outside : world.Outside moved) :
    ClaimsMove world moved ∨ ClassMoves codec world moved := by
  cases outside with
  | classEdited updated edits =>
    refine .inr ⟨rfl, rfl, edits.name, rfl, ?_, ?_⟩
    · rintro copy present (⟨outdated, carried⟩ | ⟨stamped, settled⟩)
      · exact .inl ⟨edits.hashVersion.trans_ne outdated, edits.migrationText.trans carried⟩
      refine .inr ⟨edits.hashVersion.trans stamped, fun moves read => ?_⟩
      intro name entry found waiting
      have named : (world.putClass updated).nodeClass.name = world.nodeClass.name := edits.name
      rw [named] at waiting
      exact settled moves read name entry found waiting
    · intro stamped
      exact edits.migrationText.trans (fresh.unpinned (edits.hashVersion.symm.trans stamped))
  | claimChanged entry updated present changes =>
    refine .inl (putClaim_moves updated entry.everDrifted fun version => ?_)
    obtain ⟨before, hash⟩ := changes.version version
    exact ⟨entry, present, changes.nodeClassRef.symm, before, hash.symm, rfl⟩
  | claimCreated claim absent version =>
    exact .inl (putClaim_moves claim false fun first => absurd first version)
  | claimDeleted dropped =>
    refine .inl ⟨rfl, le_rfl, fun name entry present => .inl ?_⟩
    by_cases same : name = dropped
    · subst same
      simp [World.dropClaim] at present
    · simpa [World.dropClaim, update_of_ne same] using present

structure ClassWrite (hashing : Hashing Spec) (codec : Codec) (world : World Spec)
    (patched : NodeClass Spec) : Prop where
  change : Pins hashing codec world.nodeClass patched ∨
    ∃ hashString, patched = stamp world.nodeClass hashString ∧
      (world.nodeClass.hashVersion = currentHashVersion ∨ ∃ migration,
        readHashMigration codec world.nodeClass = .ok (some migration) ∧
        world.Settled migration)

theorem ClassWrite.annotated (write : ClassWrite hashing codec world patched) :
    { world.nodeClass with annotations := patched.annotations } = patched := by
  rcases write.change with pins | ⟨hashString, rfl, _⟩
  · rw [pins.pinned]
    rfl
  · rfl

theorem Knows.classWrite (knows : Knows codec world progress) {stored : NodeClass Spec}
    (allowed : progress.Permits hashing codec (.patchClass stored patched))
    (unlocked : stored.resourceVersion = world.nodeClass.resourceVersion) :
    ClassWrite hashing codec world patched := by
  obtain ⟨copied, change⟩ := allowed
  have same : stored = world.nodeClass := (knows.copy stored copied).same unlocked
  subst same
  rcases change with pins | ⟨⟨hashString, stamped⟩, settled⟩
  · exact ⟨.inl pins⟩
  · exact ⟨.inr ⟨hashString, stamped, settled.imp_right (knows.settled rfl)⟩⟩

theorem ClassWrite.moves (write : ClassWrite hashing codec world patched) :
    ClassMoves codec world (world.putClass patched) := by
  rcases write.change with pins | ⟨hashString, rfl, settled⟩
  · have outdated : patched.hashVersion ≠ currentHashVersion := by
      rw [pins.pinned, pin_hashVersion]
      exact pins.outdated
    refine ⟨rfl, rfl, ?_, rfl, ?_, fun stamped => absurd stamped outdated⟩
    · rw [pins.pinned]
      rfl
    rintro copy found (⟨_, carried⟩ | ⟨stamped, _⟩)
    · exact absurd (carried.symm.trans pins.unpinned) found
    · exact absurd stamped pins.outdated
  · refine ⟨rfl, rfl, rfl, rfl, ?_, fun _ => stamp_migrationText world.nodeClass hashString⟩
    rintro copy found outlived
    refine .inr ⟨stamp_hashVersion world.nodeClass hashString, fun migration read => ?_⟩
    rcases outlived with ⟨outdated, carried⟩ | ⟨_, already⟩
    · obtain ⟨pinned, readPinned, done⟩ := settled.resolve_left outdated
      rw [readHashMigration_congr codec carried, read] at readPinned
      cases readPinned
      exact done
    · exact already migration read

structure ClaimWrite (codec : Codec) (world : World Spec) (entry : Entry)
    (patched : NodeClaim) : Prop where
  migrates : ∃ nodeClass migration, CopyOf codec world nodeClass ∧
    readHashMigration codec nodeClass = .ok (some migration) ∧
    entry.claim.Migrates world.nodeClass.name migration ∧
    patched = restamp entry.claim migration

variable {patched : NodeClaim}

theorem Knows.claimWrite (knows : Knows codec world progress) {stored : NodeClaim}
    (allowed : Restamps codec progress stored patched) {entry : Entry}
    (found : world.claims stored.name = some entry)
    (unlocked : stored.resourceVersion = entry.claim.resourceVersion) :
    stored = entry.claim ∧ ClaimWrite codec world entry patched := by
  obtain ⟨claims, listed, mem⟩ := allowed.listed
  obtain ⟨nodeClass, moves, copied, _, read, migrates, restamped⟩ := allowed.covered
  have same := (knows.listing claims listed).same stored mem entry found unlocked
  have known := knows.copy nodeClass copied
  rw [known.name, same] at migrates
  rw [same] at restamped
  exact ⟨same, nodeClass, moves, known, read, migrates, restamped⟩

theorem ClaimWrite.annotated (write : ClaimWrite codec world entry patched) :
    { entry.claim with annotations := patched.annotations } = patched := by
  obtain ⟨_, _, _, _, _, rfl⟩ := write.migrates
  rfl

theorem ClaimWrite.hashVersion (write : ClaimWrite codec world entry patched) :
    patched.hashVersion = currentHashVersion := by
  obtain ⟨_, _, _, _, _, rfl⟩ := write.migrates
  exact restamp_hashVersion _ _

theorem ClaimWrite.moves (write : ClaimWrite codec world entry patched) :
    ClaimsMove world (world.putClaim patched entry.everDrifted) := by
  refine putClaim_moves patched entry.everDrifted fun first => ?_
  rw [write.hashVersion] at first
  exact absurd first (by decide)

end

/-! ## The invariant -/

/-- The server hands out fresh versions, and every run knows what it has read. -/
structure Coherent (codec : Codec) (world : World Spec) (phases : Nat → Progress Spec) : Prop where
  fresh : world.Fresh
  knows : ∀ pid, Knows codec world (phases pid)

section
variable {hashing : Hashing Spec} {codec : Codec} {world : World Spec}
  {phases : Nat → Progress Spec}
  {moved : World Spec}

section
variable (coherent : Coherent codec world phases)

include coherent

theorem Coherent.classMoves (moves : ClassMoves codec world moved) : Coherent codec moved phases :=
  ⟨moves.fresh coherent.fresh, fun pid => moves.knows (coherent.knows pid)⟩

theorem Coherent.claimsMove (moves : ClaimsMove world moved) : Coherent codec moved phases :=
  ⟨moves.fresh coherent.fresh, fun pid => moves.knows (coherent.knows pid)⟩

theorem Coherent.learns (pid : Nat) {progress : Progress Spec}
    (knows : Knows codec world progress) :
    Coherent codec world (update phases pid progress) := by
  refine ⟨coherent.fresh, fun other => ?_⟩
  by_cases same : other = pid
  · subst same
    simpa using knows
  · simpa [same] using coherent.knows other

end

theorem copyOf_current (fresh : world.Fresh) : CopyOf codec world world.nodeClass where
  version := fresh.classVersion
  name := rfl
  same := fun _ => rfl
  pinned := by
    intro found
    exact .inl ⟨fun stamped => found (fresh.unpinned stamped), rfl⟩

theorem knows_copy (fresh : world.Fresh) : Knows codec world ⟨some world.nodeClass, none, []⟩ where
  copy := by
    rintro _ ⟨⟩
    exact copyOf_current fresh
  listing := by rintro _ ⟨⟩

theorem listingOf_lists (fresh : world.Fresh) {claims : List NodeClaim}
    (lists : world.Lists claims) : ListingOf world claims [] where
  version := by
    intro claim mem
    obtain ⟨entry, present, rfl⟩ := (lists claim).mp mem
    exact fresh.claimVersion _ entry present
  same := by
    intro claim mem entry present _
    obtain ⟨listed, found, same⟩ := (lists claim).mp mem
    cases present.symm.trans found
    exact same.symm
  complete := by
    intro name entry present waiting
    have named := world.named name entry present
    refine ⟨List.not_mem_nil, entry.claim, ?_, named, rfl, rfl, rfl, ?_⟩
    · exact (lists entry.claim).mpr ⟨entry, by rw [named, present], rfl⟩
    rw [Bool.eq_false_iff]
    intro drifted
    have ever := entry.recorded drifted
    cases waiting.never.symm.trans ever

theorem Knows.restamped (knows : Knows codec world progress) (stored : NodeClaim)
    (ended : ∀ entry, world.claims stored.name = some entry →
      entry.claim.hashVersion = currentHashVersion) :
    Knows codec world { progress with restamped := stored.name :: progress.restamped } where
  copy := knows.copy
  listing := by
    intro claims listed
    have known := knows.listing claims listed
    refine ⟨known.version, known.same, fun name entry present waiting => ?_⟩
    obtain ⟨missing, found⟩ := known.complete name entry present waiting
    refine ⟨?_, found⟩
    rw [List.mem_cons]
    rintro (rfl | earlier)
    · exact absurd ((ended entry present).symm.trans waiting.version) (by decide)
    · exact missing earlier

theorem Coherent.answers (coherent : Coherent codec world phases) {pid : Nat} {op : HashCall Spec}
    {answer : op.Answer} (allowed : (phases pid).Permits hashing codec op)
    (answered : world.Answers pid op answer moved) :
    Coherent codec moved (update phases pid ((phases pid).next op answer)) := by
  have knows := coherent.knows pid
  cases op with
  | getClass =>
    obtain ⟨rfl, read⟩ := answered
    refine coherent.learns pid ?_
    cases answer with
    | error error => exact knows_start codec moved
    | ok nodeClass =>
      rw [read nodeClass rfl]
      exact knows_copy coherent.fresh
  | listClaims =>
    obtain ⟨rfl, read⟩ := answered
    refine coherent.learns pid ?_
    cases answer with
    | error error => exact knows
    | ok claims =>
      refine ⟨knows.copy, ?_⟩
      rintro _ ⟨⟩
      exact listingOf_lists coherent.fresh (read claims rfl)
  | patchClass stored patched =>
    cases answered with
    | applied unlocked =>
      have write := knows.classWrite allowed unlocked
      rw [write.annotated]
      have moves := write.moves
      exact (coherent.classMoves moves).learns pid (knows_copy (moves.fresh coherent.fresh))
    | lost unlocked error =>
      have write := knows.classWrite allowed unlocked
      rw [write.annotated]
      exact (coherent.classMoves write.moves).learns pid (knows_start ..)
    | refused error => exact coherent.learns pid (knows_start ..)
  | patchClaim stored patched =>
    cases answered with
    | applied entry present unlocked =>
      obtain ⟨same, write⟩ := knows.claimWrite allowed present unlocked
      rw [write.annotated]
      refine (coherent.claimsMove write.moves).learns pid ?_
      refine (write.moves.knows knows).restamped stored fun found put => ?_
      have named : stored.name = patched.name := by rw [← write.annotated, same]
      simp only [World.putClaim, named, update_self, Option.some.injEq] at put
      subst put
      exact write.hashVersion
    | lost entry present unlocked error =>
      obtain ⟨_, write⟩ := knows.claimWrite allowed present unlocked
      rw [write.annotated]
      exact (coherent.claimsMove write.moves).learns pid (write.moves.knows knows)
    | refused error => exact coherent.learns pid knows

theorem Coherent.outside (coherent : Coherent codec world phases) (outside : world.Outside moved) :
    Coherent codec moved phases := by
  rcases outside_moves coherent.fresh outside with moves | moves
  · exact coherent.claimsMove moves
  · exact coherent.classMoves moves

end

def migrationCertificate (hashing : Hashing Spec) (codec : Codec) :
    Certificate (migrationSystem hashing codec) (hashProtocol hashing codec) where
  start := .start
  crashed := id
  inv := Coherent codec
  follows := by
    rintro program rfl
    exact reconcile_follows
  initial := fun world fresh => ⟨fresh, fun _ => knows_start codec world⟩
  answers := fun _ _ _ _ _ _ coherent permitted answered => coherent.answers permitted answered
  crash := by
    intro world phases pid coherent
    rw [id, update_eq_self]
    exact coherent
  environment := fun _ _ _ coherent outside => coherent.outside outside

end KarpenterIBM.ClassHash
