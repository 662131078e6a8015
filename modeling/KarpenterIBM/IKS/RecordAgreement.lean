import KarpenterIBM.IKS.RecordConformance
import KarpenterIBM.IKS.RecordStore

/-!
# The records of an allocation agree

Launches of a claim one after another, terminations and cleanups beside them, any
crash and any lost or refused write: every record fits the identity that was
recorded first, and the identity only grows.
-/

namespace KarpenterIBM.AllocationRecords

open Calls EffectProgram Errors IKSAllocation Objects Ownership

/-- The runs for one claim. -/
inductive Runs (platform : Platform) (claimName : String) : Program Unit → Prop where
  | launched (nodeClaim : NodeClaim) (same : nodeClaim.name = claimName) :
      Runs platform claimName (launch platform nodeClaim)
  | deleted : Runs platform claimName (deleteClaim platform claimName)
  | reconciled : Runs platform claimName (reconcile platform claimName)

def recordSystem (platform : Platform) (claimName : String) : System calls GoError where
  World := World
  initial := World.Fresh claimName
  spawns := Runs platform claimName
  answers := World.Answers
  crash := World.crash
  environment := World.Outside

def recordCertificate (platform : Platform) (named : platform.allocationNamespace ≠ "")
    (claimName : String) :
    Certificate (recordSystem platform claimName) (recordProtocol platform claimName) where
  start := .start
  crashed := fun _ => .start
  inv := Coherent platform claimName
  follows := by
    rintro program (⟨nodeClaim, same⟩ | _ | _)
    · exact launch_follows named nodeClaim same
    · exact deleteClaim_follows
    · exact reconcile_follows
  initial := fun _ fresh => coherent_of_fresh fresh
  answers := by
    intro world phases pid op answer moved coherent permitted answered
    have credible := (coherent.knows pid).credible
    rcases permitted with broken | permitted
    · cases broken.symm.trans credible
    · exact coherent.answers permitted answered
  crash := fun _ _ pid coherent => coherent.crash pid
  environment := fun _ _ _ coherent outside => coherent.outside outside

/-! ## The identity grows -/

section
variable {platform : Platform} {claimName : String} {world moved : World}

theorem answers_grows {pid : Nat} {op : Call} {answer : op.Answer}
    (answered : world.Answers pid op answer moved) : world.identity.Grows moved.identity := by
  cases op with
  | getClaim name | getNodeClass name | getConfigMap space name | getWorkerPool cluster name =>
    obtain ⟨rfl, _⟩ := answered
    exact .refl _
  | patchClaim stored patched | createConfigMap sent | patchConfigMap stored patched =>
    cases answered with
    | applied | lost => exact Identity.grows_noteValue _ _
    | refused => exact .refl _
  | deleteConfigMap result =>
    cases answered with
    | applied | lost | refused => exact .refl _
  | lockPool cid poolName =>
    obtain ⟨_, rfl⟩ := answered
    exact .refl _
  | _ =>
    obtain rfl := answered
    exact .refl _

theorem step_grows {config next : Config (recordSystem platform claimName)}
    (step : config.Step next) :
    Identity.Grows (World.identity config.world) (World.identity next.world) := by
  cases step with
  | spawn pid program free spawned => exact .refl _
  | act pid op rest answer world atCall answered => exact answers_grows answered
  | crash pid rest alive => exact .refl _
  | environment world outside =>
    cases outside with
    | touched | removed => exact .refl _

theorem steps_grow {first last : Config (recordSystem platform claimName)}
    (steps : Relation.ReflTransGen Config.Step first last) :
    Identity.Grows (World.identity first.world) (World.identity last.world) := by
  induction steps with
  | refl => exact .refl _
  | tail _ step ih => exact ih.trans (step_grows step)

/-! ## Records -/

/-- The allocation is recorded on the claim or in the reservation. -/
def World.Recorded (world : World) (allocation : Allocation) : Prop :=
  (∃ claim, world.claim = some claim ∧ allocationOf claim = .allocation allocation) ∨
    ∃ key reservation, world.reservations key = some reservation ∧
      recordOf reservation = .allocation allocation

/-- Every record that is there decodes. -/
structure World.Decodes (world : World) : Prop where
  claim : ∀ claim, world.claim = some claim → allocationOf claim = .text "" ∨
    ∃ allocation, decodeAllocation (allocationOf claim) = .ok (some allocation)
  reservation : ∀ key reservation, world.reservations key = some reservation →
    ∃ allocation, decodeAllocation (recordOf reservation) = .ok (some allocation)

/-- A record that is still there keeps its snapshot and its identities. -/
structure World.Keeps (world moved : World) : Prop where
  claim : ∀ before after old, world.claim = some before → moved.claim = some after →
    allocationOf before = .allocation old →
    ∃ new, allocationOf after = .allocation new ∧ Extends old new
  reservation : ∀ key before after old, world.reservations key = some before →
    moved.reservations key = some after → recordOf before = .allocation old →
    ∃ new, recordOf after = .allocation new ∧ Extends old new

section
variable (sound : Sound platform claimName world)

include sound

theorem Sound.valid_of_fits {alloc : Allocation} (fits : world.identity.Fits alloc) :
    valid alloc = true :=
  sound.accepted (snapshotOf alloc) fits.snapshot

theorem Sound.fits {allocation : Allocation} (noted : world.Recorded allocation) :
    world.identity.Fits allocation := by
  rcases noted with ⟨claim, found, record⟩ | ⟨key, result, stored, record⟩
  · exact sound.fits_claim found allocation record
  · exact sound.fits_reservation stored allocation record

theorem Sound.decodes : world.Decodes where
  claim := by
    intro claim found
    rcases sound.onClaim claim found with ⟨blank, _⟩ | ⟨alloc, record, fits⟩
    · exact .inl blank
    refine .inr ⟨alloc, ?_⟩
    rw [record, decodeAllocation_iff]
    exact sound.valid_of_fits fits
  reservation := by
    intro key reservation stored
    obtain ⟨_, alloc, record, fits, _⟩ := sound.reserved key reservation stored
    refine ⟨alloc, ?_⟩
    rw [record, decodeAllocation_iff]
    exact sound.valid_of_fits fits

end

theorem keeps_of_same (claim : moved.claim = world.claim)
    (reservations : moved.reservations = world.reservations) : world.Keeps moved where
  claim := by
    intro before after old found still record
    rw [claim, found] at still
    cases still
    exact ⟨old, record, .refl old⟩
  reservation := by
    intro key before after old found still record
    rw [reservations, found] at still
    cases still
    exact ⟨old, record, .refl old⟩

theorem Knows.claim_extends {pid : Nat} {phase : Phase} (knows : Knows world pid phase)
    {stored patched current : NodeClaim} {old : Allocation}
    (allowed : phase.Permits platform (.patchClaim stored patched))
    (unlocked : world.Unlocked stored current) (record : allocationOf current = .allocation old) :
    ∃ new, allocationOf patched = .allocation new ∧ Extends old new := by
  obtain ⟨copied, written⟩ := allowed
  have same := ((knows.copy stored copied).same current unlocked.present unlocked.version).1
  rcases written with ⟨allocation, points⟩ | ⟨_, annotations⟩
  · have after : allocationOf patched = .allocation allocation := by
      rw [points.after]
      exact allocationOf_withAllocation stored allocation
    refine ⟨allocation, after, ?_⟩
    rcases points.replaces with ⟨blank, _⟩ | ⟨prior, found, keeps⟩
    · rw [same, record] at blank
      cases blank
    rw [same, record] at found
    cases found
    exact keeps
  · refine ⟨old, ?_, .refl old⟩
    rw [← record, ← same, allocationOf, annotations]
    rfl

theorem storeClaim_keeps {current patched : NodeClaim} (found : world.claim = some current)
    (grown : ∀ old, allocationOf current = .allocation old →
      ∃ new, allocationOf patched = .allocation new ∧ Extends old new) :
    world.Keeps (world.storeClaim current patched) where
  claim := by
    rintro before after old was ⟨⟩ record
    cases found.symm.trans was
    exact grown old record
  reservation := (keeps_of_same rfl rfl : world.Keeps world).reservation

theorem putReservation_keeps {reservation : ConfigMap} (grown : ∀ before old,
      world.reservations (keyOfReservation reservation) = some before →
      recordOf before = .allocation old →
      ∃ new, recordOf reservation = .allocation new ∧ Extends old new) :
    world.Keeps (world.putReservation reservation) where
  claim := (keeps_of_same rfl rfl : world.Keeps world).claim
  reservation := by
    intro key before after old was still record
    rcases putReservation_lookup still with ⟨rfl, rfl⟩ | ⟨_, same⟩
    · exact grown before old was record
    cases was.symm.trans same
    exact ⟨old, record, .refl old⟩

theorem dropReservation_keeps (reservation : ConfigMap) :
    world.Keeps (world.dropReservation reservation) where
  claim := (keeps_of_same rfl rfl : world.Keeps world).claim
  reservation := by
    intro key before after old was still record
    by_cases dropped : key = keyOfReservation reservation
    · subst dropped
      simp [World.dropReservation] at still
    simp only [World.dropReservation, Function.update_of_ne dropped] at still
    cases was.symm.trans still
    exact ⟨old, record, .refl old⟩

theorem Coherent.answers_keep {phases : Nat → Phase}
    (coherent : Coherent platform claimName world phases) {pid : Nat} {op : Call}
    {answer : op.Answer} (allowed : (phases pid).Permits platform op)
    (answered : world.Answers pid op answer moved) : world.Keeps moved := by
  have knows := coherent.knows pid
  cases op with
  | getClaim name | getNodeClass name | getConfigMap space name | getWorkerPool cluster name =>
    obtain ⟨rfl, _⟩ := answered
    exact keeps_of_same rfl rfl
  | patchClaim stored patched =>
    cases answered with
    | applied current unlocked | lost current unlocked =>
      exact storeClaim_keeps unlocked.present fun old record =>
        knows.claim_extends allowed unlocked record
    | refused => exact keeps_of_same rfl rfl
  | createConfigMap sent =>
    -- Nothing is stored at the key of a reservation that is created.
    cases answered with
    | applied uid absent | lost uid absent =>
      refine putReservation_keeps fun before old found _ => ?_
      have impossible := absent.symm.trans found
      cases impossible
    | refused => exact keeps_of_same rfl rfl
  | patchConfigMap stored patched =>
    obtain ⟨held, noted, alloc, kind, started, recordedAs, rfl, records⟩ := allowed
    have stands := (knows.held stored held).1
    have grown (current : ConfigMap) (unchanged : world.Unchanged stored current) :
        world.Keeps (world.putReservation { current with
          data := updatedData stored.data alloc kind started }) := by
      have same : current = stored := Option.some.inj (unchanged.present.symm.trans stands)
      subst same
      refine putReservation_keeps fun before old found record => ?_
      have same : before = current := Option.some.inj (found.symm.trans stands)
      subst same
      cases recordedAs.symm.trans record
      exact ⟨alloc, read_record_updated .., records.keeps⟩
    cases answered with
    | applied current unchanged | lost current unchanged => exact grown current unchanged
    | refused => exact keeps_of_same rfl rfl
  | deleteConfigMap result =>
    cases answered with
    | applied | lost => exact dropReservation_keeps result
    | refused => exact keeps_of_same rfl rfl
  | lockPool cid poolName =>
    obtain ⟨_, rfl⟩ := answered
    exact keeps_of_same rfl rfl
  | _ =>
    obtain rfl := answered
    exact keeps_of_same rfl rfl

theorem outside_keeps (outside : world.Outside moved) : world.Keeps moved := by
  cases outside with
  | touched current updated found touches =>
    refine ⟨?_, (keeps_of_same rfl rfl : world.Keeps world).reservation⟩
    rintro before after old was ⟨⟩ record
    cases found.symm.trans was
    exact ⟨old, touches.record.trans record, .refl old⟩
  | removed => exact ⟨nofun, (keeps_of_same rfl rfl : world.Keeps world).reservation⟩

theorem step_keeps (named : platform.allocationNamespace ≠ "")
    {config next : Config (recordSystem platform claimName)} (reachable : config.Reachable)
    (step : config.Step next) : World.Keeps config.world next.world := by
  cases step with
  | spawn pid program free spawned | crash pid rest alive => exact keeps_of_same rfl rfl
  | act pid op rest answer world atCall answered =>
    obtain ⟨phases, coherent, permitted⟩ :=
      (recordCertificate platform named claimName).permits_of_reachable reachable atCall
    rcases permitted with broken | permitted
    · have credible := (Coherent.knows coherent pid).credible
      cases broken.symm.trans credible
    · exact Coherent.answers_keep coherent permitted answered
  | environment world outside => exact outside_keeps outside

theorem sound_of_reachable (named : platform.allocationNamespace ≠ "")
    {config : Config (recordSystem platform claimName)} (reachable : config.Reachable) :
    Sound platform claimName config.world := by
  obtain ⟨_, holds⟩ := (recordCertificate platform named claimName).holds_of_reachable reachable
  exact Coherent.sound holds.inv

end

/-- In every run for a claim the two records decode; a record in either place agrees with every
later record in either place, and while it stands only its missing identities are set; and
`restoreReservation` completes any recorded allocation from any later reservation. -/
theorem records_agree (platform : Platform) (named : platform.allocationNamespace ≠ "")
    (claimName : String) {first last : Config (recordSystem platform claimName)}
    (reachable : first.Reachable) (steps : Relation.ReflTransGen Config.Step first last) :
    World.Decodes first.world ∧ (∀ next, first.Step next → World.Keeps first.world next.world) ∧
      (∀ earlier later, World.Recorded first.world earlier → World.Recorded last.world later →
        Agree earlier later) ∧
      ∀ earlier key reservation, World.Recorded first.world earlier →
        World.reservations last.world key = some reservation →
        ∃ restored, restoreReservation earlier reservation = .ok restored := by
  have sound := sound_of_reachable named reachable
  obtain ⟨start, initial, before⟩ := reachable
  have soundLast := sound_of_reachable named ⟨start, initial, before.trans steps⟩
  have agrees : ∀ earlier later, World.Recorded first.world earlier →
      World.Recorded last.world later → Agree earlier later := by
    intro earlier later recorded recordedLater
    exact ((sound.fits recorded).grows (steps_grow steps)).agree (soundLast.fits recordedLater)
  refine ⟨sound.decodes, fun next step => step_keeps named ⟨start, initial, before⟩ step, agrees,
    ?_⟩
  intro earlier key reservation recorded stored
  obtain ⟨_, later, record, fits, _⟩ := soundLast.reserved key reservation stored
  have agree := agrees earlier later recorded (.inr ⟨key, reservation, stored, record⟩)
  exact ⟨completed earlier later, restoreReservation_iff.mpr
    ⟨later, record, soundLast.valid_of_fits fits, agree, rfl⟩⟩

/-! ## A run -/

def samplePools : IKSDynamicPoolConfig := ⟨true, "", ∅, none, []⟩

def sampleClass : IBMNodeClass where
  name := "n"
  uid := "k"
  resourceVersion := 0
  generation := 1
  annotations := ∅
  spec :=
    { region := "r", zone := "z", instanceProfile := "f", instanceRequirements := none
      image := "", imageSelector := none, vpc := "v", subnet := "t", placementStrategy := none
      securityGroups := [], sshKeys := [], resourceGroup := "", placementTarget := "", tags := ∅
      bootstrapMode := none, apiServerEndpoint := "", iksClusterID := "y", iksWorkerPoolID := ""
      iksDynamicPools := some samplePools }
  status := ⟨"", [], [], [], "", [⟨"Ready", .isTrue, 1, "", ""⟩]⟩

def sampleClaim : NodeClaim where
  name := "c"
  uid := "u"
  resourceVersion := 0
  deletionTimestamp := none
  labels := ∅
  annotations := ∅
  finalizers := []
  nodeClassRef := some "n"
  requirements := []
  requests := ∅
  providerID := ""
  imageID := ""
  nodeName := ""
  capacity := ∅
  allocatable := ∅

def sampleType : InstanceType where
  name := "f"
  requirements := []
  offerings := [⟨[], true, none⟩]
  capacity := ∅
  allocatable := ∅
  keysDistinct := List.nodup_nil

def sampleWorld : World where
  claim := some sampleClaim
  reservations := fun _ => none
  locks := fun _ => none
  nextVersion := 1
  identity := .unknown
  released := false

def sampleLabels : StringMap :=
  ((((∅ : StringMap).insert instanceTypeLabel "f").insert zoneLabel "z").insert regionLabel "r")
    |>.insert capacityTypeLabel capacityTypeOnDemand

/-- The allocation of the claim, before its pool is requested. -/
def plannedAllocation : Allocation :=
  allocationFor samplePlatform sampleClaim sampleClass samplePools "y" "x" "f" "h" sampleLabels
    sampleType

/-- Both records of the planned allocation are stored. -/
def World.Both (world : World) : Prop :=
  (∃ claim, world.claim = some claim ∧ allocationOf claim = .allocation plannedAllocation) ∧
    world.reservations ("s", "iks-pool-d") =
      some { newReservation samplePlatform plannedAllocation with resourceVersion := 2 }

theorem launch_leads : Leads (recordSystem samplePlatform "c") 0 (fun _ world => World.Both world)
      (launch samplePlatform sampleClaim) sampleWorld := by
  have step := @Leads.step calls GoError (recordSystem samplePlatform "c") 0
    (fun _ world => World.Both world)
  refine step (Call.lockPool "" "") () ⟨rfl, rfl⟩ ?_
  refine step (Call.getClaim "c") (Except.ok sampleClaim) ⟨rfl, ?_, nofun⟩ ?_
  · rintro _ ⟨⟩
    exact ⟨rfl, rfl⟩
  refine step (Call.getNodeClass "n") (Except.ok sampleClass) ⟨rfl, ?_⟩ ?_
  · rintro _ ⟨⟩
    decide
  refine step Call.iksClient (Except.ok ⟨"", ""⟩) rfl ?_
  refine step Call.getNamespaceUID (Except.ok "x") rfl ?_
  refine step (Call.getInstanceType "f" sampleClass) (Except.ok sampleType) rfl ?_
  refine step (Call.getInstanceType "f" sampleClass) (Except.ok sampleType) rfl ?_
  refine step Call.getNamespaceUID (Except.ok "x") rfl ?_
  refine step (Call.lockPool "y" "karp-d") () ⟨rfl, rfl⟩ ?_
  refine step (Call.getClaim "c") (Except.ok sampleClaim) ⟨rfl, ?_, nofun⟩ ?_
  · rintro _ ⟨⟩
    exact ⟨rfl, rfl⟩
  refine step (Call.patchClaim sampleClaim (withAllocation sampleClaim plannedAllocation))
    (Except.ok (1 : Nat)) (.applied sampleClaim ⟨rfl, rfl⟩) ?_
  refine step (Call.getConfigMap "s" "iks-pool-d") (Except.error ⟨.kube .notFound "", rfl⟩)
    ⟨rfl, nofun⟩ ?_
  refine step (Call.createConfigMap (newReservation samplePlatform plannedAllocation))
    (Except.ok { newReservation samplePlatform plannedAllocation with resourceVersion := 2 })
    (.applied "" rfl) ?_
  refine .reached ⟨⟨_, rfl, ?_⟩, ?_⟩
  · exact allocationOf_withAllocation sampleClaim plannedAllocation
  · rfl

theorem sampleWorld_fresh : sampleWorld.Fresh "c" where
  name := by
    rintro _ ⟨⟩
    rfl
  version := by
    rintro _ ⟨⟩
    decide
  blank := by
    rintro _ ⟨⟩
    rfl
  unreserved := fun _ => rfl
  unknown := rfl
  unreleased := rfl

theorem records_agree_sample :
    ∃ config : Config (recordSystem samplePlatform "c"), config.Reachable ∧
      World.Both config.world ∧ ∃ restored, restoreReservation plannedAllocation
        { newReservation samplePlatform plannedAllocation with resourceVersion := 2 } =
          .ok restored := by
  obtain ⟨_, last, both, steps⟩ :=
    launch_leads.started (.launched sampleClaim rfl) (fun _ => .unused) rfl
  have reachable : Config.Reachable (Y := recordSystem samplePlatform "c") _ :=
    ⟨⟨sampleWorld, fun _ => .unused⟩, ⟨sampleWorld_fresh, fun _ => rfl⟩, steps⟩
  have named : samplePlatform.allocationNamespace ≠ "" := by decide
  refine ⟨_, reachable, both, ?_⟩
  exact (records_agree samplePlatform named "c" reachable .refl).2.2.2 plannedAllocation _ _
    (.inl both.1) both.2

end KarpenterIBM.AllocationRecords
