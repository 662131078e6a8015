import KarpenterIBM.VPC.LeakInvariant

/-!
# Launches are not leaked

Along careful runs of `Create` and the allocation controller, every state with an instance of
the claim, or with a request that may still produce one, has the claim with its launch
finalizer.
-/

namespace KarpenterIBM.NoLeak

open AtMostOnce Calls ClaimStore EffectProgram Errors LaunchCloud LaunchConformance LaunchProtocol
open List
open Function
open LeakInvariant Objects Ownership VPCCreate VPCLaunch

/-! ## Evidence that nothing is outstanding -/

variable {stored : NodeClaim} {config : LaunchConfig}

section
variable {world : Cloud} {phases : Nat → Phase} {pid : Nat}
  (safe : Safe world phases)

include safe

theorem nothing_of_abandons (made : world.base.launch = .launch config)
    (current : world.base.Current (phases pid).copy) (abandons : (phases pid).Abandons config)
    (pressed : LaunchConfig) : ¬ Pressing world phases pressed := by
  intro pressing
  have stored := launch_of_covered (safe.accounted.covered pressed pressing)
  cases made.symm.trans stored
  obtain ⟨owner, active, _⟩ := pressing_active safe pressing
  obtain ⟨submitted, unrejected⟩ := (safe.ordered.consistent owner).active config active
  cases abandons with
  | rejected noted =>
    cases noted.symm.trans unrejected
  | unsubmitted prepared =>
    cases prepared.symm.trans submitted
  | expired time listed clock late =>
    have reading := (safe.ordered.consistent pid).clock time clock
    have past : deadline config < time := late
    cases pressing with
    | live request sent own id living =>
      have name := (active_of_request safe.accounted sent (by rw [living]; simp) own).2
      obtain ⟨answered, listing, _, bounded⟩ := (safe.evidence pid).listed config.name listed
      have early := bounded request sent config id own name living
      have late := (safe.evidence pid).timely config.name time config listed clock current
        made submitted past answered listing
      omega
    | pending request sent own waiting within | allowed other stage within => omega

theorem nothing_of_gone {id : String} (gone : Cloud.Holds world fun fate => fate = .gone id)
    (pressed : LaunchConfig) :
    ¬ Pressing world phases pressed := by
  intro pressing
  obtain ⟨request, sent, fate, config, own, made⟩ := gone
  have stored := launch_of_covered (safe.accounted.covered pressed pressing)
  cases made.symm.trans stored
  have alive : world.fate request ≠ .dead := by
    rw [fate]
    simp
  have stage := (active_of_request safe.accounted sent alive own).1
  cases pressing with
  | live other otherSent otherOwn other_id living =>
    have same := request_unique safe otherSent sent (by rw [living]; simp) alive otherOwn own
    rw [same, fate] at living
    cases living
  | pending other otherSent otherOwn waiting within =>
    have same := request_unique safe otherSent sent (by rw [waiting]; simp) alive otherOwn own
    rw [same, fate] at waiting
    cases waiting
  | allowed other submitted within =>
    have same := safe.ordered.distinct other request.pid pressed pressed
      (by rw [submitted]; rfl) (by rw [stage]; rfl) rfl
    rw [same, stage] at submitted
    cases submitted

theorem nothing_of_resolves (launch : world.base.launch = launchOf stored)
    (copy : (phases pid).copy = .read stored) (current : world.base.Current (phases pid).copy)
    (resolves : (phases pid).Resolves stored) (pressed : LaunchConfig) :
    ¬ Pressing world phases pressed := by
  cases resolves with
  | nothing config checkpoint unpublished abandons listed =>
    exact nothing_of_abandons safe (launch.trans checkpoint) current abandons pressed
  | deleted config checkpoint id found gone =>
    exact nothing_of_gone safe ((safe.evidence pid).gone id gone (.inl found) current) pressed
  | published bound gone =>
    exact nothing_of_gone safe
      ((safe.evidence pid).gone _ gone (.inr ⟨stored, copy, bound, rfl⟩) current) pressed

end

/-! ## Writes -/

variable {phase : Phase}

variable {pid : Nat}

section
variable {world : Cloud} {phases : Nat → Phase} {event : Event} {moved : Phase}
  {stored patched current : NodeClaim}

def Cloud.wrote (world : Cloud) (event : Event) (current patched : NodeClaim) : Cloud :=
  { world with
    base := { world.base.store current patched with log := event :: world.base.log } }

theorem current_of_unlocked {base : World} {copy : Copy} (holds : copy.Holds stored)
    (unlocked : base.Unlocked stored current) : base.Current copy := by
  obtain ⟨claim, copied, version, _⟩ := holds.held
  exact ⟨current, claim, unlocked.present, copied, unlocked.version.symm.trans version⟩

variable {config : LaunchConfig}

theorem pressing_wrote (pressing : Pressing (Cloud.wrote world event current patched)
      (update phases event.pid moved) config) :
    Pressing world phases config ∨ moved.stage = .submitted config := by
  refine or_iff_not_imp_right.mpr fun unsubmitted => pressing.rebased (le_refl _) ?_
  intro pid stage
  by_cases same : pid = event.pid
  · rw [same, update_self] at stage
    exact absurd stage unsubmitted
  · rw [update_of_ne same] at stage
    exact ⟨pid, stage⟩

/-- A write over the checkpoint of a process at work: the process marks its own checkpoint,
or the writer has given the checkpoint up, or it releases the claim. -/
theorem write_over_active (safe : Safe world phases)
    (moves : (phases pid).Moves True stored patched)
    (made : launchOf stored = .launch config) {owner : Nat}
    (active : (phases owner).stage.active = some config) :
    (owner = pid ∧ (phases pid).stage = .refused config) ∨ (phases pid).Abandons config ∨
      Releases (phases pid) stored patched := by
  cases moves with
  | prepares other move => cases move.before.symm.trans made
  | submits other time move =>
    cases move.before.symm.trans made
    have unsubmitted := ((safe.ordered.consistent pid).prepared _ move.stage).1
    cases ((safe.ordered.consistent owner).active _ active).1.symm.trans unsubmitted
  | marks other move =>
    cases move.before.symm.trans made
    exact .inl ⟨safe.ordered.distinct owner pid config config active
      (congrArg Stage.active move.stage) rfl, move.stage⟩
  | resets other move =>
    cases move.before.symm.trans made
    exact .inr (.inl move.abandons)
  | releases allowed move => exact .inr (.inr move)

theorem nothing_at_write (safe : Safe world phases) (holds : (phases pid).copy.Holds stored)
    (moves : (phases pid).Moves True stored patched) (unlocked : world.base.Unlocked stored current)
    (pressed : LaunchConfig) : ¬ Pressing world phases pressed := by
  intro pressing
  have launch := launch_of_unlocked safe.ordered holds unlocked
  have currentCopy := current_of_unlocked holds unlocked
  have covered := launch_of_covered (safe.accounted.covered pressed pressing)
  obtain ⟨owner, active, stage⟩ := pressing_active safe pressing
  rcases write_over_active safe moves (launch.symm.trans covered) active with
    ⟨rfl, refused⟩ | abandons | move
  · rw [refused] at stage
    obtain ⟨⟨⟩⟩ | ⟨⟨⟩⟩ := stage
  · exact nothing_of_abandons safe covered currentCopy abandons pressed pressing
  · exact nothing_of_resolves safe launch move.whole currentCopy move.resolves pressed pressing

theorem submitted_of_write {stage : Stage} (after : stage = .done ∨
      ∃ version, stage = (phases event.pid).stage.afterWrite patched (.ok version))
    (sent : stage = .submitted config) :
    (∃ own, (phases event.pid).stage = .prepared own) ∧ launchOf patched = .launch config := by
  rcases after with done | ⟨version, same⟩
  · cases done.symm.trans sent
  rw [same] at sent
  cases before : (phases event.pid).stage with
  | prepared own =>
    rw [before] at sent
    simp only [Stage.afterWrite] at sent
    split at sent
    · rename_i made
      cases sent
      exact ⟨⟨own, rfl⟩, made⟩
    · cases sent
  | idle =>
    rw [before] at sent
    simp only [Stage.afterWrite] at sent
    split at sent
    · split at sent <;> cases sent
    · cases sent
  | _ =>
    rw [before] at sent
    cases sent

section
variable (safe : Safe world phases)
  (holds : (phases event.pid).copy.Holds stored)
  (moves : (phases event.pid).Moves True stored patched)
  (unlocked : world.base.Unlocked stored current)

include safe holds moves unlocked

theorem covered_wrote (after : moved.stage = .done ∨
      ∃ version, moved.stage = (phases event.pid).stage.afterWrite patched (.ok version))
    (config : LaunchConfig)
    (pressing : Pressing (Cloud.wrote world event current patched)
      (update phases event.pid moved) config) :
    Covered (Cloud.wrote world event current patched) config := by
  rcases pressing_wrote pressing with before | stage
  · exact absurd before (nothing_at_write safe holds moves unlocked config)
  obtain ⟨⟨own, prepared⟩, made⟩ := submitted_of_write after stage
  refine ⟨_, rfl, made, ?_⟩
  cases moves with
  | prepares other move | submits other time move | marks other move => exact move.guarded
  | resets other move =>
    cases move.after.symm.trans made
  | releases allowed move =>
    cases move.stage.symm.trans prepared

theorem published_wrote (careful : world.Careful event.pid (.patchClaim stored patched))
    (bound : current.providerID ≠ "") :
    ∃ request config, world.Names current.providerID request ∧ request.config = some config ∧
      launchOf patched = .launch config := by
  have launch := launch_of_unlocked safe.ordered holds unlocked
  obtain ⟨request, config, named, own, made⟩ :=
    safe.accounted.published current unlocked.present bound
  have alive : world.fate request ≠ .dead := by
    rcases named.2 with living | gone
    · rw [living]
      simp
    · rw [gone]
      simp
  have stage := (active_of_request safe.accounted named.1 alive own).1
  have active : (phases request.pid).stage.active = some config := congrArg Stage.active stage
  have before := launch.symm.trans made
  rcases write_over_active safe moves before active with ⟨same, refused⟩ | abandons | move
  · rw [same, refused] at stage
    cases stage
  · obtain ⟨submitted, unrejected⟩ := (safe.ordered.consistent request.pid).active _ active
    cases abandons with
    | rejected recorded => cases unrejected.symm.trans recorded
    | unsubmitted prepared => cases submitted.symm.trans prepared
    | expired time listed clock late =>
      obtain ⟨_, asked, _⟩ := (safe.evidence event.pid).listed _ listed
      have read := (safe.ordered.consistent event.pid).clock time clock
      exact absurd (careful config current made (Nat.lt_of_lt_of_le late read)
        (by rw [asked]; nofun) unlocked.present) bound
  · refine ⟨request, config, named, own, ?_⟩
    rw [move.after]
    exact before

end

theorem storedBy_write {version : Nat}
    (exchange : event.exchange = ⟨.patchClaim stored patched, .ok version⟩)
    (after : event.after = .launch config) :
    storedBy event = if config.submitted then some config else none := by
  unfold storedBy
  rw [exchange, after]

theorem submittedBy_self (log : List Event) (stores : storedBy event = some config) :
    submittedBy event.pid (event :: log) = some config := by
  rw [submittedBy, List.findSome?_cons, if_pos rfl, stores]

theorem stage_of_moves (moves : phase.Moves True stored patched) :
    ∀ config, phase.stage ≠ .sent config := by
  intro config sent
  cases moves with
  | prepares other move | submits other time move | marks other move | resets other move
  | releases allowed move =>
    cases move.stage.symm.trans sent

theorem early_of_write {stage : Stage} {version : Nat}
    (early : Early (stage.afterWrite patched (.ok version))) :
    stage = .idle ∧ ∃ config, launchOf patched = .launch config ∧ config.submitted = false := by
  cases stage with
  | idle =>
    refine ⟨rfl, ?_⟩
    simp only [Early, Stage.afterWrite] at early
    split at early
    · rename_i value config answered made
      split at early
      · rename_i fresh
        exact ⟨config, made, fresh.1⟩
      · obtain ⟨⟨⟩⟩ | ⟨_, ⟨⟩⟩ := early
    · obtain ⟨⟨⟩⟩ | ⟨_, ⟨⟩⟩ := early
  | prepared own =>
    simp only [Early, Stage.afterWrite] at early
    split at early <;> obtain ⟨⟨⟩⟩ | ⟨_, ⟨⟩⟩ := early
  | _ => obtain ⟨⟨⟩⟩ | ⟨_, ⟨⟩⟩ := early

structure Wrote (phases : Nat → Phase) (event : Event) (moved : Phase)
    (stored patched : NodeClaim) : Prop where
  after : event.after = launchOf patched
  stage : moved.stage = .done ∨ ∃ version,
    event.exchange = ⟨.patchClaim stored patched, .ok version⟩ ∧
      moved.stage = (phases event.pid).stage.afterWrite patched (.ok version)
  blank : moved.absent = none ∧ moved.found = none ∧ moved.gone = none

theorem accounted_wrote (safe : Safe world phases) (holds : (phases event.pid).copy.Holds stored)
    (moves : (phases event.pid).Moves True stored patched)
    (unlocked : world.base.Unlocked stored current)
    (careful : world.Careful event.pid (.patchClaim stored patched))
    (wrote : Wrote phases event moved stored patched) :
    Accounted (Cloud.wrote world event current patched) (update phases event.pid moved) where
  requested := by
    intro request sent alive
    obtain ⟨config, own, name, stage⟩ := safe.accounted.requested request sent alive
    refine ⟨config, own, name, ?_⟩
    have other : request.pid ≠ event.pid := by
      intro same
      rw [same] at stage
      exact stage_of_moves moves config stage
    rw [update_of_ne other]
    exact stage
  single := safe.accounted.single
  unsent := by
    intro pid unsent
    by_cases same : pid = event.pid
    · rw [same, update_self] at unsent
      rw [same]
      refine safe.accounted.unsent event.pid ?_
      rcases wrote.stage with done | ⟨version, _, stage⟩
      · rw [done] at unsent
        exact unsent.elim
      · rw [stage] at unsent
        exact unsent_of_write unsent
    · rw [update_of_ne same] at unsent
      exact safe.accounted.unsent pid unsent
  stored := by
    intro pid config stage
    by_cases same : pid = event.pid
    · rw [same, update_self] at stage
      rw [same]
      rcases wrote.stage with done | ⟨version, exchange, after⟩
      · cases done.symm.trans stage
      have launched := (submitted_of_write (.inr ⟨version, after⟩) stage).2
      have advances := advances_of_moves safe.ordered holds moves unlocked moved.stage
        (.inr ⟨version, after⟩)
      have active := active_store advances event.pid config (by rw [update_self, stage]; rfl)
      have submitted : config.submitted = true := by
        rcases active with ⟨other, _⟩ | ⟨_, _, submitted, _⟩
        · exact absurd rfl other
        · exact submitted
      refine submittedBy_self _ ?_
      rw [storedBy_write exchange (wrote.after.trans launched), if_pos submitted]
    · rw [update_of_ne same] at stage
      exact (submittedBy_cons pid event _ (.inl (Ne.symm same))).trans
        (safe.accounted.stored pid config stage)
  unstored := by
    intro pid early
    by_cases same : pid = event.pid
    · rw [same, update_self] at early
      rw [same]
      rcases wrote.stage with done | ⟨version, exchange, after⟩
      · rw [done] at early
        obtain ⟨⟨⟩⟩ | ⟨_, ⟨⟩⟩ := early
      rw [after] at early
      obtain ⟨idle, config, launched, unsubmitted⟩ := early_of_write early
      have silent : storedBy event = none := by
        rw [storedBy_write exchange (wrote.after.trans launched), unsubmitted]
        rfl
      exact (submittedBy_cons event.pid event _ (.inr silent)).trans
        (safe.accounted.unstored event.pid (.inl idle))
    · rw [update_of_ne same] at early
      exact (submittedBy_cons pid event _ (.inl (Ne.symm same))).trans
        (safe.accounted.unstored pid early)
  covered := by
    refine covered_wrote safe holds moves unlocked ?_
    rcases wrote.stage with done | ⟨version, _, after⟩
    · exact .inl done
    · exact .inr ⟨version, after⟩
  published := by
    rintro claim ⟨⟩ bound
    have kept := published_wrote safe holds moves unlocked careful bound
    exact kept

theorem evidence_wrote (safe : Safe world phases)
    (wrote : Wrote phases event moved stored patched) (pid : Nat) :
    Evidence (Cloud.wrote world event current patched) pid (update phases event.pid moved pid) := by
  by_cases same : pid = event.pid
  · rw [same, update_self]
    exact evidence_blank wrote.blank.1 wrote.blank.2.1 wrote.blank.2.2
  rw [update_of_ne same]
  refine (safe.evidence pid).evolves (Evolves.rebased world (le_refl _)) ?_
    (lastListing_cons pid event _ (.inl (Ne.symm same)))
  intro currentCopy
  have stale : ¬ (world.base.store current patched).Current (phases pid).copy :=
    not_current_replace (safe.ordered.consistent pid).older rfl
  exact absurd currentCopy stale

end

/-! ## One call -/

variable {patched : NodeClaim} {decided : Fate}

section
variable {world : Cloud} {phases : Nat → Phase} {pid : Nat}

theorem safe_silent (safe : Safe world phases) (event : Event) {moved : Phase}
    (ordered : Ordered (Cloud.logged world event).base (update phases event.pid moved))
    (settles : Settles (phases event.pid).stage moved.stage) (unstored : storedBy event = none)
    (own : Evidence (Cloud.logged world event) event.pid moved) :
    Safe (Cloud.logged world event) (update phases event.pid moved) :=
  ⟨ordered, accounted_silent safe.accounted settles unstored, evidence_silent safe.evidence own⟩

theorem settles_refused {error : ApiError} (moves : phase.Moves True stored patched) :
    Settles phase.stage (phase.stage.afterWrite patched (.error error)) := by
  rcases afterWrite_error patched error phase.stage with done | ⟨config, refused, same⟩
  · rw [done]
    refine ⟨fun config sent => absurd sent (stage_of_moves moves config), False.elim, nofun, ?_⟩
    rintro (⟨⟨⟩⟩ | ⟨_, ⟨⟩⟩)
  · rw [same, refused]
    exact Settles.refl _

theorem safe_patches (safe : Safe world phases) {answer : Except ApiError Nat} {served : World}
    (allowed : (phases pid).permits True (.patchClaim stored patched))
    (careful : world.Careful pid (.patchClaim stored patched))
    (patches : world.base.Patches stored patched answer served)
    (ordered : Ordered
      { served with log := world.base.event served pid (.patchClaim stored patched) answer ::
          world.base.log }
      (update phases pid ((phases pid).next (.patchClaim stored patched) answer))) :
    Safe
      { world with base :=
        { served with log := world.base.event served pid (.patchClaim stored patched) answer ::
            world.base.log } }
      (update phases pid ((phases pid).next (.patchClaim stored patched) answer)) := by
  obtain ⟨holds, moves⟩ := allowed
  cases patches with
  | applied current unlocked =>
    have wrote : Wrote phases
        (world.base.event (world.base.store current patched) pid (.patchClaim stored patched)
          (.ok world.base.nextVersion))
        ((phases pid).next (.patchClaim stored patched) (.ok world.base.nextVersion))
        stored patched :=
      ⟨rfl, .inr ⟨_, rfl, rfl⟩, rfl, rfl, rfl⟩
    exact ⟨ordered, accounted_wrote safe holds moves unlocked careful wrote,
      evidence_wrote safe wrote⟩
  | lost current unlocked error unknown =>
    have wrote : Wrote phases
        (world.base.event (world.base.store current patched) pid (.patchClaim stored patched)
          (.error error))
        ((phases pid).next (.patchClaim stored patched) (.error error)) stored patched :=
      ⟨rfl, .inl (lost_stage patched _ unknown), rfl, rfl, rfl⟩
    exact ⟨ordered, accounted_wrote safe holds moves unlocked careful wrote,
      evidence_wrote safe wrote⟩
  | refused error =>
    have unstored : storedBy (world.base.event world.base pid (.patchClaim stored patched)
        (.error error)) = none := by
      unfold storedBy World.event
      cases world.base.launch <;> rfl
    exact safe_silent safe (world.base.event world.base pid (.patchClaim stored patched)
      (.error error)) ordered (settles_refused moves) unstored (evidence_blank rfl rfl rfl)

variable {answer : CreateAnswer}

/-- A refusal that `Create` marks leaves no request behind. -/
theorem dead_of_refused {request : Request}
    (sdk : ∀ error resp, answer = .failed error resp → SDKError error.val)
    (decides : Decides world request answer decided) (refused : answerRefused answer = true) :
    decided = .dead := by
  have definite : ∀ error resp, answer = .failed error resp →
      ∃ status, answeredStatus answer = some status ∧ DefiniteStatus status :=
    fun _ _ _ => definite_of_answerRefused sdk refused
  cases decides with
  | created found id identified unused isOpen => cases refused
  | refused error resp => rfl
  | unknown error resp indefinite | lost error resp indefinite id unused isOpen =>
    obtain ⟨status, answered, refuses⟩ := definite error resp rfl
    exact absurd refuses (indefinite status answered)

theorem open_of_decides {request : Request} (decides : Decides world request answer decided)
    (id : String) (living : decided = .live id) : request.Open world.base.now := by
  cases decides with
  | created found other identified unused isOpen
  | lost error resp indefinite other unused isOpen => exact isOpen
  | refused error resp | unknown error resp indefinite => cases living

theorem safe_creates (safe : Safe world phases) {proto : InstancePrototype}
    (allowed : (phases pid).permits True (.createInstance proto))
    (sdk : ∀ error resp, answer = .failed error resp → SDKError error.val)
    (decides : Decides world (world.request pid proto.name) answer decided)
    (ordered : Ordered (Cloud.logged world
        (world.base.event world.base pid (.createInstance proto) answer)).base
      (update phases pid ((phases pid).next (.createInstance proto) answer))) :
    Safe (Cloud.requested world (world.base.event world.base pid (.createInstance proto) answer)
        (world.request pid proto.name) decided)
      (update phases pid ((phases pid).next (.createInstance proto) answer)) := by
  obtain ⟨config, stage, named⟩ := allowed
  have requests : Requests world phases
      (world.base.event world.base pid (.createInstance proto) answer)
      (world.request pid proto.name) config :=
    ⟨rfl, safe.accounted.stored pid config stage, named, stage⟩
  have after : ((phases pid).next (.createInstance proto) answer).stage =
      if answerRefused answer then .refused config else .sent config := by
    change (phases pid).stage.afterCreate answer = _
    rw [stage]
    rfl
  have out : ((phases pid).next (.createInstance proto) answer).stage = .sent config ∨
      (((phases pid).next (.createInstance proto) answer).stage = .refused config ∧
        decided = .dead) := by
    by_cases refused : answerRefused answer = true
    · rw [if_pos refused] at after
      exact .inr ⟨after, dead_of_refused sdk decides refused⟩
    · rw [if_neg refused] at after
      exact .inl after
  have isOpen := open_of_decides decides
  have evolves := evolves_requested safe.accounted requests isOpen
  refine ⟨ordered, accounted_requested safe.accounted requests isOpen out rfl, ?_⟩
  intro other
  have listing : lastListing other (Cloud.requested world
      (world.base.event world.base pid (.createInstance proto) answer)
      (world.request pid proto.name) decided).base.log = lastListing other world.base.log :=
    lastListing_cons other _ _ (.inr rfl)
  have kept := (safe.evidence other).evolves evolves (fun current => ⟨current, rfl⟩) listing
  by_cases same : other = pid
  · rw [same, update_self]
    rw [same] at kept
    exact { kept with }
  · rw [update_of_ne same]
    exact kept

theorem safe_answers {next : Cloud} (op : Call) (answer : op.Answer) (safe : Safe world phases)
    (allowed : (phases pid).permits True op) (answers : world.Answers pid op answer next)
    (careful : world.Careful pid op) :
    Safe next (update phases pid ((phases pid).next op answer)) := by
  have ordered := ordered_answers op answer safe.ordered allowed answers.1
  obtain ⟨⟨served, serves, noted⟩, cloud⟩ := answers
  obtain ⟨base, sent, fate⟩ := next
  dsimp only at noted cloud ordered
  subst noted
  have silent : served = world.base → sent = world.sent → fate = world.fate →
      Settles (phases pid).stage ((phases pid).next op answer).stage →
      storedBy (world.base.event world.base pid op answer) = none →
      Evidence (Cloud.logged world (world.base.event world.base pid op answer)) pid
        ((phases pid).next op answer) →
      Safe ⟨{ served with log := world.base.event served pid op answer :: world.base.log },
        sent, fate⟩ (update phases pid ((phases pid).next op answer)) := by
    intro same sameSent sameFate settles unstored own
    subst same sameSent sameFate
    exact safe_silent safe _ ordered settles unstored own
  cases op with
  | patchClaim stored patched =>
    obtain ⟨sameSent, sameFate⟩ := cloud
    subst sameSent sameFate
    exact safe_patches safe allowed careful serves ordered
  | createInstance proto =>
    obtain ⟨same, sdk⟩ := serves
    obtain ⟨sameSent, decided, decides, sameFate⟩ := cloud
    subst same sameSent sameFate
    exact safe_creates safe allowed sdk decides ordered
  | getClaim name =>
    refine silent serves.1 cloud.1 cloud.2 ?_ rfl ?_
    · cases answer with
      | ok claim | error error => exact Settles.refl _
    cases answer with
    | ok claim => exact evidence_blank rfl rfl rfl
    | error error => exact evidence_unmoved (safe.evidence pid) rfl rfl rfl rfl rfl rfl
  | now =>
    refine silent serves.2 cloud.1 cloud.2 (Settles.refl _) rfl ?_
    have reading : (phases pid).next .now answer =
        { phases pid with clock := some world.base.now } := by
      change { phases pid with clock := some answer } = _
      rw [serves.1]
    rw [reading]
    have before : Evidence world (world.base.event world.base pid .now answer).pid
        (phases (world.base.event world.base pid .now answer).pid) := safe.evidence pid
    exact evidence_now before rfl careful
  | listInstancesByName name =>
    obtain ⟨sameSent, sameFate, complete⟩ := cloud
    cases answer with
    | ok instances =>
      refine silent serves sameSent sameFate (Settles.refl _) rfl ?_
      exact evidence_list rfl (complete instances rfl)
    | error error =>
      refine silent serves sameSent sameFate (Settles.refl _) rfl ?_
      exact evidence_unmoved (safe.evidence pid) rfl rfl rfl rfl rfl rfl
  | getInstance id =>
    obtain ⟨sameSent, sameFate, found, missing⟩ := cloud
    have stage := (sameLaunch_getInstance (phases pid) id answer).1
    refine silent serves sameSent sameFate (by rw [stage]; exact Settles.refl _) rfl ?_
    exact evidence_getInstance safe rfl found missing
  | validateInstance proto =>
    refine silent serves cloud.1 cloud.2 (settles_afterValidation answer _) rfl ?_
    exact evidence_unmoved (safe.evidence pid) rfl rfl rfl rfl rfl rfl
  | _ =>
    refine silent serves cloud.1 cloud.2 (Settles.refl _) rfl ?_
    exact evidence_unmoved (safe.evidence pid) rfl rfl rfl rfl rfl rfl

end

/-! ## The environment -/

variable {fate : Fate}

section
variable {world : Cloud} {phases : Nat → Phase}

structure Unfolds (world : Cloud) (request : Request) (fate : Fate) : Prop where
  alive : fate ≠ .dead → world.fate request ≠ .dead
  decided : fate ≠ .pending
  accepted : ∀ id, (world.fate request).Accepted id → fate.Accepted id
  gone : ∀ id, world.fate request = .gone id → fate = .gone id
  live : ∀ id, fate = .live id → world.fate request = .pending ∧ request.Open world.base.now

variable {request : Request}

theorem fate_update (property : Fate → Prop)
    (changed : property (world.fate request) → property fate)
    (other : Request) (held : property (world.fate other)) :
    property (update world.fate request fate other) := by
  by_cases same : other = request
  · rw [same, update_self]
    rw [same] at held
    exact changed held
  · rw [update_of_ne same]
    exact held

theorem fate_of_update (property : Fate → Prop) (other : Request)
    (held : property (update world.fate request fate other)) :
    (other = request ∧ property fate) ∨ property (world.fate other) := by
  by_cases same : other = request
  · rw [same, update_self] at held
    exact .inl ⟨same, held⟩
  · rw [update_of_ne same] at held
    exact .inr held

theorem pressing_unfolds (unfolds : Unfolds world request fate)
    (pressing : Pressing { world with fate := update world.fate request fate } phases
      config) : Pressing world phases config := by
  cases pressing with
  | live other sent own id living =>
    rcases fate_of_update (fun fate => fate = .live id) other living with ⟨rfl, new⟩ | before
    · obtain ⟨waiting, isOpen⟩ := unfolds.live id new
      exact .pending other sent own waiting (isOpen config own)
    · exact .live other sent own id before
  | pending other sent own waiting within =>
    rcases fate_of_update (fun fate => fate = .pending) other waiting with ⟨_, new⟩ | before
    · exact absurd new unfolds.decided
    · exact .pending other sent own before within
  | allowed pid stage within => exact .allowed pid stage within

theorem evolves_unfolds (unfolds : Unfolds world request fate) :
    Evolves world { world with fate := update world.fate request fate } where
  now := le_refl _
  sent := fun _ sent => sent
  accepted := fun other _ id accepted =>
    fate_update (fun fate => fate.Accepted id) (unfolds.accepted id) other accepted
  gone := fun other _ id gone =>
    fate_update (fun fate => fate = .gone id) (unfolds.gone id) other gone
  live := by
    intro other sent id living
    rcases fate_of_update (fun fate => fate = .live id) other living with ⟨rfl, new⟩ | before
    · exact .inr (unfolds.live id new).2
    · exact .inl ⟨sent, before⟩

section
variable (safe : Safe world phases)

include safe

theorem safe_unfolds (unfolds : Unfolds world request fate) :
    Safe { world with fate := update world.fate request fate } phases := by
  refine ⟨safe.ordered, ?_, fun pid => (safe.evidence pid).evolves (evolves_unfolds unfolds)
    (fun current => ⟨current, rfl⟩) rfl⟩
  refine { safe.accounted with requested := ?_, covered := ?_, published := ?_ }
  · intro other sent alive
    refine safe.accounted.requested other sent ?_
    rcases fate_of_update (fun fate => fate ≠ .dead) other alive with ⟨rfl, new⟩ | before
    · exact unfolds.alive new
    · exact before
  · exact fun config pressing => safe.accounted.covered config (pressing_unfolds unfolds pressing)
  · intro claim found bound
    obtain ⟨other, config, ⟨sent, accepted⟩, own, made⟩ :=
      safe.accounted.published claim found bound
    exact ⟨other, config, ⟨sent, fate_update (fun fate => fate.Accepted _)
      (unfolds.accepted _) other accepted⟩, own, made⟩

theorem safe_passes {later : Nat} (after : world.base.now ≤ later) :
    Safe { world with base := { world.base with now := later } } phases := by
  refine ⟨ordered_passes safe.ordered after, ?_, fun pid => (safe.evidence pid).evolves
    (Evolves.rebased world after) (fun current => ⟨current, rfl⟩) rfl⟩
  refine { safe.accounted with covered := fun config pressing => ?_ }
  exact safe.accounted.covered config (pressing.rebased after fun pid stage => ⟨pid, stage⟩)

theorem evidence_stale {base : World} (now : base.now = world.base.now)
    (log : base.log = world.base.log) (stale : ∀ pid, ¬ base.Current (phases pid).copy)
    (pid : Nat) :
    Evidence { world with base := base } pid (phases pid) := by
  refine (safe.evidence pid).evolves (Evolves.rebased world now.symm.le)
    (fun current => absurd current (stale pid)) ?_
  rw [log]

end

variable (safe : Safe world phases)

include safe

theorem safe_touched {current updated : NodeClaim} (found : world.base.claim = some current)
    (touches : Touches current updated world.base.nextVersion)
    (bound : updated.providerID = current.providerID ∨
      ∃ request config, world.Names updated.providerID request ∧ request.config = some config ∧
        world.base.launch = .launch config) :
    Safe { world with base := world.base.replace updated } phases := by
  have launch : (world.base.replace updated).launch = world.base.launch := by
    unfold World.launch
    rw [found]
    exact touches.launch
  refine ⟨ordered_touched safe.ordered found touches, ?_, evidence_stale safe rfl rfl
    fun pid => not_current_replace (safe.ordered.consistent pid).older touches.version⟩
  refine { safe.accounted with covered := ?_, published := ?_ }
  · intro config pressing
    obtain ⟨claim, stored, made, guarded⟩ := safe.accounted.covered config
      (pressing.rebased (le_refl _) fun pid stage => ⟨pid, stage⟩)
    cases found.symm.trans stored
    exact ⟨updated, rfl, touches.launch.trans made, touches.guarded guarded⟩
  · rintro claim ⟨⟩ published
    rcases bound with same | ⟨request, config, named, own, made⟩
    · obtain ⟨request, config, named, own, made⟩ :=
        safe.accounted.published current found (by rwa [same] at published)
      refine ⟨request, config, ?_, own, launch.trans made⟩
      rw [same]
      exact named
    · exact ⟨request, config, named, own, launch.trans made⟩

theorem safe_removed {current : NodeClaim} (found : world.base.claim = some current)
    (released : current.finalizers = []) :
    Safe { world with base := { world.base with claim := none } } phases := by
  refine ⟨ordered_removed safe.ordered, ?_, evidence_stale safe rfl rfl ?_⟩
  · refine { safe.accounted with covered := ?_, published := nofun }
    intro config pressing
    obtain ⟨claim, stored, _, guarded⟩ := safe.accounted.covered config
      (pressing.rebased (le_refl _) fun pid stage => ⟨pid, stage⟩)
    cases found.symm.trans stored
    rw [released] at guarded
    cases guarded
  · intro pid currentCopy
    obtain ⟨object, claim, ⟨⟩, _⟩ := currentCopy

theorem safe_outside {next : Cloud} (outside : world.Outside next) (own : world.PublishesOwn next) :
    Safe next phases := by
  cases outside with
  | store base moved bound =>
    cases moved with
    | passes later after => exact safe_passes safe after
    | touched current updated found touches =>
      refine safe_touched safe found touches ?_
      by_cases same : updated.providerID = current.providerID
      · exact .inl same
      · exact .inr (own current updated found rfl same)
    | removed current found terminating released => exact safe_removed safe found released
  | accepted request known pending isOpen id unused =>
    refine safe_unfolds safe ⟨?_, by simp, ?_, ?_, ?_⟩
    · intro _
      rw [pending]
      simp
    · intro other accepted
      rw [pending] at accepted
      obtain ⟨⟨⟩⟩ | ⟨⟨⟩⟩ := accepted
    · intro other impossible
      cases pending.symm.trans impossible
    · exact fun _ _ => ⟨pending, isOpen⟩
  | dropped request known pending =>
    refine safe_unfolds safe ⟨fun alive => absurd rfl alive, by simp, ?_, ?_, ?_⟩
    · intro other accepted
      rw [pending] at accepted
      obtain ⟨⟨⟩⟩ | ⟨⟨⟩⟩ := accepted
    · intro other impossible
      cases pending.symm.trans impossible
    · rintro other ⟨⟩
  | vanished request known id live =>
    refine safe_unfolds safe ⟨?_, by simp, ?_, ?_, ?_⟩
    · intro _
      rw [live]
      simp
    · intro other accepted
      rw [live] at accepted
      rcases accepted with same | impossible
      · cases same
        exact .inr rfl
      · cases impossible
    · intro other impossible
      cases live.symm.trans impossible
    · rintro other ⟨⟩

end

/-! ## Programs that have sent their request -/

def Spent : Stage → Prop
  | .sent _ | .refused _ | .done => True
  | _ => False

theorem spent_next (spent : Spent phase.stage) (op : Call) (answer : op.Answer) :
    Spent (phase.next op answer).stage := by
  cases op with
  | patchClaim stored patched =>
    change Spent (phase.stage.afterWrite patched answer)
    cases stage : phase.stage with
    | refused config =>
      cases answer with
      | ok version => trivial
      | error error =>
        simp only [Stage.afterWrite]
        split
        · trivial
        · trivial
    | sent config | done => trivial
    | _ =>
      rw [stage] at spent
      exact spent.elim
  | validateInstance proto =>
    change Spent (phase.stage.afterValidation answer)
    cases stage : phase.stage with
    | submitted config =>
      rw [stage] at spent
      exact spent.elim
    | _ =>
      rw [stage] at spent
      exact spent
  | createInstance proto =>
    change Spent (phase.stage.afterCreate answer)
    cases stage : phase.stage with
    | submitted config =>
      rw [stage] at spent
      exact spent.elim
    | _ =>
      rw [stage] at spent
      exact spent
  | getClaim name =>
    cases answer with
    | ok claim | error error => exact spent
  | listInstancesByName name =>
    cases answer with
    | ok instances | error error => exact spent
  | getInstance id =>
    have stage := (sameLaunch_getInstance phase id answer).1
    rw [stage]
    exact spent
  | _ => exact spent

theorem spent_after (releases : Prop) (phase : Phase) (spent : Spent phase.stage)
    (trace : List calls.Exchange) :
    Spent ((launchProtocol releases).after phase trace).stage := by
  induction trace generalizing phase with
  | nil => exact spent
  | cons exchange later ih => exact ih _ (spent_next spent exchange.1 exchange.2)

theorem not_spent_of_maySend {releases : Prop} {phase : Phase} {program : Prog calls GoError Unit}
    (follows : Follows (launchProtocol releases) (fun _ _ => True) phase program)
    (may : MaySend program) : ¬ Spent phase.stage := by
  intro spent
  obtain ⟨trace, proto, rest, reaches⟩ := may
  obtain ⟨⟨config, stage, _⟩, _⟩ := follows.reaches reaches
  have after := spent_after releases phase spent trace
  rw [stage] at after
  exact after

/-! ## The run lemma -/

variable {world : Cloud}

theorem safe_initial (fresh : world.base.Fresh) (empty : world.sent = [])
    (unbound : ∀ claim, world.base.claim = some claim → claim.providerID = "") :
    Safe world (fun _ => Phase.start) := by
  refine ⟨ordered_initial fresh, ?_, fun _ => evidence_blank rfl rfl rfl⟩
  refine ⟨?_, ?_, ?_, ?_, ?_, ?_, ?_⟩
  · intro request sent
    rw [empty] at sent
    cases sent
  · intro first sent
    rw [empty] at sent
    cases sent
  · intro pid _ request sent
    rw [empty] at sent
    cases sent
  · nofun
  · intro pid _
    rw [fresh.empty]
    rfl
  · intro config pressing
    cases pressing with
    | live request sent | pending request sent =>
      rw [empty] at sent
      cases sent
    | allowed pid stage => cases stage
  · intro claim found bound
    exact absurd (unbound claim found) bound

def launchCertificate (platform : Platform) :
    Certificate (launchSystem platform True) (launchProtocol True) where
  start := Phase.start
  crashed := id
  inv := Safe
  follows := by
    intro program spawned
    rcases spawned with ⟨claim, instanceTypes, same⟩ | ⟨name, same⟩
    · rw [same]
      exact Follows.bind (create_follows True platform claim instanceTypes)
        (fun _ _ _ => trivial) fun _ _ _ => trivial
    · rw [same]
      exact reconcile_follows True trivial platform name
  initial := fun _ start => safe_initial start.1 start.2.1 start.2.2
  answers := fun _ _ _ op answer _ safe permitted answered =>
    safe_answers op answer safe permitted answered.1 (answered.2 trivial)
  crash := by
    intro world phases pid safe
    rw [id, update_eq_self]
    exact safe
  environment := fun _ _ _ safe moved => safe_outside safe moved.1 (moved.2 trivial)

theorem pressing_of_outstanding {platform : Platform}
    {config : Config (launchSystem platform True)} {phases : Nat → Phase}
    (holds : (launchCertificate platform).Holds config phases)
    (outstanding : Outstanding config) : ∃ checkpoint, Pressing config.world phases checkpoint := by
  have safe : Safe config.world phases := holds.inv
  cases outstanding with
  | live request sent id living =>
    obtain ⟨checkpoint, own, _⟩ := safe.accounted.requested request sent (by rw [living]; simp)
    exact ⟨checkpoint, .live request sent own id living⟩
  | pending request sent waiting isOpen =>
    obtain ⟨checkpoint, own, _⟩ := safe.accounted.requested request sent (by rw [waiting]; simp)
    exact ⟨checkpoint, .pending request sent own waiting (isOpen checkpoint own)⟩
  | allowed pid rest running may checkpoint stored within =>
    have follows : Follows (launchProtocol True) (fun _ _ => True) (phases pid) rest := by
      have conforms := holds.conforms pid
      rw [running] at conforms
      exact conforms
    have unspent := not_spent_of_maySend follows may
    cases stage : (phases pid).stage with
    | idle =>
      rw [safe.accounted.unstored pid (.inl stage)] at stored
      cases stored
    | prepared own =>
      rw [safe.accounted.unstored pid (.inr ⟨own, stage⟩)] at stored
      cases stored
    | submitted own =>
      rw [safe.accounted.stored pid own stage] at stored
      cases stored
      exact ⟨checkpoint, .allowed pid stage within⟩
    | sent own | refused own | done =>
      rw [stage] at unspent
      exact absurd trivial unspent

/-- In every state that careful steps reach, an instance of the claim, or a request
that may still produce one, has the claim with its launch finalizer. -/
theorem careful_runs_do_not_leak (platform : Platform)
    (config : Config (launchSystem platform True)) (reachable : config.Reachable) :
    NoLeak config := by
  intro outstanding
  obtain ⟨phases, holds⟩ := (launchCertificate platform).holds_of_reachable reachable
  obtain ⟨checkpoint, pressing⟩ := pressing_of_outstanding holds outstanding
  have safe : Safe config.world phases := holds.inv
  obtain ⟨claim, present, _, guarded⟩ := safe.accounted.covered checkpoint pressing
  exact ⟨claim, present, guarded⟩

/-! ## A run -/

def sampleCloud : Cloud := ⟨sampleWorld, [], fun _ => .dead⟩

def sampleConfig : LaunchConfig :=
  { name := "karpenter-d", clusterUID := "x", claimUID := "u", classUID := "k", accountID := "a"
    resourceGroup := "", region := "r", vpc := "v", profile := "p", zone := "z", subnet := "s"
    image := "i", capacityType := "on-demand", hash := "h", hashVersion := "2"
    securityGroups := ["g"], submitted := true, rejected := false, submittedAt := 0
    capacity := ∅, allocatable := ∅, tags := sampleTags }

def sampleRequest : Request := ⟨0, 0, "karpenter-d", some sampleConfig⟩

structure UnderWay (world : Cloud) : Prop where
  now : world.base.now = 0
  version : world.base.nextVersion = 4
  claim : ∃ claim, world.base.claim = some claim ∧ claim.name = "c" ∧ claim.uid = "u" ∧
    claim.providerID = "" ∧ launchOf claim = .launch sampleConfig
  sent : world.sent = [sampleRequest]
  fate : ∀ request ∈ world.sent, world.fate request = .pending

theorem answers_logged {op : Call} {answer : op.Answer}
    (serves : world.base.Serves op answer world.base)
    (cloud : world.Serves pid op answer world.sent world.fate) :
    world.Answers pid op answer (Cloud.logged world (world.base.event world.base pid op answer)) :=
  ⟨⟨_, serves, rfl⟩, cloud⟩

theorem answers_wrote (current : NodeClaim) (unlocked : world.base.Unlocked stored current) :
    world.Answers pid (.patchClaim stored patched) (Except.ok world.base.nextVersion)
      (Cloud.wrote world (world.base.event (world.base.store current patched) pid
        (.patchClaim stored patched) (Except.ok world.base.nextVersion)) current patched) :=
  ⟨⟨_, .applied current unlocked, rfl⟩, rfl, rfl⟩

def lostAnswer : CreateAnswer := .failed ⟨.sdkProblem "EOF", rfl⟩ none

theorem answers_requested {proto : InstancePrototype} :
    world.Answers pid (.createInstance proto) lostAnswer
      (Cloud.requested world (world.base.event world.base pid (.createInstance proto) lostAnswer)
        (world.request pid proto.name) .pending) := by
  refine ⟨⟨_, ⟨rfl, ?_⟩, rfl⟩, rfl, .pending, ?_, rfl⟩
  · rintro error resp ⟨⟩
    trivial
  refine .unknown _ _ ?_
  rintro status ⟨⟩

theorem fate_requested_self (world : Cloud) (event : Event) (request : Request) (decided : Fate) :
    (Cloud.requested world event request decided).fate request = decided := by
  simp [Cloud.requested]

theorem sample_leads_to_request (careful : Prop) :
    Leads (launchSystem samplePlatform careful) 0 (fun _ world => UnderWay world)
      (create samplePlatform sampleClaim [sampleType] >>= fun _ => pure ()) sampleCloud := by
  have step := @Leads.step calls GoError (launchSystem samplePlatform careful) 0
    (fun _ world => UnderWay world)
  have found : ∀ claim, (Except.ok sampleClaim : Except ApiError NodeClaim) = .ok claim →
      some sampleClaim = some claim ∧ claim.name = "c" := by
    rintro claim ⟨⟩
    exact ⟨rfl, rfl⟩
  refine step (Call.getClaim "c") (Except.ok sampleClaim)
    ⟨answers_logged ⟨rfl, found⟩ ⟨rfl, rfl⟩, fun _ => trivial⟩ ?_
  refine step Call.now (0 : Nat) ⟨answers_logged ⟨rfl, rfl⟩ ⟨rfl, rfl⟩, ?_⟩ ?_
  · nofun
  refine step (Call.getNodeClass "n") (Except.ok sampleClass)
    ⟨answers_logged rfl ⟨rfl, rfl⟩, fun _ => trivial⟩ ?_
  refine step Call.getNamespaceUID (Except.ok "x")
    ⟨answers_logged rfl ⟨rfl, rfl⟩, fun _ => trivial⟩ ?_
  refine step (Call.vpcClient "r") (Except.ok ())
    ⟨answers_logged rfl ⟨rfl, rfl⟩, fun _ => trivial⟩ ?_
  refine step (Call.buildVolumeAttachments sampleClass "karpenter-d" "z") (Except.ok ())
    ⟨answers_logged rfl ⟨rfl, rfl⟩, fun _ => trivial⟩ ?_
  simp only [instanceCloudTags_sample]
  refine step (Call.newInstancePrototype "i" "z") (Except.ok ())
    ⟨answers_logged rfl ⟨rfl, rfl⟩, fun _ => trivial⟩ ?_
  refine step (Call.bootstrapUserData sampleClass "c" "p") (Except.ok "b")
    ⟨answers_logged rfl ⟨rfl, rfl⟩, fun _ => trivial⟩ ?_
  refine step (Call.validateInstance _) (Except.ok ())
    ⟨answers_logged rfl ⟨rfl, rfl⟩, fun _ => trivial⟩ ?_
  refine step Call.resolveAccount (Except.ok "a")
    ⟨answers_logged rfl ⟨rfl, rfl⟩, fun _ => trivial⟩ ?_
  refine step (Call.getClaim "c") (Except.ok sampleClaim)
    ⟨answers_logged ⟨rfl, found⟩ ⟨rfl, rfl⟩, fun _ => trivial⟩ ?_
  refine step (Call.patchClaim _ _) (Except.ok (2 : Nat))
    ⟨answers_wrote sampleClaim ⟨rfl, rfl, rfl⟩, ?_⟩ ?_
  · nofun
  refine step (Call.listInstancesByName "karpenter-d") (Except.ok [])
    ⟨answers_logged rfl ⟨rfl, rfl, ?_⟩, fun _ => trivial⟩ ?_
  · nofun
  refine step Call.now (0 : Nat) ⟨answers_logged ⟨rfl, rfl⟩ ⟨rfl, rfl⟩, ?_⟩ ?_
  · rintro _ config listed ⟨⟩ sent
    cases sent
  refine step (Call.patchClaim _ _) (Except.ok (3 : Nat)) ⟨answers_wrote _ ⟨rfl, rfl, rfl⟩, ?_⟩ ?_
  · intro _ config claim made no
    exact absurd no (Nat.not_lt_zero _)
  refine step (Call.validateInstance _) (Except.ok ())
    ⟨answers_logged rfl ⟨rfl, rfl⟩, fun _ => trivial⟩ ?_
  refine step (Call.createInstance _) lostAnswer ⟨answers_requested, fun _ => trivial⟩ ?_
  refine .reached ⟨rfl, rfl, ⟨_, rfl, rfl, rfl, rfl, launchOf_withLaunch _ sampleConfig⟩,
    rfl, ?_⟩
  intro request known
  rw [mem_singleton.mp known]
  exact fate_requested_self _ _ _ _

def sampleDeleted : NodeClaim :=
  { sampleClaim with
    resourceVersion := 4
    deletionTimestamp := some 1
    annotations := Finmap.singleton launchAnnotation (.launch sampleConfig)
    finalizers := [launchFinalizer] }

def Lost (world : Cloud) : Prop :=
  (∃ request ∈ world.sent, ∃ id, world.fate request = .live id) ∧
    ∀ claim, world.base.claim = some claim → launchFinalizer ∉ claim.finalizers

theorem reconcile_leads_to_leak (log : List Event) (fate : Request → Fate)
    (pending : fate sampleRequest = .pending) :
    Leads (launchSystem samplePlatform False) 1 (fun _ world => Lost world)
      (reconcile samplePlatform "c") ⟨⟨0, some sampleDeleted, 5, log⟩, [sampleRequest], fate⟩ := by
  have step := @Leads.step calls GoError (launchSystem samplePlatform False) 1
    (fun _ world => Lost world)
  have found : ∀ claim, (Except.ok sampleDeleted : Except ApiError NodeClaim) = .ok claim →
      some sampleDeleted = some claim ∧ claim.name = "c" := by
    rintro claim ⟨⟩
    exact ⟨rfl, rfl⟩
  refine step (Call.getClaim "c") (Except.ok sampleDeleted)
    ⟨answers_logged ⟨rfl, found⟩ ⟨rfl, rfl⟩, False.elim⟩ ?_
  refine step Call.getNamespaceUID (Except.ok "x") ⟨answers_logged rfl ⟨rfl, rfl⟩, False.elim⟩ ?_
  refine step (Call.vpcClient "r") (Except.ok ()) ⟨answers_logged rfl ⟨rfl, rfl⟩, False.elim⟩ ?_
  refine step Call.resolveAccount (Except.ok "a") ⟨answers_logged rfl ⟨rfl, rfl⟩, False.elim⟩ ?_
  refine step Call.getNamespaceUID (Except.ok "x") ⟨answers_logged rfl ⟨rfl, rfl⟩, False.elim⟩ ?_
  refine step (Call.vpcClient "r") (Except.ok ()) ⟨answers_logged rfl ⟨rfl, rfl⟩, False.elim⟩ ?_
  refine step Call.resolveAccount (Except.ok "a") ⟨answers_logged rfl ⟨rfl, rfl⟩, False.elim⟩ ?_
  refine step (Call.vpcClient "r") (Except.ok ()) ⟨answers_logged rfl ⟨rfl, rfl⟩, False.elim⟩ ?_
  refine step (Call.listInstancesByName "karpenter-d") (Except.ok [])
    ⟨answers_logged rfl ⟨rfl, rfl, ?_⟩, False.elim⟩ ?_
  · intro instances _ request known config id own named living
    rw [mem_singleton.mp known] at living
    cases pending.symm.trans living
  -- The request is accepted, and then the window closes, before the clock is read.
  refine .outside ⟨.accepted sampleRequest mem_cons_self pending ?_ "w" ?_, False.elim⟩ ?_
  · intro config own
    exact Nat.zero_le _
  · intro request known accepted
    rw [mem_singleton.mp known] at accepted
    rcases accepted with living | gone
    · cases pending.symm.trans living
    · cases pending.symm.trans gone
  refine .outside
    ⟨.store _ (.passes (launchResolutionWindow + 1) (Nat.zero_le _)) ?_, False.elim⟩ ?_
  · intro before after held kept
    cases held.symm.trans kept
    exact .inl rfl
  refine step Call.now (launchResolutionWindow + 1)
    ⟨answers_logged ⟨rfl, rfl⟩ ⟨rfl, rfl⟩, False.elim⟩ ?_
  refine step (Call.patchClaim _ _) (Except.ok (5 : Nat))
    ⟨answers_wrote sampleDeleted ⟨rfl, rfl, rfl⟩, False.elim⟩ ?_
  have living : update fate sampleRequest (.live "w") sampleRequest = .live "w" := by simp
  refine .reached ⟨⟨sampleRequest, mem_cons_self, "w", living⟩, ?_⟩
  rintro claim ⟨⟩
  change launchFinalizer ∉ removeFinalizer [launchFinalizer] launchFinalizer
  decide

theorem sampleCloud_initial (careful : Prop) : Config.Initial
      (⟨sampleCloud, fun _ => .unused⟩ : Config (launchSystem samplePlatform careful)) := by
  refine ⟨⟨sampleWorld_fresh, rfl, ?_⟩, fun _ => rfl⟩
  rintro claim ⟨⟩
  rfl

theorem careful_runs_do_not_leak_sample :
    ∃ config : Config (launchSystem samplePlatform True), config.Reachable ∧
      Outstanding config ∧ NoLeak config := by
  obtain ⟨final, last, underWay, steps⟩ := (sample_leads_to_request True).started
    (.inl ⟨sampleClaim, [sampleType], rfl⟩) (fun _ => .unused) rfl
  have reachable : Config.Reachable (⟨last, update (fun _ => .unused) 0 (.running final)⟩ :
        Config (launchSystem samplePlatform True)) :=
    ⟨_, sampleCloud_initial True, steps⟩
  have known : sampleRequest ∈ last.sent := by
    rw [underWay.sent]
    exact mem_singleton_self _
  refine ⟨_, reachable, .pending sampleRequest known (underWay.fate _ known) ?_,
    careful_runs_do_not_leak samplePlatform _ reachable⟩
  intro config own
  rw [underWay.now]
  exact Nat.zero_le _

/-- The list of a reconcile is answered inside the window, the request is accepted,
the window closes, and the clock is read: the finalizer goes while the instance lives. -/
theorem window_closes_between_list_and_clock :
    ∃ config : Config (launchSystem samplePlatform False), config.Reachable ∧ ¬ NoLeak config := by
  obtain ⟨first, sent, underWay, toRequest⟩ := (sample_leads_to_request False).started
    (.inl ⟨sampleClaim, [sampleType], rfl⟩) (fun _ => .unused) rfl
  obtain ⟨now, version, ⟨claim, present, name, uid, unbound, launched⟩, requests, fate⟩ := underWay
  obtain ⟨⟨time, stored, nextVersion, log⟩, requested, fates⟩ := sent
  dsimp only at now version present requests fate
  subst now version present requests
  have touches : Touches claim sampleDeleted 4 :=
    ⟨rfl, name.symm, uid.symm, launched.symm, fun _ => mem_singleton_self _,
      by simp [sampleDeleted]⟩
  have deletion : Config.Step (⟨⟨⟨0, some claim, 4, log⟩, [sampleRequest], fates⟩,
        update (fun _ => .unused) 0 (.running first)⟩ :
        Config (launchSystem samplePlatform False))
      ⟨⟨⟨0, some sampleDeleted, 5, log⟩, [sampleRequest], fates⟩,
        update (fun _ => .unused) 0 (.running first)⟩ := by
    refine .environment _ _ ⟨.store _ (.touched claim sampleDeleted rfl touches) ?_, False.elim⟩
    rintro before after ⟨⟩ kept
    cases kept
    exact .inl unbound.symm
  obtain ⟨second, last, ⟨⟨request, known, id, living⟩, released⟩, toLeak⟩ :=
    (reconcile_leads_to_leak log fates (fate _ (mem_singleton_self _))).started
      (.inr ⟨"c", rfl⟩) (update (fun _ => .unused) 0 (.running first)) rfl
  refine ⟨_, ⟨_, sampleCloud_initial False, (toRequest.tail deletion).trans toLeak⟩, ?_⟩
  intro safe
  obtain ⟨claim, present, guarded⟩ := safe (.live request known id living)
  exact released claim present guarded

end KarpenterIBM.NoLeak
