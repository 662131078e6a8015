import KarpenterIBM.VPC.Cloud

/-!
# The invariant behind the launch finalizer

An instance that exists for the claim, or a request that may still produce one, belongs to the
checkpoint stored on the claim, and the claim carries the launch finalizer.
-/

namespace KarpenterIBM.LeakInvariant

open AtMostOnce Calls ClaimStore Errors LaunchCloud LaunchConformance LaunchProtocol List
open Function
open Objects VPCLaunch

/-! ## The invariant -/

inductive Pressing (world : Cloud) (phases : Nat → Phase) (config : LaunchConfig) : Prop where
  | live (request : Request) (sent : request ∈ world.sent) (own : request.config = some config)
      (id : String) (living : world.fate request = .live id)
  | pending (request : Request) (sent : request ∈ world.sent)
      (own : request.config = some config) (waiting : world.fate request = .pending)
      (within : world.base.now ≤ deadline config)
  | allowed (pid : Nat) (stage : (phases pid).stage = .submitted config)
      (within : world.base.now ≤ deadline config)

def Covered (world : Cloud) (config : LaunchConfig) : Prop :=
  ∃ claim, world.base.claim = some claim ∧ launchOf claim = .launch config ∧
    launchFinalizer ∈ claim.finalizers

structure Accounted (world : Cloud) (phases : Nat → Phase) : Prop where
  requested : ∀ request ∈ world.sent, world.fate request ≠ .dead →
    ∃ config, request.config = some config ∧ request.name = config.name ∧
      (phases request.pid).stage = .sent config
  single : ∀ first ∈ world.sent, ∀ second ∈ world.sent, first.pid = second.pid → first = second
  unsent : ∀ pid, BeforeRequest (phases pid).stage →
    ∀ request ∈ world.sent, request.pid ≠ pid
  stored : ∀ pid config, (phases pid).stage = .submitted config →
    submittedBy pid world.base.log = some config
  unstored : ∀ pid, ((phases pid).stage = .idle ∨ ∃ config, (phases pid).stage = .prepared config) →
    submittedBy pid world.base.log = none
  covered : ∀ config, Pressing world phases config → Covered world config
  published : ∀ claim, world.base.claim = some claim → claim.providerID ≠ "" →
    ∃ request config, world.Names claim.providerID request ∧ request.config = some config ∧
      world.base.launch = .launch config

/-- A request accepted as this instance belongs to the stored checkpoint. -/
def Cloud.Holds (world : Cloud) (fate : Fate → Prop) : Prop :=
  ∃ request ∈ world.sent, fate (world.fate request) ∧
    ∃ config, request.config = some config ∧ world.base.launch = .launch config

def Phase.Concerns (phase : Phase) (id : String) : Prop :=
  phase.found = some id ∨ ∃ claim, phase.copy = .read claim ∧ claim.providerID ≠ "" ∧
    extractInstanceIDFromProviderID claim.providerID = id

structure Evidence (world : Cloud) (pid : Nat) (phase : Phase) : Prop where
  listed : ∀ name, phase.absent = some name →
    ∃ time, lastListing pid world.base.log = some time ∧ time ≤ world.base.now ∧
      ∀ request ∈ world.sent, ∀ config id, request.config = some config → request.name = name →
        world.fate request = .live id → time ≤ deadline config
  timely : ∀ name time config, phase.absent = some name → phase.clock = some time →
    world.base.Current phase.copy → world.base.launch = .launch config →
      config.submitted = true → deadline config < time →
        ∀ listed, lastListing pid world.base.log = some listed → deadline config < listed
  found : ∀ id, phase.found = some id → world.base.Current phase.copy →
    Cloud.Holds world fun fate => fate.Accepted id
  gone : ∀ id, phase.gone = some id → Phase.Concerns phase id → world.base.Current phase.copy →
    Cloud.Holds world fun fate => fate = .gone id

structure Safe (world : Cloud) (phases : Nat → Phase) : Prop where
  ordered : Ordered world.base phases
  accounted : Accounted world phases
  evidence : ∀ pid, Evidence world pid (phases pid)

variable {config : LaunchConfig}

theorem launch_of_covered {world : Cloud} (covered : Covered world config) :
    world.base.launch = .launch config := by
  obtain ⟨claim, found, made, _⟩ := covered
  unfold World.launch
  rw [found]
  exact made

section
variable {world : Cloud} {phases : Nat → Phase}

theorem active_of_request (accounted : Accounted world phases) {request : Request}
    (sent : request ∈ world.sent) (alive : world.fate request ≠ .dead)
    (own : request.config = some config) :
    (phases request.pid).stage = .sent config ∧ request.name = config.name := by
  obtain ⟨other, stored, name, stage⟩ := accounted.requested request sent alive
  cases own.symm.trans stored
  exact ⟨stage, name⟩

theorem request_unique (safe : Safe world phases) {first second : Request}
    (firstSent : first ∈ world.sent) (secondSent : second ∈ world.sent)
    (firstAlive : world.fate first ≠ .dead) (secondAlive : world.fate second ≠ .dead)
    (firstOwn : first.config = some config) (secondOwn : second.config = some config) :
    first = second := by
  have firstStage := (active_of_request safe.accounted firstSent firstAlive firstOwn).1
  have secondStage := (active_of_request safe.accounted secondSent secondAlive secondOwn).1
  refine safe.accounted.single first firstSent second secondSent ?_
  refine safe.ordered.distinct first.pid second.pid config config ?_ ?_ rfl
  · rw [firstStage]
    rfl
  · rw [secondStage]
    rfl

theorem pressing_active (safe : Safe world phases) (pressing : Pressing world phases config) :
    ∃ pid, (phases pid).stage.active = some config ∧
      ((phases pid).stage = .sent config ∨ (phases pid).stage = .submitted config) := by
  cases pressing with
  | live request sent own id living =>
    have stage := (active_of_request safe.accounted sent (by rw [living]; simp) own).1
    exact ⟨request.pid, by rw [stage]; rfl, .inl stage⟩
  | pending request sent own waiting within =>
    have stage := (active_of_request safe.accounted sent (by rw [waiting]; simp) own).1
    exact ⟨request.pid, by rw [stage]; rfl, .inl stage⟩
  | allowed pid stage within => exact ⟨pid, by rw [stage]; rfl, .inr stage⟩

end

/-! ## What survives the steps of others -/

structure Evolves (world next : Cloud) : Prop where
  now : world.base.now ≤ next.base.now
  sent : ∀ request ∈ world.sent, request ∈ next.sent
  accepted : ∀ request ∈ world.sent, ∀ id, (world.fate request).Accepted id →
    (next.fate request).Accepted id
  gone : ∀ request ∈ world.sent, ∀ id, world.fate request = .gone id →
    next.fate request = .gone id
  live : ∀ request ∈ next.sent, ∀ id, next.fate request = .live id →
    (request ∈ world.sent ∧ world.fate request = .live id) ∨ request.Open next.base.now

theorem Evolves.rebased (world : Cloud) {base : World} (now : world.base.now ≤ base.now) :
    Evolves world { world with base := base } :=
  ⟨now, fun _ sent => sent, fun _ _ _ held => held, fun _ _ _ held => held,
    fun _ sent _ living => .inl ⟨sent, living⟩⟩

theorem Pressing.rebased {world : Cloud} {base : World} {phases others : Nat → Phase}
    (pressing : Pressing { world with base := base } others config)
    (now : world.base.now ≤ base.now)
    (allowed : ∀ pid, (others pid).stage = .submitted config →
      ∃ owner, (phases owner).stage = .submitted config) : Pressing world phases config := by
  cases pressing with
  | live request sent own id living => exact .live request sent own id living
  | pending request sent own waiting within =>
    exact .pending request sent own waiting (now.trans within)
  | allowed pid stage within =>
    obtain ⟨owner, submitted⟩ := allowed pid stage
    exact .allowed owner submitted (now.trans within)

def Retains (world next : Cloud) (copy : Copy) : Prop :=
  next.base.Current copy →
    world.base.Current copy ∧ next.base.launch = world.base.launch

theorem holds_evolves {world next : Cloud} {before after : Fate → Prop}
    (keeps : ∀ request ∈ world.sent, before (world.fate request) → after (next.fate request))
    (sent : ∀ request ∈ world.sent, request ∈ next.sent)
    (launch : next.base.launch = world.base.launch) (holds : Cloud.Holds world before) :
    Cloud.Holds next after := by
  obtain ⟨request, known, fate, config, own, made⟩ := holds
  exact ⟨request, sent request known, keeps request known fate, config, own, launch.trans made⟩

theorem Evidence.evolves {world next : Cloud} {pid : Nat} {phase : Phase}
    (evidence : Evidence world pid phase) (evolves : Evolves world next)
    (retains : Retains world next phase.copy)
    (listing : lastListing pid next.base.log = lastListing pid world.base.log) :
    Evidence next pid phase := by
  refine ⟨?_, ?_, ?_, ?_⟩
  · intro name absent
    obtain ⟨time, listed, past, bounded⟩ := evidence.listed name absent
    refine ⟨time, listing.trans listed, past.trans evolves.now, ?_⟩
    intro request sent config id own named living
    rcases evolves.live request sent id living with ⟨before, lived⟩ | isOpen
    · exact bounded request before config id own named lived
    · exact (past.trans evolves.now).trans (isOpen config own)
  · intro name time config absent clock current made submitted late listed answered
    obtain ⟨was, same⟩ := retains current
    exact evidence.timely name time config absent clock was (same.symm.trans made) submitted
      late listed (listing.symm.trans answered)
  · intro id known current
    obtain ⟨was, same⟩ := retains current
    exact holds_evolves (fun request sent held => evolves.accepted request sent id held)
      evolves.sent same (evidence.found id known was)
  · intro id known concerns current
    obtain ⟨was, same⟩ := retains current
    exact holds_evolves (fun request sent held => evolves.gone request sent id held)
      evolves.sent same (evidence.gone id known concerns was)

theorem evidence_blank {world : Cloud} {pid : Nat} {phase : Phase} (absent : phase.absent = none)
    (found : phase.found = none) (gone : phase.gone = none) : Evidence world pid phase := by
  refine ⟨?_, ?_, ?_, ?_⟩
  · intro name no
    cases absent.symm.trans no
  · intro name time config no
    cases absent.symm.trans no
  · intro id no
    cases found.symm.trans no
  intro id no
  cases gone.symm.trans no

theorem latest_cons {α : Type} (read : Event → Option α) (pid : Nat) (event : Event)
    (log : List Event) (silent : event.pid ≠ pid ∨ read event = none) :
    (event :: log).findSome? (fun event => if event.pid = pid then read event else none) =
      log.findSome? fun event => if event.pid = pid then read event else none := by
  refine List.findSome?_cons_of_isNone ?_
  rcases silent with other | silent
  · rw [if_neg other]
    rfl
  rw [silent, ite_self]
  rfl

theorem lastListing_cons (pid : Nat) (event : Event) (log : List Event)
    (silent : event.pid ≠ pid ∨ listingTime event = none) :
    lastListing pid (event :: log) = lastListing pid log :=
  latest_cons listingTime pid event log silent

theorem submittedBy_cons (pid : Nat) (event : Event) (log : List Event)
    (silent : event.pid ≠ pid ∨ storedBy event = none) :
    submittedBy pid (event :: log) = submittedBy pid log :=
  latest_cons storedBy pid event log silent

/-! ## Calls that neither write the claim nor send a request -/

def Cloud.logged (world : Cloud) (event : Event) : Cloud :=
  { world with base := { world.base with log := event :: world.base.log } }

def Early (stage : Stage) : Prop :=
  stage = .idle ∨ ∃ config, stage = .prepared config

structure Settles (before after : Stage) : Prop where
  sent : ∀ config, before = .sent config → after = .sent config
  unsent : BeforeRequest after → BeforeRequest before
  submitted : ∀ config, after = .submitted config → before = .submitted config
  early : Early after → Early before

theorem Settles.refl (stage : Stage) : Settles stage stage :=
  ⟨fun _ same => same, id, fun _ same => same, id⟩

theorem settles_afterValidation (answer : Except ApiError Unit) (stage : Stage) :
    Settles stage (stage.afterValidation answer) := by
  cases stage with
  | submitted config =>
    cases answer with
    | ok _ => exact Settles.refl _
    | error error =>
      refine ⟨nofun, False.elim, nofun, ?_⟩
      rintro (⟨⟨⟩⟩ | ⟨_, ⟨⟩⟩)
  | _ => exact Settles.refl _

section
variable {world : Cloud} {phases : Nat → Phase} {event : Event} {moved : Phase}

theorem pressing_silent (settles : Settles (phases event.pid).stage moved.stage)
    (pressing : Pressing (Cloud.logged world event)
      (update phases event.pid moved) config) : Pressing world phases config := by
  refine pressing.rebased (le_refl _) ?_
  intro pid stage
  by_cases same : pid = event.pid
  · rw [same, update_self] at stage
    exact ⟨event.pid, settles.submitted config stage⟩
  · rw [update_of_ne same] at stage
    exact ⟨pid, stage⟩

theorem accounted_silent (accounted : Accounted world phases)
    (settles : Settles (phases event.pid).stage moved.stage)
    (unstored : storedBy event = none) :
    Accounted (Cloud.logged world event) (update phases event.pid moved) where
  requested := by
    intro request sent alive
    obtain ⟨config, own, name, stage⟩ := accounted.requested request sent alive
    refine ⟨config, own, name, ?_⟩
    by_cases same : request.pid = event.pid
    · rw [same, update_self]
      rw [same] at stage
      exact settles.sent config stage
    · rw [update_of_ne same]
      exact stage
  single := accounted.single
  unsent := by
    intro pid unsent
    by_cases same : pid = event.pid
    · rw [same, update_self] at unsent
      rw [same]
      exact accounted.unsent event.pid (settles.unsent unsent)
    · rw [update_of_ne same] at unsent
      exact accounted.unsent pid unsent
  stored := by
    intro pid config stage
    refine (submittedBy_cons pid event _ (.inr unstored)).trans ?_
    by_cases same : pid = event.pid
    · rw [same, update_self] at stage
      rw [same]
      exact accounted.stored event.pid config (settles.submitted config stage)
    · rw [update_of_ne same] at stage
      exact accounted.stored pid config stage
  unstored := by
    intro pid early
    refine (submittedBy_cons pid event _ (.inr unstored)).trans ?_
    by_cases same : pid = event.pid
    · rw [same, update_self] at early
      rw [same]
      exact accounted.unstored event.pid (settles.early early)
    · rw [update_of_ne same] at early
      exact accounted.unstored pid early
  covered := fun config pressing => accounted.covered config (pressing_silent settles pressing)
  published := accounted.published

theorem Evidence.logged {pid : Nat} {phase : Phase} (evidence : Evidence world pid phase)
    (silent : event.pid ≠ pid ∨ listingTime event = none) :
    Evidence (Cloud.logged world event) pid phase :=
  evidence.evolves (Evolves.rebased world (le_refl _)) (fun current => ⟨current, rfl⟩)
    (lastListing_cons pid event _ silent)

theorem evidence_silent (evidence : ∀ pid, Evidence world pid (phases pid))
    (own : Evidence (Cloud.logged world event) event.pid moved) (pid : Nat) :
    Evidence (Cloud.logged world event) pid (update phases event.pid moved pid) := by
  by_cases same : pid = event.pid
  · rw [same, update_self]
    exact own
  rw [update_of_ne same]
  exact (evidence pid).logged (.inl (Ne.symm same))

section
variable (evidence : Evidence world event.pid (phases event.pid))
  (unlisted : listingTime event = none)

include evidence unlisted

theorem evidence_unmoved (absent : moved.absent = (phases event.pid).absent)
    (clock : moved.clock = (phases event.pid).clock) (copy : moved.copy = (phases event.pid).copy)
    (found : moved.found = (phases event.pid).found) (gone : moved.gone = (phases event.pid).gone) :
    Evidence (Cloud.logged world event) event.pid moved := by
  have kept := evidence.logged (.inr unlisted)
  refine ⟨?_, ?_, ?_, ?_⟩
  · rw [absent]
    exact kept.listed
  · rw [absent, clock, copy]
    exact kept.timely
  · rw [found, copy]
    exact kept.found
  unfold Phase.Concerns
  rw [gone, found, copy]
  exact kept.gone

theorem evidence_now (careful : world.Careful event.pid .now) :
    Evidence (Cloud.logged world event) event.pid
      { phases event.pid with clock := some world.base.now } := by
  refine { evidence.logged (.inr unlisted) with timely := ?_ }
  rintro name time config absent ⟨⟩ current made sent late listed answered
  by_contra early
  have before := (lastListing_cons event.pid event world.base.log (.inr unlisted)).symm.trans
    answered
  have bounded := careful config listed made sent before (Nat.le_of_not_lt early)
  omega

end

theorem lastListing_self (event : Event) (log : List Event) {time : Nat}
    (listing : listingTime event = some time) :
    lastListing event.pid (event :: log) = some time := by
  rw [lastListing, List.findSome?_cons, if_pos rfl, listing]

theorem evidence_list {name : String} {instances : List Instance}
    (listing : listingTime event = some world.base.now)
    (complete : ∀ request ∈ world.sent, ∀ config id, request.config = some config →
      request.name = name → world.fate request = .live id → deadline config < world.base.now →
        ∃ listed ∈ instances, listed.name = some name) :
    Evidence (Cloud.logged world event) event.pid
      ((phases event.pid).next (.listInstancesByName name) (.ok instances)) := by
  refine ⟨?_, ?_, ?_, ?_⟩
  · intro asked absent
    change (if nameAbsent name instances = true then some name else none) = some asked at absent
    split at absent
    · rename_i nothing
      cases absent
      refine ⟨world.base.now, lastListing_self event _ listing, le_refl _, ?_⟩
      intro request sent config id own named living
      by_contra late
      obtain ⟨listed, found, same⟩ :=
        complete request sent config id own named living (Nat.lt_of_not_le late)
      have missing := all_eq_true.mp nothing listed found
      simp [same] at missing
    · cases absent
  · rintro asked time config absent ⟨⟩
  · nofun
  · nofun

theorem problemStatus_of_isNotFound {error : GoError} (sdk : SDKError error)
    (notFound : isNotFound (.wrap "getting instance: " error "") = true) :
    problemStatus error = some 404 := by
  cases error with
  | httpProblem text response =>
    cases response with
    | none => cases notFound
    | some response =>
      have parsed : (parseErrorResponse
          (.wrap "getting instance: " (.httpProblem text (some response)) "")
          response).isNotFound = true := notFound
      rw [IBMError.isNotFound, Bool.or_eq_true, decide_eq_true_iff, decide_eq_true_iff] at parsed
      rcases parsed with typed | status
      · change typeOfStatus response.statusCode = .notFound at typed
        unfold typeOfStatus at typed
        by_cases missing : response.statusCode = 404
        · exact congrArg some missing
        · rw [if_neg missing] at typed
          split_ifs at typed
      · exact congrArg some status
  | sdkProblem text => cases notFound
  | _ => exact sdk.elim

theorem holds_gone (world : Cloud) {id : String}
    (missing : ∀ request ∈ world.sent, world.fate request ≠ .live id)
    (holds : Cloud.Holds world fun fate => fate.Accepted id) :
    Cloud.Holds world fun fate => fate = .gone id := by
  obtain ⟨request, sent, accepted, own⟩ := holds
  rcases accepted with living | gone
  · exact absurd living (missing request sent)
  · exact ⟨request, sent, gone, own⟩

theorem holds_published (safe : Safe world phases) {pid : Nat} {claim : NodeClaim}
    (copy : (phases pid).copy = .read claim) (bound : claim.providerID ≠ "")
    (current : world.base.Current (phases pid).copy) :
    Cloud.Holds world fun fate =>
      fate.Accepted (extractInstanceIDFromProviderID claim.providerID) := by
  obtain ⟨stored, held, found, copied, version⟩ := current
  rw [copy] at copied
  cases copied
  have same := (safe.ordered.consistent pid).whole claim stored copy found version
  rw [same] at found
  obtain ⟨request, config, ⟨sent, accepted⟩, own, made⟩ :=
    safe.accounted.published claim found bound
  exact ⟨request, sent, accepted, config, own, made⟩

theorem evidence_getInstance (safe : Safe world phases) {id : String}
    {answer : Except ApiError Instance} (unlisted : listingTime event = none)
    (found : ∀ instance?, answer = .ok instance? → instance?.id = some id ∧
      ∃ request ∈ world.sent, world.fate request = .live id)
    (missing : ∀ error, answer = .error error → SDKError error.val ∧
      (problemStatus error.val = some 404 →
        ∀ request ∈ world.sent, world.fate request ≠ .live id)) :
    Evidence (Cloud.logged world event) event.pid
      ((phases event.pid).next (.getInstance id) answer) := by
  have kept := (safe.evidence event.pid).logged (.inr unlisted)
  cases answer with
  | ok current =>
    obtain ⟨same, request, sent, living⟩ := found current rfl
    refine { kept with found := ?_, gone := nofun }
    intro read known _
    cases same.symm.trans known
    obtain ⟨config, own, _, _⟩ := safe.accounted.requested request sent (by rw [living]; simp)
    have covered := safe.accounted.covered config (.live request sent own id living)
    exact ⟨request, sent, .inl living, config, own, launch_of_covered covered⟩
  | error error =>
    obtain ⟨sdk, absent⟩ := missing error rfl
    by_cases notFound : isNotFound (.wrap "getting instance: " error.val "") = true
    · rw [next_getInstance_gone notFound]
      have lost := absent (problemStatus_of_isNotFound sdk notFound)
      refine { kept with gone := ?_ }
      rintro read ⟨⟩ concerns current
      rcases concerns with found | ⟨claim, copy, bound, named⟩
      · exact holds_gone world lost ((safe.evidence event.pid).found id found current)
      · rw [← named] at lost ⊢
        exact holds_gone world lost (holds_published safe copy bound current)
    · have same : (phases event.pid).next (.getInstance id) (.error error) =
          phases event.pid := if_neg notFound
      rw [same]
      exact kept

end

/-! ## The request -/

variable {world : Cloud} {phases : Nat → Phase} {event : Event} {moved : Phase}
  {request : Request} {decided : Fate} {config : LaunchConfig}

/-- The world after a request was sent. -/
def Cloud.requested (world : Cloud) (event : Event) (request : Request) (decided : Fate) :
    Cloud where
  base := { world.base with log := event :: world.base.log }
  sent := request :: world.sent
  fate := update world.fate request decided

structure Requests (world : Cloud) (phases : Nat → Phase) (event : Event) (request : Request)
    (config : LaunchConfig) : Prop where
  pid : request.pid = event.pid
  own : request.config = some config
  name : request.name = config.name
  stage : (phases event.pid).stage = .submitted config

theorem fate_requested (decided : Fate) (accounted : Accounted world phases)
    (requests : Requests world phases event request config) (other : Request)
    (sent : other ∈ world.sent) :
    update world.fate request decided other = world.fate other := by
  refine update_of_ne ?_ _ _
  intro same
  have unsent := accounted.unsent event.pid (by rw [requests.stage]; trivial) other sent
  rw [same] at unsent
  exact unsent requests.pid

variable (accounted : Accounted world phases)
  (requests : Requests world phases event request config)
  (live : ∀ id, decided = .live id → request.Open world.base.now)

include accounted requests live

theorem evolves_requested : Evolves world (Cloud.requested world event request decided) where
  now := le_refl _
  sent := fun _ sent => mem_cons_of_mem _ sent
  accepted := by
    intro other sent id accepted
    change (update world.fate request decided other).Accepted id
    rw [fate_requested decided accounted requests other sent]
    exact accepted
  gone := by
    intro other sent id gone
    exact (fate_requested decided accounted requests other sent).trans gone
  live := by
    intro other sent id living
    rcases mem_cons.mp sent with newest | older
    · subst newest
      change update world.fate other decided other = .live id at living
      rw [update_self] at living
      exact .inr (live id living)
    · exact .inl ⟨older, (fate_requested decided accounted requests other older).symm.trans living⟩

theorem pressing_requested
    (after : moved.stage = .sent config ∨ moved.stage = .refused config) {pressed : LaunchConfig}
    (pressing : Pressing (Cloud.requested world event request decided)
      (update phases event.pid moved) pressed) : Pressing world phases pressed := by
  cases pressing with
  | live other sent own id living =>
    rcases mem_cons.mp sent with newest | older
    · subst newest
      change update world.fate other decided other = .live id at living
      rw [update_self] at living
      have isOpen := live id living config requests.own
      cases requests.own.symm.trans own
      exact .allowed event.pid requests.stage isOpen
    · exact .live other older own id
        ((fate_requested decided accounted requests other older).symm.trans living)
  | pending other sent own waiting within =>
    rcases mem_cons.mp sent with newest | older
    · subst newest
      cases requests.own.symm.trans own
      exact .allowed event.pid requests.stage within
    · exact .pending other older own
        ((fate_requested decided accounted requests other older).symm.trans waiting) within
  | allowed pid stage within =>
    by_cases same : pid = event.pid
    · rw [same, update_self] at stage
      rcases after with sent | refused
      · cases sent.symm.trans stage
      · cases refused.symm.trans stage
    · rw [update_of_ne same] at stage
      exact .allowed pid stage within

theorem accounted_requested
    (after : moved.stage = .sent config ∨ (moved.stage = .refused config ∧ decided = .dead))
    (unstored : storedBy event = none) :
    Accounted (Cloud.requested world event request decided) (update phases event.pid moved) where
  requested := by
    intro other sent alive
    rcases mem_cons.mp sent with newest | older
    · subst newest
      change update world.fate other decided other ≠ .dead at alive
      rw [update_self] at alive
      refine ⟨config, requests.own, requests.name, ?_⟩
      rw [requests.pid, update_self]
      rcases after with stage | ⟨_, dead⟩
      · exact stage
      · exact absurd dead alive
    · change update world.fate request decided other ≠ .dead at alive
      rw [fate_requested decided accounted requests other older] at alive
      have different := accounted.unsent event.pid (by rw [requests.stage]; trivial) other older
      rw [update_of_ne different]
      exact accounted.requested other older alive
  single := by
    intro first firstSent second secondSent same
    have fresh := accounted.unsent event.pid (by rw [requests.stage]; trivial)
    rcases mem_cons.mp firstSent with firstNew | firstOld
    · rcases mem_cons.mp secondSent with secondNew | secondOld
      · exact firstNew.trans secondNew.symm
      · rw [firstNew, requests.pid] at same
        exact absurd same.symm (fresh second secondOld)
    rcases mem_cons.mp secondSent with secondNew | secondOld
    · rw [secondNew, requests.pid] at same
      exact absurd same (fresh first firstOld)
    · exact accounted.single first firstOld second secondOld same
  unsent := by
    intro pid unsent other sent
    by_cases same : pid = event.pid
    · rw [same, update_self] at unsent
      rcases after with stage | ⟨stage, _⟩
      · rw [stage] at unsent
        exact unsent.elim
      · rw [stage] at unsent
        exact unsent.elim
    · rw [update_of_ne same] at unsent
      rcases mem_cons.mp sent with newest | older
      · rw [newest, requests.pid]
        exact Ne.symm same
      · exact accounted.unsent pid unsent other older
  stored := by
    intro pid other stage
    refine (submittedBy_cons pid event _ (.inr unstored)).trans ?_
    by_cases same : pid = event.pid
    · rw [same, update_self] at stage
      rcases after with sent | ⟨refused, _⟩
      · cases sent.symm.trans stage
      · cases refused.symm.trans stage
    · rw [update_of_ne same] at stage
      exact accounted.stored pid other stage
  unstored := by
    intro pid early
    refine (submittedBy_cons pid event _ (.inr unstored)).trans ?_
    by_cases same : pid = event.pid
    · rw [same, update_self] at early
      rcases after with stage | ⟨stage, _⟩ <;> rw [stage] at early <;>
        obtain ⟨⟨⟩⟩ | ⟨_, ⟨⟩⟩ := early
    · rw [update_of_ne same] at early
      exact accounted.unstored pid early
  covered := by
    intro pressed pressing
    refine accounted.covered pressed (pressing_requested accounted requests live ?_ pressing)
    rcases after with sent | ⟨refused, _⟩
    · exact .inl sent
    · exact .inr refused
  published := by
    intro claim found bound
    obtain ⟨other, owner, ⟨sent, accepted⟩, own, made⟩ := accounted.published claim found bound
    refine ⟨other, owner, ⟨mem_cons_of_mem _ sent, ?_⟩, own, made⟩
    change (update world.fate request decided other).Accepted _
    rw [fate_requested decided accounted requests other sent]
    exact accepted

end KarpenterIBM.LeakInvariant
