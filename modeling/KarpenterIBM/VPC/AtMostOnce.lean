import KarpenterIBM.VPC.ClaimStore
import KarpenterIBM.VPC.LaunchConformance

/-!
# A launch is sent at most once

Any number of `Create` attempts on one claim, interleaved, crashing after any step, with any
answers.
-/

namespace KarpenterIBM.AtMostOnce

open Calls ClaimStore EffectProgram Errors LaunchConformance LaunchProtocol List Objects Ownership
open Function
open VPCCreate VPCLaunch

/-! ## What the record of a run says -/

def problemStatus : GoError → Option Nat
  | .httpProblem _ (some response) => some response.statusCode
  | _ => none

def answeredStatus : CreateAnswer → Option Nat
  | .created _ => none
  | .failed error (some response) =>
    if 400 ≤ response.statusCode then some response.statusCode else problemStatus error.val
  | .failed error none => problemStatus error.val

def DefiniteStatus (status : Nat) : Prop :=
  400 ≤ status ∧ status < 500 ∧ status ≠ 408 ∧ status ≠ 409 ∧ status ≠ 429

def Refuses : calls.Exchange → Prop
  | ⟨.validateInstance _, answer⟩ => ∃ error, answer = .error error
  | ⟨.createInstance _, answer⟩ =>
    ∃ status, answeredStatus answer = some status ∧ DefiniteStatus status
  | _ => False

def isSend : calls.Exchange → Bool
  | ⟨.createInstance _, _⟩ => true
  | _ => false

def ListsNothing (name : String) : calls.Exchange → Prop
  | ⟨.listInstancesByName asked, answer⟩ =>
    asked = name ∧ ∃ instances, answer = .ok instances ∧ nameAbsent name instances = true
  | _ => False

def Stores (config : LaunchConfig) (event : Event) : Prop :=
  event.after = .launch config ∧
    ∃ stored patched version, event.exchange = ⟨.patchClaim stored patched, .ok version⟩

inductive Owns (pid : Nat) (config : LaunchConfig) : List Event → Prop where
  | stored (event : Event) (older : List Event) (own : event.pid = pid)
      (stores : Stores config event) : Owns pid config (event :: older)
  | kept (event : Event) (older : List Event) (after : event.after = .launch config)
      (owns : Owns pid config older) : Owns pid config (event :: older)

/-- The process stored this checkpoint, its own request was definitely refused, and
the checkpoint is still there. -/
inductive OwnRefusal (pid : Nat) (config : LaunchConfig) : List Event → Prop where
  | refused (event : Event) (older : List Event) (own : event.pid = pid)
      (refuses : Refuses event.exchange) (after : event.after = .launch config)
      (owns : Owns pid config older) : OwnRefusal pid config (event :: older)
  | kept (event : Event) (older : List Event) (after : event.after = .launch config)
      (refusal : OwnRefusal pid config older) : OwnRefusal pid config (event :: older)

inductive RefusalRecorded (config : LaunchConfig) : List Event → Prop where
  | marked (event : Event) (older : List Event)
      (before : event.before = .launch { config with rejected := false })
      (after : event.after = .launch config)
      (refusal : OwnRefusal event.pid { config with rejected := false } older) :
      RefusalRecorded config (event :: older)
  | kept (event : Event) (older : List Event) (recorded : RefusalRecorded config older) :
      RefusalRecorded config (event :: older)

/-- The grounds on which a submitted checkpoint may be removed or replaced: it is
marked by its owner, a recorded refusal, or it has expired and nothing is there. -/
inductive GivenUp (older : List Event) (event : Event) (config : LaunchConfig) : Prop where
  | marking (unrejected : config.rejected = false)
      (after : event.after = .launch { config with rejected := true })
      (refusal : OwnRefusal event.pid config older)
  | refused (rejected : config.rejected = true) (recorded : RefusalRecorded config older)
  | expired (late : config.submittedAt + launchResolutionWindow < event.time)
      (listing : Event) (earlier : listing ∈ older) (own : listing.pid = event.pid)
      (nothing : ListsNothing config.name listing.exchange)

/-- The checkpoint the record ends with. -/
def lastLaunch : List Event → Value
  | [] => .text ""
  | event :: _ => event.after

/-- What holds of each event and the record before it. -/
structure Lawful (older : List Event) (event : Event) : Prop where
  linked : event.before = lastLaunch older
  once : isSend event.exchange = true → ∀ earlier ∈ older,
    isSend earlier.exchange = true → earlier.pid ≠ event.pid
  stored : isSend event.exchange = true → ∃ config, config.submitted = true ∧
    ∃ earlier ∈ older, earlier.pid = event.pid ∧ Stores config earlier
  kept : ∀ config, event.before = .launch config → config.submitted = true →
    event.after ≠ event.before → GivenUp older event config

def History : List Event → Prop
  | [] => True
  | event :: older => Lawful older event ∧ History older

theorem lawful_of_history {newer : List Event} {event : Event} {older : List Event}
    (history : History (newer ++ event :: older)) : Lawful older event := by
  induction newer with
  | nil => exact history.1
  | cons later newer ih => exact ih history.2

/-! ## Refusals are definite -/

theorem definiteStatus_of_rejectedCreate (error : IBMError)
    (rejected : rejectedCreate error = true) : DefiniteStatus error.statusCode := by
  simpa [rejectedCreate, DefiniteStatus, and_assoc] using rejected

theorem refused_wrap {error : GoError} (sdk : SDKError error)
    (refused : definitelyRefused (.wrap "creating instance: " error "") = true) :
    ∃ status, problemStatus error = some status ∧ DefiniteStatus status := by
  cases error with
  | httpProblem text resp =>
    cases resp with
    | none => cases refused
    | some resp => exact ⟨resp.statusCode, rfl, definiteStatus_of_rejectedCreate _ refused⟩
  | sdkProblem text => cases refused
  | _ => exact sdk.elim

/-- With errors of the SDK, what `Create` takes for a refusal is one. -/
theorem definite_of_answerRefused {answer : CreateAnswer}
    (sdk : ∀ error resp, answer = .failed error resp → SDKError error.val)
    (refused : answerRefused answer = true) :
    ∃ status, answeredStatus answer = some status ∧ DefiniteStatus status := by
  cases answer with
  | created found => cases refused
  | failed error resp =>
    have problem := sdk error resp rfl
    cases resp with
    | none => exact refused_wrap problem refused
    | some resp =>
      by_cases large : 400 ≤ resp.statusCode
      · refine ⟨resp.statusCode, if_pos large, ?_⟩
        have out : createOutcome (.failed error (some resp)) =
            .error (.ibm (parseErrorResponse error.val resp) error.val) := if_pos large
        rw [answerRefused, out] at refused
        have unsent : isCreateInstanceNotSent
            (.ibm (parseErrorResponse error.val resp) error.val) = false := by
          have inner := isCreateInstanceNotSent_foreign error.property
          simpa [isCreateInstanceNotSent, errorsAs, GoError.chain, pickNotSent] using inner
        dsimp only at refused
        rw [definitelyRefused, unsent, Bool.false_or] at refused
        exact definiteStatus_of_rejectedCreate (parseErrorResponse error.val resp) refused
      · have out : createOutcome (.failed error (some resp)) =
            .error (.wrap "creating instance: " error.val "") := if_neg large
        rw [answerRefused, out] at refused
        obtain ⟨status, answered, definite⟩ := refused_wrap problem refused
        exact ⟨status, (if_neg large).trans answered, definite⟩

/-! ## The invariant of the record -/

def BeforeRequest : Stage → Prop
  | .idle | .prepared _ | .submitted _ => True
  | _ => False

structure Recorded (world : World) (phases : Nat → Phase) : Prop where
  linked : world.launch = lastLaunch world.log
  history : History world.log
  unsent : ∀ pid, BeforeRequest (phases pid).stage → ∀ event ∈ world.log,
    isSend event.exchange = true → event.pid ≠ pid
  stored : ∀ pid config, (phases pid).stage.active = some config →
    ∃ event ∈ world.log, event.pid = pid ∧ Stores config event
  owns : ∀ pid config, (phases pid).stage.active = some config → world.launch = .launch config →
    Owns pid config world.log
  refused : ∀ pid config, (phases pid).stage = .refused config → world.launch = .launch config →
    OwnRefusal pid config world.log
  rejected : ∀ config, world.launch = .launch config → config.rejected = true →
    RefusalRecorded config world.log
  listed : ∀ pid name, (phases pid).absent = some name →
    ∃ event ∈ world.log, event.pid = pid ∧ ListsNothing name event.exchange
  guarded : ∀ claim, world.claim = some claim → launchOf claim ≠ .text "" →
    launchFinalizer ∈ claim.finalizers

structure KeepsRecord (world served : World) (phases : Nat → Phase) (event : Event)
    (moved : Phase) : Prop where
  before : event.before = world.launch
  after : event.after = served.launch
  lawful : Lawful world.log event
  unsent : BeforeRequest moved.stage →
    BeforeRequest (phases event.pid).stage ∧ isSend event.exchange = false
  owns : ∀ config, moved.stage.active = some config →
    Stores config event ∨ ((phases event.pid).stage.active = some config ∧
      (served.launch = .launch config → world.launch = .launch config))
  refused : ∀ config, moved.stage = .refused config →
    (served.launch = .launch config → world.launch = .launch config) ∧
      ((phases event.pid).stage = .refused config ∨
        ((phases event.pid).stage.active = some config ∧ Refuses event.exchange))
  others : ∀ pid config, pid ≠ event.pid → (phases pid).stage.active = some config →
    served.launch = .launch config → world.launch = .launch config
  rejected : ∀ config, served.launch = .launch config → config.rejected = true →
    world.launch = .launch config ∨ RefusalRecorded config (event :: world.log)
  listed : ∀ name, moved.absent = some name →
    (phases event.pid).absent = some name ∨ ListsNothing name event.exchange
  guarded : ∀ claim, served.claim = some claim → launchOf claim ≠ .text "" →
    launchFinalizer ∈ claim.finalizers

section
variable {world served : World} {phases : Nat → Phase} {event : Event} {moved : Phase}

abbrev recording (world served : World) (event : Event) : World :=
  { served with log := event :: world.log }

variable (noted : Recorded world phases) (keeps : KeepsRecord world served phases event moved)

include noted keeps

theorem owns_of_keeps (pid : Nat) (config : LaunchConfig)
    (active : (update phases event.pid moved pid).stage.active = some config)
    (made : served.launch = .launch config) : Owns pid config (event :: world.log) := by
  have after := keeps.after.trans made
  by_cases same : pid = event.pid
  · rw [same, update_self] at active
    rw [same]
    rcases keeps.owns config active with stores | ⟨before, unchanged⟩
    · exact .stored event _ rfl stores
    · exact .kept event _ after (noted.owns _ config before (unchanged made))
  · rw [update_of_ne same] at active
    exact .kept event _ after
      (noted.owns pid config active (keeps.others pid config same active made))

theorem refused_of_keeps (pid : Nat) (config : LaunchConfig)
    (stage : (update phases event.pid moved pid).stage = .refused config)
    (made : served.launch = .launch config) : OwnRefusal pid config (event :: world.log) := by
  have after := keeps.after.trans made
  by_cases same : pid = event.pid
  · rw [same, update_self] at stage
    rw [same]
    obtain ⟨unchanged, before⟩ := keeps.refused config stage
    rcases before with refused | ⟨active, refuses⟩
    · exact .kept event _ after (noted.refused _ config refused (unchanged made))
    · exact .refused event _ rfl refuses after (noted.owns _ config active (unchanged made))
  · rw [update_of_ne same] at stage
    have active : (phases pid).stage.active = some config := congrArg Stage.active stage
    exact .kept event _ after
      (noted.refused pid config stage (keeps.others pid config same active made))

theorem recorded_of_keeps :
    Recorded (recording world served event) (update phases event.pid moved) where
  linked := keeps.after.symm
  history := ⟨keeps.lawful, noted.history⟩
  unsent := by
    intro pid unsent earlier logged sends
    by_cases same : pid = event.pid
    · rw [same, update_self] at unsent
      obtain ⟨before, silent⟩ := keeps.unsent unsent
      rcases mem_cons.mp logged with newest | older
      · rw [newest, silent] at sends
        cases sends
      · rw [same]
        exact noted.unsent _ before earlier older sends
    · rw [update_of_ne same] at unsent
      rcases mem_cons.mp logged with newest | older
      · rw [newest]
        exact Ne.symm same
      · exact noted.unsent pid unsent earlier older sends
  stored := by
    intro pid config active
    by_cases same : pid = event.pid
    · rw [same, update_self] at active
      rw [same]
      rcases keeps.owns config active with stores | ⟨before, _⟩
      · exact ⟨event, mem_cons_self, rfl, stores⟩
      · exact exists_mem_cons_of_exists (noted.stored _ config before)
    · rw [update_of_ne same] at active
      exact exists_mem_cons_of_exists (noted.stored pid config active)
  owns := fun pid config active made => owns_of_keeps noted keeps pid config active made
  refused := fun pid config stage made => refused_of_keeps noted keeps pid config stage made
  rejected := by
    intro config made rejected
    rcases keeps.rejected config made rejected with before | now
    · exact .kept event _ (noted.rejected config before rejected)
    · exact now
  listed := by
    intro pid name absent
    by_cases same : pid = event.pid
    · rw [same, update_self] at absent
      rw [same]
      rcases keeps.listed name absent with before | lists
      · exact exists_mem_cons_of_exists (noted.listed _ name before)
      · exact ⟨event, mem_cons_self, rfl, lists⟩
    · rw [update_of_ne same] at absent
      exact exists_mem_cons_of_exists (noted.listed pid name absent)
  guarded := keeps.guarded

end

/-! ## Steps that leave the checkpoint alone -/

structure Observes (phase moved : Phase) (exchange : calls.Exchange) : Prop where
  unsent : BeforeRequest moved.stage → BeforeRequest phase.stage ∧ isSend exchange = false
  active : ∀ config, moved.stage.active = some config → phase.stage.active = some config
  refused : ∀ config, moved.stage = .refused config → phase.stage = .refused config ∨
    (phase.stage.active = some config ∧ Refuses exchange)
  listed : ∀ name, moved.absent = some name →
    phase.absent = some name ∨ ListsNothing name exchange
  sends : isSend exchange = true → ∃ config, phase.stage = .submitted config

variable {moved : Phase}

theorem Observes.same {phase : Phase} {exchange : calls.Exchange}
    (stage : moved.stage = phase.stage) (silent : isSend exchange = false)
    (listed : ∀ name, moved.absent = some name →
      phase.absent = some name ∨ ListsNothing name exchange) : Observes phase moved exchange := by
  refine ⟨?_, ?_, ?_, listed, ?_⟩
  · intro unsent
    rw [stage] at unsent
    exact ⟨unsent, silent⟩
  · intro config active
    rwa [stage] at active
  · intro config refused
    rw [stage] at refused
    exact .inl refused
  intro sends
  cases silent.symm.trans sends

variable {config : LaunchConfig}

theorem observes_createInstance {phase : Phase} {proto : InstancePrototype} {answer : CreateAnswer}
    (stage : phase.stage = .submitted config)
    (sdk : ∀ error resp, answer = .failed error resp → SDKError error.val) :
    Observes phase (phase.next (.createInstance proto) answer) ⟨.createInstance proto, answer⟩ := by
  have after : (phase.next (.createInstance proto) answer).stage =
      if answerRefused answer then .refused config else .sent config := by
    change phase.stage.afterCreate answer = _
    rw [stage]
    rfl
  have active : phase.stage.active = some config := congrArg Stage.active stage
  refine ⟨?_, ?_, ?_, fun _ => .inl, fun _ => ⟨config, stage⟩⟩
  · intro unsent
    rw [after] at unsent
    split at unsent
    · exact unsent.elim
    · exact unsent.elim
  · intro other held
    change (phase.stage.afterCreate answer).active = some other at held
    rwa [active_afterCreate] at held
  · intro other refused
    rw [after] at refused
    split at refused
    · rename_i answered
      cases refused
      exact .inr ⟨active, definite_of_answerRefused sdk answered⟩
    · cases refused

section
variable (phase : Phase)

include phase

theorem observes_validateInstance (proto : InstancePrototype) (answer : Except ApiError Unit) :
    Observes phase (phase.next (.validateInstance proto) answer)
      ⟨.validateInstance proto, answer⟩ := by
  cases stage : phase.stage with
  | submitted config =>
    have active : phase.stage.active = some config := congrArg Stage.active stage
    cases answer with
    | ok _ =>
      refine Observes.same ?_ rfl fun _ => .inl
      change phase.stage.afterValidation (.ok ()) = phase.stage
      rw [stage]
      rfl
    | error error =>
      have after : (phase.next (.validateInstance proto) (.error error)).stage =
          .refused config := by
        change phase.stage.afterValidation (.error error) = _
        rw [stage]
        rfl
      refine ⟨?_, ?_, ?_, fun _ => .inl, ?_⟩
      · intro unsent
        rw [after] at unsent
        exact unsent.elim
      · intro other held
        rw [after] at held
        cases held
        exact active
      · intro other refused
        cases after.symm.trans refused
        exact .inr ⟨active, error, rfl⟩
      · nofun
  | _ =>
    refine Observes.same ?_ rfl fun _ => .inl
    change phase.stage.afterValidation answer = phase.stage
    rw [stage]
    rfl

theorem observes_listInstancesByName (name : String) (answer : Except ApiError (List Instance)) :
    Observes phase (phase.next (.listInstancesByName name) answer)
      ⟨.listInstancesByName name, answer⟩ := by
  cases answer with
  | error error => exact Observes.same rfl rfl fun _ => .inl
  | ok instances =>
    refine Observes.same rfl rfl ?_
    intro other absent
    change (if nameAbsent name instances = true then some name else none) = some other at absent
    split at absent
    · rename_i nothing
      cases absent
      exact .inr ⟨rfl, instances, rfl, nothing⟩
    · cases absent

theorem observes_getInstance (id : String) (answer : Except ApiError Instance) :
    Observes phase (phase.next (.getInstance id) answer) ⟨.getInstance id, answer⟩ := by
  cases answer with
  | ok found => exact Observes.same rfl rfl fun _ => .inl
  | error error =>
    simp only [Phase.next]
    split
    · exact Observes.same rfl rfl fun _ => .inl
    · exact Observes.same rfl rfl fun _ => .inl

theorem observes_getClaim (name : String) (answer : Except ApiError NodeClaim) :
    Observes phase (phase.next (.getClaim name) answer) ⟨.getClaim name, answer⟩ := by
  cases answer with
  | error error => exact Observes.same rfl rfl fun _ => .inl
  | ok claim =>
    refine Observes.same rfl rfl ?_
    rintro other ⟨⟩

theorem observes_refused (stored patched : NodeClaim) (error : ApiError) :
    Observes phase (phase.next (.patchClaim stored patched) (.error error))
      ⟨.patchClaim stored patched, .error error⟩ := by
  have follower := follower_refused ⟨0, none, 0, []⟩ phase stored patched error
  have after := afterWrite_error patched error phase.stage
  refine ⟨?_, follower.active, ?_, nofun, nofun⟩
  · intro unsent
    change BeforeRequest (phase.stage.afterWrite patched (.error error)) at unsent
    rcases after with done | ⟨own, _, kept⟩
    · rw [done] at unsent
      exact unsent.elim
    · rw [kept] at unsent
      exact unsent.elim
  · intro config refused
    rcases after with done | ⟨own, before, kept⟩
    · cases done.symm.trans refused
    · exact .inl (before.trans (kept.symm.trans refused))

end

variable {stage : Stage}

section
variable {releases : Prop} {world : World} {phases : Nat → Phase} {pid : Nat}

theorem keeps_observes (ordered : Ordered world phases) (noted : Recorded world phases) (op : Call)
    (answer : op.Answer) (observes : Observes (phases pid) moved ⟨op, answer⟩) :
    KeepsRecord world world phases (world.event world pid op answer) moved where
  before := rfl
  after := rfl
  lawful := by
    refine ⟨noted.linked, ?_, ?_, fun _ _ _ changed => absurd rfl changed⟩
    · intro sends earlier logged
      obtain ⟨config, stage⟩ := observes.sends sends
      exact noted.unsent pid (by rw [stage]; trivial) earlier logged
    intro sends
    obtain ⟨config, stage⟩ := observes.sends sends
    have active : (phases pid).stage.active = some config := congrArg Stage.active stage
    exact ⟨config, ((ordered.consistent pid).active config active).1,
      noted.stored pid config active⟩
  unsent := observes.unsent
  owns := fun config active => .inr ⟨observes.active config active, id⟩
  refused := fun config stage => ⟨id, observes.refused config stage⟩
  others := fun _ _ _ _ made => made
  rejected := fun _ made _ => .inl made
  listed := observes.listed
  guarded := noted.guarded

/-! ## Writes -/

variable {stored patched current : NodeClaim}

theorem givenUp_of_moves (ordered : Ordered world phases) (noted : Recorded world phases)
    (holds : (phases pid).copy.Holds stored) (moves : (phases pid).Moves False stored patched)
    (unlocked : world.Unlocked stored current) (event : Event) (own : event.pid = pid)
    (time : event.time = world.now) (after : event.after = launchOf patched)
    (config : LaunchConfig) (before : world.launch = .launch config)
    (sent : config.submitted = true) : GivenUp world.log event config := by
  have launch := launch_of_unlocked ordered holds unlocked
  have held := ordered.consistent pid
  rw [launch] at before
  cases moves with
  | prepares other move =>
    cases move.before.symm.trans before
  | submits other reading move =>
    cases move.before.symm.trans before
    have unsubmitted := (held.prepared config move.stage).1
    cases sent.symm.trans unsubmitted
  | marks other move =>
    cases move.before.symm.trans before
    have active : (phases pid).stage.active = some config := congrArg Stage.active move.stage
    refine .marking (held.active config active).2 (after.trans move.after) ?_
    rw [own]
    exact noted.refused pid config move.stage (launch.trans move.before)
  | resets other move =>
    cases move.before.symm.trans before
    cases move.abandons with
    | rejected rejected =>
      exact .refused rejected (noted.rejected config (launch.trans move.before) rejected)
    | unsubmitted unsubmitted =>
      cases sent.symm.trans unsubmitted
    | expired reading listed clock late =>
      have bounded := held.clock reading clock
      obtain ⟨listing, logged, same, nothing⟩ := noted.listed pid config.name listed
      exact .expired (by omega) listing logged (same.trans own.symm) nothing
  | releases allowed move => exact allowed.elim

theorem stores_of_write {launch : Value} (advances : Advances world phases pid launch moved.stage)
    (active : moved.stage.active = some config) : launch = .launch config := by
  have held := active_store advances pid config (by rwa [update_self])
  rcases held with ⟨other, _⟩ | ⟨_, made, _⟩
  · exact absurd rfl other
  · exact made

theorem others_of_advances {launch : Value} (ordered : Ordered world phases)
    (advances : Advances world phases pid launch stage) (other : Nat) (config : LaunchConfig)
    (active : (phases other).stage.active = some config) (made : launch = .launch config) :
    world.launch = .launch config := by
  obtain ⟨sent, unrejected⟩ := (ordered.consistent other).active config active
  cases advances with
  | prepares own stage idle before after unsubmitted inactive prepared =>
    cases after.symm.trans made
    cases sent.symm.trans unsubmitted
  | submits own stage idle after _ _ stamped later _ =>
    cases after.symm.trans made
    have earlier := later other config active
    omega
  | marks own marker before after =>
    cases after.symm.trans made
    cases unrejected
  | resets own idle before after lapsed =>
    cases after.symm.trans made
  | keeps idle same => exact same.symm.trans made

theorem rejected_of_moves (ordered : Ordered world phases) (noted : Recorded world phases)
    (holds : (phases pid).copy.Holds stored) (moves : (phases pid).Moves False stored patched)
    (unlocked : world.Unlocked stored current) (event : Event) (own : event.pid = pid)
    (before : event.before = world.launch) (after : event.after = launchOf patched)
    (config : LaunchConfig) (made : launchOf patched = .launch config)
    (rejected : config.rejected = true) : RefusalRecorded config (event :: world.log) := by
  have launch := launch_of_unlocked ordered holds unlocked
  have held := ordered.consistent pid
  cases moves with
  | prepares other move =>
    cases move.after.symm.trans made
    cases move.fresh.2.symm.trans rejected
  | submits other reading move =>
    have unrejected := (held.prepared other move.stage).2
    cases move.after.symm.trans made
    exact absurd rejected (by rw [unrejected]; exact Bool.false_ne_true)
  | marks other move =>
    have active : (phases pid).stage.active = some other := congrArg Stage.active move.stage
    have unrejected := (held.active other active).2
    have restored : { other with rejected := false } = other := by rw [← unrejected]
    have refusal := noted.refused pid other move.stage (launch.trans move.before)
    cases move.after.symm.trans made
    refine .marked event _ ?_ (after.trans move.after) ?_
    · rw [before, launch, move.before]
      exact congrArg Value.launch restored.symm
    rw [own]
    rw [← restored] at refusal
    exact refusal
  | resets other move =>
    cases move.after.symm.trans made
  | releases allowed move => exact allowed.elim

theorem guarded_of_moves (moves : (phases pid).Moves False stored patched)
    (made : launchOf patched ≠ .text "") : launchFinalizer ∈ patched.finalizers := by
  cases moves with
  | prepares other move | submits other reading move | marks other move => exact move.guarded
  | resets other move => exact absurd move.after made
  | releases allowed move => exact allowed.elim

theorem unsent_of_write {version : Nat}
    (unsent : BeforeRequest (stage.afterWrite patched (.ok version))) :
    BeforeRequest stage := by
  cases stage with
  | refused config | sent config | done => exact unsent.elim
  | _ => trivial

theorem write_not_refused {version : Nat} :
    stage.afterWrite patched (.ok version) ≠ .refused config := by
  intro refused
  cases stage with
  | idle =>
    simp only [Stage.afterWrite] at refused
    split at refused
    · split at refused <;> cases refused
    · cases refused
  | prepared own =>
    simp only [Stage.afterWrite] at refused
    split at refused <;> cases refused
  | _ => cases refused

theorem keeps_write (ordered : Ordered world phases) (noted : Recorded world phases)
    (holds : (phases pid).copy.Holds stored) (moves : (phases pid).Moves False stored patched)
    (unlocked : world.Unlocked stored current) (answer : Except ApiError Nat)
    (stage : ((phases pid).next (.patchClaim stored patched) answer).stage = .done ∨
      ∃ version, answer = .ok version) :
    KeepsRecord world (world.store current patched) phases
      (world.event (world.store current patched) pid (.patchClaim stored patched) answer)
      ((phases pid).next (.patchClaim stored patched) answer) := by
  have advances : Advances world phases pid (launchOf patched)
      ((phases pid).next (.patchClaim stored patched) answer).stage := by
    refine advances_of_moves ordered holds moves unlocked _ ?_
    rcases stage with done | ⟨version, answered⟩
    · exact .inl done
    · rw [answered]
      exact .inr ⟨version, rfl⟩
  refine ⟨rfl, rfl, ⟨noted.linked, ?_, ?_, ?_⟩, ?_, ?_, ?_, ?_, ?_, ?_, ?_⟩
  · nofun
  · nofun
  · intro config before sent _
    exact givenUp_of_moves ordered noted holds moves unlocked _ rfl rfl rfl config before sent
  · intro unsent
    rcases stage with done | ⟨version, answered⟩
    · rw [done] at unsent
      exact unsent.elim
    · rw [answered] at unsent
      exact ⟨unsent_of_write unsent, rfl⟩
  · intro config active
    refine .inl ⟨stores_of_write advances active, ?_⟩
    rcases stage with done | ⟨version, answered⟩
    · rw [done] at active
      cases active
    · rw [answered]
      exact ⟨stored, patched, version, rfl⟩
  · intro config refused
    rcases stage with done | ⟨version, answered⟩
    · cases done.symm.trans refused
    · rw [answered] at refused
      exact absurd refused write_not_refused
  · intro other config _ active made
    exact others_of_advances ordered advances other config active made
  · intro config made rejected
    exact .inr
      (rejected_of_moves ordered noted holds moves unlocked _ rfl rfl rfl config made rejected)
  · nofun
  · rintro claim ⟨⟩ made
    have guarded : launchFinalizer ∈ patched.finalizers := guarded_of_moves moves made
    exact guarded

/-! ## The run lemma -/

theorem recorded_patches {served : World} {answer : Except ApiError Nat}
    (ordered : Ordered world phases) (noted : Recorded world phases)
    (allowed : (phases pid).permits False (.patchClaim stored patched))
    (patches : world.Patches stored patched answer served) :
    Recorded (recording world served (world.event served pid (.patchClaim stored patched) answer))
      (update phases pid ((phases pid).next (.patchClaim stored patched) answer)) := by
  obtain ⟨holds, moves⟩ := allowed
  cases patches with
  | applied current unlocked =>
    exact recorded_of_keeps noted (keeps_write ordered noted holds moves unlocked _ (.inr ⟨_, rfl⟩))
  | lost current unlocked error unknown =>
    exact recorded_of_keeps noted (keeps_write ordered noted holds moves unlocked _
        (.inl (lost_stage patched _ unknown)))
  | refused error =>
    exact recorded_of_keeps noted
      (keeps_observes ordered noted _ _ (observes_refused _ stored patched error))

theorem recorded_answers {next : World} (op : Call) (answer : op.Answer)
    (ordered : Ordered world phases) (noted : Recorded world phases)
    (allowed : (phases pid).permits False op)
    (answers : world.Answers pid op answer next) :
    Recorded next (update phases pid ((phases pid).next op answer)) := by
  obtain ⟨served, serves, same⟩ := answers
  rw [same]
  have observed : ∀ (unchanged : served = world)
      (observes : Observes (phases pid) ((phases pid).next op answer) ⟨op, answer⟩),
      Recorded (recording world served (world.event served pid op answer))
        (update phases pid ((phases pid).next op answer)) := by
    intro unchanged observes
    rw [unchanged]
    exact recorded_of_keeps noted (keeps_observes ordered noted op answer observes)
  cases op with
  | patchClaim stored patched => exact recorded_patches ordered noted allowed serves
  | createInstance proto =>
    obtain ⟨config, stage, _⟩ := allowed
    exact observed serves.1 (observes_createInstance stage serves.2)
  | validateInstance proto => exact observed serves (observes_validateInstance _ _ _)
  | listInstancesByName name => exact observed serves (observes_listInstancesByName _ _ _)
  | getInstance id => exact observed serves (observes_getInstance _ _ _)
  | getClaim name => exact observed serves.1 (observes_getClaim _ _ _)
  | now => exact observed serves.2 (Observes.same rfl rfl fun _ => .inl)
  | _ => exact observed serves (Observes.same rfl rfl fun _ => .inl)

end

variable {world : World}

theorem recorded_initial (fresh : world.Fresh) : Recorded world (fun _ => Phase.start) := by
  refine ⟨?_, ?_, ?_, ?_, ?_, ?_, ?_, ?_, ?_⟩
  · rw [fresh.empty]
    exact fresh.unlaunched
  · rw [fresh.empty]
    trivial
  · intro pid _ event logged
    rw [fresh.empty] at logged
    cases logged
  · nofun
  · nofun
  · nofun
  · intro config made
    cases fresh.unlaunched.symm.trans made
  · nofun
  intro claim found made
  have blank := fresh.unlaunched
  unfold World.launch at blank
  rw [found] at blank
  exact absurd blank made

theorem Recorded.relaunch {moved : World} {phases : Nat → Phase} (noted : Recorded world phases)
    (log : moved.log = world.log) (launch : moved.launch = world.launch)
    (guarded : ∀ claim, moved.claim = some claim → launchOf claim ≠ .text "" →
      launchFinalizer ∈ claim.finalizers) : Recorded moved phases := by
  refine ⟨?_, ?_, ?_, ?_, ?_, ?_, ?_, ?_, guarded⟩
  all_goals
    try rw [log]
    try rw [launch]
  · exact noted.linked
  · exact noted.history
  · exact noted.unsent
  · exact noted.stored
  · exact noted.owns
  · exact noted.refused
  · exact noted.rejected
  · exact noted.listed

theorem recorded_outside {moved : World} {phases : Nat → Phase} (noted : Recorded world phases)
    (outside : world.Outside moved) : Recorded moved phases := by
  cases outside with
  | passes later after => exact noted.relaunch rfl rfl noted.guarded
  | touched current updated found touches =>
    refine noted.relaunch rfl ?_ ?_
    · unfold World.launch
      rw [found]
      exact touches.launch
    rintro claim ⟨⟩ made
    rw [touches.launch] at made
    exact touches.guarded (noted.guarded current found made)
  | removed current found terminating released =>
    -- An object without finalizers has no checkpoint left.
    have blank : launchOf current = .text "" := by
      by_contra made
      have guarded := noted.guarded current found made
      rw [released] at guarded
      cases guarded
    refine noted.relaunch rfl ?_ ?_
    · unfold World.launch
      rw [found]
      exact blank.symm
    · rintro claim ⟨⟩

/-- Any number of `Create` attempts on the claim. -/
def createSystem (platform : Platform) : System calls GoError where
  World := World
  initial := World.Fresh
  spawns program := ∃ claim instanceTypes,
    program = (create platform claim instanceTypes >>= fun _ => pure ())
  answers world pid op answer next := world.Answers pid op answer next
  crash world _ := world
  environment := World.Outside

def createCertificate (platform : Platform) :
    Certificate (createSystem platform) (launchProtocol False) where
  start := Phase.start
  crashed := id
  inv world phases := Ordered world phases ∧ Recorded world phases
  follows := by
    intro program spawned
    obtain ⟨claim, instanceTypes, same⟩ := spawned
    rw [same]
    exact Follows.bind (create_follows False platform claim instanceTypes)
      (fun _ _ _ => trivial) fun _ _ _ => trivial
  initial := fun _ fresh => ⟨ordered_initial fresh, recorded_initial fresh⟩
  answers := fun _ _ _ op answer _ holds permitted answered =>
    ⟨ordered_answers op answer holds.1 permitted answered,
      recorded_answers op answer holds.1 holds.2 permitted answered⟩
  crash := by
    intro world phases pid holds
    rw [id, update_eq_self]
    exact holds
  environment := fun _ _ _ holds outside =>
    ⟨ordered_outside holds.1 outside, recorded_outside holds.2 outside⟩

/-- In every state that any interleaving of `Create` attempts reaches, the stored
checkpoint is the one the record ends with, and every event of the record is lawful:
a request is its process's first and follows that process's own submitted checkpoint,
and a submitted checkpoint is given up only on its grounds. -/
theorem create_sends_at_most_once (platform : Platform)
    (config : Config (createSystem platform)) (reachable : config.Reachable) :
    config.world.launch = lastLaunch config.world.log ∧
      ∀ newer event older, config.world.log = newer ++ event :: older → Lawful older event := by
  obtain ⟨phases, holds⟩ := (createCertificate platform).holds_of_reachable reachable
  obtain ⟨_, recorded⟩ := holds.inv
  refine ⟨recorded.linked, ?_⟩
  intro newer event older split
  have history := recorded.history
  rw [split] at history
  exact lawful_of_history history

def sampleWorld : World := ⟨0, some sampleClaim, 2, []⟩

theorem sampleWorld_fresh : sampleWorld.Fresh := by
  refine ⟨?_, rfl, rfl⟩
  rintro claim ⟨⟩
  exact Nat.lt_succ_self 1

def HasSent (world : World) : Prop :=
  ∃ event ∈ world.log, isSend event.exchange = true

theorem sample_leads_to_send : Leads (createSystem samplePlatform) 0 (fun _ world => HasSent world)
      (create samplePlatform sampleClaim [sampleType] >>= fun _ => pure ()) sampleWorld := by
  have step := @Leads.step calls GoError (createSystem samplePlatform) 0
    (fun _ world => HasSent world)
  have found : ∀ claim, (Except.ok sampleClaim : Except ApiError NodeClaim) = .ok claim →
      some sampleClaim = some claim ∧ claim.name = "c" := by
    rintro claim ⟨⟩
    exact ⟨rfl, rfl⟩
  refine step (Call.getClaim "c") (Except.ok sampleClaim) ⟨_, ⟨rfl, found⟩, rfl⟩ ?_
  refine step Call.now (0 : Nat) ⟨_, ⟨rfl, rfl⟩, rfl⟩ ?_
  refine step (Call.getNodeClass "n") (Except.ok sampleClass) ⟨_, rfl, rfl⟩ ?_
  refine step Call.getNamespaceUID (Except.ok "x") ⟨_, rfl, rfl⟩ ?_
  refine step (Call.vpcClient "r") (Except.ok ()) ⟨_, rfl, rfl⟩ ?_
  refine step (Call.buildVolumeAttachments sampleClass "karpenter-d" "z") (Except.ok ())
    ⟨_, rfl, rfl⟩ ?_
  simp only [instanceCloudTags_sample]
  refine step (Call.newInstancePrototype "i" "z") (Except.ok ()) ⟨_, rfl, rfl⟩ ?_
  refine step (Call.bootstrapUserData sampleClass "c" "p") (Except.ok "b") ⟨_, rfl, rfl⟩ ?_
  refine step (Call.validateInstance _) (Except.ok ()) ⟨_, rfl, rfl⟩ ?_
  refine step Call.resolveAccount (Except.ok "a") ⟨_, rfl, rfl⟩ ?_
  refine step (Call.getClaim "c") (Except.ok sampleClaim) ⟨_, ⟨rfl, found⟩, rfl⟩ ?_
  refine step (Call.patchClaim _ _) (Except.ok (2 : Nat))
    ⟨_, .applied sampleClaim ⟨rfl, rfl, rfl⟩, rfl⟩ ?_
  refine step (Call.listInstancesByName "karpenter-d") (Except.ok []) ⟨_, rfl, rfl⟩ ?_
  refine step Call.now (0 : Nat) ⟨_, ⟨rfl, rfl⟩, rfl⟩ ?_
  refine step (Call.patchClaim _ _) (Except.ok (3 : Nat)) ⟨_, .applied _ ⟨rfl, rfl, rfl⟩, rfl⟩ ?_
  refine step (Call.validateInstance _) (Except.ok ()) ⟨_, rfl, rfl⟩ ?_
  have lost : ∀ (error : ApiError) (resp : Option DetailedResponse),
      CreateAnswer.failed ⟨.sdkProblem "EOF", rfl⟩ none = .failed error resp →
        SDKError error.val := by
    rintro error resp ⟨⟩
    trivial
  refine step (Call.createInstance _) (CreateAnswer.failed ⟨.sdkProblem "EOF", rfl⟩ none)
    ⟨_, ⟨rfl, lost⟩, rfl⟩ ?_
  exact .reached ⟨_, mem_cons_self, rfl⟩

theorem create_sends_at_most_once_sample :
    ∃ config : Config (createSystem samplePlatform), config.Reachable ∧ HasSent config.world ∧
      config.world.launch = lastLaunch config.world.log ∧
      ∀ newer event older, config.world.log = newer ++ event :: older → Lawful older event := by
  obtain ⟨final, last, sent, steps⟩ := sample_leads_to_send.started
    ⟨sampleClaim, [sampleType], rfl⟩ (fun _ => .unused) rfl
  have reachable : Config.Reachable (⟨last, update (fun _ => .unused) 0 (.running final)⟩ :
        Config (createSystem samplePlatform)) :=
    ⟨⟨sampleWorld, fun _ => .unused⟩, ⟨sampleWorld_fresh, fun _ => rfl⟩, steps⟩
  exact ⟨_, reachable, sent, create_sends_at_most_once samplePlatform _ reachable⟩

end KarpenterIBM.AtMostOnce
