import KarpenterIBM.VPC.LaunchProtocol
import KarpenterIBM.Lib.Interleaving

/-!
# The claim in the API server

The object all attempts share. Reads are fresh. A write carries an optimistic lock: it is
applied only at the version it was computed from, and its response may be lost.
-/

namespace KarpenterIBM.ClaimStore

open Calls Errors LaunchProtocol Objects Ownership VPCLaunch Function

structure Event where
  pid : Nat
  exchange : calls.Exchange
  time : Nat
  before : Value
  after : Value

structure World where
  now : Nat
  claim : Option NodeClaim
  nextVersion : Nat
  log : List Event

def World.launch (world : World) : Value :=
  match world.claim with
  | none => .text ""
  | some claim => launchOf claim

def written (current patched : NodeClaim) (version : Nat) : NodeClaim :=
  { current with
    annotations := patched.annotations
    finalizers := patched.finalizers
    resourceVersion := version }

def World.replace (world : World) (object : NodeClaim) : World :=
  { world with claim := some object, nextVersion := world.nextVersion + 1 }

def World.store (world : World) (current patched : NodeClaim) : World :=
  world.replace (written current patched world.nextVersion)

structure World.Unlocked (world : World) (stored current : NodeClaim) : Prop where
  present : world.claim = some current
  addressed : stored.name = current.name
  version : stored.resourceVersion = current.resourceVersion

inductive World.Patches (world : World) (stored patched : NodeClaim) :
    Except ApiError Nat → World → Prop where
  | applied (current : NodeClaim) (unlocked : world.Unlocked stored current) :
      Patches world stored patched (.ok world.nextVersion) (world.store current patched)
  | lost (current : NodeClaim) (unlocked : world.Unlocked stored current) (error : ApiError)
      (unknown : isKube .conflict error.val = false) :
      Patches world stored patched (.error error) (world.store current patched)
  | refused (error : ApiError) : Patches world stored patched (.error error) world

def SDKError : GoError → Prop
  | .httpProblem _ _ | .sdkProblem _ => True
  | _ => False

def World.Serves (world : World) : (op : Call) → op.Answer → World → Prop
  | .getClaim name, answer, served =>
    served = world ∧ ∀ claim, answer = .ok claim → world.claim = some claim ∧ claim.name = name
  | .patchClaim stored patched, answer, served => world.Patches stored patched answer served
  | .now, time, served => time = world.now ∧ served = world
  | .createInstance _, answer, served =>
    served = world ∧ ∀ error response, answer = .failed error response → SDKError error.val
  | _, _, served => served = world

/-- What is recorded of a call. -/
def World.event (world served : World) (pid : Nat) (op : Call) (answer : op.Answer) : Event :=
  ⟨pid, ⟨op, answer⟩, world.now, world.launch, served.launch⟩

def World.Answers (world : World) (pid : Nat) (op : Call) (answer : op.Answer)
    (next : World) : Prop :=
  ∃ served, world.Serves op answer served ∧
    next = { served with log := world.event served pid op answer :: world.log }

structure Touches (current updated : NodeClaim) (version : Nat) : Prop where
  version : updated.resourceVersion = version
  name : updated.name = current.name
  uid : updated.uid = current.uid
  launch : launchOf updated = launchOf current
  guarded : launchFinalizer ∈ current.finalizers → launchFinalizer ∈ updated.finalizers
  terminating : current.deletionTimestamp ≠ none → updated.deletionTimestamp ≠ none

inductive World.Outside (world : World) : World → Prop where
  | passes (later : Nat) (ordered : world.now ≤ later) :
      Outside world { world with now := later }
  | touched (current updated : NodeClaim) (present : world.claim = some current)
      (touches : Touches current updated world.nextVersion) :
      Outside world (world.replace updated)
  | removed (current : NodeClaim) (present : world.claim = some current)
      (terminating : current.deletionTimestamp ≠ none) (released : current.finalizers = []) :
      Outside world { world with claim := none }

structure World.Fresh (world : World) : Prop where
  version : ∀ claim, world.claim = some claim → claim.resourceVersion < world.nextVersion
  unlaunched : world.launch = .text ""
  empty : world.log = []

/-! ## The order invariant -/

def World.Current (world : World) (copy : Copy) : Prop :=
  ∃ current claim, world.claim = some current ∧ copy.claim = some claim ∧
    current.resourceVersion = claim.resourceVersion

structure Consistent (world : World) (phase : Phase) : Prop where
  older : ∀ claim, phase.copy.claim = some claim → claim.resourceVersion < world.nextVersion
  copied : ∀ claim current, phase.copy.claim = some claim → world.claim = some current →
    current.resourceVersion = claim.resourceVersion →
      current.annotations = claim.annotations ∧ current.finalizers = claim.finalizers
  whole : ∀ claim current, phase.copy = .read claim → world.claim = some current →
    current.resourceVersion = claim.resourceVersion → current = claim
  clock : ∀ time, phase.clock = some time → time ≤ world.now
  prepared : ∀ config, phase.stage = .prepared config →
    config.submitted = false ∧ config.rejected = false
  active : ∀ config, phase.stage.active = some config →
    config.submitted = true ∧ config.rejected = false

/-- The submitted checkpoints of the processes and the stored one, in the order of
their times. -/
structure Ordered (world : World) (phases : Nat → Phase) : Prop where
  fresh : ∀ claim, world.claim = some claim → claim.resourceVersion < world.nextVersion
  consistent : ∀ pid, Consistent world (phases pid)
  stamped : ∀ config, world.launch = .launch config → config.submitted = true →
    config.submittedAt ≤ world.now
  replaced : ∀ config, world.launch = .launch config → config.submitted = true →
    ∀ pid own, (phases pid).stage.active = some own →
      own = config ∨ own.submittedAt < config.submittedAt
  passed : world.claim ≠ none →
    (∀ config, world.launch = .launch config → config.submitted = false) →
      ∀ pid own, (phases pid).stage.active = some own → own.submittedAt < world.now
  ready : ∀ pid config time, (phases pid).stage = .prepared config →
    (phases pid).clock = some time → world.Current (phases pid).copy →
      world.launch = .launch config →
        ∀ other own, (phases other).stage.active = some own → own.submittedAt < time
  distinct : ∀ pid other own config, (phases pid).stage.active = some own →
    (phases other).stage.active = some config → own.submittedAt = config.submittedAt →
      pid = other

theorem Consistent.recopied {world : World} {phase moved : Phase} (held : Consistent world phase)
    (same : moved.copy = phase.copy) (clock : ∀ time, moved.clock = some time → time ≤ world.now)
    (prepared : ∀ config, moved.stage = .prepared config →
      config.submitted = false ∧ config.rejected = false)
    (active : ∀ config, moved.stage.active = some config →
      config.submitted = true ∧ config.rejected = false) : Consistent world moved :=
  ⟨same ▸ held.older, same ▸ held.copied, same ▸ held.whole, clock, prepared, active⟩

theorem consistent_start (world : World) : Consistent world Phase.start :=
  ⟨nofun, nofun, nofun, nofun, nofun, nofun⟩

variable {world : World}

theorem ordered_initial (fresh : world.Fresh) : Ordered world (fun _ => Phase.start) where
  fresh := fresh.version
  consistent := fun _ => consistent_start world
  stamped := by
    intro config made
    cases fresh.unlaunched.symm.trans made
  replaced := by
    intro config made
    cases fresh.unlaunched.symm.trans made
  passed := by
    rintro _ _ pid own ⟨⟩
  ready := by
    rintro pid config time ⟨⟩
  distinct := by
    rintro pid other own config ⟨⟩

variable {phases : Nat → Phase}

theorem Ordered.record (ordered : Ordered world phases) (log : List Event) :
    Ordered { world with log := log } phases :=
  { ordered with consistent := fun pid => { ordered.consistent pid with } }

/-! ## Steps that leave the object alone -/

structure Follower (world : World) (phase moved : Phase) : Prop where
  active : ∀ config, moved.stage.active = some config → phase.stage.active = some config
  prepared : ∀ config, moved.stage = .prepared config → phase.stage = .prepared config
  copy : moved.copy = phase.copy ∨ ∃ claim, moved.copy = .read claim ∧ world.claim = some claim
  clock : moved.clock = none ∨ (moved.clock = phase.clock ∧ moved.copy = phase.copy) ∨
    moved.clock = some world.now

section
variable {world : World} {phases : Nat → Phase} {pid : Nat} {moved : Phase}

theorem active_of_update (follower : Follower world (phases pid) moved) (other : Nat)
    (own : LaunchConfig)
    (active : (update phases pid moved other).stage.active = some own) :
    (phases other).stage.active = some own := by
  by_cases same : other = pid
  · subst same
    rw [update_self] at active
    exact follower.active own active
  · rw [update_of_ne same] at active
    exact active

variable (ordered : Ordered world phases) (follower : Follower world (phases pid) moved)

include ordered follower

theorem consistent_follow : Consistent world moved := by
  have held := ordered.consistent pid
  have clock : ∀ time, moved.clock = some time → time ≤ world.now := by
    intro time read
    rcases follower.clock with unread | ⟨same, _⟩ | now
    · cases unread.symm.trans read
    · exact held.clock time (same.symm.trans read)
    cases now.symm.trans read
    exact le_refl _
  have prepared := fun config stage => held.prepared config (follower.prepared config stage)
  have active := fun config stage => held.active config (follower.active config stage)
  rcases follower.copy with same | ⟨read, copy, found⟩
  · exact held.recopied same clock prepared active
  refine ⟨?_, ?_, ?_, clock, prepared, active⟩ <;> rw [copy]
  · rintro claim ⟨⟩
    exact ordered.fresh _ found
  · rintro claim current ⟨⟩ stored _
    cases found.symm.trans stored
    exact ⟨rfl, rfl⟩
  · rintro claim current ⟨⟩ stored _
    cases found.symm.trans stored
    rfl

theorem ordered_follow : Ordered world (update phases pid moved) where
  __ := ordered
  consistent := (forall_update_iff phases fun _ phase => Consistent world phase).mpr
    ⟨consistent_follow ordered follower, fun other _ => ordered.consistent other⟩
  replaced := fun config made sent other own active =>
    ordered.replaced config made sent other own (active_of_update follower other own active)
  passed := fun found unsubmitted other own active =>
    ordered.passed found unsubmitted other own (active_of_update follower other own active)
  ready := by
    intro other config time stage clock current made another own active
    have earlier := active_of_update follower another own active
    by_cases same : other = pid
    · subst same
      rw [update_self] at stage clock current
      have wasPrepared := follower.prepared config stage
      rcases follower.clock with unread | ⟨sameClock, sameCopy⟩ | now
      · cases unread.symm.trans clock
      · rw [sameClock] at clock
        rw [sameCopy] at current
        exact ordered.ready other config time wasPrepared clock current made another own earlier
      -- The clock is read while the prepared checkpoint is stored: every sent one has
      -- been given up, so its time has passed.
      cases now.symm.trans clock
      obtain ⟨stored, _, found, _⟩ := current
      refine ordered.passed (by rw [found]; simp) ?_ another own earlier
      intro other launch
      cases made.symm.trans launch
      exact ((ordered.consistent _).prepared config wasPrepared).1
    · rw [update_of_ne same] at stage clock current
      exact ordered.ready other config time stage clock current made another own earlier
  distinct := fun first second own config active other same =>
    ordered.distinct first second own config (active_of_update follower first own active)
      (active_of_update follower second config other) same

end

/-! ## Writes -/

section
variable {releases : Prop} {world : World} {phases : Nat → Phase} {pid : Nat}
  {stored patched current : NodeClaim}

section
variable (ordered : Ordered world phases)
  (holds : (phases pid).copy.Holds stored)
  (unlocked : world.Unlocked stored current)

include ordered holds unlocked

theorem unlocked_agrees :
    current.annotations = stored.annotations ∧ current.finalizers = stored.finalizers := by
  obtain ⟨claim, held, version, annotations, finalizers⟩ := holds.held
  have same := (ordered.consistent pid).copied claim current held unlocked.present
    (unlocked.version.symm.trans version)
  exact ⟨same.1.trans annotations.symm, same.2.trans finalizers.symm⟩

theorem launch_of_unlocked : world.launch = launchOf stored := by
  have same := unlocked_agrees ordered holds unlocked
  unfold World.launch
  rw [unlocked.present]
  exact congrArg (fun annotations => ValueMap.read annotations launchAnnotation) same.1

end

inductive Advances (world : World) (phases : Nat → Phase) (pid : Nat) (launch : Value) :
    Stage → Prop where
  | prepares (config : LaunchConfig) (stage : Stage) (idle : (phases pid).stage.active = none)
      (before : world.launch = .text "") (after : launch = .launch config)
      (unsubmitted : config.submitted = false) (inactive : stage.active = none)
      (prepared : ∀ other, stage = .prepared other →
        other.submitted = false ∧ other.rejected = false) :
      Advances world phases pid launch stage
  | submits (config : LaunchConfig) (stage : Stage) (idle : (phases pid).stage.active = none)
      (after : launch = .launch config) (submitted : config.submitted = true)
      (unrejected : config.rejected = false) (stamped : config.submittedAt ≤ world.now)
      (later : ∀ other own, (phases other).stage.active = some own →
        own.submittedAt < config.submittedAt)
      (own : stage = .submitted config ∨ stage = .done) :
      Advances world phases pid launch stage
  | marks (config : LaunchConfig) (own : (phases pid).stage.active = some config)
      (before : world.launch = .launch config)
      (after : launch = .launch { config with rejected := true }) :
      Advances world phases pid launch .done
  | resets (config : LaunchConfig) (idle : (phases pid).stage.active = none)
      (before : world.launch = .launch config) (after : launch = .text "")
      (lapsed : config.submitted = true → config.rejected = true ∨
        config.submittedAt < world.now) :
      Advances world phases pid launch .done
  | keeps (idle : (phases pid).stage.active = none) (same : launch = world.launch) :
      Advances world phases pid launch .done

theorem lost_stage (write : NodeClaim) (stage : Stage) {error : ApiError}
    (unknown : isKube .conflict error.val = false) :
    stage.afterWrite write (.error error) = .done := by
  cases stage <;> first
    | rfl
    | simp [Stage.afterWrite, unknown]

theorem advances_of_moves (ordered : Ordered world phases) (holds : (phases pid).copy.Holds stored)
    (moves : (phases pid).Moves releases stored patched)
    (unlocked : world.Unlocked stored current) (stage : Stage)
    (written : stage = .done ∨
      ∃ version, stage = (phases pid).stage.afterWrite patched (.ok version)) :
    Advances world phases pid (launchOf patched) stage := by
  have launch := launch_of_unlocked ordered holds unlocked
  have held := ordered.consistent pid
  cases moves with
  | prepares config move =>
    refine .prepares config stage (by rw [move.stage]; rfl) (launch.trans move.before)
      move.after move.fresh.1 ?_ ?_
    · rcases written with done | ⟨version, after⟩
      · rw [done]
        rfl
      · rw [after, move.stage]
        simp [Stage.afterWrite, move.after, move.fresh, move.guarded, Stage.active]
    · intro other same
      rcases written with done | ⟨version, after⟩
      · cases done.symm.trans same
      rw [after, move.stage] at same
      simp [Stage.afterWrite, move.after, move.fresh, move.guarded] at same
      rw [← same]
      exact move.fresh
  | submits config time move =>
    have unrejected := (held.prepared config move.stage).2
    have current : world.Current (phases pid).copy := by
      obtain ⟨claim, copied, version, _⟩ := holds.held
      exact ⟨_, claim, unlocked.present, copied, unlocked.version.symm.trans version⟩
    refine .submits { config with submitted := true, submittedAt := time } stage
      (by rw [move.stage]; rfl) move.after rfl unrejected (held.clock time move.clock)
      (ordered.ready pid config time move.stage move.clock current (launch.trans move.before)) ?_
    rcases written with done | ⟨version, after⟩
    · exact .inr done
    refine .inl ?_
    rw [after, move.stage]
    simp [Stage.afterWrite, move.after]
  | marks config move =>
    have done : stage = .done := by
      rcases written with done | ⟨version, after⟩
      · exact done
      · rw [after, move.stage]
        rfl
    rw [done]
    exact .marks config (by rw [move.stage]; rfl) (launch.trans move.before) move.after
  | resets config move =>
    have done : stage = .done := by
      rcases written with done | ⟨version, after⟩
      · exact done
      · rw [after, move.stage]
        simp [Stage.afterWrite, move.after]
    rw [done]
    refine .resets config (by rw [move.stage]; rfl) (launch.trans move.before) move.after ?_
    intro submitted
    cases move.abandons with
    | rejected noted => exact .inl noted
    | unsubmitted prepared =>
      cases submitted.symm.trans prepared
    | expired time listed clock late =>
      have reading := held.clock time clock
      exact .inr (by omega)
  | releases allowed move =>
    have done : stage = .done := by
      rcases written with done | ⟨version, after⟩
      · exact done
      rw [after, move.stage, move.after]
      simp only [Stage.afterWrite, removeFinalizer, List.mem_filter]
      split
      · simp
      · rfl
    rw [done]
    refine .keeps (by rw [move.stage]; rfl) ?_
    rw [launch, move.after]
    rfl

structure Writer (world : World) (phase moved : Phase) (patched : NodeClaim) : Prop where
  copy : moved.copy = .wrote { patched with resourceVersion := world.nextVersion } ∨
    moved.copy = phase.copy
  clock : moved.clock = none

theorem consistent_replace {phase : Phase} {object : NodeClaim}
    (agree : Consistent world phase) (version : object.resourceVersion = world.nextVersion) :
    Consistent (world.replace object) phase := by
  have stale : ∀ claim, phase.copy.claim = some claim →
      claim.resourceVersion ≠ object.resourceVersion := by
    intro claim copied
    have older := agree.older claim copied
    omega
  refine ⟨?_, ?_, ?_, agree.clock, agree.prepared, agree.active⟩
  · intro claim copied
    exact Nat.lt_succ_of_lt (agree.older claim copied)
  · rintro claim current copied ⟨⟩ same
    exact absurd same.symm (stale claim copied)
  rintro claim current copied ⟨⟩ same
  exact absurd same.symm (stale claim (by rw [copied]; rfl))

variable {moved : Phase}

theorem consistent_writer (agree : Consistent world (phases pid))
    (writer : Writer world (phases pid) moved patched)
    (prepared : ∀ config, moved.stage = .prepared config →
      config.submitted = false ∧ config.rejected = false)
    (active : ∀ config, moved.stage.active = some config →
      config.submitted = true ∧ config.rejected = false) :
    Consistent (world.store current patched) moved := by
  have before : Consistent (world.store current patched) (phases pid) :=
    consistent_replace agree rfl
  have unread : ∀ time, moved.clock = some time → time ≤ world.now := by
    rw [writer.clock]
    nofun
  rcases writer.copy with wrote | same
  · refine ⟨?_, ?_, ?_, unread, prepared, active⟩ <;> rw [wrote]
    · rintro claim ⟨⟩
      exact Nat.lt_succ_self _
    · rintro claim object ⟨⟩ ⟨⟩ _
      exact ⟨rfl, rfl⟩
    · rintro claim object ⟨⟩
  · exact before.recopied same unread prepared active

theorem not_current_replace {copy : Copy} {object : NodeClaim}
    (older : ∀ claim, copy.claim = some claim → claim.resourceVersion < world.nextVersion)
    (version : object.resourceVersion = world.nextVersion) :
    ¬ (world.replace object).Current copy := by
  intro currentCopy
  obtain ⟨current, claim, ⟨⟩, copied, same⟩ := currentCopy
  have behind := older claim copied
  omega

variable {launch : Value}

theorem active_store (advances : Advances world phases pid launch moved.stage) (other : Nat)
    (own : LaunchConfig) (active : (update phases pid moved other).stage.active = some own) :
    (other ≠ pid ∧ (phases other).stage.active = some own) ∨
      (other = pid ∧ launch = .launch own ∧ own.submitted = true ∧ own.rejected = false ∧
        (phases pid).stage.active = none ∧
        ∀ another config, (phases another).stage.active = some config →
          config.submittedAt < own.submittedAt) := by
  by_cases same : other = pid
  · rw [same, update_self] at active
    refine .inr ⟨same, ?_⟩
    generalize moved.stage = stage at advances active
    cases advances with
    | prepares config stage idle before after unsubmitted inactive prepared =>
      cases inactive.symm.trans active
    | submits config stage idle after sent unrejected stamped later stored =>
      rcases stored with rfl | rfl
      · cases active
        exact ⟨after, sent, unrejected, idle, later⟩
      · cases active
    | marks config | resets config | keeps => cases active
  · rw [update_of_ne same] at active
    exact .inl ⟨same, active⟩

variable {stage : Stage}

theorem prepared_store (advances : Advances world phases pid launch stage) (config : LaunchConfig)
    (stored : stage = .prepared config) : config.submitted = false ∧ config.rejected = false := by
  cases advances with
  | prepares config stage idle before after unsubmitted inactive prepared => exact prepared _ stored
  | submits config stage idle after sent unrejected stamped later own =>
    rcases own with rfl | rfl
    · cases stored
    · cases stored
  | marks config | resets config | keeps => cases stored

variable (ordered : Ordered world phases)

include ordered

theorem stamped_store (advances : Advances world phases pid launch stage) (config : LaunchConfig)
    (made : launch = .launch config) (sent : config.submitted = true) :
    config.submittedAt ≤ world.now := by
  cases advances with
  | prepares other stage idle before after unsubmitted inactive prepared =>
    cases after.symm.trans made
    cases sent.symm.trans unsubmitted
  | submits other stage idle after _ unrejected stamped later own =>
    cases after.symm.trans made
    exact stamped
  | marks other own before after =>
    cases after.symm.trans made
    exact ordered.stamped other before ((ordered.consistent pid).active other own).1
  | resets other idle before after lapsed => cases after.symm.trans made
  | keeps idle same => exact ordered.stamped config (same.symm.trans made) sent

theorem replaced_store (advances : Advances world phases pid launch stage) (config : LaunchConfig)
    (made : launch = .launch config) (sent : config.submitted = true) (other : Nat)
    (differ : other ≠ pid) (own : LaunchConfig) (active : (phases other).stage.active = some own) :
    own = config ∨ own.submittedAt < config.submittedAt := by
  cases advances with
  | prepares _ stage idle before after unsubmitted inactive prepared =>
    cases after.symm.trans made
    cases sent.symm.trans unsubmitted
  | submits _ stage idle after _ unrejected stamped later _ =>
    cases after.symm.trans made
    exact .inr (later other own active)
  | marks marked marker before after =>
    cases after.symm.trans made
    have wasSubmitted := ((ordered.consistent pid).active marked marker).1
    rcases ordered.replaced marked before wasSubmitted other own active with same | earlier
    · -- Two processes never share a submission time.
      have clash := ordered.distinct other pid own marked active marker (by rw [same])
      exact absurd clash differ
    · exact .inr earlier
  | resets _ idle before after lapsed => cases after.symm.trans made
  | keeps idle same => exact ordered.replaced config (same.symm.trans made) sent other own active

theorem passed_store (found : world.claim ≠ none)
    (advances : Advances world phases pid launch stage)
    (unsubmitted : ∀ config, launch = .launch config → config.submitted = false) (other : Nat)
    (own : LaunchConfig) (active : (phases other).stage.active = some own) :
    own.submittedAt < world.now := by
  cases advances with
  | prepares _ stage idle before after _ inactive prepared =>
    refine ordered.passed found ?_ other own active
    intro config made
    cases before.symm.trans made
  | submits config stage idle after sent unrejected stamped later _ =>
    cases sent.symm.trans (unsubmitted config after)
  | marks config marker before after =>
    have kept := unsubmitted _ after
    cases ((ordered.consistent pid).active config marker).1.symm.trans kept
  | resets config idle before after lapsed =>
    cases sent : config.submitted with
    | false =>
      refine ordered.passed found ?_ other own active
      intro stored made
      cases before.symm.trans made
      exact sent
    | true =>
      have stamped := ordered.stamped config before sent
      rcases ordered.replaced config before sent other own active with same | earlier
      · rcases lapsed sent with rejected | late
        · have unrejected := ((ordered.consistent other).active own active).2
          rw [same, rejected] at unrejected
          cases unrejected
        · rw [same]
          exact late
      · omega
  | keeps idle same =>
    refine ordered.passed found ?_ other own active
    intro config made
    exact unsubmitted config (same.trans made)

theorem ordered_store (found : world.claim = some current)
    (writer : Writer world (phases pid) moved patched)
    (advances : Advances world phases pid (launchOf patched) moved.stage) :
    Ordered (world.store current patched) (update phases pid moved) where
  fresh := by
    rintro claim ⟨⟩
    exact Nat.lt_succ_self _
  consistent := by
    refine (forall_update_iff phases
      fun _ phase => Consistent (world.store current patched) phase).mpr ⟨?_, ?_⟩
    · refine consistent_writer (ordered.consistent pid) writer (prepared_store advances) ?_
      intro config active
      have stored := active_store advances pid config (by rwa [update_self])
      rcases stored with ⟨other, _⟩ | ⟨_, _, sent, unrejected, _⟩
      · exact absurd rfl other
      · exact ⟨sent, unrejected⟩
    · exact fun other _ => consistent_replace (ordered.consistent other) rfl
  stamped := fun config made sent => stamped_store ordered advances config made sent
  replaced := by
    intro config made sent other own active
    rcases active_store advances other own active with ⟨differ, before⟩ | ⟨_, stored, _⟩
    · exact replaced_store ordered advances config made sent other differ own before
    cases stored.symm.trans made
    exact .inl rfl
  passed := by
    intro _ unsubmitted other own active
    rcases active_store advances other own active with ⟨_, before⟩ | ⟨_, stored, sent, _⟩
    · exact passed_store ordered (by rw [found]; simp) advances unsubmitted other own before
    cases sent.symm.trans (unsubmitted own stored)
  ready := by
    intro other config time stage clock currentCopy
    by_cases same : other = pid
    · rw [same, update_self, writer.clock] at clock
      cases clock
    · rw [update_of_ne same] at currentCopy
      exact absurd currentCopy (not_current_replace (ordered.consistent other).older rfl)
  distinct := by
    intro first second own config active other time
    rcases active_store advances first own active with
      ⟨firstOther, firstActive⟩ | ⟨firstSame, _, _, _, _, firstLater⟩
    · rcases active_store advances second config other with
        ⟨_, secondActive⟩ | ⟨_, _, _, _, _, later⟩
      · exact ordered.distinct first second own config firstActive secondActive time
      · have earlier := later first own firstActive
        omega
    · rcases active_store advances second config other with
        ⟨_, secondActive⟩ | ⟨secondSame, _⟩
      · have earlier := firstLater second config secondActive
        omega
      · exact firstSame.trans secondSame.symm

end

/-! ## One call, and the environment -/

theorem Follower.refl (world : World) (phase : Phase) : Follower world phase phase :=
  ⟨fun _ active => active, fun _ prepared => prepared, .inl rfl, .inr (.inl ⟨rfl, rfl⟩)⟩

theorem Follower.evidence {phase moved : Phase} (stage : moved.stage = phase.stage)
    (copy : moved.copy = phase.copy) (clock : moved.clock = none ∨ moved.clock = phase.clock) :
    Follower world phase moved := by
  refine ⟨?_, ?_, .inl copy, ?_⟩
  · intro config active
    rwa [stage] at active
  · intro config prepared
    rwa [stage] at prepared
  rcases clock with unread | same
  · exact .inl unread
  · exact .inr (.inl ⟨same, copy⟩)

theorem follower_refused (world : World) (phase : Phase) (stored patched : NodeClaim)
    (error : ApiError) :
    Follower world phase (phase.next (.patchClaim stored patched) (.error error)) := by
  rcases afterWrite_error patched error phase.stage with done | ⟨own, refused, kept⟩
  · refine ⟨fun config active => ?_, fun config prepared => ?_, .inl rfl, .inl rfl⟩
    · cases (congrArg Stage.active done).symm.trans active
    · cases done.symm.trans prepared
  · refine ⟨fun config active => ?_, fun config prepared => ?_, .inl rfl, .inl rfl⟩
    · rw [refused]
      exact (congrArg Stage.active kept).symm.trans active
    · cases kept.symm.trans prepared

theorem follower_getClaim {served : World} {name : String} {answer : Except ApiError NodeClaim}
    (phase : Phase) (serves : world.Serves (.getClaim name) answer served) :
    Follower world phase (phase.next (.getClaim name) answer) := by
  cases answer with
  | error error => exact Follower.refl world phase
  | ok claim =>
    have present := (serves.2 claim rfl).1
    exact ⟨fun _ active => active, fun _ prepared => prepared, .inr ⟨claim, rfl, present⟩, .inl rfl⟩

theorem follower_getInstance (world : World) (phase : Phase) (id : String)
    (answer : Except ApiError Instance) :
    Follower world phase (phase.next (.getInstance id) answer) := by
  cases answer with
  | ok found => exact Follower.evidence rfl rfl (.inr rfl)
  | error error =>
    simp only [Phase.next]
    split
    · exact Follower.evidence rfl rfl (.inr rfl)
    · exact Follower.refl world phase

theorem follower_listInstancesByName (world : World) (phase : Phase) (name : String)
    (answer : Except ApiError (List Instance)) :
    Follower world phase (phase.next (.listInstancesByName name) answer) := by
  cases answer with
  | ok instances => exact Follower.evidence rfl rfl (.inl rfl)
  | error error => exact Follower.refl world phase

theorem Follower.staged {phase moved : Phase} (active : moved.stage.active = phase.stage.active)
    (prepared : ∀ config, moved.stage = .prepared config → phase.stage = .prepared config)
    (copy : moved.copy = phase.copy) (clock : moved.clock = phase.clock) :
    Follower world phase moved :=
  ⟨fun _ held => active.symm.trans held, prepared, .inl copy, .inr (.inl ⟨clock, copy⟩)⟩

theorem follower_validateInstance (world : World) (phase : Phase) (proto : InstancePrototype)
    (answer : Except ApiError Unit) :
    Follower world phase (phase.next (.validateInstance proto) answer) := by
  refine Follower.staged (active_afterValidation answer phase.stage) ?_ rfl rfl
  intro config prepared
  change phase.stage.afterValidation answer = .prepared config at prepared
  cases stage : phase.stage with
  | submitted own =>
    rw [stage] at prepared
    cases answer <;> cases prepared
  | _ =>
    rw [stage] at prepared
    exact prepared

theorem follower_createInstance (world : World) (phase : Phase) (proto : InstancePrototype)
    (answer : CreateAnswer) :
    Follower world phase (phase.next (.createInstance proto) answer) := by
  refine Follower.staged (active_afterCreate answer phase.stage) ?_ rfl rfl
  intro config prepared
  change phase.stage.afterCreate answer = .prepared config at prepared
  cases stage : phase.stage with
  | submitted own =>
    rw [stage] at prepared
    simp only [Stage.afterCreate] at prepared
    split at prepared <;> cases prepared
  | _ =>
    rw [stage] at prepared
    exact prepared

section
variable {releases : Prop} {world next : World} {phases : Nat → Phase} {pid : Nat}

theorem ordered_patches {stored patched : NodeClaim} {answer : Except ApiError Nat}
    {served : World} (ordered : Ordered world phases)
    (allowed : (phases pid).permits releases (.patchClaim stored patched))
    (patches : world.Patches stored patched answer served) :
    Ordered served (update phases pid ((phases pid).next (.patchClaim stored patched) answer)) := by
  obtain ⟨holds, moves⟩ := allowed
  cases patches with
  | applied current unlocked =>
    exact ordered_store ordered unlocked.present ⟨.inl rfl, rfl⟩
      (advances_of_moves ordered holds moves unlocked _ (.inr ⟨_, rfl⟩))
  | lost current unlocked error unknown =>
    exact ordered_store ordered unlocked.present ⟨.inr rfl, rfl⟩
      (advances_of_moves ordered holds moves unlocked _ (.inl (lost_stage patched _ unknown)))
  | refused error => exact ordered_follow ordered (follower_refused _ _ _ _ _)

theorem ordered_answers (op : Call) (answer : op.Answer) (ordered : Ordered world phases)
    (allowed : (phases pid).permits releases op)
    (answers : world.Answers pid op answer next) :
    Ordered next (update phases pid ((phases pid).next op answer)) := by
  obtain ⟨served, serves, noted⟩ := answers
  suffices moved : Ordered served (update phases pid ((phases pid).next op answer)) by
    rw [noted]
    exact moved.record _
  cases op with
  | patchClaim stored patched => exact ordered_patches ordered allowed serves
  | getClaim name =>
    have follower := follower_getClaim (phases pid) serves
    rw [serves.1]
    exact ordered_follow ordered follower
  | now =>
    obtain ⟨reading, same⟩ := serves
    rw [same]
    refine ordered_follow ordered
      ⟨fun _ active => active, fun _ prepared => prepared, .inl rfl, .inr (.inr ?_)⟩
    exact congrArg some reading
  | createInstance proto =>
    rw [serves.1]
    exact ordered_follow ordered (follower_createInstance _ _ _ _)
  | validateInstance proto =>
    rw [show served = world from serves]
    exact ordered_follow ordered (follower_validateInstance _ _ _ _)
  | getInstance id =>
    rw [show served = world from serves]
    exact ordered_follow ordered (follower_getInstance _ _ _ _)
  | listInstancesByName name =>
    rw [show served = world from serves]
    exact ordered_follow ordered (follower_listInstancesByName _ _ _ _)
  | _ =>
    rw [show served = world from serves]
    exact ordered_follow ordered (Follower.refl _ _)

end

variable (ordered : Ordered world phases)

include ordered

theorem ordered_passes {later : Nat} (after : world.now ≤ later) :
    Ordered { world with now := later } phases where
  __ := ordered
  consistent := fun pid =>
    let held := ordered.consistent pid
    { held with clock := fun time read => (held.clock time read).trans after }
  stamped := fun config made sent => (ordered.stamped config made sent).trans after
  passed := fun found unsubmitted pid own active =>
    (ordered.passed found unsubmitted pid own active).trans_le after

theorem ordered_touched {current updated : NodeClaim} (found : world.claim = some current)
    (touches : Touches current updated world.nextVersion) :
    Ordered (world.replace updated) phases := by
  have same : (world.replace updated).launch = world.launch := by
    unfold World.launch
    rw [found]
    exact touches.launch
  refine ⟨?_, ?_, ?_, ?_, ?_, ?_, ordered.distinct⟩
  · rintro claim ⟨⟩
    rw [touches.version]
    exact Nat.lt_succ_self _
  · exact fun pid => consistent_replace (ordered.consistent pid) touches.version
  · exact fun config made => ordered.stamped config (same.symm.trans made)
  · exact fun config made => ordered.replaced config (same.symm.trans made)
  · intro _ unsubmitted
    refine ordered.passed (by rw [found]; simp) ?_
    exact fun config made => unsubmitted config (same.trans made)
  · intro pid config time stage clock currentCopy
    exact absurd currentCopy (not_current_replace (ordered.consistent pid).older touches.version)

theorem ordered_removed : Ordered { world with claim := none } phases where
  __ := ordered
  fresh := by
    rintro claim ⟨⟩
  consistent := fun pid => { ordered.consistent pid with copied := nofun, whole := nofun }
  stamped := by
    rintro config ⟨⟩
  replaced := by
    rintro config ⟨⟩
  passed := fun found => absurd rfl found
  ready := by
    rintro pid config time _ _ _ ⟨⟩

theorem ordered_outside {moved : World} (outside : world.Outside moved) : Ordered moved phases := by
  cases outside with
  | passes later after => exact ordered_passes ordered after
  | touched current updated found touches => exact ordered_touched ordered found touches
  | removed current found terminating released => exact ordered_removed ordered

end KarpenterIBM.ClaimStore
