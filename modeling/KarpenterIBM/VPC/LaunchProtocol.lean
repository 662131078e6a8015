import KarpenterIBM.VPC.Create

/-!
# The checkpoint protocol of a launch

An abstract reading of what `Create` and the allocation controller do to the checkpoint of a
claim.
-/

namespace KarpenterIBM.LaunchProtocol

open Calls EffectProgram Errors Objects Ownership VPCCreate VPCLaunch

inductive Stage where
  | idle
  | prepared (config : LaunchConfig)
  | submitted (config : LaunchConfig)
  | sent (config : LaunchConfig)
  | refused (config : LaunchConfig)
  | done
deriving DecidableEq

/-- The claim as a process holds it.  After a write the fields the write did not
touch may be older than the version. -/
inductive Copy where
  | none
  | read (claim : NodeClaim)
  | wrote (claim : NodeClaim)
deriving DecidableEq

def Stage.active : Stage → Option LaunchConfig
  | .submitted config | .sent config | .refused config => some config
  | _ => none

structure Phase where
  stage : Stage
  copy : Copy
  absent : Option String
  clock : Option Nat
  found : Option String
  gone : Option String
deriving DecidableEq

def Phase.start : Phase := ⟨.idle, .none, none, none, none, none⟩

def Copy.claim : Copy → Option NodeClaim
  | .none => Option.none
  | .read claim | .wrote claim => some claim

/-- The process holds this claim: version, annotations and finalizers agree. -/
def Copy.Holds (copy : Copy) (stored : NodeClaim) : Prop :=
  match copy with
  | .none => False
  | .read claim | .wrote claim =>
    stored.resourceVersion = claim.resourceVersion ∧
      stored.annotations = claim.annotations ∧ stored.finalizers = claim.finalizers

/-! ## The five moves -/

structure Prepares (phase : Phase) (stored patched : NodeClaim) (config : LaunchConfig) : Prop where
  stage : phase.stage = .idle
  before : launchOf stored = .text ""
  after : launchOf patched = .launch config
  fresh : config.submitted = false ∧ config.rejected = false
  guarded : launchFinalizer ∈ patched.finalizers

structure Submits (phase : Phase) (stored patched : NodeClaim) (config : LaunchConfig)
    (time : Nat) : Prop where
  stage : phase.stage = .prepared config
  before : launchOf stored = .launch config
  clock : phase.clock = some time
  after : launchOf patched = .launch { config with submitted := true, submittedAt := time }
  guarded : launchFinalizer ∈ patched.finalizers

structure Marks (phase : Phase) (stored patched : NodeClaim) (config : LaunchConfig) : Prop where
  stage : phase.stage = .refused config
  before : launchOf stored = .launch config
  after : launchOf patched = .launch { config with rejected := true }
  guarded : launchFinalizer ∈ patched.finalizers

inductive Phase.Abandons (phase : Phase) (config : LaunchConfig) : Prop where
  | rejected (recorded : config.rejected = true)
  | unsubmitted (prepared : config.submitted = false)
  | expired (time : Nat) (listed : phase.absent = some config.name)
      (clock : phase.clock = some time)
      (late : config.submittedAt + launchResolutionWindow < time)

structure Resets (phase : Phase) (stored patched : NodeClaim) (config : LaunchConfig) : Prop where
  stage : phase.stage = .idle
  before : launchOf stored = .launch config
  after : launchOf patched = .text ""
  abandons : phase.Abandons config

inductive Phase.Resolves (phase : Phase) (stored : NodeClaim) : Prop where
  | nothing (config : LaunchConfig) (checkpoint : launchOf stored = .launch config)
      (unpublished : stored.providerID = "") (abandons : phase.Abandons config)
      (listed : phase.absent = some config.name)
  | deleted (config : LaunchConfig) (checkpoint : launchOf stored = .launch config)
      (id : String) (found : phase.found = some id) (gone : phase.gone = some id)
  | published (bound : stored.providerID ≠ "")
      (gone : phase.gone = some (extractInstanceIDFromProviderID stored.providerID))

structure Releases (phase : Phase) (stored patched : NodeClaim) : Prop where
  stage : phase.stage = .idle
  whole : phase.copy = .read stored
  terminating : stored.deletionTimestamp ≠ none
  after : patched =
    { stored with finalizers := removeFinalizer stored.finalizers launchFinalizer }
  resolves : phase.Resolves stored

/-! ## The automaton -/

/-- The answer is one after which `Create` marks its checkpoint. -/
def answerRefused (answer : CreateAnswer) : Bool :=
  match createOutcome answer with
  | .ok _ => false
  | .error error => definitelyRefused error

def Stage.afterCreate (answer : CreateAnswer) : Stage → Stage
  | .submitted config => if answerRefused answer then .refused config else .sent config
  | stage => stage

def Stage.afterValidation (answer : Except ApiError Unit) : Stage → Stage
  | .submitted config =>
    match answer with
    | .ok _ => .submitted config
    | .error _ => .refused config
  | stage => stage

def Stage.afterWrite (patched : NodeClaim) (answer : Except ApiError Nat) : Stage → Stage
  | .idle =>
    match answer, launchOf patched with
    | .ok _, .launch config =>
      if config.submitted = false ∧ config.rejected = false ∧
          launchFinalizer ∈ patched.finalizers then .prepared config
      else .done
    | _, _ => .done
  | .prepared _ =>
    match answer, launchOf patched with
    | .ok _, .launch config => .submitted config
    | _, _ => .done
  | .refused config =>
    match answer with
    | .ok _ => .done
    | .error error => if isKube .conflict error.val then .refused config else .done
  | _ => .done

def Copy.afterWrite (patched : NodeClaim) (answer : Except ApiError Nat) (copy : Copy) : Copy :=
  match answer with
  | .ok version => .wrote { patched with resourceVersion := version }
  | .error _ => copy

def nameAbsent (name : String) (instances : List Instance) : Bool :=
  instances.all fun listed => decide (listed.name ≠ some name)

def Phase.next (phase : Phase) : (call : Call) → call.Answer → Phase
  | .getClaim _, answer =>
    match answer with
    | .ok claim => ⟨phase.stage, .read claim, none, none, none, none⟩
    | .error _ => phase
  | .patchClaim _ patched, answer =>
    ⟨phase.stage.afterWrite patched answer, phase.copy.afterWrite patched answer,
      none, none, none, none⟩
  | .now, time => { phase with clock := some time }
  | .listInstancesByName name, answer =>
    match answer with
    | .ok instances =>
      { phase with
        absent := if nameAbsent name instances then some name else none
        clock := none, found := none, gone := none }
    | .error _ => phase
  | .getInstance id, answer =>
    match answer with
    | .ok found => { phase with found := found.id, gone := none }
    | .error error =>
      if isNotFound (.wrap "getting instance: " error.val "") then
        { phase with gone := some id }
      else phase
  | .validateInstance _, answer => { phase with stage := phase.stage.afterValidation answer }
  | .createInstance _, answer => { phase with stage := phase.stage.afterCreate answer }
  | _, _ => phase

inductive Phase.Moves (releases : Prop) (phase : Phase) (stored patched : NodeClaim) : Prop where
  | prepares (config : LaunchConfig) (move : Prepares phase stored patched config)
  | submits (config : LaunchConfig) (time : Nat) (move : Submits phase stored patched config time)
  | marks (config : LaunchConfig) (move : Marks phase stored patched config)
  | resets (config : LaunchConfig) (move : Resets phase stored patched config)
  | releases (allowed : releases) (move : Releases phase stored patched)

def Phase.permits (releases : Prop) (phase : Phase) : Call → Prop
  | .patchClaim stored patched => phase.copy.Holds stored ∧ phase.Moves releases stored patched
  | .createInstance prototype =>
    ∃ config, phase.stage = .submitted config ∧ prototype.name = config.name
  | _ => True

/-- The protocol; `releases` says whether finalizers may be removed. -/
abbrev launchProtocol (releases : Prop) : Protocol calls where
  Phase := Phase
  permits := Phase.permits releases
  next := Phase.next

theorem Copy.Holds.held {copy : Copy} {stored : NodeClaim} (holds : copy.Holds stored) :
    ∃ claim, copy.claim = some claim ∧ stored.resourceVersion = claim.resourceVersion ∧
      stored.annotations = claim.annotations ∧ stored.finalizers = claim.finalizers := by
  cases copy with
  | none => exact holds.elim
  | read claim | wrote claim => exact ⟨claim, rfl, holds⟩

theorem active_afterCreate (answer : CreateAnswer) (stage : Stage) :
    (stage.afterCreate answer).active = stage.active := by
  cases stage with
  | submitted config =>
    simp only [Stage.afterCreate]
    split
    · rfl
    · rfl
  | _ => rfl

theorem active_afterValidation (answer : Except ApiError Unit) (stage : Stage) :
    (stage.afterValidation answer).active = stage.active := by
  cases stage with
  | submitted config =>
    cases answer with
    | ok _ | error _ => rfl
  | _ => rfl

theorem afterWrite_error (patched : NodeClaim) (error : ApiError) (stage : Stage) :
    stage.afterWrite patched (.error error) = .done ∨
      ∃ config, stage = .refused config ∧
        stage.afterWrite patched (.error error) = .refused config := by
  cases stage with
  | refused config =>
    simp only [Stage.afterWrite]
    split
    · exact .inr ⟨config, rfl, rfl⟩
    · exact .inl rfl
  | _ => exact .inl rfl

theorem next_patchClaim (releases : Prop) (phase : Phase) (stored patched : NodeClaim)
    (answer : Except ApiError Nat) :
    (launchProtocol releases).next phase (.patchClaim stored patched) answer =
      (⟨phase.stage.afterWrite patched answer, phase.copy.afterWrite patched answer,
        none, none, none, none⟩ : Phase) := rfl

end KarpenterIBM.LaunchProtocol
