import KarpenterIBM.VPC.LaunchProtocol

/-!
# Create and Reconcile follow the checkpoint protocol

One specification for each part of the two programs: what it leaves known in the
phase, and that its errors are foreign unless it raises a marker itself.
-/

namespace KarpenterIBM.LaunchConformance

open Calls EffectProgram Errors LaunchProtocol Objects Ownership VPCCreate VPCLaunch

/-! ## Calls that leave the phase alone -/

def Ambient : Call → Prop
  | .getClaim _ | .patchClaim _ _ | .now | .listInstancesByName _ | .getInstance _
  | .validateInstance _ | .createInstance _ => False
  | _ => True

variable (releases : Prop) {α : Type}

theorem ambient_stays (op : Call) (phase : Phase) (ambient : Ambient op) :
    (launchProtocol releases).permits phase op ∧
      ∀ answer, (launchProtocol releases).next phase op answer = phase := by
  cases op <;> first
    | exact ambient.elim
    | exact ⟨trivial, fun _ => rfl⟩

theorem quiet_follows {program : Program α} (quiet : Quiet Ambient program) (phase : Phase) :
    Follows (launchProtocol releases)
      (fun out final => ErrorForeign out ∧ final = phase) phase program := by
  refine Uses.follows (P := launchProtocol releases) (fun current => current = phase) quiet ?_ rfl
  intro op current ambient same
  obtain ⟨allowed, unmoved⟩ := ambient_stays releases op current ambient
  exact ⟨allowed, fun answer => (unmoved answer).trans same⟩

def SameLaunch (phase final : Phase) : Prop :=
  final.stage = phase.stage ∧ final.copy = phase.copy

theorem SameLaunch.refl (phase : Phase) : SameLaunch phase phase := ⟨rfl, rfl⟩

theorem SameLaunch.trans {first second third : Phase} (left : SameLaunch first second)
    (right : SameLaunch second third) : SameLaunch first third :=
  ⟨right.1.trans left.1, right.2.trans left.2⟩

theorem sameLaunch_getInstance (phase : Phase) (id : String) (answer : Except ApiError Instance) :
    SameLaunch phase (phase.next (.getInstance id) answer) := by
  cases answer with
  | ok found => exact ⟨rfl, rfl⟩
  | error error =>
    simp only [Phase.next]
    split <;> exact ⟨rfl, rfl⟩

/-! ## Quiet parts of the provider -/

theorem quiet_clientForRegion (region : String) : Quiet Ambient (clientForRegion region) :=
  quiet_ask trivial

theorem quiet_deleteInstance (id : String) : Quiet Ambient (deleteInstance id) :=
  Quiet.wrapped _ (quiet_ask trivial)

variable (platform : Platform) (claim : NodeClaim) (config : LaunchConfig)
  (nodeClass : IBMNodeClass)

theorem quiet_resolveAccountID : Quiet Ambient (resolveAccountID platform) :=
  Quiet.bind (quiet_ask trivial) fun _ => quiet_unless (quiet_unless (quiet_pure _))

theorem quiet_validateAccountTarget (birthAccount : String) :
    Quiet Ambient (validateAccountTarget platform birthAccount) :=
  quiet_unless (Quiet.bind (quiet_resolveAccountID platform) fun _ =>
    quiet_unless (quiet_pure _))

theorem quiet_validateLaunchTarget :
    Quiet Ambient (validateLaunchTarget platform claim config) := by
  refine Quiet.bind (quiet_clusterUID trivial) fun _ => quiet_unless (quiet_unless ?_)
  exact Quiet.bind (quiet_clientForRegion _) fun _ => quiet_validateAccountTarget platform _

theorem errorForeign_decodeLaunch (value : Value) : ErrorForeign (decodeLaunch platform value) := by
  cases value with
  | launch stored =>
    simp only [decodeLaunch]
    split
    · rfl
    · trivial
  | text content | allocation snapshot | seconds time => rfl

theorem quiet_validateClaimTarget : Quiet Ambient (validateClaimTarget platform claim) := by
  unfold validateClaimTarget
  split
  · refine Quiet.bind (quiet_clientForRegion _) ?_
    intro _
    split
    · exact quiet_validateAccountTarget platform _
    · exact quiet_validateAccountTarget platform _
  · refine Quiet.bind (quiet_ofExcept _ (errorForeign_decodeLaunch platform _)) ?_
    intro config
    exact quiet_validateLaunchTarget platform claim config

theorem quiet_releaseNodes (providerID : String) (nodes : List Node) (found : Bool) :
    Quiet Ambient (releaseNodes providerID nodes found) := by
  induction nodes generalizing found with
  | nil => exact quiet_pure _
  | cons node rest ih =>
    rw [releaseNodes]
    split
    · exact ih found
    split
    · exact quiet_failWith _
    split
    · refine quiet_call trivial ?_
      intro answer
      cases answer with
      | ok value => exact ih true
      | error error =>
        change Quiet Ambient (if isKube .notFound error.val then
          releaseNodes providerID rest true else .fail error.val)
        split
        · exact ih true
        · exact error.property
    · exact ih true

variable (found : Instance)

theorem errorForeign_verifyInstanceAccount (accountID : String) :
    ErrorForeign (verifyInstanceAccount found accountID) := by
  unfold verifyInstanceAccount
  split
  · rfl
  split
  · rfl
  dsimp only
  split
  · rfl
  · trivial

theorem errorForeign_matchLaunch : ErrorForeign (matchLaunch config found) := by
  unfold matchLaunch
  split
  · rfl
  split
  · rfl
  split
  · rfl
  · exact errorForeign_verifyInstanceAccount found config.accountID

/-! ## What looking for the instance of a launch leaves known -/

/-- After a list in which the name occurs: the loop ends with the instance it found,
which it has just read, or with a foreign error. -/
def FoundInstance (phase : Phase) (outcome : Except GoError (Option Instance))
    (final : Phase) : Prop :=
  ErrorForeign outcome ∧ SameLaunch phase final ∧
    ∀ instance?, outcome = .ok instance? → ∃ current, instance? = some current ∧
      final.found = current.id

section
variable (name : String) (instances : List Instance)

include name instances

theorem findByName_follows_found (current : Instance) (phase : Phase)
    (known : phase.found = current.id) :
    Follows (launchProtocol releases) (FoundInstance phase) phase
      (findByName name instances (some current)) := by
  induction instances with
  | nil =>
    refine ⟨trivial, SameLaunch.refl phase, ?_⟩
    rintro result ⟨⟩
    exact ⟨current, rfl, known⟩
  | cons listed rest ih =>
    rw [findByName]
    split
    · exact ih
    refine ⟨rfl, SameLaunch.refl phase, ?_⟩
    rintro result ⟨⟩

theorem findByName_follows (phase : Phase) (present : nameAbsent name instances = false) :
    Follows (launchProtocol releases) (FoundInstance phase) phase
      (findByName name instances none) := by
  induction instances with
  | nil => simp [nameAbsent] at present
  | cons listed rest ih =>
    rw [findByName]
    split
    · rename_i other
      refine ih ?_
      simpa [nameAbsent, other] using present
    simp only [Option.isSome_none, Bool.false_eq_true, if_false]
    split
    · refine ⟨rfl, SameLaunch.refl phase, ?_⟩
      rintro result ⟨⟩
    rename_i id _
    refine ⟨trivial, ?_⟩
    intro answer
    cases answer with
    | ok current =>
      have rest := findByName_follows_found releases name rest current
        { phase with found := current.id, gone := none } rfl
      exact rest
    | error error =>
      refine ⟨error.property, sameLaunch_getInstance phase id (.error error), ?_⟩
      rintro result ⟨⟩

theorem findByName_absent (absent : nameAbsent name instances = true) :
    findByName name instances none = pure none := by
  induction instances with
  | nil => rfl
  | cons listed rest ih =>
    simp only [nameAbsent, List.all_cons, Bool.and_eq_true, decide_eq_true_eq] at absent
    rw [findByName, if_pos absent.1]
    exact ih absent.2

end

/-- What `findLaunch` leaves known: the name is absent, or the instance it read. -/
def Sought (config : LaunchConfig) (phase : Phase) (outcome : Except GoError (Option Instance))
    (final : Phase) : Prop :=
  ErrorForeign outcome ∧ SameLaunch phase final ∧
    (outcome = .ok none → final.absent = some config.name) ∧
    ∀ current, outcome = .ok (some current) → final.found = current.id

theorem findLaunch_follows (phase : Phase) :
    Follows (launchProtocol releases) (Sought config phase) phase (findLaunch config) := by
  refine ⟨trivial, ?_⟩
  intro answer
  cases answer with
  | error error =>
    refine ⟨error.property, SameLaunch.refl phase, ?_, ?_⟩
    · rintro ⟨⟩
    · rintro current ⟨⟩
  | ok instances =>
    change Follows (launchProtocol releases) _
      (phase.next (.listInstancesByName config.name) (.ok instances))
      (findByName config.name instances none >>= _)
    by_cases absent : nameAbsent config.name instances = true
    · rw [findByName_absent config.name instances absent]
      refine ⟨trivial, ⟨rfl, rfl⟩, ?_, ?_⟩
      · intro _
        exact if_pos absent
      · rintro current ⟨⟩
    · rw [Bool.not_eq_true] at absent
      refine Follows.bind (findByName_follows releases _ _ _ absent) ?_ ?_
      · intro found final holds
        obtain ⟨_, same, known⟩ := holds
        obtain ⟨current, some, read⟩ := known found rfl
        subst some
        cases matched : matchLaunch config current with
        | error error =>
          have foreign := errorForeign_matchLaunch config current
          rw [matched] at foreign
          simp only [matched]
          refine ⟨foreign, same, ?_, ?_⟩
          · nofun
          · rintro other ⟨⟩
        | ok _ =>
          simp only [matched]
          refine ⟨trivial, same, ?_, ?_⟩
          · nofun
          rintro other ⟨⟩
          exact read
      · intro error final holds
        obtain ⟨foreign, same, _⟩ := holds
        refine ⟨foreign, same, ?_, ?_⟩
        · nofun
        · rintro other ⟨⟩

/-- What `recoverLaunch` leaves known: an unresolved launch was listed and absent. -/
def Recovered {α : Type} (config : LaunchConfig) (phase : Phase) (outcome : Except GoError α)
    (final : Phase) : Prop :=
  SameLaunch phase final ∧
    ∀ error, outcome = .error error → isLaunchUnresolved error = true →
      final.absent = some config.name

variable {phase : Phase}

theorem recovered_foreign {config : LaunchConfig} {final : Phase} {error : GoError}
    (foreign : error.foreign = true) (same : SameLaunch phase final) :
    Recovered (α := α) config phase (.error error) final := by
  refine ⟨same, ?_⟩
  rintro other ⟨⟩ unresolved
  rw [isLaunchUnresolved_foreign foreign] at unresolved
  cases unresolved

theorem recovered_ok {config : LaunchConfig} {final : Phase} (value : α)
    (same : SameLaunch phase final) : Recovered config phase (.ok value) final := by
  refine ⟨same, ?_⟩
  rintro other ⟨⟩

variable {β : Type}

variable {post : Except GoError α → Phase → Prop}

theorem quiet_bind {program : Program β} {next : β → Program α} (quiet : Quiet Ambient program)
    (second : ∀ value, Follows (launchProtocol releases) post phase (next value))
    (failure : ∀ error, error.foreign = true → post (.error error) phase) :
    Follows (launchProtocol releases) post phase (program >>= next) := by
  refine Follows.bind (quiet_follows releases quiet phase) ?_ ?_
  · intro value final holds
    rw [holds.2]
    exact second value
  intro error final holds
  rw [holds.2]
  exact failure error holds.1

theorem now_bind {next : Nat → Program α}
    (second : ∀ time, Follows (launchProtocol releases) post { phase with clock := some time }
      (next time)) : Follows (launchProtocol releases) post phase (now >>= next) :=
  ⟨trivial, second⟩

theorem recoverLaunch_follows (phase : Phase) :
    Follows (launchProtocol releases) (Recovered config phase) phase
      (recoverLaunch platform claim config) := by
  have failure : ∀ error : GoError, error.foreign = true →
      Recovered (α := Node) config phase (.error error) phase :=
    fun error foreign => recovered_foreign foreign (SameLaunch.refl phase)
  unfold recoverLaunch
  refine quiet_bind releases (quiet_validateLaunchTarget platform claim config) ?_ failure
  intro _
  refine quiet_bind releases (quiet_clientForRegion config.region) ?_ failure
  intro _
  refine Follows.bind (findLaunch_follows releases config phase) ?_ ?_
  · intro found final holds
    obtain ⟨_, same, absent, _⟩ := holds
    cases found with
    | none =>
      refine ⟨same, ?_⟩
      intro error _ _
      exact absent rfl
    | some current =>
      dsimp only
      split
      · exact recovered_foreign rfl same
      split
      · exact recovered_foreign rfl same
      refine ⟨trivial, ?_⟩
      intro answer
      cases answer with
      | ok _ => exact recovered_ok _ same
      | error error => exact recovered_foreign error.property same
  · intro error final holds
    exact recovered_foreign holds.1 holds.2.1

/-! ## Preparing a request -/

theorem quiet_launchNodeClass (name : String) : Quiet Ambient (launchNodeClass name) :=
  Quiet.bind (Quiet.wrapped _ (quiet_ask trivial)) fun _ =>
    quiet_unless (quiet_unless (quiet_pure _))

theorem quiet_selectSubnetFromStatusList (subnetIDs : List String) :
    Quiet Ambient (selectSubnetFromStatusList subnetIDs) := by
  unfold selectSubnetFromStatusList
  split
  · exact quiet_pure _
  · exact quiet_pure _
  · exact quiet_call trivial fun _ => quiet_pure _

theorem quiet_selectSubnetFromMultiZoneList (subnets : List SubnetInfo) :
    Quiet Ambient (selectSubnetFromMultiZoneList subnets) := by
  unfold selectSubnetFromMultiZoneList
  split
  · exact quiet_pure _
  · exact quiet_pure _
  · exact quiet_call trivial fun _ => quiet_pure _

theorem quiet_choosePlacement : Quiet Ambient (choosePlacement nodeClass) := by
  unfold choosePlacement
  dsimp only
  split
  · split
    · exact quiet_failWith _
    split
    · refine Quiet.bind (quiet_selectSubnetFromStatusList _) ?_
      intro selected
      exact Quiet.bind (Quiet.wrapped _ (quiet_ask trivial)) fun _ => quiet_pure _
    refine Quiet.bind (Quiet.wrapped _ (quiet_ask trivial)) fun subnets => quiet_unless ?_
    exact Quiet.bind (quiet_selectSubnetFromMultiZoneList subnets) fun _ => quiet_pure _
  · split
    · exact Quiet.bind (Quiet.wrapped _ (quiet_ask trivial)) fun _ => quiet_pure _
    split
    · exact Quiet.bind (Quiet.wrapped _ (quiet_ask trivial)) fun _ =>
        quiet_unless (quiet_pure _)
    · exact quiet_pure _

theorem quiet_placement : Quiet Ambient (placement nodeClass) :=
  Quiet.bind (quiet_choosePlacement nodeClass) fun _ => quiet_unless (quiet_pure _)

theorem quiet_resolveResourceGroupID (input : String) :
    Quiet Ambient (resolveResourceGroupID input) := by
  unfold resolveResourceGroupID
  split
  · exact quiet_pure _
  · exact Quiet.wrapped _ (quiet_ask trivial)

theorem quiet_interfaceResourceGroup : Quiet Ambient (interfaceResourceGroup nodeClass) := by
  unfold interfaceResourceGroup
  split
  · exact quiet_pure _
  · exact Quiet.bind (Quiet.wrapped _ (quiet_resolveResourceGroupID _)) fun _ => quiet_pure _

theorem quiet_instanceResourceGroup : Quiet Ambient (instanceResourceGroup nodeClass) := by
  unfold instanceResourceGroup
  split
  · exact quiet_pure _
  exact Quiet.bind (Quiet.wrapped _ (quiet_resolveResourceGroupID _)) fun _ =>
    quiet_unless (quiet_pure _)

theorem quiet_launchSecurityGroups : Quiet Ambient (launchSecurityGroups nodeClass) := by
  unfold launchSecurityGroups
  split
  · exact quiet_pure _
  · exact Quiet.bind (Quiet.wrapped _ (quiet_ask trivial)) fun _ => quiet_pure _

theorem quiet_chooseImage : Quiet Ambient (chooseImage nodeClass) := by
  unfold chooseImage
  split
  · exact quiet_pure _
  split
  · exact Quiet.wrapped _ (quiet_ask trivial)
  split
  · exact Quiet.wrapped _ (quiet_ask trivial)
  · exact quiet_failWith _

theorem quiet_launchImage : Quiet Ambient (launchImage nodeClass) :=
  Quiet.bind (quiet_chooseImage nodeClass) fun _ => quiet_unless (quiet_pure _)

def Preparatory : Call → Prop
  | .now | .validateInstance _ => True
  | op => Ambient op

theorem preparatory_of_ambient (op : Call) (ambient : Ambient op) : Preparatory op := by
  cases op <;> first
    | exact ambient.elim
    | trivial

theorem preparatory_stays (phase : Phase) (idle : phase.stage = .idle) (op : Call)
    (current : Phase) (preparatory : Preparatory op) (same : SameLaunch phase current) :
    (launchProtocol releases).permits current op ∧
      ∀ answer, SameLaunch phase ((launchProtocol releases).next current op answer) := by
  cases op with
  | now => exact ⟨trivial, fun _ => same⟩
  | validateInstance proto =>
    refine ⟨trivial, fun answer => ⟨?_, same.2⟩⟩
    have stays : (Stage.afterValidation answer current.stage) = current.stage := by
      rw [same.1, idle]
      rfl
    exact stays.trans same.1
  | _ =>
    first
      | exact preparatory.elim
      | exact ⟨trivial, fun _ => same⟩

theorem uses_of_quiet {program : Program β} (quiet : Quiet Ambient program) :
    Uses (S := calls) Preparatory (fun _ => True) program :=
  Uses.mono quiet preparatory_of_ambient fun _ _ => trivial

theorem uses_validateCreateInstance (proto : InstancePrototype) :
    Uses (S := calls) Preparatory (fun _ => True) (validateCreateInstance proto) := by
  refine ⟨trivial, ?_⟩
  intro answer
  cases answer with
  | ok value | error error => trivial

structure Unsent (plan : LaunchPlan) : Prop where
  submitted : plan.config.submitted = false
  rejected : plan.config.rejected = false
  name : plan.prototype.name = plan.config.name

def Unsubmitted (outcome : Except GoError LaunchPlan) : Prop :=
  ∀ plan, outcome = .ok plan → Unsent plan

theorem withCapacityType_name (capacityType : String) (proto : InstancePrototype) :
    (withCapacityType capacityType proto).name = proto.name := by
  unfold withCapacityType
  split
  · rfl
  · rfl

variable (error : GoError)

theorem unsubmitted_error : Unsubmitted (.error error) := by
  rintro plan ⟨⟩

theorem uses_bind {γ : Type} {program : Program β} {next : β → Program γ}
    {ends : Except GoError γ → Prop}
    (first : Uses (S := calls) Preparatory (fun _ => True) program)
    (second : ∀ value, Uses (S := calls) Preparatory ends (next value))
    (failure : ∀ error, ends (.error error)) :
    Uses (S := calls) Preparatory ends (program >>= next) :=
  Uses.bind first (fun value _ => second value) fun error _ => failure error

theorem uses_prepareLaunch (className : String) (instanceTypes : List InstanceType) :
    Uses (S := calls) Preparatory Unsubmitted
      (prepareLaunch platform claim className instanceTypes) := by
  unfold prepareLaunch
  refine uses_bind ⟨trivial, fun _ => trivial⟩ ?_ unsubmitted_error
  intro _
  refine uses_bind (uses_of_quiet (quiet_launchNodeClass className)) ?_ unsubmitted_error
  intro nodeClass
  refine uses_bind (uses_of_quiet (quiet_clusterUID trivial)) ?_ unsubmitted_error
  intro cluster
  refine uses_bind (uses_of_quiet (quiet_clientForRegion _)) ?_ unsubmitted_error
  intro _
  refine uses_bind (by rw [uses_ofExcept]; trivial) ?_ unsubmitted_error
  intro selected
  refine uses_bind (uses_of_quiet (quiet_placement nodeClass)) ?_ unsubmitted_error
  intro chosen
  refine uses_bind (uses_of_quiet (quiet_interfaceResourceGroup nodeClass)) ?_ unsubmitted_error
  intro interfaceGroup
  refine uses_bind (uses_of_quiet (quiet_launchSecurityGroups nodeClass)) ?_ unsubmitted_error
  intro securityGroups
  refine uses_bind (uses_of_quiet (quiet_launchImage nodeClass)) ?_ unsubmitted_error
  intro image
  refine uses_bind (uses_of_quiet (Quiet.wrapped _ (quiet_ask trivial))) ?_ unsubmitted_error
  intro _
  refine uses_bind (by rw [uses_ofExcept]; trivial) ?_ unsubmitted_error
  intro tags
  refine uses_bind (uses_of_quiet (Quiet.wrapped _ (quiet_ask trivial))) ?_ unsubmitted_error
  intro _
  refine uses_bind (uses_of_quiet (quiet_instanceResourceGroup nodeClass)) ?_ unsubmitted_error
  intro group
  refine uses_bind (uses_of_quiet (Quiet.wrapped _ (quiet_ask trivial))) ?_ unsubmitted_error
  intro userData
  refine uses_bind (uses_validateCreateInstance _) ?_ unsubmitted_error
  intro _
  refine uses_bind (uses_of_quiet (quiet_answered _)) ?_ unsubmitted_error
  intro hash
  refine uses_bind (uses_of_quiet (quiet_resolveAccountID platform)) ?_ unsubmitted_error
  rintro accountID plan ⟨⟩
  exact ⟨rfl, rfl, withCapacityType_name _ _⟩

theorem prepareLaunch_follows (className : String) (instanceTypes : List InstanceType)
    (phase : Phase) (idle : phase.stage = .idle) :
    Follows (launchProtocol releases)
      (fun out final => Unsubmitted out ∧ SameLaunch phase final) phase
      (prepareLaunch platform claim className instanceTypes) :=
  Uses.follows (P := launchProtocol releases) (SameLaunch phase)
    (uses_prepareLaunch platform claim className instanceTypes)
    (preparatory_stays releases phase idle) (SameLaunch.refl phase)

/-! ## Writing the checkpoint -/

def Written (stage : Stage) (config : LaunchConfig) (outcome : Except GoError NodeClaim)
    (final : Phase) : Prop :=
  ∀ claim, outcome = .ok claim →
    final.stage = stage ∧ final.copy.Holds claim ∧ launchOf claim = .launch config

theorem updateLaunch_follows (stored : NodeClaim) (config : LaunchConfig) (phase : Phase)
    (stage : Stage) (holds : phase.copy.Holds stored)
    (moves : phase.Moves releases stored (withLaunch stored config))
    (after : ∀ version, phase.stage.afterWrite (withLaunch stored config) (.ok version) = stage) :
    Follows (launchProtocol releases) (Written stage config) phase
      (updateLaunch stored config) := by
  refine ⟨⟨holds, moves⟩, ?_⟩
  intro answer
  cases answer with
  | error error =>
    rintro claim ⟨⟩
  | ok version =>
    rintro claim ⟨⟩
    exact ⟨after version, ⟨rfl, rfl, rfl⟩, launchOf_withLaunch stored config⟩

theorem holds_adoptWrite {copy : Copy} {written : NodeClaim} (holds : copy.Holds written) :
    copy.Holds (adoptWrite claim written) := by
  cases copy with
  | none | read held | wrote held => exact holds

theorem checkpointLaunch_follows (phase : Phase) (idle : phase.stage = .idle)
    (unsubmitted : config.submitted = false) (unrejected : config.rejected = false) :
    Follows (launchProtocol releases) (Written (.prepared config) config) phase
      (checkpointLaunch claim config) := by
  refine ⟨trivial, ?_⟩
  intro answer
  cases answer with
  | error error =>
    rintro written ⟨⟩
  | ok fresh =>
    refine follows_ite (fun _ => nofun) fun unchanged => ?_
    have blank : launchOf fresh = .text "" := by
      by_contra other
      exact unchanged (.inr (.inr other))
    have guarded : launchFinalizer ∈ (withLaunch fresh config).finalizers := mem_addFinalizer _ _
    have update := updateLaunch_follows releases fresh config
      ⟨phase.stage, .read fresh, none, none, none, none⟩ (.prepared config) ⟨rfl, rfl, rfl⟩
      (.prepares config ⟨idle, blank, launchOf_withLaunch fresh config,
        ⟨unsubmitted, unrejected⟩, guarded⟩)
      (by simp [idle, Stage.afterWrite, launchOf_withLaunch, unsubmitted, unrejected, guarded])
    refine Follows.bind update ?_ ?_
    · rintro written final holds adopted ⟨⟩
      obtain ⟨stage, held, launch⟩ := holds written rfl
      exact ⟨stage, holds_adoptWrite claim held, launch⟩
    · rintro error final _ written ⟨⟩

/-! ## The request and its refusal -/

/-- What `CreateInstance` leaves: after a definite refusal the stage says so. -/
def Requested (config : LaunchConfig) (phase : Phase) (outcome : Except GoError Instance)
    (final : Phase) : Prop :=
  final.copy = phase.copy ∧
    ∀ error, outcome = .error error → definitelyRefused error = true →
      final.stage = .refused config

theorem createInstance_follows (proto : InstancePrototype) (config : LaunchConfig)
    (phase : Phase) (sent : phase.stage = .submitted config)
    (named : proto.name = config.name) :
    Follows (launchProtocol releases) (Requested config phase) phase (createInstance proto) := by
  refine ⟨trivial, ?_⟩
  intro check
  cases check with
  | error error =>
    refine ⟨rfl, ?_⟩
    intro _ _ _
    change phase.stage.afterValidation (.error error) = _
    rw [sent]
    rfl
  | ok _ =>
    have stage : phase.stage.afterValidation (.ok ()) = .submitted config := by
      rw [sent]
      rfl
    refine ⟨⟨config, stage, named⟩, ?_⟩
    intro answer
    cases out : createOutcome answer with
    | ok found =>
      simp only [out]
      refine ⟨rfl, ?_⟩
      rintro error ⟨⟩
    | error error =>
      simp only [out]
      refine ⟨rfl, ?_⟩
      rintro raised ⟨⟩ refused
      change (phase.stage.afterValidation (.ok ())).afterCreate answer = _
      rw [stage]
      simp [Stage.afterCreate, answerRefused, out, refused]

theorem anything {program : Program β} {post : Except GoError β → Phase → Prop}
    (follows : Follows (launchProtocol releases) post phase program) :
    Follows (launchProtocol releases) (fun _ _ => True) phase program :=
  follows.mono fun _ _ _ => trivial

theorem retryOnConflict_follows {body : Program α} (keeps : Phase → Prop)
    (spec : ∀ phase, keeps phase → Follows (launchProtocol releases) (fun out final =>
          ∀ error, out = .error error → isKube .conflict error = true → keeps final)
        phase body)
    (retries : Nat) (phase : Phase) (kept : keeps phase) :
    Follows (launchProtocol releases) (fun _ _ => True) phase (retryOnConflict body retries) := by
  induction retries generalizing phase with
  | zero => exact anything releases (spec phase kept)
  | succ retries ih =>
    rw [retryOnConflict]
    refine Follows.attempt_bind (spec phase kept) ?_
    intro out final holds
    cases out with
    | ok value => trivial
    | error error =>
      dsimp only
      split
      · rename_i conflict
        exact ih final (holds error rfl conflict)
      · trivial

theorem markLaunchRejected_follows (phase : Phase) (refused : phase.stage = .refused config) :
    Follows (launchProtocol releases) (fun _ _ => True) phase
      (markLaunchRejected claim config) := by
  refine retryOnConflict_follows releases (fun current => current.stage = .refused config)
    ?_ 4 phase refused
  intro current stage
  refine ⟨trivial, ?_⟩
  intro answer
  cases answer with
  | error error => exact fun _ _ _ => stage
  | ok fresh =>
    change Follows (launchProtocol releases) _
      ⟨current.stage, .read fresh, none, none, none, none⟩ (if _ then _ else _)
    refine follows_ite (fun _ _ _ _ => stage) fun unchanged => ?_
    have own : launchOf fresh = .launch config := by
      by_contra other
      exact unchanged (.inr other)
    refine ⟨⟨⟨rfl, rfl, rfl⟩, .marks config ⟨stage, own, launchOf_withLaunch fresh _,
      mem_addFinalizer _ _⟩⟩, ?_⟩
    intro written
    cases written with
    | ok version =>
      rintro error ⟨⟩
    | error error =>
      rintro raised ⟨⟩ conflict
      rw [next_patchClaim, stage]
      exact if_pos conflict

theorem recoverAfterFailure_follows (phase : Phase) :
    Follows (launchProtocol releases) (fun _ _ => True) phase
      (recoverAfterFailure platform claim config error) := by
  refine Follows.attempt_bind (recoverLaunch_follows releases platform claim config phase) ?_
  intro out final _
  cases out with
  | ok node | error _ => trivial

theorem failedLaunch_follows (phase : Phase)
    (stage : definitelyRefused error = true → phase.stage = .refused config) :
    Follows (launchProtocol releases) (fun _ _ => True) phase
      (failedLaunch platform claim config error) := by
  unfold failedLaunch
  split
  · rename_i refused
    refine Follows.attempt_bind
      (markLaunchRejected_follows releases claim config phase (stage refused)) ?_
    intro out final _
    cases out with
    | ok marked => exact recoverAfterFailure_follows releases platform marked _ error final
    | error _ => trivial
  · exact recoverAfterFailure_follows releases platform claim config error phase

theorem uses_finishLaunch : Quiet Ambient (finishLaunch claim config found) := by
  unfold finishLaunch
  split
  · refine Quiet.bind (quiet_ofExcept _ (errorForeign_verifyInstanceAccount found _)) ?_
    intro _
    refine Quiet.bind (Quiet.wrapped _ (quiet_ask trivial)) ?_
    intro _
    refine quiet_call trivial ?_
    intro answer
    cases answer with
    | ok _ | error _ => trivial
  · exact quiet_failWith _

/-! ## Create -/

theorem submitLaunch_follows (fresh : NodeClaim) (plan : LaunchPlan) (phase : Phase)
    (idle : phase.stage = .idle) (unsent : Unsent plan) :
    Follows (launchProtocol releases) (fun _ _ => True) phase
      (submitLaunch platform fresh plan) := by
  unfold submitLaunch
  refine Follows.bind
    (checkpointLaunch_follows releases fresh plan.config phase idle unsent.submitted
      unsent.rejected) ?_
    fun _ _ _ => trivial
  intro claim prepared written
  obtain ⟨stage, held, launch⟩ := written claim rfl
  refine Follows.bind (findLaunch_follows releases plan.config prepared) ?_ fun _ _ _ => trivial
  intro found sought holds
  obtain ⟨_, ⟨sameStage, sameCopy⟩, _⟩ := holds
  cases found with
  | some current =>
    exact anything releases (recoverLaunch_follows releases platform claim plan.config sought)
  | none =>
    refine now_bind releases ?_
    intro time
    -- The clock is read after the list, and the same reading stamps the checkpoint.
    have stamped := updateLaunch_follows releases claim
      { plan.config with submitted := true, submittedAt := time }
      { sought with clock := some time }
      (.submitted { plan.config with submitted := true, submittedAt := time })
      (by rw [sameCopy]; exact held)
      (.submits plan.config time ⟨sameStage.trans stage, launch, rfl,
        launchOf_withLaunch claim _, mem_addFinalizer _ _⟩)
      (by simp [sameStage, stage, Stage.afterWrite, launchOf_withLaunch])
    refine Follows.bind stamped ?_ fun _ _ _ => trivial
    intro claim submitted written
    obtain ⟨stage, _, _⟩ := written claim rfl
    refine Follows.attempt_bind
      (createInstance_follows releases plan.prototype _ submitted stage unsent.name) ?_
    intro out final requested
    cases out with
    | ok found => exact anything releases (quiet_follows releases (uses_finishLaunch _ _ _) final)
    | error error =>
      exact failedLaunch_follows releases platform claim _ error final (requested.2 error rfl)

theorem discardLaunch_follows (phase : Phase) (idle : phase.stage = .idle)
    (held : phase.copy.Holds claim) (launch : launchOf claim = .launch config)
    (abandons : phase.Abandons config) :
    Follows (launchProtocol releases) (fun _ _ => True) phase (discardLaunch claim config) := by
  refine ⟨⟨held, .resets config ⟨idle, launch, launchOf_withoutLaunch claim, abandons⟩⟩, ?_⟩
  intro answer
  cases answer with
  | ok version | error error => trivial

theorem abandons_of_abandoned {config : LaunchConfig} {time : Nat}
    (abandoned : abandoned config time = true) (listed : phase.absent = some config.name)
    (clock : phase.clock = some time) : phase.Abandons config := by
  simp only [VPCLaunch.abandoned, Bool.or_eq_true, Bool.not_eq_true', decide_eq_true_eq]
    at abandoned
  rcases abandoned with (rejected | unsubmitted) | late
  · exact .rejected rejected
  · exact .unsubmitted unsubmitted
  · exact .expired time listed clock late

theorem resumeLaunch_follows (phase : Phase) (idle : phase.stage = .idle)
    (held : phase.copy.Holds claim) :
    Follows (launchProtocol releases) (fun _ _ => True) phase (resumeLaunch platform claim) := by
  unfold resumeLaunch
  rw [follows_bind_iff, follows_ofExcept_iff]
  cases decoded : decodeLaunch platform (launchOf claim) with
  | error error => trivial
  | ok config =>
    have launch := decodeLaunch_ok decoded
    dsimp only
    by_cases pending : (config.submitted && !config.rejected) = true
    · rw [if_pos pending]
      refine Follows.attempt_bind (recoverLaunch_follows releases platform claim config phase) ?_
      intro out final recovered
      obtain ⟨⟨sameStage, sameCopy⟩, absent⟩ := recovered
      cases out with
      | ok node => trivial
      | error error =>
        dsimp only
        split
        · rename_i unresolved
          refine now_bind releases ?_
          intro time
          split
          · rename_i given
            exact discardLaunch_follows releases claim config
              { final with clock := some time } (sameStage.trans idle)
              (by rw [sameCopy]; exact held) launch
              (abandons_of_abandoned given (absent error rfl unresolved) rfl)
          · trivial
        · trivial
    · rw [if_neg pending]
      refine discardLaunch_follows releases claim config phase idle held launch ?_
      cases rejected : config.rejected with
      | true => exact .rejected rejected
      | false =>
        refine .unsubmitted ?_
        simpa [rejected] using pending

theorem create_follows (instanceTypes : List InstanceType) :
    Follows (launchProtocol releases) (fun _ _ => True) Phase.start
      (create platform claim instanceTypes) := by
  unfold create
  split
  · trivial
  rename_i className _
  split
  · trivial
  refine ⟨trivial, ?_⟩
  intro answer
  cases answer with
  | error error => trivial
  | ok fresh =>
    refine follows_ite (fun _ => trivial) fun _ => ?_
    refine follows_ite (fun _ => ?_) fun _ => ?_
    · exact resumeLaunch_follows releases platform fresh _ rfl ⟨rfl, rfl, rfl⟩
    refine Follows.bind (prepareLaunch_follows releases platform claim className
      instanceTypes _ rfl) ?_ fun _ _ _ => trivial
    intro plan final prepared
    obtain ⟨unsubmitted, stage, _⟩ := prepared
    exact submitLaunch_follows releases platform fresh plan final stage (unsubmitted plan rfl)

/-! ## Reconcile -/

def Decided (claim : NodeClaim) (phase : Phase) (outcome : Except GoError Bool)
    (final : Phase) : Prop :=
  SameLaunch phase final ∧ (outcome = .ok true → final.Resolves claim)

theorem decided_false {final : Phase} (same : SameLaunch phase final) :
    Decided claim phase (.ok false) final := by
  refine ⟨same, ?_⟩
  rintro ⟨⟩

theorem decided_error {final : Phase} (error : GoError) (same : SameLaunch phase final) :
    Decided claim phase (.error error) final := by
  refine ⟨same, ?_⟩
  rintro ⟨⟩

theorem next_getInstance_gone {id : String} {error : ApiError}
    (gone : isNotFound (.wrap "getting instance: " error.val "") = true) :
    phase.next (.getInstance id) (.error error) = { phase with gone := some id } :=
  if_pos gone

theorem confirmGone_follows (id : String) (start phase : Phase) (same : SameLaunch start phase)
    (launch : launchOf claim = .launch config) (found : phase.found = some id) :
    Follows (launchProtocol releases) (Decided claim start) phase (confirmGone id) := by
  refine ⟨trivial, ?_⟩
  intro answer
  have moved := same.trans (sameLaunch_getInstance phase id answer)
  cases answer with
  | ok current => exact decided_false claim moved
  | error error =>
    refine follows_ite (fun gone => ?_) fun _ => decided_error claim _ moved
    refine ⟨moved, fun _ => ?_⟩
    change (phase.next (.getInstance id) (.error error)).Resolves claim
    rw [next_getInstance_gone gone]
    exact .deleted config launch id found rfl

theorem cleanupPending_follows (phase : Phase) (unpublished : claim.providerID = "") :
    Follows (launchProtocol releases) (Decided claim phase) phase
      (cleanupPending platform claim) := by
  have failure : ∀ error : GoError, error.foreign = true →
      Decided claim phase (.error error) phase :=
    fun error _ => decided_error claim error (SameLaunch.refl phase)
  unfold cleanupPending
  rw [follows_bind_iff, follows_ofExcept_iff]
  cases decoded : decodeLaunch platform (launchOf claim) with
  | error error => exact decided_error claim error (SameLaunch.refl phase)
  | ok config =>
    have launch := decodeLaunch_ok decoded
    refine quiet_bind releases (quiet_validateLaunchTarget platform claim config) ?_ failure
    intro _
    refine quiet_bind releases (quiet_clientForRegion config.region) ?_ failure
    intro _
    refine Follows.bind (findLaunch_follows releases config phase) ?_ ?_
    · intro found final holds
      obtain ⟨_, same, absent, read⟩ := holds
      cases found with
      | none =>
        refine now_bind releases ?_
        intro time
        refine ⟨same, ?_⟩
        intro complete
        have given : abandoned config time = true := Except.ok.inj complete
        exact .nothing config launch unpublished
          (abandons_of_abandoned given (absent rfl) rfl) (absent rfl)
      | some current =>
        have known := read current rfl
        have foreign : ∀ error : GoError, error.foreign = true →
            Decided claim phase (.error error) final :=
          fun error _ => decided_error claim error same
        dsimp only
        split
        · exact decided_error claim _ same
        rename_i id identified
        refine quiet_bind releases (quiet_ask trivial) ?_ foreign
        intro nodes
        refine quiet_bind releases (quiet_releaseNodes _ nodes false) ?_ foreign
        intro registered
        split
        · exact decided_false claim same
        have confirms := confirmGone_follows releases claim config id phase final same
          launch (known.trans identified)
        refine Follows.attempt_bind (quiet_follows releases (quiet_deleteInstance id) final) ?_
        intro out after holds
        rw [holds.2]
        cases out with
        | ok _ => exact confirms
        | error error =>
          dsimp only
          split
          · exact confirms
          · exact decided_error claim error same
    · intro error final holds
      exact decided_error claim error holds.2.1

theorem getFresh_follows (providerID : String) (phase : Phase) : Follows (launchProtocol releases)
      (fun out final => SameLaunch phase final ∧
        ∀ error, out = .error error → isNodeClaimNotFoundError error = true →
          final.gone = some (extractInstanceIDFromProviderID providerID))
      phase (getFresh platform providerID) := by
  have failure : ∀ (final : Phase) (error : GoError), error.foreign = true →
      SameLaunch phase final → SameLaunch phase final ∧
        ∀ raised, (Except.error error : Except GoError Unit) = .error raised →
          isNodeClaimNotFoundError raised = true →
          final.gone = some (extractInstanceIDFromProviderID providerID) := by
    intro final error foreign same
    refine ⟨same, ?_⟩
    rintro raised ⟨⟩ notFound
    rw [isNodeClaimNotFoundError_foreign foreign] at notFound
    cases notFound
  unfold getFresh
  dsimp only
  split
  · exact failure phase _ rfl (SameLaunch.refl phase)
  refine quiet_bind releases (quiet_clientForRegion _) ?_
    fun error foreign => failure phase error foreign (SameLaunch.refl phase)
  intro _
  refine quiet_bind releases (quiet_resolveAccountID platform) ?_
    fun error foreign => failure phase error foreign (SameLaunch.refl phase)
  intro accountID
  refine ⟨trivial, ?_⟩
  intro answer
  have moved := sameLaunch_getInstance phase (extractInstanceIDFromProviderID providerID) answer
  cases answer with
  | error error =>
    refine follows_ite (fun gone => ?_) fun _ => failure _ _ error.property moved
    refine ⟨moved, fun _ _ _ => ?_⟩
    exact congrArg Phase.gone (next_getInstance_gone gone)
  | ok found =>
    refine follows_ite (fun _ => failure _ _ rfl moved) fun _ => ?_
    rw [follows_ofExcept_iff]
    have foreign := errorForeign_verifyInstanceAccount found accountID
    cases verified : verifyInstanceAccount found accountID with
    | ok _ =>
      refine ⟨moved, ?_⟩
      rintro raised ⟨⟩
    | error error =>
      rw [verified] at foreign
      exact failure _ _ foreign moved

theorem launchResolved_follows (phase : Phase) :
    Follows (launchProtocol releases) (Decided claim phase) phase
      (launchResolved platform claim) := by
  unfold launchResolved
  split
  · rename_i published
    refine Follows.attempt_bind (getFresh_follows releases platform claim.providerID phase) ?_
    intro out final holds
    obtain ⟨same, gone⟩ := holds
    cases out with
    | ok _ => exact decided_false claim same
    | error error =>
      dsimp only
      split
      · rename_i notFound
        exact ⟨same, fun _ => .published published (gone error rfl notFound)⟩
      · exact decided_error claim error same
  · rename_i unpublished
    exact cleanupPending_follows releases platform claim phase (not_not.mp unpublished)

theorem reconcile_follows (releasing : releases) (platform : Platform) (name : String) :
    Follows (launchProtocol releases) (fun _ _ => True) Phase.start (reconcile platform name) := by
  refine ⟨trivial, ?_⟩
  intro answer
  cases answer with
  | error error => exact follows_ite (fun _ => trivial) fun _ => trivial
  | ok claim =>
    refine follows_ite (fun _ => trivial) fun finalizing => ?_
    have terminating : claim.deletionTimestamp ≠ none := fun live => finalizing (.inl live)
    refine quiet_bind releases (quiet_validateClaimTarget platform claim) ?_ fun _ _ => trivial
    intro _
    refine Follows.bind (launchResolved_follows releases platform claim _) ?_ fun _ _ _ => trivial
    intro complete final decided
    obtain ⟨⟨stage, copy⟩, resolves⟩ := decided
    split
    · rename_i done
      subst done
      refine ⟨⟨?_, .releases releasing ⟨stage, copy, terminating, rfl, resolves rfl⟩⟩, ?_⟩
      · rw [copy]
        exact ⟨rfl, rfl, rfl⟩
      intro written
      cases written with
      | ok version | error error => trivial
    · trivial

end KarpenterIBM.LaunchConformance
