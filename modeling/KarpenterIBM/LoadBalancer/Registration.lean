import KarpenterIBM.LoadBalancer.Members

/-!
# Registering again after a failure

`RegisterInstance` creates a member in the pool of every target group without a look at the
members that are there.
-/

namespace KarpenterIBM.LoadBalancer

open EffectProgram Errors List

/-! ## The load balancers -/

/-- The pools of each load balancer, and the members of each pool by instance and port. -/
structure Registry where
  pools : String → List Pool
  members : String → String → List (String × Int)

variable (registry : Registry)

/-- How many members of the pool are for the instance and the port. -/
def Registry.held (loadBalancerID poolID instanceID : String) (port : Int) : Nat :=
  (registry.members loadBalancerID poolID).count (instanceID, port)

def Registry.add (loadBalancerID poolID instanceID : String) (port : Int) : Registry :=
  { registry with
    members := fun balancerID id =>
      if balancerID = loadBalancerID ∧ id = poolID then
        (instanceID, port) :: registry.members balancerID id
      else registry.members balancerID id }

/-- The API takes another member for the instance and the port: always, or, when it is
`strict`, only the first one. -/
def Registry.accepts (strict : Bool) (loadBalancerID poolID instanceID : String) (port : Int) :
    Prop :=
  strict = true → registry.held loadBalancerID poolID instanceID port = 0

instance (registry : Registry) (strict : Bool) (loadBalancerID poolID instanceID : String)
    (port : Int) : Decidable (registry.accepts strict loadBalancerID poolID instanceID port) :=
  inferInstanceAs (Decidable (_ → _))

/-- The load balancer API.  When it is `faulty` any call may fail, and a creation that fails
may have taken effect: its answer was lost, or the wait for the new member failed. -/
def registers (strict faulty : Bool) : Service balancer Registry
  | before, .listPools loadBalancerID, answer, after =>
    after = before ∧
      Settles answer (fun found => found = before.pools loadBalancerID) (faulty = true)
  | before, .createMember loadBalancerID poolID instanceID port _, answer, after =>
    Settles answer
      (fun _ => before.accepts strict loadBalancerID poolID instanceID port ∧
        after = before.add loadBalancerID poolID instanceID port)
      ((after = before ∧
          (faulty = true ∨ ¬before.accepts strict loadBalancerID poolID instanceID port)) ∨
        (faulty = true ∧ before.accepts strict loadBalancerID poolID instanceID port ∧
          after = before.add loadBalancerID poolID instanceID port))
  | before, _, _, after => after = before

theorem held_add (loadBalancerID poolID instanceID : String) (port : Int) (balancerID id : String)
    (otherPort : Int) :
    (registry.add loadBalancerID poolID instanceID port).held balancerID id instanceID otherPort =
      registry.held balancerID id instanceID otherPort +
        if balancerID = loadBalancerID ∧ id = poolID ∧ otherPort = port then 1 else 0 := by
  unfold Registry.held Registry.add
  dsimp only
  by_cases here : balancerID = loadBalancerID ∧ id = poolID
  · rw [if_pos here, count_cons]
    by_cases same : otherPort = port
    · simp [here, same]
    · have other : port ≠ otherPort := fun equal => same equal.symm
      simp [here, same, other]
  · rw [if_neg here, if_neg (fun all => here ⟨all.1, all.2.1⟩), Nat.add_zero]

/-! ## One call when the API has stopped failing -/

def Registry.names (loadBalancerID poolID : String) (port : Int) (target : LoadBalancerTarget) :
    Bool :=
  decide (target.loadBalancerID = loadBalancerID) &&
    decide ((poolNamed (registry.pools loadBalancerID) target.poolName).map Pool.id =
      some poolID) &&
    decide (target.port = port)

def registered (strict : Bool) (instanceID : String) (target : LoadBalancerTarget)
    (before : Registry) : Bool × Registry :=
  match poolNamed (before.pools target.loadBalancerID) target.poolName with
  | none => (false, before)
  | some pool =>
    if before.accepts strict target.loadBalancerID pool.id instanceID target.port then
      (true, before.add target.loadBalancerID pool.id instanceID target.port)
    else (false, before)

def registeredAll (strict : Bool) (instanceID : String) :
    List LoadBalancerTarget → Registry → Bool × Registry
  | [], before => (true, before)
  | target :: rest, before =>
    let first := registered strict instanceID target before
    let others := registeredAll strict instanceID rest first.2
    (first.1 && others.1, others.2)

variable {target : LoadBalancerTarget}

section
variable {strict : Bool} {instanceID : String} {before after : Registry}

variable (strict) in
theorem registers_answers (state : Registry) (op : balancer.Op) :
    ∃ answer after, registers strict false state op answer after := by
  cases op with
  | getClaim | getNodeClass name | getNode name => exact ⟨.error (.plain ""), state, rfl⟩
  | updateClaim claim | deleteMember balancerID poolID memberID => exact ⟨.ok (), state, rfl⟩
  | timestamp => exact ⟨"", state, rfl⟩
  | listPools balancerID => exact ⟨.ok (state.pools balancerID), state, rfl, rfl⟩
  | createMember balancerID poolID instanceID port weight =>
    by_cases accepted : state.accepts strict balancerID poolID instanceID port
    · exact ⟨.ok "", _, accepted, rfl⟩
    · exact ⟨.error (.plain ""), state, .inl ⟨rfl, .inr accepted⟩⟩
  | listMembers balancerID poolID => exact ⟨.ok [], state, rfl⟩

theorem ends_registered {outcome : Except GoError Unit}
    (ends : Ends (registers strict false) before (registerInstanceInTarget target instanceID)
      outcome after) :
    (outcome = .ok () ↔ (registered strict instanceID target before).1 = true) ∧
      after = (registered strict instanceID target before).2 := by
  unfold registered
  obtain ⟨unsteady | unnamed, rfl, error, rfl⟩ | ⟨pool, named, answer, served, worked⟩ :=
    ends_registerInstanceInTarget (fun _ _ served => served) rfl ends
  · cases unsteady
  · rw [unnamed]
    exact ⟨iff_of_false nofun Bool.false_ne_true, rfl⟩
  rw [named, worked]
  dsimp only
  cases answer with
  | ok id =>
    rw [if_pos served.1]
    exact ⟨iff_of_true ⟨id, rfl⟩ rfl, served.2⟩
  | error error =>
    rcases served with ⟨same, faulty | refused⟩ | ⟨faulty, _⟩
    · cases faulty
    · rw [if_neg refused]
      exact ⟨iff_of_false nofun Bool.false_ne_true, same⟩
    · cases faulty

variable {targets : List LoadBalancerTarget}

theorem ends_forTargets {outcome : Except GoError (List GoError)}
    (ends : Ends (registers strict false) before
      (forTargets (registerInstanceInTarget · instanceID) targets) outcome after) :
    (∃ errs, outcome = .ok errs ∧
      (errs = [] ↔ (registeredAll strict instanceID targets before).1 = true)) ∧
      after = (registeredAll strict instanceID targets before).2 := by
  induction targets generalizing before after outcome with
  | nil =>
    obtain ⟨rfl, rfl⟩ := ends
    exact ⟨⟨[], rfl, iff_of_true rfl rfl⟩, rfl⟩
  | cons target rest ih =>
    obtain ⟨result, mid, ran, ended⟩ := ends_attempt_bind ends
    obtain ⟨worked, rfl⟩ := ends_registered ran
    obtain ⟨_, _, later, closed⟩ := (ends_bind_iff _ _ _ _ _).mp ended
    obtain ⟨⟨errs, rfl, clean⟩, rfl⟩ := ih later
    rw [registeredAll]
    dsimp only
    rw [Bool.and_eq_true]
    cases result with
    | ok value =>
      obtain ⟨rfl, rfl⟩ := closed
      refine ⟨⟨errs, rfl, ?_⟩, rfl⟩
      rw [clean]
      exact ⟨fun others => ⟨worked.mp rfl, others⟩, And.right⟩
    | error error =>
      obtain ⟨rfl, rfl⟩ := closed
      refine ⟨⟨error :: errs, rfl, iff_of_false nofun fun both => ?_⟩, rfl⟩
      cases worked.mpr both.1

theorem ends_registerInstance {nodeClass : Option NodeClass} {outcome : Except GoError Unit}
    (ends : Ends (registers strict false) before
      (registerInstance nodeClass instanceID) outcome after) :
    (outcome = .ok () ↔ (registeredAll strict instanceID (targetsOf nodeClass) before).1 = true) ∧
      after = (registeredAll strict instanceID (targetsOf nodeClass) before).2 := by
  obtain ⟨_, looped, same⟩ := ends_registerInstance_loop ends
  obtain ⟨⟨errs, rfl, clean⟩, moved⟩ := ends_forTargets looped
  rw [Except.ok.injEq] at same
  exact ⟨same.trans clean, moved⟩

/-! ## Counting members -/

variable (strict instanceID before) in
theorem registered_pools (target : LoadBalancerTarget) :
    (registered strict instanceID target before).2.pools = before.pools := by
  unfold registered
  split
  · rfl
  split_ifs
  · rfl
  · rfl

theorem registered_succeeds (success : (registered strict instanceID target before).1 = true) :
    (∃ pool, poolNamed (before.pools target.loadBalancerID) target.poolName = some pool) ∧
    ∀ balancerID poolID port,
      (registered strict instanceID target before).2.held balancerID poolID instanceID port =
        before.held balancerID poolID instanceID port +
          if before.names balancerID poolID port target then 1 else 0 := by
  unfold registered at success ⊢
  cases found : poolNamed (before.pools target.loadBalancerID) target.poolName with
  | none =>
    rw [found] at success
    cases success
  | some pool =>
    rw [found] at success
    dsimp only at success ⊢
    split_ifs at success ⊢ with accepted
    refine ⟨⟨pool, rfl⟩, fun balancerID poolID port => ?_⟩
    rw [held_add]
    congr 1
    refine if_congr ?_ rfl rfl
    simp only [Registry.names, Bool.and_eq_true, decide_eq_true_eq]
    constructor
    · rintro ⟨rfl, rfl, rfl⟩
      exact ⟨⟨rfl, by rw [found]; rfl⟩, rfl⟩
    rintro ⟨⟨rfl, named⟩, rfl⟩
    rw [found] at named
    exact ⟨rfl, (Option.some.inj named).symm, rfl⟩

theorem names_congr {first second : Registry} (same : first.pools = second.pools)
    (balancerID poolID : String) (port : Int) :
    first.names balancerID poolID port = second.names balancerID poolID port := by
  funext target
  rw [Registry.names, Registry.names, same]

variable (strict instanceID before) in
theorem registeredAll_pools (targets : List LoadBalancerTarget) :
    (registeredAll strict instanceID targets before).2.pools = before.pools := by
  induction targets generalizing before with
  | nil => rfl
  | cons target rest ih =>
    rw [registeredAll]
    exact (ih _).trans (registered_pools strict instanceID before target)

theorem registeredAll_succeeds
    (success : (registeredAll strict instanceID targets before).1 = true) :
    (∀ target ∈ targets, ∃ pool,
      poolNamed (before.pools target.loadBalancerID) target.poolName = some pool) ∧
    ∀ balancerID poolID port,
      (registeredAll strict instanceID targets before).2.held balancerID poolID instanceID port =
        before.held balancerID poolID instanceID port +
          targets.countP (before.names balancerID poolID port) := by
  induction targets generalizing before with
  | nil => exact ⟨nofun, fun _ _ _ => rfl⟩
  | cons target rest ih =>
    rw [registeredAll] at success ⊢
    dsimp only at success ⊢
    rw [Bool.and_eq_true] at success
    obtain ⟨firstPool, firstHeld⟩ := registered_succeeds success.1
    obtain ⟨restPools, restHeld⟩ := ih success.2
    have samePools := registered_pools strict instanceID before target
    refine ⟨?_, fun balancerID poolID port => ?_⟩
    · intro other mem
      rcases mem_cons.mp mem with rfl | later
      · exact firstPool
      · rw [← samePools]
        exact restPools other later
    · rw [restHeld, firstHeld, names_congr samePools, countP_cons]
      omega

end

/-! ## Convergence -/

def Placed (targets : List LoadBalancerTarget) (instanceID : String) : Prop :=
  ∀ target ∈ targets, ∃ pool,
    poolNamed (registry.pools target.loadBalancerID) target.poolName = some pool ∧
      registry.held target.loadBalancerID pool.id instanceID target.port = 1

/-- Every target group names a pool without a member for the instance and its port, and no
other target group names that pool and port. -/
def Unregistered (targets : List LoadBalancerTarget) (instanceID : String) : Prop :=
  ∀ target ∈ targets, ∃ pool,
    poolNamed (registry.pools target.loadBalancerID) target.poolName = some pool ∧
      registry.held target.loadBalancerID pool.id instanceID target.port = 0 ∧
      targets.countP (registry.names target.loadBalancerID pool.id target.port) = 1

/-- A call at an API that has stopped failing returns, succeeds and leaves one member for
each target group. -/
structure Converges (strict : Bool) (registry : Registry) (nodeClass : Option NodeClass)
    (instanceID : String) : Prop where
  returns : ∃ outcome after,
    Ends (registers strict false) registry (registerInstance nodeClass instanceID) outcome after
  succeeds : ∀ outcome after,
    Ends (registers strict false) registry (registerInstance nodeClass instanceID) outcome
        after →
      outcome = .ok () ∧ Placed after (targetsOf nodeClass) instanceID

section
variable {strict : Bool} {registry : Registry} {nodeClass : Option NodeClass}
  {instanceID : String}

theorem converges_iff_registeredAll : Converges strict registry nodeClass instanceID ↔
      (registeredAll strict instanceID (targetsOf nodeClass) registry).1 = true ∧
        Placed (registeredAll strict instanceID (targetsOf nodeClass) registry).2
          (targetsOf nodeClass) instanceID := by
  have returns :=
    exists_ends (registers_answers strict) (registerInstance nodeClass instanceID) registry
  constructor
  · intro converges
    obtain ⟨outcome, after, ends⟩ := returns
    obtain ⟨success, placed⟩ := converges.succeeds outcome after ends
    obtain ⟨worked, rfl⟩ := ends_registerInstance ends
    exact ⟨worked.mp success, placed⟩
  · rintro ⟨success, placed⟩
    refine ⟨returns, fun outcome after ends => ?_⟩
    obtain ⟨worked, rfl⟩ := ends_registerInstance ends
    exact ⟨worked.mpr success, placed⟩

theorem names_self {pool : Pool}
    (found : poolNamed (registry.pools target.loadBalancerID) target.poolName = some pool) :
    registry.names target.loadBalancerID pool.id target.port target = true := by
  simp [Registry.names, found]

theorem Unregistered.tail {rest : List LoadBalancerTarget}
    (absent : Unregistered registry (target :: rest) instanceID)
    (success : (registered strict instanceID target registry).1 = true) :
    Unregistered (registered strict instanceID target registry).2 rest instanceID := by
  intro other later
  obtain ⟨pool, found, unheld, single⟩ := absent other (mem_cons_of_mem _ later)
  have samePools := registered_pools strict instanceID registry target
  have itself : 0 < rest.countP (registry.names other.loadBalancerID pool.id other.port) :=
    countP_pos_iff.mpr ⟨other, later, names_self found⟩
  rw [countP_cons] at single
  have unnamed : (if registry.names other.loadBalancerID pool.id other.port target then 1 else 0)
      = 0 := by
    omega
  refine ⟨pool, ?_, ?_, ?_⟩
  · rw [samePools]
    exact found
  · rw [(registered_succeeds success).2, unheld, unnamed]
  · rw [names_congr samePools]
    omega

variable (strict) in
theorem registeredAll_of_unregistered {targets : List LoadBalancerTarget}
    (absent : Unregistered registry targets instanceID) :
    (registeredAll strict instanceID targets registry).1 = true := by
  induction targets generalizing registry with
  | nil => rfl
  | cons target rest ih =>
    obtain ⟨pool, found, unheld, _⟩ := absent target mem_cons_self
    have success : (registered strict instanceID target registry).1 = true := by
      have accepted : registry.accepts strict target.loadBalancerID pool.id instanceID
          target.port := fun _ => unheld
      rw [registered, found]
      dsimp only
      rw [if_pos accepted]
    rw [registeredAll]
    dsimp only
    rw [success, ih (absent.tail success)]
    rfl

end

/-- A further call converges, at an API that rejects a duplicate member and at one that
accepts it, exactly when the instance is in none of the pools yet and no two target groups
name the same pool and port. -/
theorem registration_converges_iff (strict : Bool) (registry : Registry)
    (nodeClass : Option NodeClass) (instanceID : String) :
    Converges strict registry nodeClass instanceID ↔
      Unregistered registry (targetsOf nodeClass) instanceID := by
  rw [converges_iff_registeredAll]
  have samePools := registeredAll_pools strict instanceID registry (targetsOf nodeClass)
  constructor
  · rintro ⟨success, placed⟩ target member
    obtain ⟨pool, found, one⟩ := placed target member
    rw [samePools] at found
    rw [(registeredAll_succeeds success).2] at one
    have itself : 0 < (targetsOf nodeClass).countP
        (registry.names target.loadBalancerID pool.id target.port) :=
      countP_pos_iff.mpr ⟨target, member, names_self found⟩
    exact ⟨pool, found, by omega, by omega⟩
  · intro absent
    have success := registeredAll_of_unregistered strict absent
    refine ⟨success, fun target member => ?_⟩
    obtain ⟨pool, found, unheld, single⟩ := absent target member
    refine ⟨pool, by rw [samePools]; exact found, ?_⟩
    rw [(registeredAll_succeeds success).2, unheld, single]

/-! ## Histories of calls that may fail -/

/-- What calls at a faulty API, for any NodeClasses and instances, make of the pools. -/
inductive History (strict : Bool) (start : Registry) : Registry → Prop where
  | start : History strict start start
  | call {before after : Registry} {nodeClass : Option NodeClass} {instanceID : String}
      {outcome : Except GoError Unit} (earlier : History strict start before)
      (ends : Ends (registers strict true) before (registerInstance nodeClass instanceID)
        outcome after) : History strict start after

structure Grows (before after : Registry) : Prop where
  pools : after.pools = before.pools
  members : ∀ loadBalancerID poolID,
    before.members loadBalancerID poolID <:+ after.members loadBalancerID poolID

theorem grows_add (loadBalancerID poolID instanceID : String) (port : Int) :
    Grows registry (registry.add loadBalancerID poolID instanceID port) := by
  refine ⟨rfl, fun balancerID id => ?_⟩
  unfold Registry.add
  dsimp only
  split_ifs
  · exact suffix_cons _ _
  · exact suffix_refl _

theorem Grows.refl : Grows registry registry :=
  ⟨rfl, fun _ _ => suffix_refl _⟩

theorem Grows.trans {first second third : Registry} (one : Grows first second)
    (two : Grows second third) : Grows first third :=
  ⟨two.pools.trans one.pools, fun balancerID poolID =>
    (one.members balancerID poolID).trans (two.members balancerID poolID)⟩

variable {strict : Bool}

theorem registers_grows {faulty : Bool} {before after : Registry} {op : balancer.Op}
    {answer : balancer.Res op} (served : registers strict faulty before op answer after) :
    Grows before after := by
  have unmoved : after = before → Grows before after := fun same => same ▸ Grows.refl before
  cases op with
  | getClaim | getNodeClass name | getNode name | updateClaim claim | timestamp
  | listMembers balancerID poolID | deleteMember balancerID poolID memberID => exact unmoved served
  | listPools balancerID => exact unmoved served.1
  | createMember balancerID poolID instanceID port weight =>
    cases answer with
    | ok id =>
      rw [served.2]
      exact grows_add ..
    | error error =>
      rcases served with ⟨same, _⟩ | ⟨_, _, added⟩
      · exact unmoved same
      · rw [added]
        exact grows_add ..

theorem History.grows {start later : Registry} (history : History strict start later) :
    Grows start later := by
  induction history with
  | start => exact Grows.refl start
  | call earlier ends ih =>
    refine Ends.keeps (Grows start) ?_ ih ends
    exact fun before op answer after served kept => kept.trans (registers_grows served)

theorem History.never_converges {start later : Registry} (history : History strict start later)
    {nodeClass : Option NodeClass} {instanceID : String} {target : LoadBalancerTarget}
    (mem : target ∈ targetsOf nodeClass) {pool : Pool}
    (found : poolNamed (start.pools target.loadBalancerID) target.poolName = some pool)
    (present : 0 < start.held target.loadBalancerID pool.id instanceID target.port) :
    ¬Converges strict later nodeClass instanceID := by
  have grows := history.grows
  rw [converges_iff_registeredAll]
  rintro ⟨success, placed⟩
  obtain ⟨other, foundLater, one⟩ := placed target mem
  rw [registeredAll_pools, grows.pools, found] at foundLater
  obtain rfl := Option.some.inj foundLater
  have kept : start.held target.loadBalancerID pool.id instanceID target.port ≤
      later.held target.loadBalancerID pool.id instanceID target.port :=
    (grows.members _ _).sublist.count_le _
  have itself : 0 < (targetsOf nodeClass).countP
      (later.names target.loadBalancerID pool.id target.port) := by
    refine countP_pos_iff.mpr ⟨target, mem, names_self ?_⟩
    rw [grows.pools]
    exact found
  rw [(registeredAll_succeeds success).2] at one
  omega

/-! ## Two target groups, of which one failed -/

def twoPools : Registry where
  pools _ := [⟨some "a", "a"⟩, ⟨some "b", "b"⟩]
  members _ _ := []

def twoTargets : Option NodeClass :=
  some ⟨some ⟨true, [⟨"l", "a", 80, none⟩, ⟨"l", "b", 80, none⟩], none⟩⟩

/-- The pools after a call whose second creation failed. -/
def halfRegistered : Registry := twoPools.add "l" "a" "i" 80

theorem half_registers (strict : Bool) :
    ∃ error, Ends (registers strict true) twoPools (registerInstance twoTargets "i")
      (.error error) halfRegistered := by
  have accepted : twoPools.accepts strict "l" "a" "i" 80 := fun _ => rfl
  have refused : registers strict true halfRegistered (.createMember "l" "b" "i" 80 50)
      (.error (.plain "")) halfRegistered := .inl ⟨rfl, .inl rfl⟩
  exact ⟨_, .ok [⟨some "a", "a"⟩, ⟨some "b", "b"⟩], twoPools, ⟨rfl, rfl⟩, .ok "m",
    halfRegistered, ⟨accepted, rfl⟩, .ok [⟨some "a", "a"⟩, ⟨some "b", "b"⟩], halfRegistered,
    ⟨rfl, rfl⟩, .error (.plain ""), halfRegistered, refused, rfl, rfl⟩

/-- After it no further call converges, at either kind of API. -/
theorem retry_after_partial_failure :
    (History true twoPools halfRegistered ∧ ¬Converges true halfRegistered twoTargets "i") ∧
      (History false twoPools halfRegistered ∧ ¬Converges false halfRegistered twoTargets "i") := by
  have stuck : ∀ strict, History strict twoPools halfRegistered ∧
      ¬Converges strict halfRegistered twoTargets "i" := by
    intro strict
    obtain ⟨error, ends⟩ := half_registers strict
    refine ⟨.call .start ends, ?_⟩
    have member : (⟨"l", "a", 80, none⟩ : LoadBalancerTarget) ∈ targetsOf twoTargets := by decide
    have found : poolNamed (halfRegistered.pools "l") "a" = some ⟨some "a", "a"⟩ := rfl
    have unchanged : History strict halfRegistered halfRegistered := .start
    exact unchanged.never_converges member found (by decide)
  exact ⟨stuck true, stuck false⟩

end KarpenterIBM.LoadBalancer
