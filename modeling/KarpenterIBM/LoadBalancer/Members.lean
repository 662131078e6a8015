import KarpenterIBM.LoadBalancer.Controller
import KarpenterIBM.Lib.Service

/-!
# Members that outlive their NodeClaim

The load balancers as a service: a successful create adds one member, a successful delete
removes the member with that ID, nothing else changes members, and any call may fail.
-/

namespace KarpenterIBM.LoadBalancer

open EffectProgram Errors List Objects Relation

/-! ## The world -/

/-- The stored objects and the load balancers.  Members of a pool have distinct IDs. -/
structure World where
  claim : Option Claim
  nodeClasses : String → Option NodeClass
  nodes : String → Option (List NodeAddress)
  pools : String → List Pool
  members : String → String → List Member
  distinct : ∀ loadBalancerID poolID, ((members loadBalancerID poolID).map Member.id).Nodup

variable (world : World)

def World.setMembers (loadBalancerID poolID : String) (now : List Member)
    (nodup : (now.map Member.id).Nodup) : World :=
  { world with
    members := fun balancerID id =>
      if balancerID = loadBalancerID ∧ id = poolID then now else world.members balancerID id
    distinct := by
      intro balancerID id
      split_ifs
      · exact nodup
      · exact world.distinct balancerID id }

def World.addMember (loadBalancerID poolID : String) (member : Member)
    (fresh : member.id ∉ (world.members loadBalancerID poolID).map Member.id) : World :=
  world.setMembers loadBalancerID poolID (member :: world.members loadBalancerID poolID)
    (nodup_cons.mpr ⟨fresh, world.distinct loadBalancerID poolID⟩)

def World.removeMember (loadBalancerID poolID memberID : String) : World :=
  world.setMembers loadBalancerID poolID
    ((world.members loadBalancerID poolID).filter fun member => member.id ≠ memberID)
    ((filter_sublist.map _).nodup (world.distinct loadBalancerID poolID))

def Settles {α : Type} (answer : Except GoError α) (done : α → Prop) (failed : Prop) : Prop :=
  match answer with
  | .ok value => done value
  | .error _ => failed

/-- The API server and the load balancer service.  Any call may fail; when `steady`, the
listings and the deletion of members do not. -/
def serves (steady : Bool) : Service balancer World
  | world, .getClaim, answer, after =>
    after = world ∧ Settles answer (fun claim => world.claim = some claim) True
  | world, .getNodeClass name, answer, after =>
    after = world ∧ Settles answer (fun found => world.nodeClasses name = some found) True
  | world, .getNode name, answer, after =>
    after = world ∧ Settles answer (fun found => world.nodes name = some found) True
  | world, .updateClaim claim, answer, after =>
    Settles answer (fun _ => after = { world with claim := some claim }) (after = world)
  | world, .timestamp, _, after => after = world
  | world, .listPools loadBalancerID, answer, after =>
    after = world ∧
      Settles answer (fun found => found = world.pools loadBalancerID) (steady = false)
  | world, .createMember loadBalancerID poolID instanceID _ _, answer, after =>
    Settles answer
      (fun id => ∃ fresh, after =
        world.addMember loadBalancerID poolID ⟨id, some instanceID⟩ fresh)
      (after = world)
  | world, .listMembers loadBalancerID poolID, answer, after =>
    after = world ∧
      Settles answer (fun found => found.Perm (world.members loadBalancerID poolID))
        (steady = false)
  | world, .deleteMember loadBalancerID poolID memberID, answer, after =>
    Settles answer (fun _ => after = world.removeMember loadBalancerID poolID memberID)
      (steady = false ∧ after = world)

/-! ## Counting -/

/-- How many members of the pool point at the instance. -/
def World.held (instanceID loadBalancerID poolID : String) : Nat :=
  (world.members loadBalancerID poolID).countP fun member => member.target = some instanceID

def World.names (loadBalancerID poolID : String) (target : LoadBalancerTarget) : Bool :=
  decide (target.loadBalancerID = loadBalancerID) &&
    decide ((poolNamed (world.pools loadBalancerID) target.poolName).map Pool.id = some poolID)

/-- How many of the target groups name this pool. -/
def World.named (targets : List LoadBalancerTarget) (loadBalancerID poolID : String) : Nat :=
  targets.countP (world.names loadBalancerID poolID)

theorem named_append {before mid : World} (pools : mid.pools = before.pools)
    (first second : List LoadBalancerTarget) (loadBalancerID poolID : String) :
    before.named (first ++ second) loadBalancerID poolID =
      before.named first loadBalancerID poolID + mid.named second loadBalancerID poolID := by
  have names : mid.names loadBalancerID poolID = before.names loadBalancerID poolID := by
    funext target
    rw [World.names, World.names, pools]
  rw [World.named, World.named, World.named, names, countP_append]

variable {target : LoadBalancerTarget}

theorem named_singleton {pool : Pool}
    (found : poolNamed (world.pools target.loadBalancerID) target.poolName = some pool)
    (loadBalancerID poolID : String) : world.named [target] loadBalancerID poolID =
      if loadBalancerID = target.loadBalancerID ∧ poolID = pool.id then 1 else 0 := by
  rw [World.named, countP_singleton, World.names]
  split_ifs with names here here
  · rfl
  · simp only [Bool.and_eq_true, decide_eq_true_eq] at names
    obtain ⟨rfl, same⟩ := names
    rw [found] at same
    exact absurd ⟨rfl, (Option.some.inj same).symm⟩ here
  · obtain ⟨rfl, rfl⟩ := here
    simp [found] at names
  · rfl

/-- What a loop over these target groups does to the members of the instance: `fits` relates
the count of a pool afterwards to the count before and the number of groups that name it. -/
structure Changes (fits : Nat → Nat → Nat → Prop) (instanceID : String)
    (targets : List LoadBalancerTarget) (before after : World) : Prop where
  claim : after.claim = before.claim
  pools : after.pools = before.pools
  held : ∀ loadBalancerID poolID, fits (after.held instanceID loadBalancerID poolID)
    (before.held instanceID loadBalancerID poolID) (before.named targets loadBalancerID poolID)

abbrev Deregisters : String → List LoadBalancerTarget → World → World → Prop :=
  Changes fun after before named => after = before - named

abbrev Registers : String → List LoadBalancerTarget → World → World → Prop :=
  Changes fun after before named => after ≤ before + named

variable {instanceID : String} {before mid after : World}

theorem ends_forTargets_changes {fits : Nat → Nat → Nat → Prop} (none : ∀ count, fits count count 0)
    (adds : ∀ {last mid first one two}, fits mid first one → fits last mid two →
      fits last first (one + two)) {body : LoadBalancerTarget → Program Unit}
    {service : Service balancer World}
    (step : ∀ {target before result after}, Ends service before (body target) result after →
      Changes fits instanceID [target] before after) {targets : List LoadBalancerTarget}
    {outcome : Except GoError (List GoError)}
    (ends : Ends service before (forTargets body targets) outcome after) :
    Changes fits instanceID targets before after := by
  induction targets generalizing before outcome with
  | nil =>
    obtain ⟨_, rfl⟩ := ends
    exact ⟨rfl, rfl, fun _ _ => none _⟩
  | cons target rest ih =>
    obtain ⟨result, mid, ran, ended⟩ := ends_attempt_bind ends
    obtain ⟨errs, final, later, closed⟩ := (ends_bind_iff _ _ _ _ _).mp ended
    obtain rfl : after = final := by
      cases errs <;> cases result <;> exact closed.2
    have one := step ran
    have more := ih later
    refine ⟨more.claim.trans one.claim, more.pools.trans one.pools, ?_⟩
    intro loadBalancerID poolID
    rw [← singleton_append, named_append one.pools]
    exact adds (one.held loadBalancerID poolID) (more.held loadBalancerID poolID)

/-! ## One member more or less -/

theorem countP_filter_id {members : List Member} (distinct : (members.map Member.id).Nodup)
    {taken : Member} (inside : taken ∈ members) (points : taken.target = some instanceID) :
    (members.filter fun mem => mem.id ≠ taken.id).countP (fun mem => mem.target = some instanceID) =
      members.countP (fun mem => mem.target = some instanceID) - 1 := by
  induction members with
  | nil => simp at inside
  | cons first rest ih =>
    rw [map_cons, nodup_cons] at distinct
    rcases mem_cons.mp inside with rfl | later
    · have others : rest.filter (fun mem => mem.id ≠ taken.id) = rest := by
        rw [filter_eq_self]
        intro mem inRest
        refine decide_eq_true ?_
        intro same
        exact distinct.1 (same ▸ mem_map_of_mem inRest)
      rw [filter_cons_of_neg (by simp), others, countP_cons_of_pos (by simp [points])]
      omega
    · have differs : first.id ≠ taken.id := by
        intro same
        exact distinct.1 (same ▸ mem_map_of_mem later)
      have positive : 0 < rest.countP fun mem => mem.target = some instanceID :=
        countP_pos_iff.mpr ⟨taken, later, by simp [points]⟩
      rw [filter_cons_of_pos (by simpa using differs), countP_cons, countP_cons,
        ih distinct.2 later]
      omega

theorem held_addMember {loadBalancerID poolID memberID : String} (fresh) (balancerID id : String) :
    (world.addMember loadBalancerID poolID ⟨memberID, some instanceID⟩ fresh).held instanceID
        balancerID id =
      world.held instanceID balancerID id +
        if balancerID = loadBalancerID ∧ id = poolID then 1 else 0 := by
  simp only [World.held, World.addMember, World.setMembers]
  split_ifs with here
  · obtain ⟨rfl, rfl⟩ := here
    rw [countP_cons_of_pos (by simp)]
  · rfl

theorem removeMember_deregisters {world : World} {pool : Pool} {taken : Member}
    (found : poolNamed (world.pools target.loadBalancerID) target.poolName = some pool)
    (inside : taken ∈ world.members target.loadBalancerID pool.id)
    (points : taken.target = some instanceID) :
    Deregisters instanceID [target] world
      (world.removeMember target.loadBalancerID pool.id taken.id) := by
  refine ⟨rfl, rfl, ?_⟩
  intro loadBalancerID poolID
  rw [named_singleton world found]
  simp only [World.held, World.removeMember, World.setMembers]
  split_ifs with here
  · obtain ⟨rfl, rfl⟩ := here
    exact countP_filter_id (world.distinct _ _) inside points
  · rfl

theorem nothing_deregisters {world : World}
    (absent : ∀ pool, poolNamed (world.pools target.loadBalancerID) target.poolName = some pool →
      world.held instanceID target.loadBalancerID pool.id = 0) :
    Deregisters instanceID [target] world world := by
  refine ⟨rfl, rfl, ?_⟩
  intro loadBalancerID poolID
  by_cases names : world.names loadBalancerID poolID target = true
  · simp only [World.names, Bool.and_eq_true, decide_eq_true_eq] at names
    obtain ⟨rfl, same⟩ := names
    obtain ⟨pool, found, rfl⟩ := Option.map_eq_some_iff.mp same
    rw [absent pool found]
    omega
  · have unnamed : world.named [target] loadBalancerID poolID = 0 := by simp [World.named, names]
    omega

/-! ## The calls -/

variable {poolID : String}

section
variable {before after : World} {steady : Bool}

theorem serves_cases {op : Call} {answer : op.Answer}
    (served : serves steady before op answer after) :
    after = before ∨
      (∃ claim, op = .updateClaim claim ∧ after = { before with claim := some claim })
      ∨ ∃ members distinct, after = { before with members := members, distinct := distinct } := by
  cases op with
  | getClaim | getNodeClass name | getNode name | listPools loadBalancerID
  | listMembers loadBalancerID poolID => exact .inl served.1
  | timestamp => exact .inl served
  | updateClaim claim =>
    cases answer with
    | ok value => exact .inr (.inl ⟨claim, rfl, served⟩)
    | error error => exact .inl served
  | createMember loadBalancerID poolID instanceID port weight =>
    cases answer with
    | ok id => exact served.elim fun fresh added => .inr (.inr ⟨_, _, added⟩)
    | error error => exact .inl served
  | deleteMember loadBalancerID poolID memberID =>
    cases answer with
    | ok value => exact .inr (.inr ⟨_, _, served⟩)
    | error error => exact .inl served.2

theorem ends_frame {α : Type} {program : Program α} {outcome : Except GoError α}
    (ends : Ends (serves steady) before program outcome after) :
    after.pools = before.pools ∧ after.nodeClasses = before.nodeClasses := by
  refine ends.keeps (fun world => world.pools = before.pools ∧
    world.nodeClasses = before.nodeClasses) ?_ ⟨rfl, rfl⟩
  intro first op answer second served kept
  rcases serves_cases served with rfl | ⟨_, _, rfl⟩ | ⟨_, _, rfl⟩ <;> exact kept

theorem ends_getClaim {result : Except GoError Claim}
    (ends : Ends (serves steady) before getClaim result after) :
    after = before ∧ ∀ claim, result = .ok claim → before.claim = some claim := by
  obtain ⟨_, ⟨rfl, settled⟩, rfl⟩ := ends_ask ends
  refine ⟨rfl, ?_⟩
  rintro claim rfl
  exact settled

theorem ends_updateClaim {claim : Claim} {result : Except GoError Unit}
    (ends : Ends (serves steady) before (updateClaim claim) result after) :
    (result = .ok () ∧ after = { before with claim := some claim }) ∨
      ((∃ error, result = .error error) ∧ after = before) := by
  obtain ⟨_, settled, rfl⟩ := ends_ask ends
  cases result with
  | ok value => exact .inl ⟨rfl, settled⟩
  | error error => exact .inr ⟨⟨error, rfl⟩, settled⟩

variable {loadBalancerID : String}

theorem ends_listMembers {result : Except GoError (List Member)}
    (ends : Ends (serves true) before (listMembers loadBalancerID poolID) result after) :
    after = before ∧ ∃ found, result = .ok found ∧
      found.Perm (before.members loadBalancerID poolID) := by
  obtain ⟨_, ⟨rfl, settled⟩, rfl⟩ := ends_ask ends
  cases result with
  | ok found => exact ⟨rfl, found, rfl, settled⟩
  | error error => cases settled

theorem ends_deleteMember {memberID : String} {result : Except GoError Unit}
    (ends : Ends (serves true) before (deleteMember loadBalancerID poolID memberID) result after) :
    result = .ok () ∧ after = before.removeMember loadBalancerID poolID memberID := by
  obtain ⟨_, settled, rfl⟩ := ends_ask ends
  cases result with
  | ok value => exact ⟨rfl, settled⟩
  | error error => cases settled.1

section
variable {W : Type} {service : Service balancer W} {first last : W} {pools : List Pool}
  {failed : Prop}
  (listed : ∀ answer mid, service first (.listPools loadBalancerID) answer mid →
    mid = first ∧ Settles answer (fun found => found = pools) failed)

include listed

/-- The pool is found by its name, or the listing failed or has no such pool. -/
theorem ends_findPoolByName {poolName : String} {outcome : Except GoError String}
    (ends : Ends service first (findPoolByName loadBalancerID poolName) outcome last) :
    last = first ∧ ((∃ pool, poolNamed pools poolName = some pool ∧ outcome = .ok pool.id) ∨
      (failed ∨ poolNamed pools poolName = none) ∧ ∃ error, outcome = .error error) := by
  obtain ⟨answer, _, asked, ended⟩ := ends_mapError_bind _ ends
  obtain ⟨_, served, rfl⟩ := ends_ask asked
  obtain ⟨rfl, settled⟩ := listed _ _ served
  cases answer with
  | ok found =>
    cases settled
    rw [Except.mapError, ofExcept_ok_bind] at ended
    cases named : poolNamed pools poolName with
    | some pool | none =>
      rw [named] at ended
      obtain ⟨rfl, rfl⟩ := ended
      simp
  | error error =>
    obtain ⟨rfl, rfl⟩ := ended
    exact ⟨rfl, .inr ⟨.inl settled, _, rfl⟩⟩

/-- Registration in one target group finds no pool, or asks once for a member of it. -/
theorem ends_registerInstanceInTarget (own : target.loadBalancerID = loadBalancerID)
    {instanceID : String} {outcome : Except GoError Unit}
    (ends : Ends service first (registerInstanceInTarget target instanceID) outcome last) :
    (failed ∨ poolNamed pools target.poolName = none) ∧ last = first ∧
        (∃ error, outcome = .error error) ∨
      ∃ pool, poolNamed pools target.poolName = some pool ∧ ∃ answer,
        service first (.createMember loadBalancerID pool.id instanceID target.port
          (target.weight.getD 50)) answer last ∧ (outcome = .ok () ↔ ∃ id, answer = .ok id) := by
  subst own
  obtain ⟨_, _, searched, ended⟩ := ends_mapError_bind _ ends
  obtain ⟨rfl, ⟨pool, named, rfl⟩ | ⟨why, _, rfl⟩⟩ := ends_findPoolByName listed searched
  · obtain ⟨answer, _, ⟨_, _, served, closed⟩, finished⟩ := ends_mapError_bind _ ended
    obtain ⟨rfl, rfl⟩ := (ends_ofExcept _ _ _ _).mp closed
    refine .inr ⟨pool, named, answer, ?_⟩
    cases answer with
    | ok id =>
      obtain ⟨rfl, rfl⟩ := finished
      exact ⟨served, iff_of_true rfl ⟨id, rfl⟩⟩
    | error error =>
      obtain ⟨rfl, rfl⟩ := finished
      exact ⟨served, iff_of_false nofun nofun⟩
  · obtain ⟨rfl, rfl⟩ := ended
    exact .inl ⟨why, rfl, _, rfl⟩

end

theorem ends_findMemberByInstanceID {instanceID : String} {result : Except GoError (Option String)}
    (ends : Ends (serves true) before (findMemberByInstanceID loadBalancerID poolID instanceID)
      result after) :
    after = before ∧ ((result = .ok none ∧ before.held instanceID loadBalancerID poolID = 0) ∨
      ∃ mem ∈ before.members loadBalancerID poolID, mem.target = some instanceID ∧
        result = .ok (some mem.id)) := by
  obtain ⟨_, _, listed, ended⟩ := ends_mapError_bind _ ends
  obtain ⟨rfl, found, rfl, perm⟩ := ends_listMembers listed
  obtain ⟨rfl, rfl⟩ := ended
  refine ⟨rfl, ?_⟩
  cases first : memberOf found instanceID with
  | none =>
    refine .inl ⟨rfl, ?_⟩
    rw [World.held, ← perm.countP_eq, countP_eq_zero]
    exact List.find?_eq_none.mp first
  | some mem =>
    have points := List.find?_some first
    exact .inr ⟨mem, perm.mem_iff.mp (mem_of_find?_eq_some first),
      of_decide_eq_true points, rfl⟩

end

/-! ## Deregistration -/

theorem deregisterInstanceFromTarget_deregisters {result : Except GoError Unit}
    (ends : Ends (serves true) before (deregisterInstanceFromTarget target instanceID)
      result after) : Deregisters instanceID [target] before after := by
  obtain ⟨_, _, searched, ended⟩ := ends_mapError_bind _ ends
  obtain ⟨rfl, ⟨pool, named, rfl⟩ | ⟨unsteady | unnamed, _, rfl⟩⟩ :=
    ends_findPoolByName (fun _ _ served => served) searched
  · obtain ⟨_, _, looked, finished⟩ := ends_mapError_bind _ ended
    obtain ⟨rfl, ⟨rfl, empty⟩ | ⟨member, inside, points, rfl⟩⟩ := ends_findMemberByInstanceID looked
    · obtain ⟨_, rfl⟩ := finished
      refine nothing_deregisters ?_
      intro other known
      cases named.symm.trans known
      exact empty
    · obtain ⟨_, removed, _⟩ := (ends_mapError_iff _ _ _ _ _).mp finished
      obtain ⟨rfl, rfl⟩ := ends_deleteMember removed
      exact removeMember_deregisters named inside points
  · cases unsteady
  · obtain ⟨_, rfl⟩ := ended
    exact nothing_deregisters fun pool named => nomatch unnamed.symm.trans named

variable {nodeClass : Option NodeClass}

/-- The target groups of an integration that is switched on. -/
def targetsOf (nodeClass : Option NodeClass) : List LoadBalancerTarget :=
  match enabledIntegration nodeClass with
  | none => []
  | some integration => integration.targetGroups

variable {integration : LoadBalancerIntegration}

theorem deregisterInstance_deregisters {result : Except GoError Unit}
    (enabled : enabledIntegration nodeClass = some integration)
    (automatic : integration.autoDeregister.getD true = true)
    (ends : Ends (serves true) before (deregisterInstance nodeClass instanceID) result after) :
    Deregisters instanceID (targetsOf nodeClass) before after := by
  rw [targetsOf, enabled]
  simp only [deregisterInstance, enabled, automatic, Bool.true_eq_false, if_false] at ends
  obtain ⟨looped, mid, ran, ended⟩ := (ends_bind_iff _ _ _ _ _).mp ends
  obtain rfl : after = mid := by
    match looped with
    | .ok [] | .ok (_ :: _) | .error _ => exact ended.2
  exact ends_forTargets_changes (fun _ => rfl) (fun one two => by omega)
    deregisterInstanceFromTarget_deregisters ran

/-! ## Registration -/

/-- Registration is the loop over the active target groups, and succeeds when that met no
error. -/
theorem ends_registerInstance_loop {W : Type} {service : Service balancer W} {first last : W}
    {result : Except GoError Unit}
    (ends : Ends service first (registerInstance nodeClass instanceID) result last) :
    ∃ looped, Ends service first
        (forTargets (registerInstanceInTarget · instanceID) (targetsOf nodeClass)) looped last ∧
      (result = .ok () ↔ looped = .ok []) := by
  unfold registerInstance at ends
  unfold targetsOf
  cases enabled : enabledIntegration nodeClass with
  | none =>
    rw [enabled] at ends
    obtain ⟨rfl, rfl⟩ := ends
    exact ⟨.ok [], ⟨rfl, rfl⟩, iff_of_true rfl rfl⟩
  | some integration =>
    rw [enabled] at ends
    obtain ⟨looped, mid, ran, ended⟩ := (ends_bind_iff _ _ _ _ _).mp ends
    match looped with
    | .ok [] | .ok (error :: errs) | .error error =>
      obtain ⟨rfl, rfl⟩ := ended
      exact ⟨_, ran, by simp⟩

section
variable {steady : Bool}

theorem registerInstanceInTarget_registers {result : Except GoError Unit}
    (ends : Ends (serves steady) before (registerInstanceInTarget target instanceID) result after) :
    Registers instanceID [target] before after := by
  have same : Registers instanceID [target] before before :=
    ⟨rfl, rfl, fun _ _ => Nat.le_add_right ..⟩
  obtain ⟨_, rfl, _⟩ | ⟨pool, named, answer, served, _⟩ :=
    ends_registerInstanceInTarget (fun _ _ served => served) rfl ends
  · exact same
  cases answer with
  | error error => exact served ▸ same
  | ok memberID =>
    obtain ⟨fresh, rfl⟩ := served
    refine ⟨rfl, rfl, fun loadBalancerID poolID => ?_⟩
    rw [held_addMember, named_singleton before named]

theorem registerInstance_registers {result : Except GoError Unit}
    (ends : Ends (serves steady) before (registerInstance nodeClass instanceID) result after) :
    Registers instanceID (targetsOf nodeClass) before after := by
  obtain ⟨_, looped, _⟩ := ends_registerInstance_loop ends
  exact ends_forTargets_changes Nat.le_refl (fun one two => by omega)
    registerInstanceInTarget_registers looped

end

/-! ## One reconciliation -/

variable {steady : Bool} {claim : Claim}

/-- The NodeClass that a reconciliation of the NodeClaim goes by. -/
def World.classOf (claim : Claim) : Option NodeClass :=
  claim.nodeClassRef.bind fun ref =>
    if ref.kind ≠ "IBMNodeClass" then none else world.nodeClasses ref.name

def World.activeTargets (claim : Claim) : List LoadBalancerTarget :=
  targetsOf (world.classOf claim)

theorem ends_getNodeClass {out : Except GoError (Option NodeClass)}
    (ends : Ends (serves steady) before (getNodeClass claim) out after) :
    after = before ∧ ∀ nodeClass, out = .ok nodeClass → nodeClass = before.classOf claim := by
  unfold getNodeClass at ends
  cases referred : claim.nodeClassRef with
  | none =>
    rw [referred] at ends
    obtain ⟨rfl, rfl⟩ := ends
    exact ⟨rfl, nofun⟩
  | some ref =>
    rw [referred] at ends
    dsimp only at ends
    split_ifs at ends with other
    · obtain ⟨rfl, rfl⟩ := ends
      refine ⟨rfl, ?_⟩
      rintro nodeClass ⟨⟩
      simp [World.classOf, referred, other]
    obtain ⟨answer, _, asked, ended⟩ := ends_mapError_bind _ ends
    obtain ⟨_, ⟨rfl, settled⟩, rfl⟩ := ends_ask asked
    cases answer with
    | ok found =>
      obtain ⟨rfl, rfl⟩ := ended
      refine ⟨rfl, ?_⟩
      rintro nodeClass ⟨⟩
      have known : after.nodeClasses ref.name = some found := settled
      simp [World.classOf, referred, other, known]
    | error error =>
      obtain ⟨rfl, rfl⟩ := ended
      exact ⟨rfl, nofun⟩

theorem ends_getNode {result : Except GoError (Option (List NodeAddress))}
    (ends : Ends (serves steady) before (getNode claim) result after) : after = before := by
  unfold getNode at ends
  split_ifs at ends
  · exact ends.2
  obtain ⟨answer, mid, ⟨rfl, _⟩, ended⟩ := ends
  cases answer with
  | ok addresses => exact ended.2
  | error error =>
    dsimp only at ended
    split_ifs at ended <;> exact ended.2

variable {outcome : Except GoError Result}

def Adds (instanceID : String) (targets : List LoadBalancerTarget) (before after : World) : Prop :=
  ∀ loadBalancerID poolID, after.held instanceID loadBalancerID poolID ≤
    before.held instanceID loadBalancerID poolID + before.named targets loadBalancerID poolID

theorem ends_registerClaim (found : before.claim = some claim)
    (ends : Ends (serves steady) before (registerClaim claim nodeClass instanceID) outcome after) :
    (∃ annotations, after.claim = some { claim with annotations := annotations }) ∧
      Adds instanceID (targetsOf nodeClass) before after := by
  obtain ⟨registered, mid, ran, ended⟩ := ends_attempt_bind ends
  have registers := registerInstance_registers ran
  have unmarked : ∃ annotations, mid.claim = some { claim with annotations := annotations } :=
    ⟨claim.annotations, registers.claim.trans found⟩
  cases registered with
  | error error =>
    obtain ⟨_, rfl⟩ := ended
    exact ⟨unmarked, registers.held⟩
  | ok value =>
    obtain ⟨marked, last, ⟨time, state, served, marking⟩, closed⟩ := ends_attempt_bind ended
    obtain rfl : state = mid := served
    obtain rfl : after = last := by
      cases marked <;> exact closed.2
    rcases ends_updateClaim marking with ⟨_, rfl⟩ | ⟨_, rfl⟩
    · exact ⟨⟨_, rfl⟩, registers.held⟩
    · exact ⟨unmarked, registers.held⟩

theorem handleRegistration_cases (found : before.claim = some claim)
    (ends : Ends (serves steady) before (handleRegistration claim nodeClass) outcome after) :
    (∃ annotations, after.claim = some { claim with annotations := annotations }) ∧
      (after.members = before.members ∨
        ∃ instanceID, extractInstanceID claim.providerID = .ok instanceID ∧
          isAlreadyRegistered claim = false ∧
          Adds instanceID (targetsOf nodeClass) before after) := by
  have idle : after = before →
      (∃ annotations, after.claim = some { claim with annotations := annotations }) ∧
        after.members = before.members := by
    rintro rfl
    exact ⟨⟨claim.annotations, found⟩, rfl⟩
  unfold handleRegistration at ends
  by_cases blank : claim.providerID = ""
  · rw [if_pos blank] at ends
    exact (idle ends.2).imp_right .inl
  rw [if_neg blank] at ends
  split at ends
  · exact (idle ends.2).imp_right .inl
  rename_i instanceID launched
  obtain ⟨node, mid, ran, ended⟩ := ends_attempt_bind ends
  obtain rfl := ends_getNode ran
  split at ended
  · exact (idle ended.2).imp_right .inl
  · exact (idle ended.2).imp_right .inl
  split_ifs at ended with unaddressed registered
  · exact (idle ended.2).imp_right .inl
  · exact (idle ended.2).imp_right .inl
  · obtain ⟨stored, held⟩ := ends_registerClaim found ended
    exact ⟨stored, .inr ⟨instanceID, launched, by simpa using registered, held⟩⟩

def World.deleting : Bool :=
  world.claim.any Claim.deleting

/-- Automatic deregistration is on wherever the integration is. -/
def Automatic (nodeClasses : String → Option NodeClass) : Prop :=
  ∀ name nodeClass integration, nodeClasses name = some nodeClass →
    enabledIntegration (some nodeClass) = some integration →
    integration.autoDeregister.getD true = true

theorem automatic_classOf (automatic : Automatic before.nodeClasses)
    (enabled : enabledIntegration (before.classOf claim) = some integration) :
    integration.autoDeregister.getD true = true := by
  cases found : before.classOf claim with
  | none =>
    rw [found] at enabled
    cases enabled
  | some nodeClass =>
    obtain ⟨ref, _, read⟩ := Option.bind_eq_some_iff.mp found
    split_ifs at read
    exact automatic ref.name nodeClass integration read (found ▸ enabled)

/-- The same launch of the same NodeClass. -/
def Alike (first second : Claim) : Prop :=
  first.nodeClassRef = second.nodeClassRef ∧ first.providerID = second.providerID

/-- What a reconciliation of a NodeClaim can do to the members of its instance. -/
inductive Reconciled (before : World) (claim : Claim) (after : World) : Prop where
  | idle (members : after.members = before.members)
      (inactive : ∀ instanceID, extractInstanceID claim.providerID = .ok instanceID →
        loadBalancerFinalizer ∈ claim.finalizers →
        (∀ later, after.claim = some later → loadBalancerFinalizer ∉ later.finalizers) →
        before.activeTargets claim = [])
  | registered {instanceID : String}
      (launched : extractInstanceID claim.providerID = .ok instanceID)
      (live : claim.deleting = false) (guarded : loadBalancerFinalizer ∈ claim.finalizers)
      (unmarked : isAlreadyRegistered claim = false)
      (adds : Adds instanceID (before.activeTargets claim) before after)
      (kept : ∃ later, after.claim = some later ∧ loadBalancerFinalizer ∈ later.finalizers)
  | deregistered {instanceID : String}
      (launched : extractInstanceID claim.providerID = .ok instanceID)
      (held : ∀ loadBalancerID poolID, after.held instanceID loadBalancerID poolID =
        before.held instanceID loadBalancerID poolID -
          before.named (before.activeTargets claim) loadBalancerID poolID)

theorem updateClaim_writes {written : Claim} {result : Except GoError Unit}
    (ends : Ends (serves steady) before (updateClaim written) result after) :
    after = before ∨ after = { before with claim := some written } :=
  (ends_updateClaim ends).symm.imp And.right And.right

theorem ends_then_pure {program : Program Unit} {value : Result}
    (ends : Ends (serves steady) before (program >>= fun _ => pure value) outcome after) :
    ∃ result, Ends (serves steady) before program result after := by
  obtain ⟨result, mid, ran, ended⟩ := (ends_bind_iff _ _ _ _ _).mp ends
  obtain rfl : after = mid := by
    cases result <;> exact ended.2
  exact ⟨result, ran⟩

theorem reconciled_of_written {written : Claim} (found : before.claim = some claim)
    (wrote : after = before ∨ after = { before with claim := some written })
    (alike : Alike written claim)
    (inactive : loadBalancerFinalizer ∈ claim.finalizers → before.activeTargets claim = []) :
    (∃ later, after.claim = some later ∧ Alike later claim) ∧ Reconciled before claim after := by
  rcases wrote with rfl | rfl
  · exact ⟨⟨claim, found, rfl, rfl⟩, .idle rfl fun _ _ guarded _ => inactive guarded⟩
  · exact ⟨⟨written, rfl, alike⟩, .idle rfl fun _ _ guarded _ => inactive guarded⟩

theorem reconciled_of_handleDeletion (automatic : Automatic before.nodeClasses)
    (found : before.claim = some claim)
    (ends : Ends (serves true) before (handleDeletion claim (before.classOf claim)) outcome after) :
    (∃ later, after.claim = some later ∧ Alike later claim) ∧ Reconciled before claim after := by
  unfold handleDeletion at ends
  by_cases guarded : loadBalancerFinalizer ∉ claim.finalizers
  · rw [if_pos guarded] at ends
    exact reconciled_of_written found (.inl ends.2) ⟨rfl, rfl⟩ fun holds => absurd holds guarded
  rw [if_neg guarded] at ends
  obtain ⟨deregistered, mid, ran, ended⟩ := ends_attempt_bind ends
  obtain ⟨_, writing⟩ := ends_then_pure ended
  obtain ⟨_, updating, _⟩ := (ends_mapError_iff _ _ _ _ _).mp writing
  have wrote := updateClaim_writes updating
  have members : after.members = mid.members := by
    rcases wrote with rfl | rfl <;> rfl
  have stored : mid.claim = some claim →
      ∃ later, after.claim = some later ∧ Alike later claim := by
    intro same
    rcases wrote with rfl | rfl
    · exact ⟨claim, same, rfl, rfl⟩
    · exact ⟨_, rfl, rfl, rfl⟩
  unfold deregisterClaim at ran
  split_ifs at ran with blank
  · obtain ⟨_, rfl⟩ := ran
    refine ⟨stored found, .idle members fun instanceID launched _ _ => ?_⟩
    rw [blank] at launched
    cases launched
  cases launched : extractInstanceID claim.providerID with
  | error error =>
    rw [launched] at ran
    obtain ⟨_, rfl⟩ := ran
    exact ⟨stored found, .idle members fun _ other _ _ => nomatch launched.symm.trans other⟩
  | ok instanceID =>
    rw [launched] at ran
    cases enabled : enabledIntegration (before.classOf claim) with
    | none =>
      unfold deregisterInstance at ran
      rw [enabled] at ran
      obtain ⟨_, rfl⟩ := ran
      refine ⟨stored found, .idle members fun _ _ _ _ => ?_⟩
      rw [World.activeTargets, targetsOf, enabled]
    | some integration =>
      have taken := deregisterInstance_deregisters enabled (automatic_classOf automatic enabled) ran
      refine ⟨stored (taken.claim.trans found),
        .deregistered launched fun loadBalancerID poolID => ?_⟩
      rw [World.activeTargets, ← taken.held, World.held, World.held, members]

theorem reconciled_of_reconcileClaim (automatic : Automatic before.nodeClasses)
    (found : before.claim = some claim)
    (ends : Ends (serves before.deleting) before (reconcileClaim claim (before.classOf claim))
      outcome after) :
    (∃ later, after.claim = some later ∧ Alike later claim) ∧ Reconciled before claim after := by
  unfold reconcileClaim at ends
  split_ifs at ends with disabled guarded deleting holds
  · obtain ⟨_, writing⟩ := ends_then_pure ends
    refine reconciled_of_written found (updateClaim_writes writing) ⟨rfl, rfl⟩ fun _ => ?_
    rw [World.activeTargets, targetsOf, disabled]
  · exact reconciled_of_written found (.inl ends.2) ⟨rfl, rfl⟩ fun holds => absurd holds guarded
  · have steady : before.deleting = true := by
      rw [World.deleting, found]
      exact deleting
    exact reconciled_of_handleDeletion automatic found (steady ▸ ends)
  · obtain ⟨⟨annotations, stored⟩, did⟩ := handleRegistration_cases found ends
    refine ⟨⟨_, stored, rfl, rfl⟩, ?_⟩
    rcases did with members | ⟨instanceID, launched, unmarked, adds⟩
    · exact .idle members fun _ _ _ removed => (removed _ stored holds).elim
    · exact .registered launched (by simpa using deleting) holds unmarked adds
        ⟨_, stored, holds⟩
  · obtain ⟨_, writing⟩ := ends_then_pure ends
    obtain ⟨_, updating, _⟩ := (ends_mapError_iff _ _ _ _ _).mp writing
    refine reconciled_of_written found (updateClaim_writes updating) ?_
      fun guarded => absurd guarded holds
    unfold addFinalizer
    split_ifs
    exact ⟨rfl, rfl⟩

theorem reconcile_cases (ends : Ends (serves steady) before reconcile outcome after) :
    after = before ∨ ∃ claim, before.claim = some claim ∧ ∃ result,
      Ends (serves steady) before (reconcileClaim claim (before.classOf claim)) result after := by
  obtain ⟨found, mid, read, ended⟩ := ends_attempt_bind ends
  obtain ⟨rfl, known⟩ := ends_getClaim read
  cases found with
  | error error =>
    dsimp only at ended
    split_ifs at ended <;> exact .inl ended.2
  | ok claim =>
    obtain ⟨loaded, last, asked, closed⟩ := ends_attempt_bind ended
    obtain ⟨rfl, isClass⟩ := ends_getNodeClass asked
    cases loaded with
    | error error => exact .inl closed.2
    | ok nodeClass =>
      obtain rfl := isClass nodeClass rfl
      exact .inr ⟨claim, known claim rfl, _, closed⟩

/-! ## Runs -/

/-- No pool holds a member for the instance. -/
def World.Released (instanceID : String) : Prop :=
  ∀ loadBalancerID poolID, ∀ member ∈ world.members loadBalancerID poolID,
    member.target ≠ some instanceID

theorem released_iff (instanceID : String) : world.Released instanceID ↔
      ∀ loadBalancerID poolID, world.held instanceID loadBalancerID poolID = 0 := by
  refine forall_congr' fun loadBalancerID => forall_congr' fun poolID => ?_
  rw [World.held, countP_eq_zero]
  simp

/-- Every pool holds at most as many members for the instance as the configuration has target
groups for it. -/
def World.Covers (instanceID : String) (claim : Claim) : Prop :=
  ∀ loadBalancerID poolID, world.held instanceID loadBalancerID poolID ≤
    world.named (world.activeTargets claim) loadBalancerID poolID

theorem covers_of_released {world : World} {instanceID : String}
    (released : world.Released instanceID) : world.Covers instanceID claim := by
  intro loadBalancerID poolID
  rw [(released_iff world instanceID).mp released]
  exact Nat.zero_le _

inductive Event where
  | reconcile
  | edit (nodeClasses : String → Option NodeClass)
  | launch (providerID nodeName : String)
  | join (nodes : String → Option (List NodeAddress))
  | delete

/-- What happens to one NodeClaim.  A reconciliation meets any failures, except that the
load balancer calls succeed once the NodeClaim is being deleted. -/
inductive Step : World → Event → World → Prop where
  | reconcile {before after : World} (outcome : Except GoError Result)
      (ends : Ends (serves before.deleting) before reconcile outcome after) :
      Step before .reconcile after
  | edit (world : World) (nodeClasses : String → Option NodeClass)
      (automatic : Automatic nodeClasses) :
      Step world (.edit nodeClasses) { world with nodeClasses := nodeClasses }
  | launch (world : World) (claim : Claim) (providerID nodeName : String)
      (present : world.claim = some claim) (unset : claim.providerID = "") :
      Step world (.launch providerID nodeName) { world with
        claim := some { claim with providerID := providerID, nodeName := nodeName } }
  | join (world : World) (nodes : String → Option (List NodeAddress)) :
      Step world (.join nodes) { world with nodes := nodes }
  | delete (world : World) (claim : Claim) (present : world.claim = some claim) :
      Step world .delete { world with claim := some { claim with deleting := true } }

/-- No reconciliation can register an instance that already has a member, and an edit leaves
target groups for the members that are there. -/
def Careful : Event → Prop
  | .reconcile => ∀ claim instanceID, world.claim = some claim →
      extractInstanceID claim.providerID = .ok instanceID → claim.deleting = false →
      loadBalancerFinalizer ∈ claim.finalizers → isAlreadyRegistered claim = false →
      world.Released instanceID
  | .edit nodeClasses => ∀ claim instanceID, world.claim = some claim →
      extractInstanceID claim.providerID = .ok instanceID →
      World.Covers { world with nodeClasses := nodeClasses } instanceID claim
  | _ => True

/-- What careful steps keep. -/
structure Kept (world : World) : Prop where
  automatic : Automatic world.nodeClasses
  unlaunched : ∀ claim, world.claim = some claim → claim.providerID = "" →
    ∀ instanceID, world.Released instanceID
  covers : ∀ claim instanceID, world.claim = some claim →
    extractInstanceID claim.providerID = .ok instanceID → world.Covers instanceID claim

theorem covers_of_alike {later : Claim} (frame : after.pools = before.pools ∧
      after.nodeClasses = before.nodeClasses) (alike : Alike later claim) :
    after.named (after.activeTargets later) = before.named (before.activeTargets claim) := by
  funext loadBalancerID poolID
  have targets : after.activeTargets later = before.activeTargets claim := by
    rw [World.activeTargets, World.activeTargets, World.classOf, World.classOf, alike.1, frame.2]
  have names : after.names loadBalancerID poolID = before.names loadBalancerID poolID := by
    funext target
    rw [World.names, World.names, frame.1]
  rw [targets, World.named, World.named, names]

theorem Kept.reconcile (kept : Kept before) (careful : Careful before .reconcile)
    (ends : Ends (serves before.deleting) before reconcile outcome after) : Kept after := by
  rcases reconcile_cases ends with rfl | ⟨claim, found, result, ran⟩
  · exact kept
  have frame := ends_frame ran
  obtain ⟨⟨later, stored, alike⟩, reconciled⟩ :=
    reconciled_of_reconcileClaim kept.automatic found ran
  refine ⟨frame.2 ▸ kept.automatic, ?_, ?_⟩
  · rintro other same blank instanceID
    cases stored.symm.trans same
    rw [alike.2] at blank
    have unlaunched : ∀ {instanceID}, extractInstanceID claim.providerID ≠ .ok instanceID := by
      rw [blank]
      nofun
    cases reconciled with
    | idle members =>
      intro loadBalancerID poolID
      rw [members]
      exact kept.unlaunched claim found blank instanceID loadBalancerID poolID
    | registered launched | deregistered launched => exact absurd launched unlaunched
  · intro other instanceID same launched loadBalancerID poolID
    cases stored.symm.trans same
    rw [alike.2] at launched
    rw [covers_of_alike frame alike]
    have covered := kept.covers claim instanceID found launched loadBalancerID poolID
    cases reconciled with
    | idle members => rwa [World.held, members]
    | registered own live guarded unmarked adds =>
      cases launched.symm.trans own
      have none := (released_iff before instanceID).mp
        (careful claim instanceID found launched live guarded unmarked) loadBalancerID poolID
      have added := adds loadBalancerID poolID
      rwa [none, Nat.zero_add] at added
    | deregistered own held =>
      cases launched.symm.trans own
      rw [held]
      exact (Nat.sub_le ..).trans covered

theorem Kept.step (kept : Kept before) {event : Event} (careful : Careful before event)
    (step : Step before event after) : Kept after := by
  cases step with
  | reconcile outcome ends => exact kept.reconcile careful ends
  | edit nodeClasses automatic => exact ⟨automatic, kept.unlaunched, careful⟩
  | launch claim providerID nodeName present unset =>
    refine ⟨kept.automatic, ?_, ?_⟩
    · rintro other - - instanceID
      exact kept.unlaunched claim present unset instanceID
    · rintro other instanceID - - loadBalancerID poolID
      exact covers_of_released (kept.unlaunched claim present unset instanceID)
        loadBalancerID poolID
  | join nodes => exact ⟨kept.automatic, kept.unlaunched, kept.covers⟩
  | delete claim present =>
    refine ⟨kept.automatic, ?_, ?_⟩
    · rintro other ⟨⟩ blank
      exact kept.unlaunched claim present blank
    · rintro other instanceID ⟨⟩ launched
      exact kept.covers claim instanceID present launched

/-- A run of careful steps. -/
def CarefulRun (start world : World) : Prop :=
  ReflTransGen
    (fun before after => ∃ event, Careful before event ∧ Step before event after) start world

theorem CarefulRun.kept {start world : World} (run : CarefulRun start world) (kept : Kept start) :
    Kept world := by
  induction run with
  | refl => exact kept
  | tail _ last ih =>
    obtain ⟨event, careful, step⟩ := last
    exact ih.step careful step

/-- After every run of careful steps from a world without members, a step that removes the
finalizer leaves no member for the instance. -/
theorem careful_run_releases {start world after : World} {event : Event} {claim : Claim}
    {instanceID : String} (automatic : Automatic start.nodeClasses)
    (empty : ∀ loadBalancerID poolID, start.members loadBalancerID poolID = [])
    (run : CarefulRun start world) (step : Step world event after)
    (present : world.claim = some claim)
    (launched : extractInstanceID claim.providerID = .ok instanceID)
    (guarded : loadBalancerFinalizer ∈ claim.finalizers)
    (removed : ∀ later, after.claim = some later → loadBalancerFinalizer ∉ later.finalizers) :
    after.Released instanceID := by
  have fresh : ∀ instanceID, start.Released instanceID := by
    intro instanceID loadBalancerID poolID
    rw [empty]
    nofun
  have kept : Kept world := run.kept
    ⟨automatic, fun _ _ _ => fresh, fun _ instanceID _ _ => covers_of_released (fresh instanceID)⟩
  have covers := kept.covers claim instanceID present launched
  cases step with
  | reconcile outcome ends =>
    rcases reconcile_cases ends with rfl | ⟨other, found, result, ran⟩
    · exact absurd guarded (removed claim present)
    cases present.symm.trans found
    refine (released_iff after instanceID).mpr fun loadBalancerID poolID => ?_
    have covered := covers loadBalancerID poolID
    cases (reconciled_of_reconcileClaim kept.automatic found ran).2 with
    | idle members inactive =>
      rw [inactive instanceID launched guarded removed] at covered
      rw [World.held, members]
      exact Nat.le_zero.mp covered
    | registered _ _ _ _ _ still =>
      obtain ⟨later, stored, holds⟩ := still
      exact absurd holds (removed later stored)
    | deregistered own held =>
      cases launched.symm.trans own
      rw [held]
      exact Nat.sub_eq_zero_of_le covered
  | edit | join => exact absurd guarded (removed claim present)
  | launch other providerID nodeName same =>
    cases present.symm.trans same
    exact (removed _ rfl guarded).elim
  | delete other same =>
    cases present.symm.trans same
    exact (removed _ rfl guarded).elim

/-! ## A registration that fails halfway -/

def retriedClass : NodeClass :=
  ⟨some ⟨true, [⟨"l", "a", 80, none⟩, ⟨"l", "b", 80, none⟩], none⟩⟩

def newClaim : Claim where
  deleting := false
  finalizers := []
  annotations := ∅
  nodeClassRef := some ⟨"IBMNodeClass", "c"⟩
  providerID := "ibm:///r/i"
  nodeName := "n"

/-- A launched NodeClaim, two empty pools and a target group for each. -/
def newWorld : World where
  claim := some newClaim
  nodeClasses := fun _ => some retriedClass
  nodes := fun _ => some [⟨.internalIP, "10.0.0.1"⟩]
  pools := fun _ => [⟨some "a", "pa"⟩, ⟨some "b", "pb"⟩]
  members := fun _ _ => []
  distinct := fun _ _ => nodup_nil

theorem automatic_retried : Automatic newWorld.nodeClasses := by
  rintro name nodeClass integration ⟨⟩ ⟨⟩
  rfl

def guardedClaim : Claim := addFinalizer newClaim

def guardedWorld : World := { newWorld with claim := some guardedClaim }

theorem guardedWorld_reached : Step newWorld .reconcile guardedWorld :=
  .reconcile (.ok 1) ⟨.ok newClaim, newWorld, ⟨rfl, rfl⟩, .ok retriedClass, newWorld, ⟨rfl, rfl⟩,
    .ok (), guardedWorld, rfl, rfl, rfl⟩

def halfWorld : World := guardedWorld.addMember "l" "pa" ⟨"m1", some "i"⟩ (by decide)

theorem halfWorld_reached : Step guardedWorld .reconcile halfWorld :=
  .reconcile (.ok 30) ⟨.ok guardedClaim, guardedWorld, ⟨rfl, rfl⟩,
    .ok retriedClass, guardedWorld, ⟨rfl, rfl⟩,
    .ok _, guardedWorld, ⟨rfl, rfl⟩,
    .ok (guardedWorld.pools "l"), guardedWorld, ⟨rfl, rfl⟩,
    .ok "m1", halfWorld, ⟨by decide, rfl⟩,
    .ok (guardedWorld.pools "l"), halfWorld, ⟨rfl, rfl⟩,
    .error (.plain "unavailable"), halfWorld, rfl, rfl, rfl⟩

def againWorld : World := halfWorld.addMember "l" "pa" ⟨"m2", some "i"⟩ (by decide)

def bothWorld : World := againWorld.addMember "l" "pb" ⟨"m3", some "i"⟩ (by decide)

def registeredClaim : Claim :=
  { guardedClaim with
    annotations := (guardedClaim.annotations.insert registeredKey "true").insert
      lastRegistrationKey "t" }

def registeredWorld : World := { bothWorld with claim := some registeredClaim }

theorem registeredWorld_reached : Step halfWorld .reconcile registeredWorld :=
  .reconcile (.ok 0) ⟨.ok guardedClaim, halfWorld, ⟨rfl, rfl⟩,
    .ok retriedClass, halfWorld, ⟨rfl, rfl⟩,
    .ok _, halfWorld, ⟨rfl, rfl⟩,
    .ok (halfWorld.pools "l"), halfWorld, ⟨rfl, rfl⟩,
    .ok "m2", againWorld, ⟨by decide, rfl⟩,
    .ok (againWorld.pools "l"), againWorld, ⟨rfl, rfl⟩,
    .ok "m3", bothWorld, ⟨by decide, rfl⟩,
    "t", bothWorld, rfl,
    .ok (), registeredWorld, rfl, rfl, rfl⟩

def deletedClaim : Claim := { registeredClaim with deleting := true }

def deletedWorld : World := { registeredWorld with claim := some deletedClaim }

def fewerWorld : World := deletedWorld.removeMember "l" "pa" "m2"

def emptierWorld : World := fewerWorld.removeMember "l" "pb" "m3"

def releasedWorld : World := { emptierWorld with claim := some (removeFinalizer deletedClaim) }

theorem releasedWorld_ends : Ends (serves true) deletedWorld reconcile (.ok 0) releasedWorld :=
  ⟨.ok deletedClaim, deletedWorld, ⟨rfl, rfl⟩, .ok retriedClass, deletedWorld, ⟨rfl, rfl⟩,
    .ok (deletedWorld.pools "l"), deletedWorld, ⟨rfl, rfl⟩,
    .ok (deletedWorld.members "l" "pa"), deletedWorld, ⟨rfl, .refl _⟩,
    .ok (), fewerWorld, rfl,
    .ok (fewerWorld.pools "l"), fewerWorld, ⟨rfl, rfl⟩,
    .ok (fewerWorld.members "l" "pb"), fewerWorld, ⟨rfl, .refl _⟩,
    .ok (), emptierWorld, rfl,
    .ok (), releasedWorld, rfl, rfl, rfl⟩

/-- A registration that failed halfway and was retried leaves a member behind, although
the configuration never changed and every deregistration call succeeded. -/
theorem retried_registration_leaves_member :
    newWorld.Released "i" ∧ Automatic newWorld.nodeClasses ∧
      ReflTransGen (fun before after => ∃ event, Step before event after) newWorld
        deletedWorld ∧
      Step deletedWorld .reconcile releasedWorld ∧
      releasedWorld.claim = some (removeFinalizer deletedClaim) ∧
      loadBalancerFinalizer ∈ deletedClaim.finalizers ∧
      loadBalancerFinalizer ∉ (removeFinalizer deletedClaim).finalizers ∧
      ⟨"m1", some "i"⟩ ∈ releasedWorld.members "l" "pa" := by
  refine ⟨nofun, automatic_retried, ?_, .reconcile (.ok 0) releasedWorld_ends, rfl, by decide,
    by decide, by decide⟩
  have deleted : Step registeredWorld .delete deletedWorld := .delete _ registeredClaim rfl
  exact (((ReflTransGen.refl.tail ⟨_, guardedWorld_reached⟩).tail
    ⟨_, halfWorld_reached⟩).tail ⟨_, registeredWorld_reached⟩).tail ⟨_, deleted⟩

/-! ## The same failure, with the NodeClaim deleted before the retry -/

def givenUpClaim : Claim := { guardedClaim with deleting := true }

def givenUpWorld : World := { halfWorld with claim := some givenUpClaim }

def clearedWorld : World := givenUpWorld.removeMember "l" "pa" "m1"

def freedWorld : World := { clearedWorld with claim := some (removeFinalizer givenUpClaim) }

theorem freedWorld_reached : Step givenUpWorld .reconcile freedWorld :=
  .reconcile (.ok 0) ⟨.ok givenUpClaim, givenUpWorld, ⟨rfl, rfl⟩,
    .ok retriedClass, givenUpWorld, ⟨rfl, rfl⟩,
    .ok (givenUpWorld.pools "l"), givenUpWorld, ⟨rfl, rfl⟩,
    .ok (givenUpWorld.members "l" "pa"), givenUpWorld, ⟨rfl, .refl _⟩,
    .ok (), clearedWorld, rfl,
    .ok (clearedWorld.pools "l"), clearedWorld, ⟨rfl, rfl⟩,
    .ok (clearedWorld.members "l" "pb"), clearedWorld, ⟨rfl, .refl _⟩,
    .ok (), freedWorld, rfl, rfl, rfl⟩

theorem careful_run_releases_sample :
    halfWorld.members "l" "pa" = [⟨"m1", some "i"⟩] ∧ CarefulRun newWorld givenUpWorld ∧
      freedWorld.Released "i" := by
  have run : CarefulRun newWorld givenUpWorld := by
    refine ((ReflTransGen.refl.tail ⟨.reconcile, ?_, guardedWorld_reached⟩).tail
      ⟨.reconcile, ?_, halfWorld_reached⟩).tail ⟨.delete, trivial, .delete _ guardedClaim rfl⟩
    · exact fun claim instanceID _ _ _ _ _ => nofun
    · exact fun claim instanceID _ _ _ _ _ => nofun
  exact ⟨rfl, run, careful_run_releases automatic_retried (fun _ _ => rfl) run freedWorld_reached
    rfl rfl (by decide) (by rintro later ⟨⟩; decide)⟩

end KarpenterIBM.LoadBalancer
