import KarpenterIBM.PoolCleanup.Controller

/-!
# Only pools that stay empty are deleted

A history of passes with the tracking they hand on.
-/

namespace KarpenterIBM.PoolCleanup

open Calls (IKSTarget)
open EffectProgram Errors Function IKSAllocation List Objects Ownership Text

/-! ## Tracking keys -/

variable {clusterID poolID : String}

theorem trackingKey_inj {otherID otherPoolID : String} (plain : '/' ∉ clusterID.toList)
    (otherPlain : '/' ∉ otherID.toList)
    (same : trackingKey clusterID poolID = trackingKey otherID otherPoolID) :
    clusterID = otherID ∧ poolID = otherPoolID := by
  have cut : ∀ {cluster pool : String}, '/' ∉ cluster.toList →
      cutText (trackingKey cluster pool) '/' = some (cluster, pool) := by
    intro cluster pool free
    exact (cutText_eq_some_iff _ _ _ _).mpr ⟨free, by simp [trackingKey]⟩
  have parts := (cut plain).symm.trans (same ▸ cut otherPlain)
  exact Prod.mk.inj (Option.some.inj parts)

/-! ## What a visit leaves -/

variable {candidate : Candidate}

variable {pool : Pool} {entry : Option Pool} {result : Tracking × List GoError}

section
variable {setup : Setup} {target : IKSTarget} {clusterID uid : String} {nodeClass : NodeClass}

def Begins (uid : String) (nodeClass : NodeClass) (pools : List (Option Pool)) (poolID : String)
    (since : Int) (trace : List cleaning.Exchange) : Prop :=
  (∃ pool, some pool ∈ pools ∧ watches uid nodeClass pool = true ∧ pool.id = poolID ∧
    isEmptyPool pool = true) ∧ ⟨.now, since⟩ ∈ trace

def AllEmpty (uid : String) (nodeClass : NodeClass) (pools : List (Option Pool))
    (poolID : String) : Prop :=
  ∀ pool, some pool ∈ pools → watches uid nodeClass pool = true → pool.id = poolID →
    isEmptyPool pool = true

structure Leaves (clusterID uid : String) (nodeClass : NodeClass) (pools : List (Option Pool))
    (trace : List cleaning.Exchange) (before after : Tracking) : Prop where
  elsewhere : ∀ key, (∀ poolID, key ≠ trackingKey clusterID poolID) → after key = before key
  tracked : ∀ poolID since, after (trackingKey clusterID poolID) = some since →
    AllEmpty uid nodeClass pools poolID ∧
      (before (trackingKey clusterID poolID) = some since ∨
        Begins uid nodeClass pools poolID since trace)

theorem trackingKey_pool {poolID otherPoolID : String}
    (same : trackingKey clusterID poolID = trackingKey clusterID otherPoolID) :
    poolID = otherPoolID := by
  have lists := congrArg String.toList same
  simp only [trackingKey, String.toList_append] at lists
  exact String.toList_injective (append_cancel_left lists)

variable {trace : List cleaning.Exchange} {tracking : Tracking}

theorem Leaves.same
    (empty : ∀ pool, entry = some pool → watches uid nodeClass pool = true →
      isEmptyPool pool = true) :
    Leaves clusterID uid nodeClass [entry] trace tracking tracking := by
  refine ⟨fun _ _ => rfl, ?_⟩
  intro poolID since stored
  refine ⟨?_, .inl stored⟩
  intro pool mem watched _
  exact empty pool (mem_singleton.mp mem).symm watched

theorem Leaves.cleared : Leaves clusterID uid nodeClass [some pool] trace tracking
      (update tracking (trackingKey clusterID pool.id) none) := by
  refine ⟨?_, ?_⟩
  · intro key other
    exact update_of_ne (other pool.id) _ _
  intro poolID since stored
  have differs : poolID ≠ pool.id := by
    rintro rfl
    rw [update_self] at stored
    cases stored
  rw [update_of_ne fun same => differs (trackingKey_pool same)] at stored
  refine ⟨?_, .inl stored⟩
  intro shown mem _ same
  cases mem_singleton.mp mem
  exact absurd same.symm differs

theorem Leaves.begun {time : Int} (watched : watches uid nodeClass pool = true)
    (empty : isEmptyPool pool = true) (read : ⟨.now, time⟩ ∈ trace) :
    Leaves clusterID uid nodeClass [some pool] trace tracking
      (update tracking (trackingKey clusterID pool.id) (some time)) := by
  refine ⟨?_, ?_⟩
  · intro key other
    exact update_of_ne (other pool.id) _ _
  intro poolID since stored
  have allEmpty : AllEmpty uid nodeClass [some pool] poolID := by
    intro shown mem _ _
    cases mem_singleton.mp mem
    exact empty
  refine ⟨allEmpty, ?_⟩
  by_cases same : poolID = pool.id
  · subst same
    rw [update_self] at stored
    cases stored
    exact .inr ⟨⟨pool, mem_singleton_self _, watched, rfl, empty⟩, read⟩
  · rw [update_of_ne fun equal => same (trackingKey_pool equal)] at stored
    exact .inl stored

theorem visitExpired_leaves {whole : List cleaning.Exchange} {visited : Visit}
    (empty : isEmptyPool candidate.pool = true)
    (run : Runs (visitExpired setup clusterID nodeClass candidate tracking) trace (.ok visited)) :
    Leaves clusterID uid nodeClass [some candidate.pool] whole tracking visited.1 := by
  have kept : Leaves clusterID uid nodeClass [some candidate.pool] whole tracking tracking := by
    refine Leaves.same ?_
    rintro pool ⟨⟩ _
    exact empty
  obtain ⟨found, first, later, rfl, _, ended⟩ := runs_bind_ok run
  cases found with
  | error error =>
    obtain ⟨_, ⟨⟩⟩ := ended
    exact kept
  | ok freshClass =>
    dsimp only at ended
    split_ifs at ended with changed
    · obtain ⟨_, ⟨⟩⟩ := ended
      exact kept
    obtain ⟨out, mid, last, rfl, _, closed⟩ := runs_bind_ok ended
    match out, closed with
    | .error error, ⟨_, same⟩ | .ok false, ⟨_, same⟩ =>
      cases same
      exact kept
    | .ok true, ⟨_, same⟩ =>
      cases same
      exact Leaves.cleared

theorem visit_leaves {visited : Visit}
    (run : Runs (visit setup target clusterID uid nodeClass entry tracking) trace (.ok visited)) :
    Leaves clusterID uid nodeClass [entry] trace tracking visited.1 := by
  cases entry with
  | none =>
    obtain ⟨_, ⟨⟩⟩ := run
    exact Leaves.same nofun
  | some pool =>
    simp only [visit] at run
    split_ifs at run with foreign
    · obtain ⟨_, ⟨⟩⟩ := run
      refine Leaves.same ?_
      rintro other ⟨⟩ watched
      cases foreign.symm.trans watched
    · have watched : watches uid nodeClass pool = true := by simpa using foreign
      unfold visitWatched at run
      by_cases sized : isEmptyPool pool = false
      · rw [if_pos sized] at run
        obtain ⟨_, ⟨⟩⟩ := run
        exact Leaves.cleared
      rw [if_neg sized] at run
      have empty : isEmptyPool pool = true := by simpa using sized
      cases stored : tracking (trackingKey clusterID pool.id) with
      | none =>
        rw [stored] at run
        obtain ⟨time, later, rfl, rfl, ⟨⟩⟩ := run
        exact Leaves.begun watched empty (mem_singleton_self _)
      | some since =>
        rw [stored] at run
        obtain ⟨time, later, rfl, ran⟩ := run
        dsimp only [Prog.bind] at ran
        split_ifs at ran with young
        · obtain ⟨_, ⟨⟩⟩ := ran
          refine Leaves.same ?_
          rintro other ⟨⟩ _
          exact empty
        · exact visitExpired_leaves empty ran

def DistinctPools (pools : List (Option Pool)) : Prop :=
  pools.Pairwise fun first second => ∀ pool other, first = some pool → second = some other →
    pool.id ≠ other.id

theorem DistinctPools.eq_of_id {pools : List (Option Pool)} (distinct : DistinctPools pools)
    {other : Pool} (one : some pool ∈ pools) (two : some other ∈ pools)
    (same : pool.id = other.id) : pool = other := by
  induction pools with
  | nil => cases one
  | cons entry rest ih =>
    obtain ⟨apart, distinctRest⟩ := pairwise_cons.mp distinct
    rcases mem_cons.mp one with here | later
    · rcases mem_cons.mp two with hereToo | laterToo
      · exact Option.some.inj (here.trans hereToo.symm)
      · exact absurd same (apart _ laterToo pool other here.symm rfl)
    rcases mem_cons.mp two with hereToo | laterToo
    · exact absurd same.symm (apart _ later other pool hereToo.symm rfl)
    · exact ih distinctRest later laterToo

theorem visitAll_leaves {pools : List (Option Pool)} (distinct : DistinctPools pools)
    (run : Runs (visitAll setup target clusterID uid nodeClass pools tracking) trace
      (.ok result)) : Leaves clusterID uid nodeClass pools trace tracking result.1 := by
  induction pools generalizing tracking trace result with
  | nil =>
    obtain ⟨_, ⟨⟩⟩ := run
    exact ⟨fun _ _ => rfl, fun _ _ stored => ⟨nofun, .inl stored⟩⟩
  | cons entry rest ih =>
    obtain ⟨apart, distinctRest⟩ := pairwise_cons.mp distinct
    obtain ⟨visited, first, afterFirst, rfl, ran, ended⟩ := runs_bind_ok run
    obtain ⟨others, mid, last, rfl, ranRest, closed⟩ := runs_bind_ok ended
    obtain ⟨_, ⟨⟩⟩ := closed
    have one := visit_leaves ran
    have more := ih distinctRest ranRest
    refine ⟨?_, ?_⟩
    · intro key other
      exact (more.elsewhere key other).trans (one.elsewhere key other)
    intro poolID since stored
    obtain ⟨restEmpty, kept | begins⟩ := more.tracked poolID since stored
    · obtain ⟨firstEmpty, was⟩ := one.tracked poolID since kept
      refine ⟨?_, ?_⟩
      · intro pool mem watched named
        rcases mem_cons.mp mem with here | later
        · exact firstEmpty pool (here ▸ mem_singleton_self _) watched named
        · exact restEmpty pool later watched named
      rcases was with before | ⟨⟨pool, mem, found⟩, read⟩
      · exact .inl before
      refine .inr ⟨⟨pool, ?_, found⟩, mem_append_left _ read⟩
      rw [mem_singleton.mp mem]
      exact mem_cons_self ..
    · obtain ⟨⟨pool, mem, watched, named, empty⟩, read⟩ := begins
      refine ⟨?_, .inr ⟨⟨pool, mem_cons_of_mem _ mem, watched, named, empty⟩, ?_⟩⟩
      · intro other otherMember otherWatched otherNamed
        rcases mem_cons.mp otherMember with here | later
        -- The pool is in the rest of the listing, so this entry is another pool.
        · exact absurd (otherNamed.trans named.symm) (apart _ mem other pool here.symm rfl)
        · exact restEmpty other later otherWatched otherNamed
      · exact mem_append_right _ (mem_append_left _ read)

end

/-! ## Passes -/

/-- One pass: the arguments of the call and what was exchanged. -/
structure Pass where
  clusterID : String
  nodeClass : NodeClass
  trace : List cleaning.Exchange

/-- The pools that an exchange lists. -/
def listed : cleaning.Exchange → Option (List (Option Pool))
  | ⟨.listWorkerPools _, answer⟩ => Except.toOption answer
  | _ => none

/-- The listing of a pass; a pass makes one. -/
def Pass.listing (pass : Pass) : Option (List (Option Pool)) :=
  pass.trace.findSome? listed

/-- The listing of the pass shows this pool. -/
def Pass.Shows (pass : Pass) (pool : Pool) : Prop :=
  ∃ pools, pass.listing = some pools ∧ some pool ∈ pools

variable {trace : List cleaning.Exchange}

variable {setup : Setup}

variable {tracking : Tracking} {nodeClass : NodeClass}

theorem cleanupEmptyPools_runs
    (run : Runs (cleanupEmptyPools setup clusterID nodeClass tracking) trace (.ok result)) :
    (Pass.listing ⟨clusterID, nodeClass, trace⟩ = none ∧ result.1 = tracking) ∨
      ∃ target uid pools later, trace = ⟨.getNamespaceUID, .ok uid⟩ ::
          ⟨.listWorkerPools clusterID, .ok pools⟩ :: later ∧
        Runs (visitAll setup target clusterID uid nodeClass pools tracking) later (.ok result) := by
  unfold cleanupEmptyPools at run
  split at run
  · obtain ⟨rfl, ⟨⟩⟩ := run
    exact .inl ⟨rfl, rfl⟩
  split_ifs at run with elsewhere
  · obtain ⟨rfl, ⟨⟩⟩ := run
    exact .inl ⟨rfl, rfl⟩
  obtain ⟨identity, _, rfl, ended⟩ := run
  cases identity with
  | error error =>
    obtain ⟨rfl, ⟨⟩⟩ := ended
    exact .inl ⟨rfl, rfl⟩
  | ok uid =>
    change Runs ((if uid = "" then _ else _ : Program String).attempt >>= _) _ _ at ended
    split_ifs at ended
    · obtain ⟨rfl, ⟨⟩⟩ := ended
      exact .inl ⟨rfl, rfl⟩
    obtain ⟨listing, _, rfl, closed⟩ := ended
    cases listing with
    | error error =>
      obtain ⟨rfl, ⟨⟩⟩ := closed
      exact .inl ⟨rfl, rfl⟩
    | ok pools => exact .inr ⟨_, uid, pools, _, rfl, closed⟩

/-- The passes of a controller since it started, with the tracking they leave. -/
inductive History (setup : Setup) : List Pass → Tracking → Prop where
  | start : History setup [] fun _ => none
  | pass {passes : List Pass} {tracking : Tracking} {clusterID : String} {nodeClass : NodeClass}
      {trace : List cleaning.Exchange} {result : Tracking × List GoError}
      (history : History setup passes tracking)
      (run : Runs (cleanupEmptyPools setup clusterID nodeClass tracking) trace (.ok result)) :
      History setup (passes ++ [⟨clusterID, nodeClass, trace⟩]) result.1

/-! ## What the services keep to -/

def ownershipLabels : List String :=
  [managedLabel, providerLabel, clusterUIDLabel, nodeClassUIDLabel, claimUIDLabel]

/-- What holds of the listings and reads of a sequence of passes: the cluster has one UID,
cluster IDs are plain words, the IDs of a listing are distinct, the ownership labels of a
pool do not change, and a pool that is listed earlier and later is listed in between. -/
structure SteadyCloud (uid : String) (passes : List Pass) : Prop where
  cluster : ∀ pass ∈ passes, ∀ read, ⟨.getNamespaceUID, .ok read⟩ ∈ pass.trace → read = uid
  plain : ∀ pass ∈ passes, '/' ∉ pass.clusterID.toList
  distinct : ∀ pass ∈ passes, ∀ pools, pass.listing = some pools → DistinctPools pools
  labels : ∀ first ∈ passes, ∀ second ∈ passes, first.clusterID = second.clusterID →
    ∀ pool other, first.Shows pool → second.Shows other → pool.id = other.id →
      ∀ key ∈ ownershipLabels, StringMap.read pool.labels key = StringMap.read other.labels key
  persists : ∀ earlier first middle last after,
    passes = earlier ++ first :: (middle ++ last :: after) → first.clusterID = last.clusterID →
      ∀ pool other, first.Shows pool → last.Shows other → pool.id = other.id →
        ∀ pass ∈ middle, pass.clusterID = first.clusterID → pass.listing ≠ none →
          ∃ shown, pass.Shows shown ∧ shown.id = pool.id

variable {uid : String} {passes : List Pass}

theorem SteadyCloud.before {later : List Pass} (steady : SteadyCloud uid (passes ++ later)) :
    SteadyCloud uid passes := by
  have inside : ∀ {pass}, pass ∈ passes → pass ∈ passes ++ later :=
    fun mem => mem_append_left _ mem
  refine ⟨fun pass mem => steady.cluster pass (inside mem),
    fun pass mem => steady.plain pass (inside mem),
    fun pass mem => steady.distinct pass (inside mem),
    fun first one second two => steady.labels first (inside one) second (inside two), ?_⟩
  rintro earlier first mid last after rfl
  exact steady.persists earlier first mid last (after ++ later) (by simp)

theorem watches_of_labels {otherClass : NodeClass} {other : Pool} (same : ∀ key ∈ ownershipLabels,
      StringMap.read pool.labels key = StringMap.read other.labels key)
    (sameClass : otherClass.uid = nodeClass.uid) (watched : watches uid nodeClass pool = true) :
    watches uid otherClass other = true := by
  simp only [ownershipLabels, forall_mem_cons] at same
  obtain ⟨managed, provider, cluster, owner, claim, _⟩ := same
  simpa only [watches, ownedBy, sameClass, managed, provider, cluster, owner, claim] using watched

/-! ## The tracking remembers empty listings -/

/-- A pass that read this time showed the pool empty, and no listing of its cluster for its
NodeClass has shown it otherwise since. -/
def Watched (uid : String) (passes : List Pass) (clusterID poolID : String) (since : Int) : Prop :=
  ∃ earlier first later pool, passes = earlier ++ first :: later ∧
    first.clusterID = clusterID ∧ first.Shows pool ∧ pool.id = poolID ∧
    watches uid first.nodeClass pool = true ∧ ⟨.now, since⟩ ∈ first.trace ∧
    ∀ pass ∈ first :: later, pass.clusterID = clusterID →
      pass.nodeClass.uid = first.nodeClass.uid →
        ∀ shown, pass.Shows shown → shown.id = poolID → isEmptyPool shown = true

theorem Watched.extend {since : Int} {last : Pass}
    (watched : Watched uid passes clusterID poolID since)
    (empty : ∀ first pool, first ∈ passes → first.clusterID = clusterID → first.Shows pool →
      pool.id = poolID → watches uid first.nodeClass pool = true →
      last.clusterID = clusterID → last.nodeClass.uid = first.nodeClass.uid →
        ∀ shown, last.Shows shown → shown.id = poolID → isEmptyPool shown = true) :
    Watched uid (passes ++ [last]) clusterID poolID since := by
  obtain ⟨earlier, first, later, pool, rfl, cluster, shows, named, watches, read, still⟩ := watched
  refine ⟨earlier, first, later ++ [last], pool, by simp, cluster, shows, named, watches, read, ?_⟩
  intro pass mem
  rw [← cons_append] at mem
  rcases mem_append.mp mem with before | here
  · exact still pass before
  · cases mem_singleton.mp here
    exact empty first pool (by simp) cluster shows named watches

theorem history_watched (history : History setup passes tracking) (steady : SteadyCloud uid passes)
    {since : Int} (plain : '/' ∉ clusterID.toList)
    (stored : tracking (trackingKey clusterID poolID) = some since) :
    Watched uid passes clusterID poolID since := by
  induction history with
  | start => cases stored
  | @pass passes tracking passCluster nodeClass trace result history run ih =>
    have earlierSteady := steady.before
    have last : (⟨passCluster, nodeClass, trace⟩ : Pass) ∈
        passes ++ [⟨passCluster, nodeClass, trace⟩] := by simp
    rcases cleanupEmptyPools_runs run with
      ⟨unlisted, same⟩ | ⟨target, read, pools, later, rfl, ran⟩
    · rw [same] at stored
      refine (ih earlierSteady stored).extend ?_
      rintro _ _ _ _ _ _ _ _ _ shown ⟨pools, listing, _⟩ _
      cases unlisted.symm.trans listing
    · obtain rfl := steady.cluster _ last read (mem_cons_self ..)
      have leaves := visitAll_leaves (steady.distinct _ last pools rfl) ran
      by_cases sameCluster : passCluster = clusterID
      · subst sameCluster
        obtain ⟨allEmpty, kept | ⟨⟨pool, mem, watched, named, empty⟩, readAt⟩⟩ :=
          leaves.tracked poolID since stored
        · refine (ih earlierSteady kept).extend ?_
          rintro first pool inside cluster shows named watched _ sameClass shown ⟨_, ⟨⟩, listed⟩
            shownNamed
          have labels := steady.labels first (mem_append_left _ inside) _ last cluster pool
            shown shows ⟨pools, rfl, listed⟩ (named.trans shownNamed.symm)
          exact allEmpty shown listed (watches_of_labels labels sameClass watched) shownNamed
        · refine ⟨passes, _, [], pool, rfl, rfl, ⟨pools, rfl, mem⟩, named, watched, ?_, ?_⟩
          · exact mem_cons_of_mem _ (mem_cons_of_mem _ readAt)
          intro pass here _ _ shown
          cases mem_singleton.mp here
          rintro ⟨_, ⟨⟩, listed⟩ shownNamed
          have labels := steady.labels _ last _ last rfl pool shown ⟨pools, rfl, mem⟩
            ⟨pools, rfl, listed⟩ (named.trans shownNamed.symm)
          exact allEmpty shown listed (watches_of_labels labels rfl watched) shownNamed
      · have elsewhere : ∀ other, trackingKey clusterID poolID ≠ trackingKey passCluster other := by
          intro other same
          exact sameCluster (trackingKey_inj plain (steady.plain _ last) same).1.symm
        rw [leaves.elsewhere _ elsewhere] at stored
        refine (ih earlierSteady stored).extend ?_
        intro _ _ _ _ _ _ _ here
        exact absurd here sameCluster

/-! ## The reads of the deletion -/

/-- The pool is the candidate, owned by this cluster and NodeClass and by no claim, without
a target size and without autoscaling. -/
structure OwnedIdle (clusterUID classUID poolID poolName : String) (pool : Pool) : Prop where
  identity : pool.id = poolID ∧ pool.name = poolName
  managed : StringMap.read pool.labels managedLabel = "true"
  provider : StringMap.read pool.labels providerLabel = "iks"
  cluster : StringMap.read pool.labels clusterUIDLabel = clusterUID
  nodeClass : StringMap.read pool.labels nodeClassUIDLabel = classUID
  unclaimed : StringMap.read pool.labels claimUIDLabel = ""
  size : pool.sizePerZone = 0
  manual : pool.autoscaleEnabled = false

structure Unrelated (clusterID poolID poolName : String) (claim : NodeClaim) : Prop where
  allocation : ∀ allocation, decodeAllocation (allocationOf claim) = .ok (some allocation) →
    ¬(allocation.clusterID = clusterID ∧ allocation.poolName = poolName)
  annotations : ¬(ValueMap.read claim.annotations clusterIDAnnotation = .text clusterID ∧
    ValueMap.read claim.annotations poolIDAnnotation = .text poolID)

/-- What the reads of one call show: every look at the pool finds it owned and idle, the
last one without a worker, and no claim refers to it. -/
structure SafeReads (clusterUID classUID clusterID poolID poolName : String)
    (reads : List cleaning.Exchange) : Prop where
  locked : ∃ later, reads = ⟨.lockPool clusterID poolName, ()⟩ :: later
  pools : ∀ answer, ⟨.getWorkerPool clusterID poolID, .ok answer⟩ ∈ reads →
    ∃ pool, answer = some pool ∧ OwnedIdle clusterUID classUID poolID poolName pool
  lastLook : ∃ pool workers, [⟨.getWorkerPool clusterID poolID, .ok (some pool)⟩,
      ⟨.listWorkers clusterID, .ok workers⟩] <:+ reads ∧ pool.actualSize = 0
  workers : ∀ workers, ⟨.listWorkers clusterID, .ok workers⟩ ∈ reads →
    ∀ worker, some worker ∈ workers → worker.poolID = poolID → worker.actualState = "deleted"
  claims : ∃ claims, ⟨.listClaims, .ok claims⟩ ∈ reads ∧
    ∀ claim ∈ claims, Unrelated clusterID poolID poolName claim

theorem ownedIdle_of_unchanged (same : unchanged candidate pool = true) :
    OwnedIdle candidate.clusterUID candidate.classUID candidate.pool.id candidate.pool.name
      pool := by
  simp only [unchanged, ownedBy, Bool.and_eq_true, decide_eq_true_eq, Bool.not_eq_true'] at same
  obtain ⟨⟨⟨⟨id, name⟩, size⟩, manual⟩, ⟨⟨⟨managed, provider⟩, cluster⟩, owner⟩, claim⟩ := same
  exact ⟨⟨id, name⟩, managed, provider, cluster, owner, claim, size, manual⟩

variable {workers : List (Option Worker)}

theorem deleted_of_no_live (noneLive : workers.any (liveIn poolID) = false) {worker : Worker}
    (mem : some worker ∈ workers) (inPool : worker.poolID = poolID) :
    worker.actualState = "deleted" := by
  have gone := any_eq_false.mp noneLive _ mem
  simpa [liveIn, inPool] using gone

theorem unrelated_of_someClaimRefers {claims : List NodeClaim}
    (unreferred : someClaimRefers candidate claims = .ok false) :
    ∀ claim ∈ claims,
      Unrelated candidate.clusterID candidate.pool.id candidate.pool.name claim := by
  induction claims with
  | nil => exact nofun
  | cons claim rest ih =>
    rw [someClaimRefers] at unreferred
    cases decoded : decodeAllocation (allocationOf claim) with
    | error error =>
      rw [decoded] at unreferred
      cases unreferred
    | ok allocation =>
      rw [decoded] at unreferred
      dsimp only at unreferred
      split_ifs at unreferred with refers
      · cases unreferred
      simp only [refersTo, Bool.or_eq_true, Bool.and_eq_true, decide_eq_true_eq, not_or] at refers
      intro other mem
      rcases mem_cons.mp mem with rfl | later
      · refine ⟨?_, refers.2⟩
        intro record sameRecord named
        cases decoded.symm.trans sameRecord
        exact refers.1 (by simpa using named)
      · exact ih unreferred other later

section
variable {clusterID poolID : String}

variable {cluster : String} {trace : List cleaning.Exchange}

theorem only_recordDeleting (setup : Setup) (candidate : Candidate) (stored : Option ConfigMap) :
    Only (S := cleaning) (fun op => (∃ written, op = .createConfigMap written) ∨
      ∃ before after, op = .patchConfigMap before after)
      (recordDeleting setup candidate stored) := by
  cases stored with
  | none => exact ⟨.inl ⟨_, rfl⟩, only_ofExcept⟩
  | some reservation => exact ⟨.inr ⟨_, _, rfl⟩, only_ofExcept⟩

theorem only_findReservation (setup : Setup) (candidate : Candidate) :
    Only (S := cleaning) (fun op => ∃ space name, op = .getConfigMap space name)
      (findReservation setup candidate) := by
  refine ⟨⟨_, _, rfl⟩, fun answer => ?_⟩
  cases answer with
  | ok reservation => trivial
  | error error => exact only_ite trivial trivial

variable {candidate : Candidate}

theorem deleteStillEmpty_makes
    (makes : Makes (deleteStillEmpty candidate) trace (.deleteWorkerPool clusterID poolID)) :
    candidate.clusterID = clusterID ∧ candidate.pool.id = poolID ∧ ∃ pool workers,
      trace = [⟨.getWorkerPool candidate.clusterID candidate.pool.id, .ok (some pool)⟩,
        ⟨.listWorkers candidate.clusterID, .ok workers⟩] ∧
      unchanged candidate pool = true ∧ pool.actualSize = 0 ∧
      workers.any (liveIn candidate.pool.id) = false := by
  obtain ⟨_, fresh, _, rfl, rfl, atWorkers⟩ := makes_ask_bind makes nofun
  split_ifs at atWorkers with changed
  · cases atWorkers
  obtain ⟨_, workers, _, rfl, rfl, atDeletion⟩ := makes_ask_bind atWorkers nofun
  split_ifs at atDeletion with live
  · cases atDeletion
  cases fresh with
  | none => exact absurd rfl changed
  | some pool =>
    have still : (unchanged candidate pool && decide (pool.actualSize = 0)) = true := by
      simpa using changed
    rw [Bool.and_eq_true, decide_eq_true_eq] at still
    rcases atDeletion with ⟨rfl, same⟩ | ⟨answer, _, _, ended⟩
    · cases same
      exact ⟨rfl, rfl, pool, workers, rfl, still.1, still.2, Bool.eq_false_iff.mpr live⟩
    · cases answer with
      | ok value => cases ended
      | error error =>
        change Makes (if IKSClient.isNotFound error then _ else _) _ _ at ended
        split_ifs at ended <;> cases ended

variable {setup : Setup}

theorem deleteUnreferenced_makes {stored : Option ConfigMap}
    (makes : Makes (deleteUnreferenced setup candidate stored) trace
      (.deleteWorkerPool clusterID poolID)) :
    candidate.clusterID = clusterID ∧ candidate.pool.id = poolID ∧
      ∃ claims firstPool firstWorkers noted pool workers, trace = [⟨.listClaims, .ok claims⟩,
          ⟨.getWorkerPool candidate.clusterID candidate.pool.id, .ok (some firstPool)⟩,
          ⟨.listWorkers candidate.clusterID, .ok firstWorkers⟩] ++ noted ++
          [⟨.getWorkerPool candidate.clusterID candidate.pool.id, .ok (some pool)⟩,
          ⟨.listWorkers candidate.clusterID, .ok workers⟩] ∧
        someClaimRefers candidate claims = .ok false ∧
        unchanged candidate firstPool = true ∧
        firstWorkers.any (liveIn candidate.pool.id) = false ∧
        Runs (recordDeleting setup candidate stored) noted (.ok ()) ∧
        unchanged candidate pool = true ∧ pool.actualSize = 0 ∧
        workers.any (liveIn candidate.pool.id) = false := by
  obtain ⟨_, claims, _, rfl, rfl, atReferred⟩ := makes_ask_bind makes nofun
  cases unreferred : someClaimRefers candidate claims with
  | error error =>
    rw [unreferred] at atReferred
    cases atReferred
  | ok referred =>
    rw [unreferred] at atReferred
    cases referred with
    | true => cases atReferred
    | false =>
      obtain ⟨found, _, rfl, atFound⟩ := makes_other atReferred nofun
      cases found with
      | error error =>
        change Makes (if IKSClient.isNotFound error then _ else _) _ _ at atFound
        split_ifs at atFound <;> cases atFound
      | ok fresh =>
        change Makes (if _ then _ else _) _ _ at atFound
        split_ifs at atFound with changed
        · cases atFound
        obtain ⟨_, firstWorkers, _, rfl, rfl, atRecord⟩ := makes_ask_bind atFound nofun
        split_ifs at atRecord with live
        · cases atRecord
        have silent : Avoids (recordDeleting setup candidate stored)
            (.deleteWorkerPool clusterID poolID) :=
          (only_recordDeleting setup candidate stored).avoids (by simp)
        obtain ⟨_, noted, afterRecord, rfl, wrote, atSecond⟩ := silent.makes_bind atRecord
        obtain ⟨sameCluster, samePool, pool, workers, rfl, still, empty, dead⟩ :=
          deleteStillEmpty_makes atSecond
        cases fresh with
        | none => exact absurd rfl changed
        | some firstPool =>
          have first : unchanged candidate firstPool = true := by simpa using changed
          exact ⟨sameCluster, samePool, claims, firstPool, firstWorkers, noted,
            pool, workers, by simp, unreferred, first, Bool.eq_false_iff.mpr live,
            wrote, still, empty, dead⟩

theorem deleteLocked_makes
    (makes : Makes (deleteLocked setup candidate) trace (.deleteWorkerPool clusterID poolID)) :
    ∃ found later stored out, trace = found ++ later ∧
      Runs (findReservation setup candidate) found out ∧
      Makes (deleteUnreferenced setup candidate stored) later
        (.deleteWorkerPool clusterID poolID) := by
  have silent : Avoids (findReservation setup candidate) (.deleteWorkerPool clusterID poolID) :=
    (only_findReservation setup candidate).avoids (by simp)
  obtain ⟨stored, found, later, rfl, read, atChecks⟩ := silent.makes_bind makes
  cases stored with
  | none => exact ⟨found, later, none, _, rfl, read, atChecks⟩
  | some reservation =>
    refine ⟨found, later, some reservation, _, rfl, read, ?_⟩
    dsimp only at atChecks
    cases checked : checkReservation candidate reservation with
    | error error =>
      rw [checked] at atChecks
      cases atChecks
    | ok goesOn =>
      rw [checked] at atChecks
      cases goesOn with
      | false => cases atChecks
      | true => exact atChecks

/-- The reads that lead `TryDeleteEmptyPool` to its deletion. -/
theorem tryDeleteEmptyPool_makes
    (makes : Makes (tryDeleteEmptyPool setup candidate) trace
      (.deleteWorkerPool clusterID poolID)) :
    candidate.clusterID = clusterID ∧ candidate.pool.id = poolID ∧
      SafeReads candidate.clusterUID candidate.classUID clusterID poolID candidate.pool.name
        trace := by
  unfold tryDeleteEmptyPool at makes
  split_ifs at makes with nameless unaccounted
  · cases makes
  · cases makes
  obtain ⟨_, afterLock, rfl, atBody⟩ := makes_other makes nofun
  change Makes ((deleteLocked setup candidate).attempt >>= fun out =>
    (.call (.unlockPool candidate.clusterID candidate.pool.name) .pure : Program Unit) >>=
      fun _ => EffectProgram.ofExcept out) _ _ at atBody
  have locked : Makes (deleteLocked setup candidate) afterLock
      (.deleteWorkerPool clusterID poolID) := by
    rcases makes_bind atBody with inside | ⟨out, first, later, rfl, _, atUnlock⟩
    · exact makes_attempt inside
    · obtain ⟨_, last, rfl, atEnd⟩ := makes_other atUnlock nofun
      cases out <;> cases atEnd
  obtain ⟨found, later, stored, out, rfl, read, atLooks⟩ := deleteLocked_makes locked
  obtain ⟨rfl, rfl, claims, firstPool, firstWorkers, noted, pool, workers, rfl, unreferred,
    first, firstDead, wrote, still, empty, dead⟩ := deleteUnreferenced_makes atLooks
  have finds (exchange : cleaning.Exchange) (mem : exchange ∈ found) :=
    Uses.allowed_of_mem (only_findReservation setup candidate) read mem
  have writes (exchange : cleaning.Exchange) (mem : exchange ∈ noted) :=
    Uses.allowed_of_mem (only_recordDeleting setup candidate stored) wrote mem
  refine ⟨rfl, rfl, ⟨_, rfl⟩, ?_, ?_, ?_, ?_⟩
  · intro answer mem
    simp only [mem_cons, mem_append, not_mem_nil, or_false] at mem
    rcases mem with other | inFound | ((other | same | other) | inRecorded) | same | other
    · cases other
    · obtain ⟨_, _, ⟨⟩⟩ := finds _ inFound
    · cases other
    · cases same
      exact ⟨firstPool, rfl, ownedIdle_of_unchanged first⟩
    · cases other
    · rcases writes _ inRecorded with ⟨_, no⟩ | ⟨_, _, no⟩ <;> cases no
    · cases same
      exact ⟨pool, rfl, ownedIdle_of_unchanged still⟩
    · cases other
  · exact ⟨pool, workers, ((suffix_append _ _).trans (suffix_append _ _)).trans
      (suffix_cons _ _), empty⟩
  · intro listing mem
    simp only [mem_cons, mem_append, not_mem_nil, or_false] at mem
    rcases mem with other | inFound | ((other | other | same) | inRecorded) | other | same
    · cases other
    · obtain ⟨_, _, ⟨⟩⟩ := finds _ inFound
    · cases other
    · cases other
    · cases same
      exact fun worker => deleted_of_no_live firstDead
    · rcases writes _ inRecorded with ⟨_, no⟩ | ⟨_, _, no⟩ <;> cases no
    · cases other
    · cases same
      exact fun worker => deleted_of_no_live dead
  · refine ⟨claims, ?_, unrelated_of_someClaimRefers unreferred⟩
    refine mem_cons_of_mem _ (mem_append_right _ ?_)
    exact mem_append_left _ (mem_append_left _ (mem_cons_self ..))

theorem visitExpired_makes
    (makes : Makes (visitExpired setup cluster nodeClass candidate tracking) trace
      (.deleteWorkerPool clusterID poolID)) :
    candidate.clusterID = clusterID ∧ candidate.pool.id = poolID ∧
      ∃ before reads, trace = before ++ reads ∧
        SafeReads candidate.clusterUID candidate.classUID clusterID poolID candidate.pool.name
          reads := by
  obtain ⟨found, later, rfl, atFound⟩ := makes_other makes nofun
  cases found with
  | error error => cases atFound
  | ok freshClass =>
    change Makes (if _ then _ else _) _ _ at atFound
    split_ifs at atFound with changed
    · cases atFound
    rcases makes_bind atFound with inside | ⟨out, mid, last, rfl, _, atEnd⟩
    · obtain ⟨sameCluster, samePool, safe⟩ := tryDeleteEmptyPool_makes (makes_attempt inside)
      exact ⟨sameCluster, samePool, [_], later, rfl, safe⟩
    rcases out with error | (_ | _) <;> cases atEnd

structure Expired (setup : Setup) (clusterID uid : String) (nodeClass : NodeClass)
    (entry : Option Pool) (tracking : Tracking) (trace : List cleaning.Exchange)
    (deletedCluster poolID : String) : Prop where
  cluster : deletedCluster = clusterID
  entry : ∃ pool, entry = some pool ∧ pool.id = poolID ∧ isEmptyPool pool = true ∧
    watches uid nodeClass pool = true ∧
    ∃ before reads, trace = before ++ reads ∧
      SafeReads uid nodeClass.uid clusterID poolID pool.name reads
  elapsed : ∃ since check, tracking (trackingKey clusterID poolID) = some since ∧
    ⟨.now, check⟩ ∈ trace ∧ getEmptyPoolTTL setup nodeClass ≤ check - since

theorem visit_makes {target : IKSTarget}
    (makes : Makes (visit setup target cluster uid nodeClass entry tracking) trace
      (.deleteWorkerPool clusterID poolID)) :
    Expired setup cluster uid nodeClass entry tracking trace clusterID poolID := by
  cases entry with
  | none => cases makes
  | some pool =>
    simp only [visit] at makes
    split_ifs at makes with foreign
    · cases makes
    have watched : watches uid nodeClass pool = true := by simpa using foreign
    unfold visitWatched at makes
    by_cases sized : isEmptyPool pool = false
    · rw [if_pos sized] at makes
      cases makes
    rw [if_neg sized] at makes
    have empty : isEmptyPool pool = true := by simpa using sized
    cases stored : tracking (trackingKey cluster pool.id) with
    | none =>
      rw [stored] at makes
      obtain ⟨time, later, rfl, ⟨⟩⟩ := makes_other makes nofun
    | some since =>
      rw [stored] at makes
      obtain ⟨time, later, rfl, ran⟩ := makes_other makes nofun
      dsimp only [Prog.bind] at ran
      split_ifs at ran with young
      · cases ran
      obtain ⟨rfl, rfl, before, reads, rfl, safe⟩ := visitExpired_makes ran
      refine ⟨rfl, ⟨pool, rfl, rfl, empty, watched, _ :: before, reads, rfl, safe⟩,
        since, time, stored, mem_cons_self .., not_lt.mp young⟩

theorem visitAll_makes {target : IKSTarget} {pools : List (Option Pool)}
    (distinct : DistinctPools pools)
    (makes : Makes (visitAll setup target cluster uid nodeClass pools tracking) trace
      (.deleteWorkerPool clusterID poolID)) :
    ∃ entry ∈ pools, ∃ before later, trace = before ++ later ∧
      Expired setup cluster uid nodeClass entry tracking later clusterID poolID := by
  induction pools generalizing tracking trace with
  | nil => cases makes
  | cons entry others ih =>
    obtain ⟨apart, distinctOthers⟩ := pairwise_cons.mp distinct
    rcases makes_bind makes with inside | ⟨visited, first, later, rfl, ran, atOthers⟩
    · exact ⟨entry, mem_cons_self .., [], trace, rfl, visit_makes inside⟩
    rcases makes_bind atOthers with inside | ⟨errs, mid, last, rfl, _, atEnd⟩
    · obtain ⟨found, mem, before, reads, rfl, expired⟩ := ih distinctOthers inside
      obtain ⟨pool, rfl, named, _⟩ := expired.entry
      obtain ⟨since, check, stored, read, elapsed⟩ := expired.elapsed
      refine ⟨_, mem_cons_of_mem _ mem, first ++ before, reads, by simp,
        expired.cluster, expired.entry, since, check, ?_, read, elapsed⟩
      -- The entry visited before is another pool, so it has not touched this tracking.
      rcases ((visit_leaves ran).tracked poolID since stored).2 with
        kept | ⟨⟨other, shown, _, sameID, _⟩, _⟩
      · exact kept
      · exact absurd (sameID.trans named.symm)
          (apart _ mem other pool (mem_singleton.mp shown).symm rfl)
    · cases atEnd

end

theorem cleanupEmptyPools_makes {deletedCluster : String}
    (makes : Makes (cleanupEmptyPools setup clusterID nodeClass tracking) trace
      (.deleteWorkerPool deletedCluster poolID)) :
    ∃ target uid pools later, trace = ⟨.getNamespaceUID, .ok uid⟩ ::
        ⟨.listWorkerPools clusterID, .ok pools⟩ :: later ∧
      Makes (visitAll setup target clusterID uid nodeClass pools tracking) later
        (.deleteWorkerPool deletedCluster poolID) := by
  unfold cleanupEmptyPools at makes
  split at makes
  · cases makes
  split_ifs at makes with elsewhere
  · cases makes
  obtain ⟨identity, _, rfl, atListing⟩ := makes_other makes nofun
  cases identity with
  | error error => cases atListing
  | ok uid =>
    change Makes ((if uid = "" then _ else _ : Program String).attempt >>= _) _ _ at atListing
    split_ifs at atListing
    · cases atListing
    obtain ⟨listing, _, rfl, atVisits⟩ := makes_other atListing nofun
    cases listing with
    | error error => cases atVisits
    | ok pools => exact ⟨_, uid, pools, _, rfl, atVisits⟩

/-! ## Deletion -/

/-- The listing of the pass shows the pool, with no size wherever it shows it. -/
def Pass.SawEmpty (pass : Pass) (poolID : String) : Prop :=
  (∃ shown, pass.Shows shown ∧ shown.id = poolID) ∧
    ∀ shown, pass.Shows shown → shown.id = poolID → shown.sizePerZone = 0 ∧ shown.actualSize = 0

/-- In every sequence of passes, a pool is deleted only after a whole time to live in which
every listing of its cluster for its NodeClass showed it empty, and after reads of the
deleting call that show it owned by this cluster and NodeClass, idle and unreferenced. -/
theorem deletes_only_settled_pools (setup : Setup) (uid : String) (passes : List Pass)
    (tracking : Tracking) (clusterID deletedCluster poolID : String) (nodeClass : NodeClass)
    (trace : List cleaning.Exchange)
    (rest : Call.Answer (.deleteWorkerPool deletedCluster poolID) →
      Program (Tracking × List GoError))
    (history : History setup passes tracking)
    (steady : SteadyCloud uid (passes ++ [⟨clusterID, nodeClass, trace⟩]))
    (reaches : Reaches (cleanupEmptyPools setup clusterID nodeClass tracking) trace
      (.call (.deleteWorkerPool deletedCluster poolID) rest)) :
    deletedCluster = clusterID ∧ (∃ earlier first later since check,
        passes ++ [⟨clusterID, nodeClass, trace⟩] = earlier ++ first :: later ∧
        ⟨.now, since⟩ ∈ first.trace ∧ ⟨.now, check⟩ ∈ trace ∧
        getEmptyPoolTTL setup nodeClass ≤ check - since ∧
        ∀ pass ∈ first :: later, pass.clusterID = clusterID →
          pass.nodeClass.uid = nodeClass.uid → pass.listing ≠ none → pass.SawEmpty poolID) ∧
      ∃ poolName before reads, trace = before ++ reads ∧
        SafeReads uid nodeClass.uid clusterID poolID poolName reads := by
  obtain ⟨target, read, pools, visits, shape, atVisits⟩ := cleanupEmptyPools_makes reaches.makes
  have last : (⟨clusterID, nodeClass, trace⟩ : Pass) ∈
      passes ++ [⟨clusterID, nodeClass, trace⟩] := by simp
  have listing : Pass.listing ⟨clusterID, nodeClass, trace⟩ = some pools := by
    rw [shape]
    rfl
  have isUID : read = uid := steady.cluster _ last read (shape ▸ mem_cons_self ..)
  have distinct := steady.distinct _ last pools listing
  obtain ⟨_, member, front, later, rfl, expired⟩ := visitAll_makes distinct atVisits
  obtain ⟨sameCluster, ⟨pool, rfl, samePool, empty, watched, before, reads, split, safe⟩,
    since, check, stored, readCheck, elapsed⟩ := expired
  rw [isUID] at watched safe
  have shows : Pass.Shows ⟨clusterID, nodeClass, trace⟩ pool := ⟨pools, listing, member⟩
  obtain ⟨earlier, first, middle, seen, rfl, cluster, firstShows, named, firstWatched, readSince,
    still⟩ := history_watched history steady.before (steady.plain _ last) stored
  have sameID : seen.id = pool.id := named.trans samePool.symm
  have sized : ∀ {shown : Pool}, isEmptyPool shown = true →
      shown.sizePerZone = 0 ∧ shown.actualSize = 0 := by
    intro shown without
    simpa [isEmptyPool] using without
  have sameClass : first.nodeClass.uid = nodeClass.uid := by
    have labels := steady.labels first (by simp) _ last cluster seen pool firstShows shows sameID
    have owner := labels nodeClassUIDLabel (by simp [ownershipLabels])
    simp only [watches, ownedBy, Bool.and_eq_true, decide_eq_true_eq] at watched firstWatched
    rw [firstWatched.2.1.2, watched.2.1.2] at owner
    exact owner
  have whole : trace = (⟨.getNamespaceUID, .ok read⟩ ::
      ⟨.listWorkerPools clusterID, .ok pools⟩ :: (front ++ before)) ++ reads := by
    rw [shape, split]
    simp
  refine ⟨sameCluster, ⟨earlier, first, middle ++ [⟨clusterID, nodeClass, trace⟩], since, check,
    by simp, readSince, ?_, elapsed, ?_⟩, pool.name, _, reads, whole, safe⟩
  · rw [shape]
    exact mem_cons_of_mem _ (mem_cons_of_mem _ (mem_append_right _ readCheck))
  intro pass passMember inCluster ofClass listed
  rw [← cons_append] at passMember
  rcases mem_append.mp passMember with earlierPass | thisPass
  · refine ⟨?_, fun shown shownHere shownID => sized (still pass earlierPass inCluster
      (ofClass.trans sameClass.symm) shown shownHere shownID)⟩
    rcases mem_cons.mp earlierPass with rfl | between
    · exact ⟨seen, firstShows, named⟩
    obtain ⟨shown, shownHere, shownID⟩ := steady.persists earlier first middle _ []
      (by simp) cluster seen pool firstShows shows sameID pass between
      (inCluster.trans cluster.symm) listed
    exact ⟨shown, shownHere, shownID.trans named⟩
  · cases mem_singleton.mp thisPass
    refine ⟨⟨pool, shows, samePool⟩, ?_⟩
    rintro shown ⟨shownPools, shownListing, shownHere⟩ shownID
    cases listing.symm.trans shownListing
    rw [distinct.eq_of_id shownHere member (shownID.trans samePool.symm)]
    exact sized empty

/-! ## A pool that stays empty -/

def sampleTarget : IKSTarget := ⟨IKSAllocation.sampleAllocation.accountID, "r"⟩

def sampleSetup : Setup where
  platform := IKSAllocation.samplePlatform
  target := some sampleTarget
  parseDuration := fun _ => none

def sampleClass : NodeClass := ⟨"c", "k", "r", "y", some ⟨true, none⟩⟩

def emptyPool : Pool where
  id := "p"
  name := "n"
  sizePerZone := 0
  actualSize := 0
  labels := (((Finmap.singleton managedLabel "true").insert providerLabel "iks").insert
    clusterUIDLabel "x").insert nodeClassUIDLabel "k"
  autoscaleEnabled := false

def sampleCandidate : Candidate := ⟨"y", "x", "k", emptyPool, sampleTarget.accountID, "r"⟩

def firstTracking : Tracking :=
  update (fun _ => none) (trackingKey "y" "p") (some 0)

def firstTrace : List cleaning.Exchange :=
  [⟨.getNamespaceUID, .ok "x"⟩, ⟨.listWorkerPools "y", .ok [some emptyPool]⟩, ⟨.now, (0 : Int)⟩]

theorem visit_emptyPool (tracking : Tracking) :
    visit sampleSetup sampleTarget "y" "x" sampleClass (some emptyPool) tracking =
      visitWatched sampleSetup sampleTarget "y" "x" sampleClass emptyPool tracking := by
  have watched : watches "x" sampleClass emptyPool = true := by decide +kernel
  rw [visit, watched, if_neg nofun]

theorem firstPass_history : History sampleSetup [⟨"y", sampleClass, firstTrace⟩] firstTracking := by
  have visited : Runs (visit sampleSetup sampleTarget "y" "x" sampleClass (some emptyPool)
      fun _ => none) [⟨.now, (0 : Int)⟩] (.ok (firstTracking, none)) := by
    rw [visit_emptyPool]
    exact ⟨(0 : Int), [], rfl, rfl, rfl⟩
  have run : Runs (cleanupEmptyPools sampleSetup "y" sampleClass fun _ => none) firstTrace
      (.ok (firstTracking, [])) := by
    refine ⟨.ok "x", _, rfl, .ok [some emptyPool], _, rfl, ?_⟩
    refine (runs_bind_iff (visit sampleSetup sampleTarget "y" "x" sampleClass (some emptyPool)
      fun _ => none) _ _ _).mpr ⟨_, _, [], rfl, visited, ?_⟩
    exact ⟨rfl, rfl⟩
  exact .pass .start run

def deletingReads : List cleaning.Exchange :=
  [⟨.lockPool "y" "n", ()⟩,
    ⟨.getConfigMap "s" (IKSAllocation.reservationName IKSAllocation.samplePlatform "y" "n"),
      .error (.kube .notFound "")⟩,
    ⟨.listClaims, .ok []⟩, ⟨.getWorkerPool "y" "p", .ok (some emptyPool)⟩,
    ⟨.listWorkers "y", .ok []⟩, ⟨.createConfigMap (newCleanupReservation sampleSetup
      sampleCandidate), .ok ()⟩,
    ⟨.getWorkerPool "y" "p", .ok (some emptyPool)⟩, ⟨.listWorkers "y", .ok []⟩]

theorem unchanged_emptyPool : unchanged sampleCandidate emptyPool = true := by decide +kernel

theorem deleteStillEmpty_sample_reaches :
    ∃ rest, Reaches (S := cleaning) (deleteStillEmpty sampleCandidate)
      [⟨.getWorkerPool "y" "p", .ok (some emptyPool)⟩, ⟨.listWorkers "y", .ok []⟩]
      (.call (.deleteWorkerPool "y" "p") rest) := by
  apply Exists.intro
  apply Reaches.step (S := cleaning) (.getWorkerPool "y" "p") (.ok (some emptyPool))
  have same : ¬(some emptyPool).any (fun pool => unchanged sampleCandidate pool &&
      decide (pool.actualSize = 0)) = false := by
    rw [Option.any_some, unchanged_emptyPool]
    nofun
  simp only [EffectProgram.ofExcept, Prog.bind, if_neg same]
  exact .step (S := cleaning) (.listWorkers "y") (.ok []) (.here _)

theorem tryDeleteEmptyPool_sample_reaches :
    ∃ rest, Reaches (S := cleaning) (tryDeleteEmptyPool sampleSetup sampleCandidate) deletingReads
      (.call (.deleteWorkerPool "y" "p") rest) := by
  have identified : ¬(sampleCandidate.pool.id = "" ∨ sampleCandidate.pool.name = "") := by decide
  have account : ¬(IKSAllocation.accountMatches sampleCandidate.accountID = false ∨
      sampleCandidate.region = "") := by
    decide +kernel
  obtain ⟨rest, second⟩ := deleteStillEmpty_sample_reaches
  have unreferenced : Reaches (S := cleaning) (deleteUnreferenced sampleSetup sampleCandidate none)
      (deletingReads.drop 2) (.call (.deleteWorkerPool "y" "p") rest) := by
    refine .step (S := cleaning) .listClaims (.ok []) ?_
    refine .step (S := cleaning) (.getWorkerPool "y" "p") (.ok (some emptyPool)) ?_
    have same : ¬(some emptyPool).any (unchanged sampleCandidate) = false := by
      rw [Option.any_some, unchanged_emptyPool]
      nofun
    simp only [EffectProgram.ofExcept, Prog.attempt, Prog.bind, if_neg same]
    refine .step (S := cleaning) (.listWorkers "y") (.ok []) ?_
    exact .step (S := cleaning) (.createConfigMap _) (.ok ()) second
  rw [tryDeleteEmptyPool, if_neg identified, if_neg account]
  have locked : Reaches (S := cleaning) (deleteLocked sampleSetup sampleCandidate)
      (deletingReads.drop 1) (.call (.deleteWorkerPool "y" "p") rest) :=
    .step (S := cleaning) (.getConfigMap "s" _) (.error (.kube .notFound "")) unreferenced
  exact ⟨_, .step (S := cleaning) (.lockPool "y" "n") () (locked.attempt.bind _)⟩

def secondTrace : List cleaning.Exchange :=
  ⟨.getNamespaceUID, .ok "x"⟩ :: ⟨.listWorkerPools "y", .ok [some emptyPool]⟩ ::
    ⟨.now, defaultEmptyPoolTTL⟩ :: ⟨.getNodeClass "c", .ok sampleClass⟩ :: deletingReads

theorem secondPass_reaches :
    ∃ rest, Reaches (S := cleaning) (cleanupEmptyPools sampleSetup "y" sampleClass firstTracking)
      secondTrace (.call (.deleteWorkerPool "y" "p") rest) := by
  obtain ⟨rest, deletes⟩ := tryDeleteEmptyPool_sample_reaches
  have stored : firstTracking (trackingKey "y" emptyPool.id) = some 0 := update_self ..
  have visited : ∃ rest, Reaches (S := cleaning)
      (visit sampleSetup sampleTarget "y" "x" sampleClass (some emptyPool) firstTracking)
      (secondTrace.drop 2) (.call (.deleteWorkerPool "y" "p") rest) := by
    rw [visit_emptyPool, visitWatched, if_neg nofun, stored]
    exact ⟨_, .step (S := cleaning) .now defaultEmptyPoolTTL <|
      .step (S := cleaning) (.getNodeClass "c") (.ok sampleClass) <| deletes.attempt.bind _⟩
  obtain ⟨_, visits⟩ := visited
  exact ⟨_, .step (S := cleaning) .getNamespaceUID (.ok "x") <|
    .step (S := cleaning) (.listWorkerPools "y") (.ok [some emptyPool]) <| visits.bind _⟩

def samplePasses : List Pass :=
  [⟨"y", sampleClass, firstTrace⟩, ⟨"y", sampleClass, secondTrace⟩]

theorem samplePasses_listing {pass : Pass} (mem : pass ∈ samplePasses) :
    pass.clusterID = "y" ∧ pass.listing = some [some emptyPool] := by
  simp only [samplePasses, mem_cons, not_mem_nil, or_false] at mem
  rcases mem with rfl | rfl
  · exact ⟨rfl, rfl⟩
  · exact ⟨rfl, rfl⟩

theorem samplePasses_shows {pass : Pass} (mem : pass ∈ samplePasses) (shows : pass.Shows pool) :
    pool = emptyPool := by
  obtain ⟨pools, listing, here⟩ := shows
  cases (samplePasses_listing mem).2.symm.trans listing
  exact Option.some.inj (mem_singleton.mp here)

theorem samplePasses_steady : SteadyCloud "x" samplePasses where
  cluster := by
    intro pass mem read reads
    simp only [samplePasses, mem_cons, not_mem_nil, or_false] at mem
    rcases mem with rfl | rfl
    · cases reads with
      | head => rfl
      | tail _ later => nomatch later
    cases reads with
    | head => rfl
    | tail _ later => nomatch later
  plain := by
    intro pass mem
    rw [(samplePasses_listing mem).1]
    decide
  distinct := by
    intro pass mem pools listing
    cases (samplePasses_listing mem).2.symm.trans listing
    exact pairwise_singleton ..
  labels := by
    intro first one second two _ pool other shown shownToo _ key _
    rw [samplePasses_shows one shown, samplePasses_shows two shownToo]
  persists := by
    intro earlier first mid last after whole _ pool other _ _ _ pass mem
    have lengths := congrArg List.length whole
    simp only [samplePasses, length_cons, length_append, length_nil] at lengths
    have := length_pos_of_mem mem
    omega

theorem deletes_only_settled_pools_sample : ∃ rest, Reaches (S := cleaning)
        (cleanupEmptyPools sampleSetup "y" sampleClass firstTracking) secondTrace
        (.call (.deleteWorkerPool "y" "p") rest) ∧
      ∃ poolName before reads, secondTrace = before ++ reads ∧
        SafeReads "x" "k" "y" "p" poolName reads := by
  obtain ⟨rest, reaches⟩ := secondPass_reaches
  have settled := deletes_only_settled_pools sampleSetup "x" [⟨"y", sampleClass, firstTrace⟩]
    firstTracking "y" "y" "p" sampleClass secondTrace rest firstPass_history samplePasses_steady
    reaches
  exact ⟨rest, reaches, settled.2.2⟩

end KarpenterIBM.PoolCleanup
