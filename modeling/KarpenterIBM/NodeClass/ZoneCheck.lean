import KarpenterIBM.Cache
import KarpenterIBM.Lib.Service
import KarpenterIBM.NodeClass.Validation

/-!
# The zone check and its cache

`validateZoneSubnetCompatibility` remembers the zone of a subnet for fifteen minutes.
-/

namespace KarpenterIBM.ZoneCheck

open EffectProgram Errors NodeClassStatus Objects TTLCache

/-! ## The services of one call -/

/-- What one call meets: when it reads and when it writes the cache of zones, what the
provider's own cache holds and what the API answers. -/
structure Moment where
  asked : Int
  stored : Int
  ordered : asked ≤ stored
  cachedSubnet : String → Option SubnetInfo
  client : Except GoError Unit
  subnet : String → Except GoError VPCSubnet

def zoneKey (subnetID : String) : String := "subnet-zone-" ++ subnetID

def zoneTTL : Int := 15 * minute

def checking (moment : Moment) : Service validating (Cache String)
  | cache, .cachedZone id, answer, after =>
    answer = (cache.get moment.asked (zoneKey id)).1 ∧
      after = (cache.get moment.asked (zoneKey id)).2
  | cache, .cacheZone id zone, _, after =>
    after = cache.setWithTTL moment.stored (zoneKey id) zone zoneTTL
  | cache, .cachedSubnet id, answer, after => answer = moment.cachedSubnet id ∧ after = cache
  | cache, .getVPCClient, answer, after => answer = moment.client ∧ after = cache
  | cache, .getSubnet id, answer, after => answer = moment.subnet id ∧ after = cache
  | cache, _, _, after => after = cache

/-- What the provider says of a subnet. -/
def Moment.provided (moment : Moment) (controller : Controller) (id : String) :
    Option SubnetInfo :=
  if controller.hasIBMClient = false then none
  else
    match moment.cachedSubnet id with
    | some info => some info
    | none =>
      match moment.client, moment.subnet id with
      | .ok _, .ok subnet => some (convertVPCSubnetToSubnetInfo subnet)
      | _, _ => none

section
variable (moment : Moment)

include moment

theorem readSubnet_answers (id lead : String) (cache : Cache String) :
    Ensures (checking moment) cache
      (wrapped lead (.call (.getSubnet id) ofExcept) : Program VPCSubnet) fun out after =>
        after = cache ∧ out.toOption = (moment.subnet id).toOption := by
  refine Ensures.mapError (ensures_call ?_)
  rintro answer mid ⟨answered, rfl⟩
  rw [← answered]
  refine ensures_ofExcept ⟨rfl, ?_⟩
  cases answer <;> rfl

theorem getVPCClient_answers (cache : Cache String) :
    Ensures (checking moment) cache getVPCClient fun out after =>
      after = cache ∧ out = moment.client := by
  refine ensures_call ?_
  rintro client mid ⟨answered, rfl⟩
  exact ensures_ofExcept ⟨rfl, answered⟩

theorem getSubnet_provides (controller : Controller) (id : String) (cache : Cache String) :
    Ensures (checking moment) cache (getSubnet controller id) fun out after =>
      after = cache ∧ out.toOption = moment.provided controller id := by
  rw [getSubnet, Moment.provided]
  split_ifs with offline
  · exact ensures_fail ⟨rfl, rfl⟩
  refine ensures_perform ?_
  rintro cached mid ⟨holds, rfl⟩
  rw [← holds]
  cases cached with
  | some info => exact ensures_pure ⟨rfl, rfl⟩
  | none =>
    refine Ensures.bind (getVPCClient_answers moment _) ?_ ?_
    · rintro _ state ⟨rfl, connected⟩
      rw [← connected]
      refine Ensures.bind (readSubnet_answers moment id _ _) ?_ ?_
      · rintro subnet state ⟨rfl, read⟩
        refine ensures_perform ?_
        rintro _ last rfl
        refine ensures_pure ⟨rfl, ?_⟩
        cases api : moment.subnet id with
        | error error =>
          rw [api] at read
          cases read
        | ok found =>
          rw [api] at read
          cases read
          rfl
      · rintro error state ⟨rfl, read⟩
        refine ⟨rfl, ?_⟩
        cases api : moment.subnet id with
        | error _ => rfl
        | ok found =>
          rw [api] at read
          cases read
    · rintro error state ⟨rfl, refused⟩
      rw [← refused]
      exact ⟨rfl, rfl⟩

theorem getSubnet_wrapped (controller : Controller) (id lead : String) (cache : Cache String) :
    Ensures (checking moment) cache (wrapped lead (getSubnet controller id))
      fun out after => after = cache ∧ out.toOption = moment.provided controller id := by
  refine Ensures.mapError ((getSubnet_provides moment controller id cache).mono ?_)
  rintro out after ⟨rfl, given⟩
  refine ⟨rfl, given ▸ ?_⟩
  cases out <;> rfl

end

/-! ## The check as a function -/

section
variable (controller : Controller) (moment : Moment) (cache : Cache String) (zone id : String)

def Accepts : Prop :=
  controller.hasSubnetProvider = false ∨
    cache.live moment.asked (zoneKey id) = some zone ∨
    (cache.live moment.asked (zoneKey id) = none ∧
      ∃ info, moment.provided controller id = some info ∧ info.zone = zone ∧
        info.state = "available")

def remembered : Cache String :=
  if controller.hasSubnetProvider = false then cache
  else
    match cache.live moment.asked (zoneKey id), moment.provided controller id with
    | none, some info =>
      (cache.get moment.asked (zoneKey id)).2.setWithTTL moment.stored (zoneKey id) info.zone
        zoneTTL
    | _, _ => (cache.get moment.asked (zoneKey id)).2

theorem check_decides :
    Ensures (checking moment) cache (validateZoneSubnetCompatibility controller zone id)
      fun out after => (out = .ok () ↔ Accepts controller moment cache zone id) ∧
        after = remembered controller moment cache id := by
  rw [validateZoneSubnetCompatibility]
  by_cases absent : controller.hasSubnetProvider = false
  · rw [if_pos absent]
    refine ensures_pure ⟨iff_of_true rfl (.inl absent), ?_⟩
    rw [remembered, if_pos absent]
  rw [if_neg absent]
  refine ensures_perform ?_
  rintro cached mid ⟨holds, rfl⟩
  rw [get_fst] at holds
  rw [remembered, if_neg absent, Accepts, ← holds]
  cases cached with
  | some known =>
    dsimp only
    split_ifs with other
    · refine ensures_fail ⟨iff_of_false nofun ?_, rfl⟩
      rintro (noneGiven | same | ⟨missing, _⟩)
      · exact absent noneGiven
      · exact other (Option.some.inj same)
      · cases missing
    · exact ensures_pure ⟨iff_of_true rfl (.inr (.inl (congrArg some (not_not.mp other)))), rfl⟩
  | none =>
    refine Ensures.bind (getSubnet_wrapped moment controller id _ _) ?_ ?_
    · rintro info state ⟨rfl, given⟩
      have said : moment.provided controller id = some info := given.symm
      rw [said]
      refine ensures_perform ?_
      rintro _ last rfl
      split_ifs with other down
      · refine ensures_fail ⟨iff_of_false nofun ?_, rfl⟩
        rintro (noneGiven | missing | ⟨_, found, same, inZone, _⟩)
        · exact absent noneGiven
        · cases missing
        · cases same
          exact other inZone
      · refine ensures_fail ⟨iff_of_false nofun ?_, rfl⟩
        rintro (noneGiven | missing | ⟨_, found, same, _, available⟩)
        · exact absent noneGiven
        · cases missing
        · cases same
          exact down available
      · exact ensures_pure ⟨iff_of_true rfl
          (.inr (.inr ⟨rfl, info, rfl, not_not.mp other, not_not.mp down⟩)), rfl⟩
    · rintro error state ⟨rfl, given⟩
      have said : moment.provided controller id = none := given.symm
      rw [said]
      refine ⟨iff_of_false nofun ?_, rfl⟩
      rintro (noneGiven | missing | ⟨_, found, same, _⟩)
      · exact absent noneGiven
      · cases missing
      · cases same

/-- The check accepts. -/
def Accepted : Prop :=
  ∃ after, Ends (checking moment) cache (validateZoneSubnetCompatibility controller zone id)
    (.ok ()) after

theorem checking_answers (state : Cache String) (call : Call) :
    ∃ (answer : call.Answer) (after : Cache String), checking moment state call answer after := by
  cases call with
  | cachedZone id | cachedSubnet id | getVPCClient | getSubnet id => exact ⟨_, _, rfl, rfl⟩
  | cacheZone id zone | cacheSubnet id info | cacheSubnets id infos => exact ⟨(), _, rfl⟩
  | hasSDKClient => exact ⟨true, _, rfl⟩
  | cachedSubnets id | backoff attempt => exact ⟨none, _, rfl⟩
  | _ => exact ⟨.error (.plain ""), _, rfl⟩

theorem accepted_iff :
    Accepted controller moment cache zone id ↔ Accepts controller moment cache zone id := by
  have decides := check_decides controller moment cache zone id
  constructor
  · rintro ⟨after, ends⟩
    exact (decides _ _ ends).1.mp rfl
  intro accepts
  obtain ⟨out, after, ends⟩ := exists_ends (checking_answers moment)
    (validateZoneSubnetCompatibility controller zone id) cache
  have accepted := (decides _ _ ends).1.mpr accepts
  exact ⟨after, accepted ▸ ends⟩

end

/-! ## Earlier calls -/

/-- The subnet is in this zone and in this state, wherever the provider speaks of it. -/
structure Moment.Shows (moment : Moment) (id place state : String) : Prop where
  cached : ∀ info, moment.cachedSubnet id = some info → info.zone = place ∧ info.state = state
  api : ∀ subnet, moment.subnet id = .ok subnet → subnet.zone = place ∧ subnet.status = state

variable {controller : Controller}

theorem Moment.Shows.provided {moment : Moment} {id place state : String}
    (shows : moment.Shows id place state) {info : SubnetInfo}
    (given : moment.provided controller id = some info) :
    info.zone = place ∧ info.state = state := by
  rw [Moment.provided] at given
  split_ifs at given
  cases cached : moment.cachedSubnet id with
  | some known =>
    rw [cached] at given
    cases given
    exact shows.cached _ cached
  | none =>
    rw [cached] at given
    dsimp only at given
    split at given
    · next subnet _ answered =>
        cases given
        exact shows.api _ answered
    · cases given

/-- The cache after any earlier checks of any subnets, none later than the time, while the
subnet in question does not change. -/
inductive Filled (controller : Controller) (id place state : String) : Cache String → Int → Prop
    where
  | fresh (ttl time : Int) : Filled controller id place state (Cache.new ttl) time
  | checked {cache after : Cache String} {time : Int}
      (filled : Filled controller id place state cache time) (moment : Moment)
      (shows : moment.Shows id place state) (passed : time ≤ moment.asked)
      (zone other : String) (outcome : Except GoError Unit)
      (ends : Ends (checking moment) cache
        (validateZoneSubnetCompatibility controller zone other) outcome after) :
      Filled controller id place state after moment.stored

theorem zoneKey_inj {first second : String} (same : zoneKey first = zoneKey second) :
    first = second :=
  (String.append_right_inj "subnet-zone-").mp same

theorem live_remembered {moment : Moment} {cache : Cache String} {other id known : String}
    {later : Int} (passed : moment.stored ≤ later)
    (held : (remembered controller moment cache other).live later (zoneKey id) = some known) :
    cache.live later (zoneKey id) = some known ∨
      ∃ info, moment.provided controller id = some info ∧ known = info.zone := by
  have asked : moment.asked ≤ later := le_trans moment.ordered passed
  rw [remembered] at held
  split_ifs at held
  · exact .inl held
  split at held
  · next info _ given =>
      by_cases same : id = other
      · subst same
        exact .inr ⟨info, given, eq_of_live_setWithTTL held⟩
      rw [live_setWithTTL_of_ne _ _ passed (fun keys => same (zoneKey_inj keys)),
        live_get _ _ _ asked] at held
      exact .inl held
  · rw [live_get _ _ _ asked] at held
    exact .inl held

theorem Filled.live_eq {id place state : String} {cache : Cache String} {time : Int}
    (filled : Filled controller id place state cache time) {later : Int} (passed : time ≤ later)
    {known : String} (held : cache.live later (zoneKey id) = some known) : known = place := by
  induction filled generalizing later with
  | fresh ttl time =>
    rw [live_new] at held
    cases held
  | @checked cache after time filled moment shows before zone other out ends ih =>
    have left := (check_decides controller moment cache zone other _ _ ends).2
    rw [left] at held
    rcases live_remembered passed held with earlier | ⟨info, given, rfl⟩
    · exact ih (le_trans before (le_trans moment.ordered passed)) earlier
    · exact (shows.provided given).1

/-! ## The result -/

/-- Whether the verdict depends on the cache: it does exactly when the cache remembers the
zone that is asked for while the provider would not answer or the subnet is not available. -/
theorem zone_verdict_independent_iff {controller : Controller} {id place state : String}
    {cache : Cache String} {time : Int} (filled : Filled controller id place state cache time)
    {moment : Moment} (shows : moment.Shows id place state) (passed : time ≤ moment.asked)
    (ttl : Int) (zone : String) :
    (Accepted controller moment cache zone id ↔
        Accepted controller moment (Cache.new ttl) zone id) ↔
      controller.hasSubnetProvider = false ∨ cache.live moment.asked (zoneKey id) = none ∨
        zone ≠ place ∨ (state = "available" ∧ (moment.provided controller id).isSome = true) := by
  rw [accepted_iff, accepted_iff, Accepts, Accepts, live_new]
  cases held : cache.live moment.asked (zoneKey id) with
  | none => simp
  | some known =>
    obtain rfl := filled.live_eq passed held
    by_cases absent : controller.hasSubnetProvider = false
    · simp [absent]
    by_cases elsewhere : zone = known
    -- The cache accepts its own zone, and the provider has the last word without it.
    · subst elsewhere
      cases given : moment.provided controller id with
      | none => simp [absent]
      | some info =>
        obtain ⟨zoneOf, stateOf⟩ := shows.provided given
        simp [absent, zoneOf, stateOf]
    -- Another zone is rejected with the cache and without.
    · have rejects : ∀ info, moment.provided controller id = some info → info.zone ≠ zone := by
        intro info given
        rw [(shows.provided given).1]
        exact Ne.symm elsewhere
      have otherZone : ¬ known = zone := Ne.symm elsewhere
      simp only [absent, elsewhere, otherZone, Option.some.injEq, false_or, reduceCtorEq,
        false_and, true_and, ne_eq, not_false_eq_true, true_or, iff_true, false_iff]
      rintro ⟨info, given, inZone, _⟩
      exact rejects info given inZone

/-- A subnet that exists and is still being set up. -/
def pendingMoment (time : Int) : Moment where
  asked := time
  stored := time
  ordered := le_refl time
  cachedSubnet _ := none
  client := .ok ()
  subnet id := .ok ⟨id, "us-south-1", "pending", none⟩

theorem pendingMoment_shows (time : Int) (id : String) :
    (pendingMoment time).Shows id "us-south-1" "pending" :=
  ⟨fun info cached => (nomatch cached), fun subnet answered => by cases answered; exact ⟨rfl, rfl⟩⟩

/-- The cache after one check of that subnet, which rejected it. -/
def pendingCache : Cache String :=
  remembered .complete (pendingMoment 0) (Cache.new zoneTTL) "s"

theorem pendingCache_filled : Filled .complete "s" "us-south-1" "pending" pendingCache 0 := by
  obtain ⟨out, after, ends⟩ := exists_ends (checking_answers (pendingMoment 0))
    (validateZoneSubnetCompatibility .complete "us-south-1" "s") (Cache.new zoneTTL)
  have left := (check_decides _ _ _ _ _ _ _ ends).2
  have filled := (Filled.fresh zoneTTL 0).checked (pendingMoment 0)
    (pendingMoment_shows 0 "s") (le_refl 0) "us-south-1" "s" out ends
  rw [left] at filled
  exact filled

theorem pendingCache_live : pendingCache.live 1 (zoneKey "s") = some "us-south-1" :=
  live_setWithTTL_self _ _ _ (by decide)

theorem zone_verdict_independent_iff_sample :
    Accepted .complete (pendingMoment 1) pendingCache "us-south-2" "s" ↔
      Accepted .complete (pendingMoment 1) (Cache.new zoneTTL) "us-south-2" "s" :=
  (zone_verdict_independent_iff pendingCache_filled (pendingMoment_shows 1 "s") (by decide)
    zoneTTL "us-south-2").mpr (.inr (.inr (.inl (by decide))))

/-- The subnet that was rejected because of its state is accepted when it is asked for
again, which it is not without the cache. -/
theorem pending_subnet_accepted : Filled .complete "s" "us-south-1" "pending" pendingCache 0 ∧
      Accepted .complete (pendingMoment 1) pendingCache "us-south-1" "s" ∧
      ¬ Accepted .complete (pendingMoment 1) (Cache.new zoneTTL) "us-south-1" "s" := by
  refine ⟨pendingCache_filled, ?_, ?_⟩
  · rw [accepted_iff]
    exact .inr (.inl pendingCache_live)
  rw [accepted_iff]
  rintro (noneGiven | remembers | ⟨_, info, given, _, available⟩)
  · cases noneGiven
  · cases remembers
  · cases given
    exact absurd available (by decide)

end KarpenterIBM.ZoneCheck
