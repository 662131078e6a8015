import KarpenterIBM.Lib.Machine
import KarpenterIBM.Pricing.Provider

/-!
# Agreement of the two price queries

`GetPrices` reads the table of prices, `GetPrice` a cache in front of it. Both live twelve
hours, but an entry of the cache is younger than the table it was read from and outlives it.
-/

namespace KarpenterIBM.Pricing

open Errors KeyedMap Machine TTLCache

variable {Price : Type}

/-! ## The table in force -/

def inForce (provider : Provider) (state : State Price) (now : Int) (market : Market Price) :
    PricingMap Price :=
  match stale state now, fetchPricingData provider market with
  | true, .ok newPricingMap => newPricingMap
  | _, _ => state.pricingMap

section
variable (provider : Provider) (state : State Price) (now : Int) (market : Market Price)

theorem inForce_of_fresh (fresh : stale state now = false) :
    inForce provider state now market = state.pricingMap := by
  unfold inForce
  rw [fresh]

theorem refresh_cases : (∃ newPricingMap, stale state now = true ∧
        fetchPricingData provider market = .ok newPricingMap ∧
        inForce provider state now market = newPricingMap ∧
        (refresh provider state now market).2 =
          { state with pricingMap := newPricingMap, lastUpdate := some now }) ∨
      (inForce provider state now market = state.pricingMap ∧
        (refresh provider state now market).2 = state) := by
  unfold refresh inForce
  cases old : stale state now with
  | false => exact .inr ⟨rfl, by rw [if_pos rfl]⟩
  | true =>
    rw [if_neg Bool.true_eq_false.mp]
    by_cases client : provider.hasClient = false
    · have failed : fetchPricingData provider market =
          .error (.plain "IBM client not initialized") := by
        rw [fetchPricingData, if_pos client]
      rw [if_pos client, failed]
      exact .inr ⟨rfl, rfl⟩
    · rw [if_neg client]
      cases fetchPricingData provider market with
      | error error => exact .inr ⟨rfl, rfl⟩
      | ok newPricingMap => exact .inl ⟨newPricingMap, rfl, rfl, rfl, rfl⟩

theorem refreshed_eq :
    refreshed provider state now market = (refresh provider state now market).2 := by
  unfold refreshed refresh
  cases stale state now with
  | false | true => rfl

@[simp] theorem refreshed_pricingMap :
    (refreshed provider state now market).pricingMap = inForce provider state now market := by
  rw [refreshed_eq]
  rcases refresh_cases provider state now market with ⟨table, _, _, force, same⟩ | ⟨force, same⟩
  · rw [same, force]
  · rw [same, force]

@[simp] theorem refreshed_priceCache :
    (refreshed provider state now market).priceCache = state.priceCache := by
  rw [refreshed_eq]
  rcases refresh_cases provider state now market with ⟨table, _, _, _, same⟩ | ⟨_, same⟩
  · rw [same]
  · rw [same]

@[simp] theorem inForce_with_priceCache (cache : Cache Price) :
    inForce provider { state with priceCache := cache } now market =
      inForce provider state now market := rfl

@[simp] theorem inForce_refreshed :
    inForce provider (refreshed provider state now market) now market =
      inForce provider state now market := by
  rw [refreshed_eq]
  rcases refresh_cases provider state now market with ⟨table, _, _, force, same⟩ | ⟨_, same⟩
  · have fresh : stale { state with pricingMap := table, lastUpdate := some now } now = false := by
      simp [stale, ttl, hour]
    rw [same, inForce_of_fresh _ _ _ _ fresh, force]
  · rw [same]

end

/-! ## The answers of the queries -/

def looked (state : State Price) (now : Int) (key : String) : State Price :=
  { state with priceCache := (state.priceCache.get now key).2 }

section
variable (provider : Provider) (state : State Price) (now : Int) (market : Market Price)
  {instanceType zone : String} {price : Price}

theorem readPrice_of_priced
    (priced : priceIn (inForce provider state now market) instanceType zone = some price) :
    readPrice provider state now market instanceType zone =
      (.ok price, { refreshed provider state now market with
        priceCache := state.priceCache.set now (cacheKey instanceType zone) price }) := by
  rw [readPrice, refreshed_pricingMap, priced, refreshed_priceCache]
  dsimp only
  rw [refreshed_pricingMap]

theorem readPrice_of_unpriced
    (unpriced : priceIn (inForce provider state now market) instanceType zone = none) :
    readPrice provider state now market instanceType zone =
      (.error (.plain ("no pricing data available for instance type " ++ instanceType ++
        " in zone " ++ zone)), refreshed provider state now market) := by
  rw [readPrice, refreshed_pricingMap, unpriced]

theorem getPrice_of_live
    (held : state.priceCache.live now (cacheKey instanceType zone) = some price) :
    getPrice provider state now market instanceType zone =
      (.ok price, looked state now (cacheKey instanceType zone)) := by
  rw [← get_fst] at held
  rw [getPrice, ← Prod.eta (state.priceCache.get now (cacheKey instanceType zone)), held]
  rfl

theorem getPrice_of_not_live
    (missing : state.priceCache.live now (cacheKey instanceType zone) = none) :
    getPrice provider state now market instanceType zone =
      readPrice provider (looked state now (cacheKey instanceType zone)) now market instanceType
        zone := by
  rw [← get_fst] at missing
  rw [getPrice, ← Prod.eta (state.priceCache.get now (cacheKey instanceType zone)), missing]
  rfl

/-- What `GetPrice` does: a price from the cache, a price from the table that is cached, or
an error. -/
theorem getPrice_cases (instanceType zone : String) :
    let key := cacheKey instanceType zone
    let table := inForce provider state now market
    let result := getPrice provider state now market instanceType zone
    (∃ price, state.priceCache.live now key = some price ∧ result.1 = .ok price ∧
        result.2 = looked state now key) ∨
      (∃ price, state.priceCache.live now key = none ∧
        priceIn table instanceType zone = some price ∧ result.1 = .ok price ∧
        result.2 = { refreshed provider (looked state now key) now market with
          priceCache := (looked state now key).priceCache.set now key price }) ∨
      (state.priceCache.live now key = none ∧ priceIn table instanceType zone = none ∧
        (∃ error, result.1 = .error error) ∧
        result.2 = refreshed provider (looked state now key) now market) := by
  intro key table result
  cases held : state.priceCache.live now key with
  | some price =>
    have answer : result = _ := getPrice_of_live provider state now market held
    exact .inl ⟨price, rfl, by rw [answer], by rw [answer]⟩
  | none =>
    have missed : result = _ := getPrice_of_not_live provider state now market held
    cases priced : priceIn table instanceType zone with
    | some price =>
      have answer := missed.trans
        (readPrice_of_priced provider (looked state now key) now market priced)
      exact .inr (.inl ⟨price, rfl, rfl, by rw [answer], by rw [answer]⟩)
    | none =>
      have answer := missed.trans
        (readPrice_of_unpriced provider (looked state now key) now market priced)
      exact .inr (.inr ⟨rfl, rfl, ⟨_, by rw [answer]⟩, by rw [answer]⟩)

theorem getPrice_eq_ok_iff : (getPrice provider state now market instanceType zone).1 = .ok price ↔
      state.priceCache.live now (cacheKey instanceType zone) = some price ∨
        (state.priceCache.live now (cacheKey instanceType zone) = none ∧
          priceIn (inForce provider state now market) instanceType zone = some price) := by
  rcases getPrice_cases provider state now market instanceType zone with
    ⟨held, live, answer, _⟩ | ⟨read, live, priced, answer, _⟩ | ⟨live, priced, ⟨error, answer⟩, _⟩
  · rw [answer, live]
    simp
  · rw [answer, live, priced]
    simp
  · rw [answer, live, priced]
    simp

/-- The answer names the instance type with this price. -/
def Lists (answer : Except GoError (Finmap fun _ : String => Price)) (instanceType : String)
    (price : Price) : Prop :=
  ∃ prices, answer = .ok prices ∧ prices.lookup instanceType = some price

theorem lookup_pricesOfZone (pricingMap : PricingMap Price) (instanceType zone : String) :
    (pricesOfZone pricingMap zone).lookup instanceType = priceIn pricingMap instanceType zone :=
  lookup_filterMapValues ..

theorem getPrices_snd (zone : String) :
    (getPrices provider state now market zone).2 = refreshed provider state now market := by
  unfold getPrices
  dsimp only
  split_ifs
  · rfl
  · rfl

theorem lists_getPrices_iff :
    Lists (getPrices provider state now market zone).1 instanceType price ↔
      priceIn (inForce provider state now market) instanceType zone = some price := by
  rw [← lookup_pricesOfZone, ← refreshed_pricingMap, getPrices]
  split_ifs with empty
  · refine iff_of_false (fun ⟨_, no, _⟩ => nomatch no) fun listed => ?_
    have member := Finmap.mem_keys.mpr (Finmap.mem_of_lookup_eq_some listed)
    rw [empty] at member
    exact absurd member (Finset.notMem_empty _)
  constructor
  · rintro ⟨prices, same, listed⟩
    cases same
    exact listed
  · exact fun listed => ⟨_, rfl, listed⟩

/-! ## What a call leaves -/

inductive Query where
  | getPrice (instanceType zone : String)
  | getPrices (zone : String)
  | refresh
deriving DecidableEq

/-- The state after a call. -/
def perform : Query → State Price
  | .getPrice instanceType zone => (getPrice provider state now market instanceType zone).2
  | .getPrices zone => (getPrices provider state now market zone).2
  | .refresh => (refresh provider state now market).2

theorem inForce_perform (query : Query) :
    inForce provider (perform provider state now market query) now market =
      inForce provider state now market := by
  cases query with
  | getPrice instanceType zone =>
    rw [perform]
    rcases getPrice_cases provider state now market instanceType zone with
      ⟨_, _, _, after⟩ | ⟨_, _, _, _, after⟩ | ⟨_, _, _, after⟩
    · rw [after, looked, inForce_with_priceCache]
    · rw [after, inForce_with_priceCache, inForce_refreshed, looked, inForce_with_priceCache]
    · rw [after, inForce_refreshed, looked, inForce_with_priceCache]
  | getPrices zone => rw [perform, getPrices_snd, inForce_refreshed]
  | refresh => rw [perform, ← refreshed_eq, inForce_refreshed]

theorem pricingMap_perform (query : Query) :
    (perform provider state now market query).pricingMap = inForce provider state now market ∨
      ((perform provider state now market query).pricingMap = state.pricingMap ∧
        ∀ key, (perform provider state now market query).priceCache.live now key =
          state.priceCache.live now key) := by
  cases query with
  | getPrice instanceType zone =>
    rw [perform]
    rcases getPrice_cases provider state now market instanceType zone with
      ⟨_, _, _, after⟩ | ⟨_, _, _, _, after⟩ | ⟨_, _, _, after⟩
    · rw [after]
      exact .inr ⟨rfl, fun key => live_get _ _ _ le_rfl⟩
    · rw [after]
      exact .inl (by rw [refreshed_pricingMap, looked, inForce_with_priceCache])
    · rw [after]
      exact .inl (by rw [refreshed_pricingMap, looked, inForce_with_priceCache])
  | getPrices zone =>
    rw [perform, getPrices_snd]
    exact .inl (refreshed_pricingMap ..)
  | refresh =>
    rw [perform, ← refreshed_eq]
    exact .inl (refreshed_pricingMap ..)

def Stores (query : Query) (key : String) (price : Price) : Prop :=
  ∃ instanceType zone, query = .getPrice instanceType zone ∧ key = cacheKey instanceType zone ∧
    state.priceCache.live now key = none ∧
    priceIn (inForce provider state now market) instanceType zone = some price

theorem live_perform {query : Query} {key : String}
    (held : (perform provider state now market query).priceCache.live now key = some price) :
    state.priceCache.live now key = some price ∨
      Stores provider state now market query key price := by
  cases query with
  | getPrice instanceType zone =>
    rw [perform] at held
    rcases getPrice_cases provider state now market instanceType zone with
      ⟨_, _, _, after⟩ | ⟨read, missing, priced, _, after⟩ | ⟨_, _, _, after⟩
    · rw [after, looked, live_get _ _ _ le_rfl] at held
      exact .inl held
    · rw [after] at held
      by_cases same : key = cacheKey instanceType zone
      · subst same
        rw [eq_of_live_set held]
        exact .inr ⟨instanceType, zone, rfl, rfl, missing, priced⟩
      · rw [live_set_of_ne _ _ le_rfl same, looked, live_get _ _ _ le_rfl] at held
        exact .inl held
    · rw [after, refreshed_priceCache, looked, live_get _ _ _ le_rfl] at held
      exact .inl held
  | getPrices zone =>
    rw [perform, getPrices_snd, refreshed_priceCache] at held
    exact .inl held
  | refresh =>
    rw [perform, ← refreshed_eq, refreshed_priceCache] at held
    exact .inl held

theorem live_of_stores {query : Query} {key : String} (lasting : 0 ≤ state.priceCache.ttl)
    (stores : Stores provider state now market query key price) :
    (perform provider state now market query).priceCache.live now key = some price := by
  obtain ⟨instanceType, zone, rfl, rfl, missing, priced⟩ := stores
  rw [perform]
  rcases getPrice_cases provider state now market instanceType zone with
    ⟨_, live, _⟩ | ⟨read, _, found, _, after⟩ | ⟨_, unpriced, _⟩
  · cases missing.symm.trans live
  · cases Option.some.inj (priced.symm.trans found)
    rw [after]
    refine live_set_self _ _ _ ?_
    rw [looked, get_ttl]
    omega
  · cases priced.symm.trans unpriced

theorem ttl_perform (query : Query) :
    (perform provider state now market query).priceCache.ttl = state.priceCache.ttl := by
  cases query with
  | getPrice instanceType zone =>
    rw [perform]
    rcases getPrice_cases provider state now market instanceType zone with
      ⟨_, _, _, after⟩ | ⟨_, _, _, _, after⟩ | ⟨_, _, _, after⟩
    · rw [after, looked, get_ttl]
    · rw [after, set_ttl, looked, get_ttl]
    · rw [after, refreshed_priceCache, looked, get_ttl]
  | getPrices zone => rw [perform, getPrices_snd, refreshed_priceCache]
  | refresh => rw [perform, ← refreshed_eq, refreshed_priceCache]

end

/-! ## Agreement at a moment -/

section
variable (provider : Provider) (state : State Price) (now : Int) (market : Market Price)

/-- At this moment `GetPrice` gives only prices that `GetPrices` lists for the zone, whether
the calls find the same state or one of them the state the other one leaves. -/
structure AgreesAt : Prop where
  together : ∀ instanceType zone price,
    (getPrice provider state now market instanceType zone).1 = .ok price →
      Lists (getPrices provider state now market zone).1 instanceType price
  after : ∀ instanceType zone price,
    (getPrice provider state now market instanceType zone).1 = .ok price →
      Lists (getPrices provider (getPrice provider state now market instanceType zone).2 now
        market zone).1 instanceType price
  before : ∀ instanceType zone price,
    (getPrice provider (getPrices provider state now market zone).2 now market instanceType
        zone).1 = .ok price →
      Lists (getPrices provider state now market zone).1 instanceType price

/-- Every price that is live in the cache is the price of the table. -/
def Coherent (cache : Cache Price) (now : Int) (table : PricingMap Price) : Prop :=
  ∀ instanceType zone price, cache.live now (cacheKey instanceType zone) = some price →
    priceIn table instanceType zone = some price

variable {provider state now market}

theorem agreesAt_iff : AgreesAt provider state now market ↔
      Coherent state.priceCache now (inForce provider state now market) := by
  constructor
  · intro agrees instanceType zone price held
    rw [← lists_getPrices_iff]
    refine agrees.together instanceType zone price ?_
    rw [getPrice_eq_ok_iff]
    exact .inl held
  · intro coherent
    have priced : ∀ {instanceType zone price},
        (getPrice provider state now market instanceType zone).1 = .ok price →
          priceIn (inForce provider state now market) instanceType zone = some price := by
      intro instanceType zone price answer
      rcases (getPrice_eq_ok_iff ..).mp answer with held | ⟨_, read⟩
      · exact coherent instanceType zone price held
      · exact read
    refine ⟨?_, ?_, ?_⟩
    · intro instanceType zone price answer
      rw [lists_getPrices_iff]
      exact priced answer
    · intro instanceType zone price answer
      have sameTable := inForce_perform provider state now market (.getPrice instanceType zone)
      rw [perform] at sameTable
      rw [lists_getPrices_iff, sameTable]
      exact priced answer
    · intro instanceType zone price answer
      rw [lists_getPrices_iff]
      refine priced ?_
      rw [getPrice_eq_ok_iff, getPrices_snd, refreshed_priceCache, inForce_refreshed] at answer
      rwa [getPrice_eq_ok_iff]

end

/-! ## Runs -/

/-- A call some time after the one before it. -/
structure Input (Price : Type) where
  elapsed : Nat
  market : Market Price
  query : Query

structure World (Price : Type) where
  now : Int
  state : State Price

def moment (world : World Price) (input : Input Price) : Int :=
  world.now + input.elapsed

def step (provider : Provider) (world : World Price) (input : Input Price) : World Price :=
  ⟨moment world input,
    perform provider world.state (moment world input) input.market input.query⟩

def KeepsCached (provider : Provider) (world : World Price) (input : Input Price) : Prop :=
  stale world.state (moment world input) = true →
    ∀ table, fetchPricingData provider input.market = .ok table →
      Coherent world.state.priceCache (moment world input) table

/-- Cached prices are kept, and a price that is cached is the price of every pair with its
key. -/
structure Steady (provider : Provider) (world : World Price) (input : Input Price) : Prop where
  keeps : KeepsCached provider world input
  apart : ∀ key price,
    Stores provider world.state (moment world input) input.market input.query key price →
      ∀ instanceType zone, key = cacheKey instanceType zone →
        priceIn (inForce provider world.state (moment world input) input.market) instanceType
          zone = some price

/-- The queries agree before and after the call, at its moment. -/
def Agrees (provider : Provider) (world : World Price) (input : Input Price) : Prop :=
  AgreesAt provider world.state (moment world input) input.market ∧
    AgreesAt provider (step provider world input).state (moment world input) input.market

structure Consistent (world : World Price) : Prop where
  coherent : Coherent world.state.priceCache world.now world.state.pricingMap
  lasting : 0 ≤ world.state.priceCache.ttl

section
variable {provider : Provider} {world : World Price} {input : Input Price}

theorem Coherent.later {cache : Cache Price} {now later : Int} {table : PricingMap Price}
    (coherent : Coherent cache now table) (passed : now ≤ later) : Coherent cache later table :=
  fun instanceType zone price held => coherent instanceType zone price (live_of_later passed held)

theorem Consistent.coherent_inForce (agree : Consistent world)
    (keeps : KeepsCached provider world input) :
    Coherent world.state.priceCache (moment world input)
      (inForce provider world.state (moment world input) input.market) := by
  rcases refresh_cases provider world.state (moment world input) input.market with
    ⟨table, old, fetched, force, _⟩ | ⟨force, _⟩
  · rw [force]
    exact keeps old table fetched
  · rw [force]
    exact agree.coherent.later (by unfold moment; omega)

theorem coherent_perform (coherent : Coherent world.state.priceCache (moment world input)
      (inForce provider world.state (moment world input) input.market))
    (steady : Steady provider world input) :
    Coherent (step provider world input).state.priceCache (moment world input)
      (inForce provider world.state (moment world input) input.market) := by
  intro instanceType zone price held
  rcases live_perform _ _ _ _ held with before | stored
  · exact coherent instanceType zone price before
  · exact steady.apart _ price stored instanceType zone rfl

theorem agrees_iff_steady (agree : Consistent world) :
    Agrees provider world input ↔ Steady provider world input := by
  rw [Agrees, agreesAt_iff, agreesAt_iff, step, inForce_perform]
  constructor
  · rintro ⟨before, after⟩
    refine ⟨?_, ?_⟩
    · intro old table fetched
      have force : inForce provider world.state (moment world input) input.market = table := by
        rw [inForce, old, fetched]
      rwa [force] at before
    intro key price stored instanceType zone same
    refine after instanceType zone price ?_
    rw [← same]
    exact live_of_stores _ _ _ _ agree.lasting stored
  · intro steady
    have before := agree.coherent_inForce steady.keeps
    exact ⟨before, coherent_perform before steady⟩

theorem Consistent.step (agree : Consistent world) (steady : Steady provider world input) :
    Consistent (step provider world input) := by
  have before := agree.coherent_inForce steady.keeps
  refine ⟨?_, ?_⟩
  · rcases pricingMap_perform provider world.state (moment world input) input.market
      input.query with table | ⟨table, same⟩
    · rw [Pricing.step, table]
      exact coherent_perform before steady
    intro instanceType zone price held
    rw [Pricing.step, table]
    rw [Pricing.step, same] at held
    exact agree.coherent.later (by unfold moment; omega) instanceType zone price held
  · rw [Pricing.step, ttl_perform]
    exact agree.lasting

theorem consistent_initial (start : Int) : Consistent (⟨start, .initial⟩ : World Price) where
  coherent instanceType zone price held := nomatch held
  lasting := show (0 : Int) ≤ ttl by decide

end

/-- In every run the two queries agree before and after each call, exactly when every call
is steady. -/
theorem prices_agree_iff (provider : Provider) (start : Int) (inputs : List (Input Price)) :
    Along (step provider) (Agrees provider) ⟨start, .initial⟩ inputs ↔
      Along (step provider) (Steady provider) ⟨start, .initial⟩ inputs := by
  constructor
  · refine along_of_invariant ?_ ?_ (consistent_initial start)
    · exact fun world input consistent agrees =>
        consistent.step ((agrees_iff_steady consistent).mp agrees)
    · exact fun world input consistent agrees => (agrees_iff_steady consistent).mp agrees
  refine along_of_invariant ?_ ?_ (consistent_initial start)
  · exact fun world input consistent steady => consistent.step steady
  · exact fun world input consistent steady => (agrees_iff_steady consistent).mpr steady

/-! ## A price that outlives its table -/

def sampleProvider : Provider := ⟨true, true, "us-south"⟩

/-- One instance type in one zone, at this price. -/
def sampleMarket (price : Nat) : Market Nat where
  catalogClient := .ok ()
  listInstanceTypes := .ok [⟨some "bx2-2x8", some "entry"⟩]
  vpcClient := .ok ()
  hasSDKClient := true
  listRegionZones := .ok (some [some "us-south-1"])
  getPricing _ := .ok (some [⟨some [⟨some "USD", some [some price]⟩]⟩])

/-- The table is fetched, and six hours later a price of it is cached. -/
def sampleWorld : World Nat :=
  run (step sampleProvider) ⟨0, .initial⟩
    [⟨0, sampleMarket 1, .refresh⟩,
      ⟨21600000000000, sampleMarket 1, .getPrice "bx2-2x8" "us-south-1"⟩]

/-- Thirteen hours after the start the cache has the old price, the table the new one. -/
theorem cached_price_outlives_table :
    (getPrice sampleProvider sampleWorld.state (13 * hour) (sampleMarket 2) "bx2-2x8"
        "us-south-1").1 = .ok 1 ∧
      Lists (getPrices sampleProvider sampleWorld.state (13 * hour) (sampleMarket 2)
        "us-south-1").1 "bx2-2x8" 2 := by
  rw [getPrice_eq_ok_iff, lists_getPrices_iff]
  exact ⟨.inl (by decide +kernel), by decide +kernel⟩

end KarpenterIBM.Pricing
