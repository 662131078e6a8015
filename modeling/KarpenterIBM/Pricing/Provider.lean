import KarpenterIBM.Cache
import KarpenterIBM.Errors

/-!
# The pricing provider

`GetPrice`, `GetPrices` and `Refresh` of `pkg/providers/common/pricing`, with the fetch of the
prices from the catalog. A price is any value.
-/

namespace KarpenterIBM.Pricing

open Errors KeyedMap TTLCache

/-! ## The cloud at a moment -/

structure CatalogEntry where
  name : Option String
  id : Option String

structure Amount (Price : Type) where
  currency : Option String
  prices : Option (List (Option Price))

structure Metric (Price : Type) where
  amounts : Option (List (Amount Price))

/-- What the clients of the provider answer at a moment.  The zones are those of the region
of the provider, with the result and its list each possibly missing. -/
structure Market (Price : Type) where
  catalogClient : Except GoError Unit
  listInstanceTypes : Except GoError (List CatalogEntry)
  vpcClient : Except GoError Unit
  hasSDKClient : Bool
  listRegionZones : Except GoError (Option (List (Option String)))
  getPricing : String → Except GoError (Option (List (Metric Price)))

/-- What the provider was built with. -/
structure Provider where
  hasClient : Bool
  hasBatcher : Bool
  region : String

abbrev PricingMap (Price : Type) : Type := Finmap fun _ : String => Finmap fun _ : String => Price

section
variable {Price : Type}

def quotes (metrics : List (Metric Price)) : List (Option String × Price) :=
  metrics.flatMap fun metric =>
    (metric.amounts.getD []).flatMap fun amount =>
      (amount.prices.getD []).filterMap fun price => price.map (amount.currency, ·)

def fetchPricingFromAPI (provider : Provider) (market : Market Price) (catalogEntryID : String) :
    Except GoError Price :=
  if provider.hasBatcher = false then .error (.plain "pricing batcher not initialized")
  else
    match market.getPricing catalogEntryID with
    | .error error => .error (.wrap "calling GetPricing API: " error "")
    | .ok metrics =>
      match (quotes (metrics.getD [])).find? fun quote => quote.1 = some "USD" with
      | some quote => .ok quote.2
      | none =>
        match (quotes (metrics.getD [])).head? with
        | some quote => .ok quote.2
        | none => .error (.plain "no pricing data found in API response")

def fetchInstancePricing (provider : Provider) (market : Market Price) (name : String)
    (id : Option String) : Except GoError Price :=
  match id with
  | none => .error (.plain "catalog entry ID is nil")
  | some catalogEntryID =>
    match fetchPricingFromAPI provider market catalogEntryID with
    | .error error => .error (.wrap ("fetching pricing for " ++ name ++ ": ") error "")
    | .ok price => .ok price

def getZonesForRegion (market : Market Price) (region : String) : Except GoError (List String) :=
  match market.vpcClient with
  | .error error => .error (.wrap "getting VPC client: " error "")
  | .ok _ =>
    if market.hasSDKClient = false then .error (.plain "VPC SDK client not available")
    else
      match market.listRegionZones with
      | .error error => .error (.wrap ("listing zones for region " ++ region ++ ": ") error "")
      | .ok none => .error (.plain ("no zones found for region " ++ region))
      | .ok (some zones) =>
        if zones.filterMap id = [] then
          .error (.plain ("no zones found for region " ++ region))
        else .ok (zones.filterMap id)

def inAllZones (zones : List String) (price : Price) : Finmap fun _ : String => Price :=
  zones.foldl (fun zoneMap zone => zoneMap.insert zone price) ∅

def addEntry (provider : Provider) (market : Market Price) (zones : List String)
    (pricingMap : PricingMap Price) (entry : CatalogEntry) : PricingMap Price :=
  match entry.name with
  | none => pricingMap
  | some name =>
    match fetchInstancePricing provider market name entry.id with
    | .error _ => pricingMap
    | .ok price => pricingMap.insert name (inAllZones zones price)

def fetchPricingData (provider : Provider) (market : Market Price) :
    Except GoError (PricingMap Price) :=
  if provider.hasClient = false then .error (.plain "IBM client not initialized")
  else
    match market.catalogClient with
    | .error error => .error (.wrap "getting catalog client: " error "")
    | .ok _ =>
      match market.listInstanceTypes with
      | .error error => .error (.wrap "listing instance types: " error "")
      | .ok instanceTypes =>
        match getZonesForRegion market provider.region with
        | .error error =>
          .error (.wrap ("getting zones for region " ++ provider.region ++ ": ") error "")
        | .ok zones => .ok (instanceTypes.foldl (addEntry provider market zones) ∅)

end

/-! ## Calls -/

/-- The fields that change; `lastUpdate` is `none` as long as it is the zero time. -/
structure State (Price : Type) where
  pricingMap : PricingMap Price
  lastUpdate : Option Int
  priceCache : Cache Price

def ttl : Int := 12 * hour

variable {Price : Type}

def State.initial : State Price := ⟨∅, none, .new ttl⟩

def stale (state : State Price) (now : Int) : Bool :=
  match state.lastUpdate with
  | none => true
  | some updated => decide (ttl < now - updated)

def refresh (provider : Provider) (state : State Price) (now : Int) (market : Market Price) :
    Except GoError Unit × State Price :=
  if stale state now = false then (.ok (), state)
  else if provider.hasClient = false then
    (.error (.plain "IBM client not available for pricing API calls"), state)
  else
    match fetchPricingData provider market with
    | .error error =>
      (.error (.wrap "failed to fetch pricing data from IBM Cloud API: " error ""), state)
    | .ok newPricingMap =>
      (.ok (), { state with pricingMap := newPricingMap, lastUpdate := some now })

def refreshed (provider : Provider) (state : State Price) (now : Int) (market : Market Price) :
    State Price :=
  if stale state now then (refresh provider state now market).2 else state

def cacheKey (instanceType zone : String) : String :=
  "price:" ++ instanceType ++ ":" ++ zone

def priceIn (pricingMap : PricingMap Price) (instanceType zone : String) : Option Price :=
  (pricingMap.lookup instanceType).bind fun zoneMap => zoneMap.lookup zone

/-- The part of `GetPrice` after the cache had nothing. -/
def readPrice (provider : Provider) (state : State Price) (now : Int) (market : Market Price)
    (instanceType zone : String) : Except GoError Price × State Price :=
  let current := refreshed provider state now market
  match priceIn current.pricingMap instanceType zone with
  | some price =>
    (.ok price,
      { current with
        priceCache := current.priceCache.set now (cacheKey instanceType zone) price })
  | none =>
    (.error (.plain ("no pricing data available for instance type " ++ instanceType ++
      " in zone " ++ zone)), current)

def getPrice (provider : Provider) (state : State Price) (now : Int) (market : Market Price)
    (instanceType zone : String) : Except GoError Price × State Price :=
  match state.priceCache.get now (cacheKey instanceType zone) with
  | (some price, cache) => (.ok price, { state with priceCache := cache })
  | (none, cache) =>
    readPrice provider { state with priceCache := cache } now market instanceType zone

def pricesOfZone (pricingMap : PricingMap Price) (zone : String) :
    Finmap fun _ : String => Price :=
  filterMapValues (fun _ zoneMap => zoneMap.lookup zone) pricingMap

def getPrices (provider : Provider) (state : State Price) (now : Int) (market : Market Price)
    (zone : String) :
    Except GoError (Finmap fun _ : String => Price) × State Price :=
  let current := refreshed provider state now market
  let prices := pricesOfZone current.pricingMap zone
  if prices.keys = ∅ then (.error (.plain ("no pricing data available for zone " ++ zone)), current)
  else (.ok prices, current)

end KarpenterIBM.Pricing
