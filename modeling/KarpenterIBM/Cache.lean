import KarpenterIBM.Lib.ExpiringMap

/-!
# A cache with expiring entries

`pkg/cache`: `Get`, `Set` and `SetWithTTL`. Each call is made at one moment.
-/

namespace KarpenterIBM.TTLCache

open ExpiringMap KeyedMap

def millisecond : Int := 1000000
def minute : Int := 60000000000
def hour : Int := 3600000000000

structure Entry (α : Type) where
  value : α
  expiration : Int

/-- `nextSweep` is `none` as long as it is the zero time. -/
structure Cache (α : Type) where
  items : Finmap fun _ : String => Entry α
  ttl : Int
  nextSweep : Option Int

variable {α : Type}

def Cache.new (ttl : Int) : Cache α := ⟨∅, ttl, none⟩

def Cache.get (cache : Cache α) (now : Int) (key : String) : Option α × Cache α :=
  match cache.items.lookup key with
  | none => (none, cache)
  | some entry =>
    if entry.expiration < now then (none, { cache with items := cache.items.erase key })
    else (some entry.value, cache)

/-- `removeExpiredLocked`. -/
def Cache.removeExpired (cache : Cache α) (now : Int) : Cache α :=
  { cache with
    items := filterMapValues
      (fun _ entry => if entry.expiration < now then none else some entry) cache.items }

def Cache.sweepDue (cache : Cache α) (now : Int) : Bool :=
  match cache.nextSweep with
  | none => true
  | some due => decide (due ≤ now)

def Cache.swept (cache : Cache α) (now : Int) : Cache α :=
  if cache.sweepDue now then
    { cache.removeExpired now with
      nextSweep := some (now + min minute (max millisecond (cache.ttl.tdiv 2))) }
  else cache

def Cache.setWithTTL (cache : Cache α) (now : Int) (key : String) (value : α) (ttl : Int) :
    Cache α :=
  { cache.swept now with items := (cache.swept now).items.insert key ⟨value, now + ttl⟩ }

def Cache.set (cache : Cache α) (now : Int) (key : String) (value : α) : Cache α :=
  cache.setWithTTL now key value cache.ttl

/-! ## What a cache holds at a moment -/

/-- The value under a key, if it has not expired. -/
def Cache.live (cache : Cache α) (now : Int) (key : String) : Option α :=
  (cache.items.lookup key).bind fun entry =>
    if entry.expiration < now then none else some entry.value

@[simp] theorem live_new (ttl now : Int) (key : String) :
    (Cache.new ttl : Cache α).live now key = none := rfl

section
variable (cache : Cache α) (now : Int)

include cache now

theorem live_eq_map (key : String) :
    cache.live now key = (live Entry.expiration cache.items now key).map Entry.value := by
  unfold Cache.live live
  cases cache.items.lookup key with
  | none => rfl
  | some entry =>
    dsimp only [Option.bind_some]
    split_ifs
    · rfl
    · rfl

@[simp] theorem get_fst (key : String) : (cache.get now key).1 = cache.live now key := by
  unfold Cache.get Cache.live
  cases cache.items.lookup key with
  | none => rfl
  | some entry =>
    dsimp only [Option.bind_some]
    split_ifs
    · rfl
    · rfl

@[simp] theorem get_ttl (key : String) : (cache.get now key).2.ttl = cache.ttl := by
  unfold Cache.get
  split
  · rfl
  split_ifs
  · rfl
  · rfl

@[simp] theorem swept_ttl : (cache.swept now).ttl = cache.ttl := by
  unfold Cache.swept Cache.removeExpired
  split_ifs
  · rfl
  · rfl

@[simp] theorem set_ttl (key : String) (value : α) : (cache.set now key value).ttl = cache.ttl :=
  swept_ttl cache now

end

variable {now later : Int} {key : String}

theorem live_of_later {cache : Cache α} {value : α} (passed : now ≤ later)
    (holds : cache.live later key = some value) : cache.live now key = some value := by
  obtain ⟨entry, found, kept⟩ := Option.bind_eq_some_iff.mp holds
  rw [Cache.live, found, Option.bind_some]
  split_ifs at kept with expired
  rwa [if_neg (by omega)]

section
variable (cache : Cache α)

include cache

/-- A `Get` removes the entry it finds expired, and nothing else. -/
theorem get_items (now : Int) (key : String) :
    (cache.get now key).2.items = dropExpired Entry.expiration now key cache.items := by
  unfold Cache.get dropExpired
  cases cache.items.lookup key with
  | none => rfl
  | some entry =>
    dsimp only
    split_ifs
    · rfl
    · rfl

theorem live_get (key other : String) (passed : now ≤ later) :
    (cache.get now key).2.live later other = cache.live later other := by
  have shadows : Shadows Entry.expiration later (dropExpired _ now key cache.items) cache.items :=
    (Shadows.refl later cache.items).dropExpired passed key
  rw [live_eq_map, live_eq_map, get_items, shadows.live_eq (le_refl later)]

theorem live_swept (key : String) (passed : now ≤ later) :
    (cache.swept now).live later key = cache.live later key := by
  unfold Cache.swept
  split_ifs with due
  · have shadows : Shadows Entry.expiration later (purge _ now cache.items) cache.items :=
      (Shadows.refl later cache.items).purge passed
    rw [live_eq_map, live_eq_map, ← shadows.live_eq (le_refl later)]
    rfl
  · rfl

theorem live_setWithTTL_self {ttl : Int} (key : String) (value : α) (within : later ≤ now + ttl) :
    (cache.setWithTTL now key value ttl).live later key = some value := by
  change ((Finmap.insert key _ _).lookup key).bind _ = _
  rw [Finmap.lookup_insert, Option.bind_some, if_neg (not_lt.mpr within)]

end

theorem eq_of_live_setWithTTL {cache : Cache α} {ttl : Int} {value found : α}
    (held : (cache.setWithTTL now key value ttl).live later key = some found) : found = value := by
  change ((Finmap.insert key _ _).lookup key).bind _ = _ at held
  rw [Finmap.lookup_insert, Option.bind_some] at held
  split_ifs at held
  exact (Option.some.inj held).symm

theorem live_setWithTTL_of_ne (cache : Cache α) {ttl : Int} {other : String} (value : α)
    (passed : now ≤ later) (differ : other ≠ key) :
    (cache.setWithTTL now key value ttl).live later other = cache.live later other := by
  rw [← live_swept cache other passed]
  change ((Finmap.insert key _ _).lookup other).bind _ = _
  rw [Finmap.lookup_insert_of_ne _ differ]
  rfl

theorem live_set_self (cache : Cache α) (key : String) (value : α)
    (within : later ≤ now + cache.ttl) : (cache.set now key value).live later key = some value :=
  live_setWithTTL_self cache key value within

theorem eq_of_live_set {cache : Cache α} {value found : α}
    (held : (cache.set now key value).live later key = some found) : found = value :=
  eq_of_live_setWithTTL held

theorem live_set_of_ne (cache : Cache α) {other : String} (value : α) (passed : now ≤ later)
    (differ : other ≠ key) :
    (cache.set now key value).live later other = cache.live later other :=
  live_setWithTTL_of_ne cache value passed differ

end KarpenterIBM.TTLCache
