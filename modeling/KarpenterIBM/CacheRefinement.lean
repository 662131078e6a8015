import KarpenterIBM.Cache
import KarpenterIBM.Lib.Locked
import Mathlib

/-!
# The cache under concurrent use

`pkg/cache/cache.go`, one step for every time a call holds the lock.
-/

namespace KarpenterIBM.TTLCache

open ExpiringMap Locked

/-! ## The steps -/

/-- What `Get` remembers between its two steps. -/
abbrev CleanUp := Seen String Int

variable {α : Type}

variable (cache : Cache α)

/-- `Get` under the read lock. -/
def Cache.getRead (now : Int) (key : String) : Option α ⊕ CleanUp :=
  (readEntry Entry.expiration cache.items now key).map (Option.map Entry.value) id

/-- `Get` under the write lock. -/
def Cache.cleanUp (work : CleanUp) : Cache α :=
  { cache with items := dropExpired Entry.expiration work.now work.key cache.items }

/-- `SetWithTTL`, with the two times it takes. -/
def Cache.store (span : Span Int) (key : String) (value : α) (ttl : Int) : Cache α :=
  { cache.swept span.began with
    items := (cache.swept span.began).items.insert key ⟨value, span.ended + ttl⟩ }

def Cache.delete (key : String) : Cache α :=
  { cache with items := cache.items.erase key }

def Cache.has (now : Int) (key : String) : Bool :=
  match cache.items.lookup key with
  | none => false
  | some entry => !decide (entry.expiration < now)

def Cache.size (now : Int) : Cache α × Nat :=
  (cache.removeExpired now, (cache.removeExpired now).items.keys.card)

def Cache.clear : Cache α :=
  { cache with items := ∅ }

variable (now : Int)

/-- A `Get` whose steps follow one another is the `Get` of one moment. -/
theorem get_eq_steps (key : String) : cache.get now key =
      match cache.getRead now key with
      | .inl found => (found, cache)
      | .inr work => (none, cache.cleanUp work) := by
  unfold Cache.get Cache.getRead readEntry
  cases found : cache.items.lookup key with
  | none => rfl
  | some entry =>
    dsimp only
    by_cases expired : entry.expiration < now
    · rw [if_pos expired, if_pos expired]
      dsimp only [Sum.map_inr, id, Cache.cleanUp, dropExpired]
      rw [found]
      dsimp only
      rw [if_pos expired]
    · rw [if_neg expired, if_neg expired]
      rfl

def instant (moment : Int) : Span Int := ⟨moment, moment, Int.le_refl moment⟩

theorem setWithTTL_eq_store (key : String) (value : α) (ttl : Int) :
    cache.setWithTTL now key value ttl = cache.store (instant now) key value ttl :=
  rfl

inductive CacheOp (α : Type) where
  | get (key : String)
  | set (key : String) (value : α)
  | setWithTTL (key : String) (value : α) (ttl : Int)
  | delete (key : String)
  | has (key : String)
  | size
  | clear

inductive CacheAnswer (α : Type) where
  | none
  | value (found : Option α)
  | has (found : Bool)
  | size (count : Nat)

/-- The cache as its callers use it; a sweep of its own may come at any time. -/
def cacheObject : Object (CacheOp α) (CacheAnswer α) CleanUp (Cache α) Int where
  begin cache span
    | .get key => (cache, (cache.getRead span.began key).map .value id)
    | .set key value => (cache.store span key value cache.ttl, .inl .none)
    | .setWithTTL key value ttl => (cache.store span key value ttl, .inl .none)
    | .delete key => (cache.delete key, .inl .none)
    | .has key => (cache, .inl (.has (cache.has span.began key)))
    | .size => ((cache.size span.began).1, .inl (.size (cache.size span.began).2))
    | .clear => (cache.clear, .inl .none)
  finish cache _ work := (cache.cleanUp work, .value none)
  maintain cache span := cache.removeExpired span.began

/-- A map from keys to a value and the time it expires, from which nothing is ever swept. -/
def idealCache (ttl : Int) :
    Ideal (CacheOp α) (CacheAnswer α) (Finmap fun _ : String => Entry α) Int where
  act entries span
    | .get key =>
      (entries, .value ((live Entry.expiration entries span.began key).map Entry.value))
    | .set key value => (entries.insert key ⟨value, span.ended + ttl⟩, .none)
    | .setWithTTL key value ttl => (entries.insert key ⟨value, span.ended + ttl⟩, .none)
    | .delete key => (entries.erase key, .none)
    | .has key => (entries, .has (live Entry.expiration entries span.began key).isSome)
    | .size => (entries, .size (liveKeys Entry.expiration entries span.began).card)
    | .clear => (∅, .none)

/-! ## One step at a time -/

structure Follows (ttl : Int) (now : Int) (cache : Cache α)
    (entries : Finmap fun _ : String => Entry α) : Prop where
  ttl : cache.ttl = ttl
  shadows : Shadows Entry.expiration now cache.items entries

/-- A `Get` between its steps has seen an expired entry, and will find nothing. -/
def OwesMiss (now : Int) (work : CleanUp) (answer : CacheAnswer α) : Prop :=
  work.now ≤ now ∧ answer = .value none

theorem has_eq_live (key : String) :
    cache.has now key = (live Entry.expiration cache.items now key).isSome := by
  unfold Cache.has live
  cases cache.items.lookup key with
  | none => rfl
  | some entry =>
    dsimp only [Option.bind_some]
    by_cases expired : entry.expiration < now
    · rw [if_pos expired, decide_eq_true expired]
      rfl
    · rw [if_neg expired, decide_eq_false expired]
      rfl

theorem size_eq_live : (cache.size now).2 = (liveKeys Entry.expiration cache.items now).card := by
  rw [← keys_purge]
  rfl

section
variable {ttl now : Int} {cache : Cache α} {entries : Finmap fun _ : String => Entry α}

section
variable (follows : Follows ttl now cache entries)

include follows

theorem Follows.later {next : Int} (passed : now ≤ next) : Follows ttl next cache entries :=
  ⟨follows.ttl, follows.shadows.mono passed⟩

theorem Follows.removeExpired {moment : Int} (passed : moment ≤ now) :
    Follows ttl now (cache.removeExpired moment) entries :=
  ⟨follows.ttl, follows.shadows.purge passed⟩

theorem Follows.swept {moment : Int} (passed : moment ≤ now) :
    Follows ttl now (cache.swept moment) entries := by
  refine ⟨(swept_ttl cache moment).trans follows.ttl, ?_⟩
  unfold Cache.swept
  split_ifs with due
  · exact follows.shadows.purge passed
  · exact follows.shadows

end

theorem Follows.store {span : Span Int} (follows : Follows ttl span.began cache entries)
    (key : String) (value : α) (own : Int) :
    Follows ttl span.ended (cache.store span key value own)
      (entries.insert key ⟨value, span.ended + own⟩) := by
  have swept := (follows.swept (le_refl span.began)).later span.ordered
  exact ⟨swept.ttl, swept.shadows.insert key _⟩

theorem Follows.cleanUp (follows : Follows ttl now cache entries) {work : CleanUp}
    (passed : work.now ≤ now) : Follows ttl now (cache.cleanUp work) entries :=
  ⟨follows.ttl, follows.shadows.dropExpired passed work.key⟩

end

variable {entries : Finmap fun _ : String => Entry α}

theorem cache_answered {ttl : Int} {cache next : Cache α} {op : CacheOp α} {answer : CacheAnswer α}
    (span : Span Int) (follows : Follows ttl span.began cache entries)
    (out : cacheObject.begin cache span op = (next, .inl answer)) :
    Follows ttl span.ended next ((idealCache ttl).act entries span op).1 ∧
      ((idealCache ttl).act entries span op).2 = answer := by
  have ended := follows.later span.ordered
  have sameLive := follows.shadows.live_eq (le_refl span.began)
  cases op with
  | get key =>
    obtain ⟨rfl, read⟩ := Prod.mk.inj out
    rw [Cache.getRead] at read
    cases step : readEntry Entry.expiration cache.items span.began key with
    | inl found =>
      rw [step] at read
      cases read
      refine ⟨ended, ?_⟩
      rw [← readEntry_inl step, sameLive]
      rfl
    | inr work =>
      rw [step] at read
      cases read
  | set key value =>
    cases out
    refine ⟨?_, rfl⟩
    rw [follows.ttl]
    exact follows.store key value ttl
  | setWithTTL key value own =>
    cases out
    exact ⟨follows.store key value own, rfl⟩
  | delete key =>
    cases out
    exact ⟨⟨ended.ttl, ended.shadows.erase key⟩, rfl⟩
  | has key =>
    cases out
    refine ⟨ended, ?_⟩
    rw [has_eq_live, sameLive]
    rfl
  | size =>
    cases out
    refine ⟨ended.removeExpired span.ordered, ?_⟩
    rw [size_eq_live, follows.shadows.liveKeys_eq (le_refl span.began)]
    rfl
  | clear =>
    cases out
    exact ⟨⟨ended.ttl, .refl _ _⟩, rfl⟩

/-- Only a `Get` that finds an expired entry comes back. -/
theorem cache_deferred {ttl : Int} {cache next : Cache α} {op : CacheOp α} {work : CleanUp}
    (span : Span Int) (follows : Follows ttl span.began cache entries)
    (out : cacheObject.begin cache span op = (next, .inr work)) :
    Follows ttl span.ended next ((idealCache ttl).act entries span op).1 ∧
      OwesMiss span.ended work ((idealCache ttl).act entries span op).2 := by
  cases op with
  | get key =>
    obtain ⟨rfl, read⟩ := Prod.mk.inj out
    rw [Cache.getRead] at read
    cases step : readEntry Entry.expiration cache.items span.began key with
    | inl found =>
      rw [step] at read
      cases read
    | inr left =>
      rw [step] at read
      cases read
      obtain ⟨rfl, missing⟩ := readEntry_inr step
      rw [follows.shadows.live_eq (le_refl span.began)] at missing
      refine ⟨follows.later span.ordered, span.ordered, ?_⟩
      dsimp only [idealCache]
      rw [missing, Option.map_none]
  | set key value | setWithTTL key value own | delete key | has key | size | clear => cases out

theorem cache_simulation (ttl : Int) :
    Simulation (cacheObject (α := α)) (idealCache ttl) (Follows ttl) OwesMiss where
  later follows passed := follows.later passed
  owesLater owes passed := ⟨owes.1.trans passed, owes.2⟩
  answered span follows outcome := cache_answered span follows outcome
  deferred span follows outcome := cache_deferred span follows outcome
  resumed span follows owes := ⟨(follows.cleanUp owes.1).later span.ordered, owes.2⟩
  maintained span follows := (follows.removeExpired (le_refl _)).later span.ordered

/-- From this moment on the cache gives what the map gives. -/
def SameFrom (now : Int) (cache : Cache α) (entries : Finmap fun _ : String => Entry α) : Prop :=
  ∀ later, now ≤ later → ∀ key,
    cache.live later key = (live Entry.expiration entries later key).map Entry.value

theorem cache_refines : Refines cacheObject (idealCache cache.ttl) SameFrom cache cache.items := by
  refine (cache_simulation cache.ttl).refines ?_ fun clock => ⟨rfl, .refl clock cache.items⟩
  intro now state entries follows later passed key
  rw [live_eq_map, follows.shadows.live_eq passed]

end KarpenterIBM.TTLCache
