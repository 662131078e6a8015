import KarpenterIBM.CacheRefinement

/-!
# Offerings that are unavailable for a while

`pkg/cache/unavailable_offerings.go`: the offerings and the time until which each one is
unavailable, step by step as the calls hold the lock.
-/

namespace KarpenterIBM.UnavailableOfferings

open ExpiringMap Locked
open TTLCache (CleanUp instant)

/-- The time an offering is unavailable until. -/
abbrev Offerings := Finmap fun _ : String => Int

/-! ## The steps -/

/-- `IsUnavailable` under the read lock. -/
def isUnavailableRead (offerings : Offerings) (now : Int) (offeringID : String) :
    Bool ⊕ CleanUp :=
  (readEntry id offerings now offeringID).map Option.isSome id

/-- `IsUnavailable` under the write lock. -/
def cleanUp (offerings : Offerings) (work : CleanUp) : Offerings :=
  dropExpired id work.now work.key offerings

inductive OfferingsOp where
  | add (offeringID : String) (expiry : Int)
  | remove (offeringID : String)
  | isUnavailable (offeringID : String)
  | cleanup

inductive OfferingsAnswer where
  | none
  | unavailable (found : Bool)

def offeringsObject : Object OfferingsOp OfferingsAnswer CleanUp Offerings Int where
  begin offerings span
    | .add offeringID expiry => (offerings.insert offeringID expiry, .inl .none)
    | .remove offeringID => (offerings.erase offeringID, .inl .none)
    | .isUnavailable offeringID =>
      (offerings, (isUnavailableRead offerings span.began offeringID).map .unavailable id)
    | .cleanup => (purge id span.began offerings, .inl .none)
  finish offerings _ work := (cleanUp offerings work, .unavailable false)
  maintain offerings _ := offerings

/-- A map from offerings to the time each one is unavailable until, which no clean-up
changes. -/
def idealOfferings : Ideal OfferingsOp OfferingsAnswer Offerings Int where
  act offerings span
    | .add offeringID expiry => (offerings.insert offeringID expiry, .none)
    | .remove offeringID => (offerings.erase offeringID, .none)
    | .isUnavailable offeringID =>
      (offerings, .unavailable (live id offerings span.began offeringID).isSome)
    | .cleanup => (offerings, .none)

/-! ## One step at a time -/

def OwesAvailable (now : Int) (work : CleanUp) (answer : OfferingsAnswer) : Prop :=
  work.now ≤ now ∧ answer = .unavailable false

theorem offerings_answered {offerings next ideal : Offerings} {op : OfferingsOp}
    {answer : OfferingsAnswer} (span : Span Int) (shadows : Shadows id span.began offerings ideal)
    (out : offeringsObject.begin offerings span op = (next, .inl answer)) :
    Shadows id span.ended next (idealOfferings.act ideal span op).1 ∧
      (idealOfferings.act ideal span op).2 = answer := by
  have ended := shadows.mono span.ordered
  cases op with
  | add offeringID expiry =>
    cases out
    exact ⟨ended.insert offeringID expiry, rfl⟩
  | remove offeringID =>
    cases out
    exact ⟨ended.erase offeringID, rfl⟩
  | isUnavailable offeringID =>
    obtain ⟨rfl, read⟩ := Prod.mk.inj out
    rw [isUnavailableRead] at read
    cases step : readEntry id offerings span.began offeringID with
    | inl found =>
      rw [step] at read
      cases read
      refine ⟨ended, ?_⟩
      rw [← readEntry_inl step, shadows.live_eq (le_refl span.began)]
      rfl
    | inr work =>
      rw [step] at read
      cases read
  | cleanup =>
    cases out
    exact ⟨ended.purge span.ordered, rfl⟩

theorem offerings_deferred {offerings next ideal : Offerings} {op : OfferingsOp} {work : CleanUp}
    (span : Span Int) (shadows : Shadows id span.began offerings ideal)
    (out : offeringsObject.begin offerings span op = (next, .inr work)) :
    Shadows id span.ended next (idealOfferings.act ideal span op).1 ∧
      OwesAvailable span.ended work (idealOfferings.act ideal span op).2 := by
  cases op with
  | add offeringID expiry | remove offeringID | cleanup => cases out
  | isUnavailable offeringID =>
    obtain ⟨rfl, read⟩ := Prod.mk.inj out
    rw [isUnavailableRead] at read
    cases step : readEntry id offerings span.began offeringID with
    | inl found =>
      rw [step] at read
      cases read
    | inr left =>
      rw [step] at read
      cases read
      obtain ⟨rfl, missing⟩ := readEntry_inr step
      rw [shadows.live_eq (le_refl span.began)] at missing
      refine ⟨shadows.mono span.ordered, span.ordered, ?_⟩
      dsimp only [idealOfferings]
      rw [missing, Option.isSome_none]

theorem offerings_simulation :
    Simulation offeringsObject idealOfferings (Shadows id) OwesAvailable where
  later shadows passed := shadows.mono passed
  owesLater owes passed := ⟨owes.1.trans passed, owes.2⟩
  answered span shadows outcome := offerings_answered span shadows outcome
  deferred span shadows outcome := offerings_deferred span shadows outcome
  resumed span shadows owes := ⟨(shadows.dropExpired owes.1 _).mono span.ordered, owes.2⟩
  maintained span shadows := shadows.mono span.ordered

/-- From this moment on the same offerings are unavailable. -/
def SameFrom (now : Int) (offerings ideal : Offerings) : Prop :=
  ∀ later, now ≤ later → ∀ offeringID,
    live id offerings later offeringID = live id ideal later offeringID

theorem offerings_refine (offerings : Offerings) :
    Refines offeringsObject idealOfferings SameFrom offerings offerings := by
  refine offerings_simulation.refines ?_ fun clock => .refl clock offerings
  intro now state ideal shadows later passed offeringID
  exact shadows.live_eq passed offeringID

/-! ## Both maps -/

/-- However the steps of any number of threads interleave, both maps answer like a map from
which no expired entry is ever swept, each call at one of its own steps, and from the moment
the run has reached they hold what that map holds. -/
theorem ttl_caches_refine_expiring_maps {α : Type} :
    (∀ cache : TTLCache.Cache α, Refines TTLCache.cacheObject (TTLCache.idealCache cache.ttl)
      TTLCache.SameFrom cache cache.items) ∧
    (∀ offerings : Offerings,
      Refines offeringsObject idealOfferings SameFrom offerings offerings) :=
  ⟨TTLCache.cache_refines, offerings_refine⟩

/-! An offering that is added again while a reader is between its steps. -/

def expiredOffering : Offerings := Finmap.singleton "o" 3

def readdedEvents : List (Event Nat OfferingsOp Int) :=
  [.call 0 (.isUnavailable "o") (instant 5), .call 1 (.add "o" 20) (instant 6),
    .resume 0 (instant 7), .call 1 (.isUnavailable "o") (instant 8)]

theorem readded_runs : ∃ config, Runs offeringsObject (Config.initial expiredOffering 0)
    readdedEvents config ∧
      config.done.map Done.answer = [.unavailable true, .unavailable false, .none] := by
  have read : Step offeringsObject (Config.initial expiredOffering 0)
      (.call 0 (.isUnavailable "o") (instant 5)) _ :=
    .deferred (by decide) rfl rfl
  have added := (Runs.nil.snoc read).snoc
    (show Step offeringsObject _ (.call 1 (.add "o" 20) (instant 6)) _ from
      .answered (by decide) rfl rfl)
  have cleaned := added.snoc
    (show Step offeringsObject _ (.resume 0 (instant 7)) _ from .resumed (by decide) rfl)
  have asked := cleaned.snoc
    (show Step offeringsObject _ (.call 1 (.isUnavailable "o") (instant 8)) _ from
      .answered (by decide) rfl rfl)
  exact ⟨_, asked, rfl⟩

theorem ttl_caches_refine_expiring_maps_sample :
    ∃ config, Runs offeringsObject (Config.initial expiredOffering 0) readdedEvents config ∧
      config.done.map Done.answer = [.unavailable true, .unavailable false, .none] ∧
      ∀ call ∈ config.done, idealOfferings.Explains expiredOffering readdedEvents call := by
  obtain ⟨config, runs, answers⟩ := readded_runs
  have refines := (ttl_caches_refine_expiring_maps (α := Nat)).2 expiredOffering Nat 0
    readdedEvents config runs
  exact ⟨config, runs, answers, refines.1⟩

end KarpenterIBM.UnavailableOfferings
