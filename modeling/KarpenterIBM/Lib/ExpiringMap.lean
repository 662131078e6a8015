import KarpenterIBM.Lib.KeyedMap

/-!
# Maps with entries that expire

An entry counts up to and including the moment it expires at.
-/

namespace KarpenterIBM.ExpiringMap

open KeyedMap

variable {κ ν T : Type} [DecidableEq κ] [LinearOrder T] (expires : ν → T)

/-- The entry under a key, if it has not expired. -/
def live (entries : Finmap fun _ : κ => ν) (now : T) (key : κ) : Option ν :=
  (entries.lookup key).bind fun entry => if expires entry < now then none else some entry

def purge (now : T) (entries : Finmap fun _ : κ => ν) : Finmap fun _ : κ => ν :=
  filterMapValues (fun _ entry => if expires entry < now then none else some entry) entries

def dropExpired (now : T) (key : κ) (entries : Finmap fun _ : κ => ν) : Finmap fun _ : κ => ν :=
  match entries.lookup key with
  | none => entries
  | some entry => if expires entry < now then entries.erase key else entries

structure Seen (κ T : Type) where
  key : κ
  now : T

def readEntry (entries : Finmap fun _ : κ => ν) (now : T) (key : κ) : Option ν ⊕ Seen κ T :=
  match entries.lookup key with
  | none => .inl none
  | some entry => if expires entry < now then .inr ⟨key, now⟩ else .inl (some entry)

def liveKeys (entries : Finmap fun _ : κ => ν) (now : T) : Finset κ :=
  entries.keys.filter fun key => (live expires entries now key).isSome

def Shadows (now : T) (store ideal : Finmap fun _ : κ => ν) : Prop :=
  ∀ key, store.lookup key = ideal.lookup key ∨
    store.lookup key = none ∧ ∃ entry, ideal.lookup key = some entry ∧ expires entry < now

variable {expires}

theorem lookup_purge (now : T) (entries : Finmap fun _ : κ => ν) (key : κ) :
    (purge expires now entries).lookup key = live expires entries now key := by
  rw [purge, lookup_filterMapValues]
  rfl

theorem keys_purge (now : T) (entries : Finmap fun _ : κ => ν) :
    (purge expires now entries).keys = liveKeys expires entries now := by
  ext key
  rw [liveKeys, Finset.mem_filter, Finmap.mem_keys, Finmap.mem_keys, ← Finmap.lookup_isSome,
    lookup_purge, ← Finmap.lookup_isSome]
  constructor
  · intro found
    refine ⟨?_, found⟩
    obtain ⟨entry, isLive⟩ := Option.isSome_iff_exists.mp found
    obtain ⟨held, lookup, _⟩ := Option.bind_eq_some_iff.mp isLive
    rw [lookup, Option.isSome_some]
  · exact fun both => both.2

theorem lookup_dropExpired_self (now : T) (key : κ) (entries : Finmap fun _ : κ => ν) :
    (dropExpired expires now key entries).lookup key = live expires entries now key := by
  unfold dropExpired live
  cases found : entries.lookup key with
  | none => rw [found, Option.bind_none]
  | some entry =>
    dsimp only [Option.bind_some]
    split_ifs with expired
    · exact Finmap.lookup_erase _ _
    · exact found

theorem lookup_dropExpired_of_ne (now : T) {key other : κ} (differ : other ≠ key)
    (entries : Finmap fun _ : κ => ν) :
    (dropExpired expires now key entries).lookup other = entries.lookup other := by
  unfold dropExpired
  split
  · rfl
  split_ifs
  · exact Finmap.lookup_erase_ne differ
  · rfl

variable {entries : Finmap fun _ : κ => ν}

theorem readEntry_inl {now : T} {key : κ} {found : Option ν}
    (read : readEntry expires entries now key = .inl found) :
    live expires entries now key = found := by
  unfold readEntry at read
  unfold live
  cases held : entries.lookup key with
  | none =>
    rw [held] at read
    cases read
    rfl
  | some entry =>
    rw [held] at read
    dsimp only [Option.bind_some] at read ⊢
    split_ifs at read with expired
    cases read
    exact if_neg expired

theorem readEntry_inr {now : T} {key : κ} {seen : Seen κ T}
    (read : readEntry expires entries now key = .inr seen) :
    seen = ⟨key, now⟩ ∧ live expires entries now key = none := by
  unfold readEntry at read
  unfold live
  cases held : entries.lookup key with
  | none =>
    rw [held] at read
    cases read
  | some entry =>
    rw [held] at read
    dsimp only [Option.bind_some] at read ⊢
    split_ifs at read with expired
    cases read
    exact ⟨rfl, if_pos expired⟩

namespace Shadows

variable {now later : T} {store ideal : Finmap fun _ : κ => ν}

protected theorem refl (now : T) (entries : Finmap fun _ : κ => ν) :
    Shadows expires now entries entries :=
  fun _ => .inl rfl

variable (shadows : Shadows expires now store ideal)

include shadows

theorem mono (passed : now ≤ later) : Shadows expires later store ideal := by
  intro key
  rcases shadows key with same | ⟨dropped, entry, found, expired⟩
  · exact .inl same
  · exact .inr ⟨dropped, entry, found, lt_of_lt_of_le expired passed⟩

theorem insert (key : κ) (entry : ν) :
    Shadows expires now (store.insert key entry) (ideal.insert key entry) := by
  intro other
  by_cases same : other = key
  · subst same
    exact .inl (by rw [Finmap.lookup_insert, Finmap.lookup_insert])
  · rw [Finmap.lookup_insert_of_ne _ same, Finmap.lookup_insert_of_ne _ same]
    exact shadows other

theorem erase (key : κ) : Shadows expires now (store.erase key) (ideal.erase key) := by
  intro other
  by_cases same : other = key
  · subst same
    exact .inl (by rw [Finmap.lookup_erase, Finmap.lookup_erase])
  · rw [Finmap.lookup_erase_ne same, Finmap.lookup_erase_ne same]
    exact shadows other

theorem of_live {dropped : Finmap fun _ : κ => ν} {moment : T} (passed : moment ≤ now)
    (kept : ∀ key, dropped.lookup key = store.lookup key ∨
      dropped.lookup key = live expires store moment key) :
    Shadows expires now dropped ideal := by
  intro key
  rcases kept key with same | isLive
  · rw [same]
    exact shadows key
  rcases shadows key with same | ⟨gone, missing⟩
  · rw [live, same] at isLive
    cases found : ideal.lookup key with
    | none =>
      rw [found, Option.bind_none] at isLive
      exact .inl isLive
    | some entry =>
      rw [found, Option.bind_some] at isLive
      by_cases expired : expires entry < moment
      · rw [if_pos expired] at isLive
        exact .inr ⟨isLive, entry, rfl, lt_of_lt_of_le expired passed⟩
      · rw [if_neg expired] at isLive
        exact .inl isLive
  · rw [live, gone, Option.bind_none] at isLive
    exact .inr ⟨isLive, missing⟩

theorem purge {moment : T} (passed : moment ≤ now) :
    Shadows expires now (purge expires moment store) ideal :=
  shadows.of_live passed fun key => .inr (lookup_purge moment store key)

theorem dropExpired {moment : T} (passed : moment ≤ now) (key : κ) :
    Shadows expires now (dropExpired expires moment key store) ideal := by
  refine shadows.of_live passed fun other => ?_
  by_cases same : other = key
  · subst same
    exact .inr (lookup_dropExpired_self moment other store)
  · exact .inl (lookup_dropExpired_of_ne moment same store)

theorem live_eq (passed : now ≤ later) (key : κ) :
    live expires store later key = live expires ideal later key := by
  rcases shadows key with same | ⟨gone, entry, found, expired⟩
  · rw [live, live, same]
  · rw [live, live, gone, found, Option.bind_none, Option.bind_some,
      if_pos (lt_of_lt_of_le expired passed)]

theorem liveKeys_eq (passed : now ≤ later) :
    liveKeys expires store later = liveKeys expires ideal later := by
  rw [← keys_purge, ← keys_purge]
  congr 1
  refine Finmap.ext_lookup fun key => ?_
  rw [lookup_purge, lookup_purge, shadows.live_eq passed key]

end Shadows

end KarpenterIBM.ExpiringMap
