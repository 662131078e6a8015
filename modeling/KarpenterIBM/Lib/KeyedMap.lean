import Mathlib.Data.Finmap

/-!
# Copying a finite map

Go code copies a map entry by entry, skips some entries and changes the values of others.
On finite maps that is a restriction to the keys that are kept, or a partial change of
the values.
-/

namespace KarpenterIBM.KeyedMap

open List

variable {κ ν : Type} [DecidableEq κ]

def filterKeys (keep : κ → Bool) (entries : Finmap fun _ : κ => ν) : Finmap fun _ : κ => ν where
  entries := entries.entries.filter fun entry => keep entry.1 = true
  nodupKeys := by
    rw [← Multiset.nodup_keys]
    exact Multiset.nodup_of_le (Multiset.map_le_map (Multiset.filter_le _ _))
      entries.nodupKeys.nodup_keys

@[simp] theorem lookup_filterKeys (keep : κ → Bool) (entries : Finmap fun _ : κ => ν) (key : κ) :
    (filterKeys keep entries).lookup key = if keep key then entries.lookup key else none := by
  apply Option.ext
  intro value
  by_cases kept : keep key = true
  · simp only [kept, if_true]
    rw [Finmap.lookup_eq_some_iff, Finmap.lookup_eq_some_iff]
    simp [filterKeys, kept]
  simp only [kept, Bool.false_eq_true, if_false]
  rw [Finmap.lookup_eq_some_iff]
  simp [filterKeys, kept]

omit [DecidableEq κ] in
theorem nodupKeys_filterMap {μ : Type} (change : κ → ν → Option μ)
    {entries : List (Sigma fun _ : κ => ν)} (nodup : entries.NodupKeys) :
    (entries.filterMap fun entry =>
      (change entry.1 entry.2).map (Sigma.mk (β := fun _ : κ => μ) entry.1)).NodupKeys := by
  refine List.Nodup.sublist ?_ nodup
  induction entries with
  | nil => exact List.Sublist.refl _
  | cons entry rest ih =>
    have inRest := ih (nodupKeys_cons.mp nodup).2
    cases changed : change entry.1 entry.2 with
    | none =>
      rw [filterMap_cons_none (by rw [changed]; rfl)]
      exact inRest.cons entry.1
    | some value =>
      rw [filterMap_cons_some (by rw [changed]; rfl)]
      exact inRest.cons_cons entry.1

def filterMapValues {μ : Type} (change : κ → ν → Option μ) (entries : Finmap fun _ : κ => ν) :
    Finmap fun _ : κ => μ where
  entries := entries.entries.filterMap fun entry =>
    (change entry.1 entry.2).map (Sigma.mk (β := fun _ : κ => μ) entry.1)
  nodupKeys := by
    obtain ⟨items, nodup⟩ := entries
    induction items using Quotient.inductionOn with
    | h items => exact nodupKeys_filterMap change nodup

@[simp] theorem lookup_filterMapValues {μ : Type} (change : κ → ν → Option μ)
    (entries : Finmap fun _ : κ => ν) (key : κ) :
    (filterMapValues change entries).lookup key = (entries.lookup key).bind (change key) := by
  apply Option.ext
  intro value
  rw [Finmap.lookup_eq_some_iff, Option.bind_eq_some_iff]
  simp only [filterMapValues, Multiset.mem_filterMap, Option.map_eq_some_iff]
  constructor
  · rintro ⟨⟨found, held⟩, mem, changed, made, same⟩
    cases same
    exact ⟨held, Finmap.lookup_eq_some_iff.mpr mem, made⟩
  · rintro ⟨held, found, made⟩
    exact ⟨⟨key, held⟩, Finmap.lookup_eq_some_iff.mp found, value, made, rfl⟩

theorem lookup_insert_congr {first second : Finmap fun _ : κ => ν} {key : κ}
    (agree : first.lookup key = second.lookup key) (other : κ) (value : ν) :
    (first.insert other value).lookup key = (second.insert other value).lookup key := by
  by_cases same : key = other
  · rw [same, Finmap.lookup_insert, Finmap.lookup_insert]
  · rw [Finmap.lookup_insert_of_ne _ same, Finmap.lookup_insert_of_ne _ same, agree]

theorem lookup_union (left right : Finmap fun _ : κ => ν) (key : κ) :
    (left ∪ right).lookup key = (left.lookup key).or (right.lookup key) := by
  by_cases mem : key ∈ left
  · rw [Finmap.lookup_union_left mem]
    obtain ⟨value, found⟩ := Finmap.mem_iff.mp mem
    simp [found]
  · rw [Finmap.lookup_union_right mem, Finmap.lookup_eq_none.mpr mem]
    simp

theorem lookup_foldl {α : Type} {step : (Finmap fun _ : κ => ν) → α → Finmap fun _ : κ => ν}
    {key : κ} {stepAt : Option ν → α → Option ν}
    (pointwise : ∀ entries item, (step entries item).lookup key = stepAt (entries.lookup key) item)
    (items : List α) (entries : Finmap fun _ : κ => ν) :
    (items.foldl step entries).lookup key = items.foldl stepAt (entries.lookup key) := by
  induction items generalizing entries with
  | nil => rfl
  | cons item items ih => rw [foldl_cons, foldl_cons, ih, pointwise]

theorem lookup_foldl_insert {α : Type} {key : α → κ} {value : α → ν} {keep : α → Prop}
    [DecidablePred keep] {items : List α} (distinct : (items.map key).Nodup) {item : α}
    (mem : item ∈ items) (kept : keep item) (entries : Finmap fun _ : κ => ν) :
    (items.foldl (fun found next =>
      if keep next then found.insert (key next) (value next) else found) entries).lookup
        (key item) = some (value item) := by
  induction items generalizing entries with
  | nil => cases mem
  | cons first rest ih =>
    rw [map_cons, nodup_cons] at distinct
    rcases mem_cons.mp mem with rfl | inRest
    · rw [foldl_cons, if_pos kept]
      -- The keys that follow are others.
      refine @List.foldlRecOn (Finmap fun _ : κ => ν) α
        (fun found => found.lookup (key item) = some (value item)) rest _ _
        (Finmap.lookup_insert _) fun found holds next later => ?_
      split_ifs
      · rwa [Finmap.lookup_insert_of_ne]
        intro same
        exact distinct.1 (same ▸ mem_map_of_mem later)
      · exact holds
    · exact ih distinct.2 inRest _

end KarpenterIBM.KeyedMap
