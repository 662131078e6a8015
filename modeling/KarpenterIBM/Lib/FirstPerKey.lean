import Mathlib.Data.List.Dedup

/-!
# The first item of each key

A scan that keeps an item when no item of its key was kept before.
-/

namespace KarpenterIBM.FirstPerKey

open List

variable {α κ : Type} [DecidableEq κ]

def firstPerKey (key : α → κ) : List κ → List α → List α
  | _, [] => []
  | seen, item :: rest =>
    if key item ∈ seen then firstPerKey key seen rest
    else item :: firstPerKey key (key item :: seen) rest

variable {key : α → κ}

theorem firstPerKey_sublist (seen : List κ) (items : List α) :
    (firstPerKey key seen items).Sublist items := by
  induction items generalizing seen with
  | nil => exact List.Sublist.refl _
  | cons item rest ih =>
    rw [firstPerKey]
    by_cases known : key item ∈ seen
    · rw [if_pos known]
      exact (ih seen).cons item
    · rw [if_neg known]
      exact (ih (key item :: seen)).cons_cons item

variable {items : List α} {seen : List κ}

theorem key_notMem_seen {item : α} (mem : item ∈ firstPerKey key seen items) : key item ∉ seen := by
  induction items generalizing seen with
  | nil => cases mem
  | cons head rest ih =>
    rw [firstPerKey] at mem
    by_cases known : key head ∈ seen
    · rw [if_pos known] at mem
      exact ih mem
    rw [if_neg known] at mem
    rcases mem_cons.mp mem with rfl | inRest
    · exact known
    · exact fun inSeen => ih inRest (mem_cons_of_mem _ inSeen)

theorem nodup_keys (seen : List κ) (items : List α) :
    ((firstPerKey key seen items).map key).Nodup := by
  induction items generalizing seen with
  | nil => exact nodup_nil
  | cons item rest ih =>
    rw [firstPerKey]
    by_cases known : key item ∈ seen
    · rw [if_pos known]
      exact ih seen
    rw [if_neg known, map_cons, nodup_cons]
    refine ⟨fun mem => ?_, ih _⟩
    obtain ⟨other, kept, same⟩ := mem_map.mp mem
    exact key_notMem_seen kept (same ▸ mem_cons_self)

theorem exists_kept (key : α → κ) (before : α → α → Prop) (reflexive : ∀ item, before item item)
    (ordered : items.Pairwise before) {item : α} (mem : item ∈ items) (unseen : key item ∉ seen) :
    ∃ kept ∈ firstPerKey key seen items, key kept = key item ∧ before kept item := by
  induction items generalizing seen with
  | nil => cases mem
  | cons head rest ih =>
    rw [pairwise_cons] at ordered
    rw [firstPerKey]
    by_cases known : key head ∈ seen
    · rw [if_pos known]
      rcases mem_cons.mp mem with rfl | inRest
      · exact absurd known unseen
      · exact ih ordered.2 inRest unseen
    rw [if_neg known]
    by_cases same : key item = key head
    · refine ⟨head, mem_cons_self, same.symm, ?_⟩
      rcases mem_cons.mp mem with rfl | inRest
      · exact reflexive _
      · exact ordered.1 item inRest
    have inRest : item ∈ rest := by
      rcases mem_cons.mp mem with rfl | inRest
      · exact absurd rfl same
      · exact inRest
    have fresh : key item ∉ key head :: seen := by simp [same, unseen]
    obtain ⟨kept, inKept, ofKey, first⟩ := ih ordered.2 inRest fresh
    exact ⟨kept, mem_cons_of_mem _ inKept, ofKey, first⟩

theorem before_of_key_notMem_take (before : α → α → Prop) (reflexive : ∀ item, before item item)
    (transitive : ∀ {a b c}, before a b → before b c → before a c) (ordered : items.Pairwise before)
    {count : Nat} {item : α} (mem : item ∈ items)
    (out : key item ∉ ((firstPerKey key [] items).take count).map key) {kept : α}
    (inTake : kept ∈ (firstPerKey key [] items).take count) : before kept item := by
  obtain ⟨own, inKept, ofKey, first⟩ :
      ∃ kept ∈ firstPerKey key [] items, key kept = key item ∧ before kept item :=
    exists_kept key before reflexive ordered mem not_mem_nil
  have inDrop : own ∈ (firstPerKey key [] items).drop count := by
    rw [← take_append_drop count (firstPerKey key [] items)] at inKept
    rcases mem_append.mp inKept with early | late
    · exact absurd (mem_map.mpr ⟨own, early, ofKey⟩) out
    · exact late
  have sorted : (firstPerKey key [] items).Pairwise before :=
    ordered.sublist (firstPerKey_sublist [] items)
  rw [← take_append_drop count (firstPerKey key [] items), pairwise_append] at sorted
  exact transitive (sorted.2.2 kept inTake own inDrop) first

theorem firstPerKey_append_cons (key : α → κ) (item : α) (before after : List α)
    (unseen : key item ∉ seen) (first : key item ∉ before.map key) :
    ∃ later, firstPerKey key seen (before ++ item :: after) =
      firstPerKey key seen before ++ item :: later := by
  induction before generalizing seen with
  | nil =>
    refine ⟨firstPerKey key (key item :: seen) after, ?_⟩
    rw [nil_append, firstPerKey.eq_def key seen (item :: after)]
    exact if_neg unseen
  | cons head rest ih =>
    rw [map_cons, mem_cons, not_or] at first
    rw [cons_append, firstPerKey, firstPerKey]
    by_cases known : key head ∈ seen
    · rw [if_pos known, if_pos known]
      exact ih unseen first.2
    rw [if_neg known, if_neg known]
    have fresh : key item ∉ key head :: seen := by simp [first.1, unseen]
    obtain ⟨later, same⟩ := ih fresh first.2
    exact ⟨later, by rw [same, cons_append]⟩

theorem length_firstPerKey (items : List α) :
    (firstPerKey key [] items).length = (items.map key).dedup.length := by
  have perm : ((firstPerKey key [] items).map key).Perm (items.map key).dedup := by
    rw [perm_ext_iff_of_nodup (nodup_keys [] items) (nodup_dedup _)]
    intro wanted
    rw [mem_dedup]
    constructor
    · exact fun mem => (((firstPerKey_sublist [] items).map key).subset mem)
    intro mem
    obtain ⟨item, inItems, rfl⟩ := mem_map.mp mem
    obtain ⟨kept, inKept, ofKey, _⟩ := exists_kept key (fun _ _ => True)
      (fun _ => trivial) (pairwise_of_forall fun _ _ => trivial) inItems
      (not_mem_nil (a := key item))
    exact mem_map.mpr ⟨kept, inKept, ofKey⟩
  rw [← perm.length_eq, length_map]

end KarpenterIBM.FirstPerKey
