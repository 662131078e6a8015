import Mathlib.Data.List.Perm.Basic
import Mathlib.Order.Lattice

/-!
# Sorting with a comparison that need not be an order

A library sort takes any comparison. It always rearranges the items, and when the comparison is
a strict weak order on them it leaves none behind a lesser one; ties come in any order.
-/

namespace KarpenterIBM.SortSlice

open List

variable {α : Type} {less : α → α → Bool} {items : List α}

structure StrictWeak (less : α → α → Bool) (items : List α) : Prop where
  irrefl : ∀ a ∈ items, less a a = false
  trans : ∀ a ∈ items, ∀ b ∈ items, ∀ c ∈ items,
    less a b = true → less b c = true → less a c = true
  incomparable : ∀ a ∈ items, ∀ b ∈ items, ∀ c ∈ items,
    less a b = false → less b a = false → less b c = false → less c b = false →
      less a c = false

/-- A sort for this comparison, as its documentation promises it. -/
structure Sorter (less : α → α → Bool) where
  slice : List α → List α
  perm : ∀ items, (slice items).Perm items
  ordered : ∀ items, StrictWeak less items →
    (slice items).Pairwise fun earlier later => less later earlier = false

/-- Some sort can put this item first. -/
def MayLead (less : α → α → Bool) (items : List α) (item : α) : Prop :=
  item ∈ items ∧ (StrictWeak less items → ∀ other ∈ items, less other item = false)

theorem StrictWeak.mono {fewer : List α} (strict : StrictWeak less items)
    (subset : fewer ⊆ items) : StrictWeak less fewer where
  irrefl a member := strict.irrefl a (subset member)
  trans a ma b mb c mc := strict.trans a (subset ma) b (subset mb) c (subset mc)
  incomparable a ma b mb c mc := strict.incomparable a (subset ma) b (subset mb) c (subset mc)

theorem strictWeak_of_rank {β : Type} [LinearOrder β] (rank : α → β)
    (compares : ∀ a ∈ items, ∀ b ∈ items, (less a b = true ↔ rank b < rank a)) :
    StrictWeak less items where
  irrefl a member := by
    rw [← Bool.not_eq_true, compares a member a member]
    exact lt_irrefl (rank a)
  trans a ma b mb c mc := by
    rw [compares a ma b mb, compares b mb c mc, compares a ma c mc]
    exact fun above below => lt_trans below above
  incomparable a ma b mb c mc notAbove _ notBelow _ := by
    rw [← Bool.not_eq_true, compares a ma b mb] at notAbove
    rw [← Bool.not_eq_true, compares b mb c mc] at notBelow
    rw [← Bool.not_eq_true, compares a ma c mc]
    exact not_lt_of_ge (le_trans (le_of_not_gt notAbove) (le_of_not_gt notBelow))

theorem Sorter.pairwise_rank_le {β : Type} [LinearOrder β] (sorter : Sorter less) (rank : α → β)
    (compares : ∀ a b, (less a b = true ↔ rank a < rank b)) (items : List α) :
    (sorter.slice items).Pairwise fun earlier later => rank earlier ≤ rank later := by
  have strict : StrictWeak less items :=
    strictWeak_of_rank (fun item => OrderDual.toDual (rank item)) fun a _ b _ => by
      rw [compares, OrderDual.toDual_lt_toDual]
  refine (sorter.ordered items strict).imp ?_
  intro earlier later notLess
  rw [← Bool.not_eq_true, compares] at notLess
  exact le_of_not_gt notLess

section

/-! Items that are sorted inside records which hold each one with its score. -/

variable {β γ : Type} {wrap : γ → α} {unwrap : α → γ}

theorem Sorter.decorated_perm (sorter : Sorter less) (inverse : ∀ item, unwrap (wrap item) = item)
    (items : List γ) : ((sorter.slice (items.map wrap)).map unwrap).Perm items := by
  have same : (items.map wrap).map unwrap = items := by
    rw [map_map]
    exact (map_congr_left fun item _ => inverse item).trans (map_id items)
  exact ((sorter.perm _).map unwrap).trans (.of_eq same)

theorem Sorter.decorated_ordered [LinearOrder β] (sorter : Sorter less) (rank : α → β)
    (compares : ∀ a b, (less a b = true ↔ rank a < rank b)) (score : γ → β)
    (scored : ∀ item, rank (wrap item) = score (unwrap (wrap item))) (items : List γ) :
    ((sorter.slice (items.map wrap)).map unwrap).Pairwise fun earlier later =>
      score earlier ≤ score later := by
  rw [pairwise_map]
  refine (sorter.pairwise_rank_le rank compares _).imp_of_mem ?_
  intro earlier later first second below
  obtain ⟨one, _, rfl⟩ := mem_map.mp ((sorter.perm _).subset first)
  obtain ⟨two, _, rfl⟩ := mem_map.mp ((sorter.perm _).subset second)
  rwa [scored one, scored two] at below

end

variable {item : α}

theorem Sorter.mayLead_of_head (sorter : Sorter less)
    (first : (sorter.slice items).head? = some item) : MayLead less items item := by
  obtain ⟨rest, sorted⟩ := List.head?_eq_some_iff.mp first
  have same := sorter.perm items
  rw [sorted] at same
  refine ⟨same.subset (by simp), fun strict other mem => ?_⟩
  have ordered := sorter.ordered items strict
  rw [sorted, pairwise_cons] at ordered
  rcases mem_cons.mp (same.symm.subset mem) with rfl | later
  · exact strict.irrefl other mem
  · exact ordered.1 other later

theorem StrictWeak.exists_least (strict : StrictWeak less items) (ne : items ≠ []) :
    ∃ item ∈ items, ∀ other ∈ items, less other item = false := by
  induction items with
  | nil => exact absurd rfl ne
  | cons head rest ih =>
    by_cases last : rest = []
    · subst last
      refine ⟨head, by simp, fun other mem => ?_⟩
      rw [mem_singleton.mp mem]
      exact strict.irrefl head (by simp)
    obtain ⟨least, mem, below⟩ :=
      ih (strict.mono fun item inRest => mem_cons_of_mem _ inRest) last
    have memberAll := mem_cons_of_mem head mem
    by_cases smaller : less head least = true
    · refine ⟨head, by simp, fun other inAll => ?_⟩
      rcases mem_cons.mp inAll with rfl | inRest
      · exact strict.irrefl other (by simp)
      by_contra greater
      have chained := strict.trans other inAll head (by simp) least memberAll
        (by simpa using greater) smaller
      rw [below other inRest] at chained
      cases chained
    · refine ⟨least, memberAll, fun other inAll => ?_⟩
      rcases mem_cons.mp inAll with rfl | inRest
      · simpa using smaller
      · exact below other inRest

theorem exists_ordered_cons (mem : item ∈ items) (least : ∀ other ∈ items, less other item = false)
    (sortable : ∀ fewer : List α, fewer.length < items.length → fewer ⊆ items →
      ∃ sorted : List α, sorted.Perm fewer ∧
        sorted.Pairwise fun earlier later => less later earlier = false) :
    ∃ sorted : List α, (item :: sorted).Perm items ∧
      (item :: sorted).Pairwise fun earlier later => less later earlier = false := by
  obtain ⟨before, after, rfl⟩ := append_of_mem mem
  have subset : before ++ after ⊆ before ++ item :: after := by
    intro other inRest
    simp only [mem_append, mem_cons] at inRest ⊢
    tauto
  obtain ⟨sorted, perm, ordered⟩ := sortable (before ++ after) (by simp) subset
  refine ⟨sorted, (perm.cons item).trans perm_middle.symm, ?_⟩
  rw [pairwise_cons]
  exact ⟨fun other inSorted => least other (subset (perm.subset inSorted)), ordered⟩

theorem StrictWeak.exists_ordered (strict : StrictWeak less items) :
    ∃ sorted : List α, sorted.Perm items ∧
      sorted.Pairwise fun earlier later => less later earlier = false := by
  induction size : items.length using Nat.strongRecOn generalizing items with
  | ind size ih =>
    by_cases empty : items = []
    · exact ⟨[], by rw [empty], List.Pairwise.nil⟩
    obtain ⟨least, mem, below⟩ := strict.exists_least empty
    obtain ⟨sorted, perm, ordered⟩ := exists_ordered_cons mem below
      fun fewer shorter subset => ih fewer.length (size ▸ shorter) (strict.mono subset) rfl
    exact ⟨least :: sorted, perm, ordered⟩

theorem nonempty_sorter (less : α → α → Bool) : Nonempty (Sorter less) := by
  classical
  have arranged : ∀ list : List α, ∃ sorted : List α, sorted.Perm list ∧ (StrictWeak less list →
        sorted.Pairwise fun earlier later => less later earlier = false) := by
    intro list
    by_cases strict : StrictWeak less list
    · obtain ⟨sorted, perm, ordered⟩ := strict.exists_ordered
      exact ⟨sorted, perm, fun _ => ordered⟩
    · exact ⟨list, .refl _, fun holds => absurd holds strict⟩
  choose slice perm ordered using arranged
  exact ⟨⟨slice, perm, ordered⟩⟩

theorem exists_sorter_of_arranged {sorted : List α} (perm : sorted.Perm items)
    (ordered : StrictWeak less items →
      sorted.Pairwise fun earlier later => less later earlier = false) :
    ∃ sorter : Sorter less, sorter.slice items = sorted := by
  classical
  obtain ⟨usual⟩ := nonempty_sorter less
  -- the usual sort, except on these items
  refine ⟨⟨fun list => if list = items then sorted else usual.slice list, ?_, ?_⟩, ?_⟩
  · intro list
    split
    · rename_i same
      exact same ▸ perm
    · exact usual.perm list
  · intro list strict
    split
    · rename_i same
      exact ordered (same ▸ strict)
    · exact usual.ordered list strict
  · simp

theorem exists_sorter_of_mayLead (leads : MayLead less items item) :
    ∃ sorter : Sorter less, (sorter.slice items).head? = some item := by
  have arranged : ∃ sorted : List α, (item :: sorted).Perm items ∧ (StrictWeak less items →
      (item :: sorted).Pairwise fun earlier later => less later earlier = false) := by
    by_cases strict : StrictWeak less items
    · obtain ⟨sorted, perm, ordered⟩ := exists_ordered_cons leads.1 (leads.2 strict)
        fun fewer _ subset => (strict.mono subset).exists_ordered
      exact ⟨sorted, perm, fun _ => ordered⟩
    · obtain ⟨before, after, rfl⟩ := append_of_mem leads.1
      exact ⟨before ++ after, perm_middle.symm, fun holds => absurd holds strict⟩
  obtain ⟨sorted, perm, ordered⟩ := arranged
  obtain ⟨sorter, same⟩ := exists_sorter_of_arranged perm ordered
  exact ⟨sorter, by rw [same, List.head?_cons]⟩

theorem StrictWeak.exists_sorter_before_ties (strict : StrictWeak less items) (mem : item ∈ items) :
    ∃ (sorter : Sorter less) (before after : List α),
      sorter.slice items = before ++ item :: after ∧ ∀ other ∈ before, less other item = true := by
  obtain ⟨front, back, rfl⟩ := append_of_mem mem
  have inItems : ∀ other ∈ front ++ back, other ∈ front ++ item :: back := by
    intro other inside
    simp only [mem_append, mem_cons] at inside ⊢
    tauto
  have strictOn : ∀ keep : α → Bool, StrictWeak less ((front ++ back).filter keep) :=
    fun keep => strict.mono fun other inside => inItems other (mem_of_mem_filter inside)
  obtain ⟨lesser, lesserPerm, lesserOrdered⟩ :=
    (strictOn fun other => less other item).exists_ordered
  obtain ⟨others, othersPerm, othersOrdered⟩ :=
    (strictOn fun other => !less other item).exists_ordered
  have isLesser : ∀ other ∈ lesser, other ∈ front ++ item :: back ∧ less other item = true := by
    intro other inside
    obtain ⟨inRest, below⟩ := mem_filter.mp (lesserPerm.subset inside)
    exact ⟨inItems other inRest, below⟩
  have notLesser : ∀ other ∈ others, other ∈ front ++ item :: back ∧ less other item = false := by
    intro other inside
    obtain ⟨inRest, notBelow⟩ := mem_filter.mp (othersPerm.subset inside)
    exact ⟨inItems other inRest, by simpa using notBelow⟩
  have perm : (lesser ++ item :: others).Perm (front ++ item :: back) := by
    refine perm_middle.trans (((lesserPerm.append othersPerm).trans ?_).cons item |>.trans
      perm_middle.symm)
    exact filter_append_perm _ _
  have ordered : (lesser ++ item :: others).Pairwise
      fun earlier later => less later earlier = false := by
    -- a lesser item behind another one would make the other one lesser, too
    have apart : ∀ earlier ∈ lesser, ∀ later ∈ front ++ item :: back,
        less later item = false → less later earlier = false := by
      intro earlier inLesser later inside notBelow
      obtain ⟨earlierInside, below⟩ := isLesser earlier inLesser
      by_contra greater
      have chained := strict.trans later inside earlier earlierInside item mem
        (by simpa using greater) below
      cases notBelow.symm.trans chained
    rw [pairwise_append, pairwise_cons]
    refine ⟨lesserOrdered, ⟨fun later inside => (notLesser later inside).2, othersOrdered⟩, ?_⟩
    intro earlier inLesser later inside
    rcases mem_cons.mp inside with rfl | inOthers
    · exact apart earlier inLesser later mem (strict.irrefl later mem)
    · exact apart earlier inLesser later (notLesser later inOthers).1 (notLesser later inOthers).2
  obtain ⟨sorter, same⟩ := exists_sorter_of_arranged perm fun _ => ordered
  exact ⟨sorter, lesser, others, same, fun other inside => (isLesser other inside).2⟩

end KarpenterIBM.SortSlice
