import KarpenterIBM.InstanceTypes.Catalog
import KarpenterIBM.Lib.Arena

/-!
# What the catalog filter gives back

`filterCatalog` of `pkg/providers/common/instancetype`, over references.
-/

namespace KarpenterIBM.InstanceTypes

open Calls List Memory Objects Ownership SortSlice

instance : Inhabited InstanceType :=
  ⟨⟨"", [], [], ∅, ∅, nodup_nil⟩⟩

/-! ## The filter over references -/

/-- `ExtendedInstanceType` as the code has it, a pointer to the type among its fields. -/
structure ExtendedReference where
  instanceType : Reference
  architecture : String
  price : Rat

/-- The extended type the reference leads to. -/
def ExtendedReference.value (memory : Arena InstanceType) (extended : ExtendedReference) :
    ExtendedInstanceType :=
  ⟨memory.read extended.instanceType, extended.architecture, extended.price⟩

structure ReferenceRanking where
  instanceType : ExtendedReference
  score : WithTop Rat

def lowerReferenceScore (first second : ReferenceRanking) : Bool :=
  decide (first.score < second.score)

def rankInstanceTypesAt (sorter : Sorter lowerReferenceScore) (memory : Arena InstanceType)
    (types : List ExtendedReference) : List ExtendedReference :=
  (sorter.slice (types.map fun extended =>
    ⟨extended, calculateInstanceTypeScore (extended.value memory)⟩)).map
      ReferenceRanking.instanceType

section
variable (platform : Platform)

/-- The part of a round under `priceLimited`. -/
def limitOfferingsAt (limit : Option Rat) (memory : Arena InstanceType)
    (reference : Reference) : Arena InstanceType × Option Reference :=
  match limit with
  | none => (memory, some reference)
  | some maximum =>
    let offerings := (memory.read reference).offerings.filter (cheapEnough maximum)
    if offerings = [] then (memory, none)
    else
      -- DeepCopy, then the assignment to the copy
      let copied := memory.alloc (memory.read reference)
      (copied.2.write copied.1 { memory.read reference with offerings := offerings },
        some copied.1)

def considerTypeAt (requirements : InstanceTypeRequirements) (limit : Option Rat)
    (memory : Arena InstanceType) (reference : Reference) :
    Arena InstanceType × Option ExtendedReference :=
  if largeEnough platform requirements (memory.read reference) then
    let limited := limitOfferingsAt limit memory reference
    (limited.1, limited.2.map fun kept =>
      ⟨kept, getArchitecture platform (limited.1.read kept), lowestPrice (limited.1.read kept)⟩)
  else (memory, none)

def filteredAt (requirements : InstanceTypeRequirements) (limit : Option Rat)
    (memory : Arena InstanceType) : List Reference → Arena InstanceType × List ExtendedReference
  | [] => (memory, [])
  | reference :: rest =>
    let considered := considerTypeAt platform requirements limit memory reference
    let others := filteredAt requirements limit considered.1 rest
    (others.1, considered.2.toList ++ others.2)

/-- `filterCatalog`, with the memory it leaves. -/
def filterCatalogAt (sorter : Sorter lowerReferenceScore) (memory : Arena InstanceType)
    (types : List Reference) (requirements : InstanceTypeRequirements) :
    Arena InstanceType × Except ApiError (List Reference) :=
  match priceLimit platform requirements with
  | .error error => (memory, .error error)
  | .ok limit =>
    let filtered := filteredAt platform requirements limit memory types
    (filtered.1, .ok ((rankInstanceTypesAt sorter filtered.1 filtered.2).map
      ExtendedReference.instanceType))

end

/-! ## What an exact filter is -/

section
variable (platform : Platform) (requirements : InstanceTypeRequirements)

/-- The price limit of the requirements, `none` without one. -/
def CapIs : Option Rat → Prop
  | none => requirements.maximumHourlyPrice = ""
  | some maximum => requirements.maximumHourlyPrice ≠ "" ∧
      platform.parsePrice requirements.maximumHourlyPrice = some maximum ∧ 0 ≤ maximum

def withinCap (limit : Option Rat) (offering : Offering) : Bool :=
  limit.all fun maximum => offering.price.any fun price => decide (price ≤ maximum)

def Qualifies (limit : Option Rat) (instanceType : InstanceType) : Prop :=
  MeetsMinimums platform requirements instanceType ∧
    (limit ≠ none → ∃ offering ∈ instanceType.offerings, withinCap limit offering = true)

def keepWithinCap (limit : Option Rat) (instanceType : InstanceType) : InstanceType :=
  { instanceType with offerings := instanceType.offerings.filter (withinCap limit) }

def extend (instanceType : InstanceType) : ExtendedInstanceType :=
  ⟨instanceType, getArchitecture platform instanceType, lowestPrice instanceType⟩

instance (instanceType : InstanceType) :
    Decidable (MeetsMinimums platform requirements instanceType) :=
  decidable_of_iff _ largeEnough_iff

instance (limit : Option Rat) (instanceType : InstanceType) :
    Decidable (Qualifies platform requirements limit instanceType) :=
  inferInstanceAs (Decidable (_ ∧ (_ → _)))

/-- Every type that qualifies is there once, with its offerings within the limit, and the
scores never go down. -/
structure ExactlyFiltered (limit : Option Rat) (types result : List InstanceType) : Prop where
  kept : result.Perm
    ((types.filter fun instanceType => Qualifies platform requirements limit instanceType).map
      (keepWithinCap limit))
  ordered : result.Pairwise fun earlier later =>
    calculateInstanceTypeScore (extend platform earlier) ≤
      calculateInstanceTypeScore (extend platform later)

/-- The filter gives the exact result, and an error when the limit is none. -/
def ExactOutcome (types : List InstanceType) : Except ApiError (List InstanceType) → Prop
  | .ok result => ∃ limit, CapIs platform requirements limit ∧
      ExactlyFiltered platform requirements limit types result
  | .error _ => ∀ limit, ¬ CapIs platform requirements limit

/-- Every offering has a price, and none is negative. -/
def Priced (types : List InstanceType) : Prop :=
  ∀ instanceType ∈ types, ∀ offering ∈ instanceType.offerings,
    ∃ price, offering.price = some price ∧ 0 ≤ price

end

/-! ## One round -/

section
variable {platform : Platform} {requirements : InstanceTypeRequirements} {limit : Option Rat}

theorem priceLimit_eq_ok_iff :
    priceLimit platform requirements = .ok limit ↔ CapIs platform requirements limit := by
  unfold priceLimit
  by_cases unlimited : requirements.maximumHourlyPrice = ""
  · rw [if_pos unlimited]
    cases limit with
    | none | some maximum => simp [CapIs, unlimited]
  rw [if_neg unlimited]
  cases parsed : platform.parsePrice requirements.maximumHourlyPrice with
  | none => cases limit <;> simp [CapIs, unlimited, parsed]
  | some maximum =>
    by_cases negative : maximum < 0
    · cases limit with
      | none => simp [CapIs, unlimited, negative]
      | some other =>
        simp only [negative, ↓reduceIte, reduceCtorEq, CapIs, parsed, false_iff]
        rintro ⟨_, same, enough⟩
        cases same
        exact absurd negative (not_lt.mpr enough)
    · cases limit with
      | none => simp [CapIs, unlimited, negative]
      | some other =>
        simp only [negative, ↓reduceIte, Except.ok.injEq, Option.some.injEq, CapIs, parsed]
        constructor
        · rintro rfl
          exact ⟨unlimited, rfl, not_lt.mp negative⟩
        · rintro ⟨_, same, _⟩
          exact same

theorem withinLimit_eq {type : InstanceType} (priced : Priced [type]) : withinLimit limit type =
      if limit ≠ none → ∃ offer ∈ type.offerings, withinCap limit offer = true then
        some (keepWithinCap limit type)
      else none := by
  cases limit with
  | none =>
    have all : withinCap none = fun _ => true := rfl
    simp [withinLimit, keepWithinCap, all]
  | some maximum =>
    have same : type.offerings.filter (cheapEnough maximum) =
        type.offerings.filter (withinCap (some maximum)) := by
      refine filter_congr fun offer mem => ?_
      obtain ⟨price, priceIs, enough⟩ := priced type (by simp) offer mem
      simp [cheapEnough, withinCap, priceIs, enough]
    simp only [withinLimit, same, keepWithinCap, ne_eq, reduceCtorEq, not_false_eq_true,
      true_implies]
    by_cases none : type.offerings.filter (withinCap (some maximum)) = []
    · rw [if_pos none, if_neg]
      rintro ⟨offer, mem, within⟩
      exact absurd within (by simpa using filter_eq_nil_iff.mp none offer mem)
    rw [if_neg none, if_pos]
    obtain ⟨offer, mem⟩ := exists_mem_of_ne_nil _ none
    exact ⟨offer, mem_filter.mp mem⟩

theorem considerType_eq {type : InstanceType} (priced : Priced [type]) :
    considerType platform requirements limit type =
      if Qualifies platform requirements limit type then
        some (extend platform (keepWithinCap limit type))
      else none := by
  unfold considerType
  rw [withinLimit_eq priced]
  by_cases large : MeetsMinimums platform requirements type
  · rw [if_pos (largeEnough_iff.mpr large)]
    by_cases within : limit ≠ none → ∃ offer ∈ type.offerings, withinCap limit offer = true
    · rw [if_pos within, if_pos ⟨large, within⟩]
      rfl
    · rw [if_neg within, if_neg fun both => within both.2]
      rfl
  · rw [if_neg fun enough => large (largeEnough_iff.mp enough), if_neg fun both => large both.1]

theorem filterMap_considerType {types : List InstanceType} (priced : Priced types) :
    types.filterMap (considerType platform requirements limit) =
      ((types.filter fun type => Qualifies platform requirements limit type).map
        (keepWithinCap limit)).map (extend platform) := by
  induction types with
  | nil => rfl
  | cons type rest ih =>
    have pricedRest : Priced rest := fun other mem => priced other (mem_cons_of_mem _ mem)
    have pricedOne : Priced [type] := fun other mem =>
      priced other (by rw [mem_singleton.mp mem]; exact mem_cons_self)
    rw [filterMap_cons, considerType_eq pricedOne, ih pricedRest, filter_cons]
    by_cases qualifies : Qualifies platform requirements limit type
    · simp [qualifies]
    · simp [qualifies]

theorem exactlyFiltered_of_ranked {types : List InstanceType} (priced : Priced types)
    {ranked : List ExtendedInstanceType}
    (perm : ranked.Perm (types.filterMap (considerType platform requirements limit)))
    (ordered : ranked.Pairwise fun earlier later =>
      calculateInstanceTypeScore earlier ≤ calculateInstanceTypeScore later) :
    ExactlyFiltered platform requirements limit types
      (ranked.map ExtendedInstanceType.instanceType) := by
  rw [filterMap_considerType priced] at perm
  have extended : ∀ item ∈ ranked, extend platform item.instanceType = item := by
    intro item mem
    obtain ⟨kept, _, rfl⟩ := mem_map.mp (perm.subset mem)
    rfl
  constructor
  · have kept := perm.map ExtendedInstanceType.instanceType
    rw [map_map (l := List.map _ _)] at kept
    exact kept.trans (.of_eq (map_id _))
  rw [pairwise_map]
  refine ordered.imp_of_mem ?_
  intro earlier later first second below
  rwa [extended earlier first, extended later second]

section
variable (sorter : Sorter lowerScore) (types : List ExtendedInstanceType)

include sorter types

theorem rankInstanceTypes_perm : (rankInstanceTypes sorter types).Perm types :=
  sorter.decorated_perm (fun _ => rfl) types

theorem rankInstanceTypes_ordered : (rankInstanceTypes sorter types).Pairwise fun earlier later =>
      calculateInstanceTypeScore earlier ≤ calculateInstanceTypeScore later := by
  refine sorter.decorated_ordered InstanceTypeRanking.score ?_ calculateInstanceTypeScore ?_ types
  · exact fun _ _ => decide_eq_true_iff
  · exact fun _ => rfl

end

theorem filterCatalog_exactOutcome (sorter : Sorter lowerScore) {types : List InstanceType}
    (priced : Priced types) :
    ExactOutcome platform requirements types
      (filterCatalog platform sorter types requirements) := by
  unfold filterCatalog
  cases limited : priceLimit platform requirements with
  | error error =>
    intro limit cap
    rw [priceLimit_eq_ok_iff.mpr cap] at limited
    cases limited
  | ok limit =>
    exact ⟨limit, priceLimit_eq_ok_iff.mp limited, exactlyFiltered_of_ranked priced
      (rankInstanceTypes_perm sorter _) (rankInstanceTypes_ordered sorter _)⟩

/-! ## The same through references -/

variable {memory : Arena InstanceType}

theorem limitOfferingsAt_spec (limit : Option Rat) {ref : Reference} (held : memory.Holds ref) :
    (limitOfferingsAt limit memory ref).1.Extends memory ∧
    (∀ kept, (limitOfferingsAt limit memory ref).2 = some kept →
      (limitOfferingsAt limit memory ref).1.Holds kept) ∧
    (limitOfferingsAt limit memory ref).2.map (limitOfferingsAt limit memory ref).1.read =
      withinLimit limit (memory.read ref) := by
  unfold limitOfferingsAt withinLimit
  cases limit with
  | none =>
    refine ⟨.refl memory, ?_, rfl⟩
    rintro _ ⟨⟩
    exact held
  | some maximum =>
    dsimp only
    by_cases none : (memory.read ref).offerings.filter (cheapEnough maximum) = []
    · rw [if_pos none, if_pos none]
      exact ⟨.refl memory, fun _ no => (nomatch no), rfl⟩
    rw [if_neg none, if_neg none]
    refine ⟨(Arena.Extends.alloc memory _).write Arena.not_holds_alloc _, ?_, ?_⟩
    · rintro _ ⟨⟩
      exact Arena.holds_write.mpr Arena.holds_alloc
    · rw [Option.map_some, Arena.read_write_self Arena.holds_alloc]

structure LeadTo (after before : Arena InstanceType) (references : List ExtendedReference)
    (types : List ExtendedInstanceType) : Prop where
  grown : after.Extends before
  held : ∀ extended ∈ references, after.Holds extended.instanceType
  values : references.map (ExtendedReference.value after) = types

theorem considerTypeAt_leadTo (platform : Platform) (requirements : InstanceTypeRequirements)
    (limit : Option Rat) {ref : Reference} (held : memory.Holds ref) :
    LeadTo (considerTypeAt platform requirements limit memory ref).1 memory
      (considerTypeAt platform requirements limit memory ref).2.toList
      (considerType platform requirements limit (memory.read ref)).toList := by
  unfold considerTypeAt considerType
  split_ifs with large
  · obtain ⟨grown, kept, reads⟩ := limitOfferingsAt_spec limit held
    rw [← reads]
    refine ⟨grown, ?_, ?_⟩
    · intro extended mem
      obtain ⟨own, found, rfl⟩ := Option.map_eq_some_iff.mp (Option.mem_toList.mp mem)
      exact kept own found
    dsimp only
    cases (limitOfferingsAt limit memory ref).2 with
    | none | some own => rfl
  · exact ⟨.refl memory, fun _ no => (nomatch no), rfl⟩

theorem LeadTo.append {first second third : Arena InstanceType}
    {references others : List ExtendedReference} {types more : List ExtendedInstanceType}
    (earlier : LeadTo second first references types) (later : LeadTo third second others more) :
    LeadTo third first (references ++ others) (types ++ more) where
  grown := later.grown.trans earlier.grown
  held extended member := by
    rcases mem_append.mp member with before | after
    · exact later.grown.holds _ (earlier.held extended before)
    · exact later.held extended after
  values := by
    rw [map_append, later.values, ← earlier.values]
    congr 1
    refine map_congr_left fun extended member => ?_
    rw [ExtendedReference.value, later.grown.read _ (earlier.held extended member)]
    rfl

variable {references : List Reference}

theorem filteredAt_leadTo (platform : Platform) (requirements : InstanceTypeRequirements)
    (limit : Option Rat) (held : ∀ ref ∈ references, memory.Holds ref) :
    LeadTo (filteredAt platform requirements limit memory references).1 memory
      (filteredAt platform requirements limit memory references).2
      ((references.map memory.read).filterMap (considerType platform requirements limit)) := by
  induction references generalizing memory with
  | nil => exact ⟨.refl memory, fun _ no => (nomatch no), rfl⟩
  | cons ref rest ih =>
    have heldRest := fun other mem => held other (mem_cons_of_mem ref mem)
    have round := considerTypeAt_leadTo platform requirements limit (held ref mem_cons_self)
    have others := ih fun other mem => round.grown.holds other (heldRest other mem)
    rw [round.grown.map_read heldRest] at others
    have whole := round.append others
    rw [map_cons, filterMap_cons]
    cases considered : considerType platform requirements limit (memory.read ref) with
    | none | some extended =>
      rw [considered] at whole
      exact whole

section
variable (sorter : Sorter lowerReferenceScore)

include sorter

theorem rankInstanceTypesAt_perm (memory : Arena InstanceType) (types : List ExtendedReference) :
    (rankInstanceTypesAt sorter memory types).Perm types :=
  sorter.decorated_perm (fun _ => rfl) types

theorem rankInstanceTypesAt_ordered (types : List ExtendedReference) :
    (rankInstanceTypesAt sorter memory types).Pairwise fun earlier later =>
      calculateInstanceTypeScore (earlier.value memory) ≤
        calculateInstanceTypeScore (later.value memory) := by
  refine sorter.decorated_ordered ReferenceRanking.score ?_
    (fun extended => calculateInstanceTypeScore (extended.value memory)) ?_ types
  · exact fun _ _ => decide_eq_true_iff
  · exact fun _ => rfl

theorem filterCatalogAt_held (held : ∀ reference ∈ references, memory.Holds reference)
    {result : List Reference}
    (out : (filterCatalogAt platform sorter memory references requirements).2 = .ok result) :
    ∀ reference ∈ result,
      (filterCatalogAt platform sorter memory references requirements).1.Holds reference := by
  unfold filterCatalogAt at out ⊢
  cases limited : priceLimit platform requirements with
  | error error =>
    rw [limited] at out
    cases out
  | ok limit =>
    rw [limited] at out
    cases out
    intro reference mem
    obtain ⟨extended, ranked, rfl⟩ := mem_map.mp mem
    exact (filteredAt_leadTo platform requirements limit held).held extended
      ((rankInstanceTypesAt_perm sorter _ _).subset ranked)

variable (held : ∀ ref ∈ references, memory.Holds ref)

include held

theorem filterCatalogAt_extends :
    (filterCatalogAt platform sorter memory references requirements).1.Extends memory := by
  unfold filterCatalogAt
  cases priceLimit platform requirements with
  | error error => exact .refl memory
  | ok limit => exact (filteredAt_leadTo platform requirements limit held).grown

theorem filterCatalogAt_exactOutcome (priced : Priced (references.map memory.read)) :
    ExactOutcome platform requirements (references.map memory.read)
      ((filterCatalogAt platform sorter memory references requirements).2.map
        (List.map (filterCatalogAt platform sorter memory references requirements).1.read)) := by
  unfold filterCatalogAt
  cases limited : priceLimit platform requirements with
  | error error =>
    intro limit cap
    rw [priceLimit_eq_ok_iff.mpr cap] at limited
    cases limited
  | ok limit =>
    have leads := filteredAt_leadTo platform requirements limit held
    dsimp only [Except.map]
    generalize filteredAt platform requirements limit memory references = filtered at leads ⊢
    have perm := (rankInstanceTypesAt_perm sorter filtered.1 filtered.2).map
      (ExtendedReference.value filtered.1)
    rw [leads.values] at perm
    have exactly := exactlyFiltered_of_ranked priced perm
      (pairwise_map.mpr (rankInstanceTypesAt_ordered sorter filtered.2))
    rw [map_map] at exactly
    refine ⟨limit, priceLimit_eq_ok_iff.mp limited, ?_⟩
    rw [map_map]
    exact exactly

end

/-- The filter is exact, and it leaves the types it was given as they are. -/
theorem catalog_filtering_exact (platform : Platform) (requirements : InstanceTypeRequirements)
    (memory : Arena InstanceType) (references : List Reference)
    (held : ∀ reference ∈ references, memory.Holds reference)
    (priced : Priced (references.map memory.read))
    (sorter : Sorter lowerReferenceScore) (valueSorter : Sorter lowerScore) :
    (filterCatalogAt platform sorter memory references requirements).1.Extends memory ∧
    (∀ result, (filterCatalogAt platform sorter memory references requirements).2 = .ok result →
      ∀ reference ∈ result,
        (filterCatalogAt platform sorter memory references requirements).1.Holds reference) ∧
    ExactOutcome platform requirements (references.map memory.read)
      ((filterCatalogAt platform sorter memory references requirements).2.map
        (List.map (filterCatalogAt platform sorter memory references requirements).1.read)) ∧
    ExactOutcome platform requirements (references.map memory.read)
      (filterCatalog platform valueSorter (references.map memory.read) requirements) :=
  ⟨filterCatalogAt_extends sorter held, fun _ => filterCatalogAt_held sorter held,
    filterCatalogAt_exactOutcome sorter held priced,
    filterCatalog_exactOutcome valueSorter priced⟩

end

/-! ## A small type, a large one with a dear offering and a larger one -/

def pricedMemory : Arena InstanceType where
  cells := [pricedType "small" 2 4 [1], pricedType "large" 8 32 [2, 9],
    pricedType "larger" 16 64 [3]]

theorem priced_pricedMemory : Priced ([0, 1, 2].map pricedMemory.read) := by
  intro type mem offer offered
  have priced : ∀ type ∈ [0, 1, 2].map pricedMemory.read, ∀ offer ∈ type.offerings,
      cheapEnough 9 offer = true := by decide
  obtain ⟨price, same, positive, _⟩ := cheapEnough_iff.mp (priced type mem offer offered)
  exact ⟨price, same, positive⟩

theorem catalog_filtering_exact_sample :
    ([0, 1, 2].filter fun reference => Qualifies pricedPlatform pricedRequirements (some 3)
      (pricedMemory.read reference)) = [1, 2] ∧
      ∃ (sorter : Sorter lowerReferenceScore) (after : Arena InstanceType),
        (filterCatalogAt pricedPlatform sorter pricedMemory [0, 1, 2] pricedRequirements).1 =
          after ∧
        after.Extends pricedMemory ∧
        ExactOutcome pricedPlatform pricedRequirements ([0, 1, 2].map pricedMemory.read)
          ((filterCatalogAt pricedPlatform sorter pricedMemory [0, 1, 2] pricedRequirements).2.map
            (List.map after.read)) := by
  have held : ∀ reference ∈ [0, 1, 2], pricedMemory.Holds reference := by decide
  obtain ⟨sorter⟩ := nonempty_sorter lowerReferenceScore
  have exactly := catalog_filtering_exact pricedPlatform pricedRequirements pricedMemory [0, 1, 2]
    held priced_pricedMemory sorter scoreSorter
  exact ⟨by decide, sorter, _, rfl, exactly.1, exactly.2.2.1⟩

end KarpenterIBM.InstanceTypes
